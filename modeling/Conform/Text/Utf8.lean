import Conform.Text.Quoted
/-!
Text from raw bytes. Bytes are read as UTF-8 one character at a time; a byte that does not
begin a well-formed, shortest-form encoding of a scalar value is one malformed byte, and reading
goes on at the next byte. Lossy text puts a replacement character for each malformed byte;
quoted bytes show it as a `\x` escape.
-/

namespace Conform.Text

/-- Whether a byte continues a multi-byte encoding. -/
def isContinuation (b : UInt8) : Bool := b &&& 0xC0 == 0x80

/-- The character at the front of some bytes and the bytes after it, or none with the bytes
after the first when it is malformed. -/
def decodeStep (b : UInt8) (rest : List UInt8) : Option Char × List UInt8 :=
  let n := b.toNat
  if n < 0x80 then (some (Char.ofNat n), rest)
  else
    match rest with
    | b1 :: r1 =>
      if 0xC2 ≤ n && n < 0xE0 && isContinuation b1 then
        (some (Char.ofNat ((n % 32) * 64 + b1.toNat % 64)), r1)
      else
        match r1 with
        | b2 :: r2 =>
          let v := (n % 16) * 4096 + (b1.toNat % 64) * 64 + b2.toNat % 64
          if 0xE0 ≤ n && n < 0xF0 && isContinuation b1 && isContinuation b2 && v ≥ 0x800 &&
              (v < 0xD800 || v > 0xDFFF) then (some (Char.ofNat v), r2)
          else
            match r2 with
            | b3 :: r3 =>
              let w := (n % 8) * 262144 + (b1.toNat % 64) * 4096 + (b2.toNat % 64) * 64 +
                b3.toNat % 64
              if 0xF0 ≤ n && n < 0xF5 && isContinuation b1 && isContinuation b2 &&
                  isContinuation b3 && w ≥ 0x10000 && w ≤ 0x10FFFF then (some (Char.ofNat w), r3)
              else (none, rest)
            | [] => (none, rest)
        | [] => (none, rest)
    | [] => (none, rest)

/-- The characters of some bytes, each malformed byte given as itself. -/
def decodeBytes (bytes : List UInt8) : List (Char ⊕ UInt8) :=
  go bytes.length bytes
where
  go : Nat → List UInt8 → List (Char ⊕ UInt8)
    | 0, _ => []
    | _ + 1, [] => []
    | fuel + 1, b :: rest =>
      match decodeStep b rest with
      | (some c, after) => .inl c :: go fuel after
      | (none, after) => .inr b :: go fuel after

/-- Text from UTF-8 bytes; each malformed byte becomes a replacement character. -/
def utf8Lossy (bytes : List UInt8) : String :=
  String.ofList ((decodeBytes bytes).map fun
    | .inl c => c
    | .inr _ => '\uFFFD')

/-- Bytes in double quotes as `quote` shows text, with `\x` and two hex digits for each
malformed byte. -/
def quoteBytes (bytes : List UInt8) : String :=
  "\"" ++ String.join ((decodeBytes bytes).map fun
    | .inl c => quoteInner '"' c
    | .inr b => "\\x" ++ hexDigits 2 b.toNat) ++ "\""

end Conform.Text
