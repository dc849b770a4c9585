import Conform.Input.MediaType
/-!
Form values from a query text: pairs `key=value` separated by `&`, each side with `+` for a
space and `%` with two hex digits for a byte. A pair holding a semicolon is refused and
skipped, as is a pair whose escapes are malformed; empty pairs are skipped. Reading goes on
past a refused pair, so the values are those of the good pairs, and the error reported is the
semicolon one when there was a semicolon, else the first malformed escape.
-/

namespace Conform.Input

open Conform.Text

/-- Why a query could not be read. -/
inductive QueryError where
  /-- A `%` not followed by two hex digits: the `%` and up to two bytes after it. -/
  | badEscape (bytes : List UInt8)
  | semicolon
  deriving Repr, DecidableEq

/-- The message of a query error. -/
def QueryError.message : QueryError → String
  | .badEscape bytes => "invalid URL escape " ++ quoteBytes bytes
  | .semicolon => "invalid semicolon separator in query"

/-- Decode one side of a pair: `+` is a space and `%` with two hex digits a byte. -/
def unescapeComponent : List UInt8 → Except QueryError (List UInt8)
  | [] => .ok []
  | 37 :: rest =>
    match rest with
    | h :: l :: after =>
      if isHexByte h && isHexByte l then
        (unescapeComponent after).map (((hexByteValue h * 16 + hexByteValue l).toUInt8) :: ·)
      else .error (.badEscape [37, h, l])
    | _ => .error (.badEscape (37 :: rest))
  | 43 :: rest => (unescapeComponent rest).map (32 :: ·)
  | b :: rest => (unescapeComponent rest).map (b :: ·)

/-- Split bytes at every occurrence of one byte. -/
def splitBytes (sep : UInt8) (bytes : List UInt8) : List (List UInt8) :=
  let (last, done) := bytes.foldl (fun (cur, done) b =>
    if b == sep then ([], cur.reverse :: done) else (b :: cur, done)) ([], [])
  (last.reverse :: done).reverse

/-- The pairs of a query in order, and the error of the pairs that were refused. -/
def readQuery (query : String) : List (String × String) × Option QueryError :=
  (splitBytes 38 query.toUTF8.toList).foldl (fun (pairs, err) piece =>
    if piece.contains 59 then (pairs, some .semicolon)
    else if piece.isEmpty then (pairs, err)
    else
      let key := piece.takeWhile (· != 61)
      let value := (piece.dropWhile (· != 61)).drop 1
      match unescapeComponent key, unescapeComponent value with
      | .ok k, .ok v => (pairs ++ [(utf8Lossy k, utf8Lossy v)], err)
      | .error e, _ | .ok _, .error e => (pairs, err.or (some e))) ([], none)

end Conform.Input
