import Conform.Json.Reader
import Conform.Value.Numeric
/-! Values from JSON documents: numbers kept as their text, a repeated key keeping its last value,
and a body holding exactly one value.
-/

namespace Conform

/-- Why a request's input could not be read. -/
inductive InputError where
  /-- The body is not one JSON value: the reading error, or trailing data. -/
  | invalidJson (detail : String)
  | bodyTooLarge
  | unsupportedContentType (contentType : String)
  | readingBody (detail : String)
  | parsingForm (detail : String)
  | parsingMultipartForm (detail : String)
  deriving Repr, DecidableEq

/-- The message of an input error. -/
def InputError.message : InputError → String
  | .invalidJson d => "invalid JSON value: " ++ d
  | .bodyTooLarge => "request body too large"
  | .unsupportedContentType ct => "unsupported content type: " ++ Text.quote ct
  | .readingBody d => "reading request body: " ++ d
  | .parsingForm d => "parsing form: " ++ d
  | .parsingMultipartForm d => "parsing multipart form: " ++ d

namespace Value

/-- The value of a JSON document, numbers kept as their text. -/
def ofJson : JsonValue → Value
  | .null => .null
  | .bool b => .bool b
  | .number s => .number s
  | .string s => .text s
  | .array items => .list (items.attach.map fun ⟨x, _⟩ => ofJson x)
  | .object members =>
    .map (members.attach.foldl (fun acc ⟨(k, x), _⟩ => insertEntry acc k (ofJson x)) [])
termination_by v => v
decreasing_by
  all_goals simp_wf
  all_goals have := List.sizeOf_lt_of_mem ‹_ ∈ _›
  all_goals try simp at this
  all_goals omega

/-- The value of a JSON document with every number read as a float; none when a number is out
of range. -/
def ofJsonFloats : JsonValue → Option Value
  | .null => some .null
  | .bool b => some (.bool b)
  | .number s => (Number.parseFloat? s).map .float
  | .string s => some (.text s)
  | .array items =>
    ((items.attach.map
      (fun ⟨x, _⟩ => ofJsonFloats x : Subtype (· ∈ items) → Option Value)).mapM id).map .list
  | .object members =>
    ((members.attach.map (fun ⟨(k, x), _⟩ => (ofJsonFloats x).map (k, ·)
        : Subtype (· ∈ members) → Option (String × Value))).mapM id).map
      fun (pairs : List (String × Value)) =>
        .map (pairs.foldl (fun acc (k, v) => insertEntry acc k v) [])
termination_by v => v
decreasing_by
  all_goals simp_wf
  all_goals have := List.sizeOf_lt_of_mem ‹_ ∈ _›
  all_goals try simp at this
  all_goals omega

end Value

/-- Decode a body that holds one JSON value. -/
def decodeJson (data : String) : Except InputError Value :=
  match JsonValue.readPrefix data with
  | .error e => .error (.invalidJson e.message)
  | .ok (v, rest) =>
    match JsonValue.skipBlanks rest with
    | [] => .ok (Value.ofJson v)
    | c :: _ =>
      if c == ']' || c == '}' then .ok (Value.ofJson v) else .error (.invalidJson "trailing data")

/-- How many bytes a reader takes to see whether a body is longer than a limit: one more than
the limit, as a signed 64-bit count. Past the largest count it wraps around to a negative one. -/
def pastLimit (limit : Int) : Int :=
  let count := limit + 1
  if count ≥ Int.pow 2 63 then count - Int.pow 2 64 else count

/-- The bytes a reader that stops after `count` bytes takes; a count of zero or less takes
none. -/
def takeCount (count : Int) (bytes : List UInt8) : List UInt8 :=
  if count ≤ 0 then [] else bytes.take count.toNat

end Conform
