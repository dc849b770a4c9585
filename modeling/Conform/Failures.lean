import Conform.Json.Value
/-!
The failures of a validation. A scalar fails with the descriptions of the rules it broke, in
rule order; a record or list fails with its own broken rules and the failures of its failing
children, keyed by field code name or index. A list of messages or a nested node may also be
absent, as a caller may build one. Failures have a JSON form, a flat form that maps dotted
paths to messages, and a one-line text that lists the flat form sorted by path.
-/

namespace Conform

/-- The key under which a structure's own failures appear in the JSON and flat forms. -/
def selfKey : String := "_self"

/-- Failures of a validation. -/
inductive Failures where
  /-- The descriptions of the rules a scalar broke. -/
  | messages (texts : List String)
  /-- An absent list of messages. -/
  | noMessages
  /-- A structure's own broken rules and its children's failures; a child may have none. -/
  | nested (own : List String) (items : List (String × Option Failures))
  /-- An absent nested node. -/
  | noNested
  deriving Inhabited, Repr

namespace Failures

/-- The JSON form: null for an absent result, an array of messages, or an object with the
structure's own failures under `_self` (when there are any) and then each child under its key
in order. Keys may repeat. -/
def toJson : Option Failures → JsonValue
  | none => .null
  | some .noMessages => .null
  | some .noNested => .null
  | some (.messages ms) => .array (ms.map .string)
  | some (.nested own items) =>
    let selfPart := if own.isEmpty then [] else [(selfKey, JsonValue.array (own.map .string))]
    .object (selfPart ++ items.attach.map fun ⟨(k, e), _⟩ => (k, toJson e))
termination_by f => f
decreasing_by
  simp_wf
  rename_i h
  have := List.sizeOf_lt_of_mem h
  simp at this
  omega

/-- Set a path in a flat map; a later setting of a path replaces the earlier one in place. -/
def setPath (out : List (String × Option (List String))) (path : String)
    (ms : Option (List String)) : List (String × Option (List String)) :=
  if out.any (·.1 == path) then out.map fun (p, old) => (p, if p == path then ms else old)
  else out ++ [(path, ms)]

/-- The path of a child under a prefix: the key alone at the root, else joined by a dot. -/
def joinPath (pre key : String) : String := if pre.isEmpty then key else pre ++ "." ++ key

/-- Add the failures under a path prefix to a flat map. -/
def flattenInto (pre : String) (out : List (String × Option (List String))) :
    Failures → List (String × Option (List String))
  | .messages ms => setPath out pre (some ms)
  | .noMessages => setPath out pre none
  | .noNested => out
  | .nested own items =>
    let out := if own.isEmpty then out else setPath out (joinPath pre selfKey) (some own)
    items.attach.foldl (fun acc ⟨(k, e), h⟩ =>
      match e, h with
      | some f, h =>
        have := List.sizeOf_lt_of_mem h
        flattenInto (joinPath pre k) acc f
      | none, _ => acc) out
termination_by f => f
decreasing_by
  simp_wf
  simp at this
  omega

/-- The flat form: each dotted path with its messages (none for an absent list). A scalar's
messages are under the empty path, a structure's own failures under `_self` after its path. -/
def flatten : Option Failures → List (String × Option (List String))
  | none => []
  | some f => flattenInto "" [] f

/-- Sort texts by their bytes. -/
def sortTexts (xs : List String) : List String := xs.mergeSort fun a b => decide (a ≤ b)

/-- The text of failures: `validation failed: ` and the flat entries sorted by path, each as
`path: m1, m2` (the empty path as the messages alone), joined by `; `. -/
def text (f : Failures) : String :=
  let flat := flatten (some f)
  let parts := (sortTexts (flat.map (·.1))).map fun p =>
    let ms := ((flat.find? (·.1 == p)).bind (·.2)).getD []
    let joined := ", ".intercalate ms
    if p.isEmpty then joined else p ++ ": " ++ joined
  "validation failed: " ++ "; ".intercalate parts

/-- The keys of a nested node's children, in order, repeats kept. -/
def keys : Failures → Option (List String)
  | .nested _ items => some (items.map (·.1))
  | _ => none

/-- The failures of the first child of a nested node under a key. -/
def get (f : Failures) (key : String) : Option Failures :=
  match f with
  | .nested _ items => ((items.find? (·.1 == key)).map (·.2)).join
  | _ => none

end Failures

end Conform
