import Mathlib
import Conform.Proofs.JsonText
import Conform.Input.Json
/-! A JSON body is read as its one value followed by blanks and the end, or by a closing bracket or
brace and any text at all, which the reader takes as the end of the value.
-/

namespace Conform.JsonValue

/-- Blanks in front of a text are skipped. -/
theorem skipBlanks_blanks_append {pre : List Char} (blank : ∀ c ∈ pre, isBlank c = true)
    (cs : List Char) : skipBlanks (pre ++ cs) = skipBlanks cs := by
  induction pre with
  | nil => rfl
  | cons c rest ih =>
    have first : isBlank c = true := blank c List.mem_cons_self
    simp only [List.cons_append, skipBlanks, List.dropWhile_cons, first] at ih ⊢
    exact ih fun d member => blank d (List.mem_cons_of_mem c member)

/-- A text that starts with no blank has none to skip. -/
theorem skipBlanks_of_solid {cs : List Char} (solid : ∀ c ∈ cs.head?, isBlank c = false)
    : skipBlanks cs = cs := by
  cases cs with
  | nil => rfl
  | cons c rest =>
    have first : isBlank c = false := solid c rfl
    simp [skipBlanks, first]

/-- Reading a value starts at its first character that is not a blank. -/
theorem readValue_skipBlanks (depth fuel : Nat) (cs : List Char)
    : readValue depth (fuel + 1) cs = readValue depth (fuel + 1) (skipBlanks cs) := by
  have again : skipBlanks (skipBlanks cs) = skipBlanks cs := by
    simp only [skipBlanks, List.dropWhile_idempotent]
  rw [readValue, readValue, again]

/-- The text of a number-free document that the reader can nest, with blanks before it, is read
as the document, with the rest of the text after it. -/
theorem readPrefix_blanks_write (style : JsonStyle) {v : JsonValue} (free : v.numberFree)
    (deep : v.nesting ≤ maxDepth) {pre : List Char} (blank : ∀ c ∈ pre, isBlank c = true)
    (rest : List Char)
    : readPrefix (String.ofList (pre ++ (write style v).toList ++ rest)) = .ok (v, rest) := by
  obtain ⟨t, head⟩ := write_opening style free
  have front : skipBlanks (pre ++ (write style v).toList ++ rest)
      = (write style v).toList ++ rest := by
    rw [List.append_assoc, skipBlanks_blanks_append blank, skipBlanks_write style free]
  have whole := readValue_write style v 0
    ((pre ++ (write style v).toList ++ rest).length + 1) rest free (by omega)
    (by simp only [List.length_append]; omega)
  unfold readPrefix
  simp only [String.toList_ofList]
  rw [front]
  split
  · rename_i nothing
    rw [head] at nothing
    cases nothing
  · rw [readValue_skipBlanks, front]
    exact whole

end Conform.JsonValue

namespace Conform

open JsonValue

/-- A body that is the text of a number-free document the reader can nest, between blanks and
before a tail that starts with no blank, is taken as the document when the tail is empty or
starts with a closing bracket or brace, and refused as trailing data when it starts with any
other character. By `readPrefix_blanks_write`, then the first character of the tail. -/
theorem decodeJson_after_value (style : JsonStyle) (v : JsonValue) (free : v.numberFree)
    (deep : v.nesting ≤ maxDepth) (pre post : List Char)
    (blank : ∀ c ∈ pre ++ post, isBlank c = true) (tail : List Char)
    (solid : ∀ c ∈ tail.head?, isBlank c = false)
    : (tail = [] →
        decodeJson (String.ofList (pre ++ (write style v).toList ++ post ++ tail))
          = .ok (Value.ofJson v))
      ∧ (∀ c more, tail = c :: more → (c = ']' ∨ c = '}') →
        decodeJson (String.ofList (pre ++ (write style v).toList ++ post ++ tail))
          = .ok (Value.ofJson v))
      ∧ (∀ c more, tail = c :: more → c ≠ ']' → c ≠ '}' →
        decodeJson (String.ofList (pre ++ (write style v).toList ++ post ++ tail))
          = .error (.invalidJson "trailing data")) := by
  have read : readPrefix (String.ofList (pre ++ (write style v).toList ++ post ++ tail))
      = .ok (v, post ++ tail) := by
    rw [List.append_assoc _ post]
    exact readPrefix_blanks_write style free deep
      (fun c member => blank c (List.mem_append_left post member)) (post ++ tail)
  have after : skipBlanks (post ++ tail) = tail := by
    rw [skipBlanks_blanks_append (fun c member => blank c (List.mem_append_right pre member)),
      skipBlanks_of_solid solid]
  refine ⟨fun ends => ?_, fun c more starts closing => ?_, fun c more starts open_ close => ?_⟩
  · subst ends
    simp only [decodeJson, read, after]
  · subst starts
    have closes : (c == ']' || c == '}') = true := by
      rcases closing with rfl | rfl <;> rfl
    simp only [decodeJson, read, after, closes, if_true]
  · subst starts
    have other : (c == ']' || c == '}') = false := by
      simp [open_, close]
    simp only [decodeJson, read, after, other, Bool.false_eq_true, if_false]

/-- An empty object followed by a stray closing brace is accepted as the empty object. -/
theorem emptyObject_strayBrace_accepted : decodeJson "\x7b\x7d\x7d" = .ok (.map []) := by
  have accepted := (decodeJson_after_value JsonStyle.plain (.object []) rfl
    (by simp [nesting, membersNesting, maxDepth]) [] [] (by simp) ['}'] (by simp [isBlank])).2.1
    '}' [] rfl (.inr rfl)
  have text : String.ofList ([] ++ (write JsonStyle.plain (.object [])).toList ++ [] ++ ['}'])
      = "\x7b\x7d\x7d" := by
    decide
  rw [text] at accepted
  simpa [Value.ofJson] using accepted

end Conform
