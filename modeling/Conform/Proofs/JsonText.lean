import Mathlib
import Conform.Json.Reader
import Conform.Json.Writer
/-! Every document without numbers is written as text that the reader takes back whole, and no two
such documents are written alike.
-/

namespace Conform.JsonValue

mutual

/-- Whether a document has no number in it. -/
def numberFree : JsonValue → Bool
  | .number _ => false
  | .array items => itemsNumberFree items
  | .object members => membersNumberFree members
  | _ => true

/-- Whether no item of an array has a number in it. -/
def itemsNumberFree : List JsonValue → Bool
  | [] => true
  | v :: rest => numberFree v && itemsNumberFree rest

/-- Whether no member of an object has a number in it. -/
def membersNumberFree : List (String × JsonValue) → Bool
  | [] => true
  | (_, v) :: rest => numberFree v && membersNumberFree rest

end

mutual

/-- How many arrays and objects a document has open at once at its deepest. -/
def nesting : JsonValue → Nat
  | .array items => itemsNesting items + 1
  | .object members => membersNesting members + 1
  | _ => 0

/-- The deepest nesting among the items of an array. -/
def itemsNesting : List JsonValue → Nat
  | [] => 0
  | v :: rest => max (nesting v) (itemsNesting rest)

/-- The deepest nesting among the members of an object. -/
def membersNesting : List (String × JsonValue) → Nat
  | [] => 0
  | (_, v) :: rest => max (nesting v) (membersNesting rest)

end

example : nesting (.array [.null, .object [("a", .array [])]]) = 3 := by decide

-----------------------------------------------------------------------------------------
-- Strings read back through their escapes
-----------------------------------------------------------------------------------------

/-- Each hex digit the writer makes reads back as its value. -/
theorem hexValue_hexDigit : ∀ k < 16, hexValue? (Text.hexDigit k) = some k := by decide

/-- Below the surrogates, a `\u` escape stands for the character with its number. -/
theorem unitChar_of_lt {n : Nat} (h : n < 0xD800) : unitChar n = Char.ofNat n := by
  have plain : isSurrogate n = false := by
    simp [isSurrogate]
    omega
  simp [unitChar, plain]

/-- Two zeros and two hex digits read back as the number below 256 they were written for. -/
theorem readUnicodeEscape_two (n : Nat) (small : n < 0x100) (rest : List Char)
    : readUnicodeEscape (('0' :: '0' :: (Text.hexDigits 2 n).toList) ++ rest)
      = .ok (Char.ofNat n, 4) := by
  have hi := hexValue_hexDigit (n / 16 % 16) (by omega)
  have lo := hexValue_hexDigit (n % 16) (by omega)
  have zero : hexValue? '0' = some 0 := by decide
  have value : n / 16 % 16 * 16 + n % 16 = n := by omega
  simp [readUnicodeEscape, Text.hexDigits, hex4?, hi, lo, zero, List.range_succ, value,
    unitChar_of_lt (show n < 0xD800 by omega)]
  omega

/-- Four hex digits read back as the number below the surrogates they were written for. -/
theorem readUnicodeEscape_four (n : Nat) (small : n < 0xD800) (rest : List Char)
    : readUnicodeEscape ((Text.hexDigits 4 n).toList ++ rest) = .ok (Char.ofNat n, 4) := by
  have d3 := hexValue_hexDigit (n / 4096 % 16) (by omega)
  have d2 := hexValue_hexDigit (n / 256 % 16) (by omega)
  have d1 := hexValue_hexDigit (n / 16 % 16) (by omega)
  have d0 := hexValue_hexDigit (n % 16) (by omega)
  have value : ((n / 4096 % 16 * 16 + n / 256 % 16) * 16 + n / 16 % 16) * 16 + n % 16 = n := by
    omega
  simp [readUnicodeEscape, Text.hexDigits, hex4?, d3, d2, d1, d0, List.range_succ, value,
    unitChar_of_lt small]
  omega

/-- A `\u` escape of four characters is read as the character they give. -/
theorem readStringBody_unicode {c : Char} {digits : List Char} (acc rest : List Char)
    (len : digits.length = 4) (read : readUnicodeEscape (digits ++ rest) = .ok (c, 4))
    : readStringBody acc ('\\' :: 'u' :: (digits ++ rest)) = readStringBody (c :: acc) rest := by
  have after : (digits ++ rest).drop 4 = rest := by
    rw [← len, List.drop_left]
  rw [readStringBody]
  simp [read, after]

/-- The `\u00XX` escape of a character below 256 reads back as that character. -/
theorem readStringBody_escape_two {c : Char} (acc rest : List Char) (small : c.toNat < 0x100)
    : readStringBody acc (("\\u00" ++ Text.hexDigits 2 c.toNat).toList ++ rest)
      = readStringBody (c :: acc) rest := by
  have read := readUnicodeEscape_two c.toNat small rest
  rw [Char.ofNat_toNat] at read
  have shape : ("\\u00" ++ Text.hexDigits 2 c.toNat).toList ++ rest
      = '\\' :: 'u' :: (('0' :: '0' :: (Text.hexDigits 2 c.toNat).toList) ++ rest) := by
    simp
  rw [shape]
  exact readStringBody_unicode acc rest (by simp [Text.hexDigits]) read

/-- The `\uXXXX` escape of a character below the surrogates reads back as that character. -/
theorem readStringBody_escape_four {c : Char} (acc rest : List Char) (small : c.toNat < 0xD800)
    : readStringBody acc (("\\u" ++ Text.hexDigits 4 c.toNat).toList ++ rest)
      = readStringBody (c :: acc) rest := by
  have read := readUnicodeEscape_four c.toNat small rest
  rw [Char.ofNat_toNat] at read
  have shape : ("\\u" ++ Text.hexDigits 4 c.toNat).toList ++ rest
      = '\\' :: 'u' :: ((Text.hexDigits 4 c.toNat).toList ++ rest) := by
    simp
  rw [shape]
  exact readStringBody_unicode acc rest (by simp [Text.hexDigits]) read

/-- Every character, as either style writes it inside a string, reads back as itself: by the
cases of the escape, the short escapes by one step of the reader, the `\u` escapes by their
digits, and a character written as itself because it is neither a quote, a backslash nor a
control. -/
theorem readStringBody_escapeChar (style : JsonStyle) (c : Char) (acc rest : List Char)
    : readStringBody acc ((escapeChar style c).toList ++ rest) = readStringBody (c :: acc) rest := by
  unfold escapeChar
  split
  -- the quote, the backslash and the five short escapes
  all_goals try (simp [readStringBody]; done)
  rename_i quote backslash _ _ _ _ _
  split
  next control =>
    exact readStringBody_escape_two acc rest (by omega)
  split
  next markup =>
    have small : c.toNat < 0x100 := by
      simp only [Bool.and_eq_true, Bool.or_eq_true, beq_iff_eq] at markup
      rcases markup.2 with (same | same) | same <;> simp [same]
    exact readStringBody_escape_two acc rest small
  split
  next separator =>
    have small : c.toNat < 0xD800 := by
      simp only [Bool.and_eq_true, Bool.or_eq_true, beq_iff_eq] at separator
      rcases separator.2 with same | same <;> simp [same]
    exact readStringBody_escape_four acc rest small
  next low _ _ =>
    rw [readStringBody.eq_def]
    simp [low]

/-- An escaped string followed by a quote reads back as the string, leaving what follows the
quote, by induction on the string. -/
theorem readStringBody_escaped (style : JsonStyle) (s acc rest : List Char)
    : readStringBody acc ((s.flatMap fun c => (escapeChar style c).toList) ++ '"' :: rest)
      = .ok (String.ofList (acc.reverse ++ s), rest) := by
  induction s generalizing acc with
  | nil => simp [readStringBody]
  | cons c s ih =>
      rw [List.flatMap_cons, List.append_assoc, readStringBody_escapeChar, ih]
      simp

/-- A quoted string is its escaped characters between two quotes. -/
theorem quoteString_toList (style : JsonStyle) (s : String)
    : (quoteString style s).toList
      = '"' :: (s.toList.flatMap fun c => (escapeChar style c).toList) ++ ['"'] := by
  simp [quoteString, List.flatMap_map]

/-- Two quoted strings at the front of two texts are the same string followed by the same text,
by reading both strings back. -/
theorem quoteString_unique (style : JsonStyle) {s t : String} {r r' : List Char}
    (same : (quoteString style s).toList ++ r = (quoteString style t).toList ++ r')
    : s = t ∧ r = r' := by
  simp only [quoteString_toList, List.cons_append, List.cons.injEq, true_and,
    List.append_assoc] at same
  have read := congrArg (readStringBody []) same
  simp only [readStringBody_escaped] at read
  simp at read
  exact read

-----------------------------------------------------------------------------------------
-- First characters
-----------------------------------------------------------------------------------------

/-- The character a number-free document's text starts with. -/
def opening : JsonValue → Char
  | .null => 'n'
  | .bool true => 't'
  | .bool false => 'f'
  | .number _ => '0'
  | .string _ => '"'
  | .array _ => '['
  | .object _ => '{'

/-- A number-free document's text starts with its opening character. -/
theorem write_opening (style : JsonStyle) {v : JsonValue} (free : v.numberFree)
    : ∃ t, (write style v).toList = v.opening :: t := by
  cases v with
  | number => simp [numberFree] at free
  | bool b => cases b <;> simp [write, opening]
  | _ => simp [write, opening, quoteString]

/-- No opening character is a blank or closes an array or an object. -/
theorem opening_solid (v : JsonValue)
    : isBlank v.opening = false ∧ v.opening ≠ ']' ∧ v.opening ≠ '}' := by
  rcases v with _ | ⟨_ | _⟩ | _ | _ | _ | _ <;> simp [opening, isBlank]

/-- The items of a nonempty array start with the opening character of the first. -/
theorem writeItems_opening (style : JsonStyle) {v : JsonValue} {rest : List JsonValue}
    (free : itemsNumberFree (v :: rest))
    : ∃ t, (writeItems style (v :: rest)).toList = v.opening :: t := by
  rw [itemsNumberFree, Bool.and_eq_true] at free
  obtain ⟨t, head⟩ := write_opening style free.1
  cases rest with
  | nil => exact ⟨t, by simp [writeItems, head]⟩
  | cons w rest => exact ⟨t ++ ',' :: (writeItems style (w :: rest)).toList, by simp [writeItems, head]⟩

/-- The members of a nonempty object start with the quote of the first key. -/
theorem writeMembers_opening (style : JsonStyle) (k : String) (v : JsonValue)
    (rest : List (String × JsonValue))
    : ∃ t, (writeMembers style ((k, v) :: rest)).toList = '"' :: t := by
  cases rest with
  | nil => exact ⟨_, by simp [writeMembers, quoteString_toList]; rfl⟩
  | cons m rest => exact ⟨_, by simp [writeMembers, quoteString_toList]; rfl⟩

/-- A number-free document's text starts with no blank. -/
theorem skipBlanks_write (style : JsonStyle) {v : JsonValue} (free : v.numberFree)
    (r : List Char) : skipBlanks ((write style v).toList ++ r) = (write style v).toList ++ r := by
  obtain ⟨t, head⟩ := write_opening style free
  rw [head]
  simp [skipBlanks, (opening_solid v).1]

/-- A number-free document's text never starts with a closing bracket or brace. -/
theorem write_ne_closing (style : JsonStyle) {v : JsonValue} (free : v.numberFree)
    {c : Char} (closing : c = ']' ∨ c = '}') (x r : List Char)
    : (write style v).toList ++ x ≠ c :: r := by
  obtain ⟨t, head⟩ := write_opening style free
  rw [head]
  intro same
  have first := (List.cons.inj same).1
  rcases closing with rfl | rfl
  · exact (opening_solid v).2.1 first
  · exact (opening_solid v).2.2 first

/-- Only `null` opens with `n`. -/
theorem null_of_opening {w : JsonValue} (h : w.opening = 'n') : w = .null := by
  rcases w with _ | ⟨_ | _⟩ | _ | _ | _ | _ <;> simp [opening] at h ⊢

/-- Each truth value opens with its own letter. -/
theorem bool_of_opening {w : JsonValue} {b : Bool} (h : w.opening = (JsonValue.bool b).opening)
    : w = .bool b := by
  rcases w with _ | ⟨_ | _⟩ | _ | _ | _ | _ <;> cases b <;> simp [opening] at h ⊢

/-- Only strings open with a quote. -/
theorem string_of_opening {w : JsonValue} (h : w.opening = '"') : ∃ s, w = .string s := by
  rcases w with _ | ⟨_ | _⟩ | _ | _ | _ | _ <;> simp [opening] at h ⊢

/-- Only arrays open with a bracket. -/
theorem array_of_opening {w : JsonValue} (h : w.opening = '[') : ∃ items, w = .array items := by
  rcases w with _ | ⟨_ | _⟩ | _ | _ | _ | _ <;> simp [opening] at h ⊢

/-- Only objects open with a brace. -/
theorem object_of_opening {w : JsonValue} (h : w.opening = '{')
    : ∃ members, w = .object members := by
  rcases w with _ | ⟨_ | _⟩ | _ | _ | _ | _ <;> simp [opening] at h ⊢

-----------------------------------------------------------------------------------------
-- Reading back what is written
-----------------------------------------------------------------------------------------

/-- An array whose text goes on with something other than a blank or its closing bracket is
read by its elements, if there is room for one more level. -/
theorem readValue_open_array (depth fuel : Nat) (cs : List Char)
    (starts : ∃ c t, cs = c :: t ∧ c ≠ ']' ∧ isBlank c = false)
    : readValue depth (fuel + 1) ('[' :: cs)
      = if maxDepth ≤ depth then .error .tooDeep else readElements (depth + 1) fuel [] cs := by
  obtain ⟨c, cs, rfl, open_, solid⟩ := starts
  have inner : skipBlanks (c :: cs) = c :: cs := by simp [skipBlanks, solid]
  have outer : skipBlanks ('[' :: c :: cs) = '[' :: c :: cs := by simp [skipBlanks, isBlank]
  rw [readValue, outer]
  simp only [inner]
  split
  · rfl
  · split
    · rename_i h
      simp at h
      exact absurd h.1 open_
    · rfl

/-- An object whose text goes on with a key is read by its members, if there is room for one
more level. -/
theorem readValue_open_object (depth fuel : Nat) (cs : List Char) (starts : ∃ t, cs = '"' :: t)
    : readValue depth (fuel + 1) ('{' :: cs)
      = if maxDepth ≤ depth then .error .tooDeep else readMembers (depth + 1) fuel [] cs := by
  obtain ⟨t, rfl⟩ := starts
  rw [readValue]
  simp [skipBlanks, isBlank]

mutual

/-- A number-free document that fits in the levels left is read back from its text, whatever
follows it, with one step of fuel for each character. By recursion on the document: literals
and strings are read in one step, arrays and objects by their items and members. -/
theorem readValue_write (style : JsonStyle) : ∀ (v : JsonValue) (depth fuel : Nat) (r : List Char),
    v.numberFree → depth + v.nesting ≤ maxDepth → (write style v).toList.length < fuel →
    readValue depth fuel ((write style v).toList ++ r) = .ok (v, r) := by
  intro v depth fuel r free deep short
  obtain ⟨fuel, rfl⟩ : ∃ f, fuel = f + 1 := ⟨fuel - 1, by omega⟩
  cases v with
  | null =>
    rw [readValue]
    simp [write, skipBlanks, isBlank, readLiteral]
  | bool b =>
    cases b <;> rw [readValue] <;> simp [write, skipBlanks, isBlank, readLiteral]
  | number => simp [numberFree] at free
  | string s =>
    rw [readValue]
    simp [write, quoteString_toList, skipBlanks, isBlank, readStringBody_escaped]
  | array items =>
    rw [nesting] at deep
    cases items with
    | nil =>
      rw [readValue]
      simp [write, skipBlanks, isBlank, writeItems]
      omega
    | cons v rest =>
      have freeItems : itemsNumberFree (v :: rest) := by simpa [numberFree] using free
      obtain ⟨t, head⟩ := writeItems_opening style freeItems
      have text : (write style (.array (v :: rest))).toList ++ r
          = '[' :: ((writeItems style (v :: rest)).toList ++ ']' :: r) := by
        simp [write]
      have starts : ∃ c t', (writeItems style (v :: rest)).toList ++ ']' :: r = c :: t'
          ∧ c ≠ ']' ∧ isBlank c = false :=
        ⟨v.opening, t ++ ']' :: r, by rw [head]; rfl, (opening_solid v).2.1, (opening_solid v).1⟩
      rw [text, readValue_open_array _ _ _ starts, if_neg (by omega)]
      have items := readElements_writeItems style (v :: rest) (depth + 1) fuel [] r (by simp)
        freeItems (by omega) (by simp [write] at short; omega)
      simpa using items
  | object members =>
    rw [nesting] at deep
    rcases members with _ | ⟨⟨k, v⟩, rest⟩
    · rw [readValue]
      simp [write, skipBlanks, isBlank, writeMembers]
      omega
    · obtain ⟨t, head⟩ := writeMembers_opening style k v rest
      have text : (write style (.object ((k, v) :: rest))).toList ++ r
          = '{' :: ((writeMembers style ((k, v) :: rest)).toList ++ '}' :: r) := by
        simp [write]
      rw [text, readValue_open_object _ _ _ ⟨t ++ '}' :: r, by rw [head]; rfl⟩, if_neg (by omega)]
      have members := readMembers_writeMembers style ((k, v) :: rest) (depth + 1) fuel [] r
        (by simp) (by simpa [numberFree] using free) (by omega) (by simp [write] at short; omega)
      simpa using members

/-- The items of a nonempty array are read back from their text up to the closing bracket,
after those read before them, by recursion on the items. -/
theorem readElements_writeItems (style : JsonStyle) : ∀ (items : List JsonValue)
    (depth fuel : Nat) (acc : List JsonValue) (r : List Char), items ≠ [] →
    itemsNumberFree items → depth + itemsNesting items ≤ maxDepth →
    (writeItems style items).toList.length + 1 < fuel →
    readElements depth fuel acc ((writeItems style items).toList ++ ']' :: r)
      = .ok (.array (acc.reverse ++ items), r) := by
  intro items depth fuel acc r nonempty free deep short
  obtain ⟨fuel, rfl⟩ : ∃ f, fuel = f + 1 := ⟨fuel - 1, by omega⟩
  rcases items with _ | ⟨v, _ | ⟨w, rest⟩⟩
  · exact absurd rfl nonempty
  · -- the last item, then the closing bracket
    rw [itemsNumberFree, Bool.and_eq_true] at free
    rw [itemsNesting] at deep
    simp only [writeItems] at short ⊢
    have value := readValue_write style v depth fuel (']' :: r) free.1 (by omega) (by omega)
    rw [readElements]
    simp [value, skipBlanks, isBlank, bind, Except.bind]
    rfl
  · -- an item, then a comma and the items after it
    rw [itemsNumberFree, Bool.and_eq_true] at free
    rw [itemsNesting] at deep
    have later := readElements_writeItems style (w :: rest) depth fuel (v :: acc) r (by simp)
      free.2 (by omega) (by simp [writeItems] at short; omega)
    have value := readValue_write style v depth fuel
      (',' :: ((writeItems style (w :: rest)).toList ++ ']' :: r)) free.1 (by omega)
      (by simp [writeItems] at short; omega)
    rw [readElements]
    simp [writeItems, value, skipBlanks, isBlank, later, bind, Except.bind]

/-- The members of a nonempty object are read back from their text up to the closing brace,
after those read before them, by recursion on the members. -/
theorem readMembers_writeMembers (style : JsonStyle) : ∀ (members : List (String × JsonValue))
    (depth fuel : Nat) (acc : List (String × JsonValue)) (r : List Char), members ≠ [] →
    membersNumberFree members → depth + membersNesting members ≤ maxDepth →
    (writeMembers style members).toList.length + 1 < fuel →
    readMembers depth fuel acc ((writeMembers style members).toList ++ '}' :: r)
      = .ok (.object (acc.reverse ++ members), r) := by
  intro members depth fuel acc r nonempty free deep short
  obtain ⟨fuel, rfl⟩ : ∃ f, fuel = f + 1 := ⟨fuel - 1, by omega⟩
  rcases members with _ | ⟨⟨k, v⟩, _ | ⟨⟨k', v'⟩, rest⟩⟩
  · exact absurd rfl nonempty
  · -- the last member, then the closing brace
    rw [membersNumberFree, Bool.and_eq_true] at free
    rw [membersNesting] at deep
    simp only [writeMembers] at short
    have value := readValue_write style v depth fuel ('}' :: r) free.1 (by omega)
      (by simp at short; omega)
    have text : (writeMembers style [(k, v)]).toList ++ '}' :: r
        = '"' :: ((k.toList.flatMap fun c => (escapeChar style c).toList) ++ '"' :: ':' ::
          ((write style v).toList ++ '}' :: r)) := by
      simp [writeMembers, quoteString_toList]
    rw [text, readMembers]
    simp [readStringBody_escaped, value, skipBlanks, isBlank, bind, Except.bind]
    rfl
  · -- a member, then a comma and the members after it, which open with a key
    rw [membersNumberFree, Bool.and_eq_true] at free
    rw [membersNesting] at deep
    obtain ⟨t, head⟩ := writeMembers_opening style k' v' rest
    have later := readMembers_writeMembers style ((k', v') :: rest) depth fuel ((k, v) :: acc) r
      (by simp) free.2 (by omega) (by simp [writeMembers] at short; omega)
    have value := readValue_write style v depth fuel
      (',' :: ((writeMembers style ((k', v') :: rest)).toList ++ '}' :: r)) free.1 (by omega)
      (by simp [writeMembers] at short; omega)
    simp only [head, List.cons_append] at later value
    have text : (writeMembers style ((k, v) :: (k', v') :: rest)).toList ++ '}' :: r
        = '"' :: ((k.toList.flatMap fun c => (escapeChar style c).toList) ++ '"' :: ':' ::
          ((write style v).toList ++ ',' :: ('"' :: t ++ '}' :: r))) := by
      simp [writeMembers, quoteString_toList, head]
    rw [text, readMembers]
    simp [readStringBody_escaped, value, skipBlanks, isBlank, bind, Except.bind, later]

end

/-- The text of a number-free document that nests no deeper than the reader allows is read
back as the document, with nothing after it. -/
theorem readPrefix_write (style : JsonStyle) {v : JsonValue} (free : v.numberFree)
    (deep : v.nesting ≤ maxDepth) : readPrefix (write style v) = .ok (v, []) := by
  obtain ⟨t, head⟩ := write_opening style free
  have whole := readValue_write style v 0 ((write style v).toList.length + 1) [] free
    (by omega) (by omega)
  have skip : skipBlanks (v.opening :: t) = v.opening :: t := by
    simp [skipBlanks, (opening_solid v).1]
  rw [List.append_nil, head] at whole
  unfold readPrefix
  rw [head]
  simp only [skip]
  exact whole

-----------------------------------------------------------------------------------------
-- One text for each document
-----------------------------------------------------------------------------------------

/-- The items of a nonempty array closed by a bracket: the first item, then the bracket or a
comma and the other items closed by the bracket. -/
theorem writeItems_closed (style : JsonStyle) (v : JsonValue) (rest : List JsonValue)
    (r : List Char)
    : (writeItems style (v :: rest)).toList ++ ']' :: r
      = (write style v).toList
        ++ if rest = [] then ']' :: r else ',' :: ((writeItems style rest).toList ++ ']' :: r) := by
  cases rest with
  | nil => simp [writeItems]
  | cons w rest => simp [writeItems]

/-- The members of a nonempty object closed by a brace: the first key, a colon and the first
value, then the brace or a comma and the other members closed by the brace. -/
theorem writeMembers_closed (style : JsonStyle) (k : String) (v : JsonValue)
    (rest : List (String × JsonValue)) (r : List Char)
    : (writeMembers style ((k, v) :: rest)).toList ++ '}' :: r
      = (quoteString style k).toList ++ ':' :: ((write style v).toList
        ++ if rest = [] then '}' :: r else ',' :: ((writeMembers style rest).toList ++ '}' :: r)) := by
  cases rest with
  | nil => simp [writeMembers]
  | cons m rest => simp [writeMembers]

mutual

/-- Two number-free documents whose texts start two equal texts are equal, and so is what
follows them. By recursion on the first document: the opening characters agree, so both are
of one kind; strings are read back, arrays and objects compared item by item. -/
theorem write_unique (style : JsonStyle) : ∀ (v w : JsonValue) (r r' : List Char),
    v.numberFree → w.numberFree → (write style v).toList ++ r = (write style w).toList ++ r' →
    v = w ∧ r = r' := by
  intro v w r r' free free' same
  have heads : w.opening = v.opening := by
    obtain ⟨t, ht⟩ := write_opening style free
    obtain ⟨t', ht'⟩ := write_opening style free'
    rw [ht, ht'] at same
    exact (List.cons.inj same).1.symm
  cases v with
  | null =>
    obtain rfl := null_of_opening heads
    simpa using same
  | bool b =>
    obtain rfl := bool_of_opening heads
    simpa using same
  | number => simp [numberFree] at free
  | string s =>
    obtain ⟨t, rfl⟩ := string_of_opening heads
    obtain ⟨same_text, rest⟩ := quoteString_unique style same
    exact ⟨by rw [same_text], rest⟩
  | array items =>
    obtain ⟨items', rfl⟩ := array_of_opening heads
    simp [write] at same
    obtain ⟨same_items, rest⟩ := writeItems_unique style items items' r r'
      (by simpa [numberFree] using free) (by simpa [numberFree] using free') same
    exact ⟨by rw [same_items], rest⟩
  | object members =>
    obtain ⟨members', rfl⟩ := object_of_opening heads
    simp [write] at same
    obtain ⟨same_members, rest⟩ := writeMembers_unique style members members' r r'
      (by simpa [numberFree] using free) (by simpa [numberFree] using free') same
    exact ⟨by rw [same_members], rest⟩

/-- Two arrays' items whose texts, closed by a bracket, start two equal texts are equal, by
recursion on the first array's items. -/
theorem writeItems_unique (style : JsonStyle) : ∀ (items items' : List JsonValue)
    (r r' : List Char), itemsNumberFree items → itemsNumberFree items' →
    (writeItems style items).toList ++ ']' :: r = (writeItems style items').toList ++ ']' :: r' →
    items = items' ∧ r = r' := by
  intro items items' r r' free free' same
  rcases items with _ | ⟨v, rest⟩ <;> rcases items' with _ | ⟨v', rest'⟩
  case nil.nil => simpa [writeItems] using same
  -- an empty array against a nonempty one: no item's text starts with the closing bracket
  case nil.cons =>
    rw [writeItems_closed] at same
    exact absurd same.symm (write_ne_closing style (by simp_all [itemsNumberFree]) (.inl rfl) _ _)
  case cons.nil =>
    rw [writeItems_closed] at same
    exact absurd same (write_ne_closing style (by simp_all [itemsNumberFree]) (.inl rfl) _ _)
  -- two nonempty arrays: the first items agree, then the brackets or the items after them
  case cons.cons =>
    rw [itemsNumberFree, Bool.and_eq_true] at free free'
    rw [writeItems_closed, writeItems_closed] at same
    obtain ⟨rfl, tails⟩ := write_unique style v v' _ _ free.1 free'.1 same
    rcases rest with _ | ⟨w, rest⟩ <;> rcases rest' with _ | ⟨w', rest'⟩
    case nil.nil => simpa using tails
    case nil.cons | cons.nil => simp at tails
    case cons.cons =>
      simp only [reduceCtorEq, if_false, List.cons.injEq, true_and] at tails
      obtain ⟨same_rest, rfl⟩ := writeItems_unique style (w :: rest) (w' :: rest') r r' free.2
        free'.2 tails
      exact ⟨by rw [same_rest], rfl⟩

/-- Two objects' members whose texts, closed by a brace, start two equal texts are equal, by
recursion on the first object's members. -/
theorem writeMembers_unique (style : JsonStyle) : ∀ (members members' : List (String × JsonValue))
    (r r' : List Char), membersNumberFree members → membersNumberFree members' →
    (writeMembers style members).toList ++ '}' :: r
      = (writeMembers style members').toList ++ '}' :: r' →
    members = members' ∧ r = r' := by
  intro members members' r r' free free' same
  rcases members with _ | ⟨⟨k, v⟩, rest⟩ <;> rcases members' with _ | ⟨⟨k', v'⟩, rest'⟩
  case nil.nil => simpa [writeMembers] using same
  -- an empty object against a nonempty one: a member's text starts with a quote
  case nil.cons | cons.nil => simp [writeMembers, writeMembers_closed, quoteString_toList] at same
  -- two nonempty objects: the first keys agree, then the first values, then the braces or the
  -- members after them
  case cons.cons =>
    rw [membersNumberFree, Bool.and_eq_true] at free free'
    rw [writeMembers_closed, writeMembers_closed] at same
    obtain ⟨rfl, tail⟩ := quoteString_unique style same
    simp only [List.cons.injEq, true_and] at tail
    obtain ⟨rfl, tails⟩ := write_unique style v v' _ _ free.1 free'.1 tail
    rcases rest with _ | ⟨⟨l, w⟩, rest⟩ <;> rcases rest' with _ | ⟨⟨l', w'⟩, rest'⟩
    case nil.nil => simpa using tails
    case nil.cons | cons.nil => simp at tails
    case cons.cons =>
      simp only [reduceCtorEq, if_false, List.cons.injEq, true_and] at tails
      obtain ⟨same_rest, rfl⟩ := writeMembers_unique style ((l, w) :: rest) ((l', w') :: rest')
        r r' free.2 free'.2 tails
      exact ⟨by rw [same_rest], rfl⟩

end

/-- Number-free documents with the same text are equal. -/
theorem write_injective (style : JsonStyle) {v w : JsonValue} (free : v.numberFree)
    (free' : w.numberFree) (same : write style v = write style w) : v = w :=
  (write_unique style v w [] [] free free' (by rw [same])).1

end Conform.JsonValue
