import Mathlib
import Conform.Proofs.FailuresJson
import Conform.Proofs.RegisteredRules
import Conform.Proofs.BatchInOrder
import Conform.Cli.Run
/-! A run of the checker refuses and writes nothing, crashes while loading its schema, or
writes the line of each value's failure tree and fails as invalid exactly when one is not
`null`; its exit code tells the three apart.
-/

namespace Conform

theorem ok_bind {ε α β : Type} (a : α) (f : α → Except ε β) : (Except.ok a >>= f) = f a := rfl

/-- A rule decides: on every value it passes or fails, never stopping the validation or asking
the batch to stop. -/
def Rule.Decides (r : Rule) : Prop := ∀ v, ∃ b, r.check v = .ofBool b

/-- Verdicts that all pass or fail hold no stop and no request to stop the batch. -/
theorem Verdict.firstAbort_of_decided {verdicts : List Verdict}
    (decided : ∀ w ∈ verdicts, ∃ b, w = .ofBool b)
    : firstAbort verdicts = none ∧ verdicts.contains .cancel = false := by
  constructor
  · rw [firstAbort, List.findSome?_eq_none_iff]
    intro w member
    obtain ⟨b, rfl⟩ := decided w member
    cases b <;> rfl
  · rw [Bool.eq_false_iff, ne_eq, List.contains_iff_mem]
    intro member
    obtain ⟨b, same⟩ := decided _ member
    cases b <;> cases same

namespace DataType

theorem shorthand_decides (t : DataType) : ∀ r ∈ t.shorthand, r.Decides := by
  intro r member
  -- every shorthand rule is made by `Rule.ofTest`, so each decides by its definition
  cases t with
  | text _ minLength maxLength format =>
    simp only [shorthand, List.mem_append, Option.mem_toList, Option.map_eq_some_iff] at member
    rcases member with (⟨n, -, rfl⟩ | ⟨n, -, rfl⟩) | formatted
    · exact fun v => ⟨_, rfl⟩
    · exact fun v => ⟨_, rfl⟩
    · split_ifs at formatted <;> simp only [List.mem_singleton, List.not_mem_nil] at formatted
      all_goals subst formatted; exact fun v => ⟨_, rfl⟩
  | number _ min max format =>
    simp only [shorthand, List.mem_append, Option.mem_toList, Option.map_eq_some_iff] at member
    rcases member with (⟨x, -, rfl⟩ | ⟨x, -, rfl⟩) | formatted
    · exact fun v => ⟨_, rfl⟩
    · exact fun v => ⟨_, rfl⟩
    · split_ifs at formatted <;> simp only [List.mem_singleton, List.not_mem_nil] at formatted
      all_goals subst formatted; exact fun v => ⟨_, rfl⟩
  | decimal _ min max places =>
    simp only [shorthand, List.mem_append, Option.mem_toList, Option.map_eq_some_iff] at member
    rcases member with (⟨d, -, rfl⟩ | ⟨d, -, rfl⟩) | ⟨n, -, rfl⟩ <;> exact fun v => ⟨_, rfl⟩
  | date _ min max =>
    simp only [shorthand, List.mem_append, Option.mem_toList, Option.map_eq_some_iff] at member
    rcases member with ⟨t, -, rfl⟩ | ⟨t, -, rfl⟩ <;> exact fun v => ⟨_, rfl⟩
  | choice _ values names =>
    simp only [shorthand] at member
    split_ifs at member <;> simp only [List.mem_singleton, List.not_mem_nil] at member
    subst member
    exact fun v => ⟨_, rfl⟩
  | trueFalse | list | record => simp [shorthand] at member

theorem CustomFrom.child {rules : List Rule} {t : DataType} {v : Value}
    {p : String × DataType × Value} (h : t.CustomFrom rules) (mem : p ∈ t.children v)
    : p.2.1.CustomFrom rules := by
  cases t with
  | list b item =>
    simp only [children, List.mem_map] at mem
    obtain ⟨_, _, rfl⟩ := mem
    exact fun s inner => h s (.item inner)
  | record b basedOn own =>
    simp only [children, List.mem_map] at mem
    obtain ⟨f, field, rfl⟩ := mem
    exact h.field field
  | _ => simp [children] at mem

theorem rules_decide {t : DataType} (noCustom : t.CustomFrom []) : ∀ r ∈ t.rules, r.Decides := by
  intro r member
  rw [rules, List.mem_append] at member
  rcases member with shorthand | custom
  · exact shorthand_decides t r shorthand
  · exact absurd (noCustom t (.refl t) r custom) List.not_mem_nil

/-- Every verdict that validating a value by a type without custom rules meets passes or
fails, by induction over the nodes of the validation. -/
theorem verdicts_decided {t : DataType} (noCustom : t.CustomFrom []) (v : Value)
    : ∀ w ∈ t.verdicts v, ∃ b, w = .ofBool b := by
  induction t, v using children_induction with
  | step t v ih =>
    cases presence : v.isAbsent with
    | true => simp [verdicts_of_absent presence]
    | false =>
      intro w member
      rw [verdicts_of_present presence, List.mem_append, List.mem_map, List.mem_flatMap] at member
      rcases member with ⟨r, rule, rfl⟩ | ⟨p, child, later⟩
      · exact rules_decide noCustom r rule v
      · exact ih p child (noCustom.child child) w later

/-- Validation by a type without custom rules gives the failure tree and leaves the flag as
it is. -/
theorem check_of_noCustom {t : DataType} (noCustom : t.CustomFrom []) (v : Value) (flag : Bool)
    : (t.check v).run flag = .ok (t.failureTree v, flag) := by
  obtain ⟨noAbort, noCancel⟩ := Verdict.firstAbort_of_decided (verdicts_decided noCustom v)
  rw [check_meets t v flag, noAbort, noCancel, Bool.or_false]

end DataType

/-- A loading error that stops the checker short, as a crash rather than a reported error: a
declaration written as null, and a decimal bound that is not a finite number. -/
def Schema.LoadError.crashes : Schema.LoadError → Bool
  | .missingDeclaration | .badDecimalBound .. | .endlessNesting => true
  | _ => false

theorem Schema.get?_mem {schema : Schema} {name : String} {t : DataType}
    (found : schema.get? name = some t) : ∃ key, (key, t) ∈ schema.types := by
  rw [Schema.get?, Option.map_eq_some_iff] at found
  obtain ⟨p, found, rfl⟩ := found
  exact ⟨p.1, List.mem_of_find?_eq_some found⟩

namespace Cli

open Schema Text DataType

theorem validateOne_of_noCustom {t : DataType} (noCustom : t.CustomFrom []) (v : Value)
    : validateOne t v = .ok [t.failureTree v] := by
  rw [validateOne, check_of_noCustom noCustom]

/-- A batch by a type without custom rules and with a live caller gives every value's failure
tree in order: its rules never cancel, so the batch returns each value's result in its slot. -/
theorem validateBatch_of_noCustom {t : DataType} (noCustom : t.CustomFrom []) (values : List Value)
    (workers : Int) : validateBatch t values workers false = .ok (values.map t.failureTree) := by
  have settles : ∀ v ∈ values, ∃ r, (t.check v).run false = .ok (r, false) :=
    fun v _ => ⟨_, check_of_noCustom noCustom v false⟩
  obtain ⟨rs, returned, validates⟩ := Batch.validateInOrder_settled settles workers
  -- each result is the value's failure tree
  have trees : List.Forall₂ (· = ·) (values.map t.failureTree) rs := by
    refine List.forall₂_map_left_iff.mpr (validates.imp fun v r ⟨raised, validated⟩ => ?_)
    rw [check_of_noCustom noCustom] at validated
    cases validated
    rfl
  rw [List.forall₂_eq_eq_eq] at trees
  simp [validateBatch, returned, trees]

/-- A batch run cancelled before it starts is refused. -/
theorem validateBatch_cancelled (t : DataType) (values : List Value) (workers : Int)
    : validateBatch t values workers true = .error .cancelled := by
  simp [validateBatch, Batch.validateInOrder_cancelled]

-----------------------------------------------------------------------------------------
-- The three ends of a run
-----------------------------------------------------------------------------------------

/-- An error by which a run refuses to validate: every error but an invalid value and a
crash. -/
def RunError.isRefusal : RunError → Bool
  | .invalid | .crash _ => false
  | _ => true

theorem environmentSettings_refusal {environment : List (String × String)} {e : RunError}
    (h : environmentSettings environment = .error e) : e.isRefusal := by
  unfold environmentSettings at h
  dsimp only at h
  split at h
  · cases h
  · cases h
    rfl

theorem settings_refusal {inv : Invocation} {e : RunError} (h : inv.settings.2 = .error e)
    : e.isRefusal := by
  unfold Invocation.settings at h
  split at h
  · rename_i found
    cases h
    exact environmentSettings_refusal found
  · split at h
    · cases h
      rfl
    · cases h
      rfl
    · dsimp only at h
      split at h <;> cases h
      rfl

theorem readInput_refusal {stdin : List UInt8} {limit : Int} {e : RunError}
    (h : readInput stdin limit = .error e) : e.isRefusal := by
  unfold readInput at h
  dsimp only at h
  split_ifs at h
  cases h
  rfl

/-- A run given its settings validates `values` by the type `t`: the log level is known, the
schema file's text loads and has a type of the name the settings give, the input is read within
its limit and decodes to a value, and the values are that value alone, or in batch mode the
items of the array it is when the run is not cancelled. -/
structure Settings.Validates (s : Settings) (schemaFile : Except String String)
    (stdin : List UInt8) (cancelled : Bool) (t : DataType) (values : List Value) : Prop where
  logLevel : isLogLevel s.logLevel = true
  loads : ∃ text schema, schemaFile = .ok text ∧ load [] text = .ok schema
    ∧ schema.get? s.type = some t
  decodes : ∃ input value, readInput stdin s.maxInput = .ok input
    ∧ decodeJson (utf8Lossy input) = .ok value
    ∧ if s.batch then value = .list values ∧ cancelled = false else values = [value]

/-- A run given its settings crashes while loading its schema file's text. -/
structure Settings.CrashesLoading (s : Settings) (schemaFile : Except String String)
    (e : LoadError) : Prop where
  logLevel : isLogLevel s.logLevel = true
  loads : ∃ text, schemaFile = .ok text ∧ load [] text = .error e
  crashes : e.crashes = true

theorem Settings.Validates.noCustom {s : Settings} {schemaFile : Except String String}
    {stdin : List UInt8} {cancelled : Bool} {t : DataType} {values : List Value}
    (validates : s.Validates schemaFile stdin cancelled t values) : t.CustomFrom [] := by
  obtain ⟨-, ⟨text, schema, -, loaded, found⟩, -⟩ := validates
  obtain ⟨key, member⟩ := Schema.get?_mem found
  simpa using load_customFrom loaded _ member

/-- A run that validates writes the line of each value's failure tree, and fails as invalid
when one of them is not nothing: the checker's registry is empty, so validation never stops. -/
theorem Settings.check_of_validates {s : Settings} {schemaFile : Except String String}
    {stdin : List UInt8} {cancelled : Bool} {t : DataType} {values : List Value}
    (validates : s.Validates schemaFile stdin cancelled t values)
    : s.check schemaFile stdin cancelled
      = { stdout := String.join ((values.map t.failureTree).map resultLine)
          result := if (values.map t.failureTree).any Option.isSome then .error .invalid
            else .ok () } := by
  have noCustom := validates.noCustom
  obtain ⟨level, ⟨text, schema, rfl, loaded, found⟩, ⟨input, value, read, decoded, shape⟩⟩ :=
    validates
  cases batch : s.batch
  case false =>
    obtain rfl : values = [value] := by simpa [batch] using shape
    simp only [Settings.check, pure_bind, ok_bind, level, loaded, found, read, decoded, batch,
      validateOne_of_noCustom noCustom]
    rfl
  case true =>
    obtain ⟨rfl, rfl⟩ : value = .list values ∧ cancelled = false := by simpa [batch] using shape
    simp only [Settings.check, pure_bind, ok_bind, level, loaded, found, read, decoded, batch,
      validateBatch_of_noCustom noCustom]
    rfl

theorem Settings.check_of_crashesLoading {s : Settings} {schemaFile : Except String String}
    {stdin : List UInt8} {cancelled : Bool} {e : LoadError}
    (crashes : s.CrashesLoading schemaFile e)
    : s.check schemaFile stdin cancelled = { result := .error (.crash e.message) } := by
  obtain ⟨level, ⟨text, rfl, loaded⟩, crash⟩ := crashes
  -- only a null declaration and a non-finite decimal bound crash
  cases e <;> simp only [LoadError.crashes, Bool.false_eq_true] at crash
  all_goals simp only [Settings.check, pure_bind, level, loaded]; rfl

/-- The rest of a run once its settings are known is refused, with no output; or it crashes
while loading; or it validates. The cases follow the steps of the run: the log level, the
schema file, loading, the type, the input, decoding, and in batch mode the array and the
cancellation. -/
theorem Settings.check_cases (s : Settings) (schemaFile : Except String String)
    (stdin : List UInt8) (cancelled : Bool)
    : (∃ e, e.isRefusal ∧ s.check schemaFile stdin cancelled = { result := .error e })
      ∨ (∃ e, s.CrashesLoading schemaFile e)
      ∨ ∃ t values, s.Validates schemaFile stdin cancelled t values := by
  cases level : isLogLevel s.logLevel
  case false => exact .inl ⟨_, rfl, by simp only [Settings.check, level]; rfl⟩
  cases schemaFile with
  | error m => exact .inl ⟨_, rfl, by simp only [Settings.check, level]; rfl⟩
  | ok text =>
  cases loaded : load [] text with
  | error e =>
    cases crash : e.crashes
    case true => exact .inr (.inl ⟨e, level, ⟨text, rfl, loaded⟩, crash⟩)
    -- every other loading error is reported
    cases e <;> simp only [LoadError.crashes, Bool.true_eq_false] at crash
    all_goals exact .inl ⟨_, rfl, by simp only [Settings.check, pure_bind, level, loaded]; rfl⟩
  | ok schema =>
  cases found : schema.get? s.type with
  | none => exact .inl ⟨_, rfl, by simp only [Settings.check, pure_bind, level, loaded, found]; rfl⟩
  | some t =>
  cases read : readInput stdin s.maxInput with
  | error e =>
    exact .inl ⟨_, readInput_refusal read,
      by simp only [Settings.check, pure_bind, level, loaded, found, read]; rfl⟩
  | ok input =>
  cases decoded : decodeJson (utf8Lossy input) with
  | error e =>
    exact .inl ⟨_, rfl,
      by simp only [Settings.check, pure_bind, ok_bind, level, loaded, found, read, decoded]; rfl⟩
  | ok value =>
  have loads : ∃ text' schema', (.ok text : Except String String) = .ok text'
      ∧ load [] text' = .ok schema' ∧ schema'.get? s.type = some t :=
    ⟨text, schema, rfl, loaded, found⟩
  cases batch : s.batch
  case false =>
    exact .inr (.inr ⟨t, [value], level, loads, ⟨input, value, read, decoded, by simp [batch]⟩⟩)
  cases value
  case list items =>
    cases cancelled
    case false =>
      exact .inr (.inr ⟨t, items, level, loads, ⟨input, _, read, decoded, by simp [batch]⟩⟩)
    case true =>
      -- the batch of a run cancelled before it starts hands out no value
      exact .inl ⟨_, rfl, by
        simp only [Settings.check, pure_bind, ok_bind, level, loaded, found, read, decoded, batch,
          validateBatch_cancelled]
        rfl⟩
  -- in batch mode every value other than an array is refused
  all_goals exact .inl ⟨_, rfl, by
    simp only [Settings.check, pure_bind, ok_bind, level, loaded, found, read, decoded, batch]
    rfl⟩

-----------------------------------------------------------------------------------------
-- Lines and exit codes
-----------------------------------------------------------------------------------------

/-- The line of a result with no empty node is `null` exactly when the result is nothing: a
failure tree is written as an array or an object. -/
theorem resultLine_eq_null {r : Option Failures} (solid : ∀ e, r = some e → e.Solid)
    : resultLine r = "null\n" ↔ r = none := by
  constructor
  · intro line
    obtain ⟨rest, opens⟩ := JsonValue.write_opening JsonStyle.web (Failures.toJson_numberFree r)
    have first : (Failures.toJson r).opening = 'n' := by
      have chars := congrArg String.toList line
      simp [resultLine, opens] at chars
      exact chars.1
    have null := JsonValue.null_of_opening first
    cases r with
    | none => rfl
    | some e => cases solid e rfl <;> simp [Failures.toJson] at null
  · rintro rfl
    simp [resultLine, Failures.toJson, JsonValue.write]

theorem resultLine_failureTree_ne_null (t : DataType) (v : Value)
    : resultLine (t.failureTree v) ≠ "null\n" ↔ (t.failureTree v).isSome := by
  rw [ne_eq, resultLine_eq_null (fun _ => failureTree_solid), Option.isSome_iff_ne_none]

theorem Outcome.exitCode_iff (o : Outcome)
    : (o.exitCode = 0 ↔ o.result = .ok ()) ∧ (o.exitCode = 1 ↔ o.result = .error .invalid)
      ∧ (o.exitCode = 2 ↔ ∃ e, o.result = .error e ∧ e ≠ .invalid) := by
  obtain ⟨stdout, stderr, result⟩ := o
  cases result with
  | ok u => simp [Outcome.exitCode]
  | error e => cases e <;> simp [Outcome.exitCode]

theorem Invocation.run_of_settings {inv : Invocation} (readFile : String → Except String String)
    {s : Settings} (settled : inv.settings.2 = .ok s)
    : (inv.run readFile).stdout = (s.check (readFile s.schema) inv.stdin inv.cancelled).stdout
      ∧ (inv.run readFile).result = (s.check (readFile s.schema) inv.stdin inv.cancelled).result := by
  unfold Invocation.run
  rcases same : inv.settings with ⟨stderr, e | s'⟩ <;> rw [same] at settled <;> cases settled
  exact ⟨rfl, rfl⟩

theorem Invocation.run_of_refused {inv : Invocation} (readFile : String → Except String String)
    {e : RunError} (refused : inv.settings.2 = .error e)
    : (inv.run readFile).stdout = "" ∧ (inv.run readFile).result = .error e := by
  unfold Invocation.run
  rcases same : inv.settings with ⟨stderr, e' | s⟩ <;> rw [same] at refused <;> cases refused
  exact ⟨rfl, rfl⟩

/-- What a run of the checker ends in, by what its settings, schema file and input allow. When
it validates values by a type, it writes the line of each value's failure tree in order and
fails as invalid exactly when one line is not `null`. When loading its schema crashes, it
crashes and writes nothing. Otherwise it refuses and writes nothing. It exits with 0 when it
succeeds, 1 when a value is invalid, and 2 otherwise. -/
theorem run_outcome (inv : Invocation) (readFile : String → Except String String)
    : (∀ s t values, inv.settings.2 = .ok s
        → s.Validates (readFile s.schema) inv.stdin inv.cancelled t values
        → (inv.run readFile).stdout = String.join (values.map fun v => resultLine (t.failureTree v))
          ∧ ((inv.run readFile).result = .error .invalid
              ↔ ∃ v ∈ values, resultLine (t.failureTree v) ≠ "null\n")
          ∧ ((inv.run readFile).result = .ok ()
              ↔ ∀ v ∈ values, resultLine (t.failureTree v) = "null\n"))
      ∧ (∀ s e, inv.settings.2 = .ok s → s.CrashesLoading (readFile s.schema) e
        → (inv.run readFile).result = .error (.crash e.message) ∧ (inv.run readFile).stdout = "")
      ∧ ((¬ ∃ s t values, inv.settings.2 = .ok s
            ∧ s.Validates (readFile s.schema) inv.stdin inv.cancelled t values)
        → (¬ ∃ s e, inv.settings.2 = .ok s ∧ s.CrashesLoading (readFile s.schema) e)
        → ∃ e, (inv.run readFile).result = .error e ∧ e.isRefusal ∧ (inv.run readFile).stdout = "")
      ∧ ((inv.run readFile).exitCode = 0 ↔ (inv.run readFile).result = .ok ())
      ∧ ((inv.run readFile).exitCode = 1 ↔ (inv.run readFile).result = .error .invalid)
      ∧ ((inv.run readFile).exitCode = 2
          ↔ ∃ e, (inv.run readFile).result = .error e ∧ e ≠ .invalid) := by
  refine ⟨fun s t values settled validates => ?_, fun s e settled crashes => ?_,
    fun notValidated notCrashed => ?_, Outcome.exitCode_iff _⟩
  · obtain ⟨stdout, result⟩ := Invocation.run_of_settings readFile settled
    rw [Settings.check_of_validates validates] at stdout result
    refine ⟨by rw [stdout, List.map_map]; rfl, ?_, ?_⟩
    · rw [result]
      simp only [resultLine_failureTree_ne_null]
      split <;> simp_all
    · rw [result]
      simp only [resultLine_eq_null (fun _ => failureTree_solid)]
      split <;> simp_all [Option.isSome_iff_ne_none]
  · obtain ⟨stdout, result⟩ := Invocation.run_of_settings readFile settled
    rw [Settings.check_of_crashesLoading crashes] at stdout result
    exact ⟨result, stdout⟩
  · rcases settled : inv.settings.2 with e | s
    · obtain ⟨stdout, result⟩ := Invocation.run_of_refused readFile settled
      exact ⟨e, result, settings_refusal settled, stdout⟩
    -- with settings, the run is refused: it neither validates nor crashes while loading
    rcases Settings.check_cases s (readFile s.schema) inv.stdin inv.cancelled
      with ⟨e, refusal, checked⟩ | ⟨e, crashes⟩ | ⟨t, values, validates⟩
    · obtain ⟨stdout, result⟩ := Invocation.run_of_settings readFile settled
      rw [checked] at stdout result
      exact ⟨e, result, refusal, stdout⟩
    · exact absurd ⟨s, e, settled, crashes⟩ notCrashed
    · exact absurd ⟨s, t, values, settled, validates⟩ notValidated

/-- A schema whose decimal type `Person` has the minimum `.nan`. -/
def nanSchemaText : String := "types:\n  - name: Person\n    kind: Decimal\n    min: .nan\n"

/-- The checker asked for the type `Person` of the schema file, with the empty text `""` as
input and only errors logged. -/
def nanSchemaRun : Invocation :=
  { args := ["-schema", "schema.yaml", "-type", "Person"]
    environment := [("TYPECHECK_LOG_LEVEL", "error")]
    stdin := [0x22, 0x22] }

/-- The checker on that schema crashes while loading it: the minimum is not a finite number. It
writes nothing and exits with 2. -/
theorem nanMinimum_crashes_checker
    : ∃ s, nanSchemaRun.settings.2 = .ok s
      ∧ s.CrashesLoading (.ok nanSchemaText) (.badDecimalBound "Person" "min" "NaN")
      ∧ (nanSchemaRun.run fun _ => .ok nanSchemaText).result
          = .error (.crash (LoadError.badDecimalBound "Person" "min" "NaN").message)
      ∧ (nanSchemaRun.run fun _ => .ok nanSchemaText).stdout = ""
      ∧ (nanSchemaRun.run fun _ => .ok nanSchemaText).exitCode = 2 := by
  have settled : nanSchemaRun.settings.2
      = .ok { schema := "schema.yaml", type := "Person", workers := 4, logLevel := "error"
              maxInput := 10485760 } := by
    rfl
  have loaded : load [] nanSchemaText = .error (.badDecimalBound "Person" "min" "NaN") := by
    -- a schema has no decidable equality, so the loading error is compared alone
    have refused : (match load [] nanSchemaText with
        | .error e => decide (e = .badDecimalBound "Person" "min" "NaN")
        | .ok _ => false) = true := by
      decide +kernel
    split at refused
    · rename_i e failed
      rw [failed, of_decide_eq_true refused]
    · cases refused
  have crashes : Settings.CrashesLoading
      { schema := "schema.yaml", type := "Person", workers := 4, logLevel := "error"
        maxInput := 10485760 } (.ok nanSchemaText) (.badDecimalBound "Person" "min" "NaN") :=
    ⟨by decide, ⟨_, rfl, loaded⟩, rfl⟩
  obtain ⟨-, crash, -, -, -, exitTwo⟩ := run_outcome nanSchemaRun fun _ => .ok nanSchemaText
  obtain ⟨result, stdout⟩ := crash _ _ settled crashes
  exact ⟨_, settled, crashes, result, stdout, exitTwo.mpr ⟨_, result, by simp⟩⟩

end Cli

end Conform
