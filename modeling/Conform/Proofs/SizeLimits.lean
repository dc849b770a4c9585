import Mathlib
import Conform.Cli.Run
import Conform.Input.Request
/-! Below the largest 64-bit limit, input is read up to one byte past its size limit, kept whole
when it fits and refused when not; at the largest limit the count wraps and the input is
dropped.
-/

namespace Conform

-----------------------------------------------------------------------------------------
-- One byte past the limit
-----------------------------------------------------------------------------------------

/-- Below the largest 64-bit limit, a reader takes one byte more than the limit. -/
theorem pastLimit_of_lt {limit : Int} (below : limit < 2 ^ 63 - 1) : pastLimit limit = limit + 1 := by
  have small : ¬ limit + 1 ≥ Int.pow 2 63 := by
    change ¬ limit + 1 ≥ 2 ^ 63
    omega
  simp only [pastLimit, small, if_false]

/-- At the largest 64-bit limit, the count of one more wraps around to the most negative one. -/
theorem pastLimit_largest : pastLimit (2 ^ 63 - 1) = -2 ^ 63 := by
  decide

theorem takeCount_nonpos {count : Int} (h : count ≤ 0) (bytes : List UInt8)
    : takeCount count bytes = [] := by
  simp [takeCount, h]

/-- A reader that may take more bytes than a body has takes the whole body. -/
theorem takeCount_of_length_lt {count : Int} {bytes : List UInt8} (h : (bytes.length : Int) < count)
    : takeCount count bytes = bytes := by
  have pos : ¬ count ≤ 0 := by omega
  simp only [takeCount, pos, if_false]
  exact List.take_of_length_le (by omega)

/-- A reader that may take at most as many bytes as a body has takes that many. -/
theorem length_takeCount {count : Int} {bytes : List UInt8} (pos : 0 < count)
    (h : count ≤ bytes.length) : ((takeCount count bytes).length : Int) = count := by
  have taking : ¬ count ≤ 0 := by omega
  simp only [takeCount, taking, if_false, List.length_take]
  omega

/-- What reading one byte past a limit below the largest one takes from a body: the whole body
when it fits the limit, and more bytes than the limit when it does not. -/
theorem takeCount_pastLimit {limit : Int} (below : limit < 2 ^ 63 - 1) (bytes : List UInt8)
    : ((bytes.length : Int) ≤ limit → takeCount (pastLimit limit) bytes = bytes)
      ∧ (limit < bytes.length → limit < (takeCount (pastLimit limit) bytes).length) := by
  rw [pastLimit_of_lt below]
  refine ⟨fun within => takeCount_of_length_lt (by omega), fun beyond => ?_⟩
  by_cases pos : 0 < limit + 1
  · rw [length_takeCount pos (by omega)]
    omega
  · rw [takeCount_nonpos (by omega)]
    simp only [List.length_nil, Nat.cast_zero]
    omega

-----------------------------------------------------------------------------------------
-- The checker's input
-----------------------------------------------------------------------------------------

namespace Cli

theorem readInput_of_le {stdin : List UInt8} {limit : Int} (below : limit < 2 ^ 63 - 1)
    (within : (stdin.length : Int) ≤ limit) : readInput stdin limit = .ok stdin := by
  have taken := (takeCount_pastLimit below stdin).1 within
  simp only [readInput, taken, gt_iff_lt, not_lt.mpr within, if_false]

theorem readInput_of_lt {stdin : List UInt8} {limit : Int} (below : limit < 2 ^ 63 - 1)
    (beyond : limit < stdin.length) : readInput stdin limit = .error (.inputTooLarge limit) := by
  have taken := (takeCount_pastLimit below stdin).2 beyond
  simp only [readInput, gt_iff_lt, taken, if_true]

/-- At the largest limit the checker reads nothing of its input. -/
theorem readInput_largest (stdin : List UInt8) : readInput stdin (2 ^ 63 - 1) = .ok [] := by
  simp only [readInput, pastLimit_largest, takeCount_nonpos (by norm_num : (-2 ^ 63 : Int) ≤ 0)]
  rfl

end Cli

-----------------------------------------------------------------------------------------
-- A web request's JSON body
-----------------------------------------------------------------------------------------

namespace Input

variable {req : Request} {b : List UInt8}

theorem Request.jsonValue_of_le {limit : Nat} (body : req.body = some ⟨b, none⟩)
    (below : (limit : Int) < 2 ^ 63 - 1) (within : b.length ≤ limit)
    : req.jsonValue limit = decodeJson (Text.utf8Lossy b) := by
  have taken := (takeCount_pastLimit below b).1 (by omega)
  have reads : ¬ pastLimit limit ≤ 0 := by
    rw [pastLimit_of_lt below]
    omega
  simp only [jsonValue, body, taken, gt_iff_lt, Nat.cast_lt, not_lt.mpr within, reads, if_false]

theorem Request.jsonValue_of_lt {limit : Nat} {failure : Option String}
    (body : req.body = some ⟨b, failure⟩) (below : (limit : Int) < 2 ^ 63 - 1)
    (beyond : limit < b.length) : req.jsonValue limit = .error .bodyTooLarge := by
  have taken := (takeCount_pastLimit below b).2 (by omega)
  simp only [jsonValue, body, gt_iff_lt, taken, if_true]

/-- At the largest limit a request's body is read as empty, which is no JSON value. -/
theorem Request.jsonValue_largest {reader : BodyReader} (body : req.body = some reader)
    : req.jsonValue (2 ^ 63 - 1) = .error (.invalidJson "EOF") := by
  have count : pastLimit ((2 ^ 63 - 1 : Nat) : Int) = -2 ^ 63 := pastLimit_largest
  simp only [jsonValue, body, count, takeCount_nonpos (by norm_num : (-2 ^ 63 : Int) ≤ 0)]
  rfl

/-- A request with a JSON body that declares no more than the limit is read as its body. -/
theorem Request.value_of_json {m : Int} (json : req.contentType = "application/json") (pos : 0 < m)
    (declared : req.contentLength ≤ m) : req.value m = req.jsonValue m.toNat := by
  have kind : Text.trimSpace (String.ofList (req.contentType.toList.takeWhile (· != ';')))
      = "application/json" := by
    rw [json]
    decide
  have limit : ¬ m ≤ 0 := by omega
  have fits : ¬ req.contentLength > ((m.toNat : Nat) : Int) := by omega
  simp only [value, limit, if_false, fits, kind]
  rfl

end Input

-----------------------------------------------------------------------------------------
-- Both readers
-----------------------------------------------------------------------------------------

/-- Below the largest 64-bit limit, the checker keeps its input whole when it fits the limit and
refuses it otherwise, and a web request with a JSON body whose declared length is unknown or
true is read as its whole body when it fits and refused otherwise. At the largest limit both
readers drop what they are given: the checker reads an empty input, and the request's body is
no JSON value. From `takeCount_pastLimit` for each reader, and `pastLimit_largest`. -/
theorem sizeLimits_keep_or_refuse_input (stdin b : List UInt8) (req : Input.Request) (m : Int)
    (json : req.contentType = "application/json") (body : req.body = some ⟨b, none⟩)
    (declared : req.contentLength = -1 ∨ req.contentLength = b.length)
    : (m < 2 ^ 63 - 1 →
        ((stdin.length : Int) ≤ m → Cli.readInput stdin m = .ok stdin)
        ∧ (m < stdin.length → Cli.readInput stdin m = .error (.inputTooLarge m)))
      ∧ Cli.readInput stdin (2 ^ 63 - 1) = .ok []
      ∧ (0 < m → m < 2 ^ 63 - 1 →
        ((b.length : Int) ≤ m → req.value m = decodeJson (Text.utf8Lossy b))
        ∧ (m < b.length → req.value m = .error .bodyTooLarge))
      ∧ ((b.length : Int) < 2 ^ 63 → req.value (2 ^ 63 - 1) = .error (.invalidJson "EOF")) := by
  refine ⟨fun below => ⟨Cli.readInput_of_le below, Cli.readInput_of_lt below⟩,
    Cli.readInput_largest stdin, fun pos below => ⟨fun within => ?_, fun beyond => ?_⟩,
    fun fits => ?_⟩
  · have declaredFits : req.contentLength ≤ m := by omega
    rw [Input.Request.value_of_json json pos declaredFits]
    exact Input.Request.jsonValue_of_le body (by omega) (by omega)
  · rcases declared with unknown | given
    · rw [Input.Request.value_of_json json pos (by omega)]
      exact Input.Request.jsonValue_of_lt body (by omega) (by omega)
    · -- the declared length already exceeds the limit
      have tooLong : req.contentLength > ((m.toNat : Nat) : Int) := by omega
      have limit : ¬ m ≤ 0 := by omega
      simp only [Input.Request.value, limit, if_false, tooLong, if_true]
  · rw [Input.Request.value_of_json json (by norm_num) (by omega)]
    exact Input.Request.jsonValue_largest body

/-- A one-byte body sent with the largest limit is dropped by both readers. -/
theorem oneByte_dropped_at_largest_limit
    : Cli.readInput [49] (2 ^ 63 - 1) = .ok []
      ∧ ({ contentType := "application/json", body := some ⟨[49], none⟩, contentLength := 1 }
          : Input.Request).value (2 ^ 63 - 1) = .error (.invalidJson "EOF") :=
  let limits := sizeLimits_keep_or_refuse_input [49] [49]
    { contentType := "application/json", body := some ⟨[49], none⟩, contentLength := 1 } 16
    rfl rfl (.inr rfl)
  ⟨limits.2.1, limits.2.2.2 (by norm_num)⟩

end Conform
