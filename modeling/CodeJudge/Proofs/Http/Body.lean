import CodeJudge.Http.Message
import CodeJudge.Proofs.Json.Tree

/-!
# Bodies

A server looks at what a body is declared to be, then at how long it is, and only then at what it holds.

**The law.** A body is read exactly where it is declared to be JSON, keeps within the limit of the server
and decodes (`Request.decode_eq_ok_iff`). Where it is not read, the first of the three that fails is what
the client is told (`Request.decode_eq_error_iff`). What the programs of the pipeline write is declared to be
JSON, so that between them nothing but its length counts (`Request.decode_ofJson`,
`Request.decode_ofJson_of_long`).

**What it does not establish.** Anything of bodies that are compressed, or that break off on their way.
-/

namespace CodeJudge.Http

open Json (Decoder Value)

variable {α : Type} {request : Request} {limit : Nat} {decode : Decoder α}

/-- **When a body is read.** -/
theorem Request.decode_eq_ok_iff {value : α} :
    request.decode limit decode = .ok value ↔
      request.isJson = true ∧ request.body.length ≤ limit ∧
        Json.decodeBytes decode request.body = .ok value := by
  rw [Request.decode]
  cases request.isJson with
  | false => simp
  | true =>
    by_cases long : limit < request.body.length
    · simp [long, Nat.not_le.mpr long]
    · cases Json.decodeBytes decode request.body <;> simp [long, Nat.not_lt.mp long, Except.mapError]

/-- **Why a body is not read**: the first of the reasons that there are. -/
theorem Request.decode_eq_error_iff {error : BodyError} :
    request.decode limit decode = .error error ↔
      (request.isJson = false ∧ error = .contentType) ∨
      (request.isJson = true ∧ limit < request.body.length ∧ error = .tooLong request.length? limit) ∨
      (request.isJson = true ∧ request.body.length ≤ limit ∧
        ∃ fault, Json.decodeBytes decode request.body = .error fault ∧ error = .content fault) := by
  rw [Request.decode]
  cases request.isJson with
  | false => simp [eq_comm]
  | true =>
    by_cases long : limit < request.body.length
    · simp [long, Nat.not_le.mpr long, eq_comm]
    · cases Json.decodeBytes decode request.body <;>
        simp [long, Nat.not_lt.mp long, Except.mapError, eq_comm]

/-! ## What the pipeline writes -/

/-- A value that keeps within a limit when it is written. -/
def Fits (limit : Nat) (value : Value) : Prop := (Utf8.encode value.render).length ≤ limit

instance {value : Value} : Decidable (Fits limit value) := inferInstanceAs (Decidable (_ ≤ _))

variable {method : Method} {target : String} {body : Value}

theorem Request.isJson_ofJson : (Request.ofJson method target body).isJson = true :=
  show isJsonType jsonType = true by decide

/-- A value that fits is read as what it decodes to. -/
theorem Request.decode_ofJson (fits : Fits limit body) :
    (Request.ofJson method target body).decode limit decode = (decode body.tree).mapError .content := by
  have within : ¬ limit < (Request.ofJson method target body).body.length := Nat.not_lt.mpr fits
  rw [Request.decode, isJson_ofJson, Bool.not_true, if_neg Bool.false_ne_true, if_neg within]
  exact congrArg _ (Json.decodeBytes_render decode body)

/-- A value that does not fit is refused, and the client is told both lengths. -/
theorem Request.decode_ofJson_of_long (long : ¬ Fits limit body) :
    (Request.ofJson method target body).decode limit decode =
      .error (.tooLong (some (Utf8.encode body.render).length) limit) :=
  Request.decode_eq_error_iff.mpr (.inr (.inl ⟨isJson_ofJson, Nat.not_le.mp long, rfl⟩))

end CodeJudge.Http
