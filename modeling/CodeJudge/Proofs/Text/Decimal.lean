import CodeJudge.Text.Decimal

/-!
# Numbers read back

The digits of a number denote it (`readNat?_digits`), and so does a number that is rendered with its sign
(`readInt?_render`). What a reader has to know of the text is said beside: it is not empty, holds digits
only, and begins with a zero only for zero.
-/

namespace CodeJudge.Decimal

/-- Whether a character is the digit of a number below ten. -/
def IsDigit (c : Char) : Prop := ∃ n < 10, c = digit n

theorem isDigit_digit {n : Nat} (small : n < 10) : IsDigit (digit n) := ⟨n, small, rfl⟩

/-- A digit is no sign. -/
theorem IsDigit.unsigned {c : Char} (isDigit : IsDigit c) : c ≠ '-' ∧ c ≠ '+' := by
  obtain ⟨n, small, rfl⟩ := isDigit
  revert n
  decide

theorem value?_digit {n : Nat} (small : n < 10) : value? (digit n) = some n := by
  revert n
  decide

/-! ## Digits -/

theorem digits_of_lt {n : Nat} (small : n < 10) : digits n = [digit n] := by
  rw [digits, if_pos small]

theorem digits_of_le {n : Nat} (large : 10 ≤ n) : digits n = digits (n / 10) ++ [digit (n % 10)] := by
  rw [digits, if_neg (Nat.not_lt.mpr large)]

/-- A number begins with a digit, which is no zero unless the number is. -/
theorem digits_eq_cons (n : Nat) :
    ∃ first rest, digits n = first :: rest ∧ IsDigit first ∧
      (first = '0' → n = 0 ∧ rest = []) ∧ ∀ c ∈ rest, IsDigit c := by
  induction n using Nat.strongRecOn with
  | ind n ih =>
    by_cases small : n < 10
    · refine ⟨digit n, [], digits_of_lt small, isDigit_digit small, ?_, nofun⟩
      intro zero
      have value := value?_digit small
      rw [zero] at value
      cases value
      exact ⟨rfl, rfl⟩
    · have large := Nat.not_lt.mp small
      obtain ⟨first, rest, split, isDigit, zero, others⟩ := ih (n / 10) (by omega)
      refine ⟨first, rest ++ [digit (n % 10)], ?_, isDigit, ?_, ?_⟩
      · rw [digits_of_le large, split, List.cons_append]
      · -- a number of two digits has more than zero tens
        intro same
        have none_ := (zero same).1
        omega
      · intro c mem
        rcases List.mem_append.mp mem with mem | mem
        · exact others c mem
        · rw [List.mem_singleton.mp mem]
          exact isDigit_digit (Nat.mod_lt n (by decide))

/-! ## Reading -/

theorem readFrom_append (sum : Nat) (front back : List Char) :
    readFrom sum (front ++ back) = (readFrom sum front).bind fun sum => readFrom sum back := by
  induction front generalizing sum with
  | nil => rfl
  | cons c rest ih =>
    rw [List.cons_append, readFrom, readFrom]
    cases value? c with
    | none => rfl
    | some d => exact ih (sum * 10 + d)

theorem readFrom_digits (n : Nat) : readFrom 0 (digits n) = some n := by
  induction n using Nat.strongRecOn with
  | ind n ih =>
    by_cases small : n < 10
    · rw [digits_of_lt small, readFrom, value?_digit small, Option.bind_some, readFrom, Nat.zero_mul,
        Nat.zero_add]
    · have large := Nat.not_lt.mp small
      have last := value?_digit (Nat.mod_lt n (by decide : 0 < 10))
      rw [digits_of_le large, readFrom_append, ih (n / 10) (by omega), Option.bind_some, readFrom, last,
        Option.bind_some, readFrom]
      congr 1
      omega

/-- **The digits of a number denote it.** -/
theorem readNat?_digits (n : Nat) : readNat? (digits n) = some n := by
  obtain ⟨first, rest, split, -⟩ := digits_eq_cons n
  have read := readFrom_digits n
  rw [split] at read ⊢
  exact read

theorem readInt?_of_isDigit {first : Char} {rest : List Char} (isDigit : IsDigit first) :
    readInt? (first :: rest) = (readNat? (first :: rest)).map fun n => (n : Int) := by
  unfold readInt?
  split
  · rename_i same
    exact absurd (List.cons.inj same).1 isDigit.unsigned.1
  · rename_i same
    exact absurd (List.cons.inj same).1 isDigit.unsigned.2
  · rfl

/-- **A number that is rendered denotes itself.** -/
theorem readInt?_render (n : Int) : readInt? (render n) = some n := by
  unfold render
  by_cases negative : n < 0
  · rw [if_pos negative, readInt?, readNat?_digits]
    show some (-(n.natAbs : Int)) = some n
    congr 1
    omega
  · obtain ⟨first, rest, split, isDigit, -⟩ := digits_eq_cons n.natAbs
    have read := readNat?_digits n.natAbs
    rw [if_neg negative, split, readInt?_of_isDigit isDigit, ← split, read]
    show some (n.natAbs : Int) = some n
    congr 1
    omega

theorem Bounds.admit?_of_mem {bounds : Bounds} {n : Int} (least : bounds.least ≤ n)
    (greatest : n ≤ bounds.greatest) : bounds.admit? n = some n := by
  rw [admit?, if_pos ⟨least, greatest⟩]

end CodeJudge.Decimal
