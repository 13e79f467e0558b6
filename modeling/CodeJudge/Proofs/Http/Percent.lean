import CodeJudge.Http.Percent
import CodeJudge.Proofs.Text.Utf8

/-!
# What percent-encoding keeps

Encoding does not undo decoding: it leaves a percent sign as it is, so a text that holds a group is decoded
to another. What encoding keeps is what a text is decoded to (`decode_encode`). And a text is decoded to
itself exactly where it holds no group (`decode_eq_iff`), for a group is three characters, of which decoding
leaves at most one (`length_decode`).
-/

namespace CodeJudge.Http.Percent

/-- Whether a text begins with two hexadecimal digits. -/
def opensWithByte : List Char → Bool
  | high :: low :: _ => (byte? high low).isSome
  | _ => false

/-- How many groups a text holds. -/
def groups : List Char → Nat
  | [] => 0
  | '%' :: high :: low :: rest =>
    if (byte? high low).isSome then groups rest + 1 else groups (high :: low :: rest)
  | _ :: rest => groups rest

theorem value?_digit : ∀ n < 16, value? (digit n) = some n := by decide

theorem byte?_digit (byte : UInt8) : byte? (digit (byte.toNat / 16)) (digit (byte.toNat % 16)) = some byte := by
  have bound := byte.toNat_lt
  rw [byte?, value?_digit _ (by omega), value?_digit _ (by omega)]
  show some (UInt8.ofNat (byte.toNat / 16 * 16 + byte.toNat % 16)) = some byte
  rw [Nat.div_add_mod', UInt8.ofNat_toNat]

theorem toNat_of_value? {c : Char} (hexadecimal : (value? c).isSome) : c.toNat < 128 := by
  by_contra large
  have none : value? c = none := by
    simp only [value?, Char.le_def, UInt32.le_iff_toNat_le, Char.toNat] at large ⊢
    grind
  simp [none] at hexadecimal

/-- Two digits stand for a byte, and nothing else does. -/
theorem isSome_byte? {high low : Char} :
    (byte? high low).isSome = ((value? high).isSome && (value? low).isSome) := by
  rw [byte?]
  cases value? high <;> cases value? low <;> simp

theorem decodeBytes_cons {c : Char} (other : c ≠ '%') (rest : List Char) :
    decodeBytes (c :: rest) = String.utf8EncodeChar c ++ decodeBytes rest := by
  rw [decodeBytes]
  rintro high low others same -
  exact other same

/-- A percent sign that begins no group stands for itself. -/
theorem decodeBytes_percent {rest : List Char} (alone : opensWithByte rest = false) :
    decodeBytes ('%' :: rest) = String.utf8EncodeChar '%' ++ decodeBytes rest := by
  match rest with
  | [] | [_] => rfl
  | high :: low :: others =>
    have none : byte? high low = none := by simpa [opensWithByte] using alone
    rw [decodeBytes, none]

theorem decodeBytes_group (byte : UInt8) (rest : List Char) :
    decodeBytes (group byte ++ rest) = byte :: decodeBytes rest := by
  show decodeBytes ('%' :: digit (byte.toNat / 16) :: digit (byte.toNat % 16) :: rest) = _
  rw [decodeBytes, byte?_digit]

theorem decodeBytes_groups (bytes : Bytes) (rest : List Char) :
    decodeBytes (bytes.flatMap group ++ rest) = bytes ++ decodeBytes rest := by
  induction bytes with
  | nil => rfl
  | cons byte others ih =>
    rw [List.flatMap_cons, List.append_assoc, decodeBytes_group, ih, List.cons_append]

/-! ## Decoding what was encoded -/

theorem opensWithByte_other {c : Char} (other : value? c = none) (rest : List Char) :
    opensWithByte (c :: rest) = false := by
  cases rest with
  | nil => rfl
  | cons low others => rw [opensWithByte, isSome_byte?, other, Option.isSome_none, Bool.false_and]

/-- What does not begin with a digit still does not when it is encoded. -/
theorem encode_other (mayStand : Char → Bool) {c : Char} (other : value? c = none) (rest : List Char) :
    ∃ first others, encode mayStand (c :: rest) = first :: others ∧ value? first = none := by
  rw [encode, List.flatMap_cons]
  split
  · exact ⟨c, _, rfl, other⟩
  · cases bytes : String.utf8EncodeChar c with
    | nil => exact absurd bytes String.utf8EncodeChar_ne_nil
    | cons byte others => exact ⟨'%', _, rfl, rfl⟩

section

variable {mayStand : Char → Bool} (standing : ∀ c, c = '%' ∨ (value? c).isSome → mayStand c = true)
include standing

theorem encode_digit {c : Char} (hexadecimal : (value? c).isSome) (rest : List Char) :
    encode mayStand (c :: rest) = c :: encode mayStand rest := by
  have ascii := toNat_of_value? hexadecimal
  rw [encode, List.flatMap_cons, if_pos (by rw [standing c (.inr hexadecimal)]; simpa using ascii)]
  rfl

/-- Encoding neither makes a group nor breaks one up. -/
theorem opensWithByte_encode (text : List Char) :
    opensWithByte (encode mayStand text) = opensWithByte text := by
  match text with
  | [] => rfl
  | high :: rest =>
    cases first : value? high with
    | none =>
      obtain ⟨c, others, encoded, other⟩ := encode_other mayStand first rest
      rw [encoded, opensWithByte_other other, opensWithByte_other first]
    | some _ =>
      rw [encode_digit standing (by rw [first]; rfl)]
      match rest with
      | [] => rfl
      | low :: others =>
        cases second : value? low with
        | none =>
          obtain ⟨c, others', encoded, other⟩ := encode_other mayStand second others
          rw [encoded, opensWithByte, opensWithByte, isSome_byte?, isSome_byte?, other, second]
        | some _ =>
          rw [encode_digit standing (by rw [second]; rfl)]
          rfl

theorem encode_percent (rest : List Char) :
    encode mayStand ('%' :: rest) = '%' :: encode mayStand rest := by
  rw [encode, List.flatMap_cons, if_pos (by rw [standing '%' (.inl rfl)]; rfl)]
  rfl

/-- A percent sign alone stays alone. -/
theorem decodeBytes_encode_percent {rest : List Char} (alone : opensWithByte rest = false) :
    decodeBytes (encode mayStand ('%' :: rest)) =
      String.utf8EncodeChar '%' ++ decodeBytes (encode mayStand rest) := by
  rw [encode_percent standing, decodeBytes_percent]
  rw [opensWithByte_encode standing, alone]

/-- A text stands for the same bytes when it is encoded. -/
theorem decodeBytes_encode (text : List Char) : decodeBytes (encode mayStand text) = decodeBytes text := by
  fun_induction decodeBytes text with
  | case1 => rfl
  | case2 high low rest byte found ih =>
    have hexadecimal := Option.isSome_of_eq_some found
    rw [isSome_byte?, Bool.and_eq_true] at hexadecimal
    rw [encode_percent standing, encode_digit standing hexadecimal.1, encode_digit standing hexadecimal.2,
      decodeBytes, found]
    exact congrArg (byte :: ·) ih
  | case3 high low rest none ih =>
    rw [decodeBytes_encode_percent standing (by rw [opensWithByte, none]; rfl), ih]
  | case4 c rest short ih =>
    by_cases percent : c = '%'
    · subst percent
      have alone : opensWithByte rest = false := by
        match rest with
        | [] | [_] => rfl
        | high :: low :: others => exact absurd rfl (short high low others rfl)
      rw [decodeBytes_encode_percent standing alone, ih]
    · rw [encode, List.flatMap_cons]
      split
      · exact (decodeBytes_cons percent _).trans (congrArg _ ih)
      · exact (decodeBytes_groups _ _).trans (congrArg _ ih)

/-- **What a text is decoded to is not changed by encoding it.** -/
theorem decode_encode (text : List Char) : decode (encode mayStand text) = decode text := by
  rw [decode, decode, decodeBytes_encode standing]

end

/-! ## Decoding what has no groups -/

/-- Of every group at most one character is left. -/
theorem count_decodeBytes {reader : Utf8.Reader} (sound : reader.Sound) (text : List Char) :
    ((decodeBytes text).foldl Utf8.Reader.step reader).count + 2 * groups text ≤
      reader.count + text.length := by
  fun_induction decodeBytes text generalizing reader with
  | case1 => exact le_rfl
  | case2 high low rest byte found ih =>
    have more := Utf8.count_step reader byte
    have rest := ih more.1
    rw [groups, found, List.foldl_cons]
    simp only [Option.isSome_some, ↓reduceIte, List.length_cons]
    omega
  | case3 high low rest none ih =>
    have more := Utf8.count_encodeChar sound '%'
    have rest := ih more.1
    rw [groups, none, List.foldl_append]
    simp only [Option.isSome_none, Bool.false_eq_true, ↓reduceIte, List.length_cons] at rest ⊢
    omega
  | case4 c rest short ih =>
    have more := Utf8.count_encodeChar sound c
    have others := ih more.1
    have same : groups (c :: rest) = groups rest := by
      rw [groups]
      exact short
    rw [same, List.foldl_append, List.length_cons]
    omega

/-- **Decoding makes a text shorter by at least two characters for every group.** -/
theorem length_decode (text : List Char) : (decode text).toList.length + 2 * groups text ≤ text.length := by
  have start : Utf8.Reader.Sound {} := nofun
  have bound := count_decodeBytes start text
  rw [← Utf8.length_finish] at bound
  simpa [decode, Utf8.lossy, Utf8.decode, Utf8.Reader.count] using bound

theorem decodeBytes_of_groups {text : List Char} (bare : groups text = 0) :
    decodeBytes text = text.flatMap String.utf8EncodeChar := by
  fun_induction decodeBytes text with
  | case1 => rfl
  | case2 high low rest byte found ih => simp [groups, found] at bare
  | case3 high low rest none ih =>
    rw [groups, none] at bare
    rw [ih (by simpa using bare)]
    rfl
  | case4 c rest short ih =>
    have same : groups (c :: rest) = groups rest := by
      rw [groups]
      exact short
    rw [ih (same.symm.trans bare), List.flatMap_cons]

theorem groups_of_cons {c : Char} {rest : List Char} (bare : groups (c :: rest) = 0) : groups rest = 0 := by
  rw [groups.eq_def] at bare
  split at bare
  · contradiction
  · rename_i opens
    cases opens
    split at bare
    · contradiction
    · exact bare
  · rename_i same
    cases same
    exact bare

/-- **A text is decoded to itself where it holds no group.** -/
theorem decode_eq_iff {text : List Char} : (decode text).toList = text ↔ groups text = 0 := by
  constructor
  · intro same
    have bound := length_decode text
    rw [same] at bound
    omega
  · intro bare
    have read := Utf8.decode_encode (String.ofList text)
    rw [Utf8.encode, String.toList_ofList] at read
    rw [decode, Utf8.lossy, decodeBytes_of_groups bare, read, String.toList_ofList, List.map_map]
    exact List.map_id _

end CodeJudge.Http.Percent
