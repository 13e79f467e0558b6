import CodeJudge.Text.Utf8
import Mathlib.Data.String.Basic

/-!
# Texts and their bytes

Two laws of the encoding. Texts are in the order of their bytes (`encode_lt_encode`): a character with a
greater number has greater bytes, at the first place where the two differ. And what was encoded is decoded
to what it was (`decode_encode`). A third is about bytes that may not be text: a byte adds at most one
symbol to those before it, and so do the bytes of a character (`count_step`, `count_encodeChar`); and no byte
at all is read as nothing (`lossy_eq_empty_iff`). Where encoded text ends inside a character, that character
is left unfinished (`foldl_part`).

The reader is followed through one character at a time. Which bytes it takes after a first byte is said
once for every length of a character; the narrower ranges after some first bytes are met because the number
of a character is that of a scalar value.
-/

namespace CodeJudge.Utf8

/-- The number of a character is that of a scalar value. -/
theorem toNat_val (c : Char) :
    c.val.toNat < 0xD800 ∨ 0xDFFF < c.val.toNat ∧ c.val.toNat < 0x110000 := c.valid

theorem toNat_byte {n : Nat} (small : n < 256) : (UInt8.ofNat n).toNat = n :=
  UInt8.toNat_ofNat_of_lt' small

/-! ## The order of texts -/

theorem byte_lt_byte {m n : Nat} (first : m < 256) (second : n < 256) :
    UInt8.ofNat m < UInt8.ofNat n ↔ m < n := by
  rw [UInt8.lt_iff_toNat_lt, toNat_byte first, toNat_byte second]

theorem byte_eq_byte {m n : Nat} (first : m < 256) (second : n < 256) :
    UInt8.ofNat m = UInt8.ofNat n ↔ m = n := by
  rw [← UInt8.toNat_inj, toNat_byte first, toNat_byte second]

/-- The bytes of a character come before those of a later one, whatever follows either. -/
theorem encodeChar_append_lt {c d : Char} (earlier : c < d) (rest other : Bytes) :
    String.utf8EncodeChar c ++ rest < String.utf8EncodeChar d ++ other := by
  have smaller : c.val.toNat < d.val.toNat := earlier
  have bound := toNat_val d
  -- the bits of a character are cut off six at a time
  have cut (n : Nat) : n / 4096 = n / 64 / 64 ∧ n / 262144 = n / 64 / 64 / 64 := by omega
  fun_cases String.utf8EncodeChar c <;> fun_cases String.utf8EncodeChar d <;>
    simp (disch := omega) only [List.cons_append, List.nil_append, List.cons_lt_cons_iff,
      byte_lt_byte, byte_eq_byte, cut] <;>
    omega

theorem flatMap_encodeChar_lt {text other : List Char} (earlier : text < other) :
    text.flatMap String.utf8EncodeChar < other.flatMap String.utf8EncodeChar := by
  induction earlier with
  | @nil c rest =>
    rw [List.flatMap_nil, List.flatMap_cons]
    cases bytes : String.utf8EncodeChar c with
    | nil => exact absurd bytes String.utf8EncodeChar_ne_nil
    | cons byte others => exact List.nil_lt_cons ..
  | rel earlier =>
    rw [List.flatMap_cons, List.flatMap_cons]
    exact encodeChar_append_lt earlier ..
  | @cons c rest others _ ih =>
    rw [List.flatMap_cons, List.flatMap_cons]
    exact List.append_left_lt ih

/-- **Texts are in the order of their bytes.** -/
theorem encode_lt_encode {text other : String} : encode text < encode other ↔ text < other := by
  rw [String.lt_iff_toList_lt]
  constructor
  · intro earlier
    rcases lt_trichotomy text.toList other.toList with less | same | more
    · exact less
    · rw [encode, encode, same] at earlier
      exact absurd earlier (List.lt_irrefl _)
    · exact absurd (flatMap_encodeChar_lt more) (List.lt_asymm earlier)
  · exact flatMap_encodeChar_lt

/-! ## Reading what was written -/

theorem first_one {n : Nat} (small : n < 0x80) :
    first (UInt8.ofNat n) = .inl (some (Char.ofNat n)) := by
  have value := toNat_byte (n := n) (by omega)
  simp only [first, UInt8.lt_iff_toNat_lt, value, UInt8.reduceToNat, small, ↓reduceIte]

theorem first_two {n : Nat} (low : 0xC2 ≤ n) (high : n < 0xE0) :
    first (UInt8.ofNat n) = .inr ⟨n % 32, 0, 0x80, 0xBF⟩ := by
  have value := toNat_byte (n := n) (by omega)
  simp only [first, UInt8.lt_iff_toNat_lt, value, UInt8.reduceToNat]
  rw [if_neg (by omega), if_neg (by omega), if_pos high]

/-- The second of three bytes leaves out overlong forms and surrogates. -/
theorem first_three {n : Nat} (low : 0xE0 ≤ n) (high : n < 0xF0) :
    first (UInt8.ofNat n) = .inr ⟨n % 16, 1, if n = 0xE0 then 0xA0 else 0x80,
      if n = 0xED then 0x9F else 0xBF⟩ := by
  have value := toNat_byte (n := n) (by omega)
  simp only [first, UInt8.lt_iff_toNat_lt, ← UInt8.toNat_inj, value, UInt8.reduceToNat]
  rw [if_neg (by omega), if_neg (by omega), if_neg (by omega)]
  by_cases least : n = 0xE0
  · rw [if_pos least, if_pos least, if_neg (by omega)]
  · by_cases surrogate : n = 0xED
    · rw [if_neg least, if_pos surrogate, if_neg least, if_pos surrogate]
    · rw [if_neg least, if_neg surrogate, if_pos high, if_neg least, if_neg surrogate]

/-- The second of four bytes leaves out overlong forms and what is past the last character. -/
theorem first_four {n : Nat} (low : 0xF0 ≤ n) (high : n < 0xF5) :
    first (UInt8.ofNat n) = .inr ⟨n % 8, 2, if n = 0xF0 then 0x90 else 0x80,
      if n = 0xF4 then 0x8F else 0xBF⟩ := by
  have value := toNat_byte (n := n) (by omega)
  simp only [first, UInt8.lt_iff_toNat_lt, ← UInt8.toNat_inj, value, UInt8.reduceToNat]
  rw [if_neg (by omega), if_neg (by omega), if_neg (by omega), if_neg (by omega), if_neg (by omega),
    if_neg (by omega)]
  by_cases least : n = 0xF0
  · rw [if_pos least, if_pos least, if_neg (by omega)]
  · by_cases last : n = 0xF4
    · rw [if_neg least, if_neg (by omega), if_pos last, if_neg least, if_pos last]
    · rw [if_neg least, if_pos (by omega), if_neg least, if_neg last]

section

variable {done : List Symbol} {bits n : Nat} {low high : UInt8}

theorem step_first (byte : UInt8) : Reader.step ⟨done, none⟩ byte = Reader.start done byte := rfl

/-- A byte in its range goes on with the character at hand. -/
theorem step_more {after : Nat} (above : low.toNat ≤ n) (below : n ≤ high.toNat) :
    Reader.step ⟨done, some ⟨bits, after + 1, low, high⟩⟩ (UInt8.ofNat n) =
      ⟨done, some ⟨bits * 64 + n % 64, after, 0x80, 0xBF⟩⟩ := by
  have value := toNat_byte (Nat.lt_of_le_of_lt below high.toNat_lt)
  simp only [Reader.step, UInt8.le_iff_toNat_le, value, above, below, decide_true, Bool.and_self,
    ↓reduceIte]

/-- The last byte of a character completes it. -/
theorem step_last (above : low.toNat ≤ n) (below : n ≤ high.toNat) :
    Reader.step ⟨done, some ⟨bits, 0, low, high⟩⟩ (UInt8.ofNat n) =
      ⟨some (Char.ofNat (bits * 64 + n % 64)) :: done, none⟩ := by
  have value := toNat_byte (Nat.lt_of_le_of_lt below high.toNat_lt)
  simp only [Reader.step, UInt8.le_iff_toNat_le, value, above, below, decide_true, Bool.and_self,
    ↓reduceIte]

end

/-- The bytes of a character are read as that character. -/
theorem foldl_encodeChar (done : List Symbol) (c : Char) :
    (String.utf8EncodeChar c).foldl Reader.step ⟨done, none⟩ = ⟨some c :: done, none⟩ := by
  have scalar := toNat_val c
  have self : Char.ofNat c.val.toNat = c := Char.ofNat_toNat c
  fun_cases String.utf8EncodeChar c with
  | case1 v small =>
    simp only [List.foldl_cons, List.foldl_nil, step_first, Reader.start,
      first_one (Nat.lt_succ_of_le small)]
    rw [self]
  | case2 v large small =>
    have whole : (v / 64 % 32 + 192) % 32 * 64 + (v % 64 + 128) % 64 = c.val.toNat := by omega
    simp only [List.foldl_cons, List.foldl_nil, step_first, Reader.start]
    rw [first_two (by omega) (by omega)]
    dsimp only
    rw [step_last (by simp) (by simp; omega), whole, self]
  | case3 v _ large small =>
    have whole : ((v / 4096 % 16 + 224) % 16 * 64 + (v / 64 % 64 + 128) % 64) * 64 +
        (v % 64 + 128) % 64 = c.val.toNat := by omega
    simp only [List.foldl_cons, List.foldl_nil, step_first, Reader.start]
    rw [first_three (by omega) (by omega)]
    dsimp only
    rw [step_more (by split <;> simp; omega) (by split <;> simp <;> omega),
      step_last (by simp) (by simp; omega), whole, self]
  | case4 v _ _ large =>
    have whole : (((v / 262144 % 8 + 240) % 8 * 64 + (v / 4096 % 64 + 128) % 64) * 64 +
        (v / 64 % 64 + 128) % 64) * 64 + (v % 64 + 128) % 64 = c.val.toNat := by omega
    simp only [List.foldl_cons, List.foldl_nil, step_first, Reader.start]
    rw [first_four (by omega) (by omega)]
    dsimp only
    rw [step_more (by split <;> simp; omega) (by split <;> simp <;> omega),
      step_more (by simp) (by simp; omega), step_last (by simp) (by simp; omega), whole, self]

theorem foldl_encode (done : List Symbol) (text : List Char) :
    (text.flatMap String.utf8EncodeChar).foldl Reader.step ⟨done, none⟩ =
      ⟨(text.map some).reverse ++ done, none⟩ := by
  induction text generalizing done with
  | nil => rfl
  | cons c rest ih =>
    rw [List.flatMap_cons, List.foldl_append, foldl_encodeChar, ih, List.map_cons,
      List.reverse_cons, List.append_assoc, List.singleton_append]

/-- **What was encoded is decoded to what it was.** -/
theorem decode_encode (text : String) : decode (encode text) = text.toList.map some := by
  have read := foldl_encode [] text.toList
  rw [decode, encode, read, Reader.finish, List.append_nil, List.reverse_reverse]

/-! ## Reading a part of what was written -/

theorem foldl_first (done : List Symbol) {byte : UInt8} {pending : Pending} (begins : first byte = .inr pending)
    (rest : Bytes) :
    (byte :: rest).foldl Reader.step ⟨done, none⟩ = rest.foldl Reader.step ⟨done, some pending⟩ := by
  rw [List.foldl_cons, step_first, Reader.start, begins]

/-- Some of the bytes of a character, and not all of them, leave it unfinished. -/
theorem foldl_part (done : List Symbol) (c : Char) {count : Nat} (begun : 0 < count)
    (part : count < c.utf8Size) :
    ∃ pending, ((String.utf8EncodeChar c).take count).foldl Reader.step ⟨done, none⟩ =
      ⟨done, some pending⟩ := by
  have scalar := toNat_val c
  rw [← String.length_utf8EncodeChar] at part
  revert part
  fun_cases String.utf8EncodeChar c with
  | case1 v small =>
    intro part
    exact absurd (Nat.lt_one_iff.mp part) begun.ne'
  | case2 v large small =>
    intro part
    obtain rfl : count = 1 := Nat.le_antisymm (Nat.le_of_lt_succ part) begun
    rw [List.take_succ_cons, foldl_first done (first_two (by omega) (by omega))]
    exact ⟨_, rfl⟩
  | case3 v _ large small =>
    intro part
    have counts : count = 1 ∨ count = 2 := by
      have bound : count < 3 := part
      omega
    rcases counts with rfl | rfl <;>
      rw [List.take_succ_cons, foldl_first done (first_three (by omega) (by omega))]
    · exact ⟨_, rfl⟩
    · rw [List.take_succ_cons, List.foldl_cons, step_more (by split <;> simp; omega) (by split <;> simp <;> omega)]
      exact ⟨_, rfl⟩
  | case4 v _ _ large =>
    intro part
    have counts : count = 1 ∨ count = 2 ∨ count = 3 := by
      have bound : count < 4 := part
      omega
    rcases counts with rfl | rfl | rfl <;>
      rw [List.take_succ_cons, foldl_first done (first_four (by omega) (by omega))]
    · exact ⟨_, rfl⟩
    · rw [List.take_succ_cons, List.foldl_cons, step_more (by split <;> simp; omega) (by split <;> simp <;> omega)]
      exact ⟨_, rfl⟩
    · rw [List.take_succ_cons, List.foldl_cons, step_more (by split <;> simp; omega) (by split <;> simp <;> omega),
        List.take_succ_cons, List.foldl_cons, step_more (by simp) (by simp; omega)]
      exact ⟨_, rfl⟩

/-! ## How many symbols there are -/

/-- The bytes that may follow are none that a character begins with. -/
def Pending.Sound (pending : Pending) : Prop := 0x80 ≤ pending.low ∧ pending.high ≤ 0xBF

/-- A reader in which bytes may have been read. -/
def Reader.Sound (reader : Reader) : Prop := ∀ pending ∈ reader.pending, pending.Sound

/-- How many symbols there are if no more bytes follow. -/
def Reader.count (reader : Reader) : Nat := reader.done.length + (if reader.pending.isSome then 1 else 0)

theorem length_finish (reader : Reader) : reader.finish.length = reader.count := by
  obtain ⟨done, pending⟩ := reader
  cases pending <;> simp [Reader.finish, Reader.count]

theorem sound_start (done : List Symbol) (byte : UInt8) : (Reader.start done byte).Sound := by
  intro pending mem
  simp only [Reader.start, first] at mem
  grind [Pending.Sound]

theorem count_start (done : List Symbol) (byte : UInt8) : (Reader.start done byte).count = done.length + 1 := by
  rw [Reader.start]
  cases first byte <;> rfl

/-- A byte that does not go on with a character ends it, and is read again. -/
theorem step_outside (done : List Symbol) {pending : Pending} {byte : UInt8}
    (outside : ¬ (pending.low ≤ byte && byte ≤ pending.high) = true) :
    Reader.step ⟨done, some pending⟩ byte = Reader.start (none :: done) byte := by
  simp only [Reader.step, outside, Bool.false_eq_true, ↓reduceIte]

/-- A byte adds at most one symbol. -/
theorem count_step (reader : Reader) (byte : UInt8) :
    (reader.step byte).Sound ∧ (reader.step byte).count ≤ reader.count + 1 := by
  obtain ⟨done, _ | pending⟩ := reader
  · exact ⟨sound_start done byte, (count_start done byte).le⟩
  · by_cases within : (pending.low ≤ byte && byte ≤ pending.high) = true
    · obtain ⟨bits, after, low, high⟩ := pending
      cases after <;> simp [Reader.step, within, Reader.Sound, Reader.count, Pending.Sound]
    · rw [step_outside done within]
      exact ⟨sound_start _ byte, (count_start _ byte).le⟩

/-- Once a byte has been read there is a symbol. -/
theorem count_step_pos (reader : Reader) (byte : UInt8) : 0 < (reader.step byte).count := by
  obtain ⟨done, _ | pending⟩ := reader
  · exact (count_start done byte).symm ▸ Nat.succ_pos _
  · by_cases within : (pending.low ≤ byte && byte ≤ pending.high) = true
    · obtain ⟨bits, after, low, high⟩ := pending
      cases after <;> simp [Reader.step, within, Reader.count]
    · rw [step_outside done within, count_start]
      exact Nat.succ_pos _

/-- Something is read of all bytes but of none. -/
theorem lossy_eq_empty_iff {bytes : Bytes} : lossy bytes = "" ↔ bytes = [] := by
  constructor
  · intro empty
    by_contra nonempty
    obtain ⟨front, last, rfl⟩ := (List.eq_nil_or_concat' bytes).resolve_left nonempty
    rw [lossy, String.ofList_eq_empty_iff, List.map_eq_nil_iff, decode, List.foldl_concat] at empty
    have length := length_finish (Reader.step (front.foldl Reader.step {}) last)
    rw [empty] at length
    exact absurd length (count_step_pos _ last).ne
  · rintro rfl
    rfl

/-- A character begins with a byte that goes on with none. -/
theorem first_encodeChar (c : Char) : ∃ byte rest, String.utf8EncodeChar c = byte :: rest ∧
    ∀ pending : Pending, pending.Sound → ¬ (pending.low ≤ byte && byte ≤ pending.high) = true := by
  have scalar := toNat_val c
  have outside {n : Nat} (small : n < 0x80 ∨ 0xC0 ≤ n ∧ n < 256) (pending : Pending)
      (sound : pending.Sound) : ¬ (pending.low ≤ UInt8.ofNat n && UInt8.ofNat n ≤ pending.high) = true := by
    have value := toNat_byte (n := n) (by omega)
    obtain ⟨above, below⟩ := sound
    simp only [Bool.and_eq_true, decide_eq_true_eq, UInt8.le_iff_toNat_le, value, UInt8.reduceToNat] at *
    omega
  fun_cases String.utf8EncodeChar c with
  | case1 v small => exact ⟨_, _, rfl, outside (by omega)⟩
  | case2 v large small => exact ⟨_, _, rfl, outside (by omega)⟩
  | case3 v _ large small => exact ⟨_, _, rfl, outside (by omega)⟩
  | case4 v _ _ large => exact ⟨_, _, rfl, outside (by omega)⟩

/-- The bytes of a character add at most one symbol, whatever they follow. -/
theorem count_encodeChar {reader : Reader} (sound : reader.Sound) (c : Char) :
    ((String.utf8EncodeChar c).foldl Reader.step reader).Sound ∧
      ((String.utf8EncodeChar c).foldl Reader.step reader).count ≤ reader.count + 1 := by
  obtain ⟨done, _ | pending⟩ := reader
  · rw [foldl_encodeChar]
    exact ⟨nofun, le_rfl⟩
  · -- the first byte ends the character at hand and is read again
    obtain ⟨byte, rest, bytes, outside⟩ := first_encodeChar c
    have ended : Reader.step ⟨done, some pending⟩ byte = Reader.step ⟨none :: done, none⟩ byte :=
      step_outside done (outside pending (sound pending rfl))
    have again : (String.utf8EncodeChar c).foldl Reader.step ⟨done, some pending⟩ =
        (String.utf8EncodeChar c).foldl Reader.step ⟨none :: done, none⟩ := by
      rw [bytes, List.foldl_cons, List.foldl_cons, ended]
    rw [again, foldl_encodeChar]
    exact ⟨nofun, le_rfl⟩

end CodeJudge.Utf8
