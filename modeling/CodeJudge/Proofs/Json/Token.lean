import CodeJudge.Json.Value
import CodeJudge.Proofs.Text.Decimal
import Mathlib.Tactic.IntervalCases

/-!
# Tokens read back

What is written for a value is read as the tokens of the value (`tokens_render`).

Every written token but a number is complete where its text ends. A number is complete only with what
follows it, so the law that is carried along a value says what the machine holds at the end of it
(`Holds`): the tokens of the value, the last of which may still be a number under way. What follows a
value is a comma, a closing bracket or the end, and each of them completes it.
-/

namespace CodeJudge.Json

namespace Lexer

/-- Reads characters one after another. -/
def read (lexer : Lexer) (text : List Char) : Lexer :=
  text.foldl (fun lexer c => lexer.step (some c)) lexer

theorem read_append (lexer : Lexer) (front back : List Char) :
    lexer.read (front ++ back) = (lexer.read front).read back := List.foldl_append

theorem read_cons (lexer : Lexer) (c : Char) (rest : List Char) :
    lexer.read (c :: rest) = (lexer.step (some c)).read rest := rfl

end Lexer

/-! ## Strings -/

theorem hexValue?_hexDigit {n : Nat} (small : n < 16) : hexValue? (hexDigit n) = some n := by
  revert n
  decide

/-- A digit of an escaped code unit is added to its value, and the last one completes it. -/
theorem step_unit (content : Content) (missing value : Nat) {c : Char} {digit : Nat}
    (hex : hexValue? c = some digit) (done : List Token) :
    (⟨.unit content missing value, done⟩ : Lexer).step (some c) =
      if missing ≤ 1 then ⟨.string (content.unit (value * 16 + digit)), done⟩
      else ⟨.unit content (missing - 1) (value * 16 + digit), done⟩ := by
  simp only [Lexer.step, hex]
  split <;> rfl

/-- A code unit that is no surrogate is its character. -/
theorem unit_of_small (content : Content) {unit : Nat} (small : unit < 0xD800) :
    content.unit unit = content.char (Char.ofNat unit) := by
  have leading : (0xD800 ≤ unit && unit < 0xDC00) = false := by
    simp only [Bool.and_eq_false_iff, decide_eq_false_iff_not]
    omega
  have trailing : (0xDC00 ≤ unit && unit < 0xE000) = false := by
    simp only [Bool.and_eq_false_iff, decide_eq_false_iff_not]
    omega
  simp only [Content.unit, leading, trailing, Bool.false_eq_true, ↓reduceIte]

/-- What is written for a character in a string is read as the character. -/
theorem read_escape (chars : List Char) (c : Char) (done : List Token) :
    Lexer.read ⟨.string ⟨chars, none, true⟩, done⟩ (escape c) =
      ⟨.string ⟨c :: chars, none, true⟩, done⟩ := by
  by_cases named : c ∈ ['"', '\\', '\x08', '\x0C', '\n', '\r', '\t']
  · simp only [List.mem_cons, List.not_mem_nil, or_false] at named
    rcases named with rfl | rfl | rfl | rfl | rfl | rfl | rfl
    all_goals rfl
  simp only [List.mem_cons, List.not_mem_nil, or_false, not_or] at named
  obtain ⟨noQuote, noBackslash, noBack, noFeed, noLine, noReturn, noTab⟩ := named
  by_cases control : c.toNat < 0x20
  · -- a control character is written by its number, in four digits
    have high := hexValue?_hexDigit (n := c.toNat / 16) (by omega)
    have low := hexValue?_hexDigit (n := c.toNat % 16) (by omega)
    have whole : ((0 * 16 + 0) * 16 + c.toNat / 16) * 16 + c.toNat % 16 = c.toNat := by omega
    have self : Char.ofNat c.toNat = c := Char.ofNat_toNat c
    simp only [escape, noQuote, noBackslash, noBack, noFeed, noLine, noReturn, noTab, control, ↓reduceIte]
    show Lexer.read ⟨.unit ⟨chars, none, true⟩ 2 (0 * 16 + 0), done⟩
      [hexDigit (c.toNat / 16), hexDigit (c.toNat % 16)] = _
    rw [Lexer.read_cons, step_unit _ _ _ high, if_neg (by decide), Lexer.read_cons, step_unit _ _ _ low,
      if_pos (by decide), whole, unit_of_small _ (by omega), self]
    rfl
  · simp only [escape, noQuote, noBackslash, noBack, noFeed, noLine, noReturn, noTab, control, ↓reduceIte]
    show Lexer.quoted ⟨.string ⟨chars, none, true⟩, done⟩ ⟨chars, none, true⟩ c = _
    rw [Lexer.quoted, if_neg noQuote, if_neg noBackslash, if_neg control]
    rfl

theorem read_escapes (chars text : List Char) (done : List Token) :
    Lexer.read ⟨.string ⟨chars, none, true⟩, done⟩ (text.flatMap escape) =
      ⟨.string ⟨text.reverse ++ chars, none, true⟩, done⟩ := by
  induction text generalizing chars with
  | nil => rfl
  | cons c rest ih =>
    rw [List.flatMap_cons, Lexer.read_append, read_escape, ih, List.reverse_cons, List.append_assoc,
      List.singleton_append]

/-- A written string is read as the string. -/
theorem read_quote (text : String) (done : List Token) :
    Lexer.read ⟨.between, done⟩ (quote text) = ⟨.between, .string (some text) :: done⟩ := by
  rw [quote, List.cons_append, Lexer.read_cons, Lexer.read_append]
  show ((Lexer.read ⟨.string ⟨[], none, true⟩, done⟩ (text.toList.flatMap escape)).step (some '"')) = _
  rw [read_escapes, List.append_nil]
  show (⟨.between, .string (some (String.ofList text.toList.reverse.reverse)) :: done⟩ : Lexer) = _
  rw [List.reverse_reverse, String.ofList_toList]

/-! ## Numbers -/

/-- What the machine holds where a value has ended: all of its tokens, or all but a number under way. -/
inductive Holds (done : List Token) : Lexer → Prop
  | between : Holds done ⟨.between, done⟩
  | number {part : Numeral} {text : List Char} {before : List Token} (ends : part.mayEnd = true)
      (same : done = .number text.reverse :: before) : Holds done ⟨.number part text, before⟩

/-- Where the text ends, the tokens are complete. -/
theorem Holds.finish {done : List Token} {lexer : Lexer} (holds : Holds done lexer) :
    lexer.finish = done.reverse := by
  cases holds with
  | between => rfl
  | number ends same =>
    subst same
    simp only [Lexer.finish, ends, ↓reduceIte]
    rfl

/-- Whether a character is one that ends a value. -/
def isEnd (c : Char) : Prop := c = ',' ∨ c = ']' ∨ c = '\x7d'

/-- What ends a value completes a number that is under way, and is then read for itself. -/
theorem Holds.step {done : List Token} {lexer : Lexer} (holds : Holds done lexer) {c : Char}
    (ending : isEnd c) : lexer.step (some c) = (⟨.between, done⟩ : Lexer).step (some c) := by
  cases holds with
  | between => rfl
  | @number part text before ends same =>
    subst same
    show Lexer.numeral ⟨.number part text, before⟩ part text c = _
    -- no part that may end goes on with such a character
    have stops : part.next? c = none := by
      rcases ending with rfl | rfl | rfl <;> revert ends <;> cases part <;> decide
    have away : ('0' ≤ c && c ≤ '9') = false := by
      rcases ending with rfl | rfl | rfl <;> decide
    simp only [Lexer.numeral, stops, ends, away, Bool.not_false, Bool.and_self, ↓reduceIte]
    rfl

theorem next?_whole {c : Char} (isDigit : Decimal.IsDigit c) : Numeral.whole.next? c = some .whole := by
  obtain ⟨n, small, rfl⟩ := isDigit
  revert n
  decide

theorem next?_minus {c : Char} (isDigit : Decimal.IsDigit c) (notZero : c ≠ '0') :
    Numeral.minus.next? c = some .whole := by
  obtain ⟨n, small, rfl⟩ := isDigit
  revert n
  decide

theorem begin_digit {c : Char} (isDigit : Decimal.IsDigit c) (notZero : c ≠ '0') (done : List Token) :
    Lexer.begin ⟨.between, done⟩ c = ⟨.number .whole [c], done⟩ := by
  obtain ⟨n, small, rfl⟩ := isDigit
  interval_cases n
  · exact absurd rfl notZero
  all_goals rfl

theorem read_digits (text rest : List Char) (digits : ∀ c ∈ rest, Decimal.IsDigit c) (done : List Token) :
    Lexer.read ⟨.number .whole text, done⟩ rest = ⟨.number .whole (rest.reverse ++ text), done⟩ := by
  induction rest generalizing text with
  | nil => rfl
  | cons c rest ih =>
    have next := next?_whole (digits c List.mem_cons_self)
    have step : (⟨.number .whole text, done⟩ : Lexer).step (some c) = ⟨.number .whole (c :: text), done⟩ := by
      show Lexer.numeral ⟨.number .whole text, done⟩ .whole text c = _
      simp only [Lexer.numeral, next]
      rfl
    rw [Lexer.read_cons, step, ih (c :: text) fun c mem => digits c (List.mem_cons_of_mem _ mem),
      List.reverse_cons, List.append_assoc, List.singleton_append]

theorem read_number (n : Int) (done : List Token) :
    Holds (.number (Decimal.render n) :: done) (Lexer.read ⟨.between, done⟩ (Decimal.render n)) := by
  obtain ⟨first, rest, split, isDigit, zero, digits⟩ := Decimal.digits_eq_cons n.natAbs
  unfold Decimal.render
  by_cases negative : n < 0
  · have notZero : first ≠ '0' := fun same => absurd (zero same).1 (by omega)
    have next := next?_minus isDigit notZero
    have step : (⟨.number .minus ['-'], done⟩ : Lexer).step (some first) =
        ⟨.number .whole [first, '-'], done⟩ := by
      show Lexer.numeral ⟨.number .minus ['-'], done⟩ .minus ['-'] first = _
      simp only [Lexer.numeral, next]
      rfl
    rw [if_pos negative, split, Lexer.read_cons, Lexer.read_cons]
    show Holds _ (((⟨.number .minus ['-'], done⟩ : Lexer).step (some first)).read rest)
    rw [step, read_digits _ _ digits]
    exact .number rfl (by simp)
  · rw [if_neg negative, split, Lexer.read_cons]
    by_cases isZero : first = '0'
    · obtain ⟨-, none_⟩ := zero isZero
      subst isZero none_
      exact .number rfl rfl
    · show Holds _ ((Lexer.begin ⟨.between, done⟩ first).read rest)
      rw [begin_digit isDigit isZero, read_digits _ _ digits]
      exact .number rfl (by simp)

/-! ## Values -/

/-- What is written for tokens. -/
def renderAll (tokens : List Token) : List Char := tokens.flatMap Token.render

theorem renderAll_append (front back : List Token) :
    renderAll (front ++ back) = renderAll front ++ renderAll back := List.flatMap_append

theorem renderAll_cons (token : Token) (rest : List Token) :
    renderAll (token :: rest) = token.render ++ renderAll rest := List.flatMap_cons

/-- Where a token that ends a value follows, it is read after the value. -/
theorem Holds.read_end {done : List Token} {lexer : Lexer} (holds : Holds done lexer) {c : Char}
    {token : Token} (ending : isEnd c) (written : token.render = [c])
    (reads : Lexer.begin ⟨.between, done⟩ c = ⟨.between, token :: done⟩) :
    lexer.read token.render = ⟨.between, token :: done⟩ := by
  rw [written]
  show lexer.step (some c) = _
  rw [holds.step ending]
  exact reads

mutual

/-- The tokens of a value are held where its text ends. -/
theorem holds_value (done : List Token) : (value : Value) →
    Holds (value.tokens.reverse ++ done) (Lexer.read ⟨.between, done⟩ (renderAll value.tokens))
  | .null => .between
  | .bool true => .between
  | .bool false => .between
  | .int n => by
    show Holds _ (Lexer.read ⟨.between, done⟩ (Decimal.render n ++ []))
    rw [List.append_nil]
    exact read_number n done
  | .string text => by
    show Holds _ (Lexer.read ⟨.between, done⟩ (quote text ++ []))
    rw [List.append_nil, read_quote]
    exact .between
  | .array items => by
    have inner := holds_items (.openArray :: done) items
    rw [Value.tokens, List.cons_append, renderAll_cons, renderAll_append, Lexer.read_append,
      Lexer.read_append]
    show Holds _ ((Lexer.read ⟨.between, .openArray :: done⟩ (renderAll (itemTokens items))).read
      (Token.closeArray.render ++ []))
    rw [List.append_nil, inner.read_end (.inr (.inl rfl)) rfl rfl]
    simp only [List.reverse_cons, List.reverse_append, List.reverse_nil, List.append_assoc,
      List.singleton_append, List.nil_append]
    exact .between
  | .object members => by
    have inner := holds_members (.openObject :: done) members
    rw [Value.tokens, List.cons_append, renderAll_cons, renderAll_append, Lexer.read_append,
      Lexer.read_append]
    show Holds _ ((Lexer.read ⟨.between, .openObject :: done⟩ (renderAll (memberTokens members))).read
      (Token.closeObject.render ++ []))
    rw [List.append_nil, inner.read_end (.inr (.inr rfl)) rfl rfl]
    simp only [List.reverse_cons, List.reverse_append, List.reverse_nil, List.append_assoc,
      List.singleton_append, List.nil_append]
    exact .between

theorem holds_items (done : List Token) : (items : List Value) →
    Holds ((itemTokens items).reverse ++ done)
      (Lexer.read ⟨.between, done⟩ (renderAll (itemTokens items)))
  | [] => .between
  | [item] => holds_value done item
  | item :: next :: rest => by
    have first := holds_value done item
    have others := holds_items (.comma :: (item.tokens.reverse ++ done)) (next :: rest)
    rw [itemTokens, renderAll_append, Lexer.read_append, renderAll_cons, Lexer.read_append,
      first.read_end (.inl rfl) rfl rfl]
    simp only [List.reverse_append, List.reverse_cons, List.append_assoc, List.singleton_append]
    exact others

theorem holds_members (done : List Token) : (members : List (String × Value)) →
    Holds ((memberTokens members).reverse ++ done)
      (Lexer.read ⟨.between, done⟩ (renderAll (memberTokens members)))
  | [] => .between
  | [(name, value)] => by
    have inner := holds_value (.colon :: .string (some name) :: done) value
    rw [memberTokens, renderAll_cons, renderAll_cons, Lexer.read_append, Lexer.read_append]
    show Holds _ (((Lexer.read ⟨.between, done⟩ (quote name)).read [':']).read (renderAll value.tokens))
    rw [read_quote]
    simp only [List.reverse_cons, List.append_assoc, List.singleton_append]
    exact inner
  | (name, value) :: next :: rest => by
    have first := holds_value (.colon :: .string (some name) :: done) value
    have others := holds_members
      (.comma :: (value.tokens.reverse ++ .colon :: .string (some name) :: done)) (next :: rest)
    rw [memberTokens, List.cons_append, List.cons_append, renderAll_cons, renderAll_cons, renderAll_append,
      renderAll_cons, Lexer.read_append, Lexer.read_append, Lexer.read_append, Lexer.read_append]
    show Holds _ (((((Lexer.read ⟨.between, done⟩ (quote name)).read [':']).read
      (renderAll value.tokens)).read Token.comma.render).read (renderAll (memberTokens (next :: rest))))
    rw [read_quote]
    show Holds _ (((Lexer.read ⟨.between, .colon :: .string (some name) :: done⟩
      (renderAll value.tokens)).read Token.comma.render).read (renderAll (memberTokens (next :: rest))))
    rw [first.read_end (.inl rfl) rfl rfl]
    simp only [List.reverse_append, List.reverse_cons, List.append_assoc, List.singleton_append]
    exact others

end

/-- **What is written for a value is read as its tokens.** -/
theorem tokens_render (value : Value) : tokens (value.render.toList.map some) = value.tokens := by
  have holds := holds_value [] value
  rw [tokens, Value.render, String.toList_ofList, List.foldl_map]
  exact holds.finish.trans (by rw [List.append_nil, List.reverse_reverse])

end CodeJudge.Json
