import CodeJudge.Http.Url
import Mathlib.Data.List.TakeWhile

/-!
# Addresses of services

The address of a service stands between the scheme and the path of what the service is asked for. Where
the address is plain, it is read back from the text as it was put in, and the target is that of the path
alone (`ofText_rooted`). Where the path is plain too, it is the target (`ofText_service`).
-/

namespace CodeJudge.Http.Url

/-- Whether an address names whom to connect to, and nothing beside. -/
def isPlain (address : String) : Bool :=
  address.toList.all fun c => !endsAuthority c && !isBreak c

/-- Whether a path is written as it is asked for, without a query. -/
def isPlainPath (path : String) : Bool :=
  path.toList.head? == some '/' && path.toList.getLast?.all (!isEdge ·)
    && path.toList.all (fun c => !isBreak c && c != '#' && c != '?') && Url.path path.toList == path.toList

/-- What is left of the end of an address when it is cleaned. -/
def trim (text : List Char) : List Char :=
  ((text.reverse.dropWhile isEdge).reverse).filter (!isBreak ·)

/-- The target of a path and query that have been cleaned, less the slash that they begin with. -/
def targetOf (text : List Char) : String :=
  let whole := text.takeWhile (· != '#')
  let before := whole.takeWhile (· != '?')
  String.ofList (path ('/' :: before) ++ Percent.encode mayStandInQuery (whole.drop before.length))

theorem trim_sublist (text : List Char) : (trim text).Sublist text := by
  refine List.filter_sublist.trans ?_
  rw [← List.reverse_sublist, List.reverse_reverse]
  exact List.dropWhile_sublist _

/-- **Cleaning leaves the end of an address as it is** where it has no breaks and ends in no blank. -/
theorem trim_eq_iff {text : List Char} : trim text = text ↔
    (∀ c ∈ text.getLast?, isEdge c = false) ∧ ∀ c ∈ text, isBreak c = false := by
  constructor
  · intro same
    constructor
    · intro c last
      obtain ⟨front, rfl⟩ := List.getLast?_eq_some_iff.mp last
      by_contra edge
      -- a blank at the end would be cut off, and nothing makes up for it
      have shorter : (trim (front ++ [c])).length ≤ front.length := by
        rw [trim, List.reverse_append, List.reverse_singleton, List.singleton_append,
          List.dropWhile_cons_of_pos (by simpa using edge)]
        exact (trim_sublist front).length_le
      rw [same, List.length_append, List.length_singleton] at shorter
      omega
    · intro c mem
      rw [← same] at mem
      simpa using (List.mem_filter.mp mem).2
  · rintro ⟨closes, unbroken⟩
    have kept : text.reverse.dropWhile isEdge = text.reverse := by
      cases last : text.reverse with
      | nil => rfl
      | cons c rest =>
        rw [List.dropWhile_cons_of_neg]
        rw [closes c (by rw [← List.head?_reverse, last]; rfl)]
        exact Bool.false_ne_true
    rw [trim, kept, List.reverse_reverse]
    exact List.filter_eq_self.mpr fun c mem => by rw [unbroken c mem]; rfl

/-- An address is cleaned from its first slash on. -/
theorem clean_append {front : List Char} (opens : ∀ c ∈ front.head?, isEdge c = false)
    (unbroken : ∀ c ∈ front, isBreak c = false) (rest : List Char) :
    clean (front ++ '/' :: rest) = front ++ '/' :: trim rest := by
  have started : (front ++ '/' :: rest).dropWhile isEdge = front ++ '/' :: rest := by
    cases front with
    | nil => exact List.dropWhile_cons_of_neg (by decide)
    | cons c others =>
      exact List.dropWhile_cons_of_neg (by rw [opens c rfl]; exact Bool.false_ne_true)
  have kept : front.filter (!isBreak ·) = front :=
    List.filter_eq_self.mpr fun c mem => by rw [unbroken c mem]; rfl
  -- what is cut off at the end does not go beyond the slash
  have ended : (rest.reverse ++ '/' :: front.reverse).dropWhile isEdge =
      rest.reverse.dropWhile isEdge ++ '/' :: front.reverse := by
    rw [List.dropWhile_append]
    split
    · rename_i empty
      rw [List.isEmpty_iff.mp empty]
      exact List.dropWhile_cons_of_neg (by decide)
    · rfl
  rw [clean, started, List.reverse_append, List.reverse_cons, List.append_assoc, List.singleton_append,
    ended, List.reverse_append, List.reverse_cons, List.reverse_reverse, List.append_assoc,
    List.singleton_append, List.filter_append, kept, List.filter_cons_of_pos (by decide), trim]

/-- **The target of what a service is asked for** is that of the path alone. -/
theorem ofText_rooted {address path : String} (plain : isPlain address = true) {rest : List Char}
    (rooted : path.toList = '/' :: rest) :
    ofText ("http://" ++ address ++ path) = ⟨address, targetOf (trim rest)⟩ := by
  simp only [isPlain, List.all_eq_true, Bool.and_eq_true, Bool.not_eq_true'] at plain
  have text : ("http://" ++ address ++ path).toList = (scheme ++ address.toList) ++ '/' :: rest := by
    rw [String.toList_append, String.toList_append, rooted]
    rfl
  have unbroken : ∀ c ∈ scheme ++ address.toList, isBreak c = false := by
    intro c mem
    rcases List.mem_append.mp mem with mem | mem
    · have schemed : scheme.all (!isBreak ·) = true := by decide
      simpa using List.all_eq_true.mp schemed c mem
    · exact (plain c mem).2
  have cleaned : clean ("http://" ++ address ++ path).toList =
      scheme ++ (address.toList ++ '/' :: trim rest) := by
    rw [text, clean_append _ unbroken, List.append_assoc]
    intro c mem
    cases mem
    decide
  have authority : (address.toList ++ '/' :: trim rest).takeWhile (!endsAuthority ·) = address.toList := by
    have kept : ∀ c ∈ address.toList, (!endsAuthority c) = true := by
      intro c mem
      rw [(plain c mem).1]
      rfl
    rw [List.takeWhile_append_of_pos kept, List.takeWhile_cons_of_neg (by decide), List.append_nil]
  have fragment : ('/' :: trim rest).takeWhile (· != '#') = '/' :: (trim rest).takeWhile (· != '#') :=
    List.takeWhile_cons_of_pos (by decide)
  have query (text : List Char) : ('/' :: text).takeWhile (· != '?') = '/' :: text.takeWhile (· != '?') :=
    List.takeWhile_cons_of_pos (by decide)
  simp only [ofText, cleaned, List.drop_left, authority, fragment, query, List.length_cons,
    List.drop_succ_cons, targetOf, String.ofList_toList]

/-- **Whom to connect to and what to ask for** are read from the text of an address as they were put in. -/
theorem ofText_service {address path : String} (plain : isPlain address = true)
    (plainPath : isPlainPath path = true) : ofText ("http://" ++ address ++ path) = ⟨address, path⟩ := by
  simp only [isPlainPath, Bool.and_eq_true, beq_iff_eq, List.all_eq_true, bne_iff_ne, ne_eq,
    Bool.not_eq_true', Option.all_eq_true] at plainPath
  obtain ⟨⟨⟨opens, closes⟩, plainChars⟩, asked⟩ := plainPath
  obtain ⟨rest, rooted⟩ := List.head?_eq_some_iff.mp opens
  rw [rooted] at closes plainChars
  have plainRest : ∀ c ∈ rest, _ := fun c mem => plainChars c (List.mem_cons_of_mem _ mem)
  have trimmed : trim rest = rest := by
    refine trim_eq_iff.mpr ⟨fun c mem => closes c ?_, fun c mem => (plainRest c mem).1.1⟩
    rw [List.getLast?_cons, mem]
    rfl
  have whole : rest.takeWhile (· != '#') = rest :=
    List.takeWhile_eq_self_iff.mpr fun c mem => bne_iff_ne.mpr (plainRest c mem).1.2
  have bare : rest.takeWhile (· != '?') = rest :=
    List.takeWhile_eq_self_iff.mpr fun c mem => bne_iff_ne.mpr (plainRest c mem).2
  rw [ofText_rooted plain rooted, trimmed]
  simp only [targetOf, whole, bare, List.drop_length, ← rooted, asked, Percent.encode, List.flatMap_nil,
    List.append_nil, String.ofList_toList]

end CodeJudge.Http.Url
