import CodeJudge.Proofs.Sandbox.Head
import CodeJudge.Proofs.Text.Truncation
import CodeJudge.Sandbox.Compile

/-!
# What is shown of an output

Of an output only the head is read. The head may end inside a character, which is then no text, and stands
as U+FFFD in what the head is read as; and that is cut a second time, where a character ends. This module
says what the two cuts come to when the whole output is text.

**The law** (`excerpt_of_complete_output`): on every host, what is reported of a case, and what is shown of a
compilation that has failed, is the longest beginning of the complete output that fits into the limit,
unless the head is no longer than the limit and ends after three of the four bytes of a character
(`EndsInFourth`). What is left of such a character takes up three bytes, as U+FFFD does, so that it is not
cut off: it is shown, and the output does not contain it (`excerpt_made_up`).

**What it does not establish.** Anything of outputs that are not text.
-/

namespace CodeJudge

open Cut (size takeBytes limit truncate)

/-! ## The head of a text -/

namespace Utf8

/-- **The head of a text is read as the characters that it holds**, and a part of a character after them as
one that is ill-formed. -/
theorem decode_take {text : String} {kept rest : List Char} {count : Nat}
    (split : text.toList = kept ++ rest) (fits : size kept ≤ count)
    (late : ∀ c later, rest = c :: later → count < size kept + c.utf8Size) :
    decode ((encode text).take count) =
      kept.map some ++ if rest ≠ [] ∧ size kept < count then [none] else [] := by
  have taken : (encode text).take count = kept.flatMap String.utf8EncodeChar ++
      (rest.flatMap String.utf8EncodeChar).take (count - size kept) := by
    rw [encode, split, List.flatMap_append, List.take_append, length_encode,
      List.take_of_length_le (by rw [length_encode]; exact fits)]
  rw [taken, decode, List.foldl_append, foldl_encode]
  cases rest with
  | nil => simp [Reader.finish]
  | cons c later =>
    have large := late c later rfl
    have own : ((c :: later).flatMap String.utf8EncodeChar).take (count - size kept) =
        (String.utf8EncodeChar c).take (count - size kept) := by
      rw [List.flatMap_cons, List.take_append_of_le_length]
      rw [String.length_utf8EncodeChar]
      omega
    rw [own]
    by_cases whole : size kept = count
    · simp [whole, Reader.finish]
    · -- some bytes of the next character are read, and not all of them
      have begun : 0 < count - size kept := by omega
      have part : count - size kept < c.utf8Size := by omega
      obtain ⟨pending, unfinished⟩ := foldl_part ((kept.map some).reverse ++ []) c begun part
      rw [unfinished, if_pos ⟨List.cons_ne_nil _ _, by omega⟩]
      simp [Reader.finish]

end Utf8

namespace Sandbox

open Utf8 (encode replacement lossy)

/-- The limit comes after three of the four bytes of a character. -/
def EndsInFourth (text : String) : Prop :=
  ∃ kept c rest, text.toList = kept ++ c :: rest ∧ size kept + 3 = limit ∧ c.utf8Size = 4

theorem lossy_take {text : String} {kept rest : List Char} {count : Nat}
    (split : text.toList = kept ++ rest) (fits : size kept ≤ count)
    (late : ∀ c later, rest = c :: later → count < size kept + c.utf8Size) :
    lossy ((encode text).take count) =
      String.ofList (kept ++ if rest ≠ [] ∧ size kept < count then [replacement] else []) := by
  rw [lossy, Utf8.decode_take split fits late, List.map_append, List.map_map]
  congr 2
  · exact List.map_id kept
  · split <;> rfl

/-- What is left of a character of which the last byte is missing stands in its place. -/
theorem captured_of_endsInFourth {text : String} (ends : EndsInFourth text) :
    captured ((encode text).take limit) = truncate text ++ String.singleton replacement := by
  obtain ⟨kept, c, rest, split, place, four⟩ := ends
  have fits : size kept ≤ limit := by omega
  have late : ∀ d later, c :: rest = d :: later → limit < size kept + d.utf8Size := by
    rintro _ _ ⟨⟩
    omega
  have room : takeBytes [replacement] (limit - size kept) = [replacement] :=
    Cut.takeBytes_of_size_le (by rw [show size [replacement] = 3 from rfl]; omega)
  have cut : takeBytes (c :: rest) (limit - size kept) = [] := Cut.takeBytes_of_lt (by omega) rest
  rw [captured, lossy_take split fits late, if_pos ⟨List.cons_ne_nil _ _, by omega⟩, Cut.truncate_eq,
    Cut.truncate_eq, String.toList_ofList, split, Cut.takeBytes_append, Cut.takeBytes_append, if_pos fits,
    if_pos fits, room, cut, List.append_nil, String.ofList_append]
  rfl

/-- In every other case, what the head holds past the limit or of a part of a character is cut off. -/
theorem captured_take {text : String} {count : Nat} (enough : limit ≤ count)
    (other : ¬ (count = limit ∧ EndsInFourth text)) :
    captured ((encode text).take count) = truncate text := by
  obtain ⟨rest, split, late⟩ := Cut.exists_takeBytes_append text.toList count
  have fits := Cut.size_takeBytes_le text.toList count
  generalize takeBytes text.toList count = kept at split late fits
  rw [captured, lossy_take split fits late, Cut.truncate_eq, Cut.truncate_eq, String.toList_ofList, split,
    Cut.takeBytes_append, Cut.takeBytes_append]
  by_cases within : size kept ≤ limit
  · rw [if_pos within, if_pos within]
    congr 2
    cases rest with
    | nil => rw [if_neg (fun more => more.1 rfl)]
    | cons c later =>
      have large := late c later rfl
      rw [Cut.takeBytes_of_lt (c := c) (by omega)]
      split_ifs with more
      · -- U+FFFD has a place only where three bytes of a longer character had one
        refine Cut.takeBytes_of_lt ?_ _
        by_contra place
        have three : replacement.utf8Size = 3 := rfl
        have four := c.utf8Size_le_four
        exact other ⟨by omega, kept, c, later, split, by omega, by omega⟩
      · rfl
  · rw [if_neg within, if_neg within]

/-- Something is read of every text that is not empty. -/
theorem lossy_take_ne_empty {text : String} (shown : text ≠ "") :
    lossy ((encode text).take limit) ≠ "" := by
  rw [ne_eq, Utf8.lossy_eq_empty_iff, List.take_eq_nil_iff, not_or]
  refine ⟨by decide, fun empty => shown ?_⟩
  have read := Utf8.decode_encode text
  rw [empty] at read
  exact String.toList_eq_nil_iff.mp (List.map_eq_nil_iff.mp read.symm)

/-- **What is shown of a text** of which a head has been read, one that is bounded by the limit or one that
goes past it. -/
structure Shows (bounded : Prop) (text shown : String) : Prop where
  /-- The longest beginning that fits into the limit is shown, and nothing else, unless a bounded head ends
  after three of the four bytes of a character. -/
  exact_iff : shown = truncate text ↔ ¬ (bounded ∧ EndsInFourth text)
  /-- Then there is one character too many. -/
  made_up : bounded → EndsInFourth text → shown = truncate text ++ String.singleton replacement

theorem shows_captured (text : String) {count : Nat} (enough : limit ≤ count) :
    Shows (count = limit) text (captured ((encode text).take count)) where
  exact_iff := by
    refine ⟨?_, captured_take enough⟩
    rintro same ⟨rfl, ends⟩
    rw [captured_of_endsInFourth ends, String.append_eq_left_iff] at same
    exact absurd same (by decide)
  made_up := by
    rintro rfl ends
    exact captured_of_endsInFourth ends

theorem headLength_eq_limit_iff (expected : Bytes) :
    headLength expected = limit ↔ expected.length < limit := by
  unfold headLength
  omega

/-- What a report shows of an output that is text. -/
theorem shows_report {observed : Observation} {exitedWell : Bool} {text : String}
    (exited : observed.ending = .ok exitedWell) (printed : observed.output = encode text) (memoryLimit : Nat)
    (expected : Bytes) :
    Shows (expected.length < limit) text ((observed.headed expected).report memoryLimit expected).output := by
  have shown := shows_captured text (Nat.le_max_right (expected.length + 1) limit)
  rw [← headLength, headLength_eq_limit_iff, ← printed] at shown
  simpa only [Observation.report, Observation.headed, exited] using shown

/-- What diagnostics show of a text that a compiler has printed. -/
theorem shows_diagnosticsOf {text : String} (printed : text ≠ "") (failure : CompileFailure) :
    Shows True text (diagnosticsOf ((encode text).take limit) failure) := by
  have shown := shows_captured text (Nat.le_refl limit)
  rw [eq_self, captured] at shown
  rwa [diagnosticsOf, if_neg (String.isEmpty_iff.not.mpr (lossy_take_ne_empty printed))]

/-! ## Observing a compilation to its end -/

/-- What has come of a compile command. -/
structure Transcript where
  /-- Why it has failed; none if it has not. -/
  failure : Option CompileFailure
  /-- All that the compiler has printed. -/
  printed : Bytes

/-- Compiles a source, and observes all that the compiler prints; none where there is nothing to be run. -/
def transcribe {W : Type} (host : Host W) (toolchain : Toolchain) (directory source : String)
    (timeout : Nanos) : StateM W (Except SourceFault (Option Transcript)) := do
  let path := Path.join directory toolchain.fileName
  match ← host.write path (encode source).toByteArray with
  | .error fault => return .error { path, fault }
  | .ok () =>
    match toolchain.compile with
    | none => return .ok none
    | some template =>
      let mapping := placeholders directory toolchain.fileName
      let failure ← runCompiler host (mapping.command template) directory timeout
      let printed ← host.whole (Path.join directory diagnosticsName)
      return .ok (some { failure, printed })

/-- What a compilation leads to, by the head of what was printed. -/
def concluded (artifact : Artifact) : Option Transcript → Compilation
  | some ⟨some failure, printed⟩ => .failure (diagnosticsOf (printed.take limit) failure)
  | some ⟨none, _⟩ | none => .success artifact

/-- Compiling does nothing else than observing the compiler, and goes by the head of what it has printed. -/
theorem compile_run {W : Type} (host : Host W) (toolchain : Toolchain) (directory source : String)
    (timeout : Nanos) (world : W) :
    (compile host toolchain directory source timeout).run world =
      (((transcribe host toolchain directory source timeout).run world).1.map
          (concluded { directory, command := (placeholders directory toolchain.fileName).command toolchain.run }),
        ((transcribe host toolchain directory source timeout).run world).2) := by
  cases wrote : (host.write (Path.join directory toolchain.fileName) (encode source).toByteArray).run world with
  | mk came after =>
    simp only [compile, transcribe, run_bind, wrote]
    cases came with
    | error fault => rfl
    | ok done =>
      cases toolchain.compile with
      | none => rfl
      | some template =>
        simp only [run_bind, Host.head_run]
        cases ran : (runCompiler host ((placeholders directory toolchain.fileName).command template) directory
          timeout).run after with
        | mk failure later => cases failure <;> rfl

/-! ## What is shown -/

/-- **What is shown of a complete output.** Where a program has been run to its end and all that it has
printed is text, the report on its case shows the longest beginning of that text that fits into the limit;
and so do the diagnostics of a compiler that has failed and has printed a text. Only where the head that is
read is bounded by the limit, and ends after three of the four bytes of a character, there is U+FFFD after
it. A head is bounded by the limit if a shorter output is expected, and that of a compiler always is. -/
theorem excerpt_of_complete_output {W : Type} (host : Host W) (world : W) (text : String) :
    Cut.Longest limit text (truncate text) ∧
    (∀ {artifact : Artifact} {case : Case} {memoryLimit : Nat} {timeLimit : Option Nanos}
        {observed : Observation} {exitedWell : Bool},
      ((observe host artifact case timeLimit).run world).1 = some observed →
      observed.ending = .ok exitedWell → observed.output = encode text →
      ∃ report, ((execute host artifact case memoryLimit timeLimit).run world).1 = some report ∧
        Shows ((encode case.expected).length < limit) text report.output) ∧
    ∀ {toolchain : Toolchain} {directory source : String} {timeout : Nanos} {failure : CompileFailure},
      ((transcribe host toolchain directory source timeout).run world).1 =
        .ok (some ⟨some failure, encode text⟩) → text ≠ "" →
      ∃ diagnostics, ((compile host toolchain directory source timeout).run world).1 =
          .ok (.failure diagnostics) ∧
        Shows True text diagnostics := by
  refine ⟨Cut.longest_truncate text, ?_, ?_⟩
  · intro artifact case memoryLimit timeLimit observed exitedWell came exited printed
    refine ⟨_, ?_, shows_report exited printed memoryLimit (encode case.expected)⟩
    rw [execute_run, came]
    rfl
  · intro toolchain directory source timeout failure came printed
    refine ⟨_, ?_, shows_diagnosticsOf printed failure⟩
    rw [compile_run, came]
    rfl

/-- A host on which every program prints the same, and exits with the same status. -/
def printing (text : String) (status : Nat) : Host Unit where
  write _ _ := return .ok ()
  read _ := return .ok (encode text).toByteArray
  run _ := return .ended (.exited status) 0
  makeDirectory root start := return .ok (root ++ start)
  removeDirectory _ := return
  resident := return none

/-- What a job is run with there. -/
def catting : Artifact := ⟨"/job", ["cat"]⟩

/-- A toolchain with a command that compiles. -/
def checking : Toolchain := ⟨"main", some ["check"], ["cat"]⟩

theorem whole_printing (text : String) (status : Nat) (path : String) :
    ((printing text status).whole path).run () = (encode text, ()) :=
  congrArg (·, ()) List.toList_data_toByteArray

theorem observe_printing (text : String) (case : Case) :
    ∃ observed, ((observe (printing text 0) catting case none).run ()).1 = some observed ∧
      observed.ending = .ok true ∧ observed.output = encode text :=
  ⟨_, rfl, rfl, congrArg Prod.fst (whole_printing text 0 (outputPath catting.directory case.index))⟩

theorem transcribe_printing (text : String) :
    ((transcribe (printing text 1) checking "/job" "" 0).run ()).1 =
      .ok (some ⟨some (.exited (.exited 1)), encode text⟩) := by
  have printed := congrArg Prod.fst (whole_printing text 1 (Path.join "/job" diagnosticsName))
  exact congrArg (fun printed => Except.ok (some (Transcript.mk _ printed))) printed

/-- A text with a character of four bytes, of which the limit leaves out the last. -/
def smiling : String := String.ofList (List.replicate 4093 'a' ++ ['😀'])

theorem endsInFourth_smiling : EndsInFourth smiling := by
  refine ⟨List.replicate 4093 'a', '😀', [], String.toList_ofList, ?_, rfl⟩
  rw [Cut.size_replicate]
  rfl

/-- Where a longer output is expected, all is well; and it never is for a compiler. -/
theorem excerpt_of_complete_output_smiling :
    (∃ report,
      ((execute (printing smiling 0) catting ⟨0, "", smiling⟩ 1024 none).run ()).1 = some report ∧
      report.output = truncate smiling) ∧
    ∃ diagnostics,
      ((compile (printing smiling 1) checking "/job" "" 0).run ()).1 = .ok (.failure diagnostics) ∧
      diagnostics = truncate smiling ++ "\uFFFD" := by
  have long : ¬ (encode smiling).length < limit := by
    obtain ⟨kept, c, rest, split, place, four⟩ := endsInFourth_smiling
    rw [encode, Utf8.length_encode, split, Cut.size_append, Cut.size_cons]
    omega
  have shown : smiling ≠ "" := by
    obtain ⟨kept, c, rest, split, -, -⟩ := endsInFourth_smiling
    rw [ne_eq, ← String.toList_eq_nil_iff, split]
    exact List.append_ne_nil_of_right_ne_nil _ (List.cons_ne_nil _ _)
  obtain ⟨-, reported, -⟩ := excerpt_of_complete_output (printing smiling 0) () smiling
  obtain ⟨-, -, told⟩ := excerpt_of_complete_output (printing smiling 1) () smiling
  obtain ⟨observed, came, exited, printed⟩ := observe_printing smiling ⟨0, "", smiling⟩
  obtain ⟨report, ran, report_shows⟩ := reported came exited printed
  obtain ⟨diagnostics, failed, diagnostics_show⟩ := told (transcribe_printing smiling) shown
  exact ⟨⟨report, ran, report_shows.exact_iff.mpr fun both => long both.1⟩,
    ⟨diagnostics, failed, diagnostics_show.made_up trivial endsInFourth_smiling⟩⟩

/-- **A character that was never printed.** The program exits well, and is reported to have printed U+FFFD. -/
theorem excerpt_made_up :
    ∃ observed report,
      ((observe (printing smiling 0) catting ⟨0, "", ""⟩ none).run ()).1 = some observed ∧
      observed.ending = .ok true ∧ observed.output = encode smiling ∧
      ((execute (printing smiling 0) catting ⟨0, "", ""⟩ 1024 none).run ()).1 = some report ∧
      report.output ≠ truncate smiling ∧ replacement ∈ report.output.toList ∧
      replacement ∉ smiling.toList := by
  obtain ⟨observed, came, exited, printed⟩ := observe_printing smiling ⟨0, "", ""⟩
  have shown := shows_report exited printed 1024 (encode "")
  have bounded : (encode "").length < limit := by decide
  refine ⟨observed, _, came, exited, printed, by rw [execute_run, came]; rfl, ?_, ?_, ?_⟩
  · exact fun same => shown.exact_iff.mp same ⟨bounded, endsInFourth_smiling⟩
  · rw [shown.made_up bounded endsInFourth_smiling, String.toList_append]
    exact List.mem_append_right _ (List.mem_singleton_self _)
  · intro there
    have letters : smiling.toList = List.replicate 4093 'a' ++ ['😀'] := String.toList_ofList
    rw [letters] at there
    rcases List.mem_append.mp there with letter | last
    · exact absurd (List.eq_of_mem_replicate letter) (by decide)
    · exact absurd (List.mem_singleton.mp last) (by decide)

end Sandbox

end CodeJudge
