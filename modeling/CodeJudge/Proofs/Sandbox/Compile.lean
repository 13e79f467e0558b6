import CodeJudge.Proofs.Actions
import CodeJudge.Proofs.Text.Cut
import CodeJudge.Sandbox.Compile

/-!
# What a failed compilation shows

Diagnostics are never empty: where a compiler printed nothing, the reason of its failure stands in.
-/

namespace CodeJudge.Sandbox

/-- There is something to say of every failure. -/
theorem CompileFailure.message_ne_empty (failure : CompileFailure) : failure.message ≠ "" := by
  have begins (start rest : String) (shown : start ≠ "") : start ++ rest ≠ "" := fun eq =>
    shown (String.append_eq_empty_iff.mp eq).1
  cases failure with
  | exited ending => exact begins _ _ (by decide)
  | notStarted program fault => exact begins _ _ (begins _ _ (begins _ _ (by decide)))
  | noProgram => decide
  | timedOut timeout => exact begins _ _ (begins _ _ (by decide))

/-- There is something to show of every failure, whatever was printed. -/
theorem diagnosticsOf_ne_empty (printed : Bytes) (failure : CompileFailure) :
    diagnosticsOf printed failure ≠ "" := by
  refine Cut.truncate_ne_empty ?_
  split
  · exact failure.message_ne_empty
  · rename_i shown
    exact fun eq => shown (String.isEmpty_iff.mpr eq)

/-- A compilation that fails comes with something to show, on every host. -/
theorem compile_failure {W : Type} {host : Host W} {toolchain : Toolchain}
    {directory source diagnostics : String} {timeout : Nanos} {world : W}
    (failed : ((compile host toolchain directory source timeout).run world).1 =
      .ok (.failure diagnostics)) : diagnostics ≠ "" := by
  simp only [compile, run_bind] at failed
  split at failed
  · cases failed
  · split at failed
    · cases failed
    · simp only [run_bind] at failed
      split at failed
      · cases failed
      · rw [run_pure] at failed
        obtain rfl := Compilation.failure.inj (Except.ok.inj failed)
        exact diagnosticsOf_ne_empty _ _

end CodeJudge.Sandbox
