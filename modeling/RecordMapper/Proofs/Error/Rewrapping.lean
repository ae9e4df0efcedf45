import RecordMapper.Error.Outline
import RecordMapper.Proofs.Text.Joined
import Mathlib.Logic.Function.Iterate
/-!
# Errors handed to a driver as failures

A failure tells the text of the error that it wraps and then what lies behind that error. The text of an
error already tells its causes, and behind a failure lies its own report. So a failure that is wrapped
repeats what it told, and every further wrapping makes three copies of one.
-/

namespace RecordMapper

theorem intercalate_replicate {separator text : String} {k : Nat} (hk : k ≠ 0) (n : Nat) :
    String.intercalate separator
        (List.replicate n (String.intercalate separator (List.replicate k text))) =
      String.intercalate separator (List.replicate (n * k) text) := by
  have hcopies : String.intercalate separator
        ((List.replicate n ()).flatMap fun _ => List.replicate k text) =
      String.intercalate separator ((List.replicate n ()).map fun _ =>
        String.intercalate separator (List.replicate k text)) := by
    apply intercalate_flatMap
    intro _ _
    simpa using hk
  rw [List.map_replicate, List.flatMap_def, List.map_replicate,
    List.flatten_replicate_replicate] at hcopies
  exact hcopies.symm

namespace Cause

def isReported : Cause → Bool
  | driver _ | foreign _ => true
  | _ => false

theorem sources_eq_nil_iff {c : Cause} : c.sources = [] ↔ c.isReported = false := by
  cases c <;> simp [sources, isReported, Report.messages]

end Cause

namespace Error

theorem message_asDriverFailure (e : Error) :
    e.asDriverFailure.message = String.intercalate ": " (e.message :: e.sources) := by
  rw [asDriverFailure, message_ofCause]
  rfl

theorem message_asDriverFailure_eq_iff {e : Error} :
    e.asDriverFailure.message = e.message ↔ e.sources = [] := by
  rw [message_asDriverFailure]
  constructor
  · intro h
    by_contra hne
    rw [String.intercalate_cons_of_ne_nil hne] at h
    have hlength := congrArg String.length h
    have hcolon : ": ".length = 2 := rfl
    rw [String.length_append, String.length_append] at hlength
    omega
  · intro h
    rw [h, String.intercalate_singleton]

/-- Behind a failure stands its text and then its report, which is the same text again. -/
theorem message_asDriverFailure_driver (r : Report) :
    (ofCause (.driver r)).asDriverFailure.message =
      String.intercalate ": " (List.replicate 3 (ofCause (.driver r)).message) := by
  have hmessage : (ofCause (.driver r)).message = r.joined := message_ofCause _
  have hsources : (ofCause (.driver r)).sources = r.joined :: r.messages := rfl
  have hne : r.messages ≠ [] := List.cons_ne_nil _ _
  calc
    (ofCause (.driver r)).asDriverFailure.message
      = String.intercalate ": " (r.joined :: r.joined :: r.messages) := by
        rw [message_asDriverFailure, hmessage, hsources]
    _ = r.joined ++ ": " ++ (r.joined ++ ": " ++ r.joined) := by
        rw [String.intercalate_cons_cons, String.intercalate_cons_of_ne_nil hne, Report.joined]
    _ = String.intercalate ": " (List.replicate 3 (ofCause (.driver r)).message) := by
        rw [hmessage]
        simp [List.replicate_succ]

theorem message_iterate_asDriverFailure (e : Error) (n : Nat) :
    (asDriverFailure^[n + 1] e).message =
      String.intercalate ": " (List.replicate (3 ^ n) e.asDriverFailure.message) := by
  induction n with
  | zero => simp
  | succ n ih =>
    have hcopies : 3 ^ n ≠ 0 := Nat.ne_of_gt (Nat.pow_pos (by decide))
    have hfailure : asDriverFailure^[n + 1] e = ofCause (.driver (asDriverFailure^[n] e).report) :=
      Function.iterate_succ_apply' asDriverFailure n e
    rw [Function.iterate_succ_apply', hfailure, message_asDriverFailure_driver, ← hfailure, ih,
      intercalate_replicate hcopies, Nat.pow_succ']

end Error

/-- An error that a driver hands on as its failure keeps its text exactly if no report stands at its root.
Otherwise the failure tells, behind that text, all that lies behind the error once more. Handing it on `n`
times more makes `3 ^ n` copies of what it told. -/
theorem rewrapped_text_iff (e : Error) :
    (e.asDriverFailure.message = e.message ↔ e.root.isReported = false) ∧
    ∀ n, (Error.asDriverFailure^[n + 1] e).message =
      String.intercalate ": "
        (List.replicate (3 ^ n) (String.intercalate ": " (e.message :: e.sources))) := by
  refine ⟨Error.message_asDriverFailure_eq_iff.trans Cause.sources_eq_nil_iff, ?_⟩
  intro n
  rw [← Error.message_asDriverFailure]
  exact e.message_iterate_asDriverFailure n

/-- A driver's failure under a context, handed on: the refusal is told three times. -/
theorem refusal_told_again :
    let e : Error := (Error.ofCause (.driver (.ofMessages "refused" []))).context "connecting"
    e.message = "connecting: refused" ∧
      e.asDriverFailure.message = "connecting: refused: refused: refused" ∧
      e.asDriverFailure.message ≠ e.message := by
  decide

end RecordMapper
