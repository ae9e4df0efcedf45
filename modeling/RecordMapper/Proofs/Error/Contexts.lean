import RecordMapper.Error
/-!
# Contexts do not change an error

An error can be put under any number of messages and of other errors. What is put in front is told in
front, the last one first; the kind of the error and what lies behind it stay those of the error itself.
Only an error that nobody else holds and that stands on a cause of its own cannot be put in front.
-/

namespace RecordMapper

namespace Error

namespace Consequent

/-- Does not bring a cause of its own along. -/
def Bare : Consequent → Prop
  | message _ => True
  | owned error => error.contexts = []
  | shared _ => True

/-- What a consequent says of itself: of a shared error only the outermost part. -/
def text : Consequent → String
  | message text => text
  | owned error => error.message
  | shared error => error.outermost.message

def cause : Consequent → Cause
  | message text => .adhoc text
  | owned error => error.root
  | shared error => .adhoc error.outermost.message

theorem message_cause {c : Consequent} (h : c.Bare) : c.cause.message = c.text := by
  cases c with
  | message text => rfl
  | owned error =>
    have hcontexts : error.contexts = [] := h
    rw [text, Error.message, hcontexts, List.nil_append, List.map_singleton,
      String.intercalate_singleton]
    rfl
  | shared error => rfl

end Consequent

/-- `e` under the given causes, the first one outermost. -/
def underAll (e : Error) (causes : List Cause) : Error := ⟨causes ++ e.contexts, e.root⟩

theorem message_underAll (e : Error) (causes : List Cause) :
    (e.underAll causes).message =
      String.intercalate ": " (causes.map Cause.message ++ [e.message]) := by
  induction causes with
  | nil => simp [underAll, message]
  | cons c rest ih =>
    have hstep : e.underAll (c :: rest) = (e.underAll rest).under c := rfl
    have hne : rest.map Cause.message ++ [e.message] ≠ [] := by simp
    rw [hstep, message_under, ih, List.map_cons, List.cons_append,
      String.intercalate_cons_of_ne_nil hne]

theorem addContext_eq_ok_iff {e e' : Error} {c : Consequent} :
    e.addContext c = .ok e' ↔ c.Bare ∧ e.under c.cause = e' := by
  cases c with
  | message text => simp [addContext, Consequent.Bare, Consequent.cause, context]
  | owned error =>
    rw [addContext]
    by_cases h : error.contexts = []
    · simp [Consequent.Bare, Consequent.cause, h]
    · simp [Consequent.Bare, h]
  | shared error => simp [addContext, Consequent.Bare, Consequent.cause, context]

theorem foldlM_addContext_eq_ok_iff {e e' : Error} {cs : List Consequent} :
    cs.foldlM addContext e = .ok e' ↔
      (∀ c ∈ cs, c.Bare) ∧ e.underAll (cs.map Consequent.cause).reverse = e' := by
  induction cs generalizing e with
  | nil => simp [underAll, pure, Except.pure]
  | cons c rest ih =>
    -- contexts that are added later stand in front of `c`, and those of `e` behind it
    have hunder : (e.under c.cause).underAll (rest.map Consequent.cause).reverse =
        e.underAll ((c :: rest).map Consequent.cause).reverse := by
      simp [underAll, under]
    rw [List.foldlM_cons, List.forall_mem_cons, and_assoc, ← hunder, ← ih]
    cases hc : e.addContext c with
    | error misuse =>
      constructor
      · intro h
        cases h
      · rintro ⟨hbare, -⟩
        rw [addContext_eq_ok_iff.2 ⟨hbare, rfl⟩] at hc
        cases hc
    | ok e₁ =>
      obtain ⟨hbare, rfl⟩ := addContext_eq_ok_iff.1 hc
      exact (and_iff_right hbare).symm

end Error

/-- Contexts can be added one after the other exactly if none of them brings a cause along. The result
tells what each of them says of itself, from the last to the first, and then what the error says. It is
of each kind exactly if the error is, and what lies behind it is what lies behind the error. -/
theorem contexts_keep_kind_and_sources (e : Error) (cs : List Error.Consequent) :
    ((∃ e', cs.foldlM Error.addContext e = .ok e') ↔ ∀ c ∈ cs, c.Bare) ∧
    ∀ e', cs.foldlM Error.addContext e = .ok e' →
      e'.message =
          String.intercalate ": " ((cs.map Error.Consequent.text).reverse ++ [e.message]) ∧
        (∀ k, e'.kind = some k ↔ e.kind = some k) ∧ e'.sources = e.sources := by
  constructor
  · simp only [Error.foldlM_addContext_eq_ok_iff, exists_and_left, exists_eq', and_true]
  · intro e' h
    obtain ⟨hbare, rfl⟩ := Error.foldlM_addContext_eq_ok_iff.1 h
    have htexts : cs.map (Cause.message ∘ Error.Consequent.cause) = cs.map Error.Consequent.text :=
      List.map_congr_left fun c hc => Error.Consequent.message_cause (hbare c hc)
    refine ⟨?_, fun k => Iff.rfl, rfl⟩
    rw [Error.message_underAll, List.map_reverse, List.map_map, htexts]

/-- A driver's failure under a message, a failure of another library that is shared and stands under a
context of its own, and an error of another kind. -/
theorem contexts_keep_kind_and_sources_driver :
    let e : Error := .ofCause (.driver (.ofMessages "refused" ["timed out"]))
    let lost : Error := ⟨[.adhoc "reading"], .foreign (.ofMessages "outer" ["inner"])⟩
    let keyless : Error := .ofCause (.noKeyDefined "Log")
    let cs : List Error.Consequent := [.message "connecting", .shared lost, .owned keyless]
    (∀ c ∈ cs, c.Bare) ∧ ∃ e', cs.foldlM Error.addContext e = .ok e' ∧
      e'.message = "no key defined for `Log`; refusing to build an unrestricted WHERE clause: " ++
        "reading: connecting: refused: timed out" ∧
      e'.kind = some .driverOperationFailed ∧
      e'.sources = ["refused: timed out", "refused", "timed out"] := by
  intro e lost keyless cs
  have hbare : ∀ c ∈ cs, c.Bare := by
    simp [cs, keyless, Error.Consequent.Bare, Error.ofCause]
  obtain ⟨hiff, hresult⟩ := contexts_keep_kind_and_sources e cs
  obtain ⟨e', he'⟩ := hiff.2 hbare
  obtain ⟨hmessage, hkind, hsources⟩ := hresult e' he'
  refine ⟨hbare, e', he', ?_, (hkind _).2 rfl, ?_⟩
  · rw [hmessage]
    rfl
  · rw [hsources]
    rfl

end RecordMapper
