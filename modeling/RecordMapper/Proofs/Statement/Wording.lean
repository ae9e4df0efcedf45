import RecordMapper.Proofs.Statement.Refusal
import RecordMapper.Proofs.Statement.Secrecy
/-!
# What a dialect decides

A dialect words statements and decides nothing else. Whether a statement comes about, what it fails with
and what it binds are the same in every dialect, and the text follows from the one wording that the
statement needs. Of several wordings that were put in one after the other, the last one counts.
-/

namespace RecordMapper

inductive Wording where
  | insertion | modification | deletion | selection
deriving DecidableEq

def Wording.Subject : Wording → Type
  | insertion => Insertion
  | modification => Modification
  | deletion => Deletion
  | selection => Selection

structure Replacement where
  wording : Wording
  text : wording.Subject → String

namespace Replacement

def text? (w : Wording) (r : Replacement) : Option (w.Subject → String) :=
  if h : r.wording = w then some (h ▸ r.text) else none

/-- The last text that was put in for a wording, or else the old one. -/
def last (w : Wording) (old : w.Subject → String) (rs : List Replacement) : w.Subject → String :=
  (rs.filterMap (text? w)).getLast?.getD old

end Replacement

namespace Dialect

def textOf (d : Dialect) : (w : Wording) → w.Subject → String
  | .insertion => d.insertion
  | .modification => d.modification
  | .deletion => d.deletion
  | .selection => d.selection

def replace (d : Dialect) : Replacement → Dialect
  | ⟨.insertion, text⟩ => d.withInsertion text
  | ⟨.modification, text⟩ => d.withModification text
  | ⟨.deletion, text⟩ => d.withDeletion text
  | ⟨.selection, text⟩ => d.withSelection text

theorem textOf_replace (d : Dialect) (r : Replacement) (w : Wording) :
    (d.replace r).textOf w = (r.text? w).getD (d.textOf w) := by
  obtain ⟨replaced, text⟩ := r
  cases replaced <;> cases w <;> rfl

theorem textOf_foldl_replace (d : Dialect) (rs : List Replacement) (w : Wording) :
    (rs.foldl replace d).textOf w = Replacement.last w (d.textOf w) rs := by
  induction rs generalizing d with
  | nil => rfl
  | cons r rest ih =>
    rw [List.foldl_cons, ih, textOf_replace, Replacement.last, Replacement.last, List.filterMap_cons]
    -- what `r` puts in is the old text for the replacements behind it
    cases r.text? w with
    | none => rfl
    | some text => rw [List.getLast?_cons, Option.getD_some, Option.getD_some]

end Dialect

def Verb.wordedBy : Verb → Wording
  | insert => .insertion
  | update => .modification
  | delete => .deletion

/-- Something that a dialect makes a statement of. -/
inductive Task where
  | single (verb : Verb) (record : List Value)
  | batch (verb : Verb) (records : List (List Value))
  | deleteWhere (filter : Expr)
  | select (filter : Option Expr)

namespace Task

def wordedBy : Task → Wording
  | single verb _ => verb.wordedBy
  | batch verb _ => verb.wordedBy
  | deleteWhere _ => .deletion
  | select _ => .selection

def statement (d : Dialect) (m : EntityMapping) : Task → Except Error (Option Statement)
  | single verb record => (d.single verb m record).map some
  | batch verb records => d.batch verb m records
  | deleteWhere filter => (d.deleteWhere m filter).map some
  | select filter => (d.select m filter).map some

end Task

structure Statement.Rewords (same : Prop) (s t : Statement) : Prop where
  parameters : s.parameters = t.parameters
  text : same → s.text = t.text

theorem Statement.Rewords.eq {same : Prop} {s t : Statement} (h : s.Rewords same t) (hsame : same) :
    s = t := by
  obtain ⟨text, parameters⟩ := s
  obtain ⟨text', parameters'⟩ := t
  obtain rfl : text = text' := h.text hsame
  obtain rfl : parameters = parameters' := h.parameters
  rfl

namespace Agree

variable {α β : Type} {related : α → β → Prop} {x : Except Error α} {y : Except Error β}

theorem of_failure? (hfails : failure? x = failure? y)
    (hok : ∀ a b, x = .ok a → y = .ok b → related a b) : Agree related x y := by
  cases x with
  | error e =>
    cases y with
    | error e' =>
      obtain rfl : e = e' := Option.some.inj hfails
      exact .error e
    | ok b => cases hfails
  | ok a =>
    cases y with
    | error e => cases hfails
    | ok b => exact .ok (hok a b rfl rfl)

theorem eq {x y : Except Error α} (h : Agree Eq x y) : x = y := by
  rcases h.eq_error_or_eq_ok with ⟨e, rfl, rfl⟩ | ⟨a, b, rfl, rfl, rfl⟩
  · rfl
  · rfl

theorem mono {related' : α → β → Prop} (h : Agree related x y)
    (himp : ∀ a b, related a b → related' a b) : Agree related' x y := by
  cases h with
  | ok hab => exact .ok (himp _ _ hab)
  | error e => exact .error e

end Agree

namespace Dialect

variable (d d' : Dialect) (m : EntityMapping) {verb : Verb} {index : Option Nat}

theorem wording_congr_of_textOf (h : d.textOf verb.wordedBy = d'.textOf verb.wordedBy)
    (bound : List FieldValue) : d.wording verb m index bound = d'.wording verb m index bound := by
  cases verb with
  | insert => exact congrFun h (m.insertion index bound)
  | update => exact congrFun h (m.modification index bound)
  | delete => exact congrFun h (m.deletion index bound)

theorem worded_rewords (record : List Value) :
    (d.worded verb m index record).Rewords (d.textOf verb.wordedBy = d'.textOf verb.wordedBy)
      (d'.worded verb m index record) :=
  ⟨rfl, fun h => wording_congr_of_textOf d d' m h _⟩

theorem concat_wordedFrom_rewords (first : Nat) (records : List (List Value)) :
    (Statement.concat (d.wordedFrom verb m first records)).Rewords
      (d.textOf verb.wordedBy = d'.textOf verb.wordedBy)
      (Statement.concat (d'.wordedFrom verb m first records)) := by
  constructor
  · simp only [Statement.concat, wordedFrom, List.flatMap_map]
    rfl
  · intro h
    have hall : d.wordedFrom verb m first records = d'.wordedFrom verb m first records := by
      refine List.map_congr_left fun r _ => ?_
      exact (d.worded_rewords d' m r.1).eq h
    rw [hall]

theorem single_rewords (record : List Value) :
    Agree (Statement.Rewords (d.textOf verb.wordedBy = d'.textOf verb.wordedBy))
      (d.single verb m record) (d'.single verb m record) := by
  apply Agree.of_failure?
  · rw [failure?_single, failure?_single]
  · intro s t hs ht
    obtain ⟨-, -, rfl⟩ := single_eq_ok_iff.1 hs
    obtain ⟨-, -, rfl⟩ := single_eq_ok_iff.1 ht
    exact d.worded_rewords d' m record

theorem batch_rewords (records : List (List Value)) :
    Agree (Option.Rel (Statement.Rewords (d.textOf verb.wordedBy = d'.textOf verb.wordedBy)))
      (d.batch verb m records) (d'.batch verb m records) := by
  by_cases hrecords : records = []
  · rw [batch_eq_ok_none_iff.2 hrecords, batch_eq_ok_none_iff.2 hrecords]
    exact .ok .none
  · apply Agree.of_failure?
    · rw [failure?_batch hrecords, failure?_batch hrecords]
    · intro s t hs ht
      cases s with
      | none => exact absurd (batch_eq_ok_none_iff.1 hs) hrecords
      | some s =>
        cases t with
        | none => exact absurd (batch_eq_ok_none_iff.1 ht) hrecords
        | some t =>
          obtain ⟨-, -, -, rfl⟩ := batch_eq_ok_some_iff.1 hs
          obtain ⟨-, -, -, rfl⟩ := batch_eq_ok_some_iff.1 ht
          exact .some (d.concat_wordedFrom_rewords d' m 0 records)

theorem deleteMatching_rewords (text : String) :
    (d.deleteMatching m text).Rewords (d.textOf .deletion = d'.textOf .deletion)
      (d'.deleteMatching m text) :=
  ⟨rfl, fun h => congrFun h ⟨m.table, .predicate text⟩⟩

theorem selectMatching_rewords (text : Option String) :
    (d.selectMatching m text).Rewords (d.textOf .selection = d'.textOf .selection)
      (d'.selectMatching m text) :=
  ⟨rfl, fun h => congrFun h ⟨m.table, text⟩⟩

end Dialect

theorem Task.statement_rewords (d d' : Dialect) (m : EntityMapping) (task : Task) :
    Agree (Option.Rel (Statement.Rewords (d.textOf task.wordedBy = d'.textOf task.wordedBy)))
      (task.statement d m) (task.statement d' m) := by
  cases task with
  | single verb record => exact (d.single_rewords d' m record).map fun _ _ h => .some h
  | batch verb records => exact d.batch_rewords d' m records
  | deleteWhere filter =>
    simp only [statement, Dialect.deleteWhere]
    cases filter.compile m with
    | error e => exact .error e
    | ok text => exact .ok (.some (d.deleteMatching_rewords d' m text))
  | select filter =>
    simp only [statement, Dialect.select]
    cases filter with
    | none => exact .ok (.some (d.selectMatching_rewords d' m none))
    | some e =>
      dsimp only
      cases e.compile m with
      | error e => exact .error e
      | ok text => exact .ok (.some (d.selectMatching_rewords d' m (some text)))

/-- Of the wordings that are put into a dialect the last one counts. In any two dialects, whatever
wordings were put into them, a statement comes about or not, fails with the same error and binds the same
parameters. If the one wording that it needs is the same in both, it is the same statement, however the
dialects differ elsewhere. -/
theorem dialects_differ_in_text_only (d d' : Dialect) (rs rs' : List Replacement) (m : EntityMapping)
    (task : Task) :
    (∀ w, (rs.foldl Dialect.replace d).textOf w = Replacement.last w (d.textOf w) rs) ∧
    Agree (Option.Rel fun s t => s.parameters = t.parameters)
      (task.statement (rs.foldl Dialect.replace d) m)
      (task.statement (rs'.foldl Dialect.replace d') m) ∧
    (Replacement.last task.wordedBy (d.textOf task.wordedBy) rs =
        Replacement.last task.wordedBy (d'.textOf task.wordedBy) rs' →
      task.statement (rs.foldl Dialect.replace d) m =
        task.statement (rs'.foldl Dialect.replace d') m) := by
  have hagree := task.statement_rewords (rs.foldl Dialect.replace d) (rs'.foldl Dialect.replace d') m
  refine ⟨d.textOf_foldl_replace rs, ?_, ?_⟩
  · apply hagree.mono
    rintro _ _ (h | _)
    · exact .some h.parameters
    · exact .none
  · intro hlast
    rw [← Dialect.textOf_foldl_replace, ← Dialect.textOf_foldl_replace] at hlast
    apply Agree.eq
    apply hagree.mono
    rintro _ _ (h | _)
    · rw [h.eq hlast]
    · rfl

/-- A dialect that says nothing, into which the standard wording of deletions is put after another one:
a deletion is worded as in the standard dialect, and an insertion only binds the same. -/
theorem dialects_differ_in_text_only_deletion :
    let m : EntityMapping := ⟨"Part", none, [⟨"id", none, true, true⟩, ⟨"name", none, false, false⟩]⟩
    let silent : Dialect := ⟨fun _ => "", fun _ => "", fun _ => "", fun _ => ""⟩
    let rs : List Replacement := [⟨.deletion, fun _ => "DELETE"⟩, ⟨.selection, Selection.table⟩,
      ⟨.deletion, Deletion.standard⟩, ⟨.insertion, Insertion.table⟩]
    let deletion : Task := .batch .delete [[.int32 1, .null], [.int32 2, .string "b"]]
    let insertion : Task := .single .insert [.null, .string "a"]
    deletion.statement (rs.foldl Dialect.replace silent) m = deletion.statement .standard m ∧
      ∃ s t, insertion.statement (rs.foldl Dialect.replace silent) m = .ok (some s) ∧
        insertion.statement .standard m = .ok (some t) ∧ s.parameters = t.parameters ∧
        s.text = "Part" ∧ t.text = "INSERT Part (name) VALUES (@name)" := by
  intro m silent rs deletion insertion
  obtain ⟨-, -, hdeletion⟩ := dialects_differ_in_text_only silent .standard rs [] m deletion
  exact ⟨hdeletion rfl, _, _, rfl, rfl, rfl, rfl, rfl⟩

end RecordMapper
