import RecordMapper.Proofs.Statement.Batch
/-!
# Statements do not tell values

What a verb makes of a record depends on its length and on which of its values are null. Two records that
agree in this become statements that differ in the values of parameters at most, or are refused in the
same words.
-/

namespace RecordMapper

def SameNulls : List Value → List Value → Prop :=
  List.Forall₂ fun v w => v.isNull = w.isNull

/-- Both succeed, with results that are related, or both fail with the same error. -/
inductive Agree {α β : Type} (related : α → β → Prop) : Except Error α → Except Error β → Prop where
  | ok {a : α} {b : β} : related a b → Agree related (.ok a) (.ok b)
  | error (e : Error) : Agree related (.error e) (.error e)

structure Statement.SameShape (s t : Statement) : Prop where
  text : s.text = t.text
  names : s.names = t.names

namespace Agree

variable {α β : Type} {related : α → β → Prop} {x : Except Error α} {y : Except Error β}

theorem eq_error_or_eq_ok (h : Agree related x y) :
    (∃ e, x = .error e ∧ y = .error e) ∨ ∃ a b, x = .ok a ∧ y = .ok b ∧ related a b := by
  cases h with
  | ok hab => exact .inr ⟨_, _, rfl, rfl, hab⟩
  | error e => exact .inl ⟨e, rfl, rfl⟩

theorem map {γ δ : Type} {related' : γ → δ → Prop} {f : α → γ} {g : β → δ}
    (h : Agree related x y) (hfg : ∀ a b, related a b → related' (f a) (g b)) :
    Agree related' (x.map f) (y.map g) := by
  cases h with
  | ok hab => exact .ok (hfg _ _ hab)
  | error e => exact .error e

end Agree

theorem map_eq_of_forall₂ {α β γ : Type} {related : α → β → Prop} {l : List α} {l' : List β}
    (h : List.Forall₂ related l l') {f : α → γ} {g : β → γ} (hfg : ∀ a b, related a b → f a = g b) :
    l.map f = l'.map g := by
  induction h with
  | nil => rfl
  | cons hab _ ih => rw [List.map_cons, List.map_cons, hfg _ _ hab, ih]

namespace FieldValue

def SameShape (b c : FieldValue) : Prop := b.1 = c.1 ∧ b.2.isNull = c.2.isNull

theorem isKey_congr {b c : FieldValue} (h : b.SameShape c) : b.isKey = c.isKey := by
  rw [isKey, isKey, h.1]

theorem isSet_congr {b c : FieldValue} (h : b.SameShape c) : b.isSet = c.isSet := by
  rw [isSet, isSet, h.1, h.2]

theorem isInserted_congr {b c : FieldValue} (h : b.SameShape c) : b.isInserted = c.isInserted := by
  rw [isInserted, isInserted, h.1, h.2]

theorem binds_congr {b c : FieldValue} (verb : Verb) (h : b.SameShape c) :
    verb.binds b = verb.binds c := by
  cases verb with
  | insert => exact isInserted_congr h
  | update =>
    change (b.isKey || b.isSet) = (c.isKey || c.isSet)
    rw [isKey_congr h, isSet_congr h]
  | delete => exact isKey_congr h

theorem map_filter_congr {bound bound' : List FieldValue} (h : List.Forall₂ SameShape bound bound')
    {p : FieldValue → Bool} (hp : ∀ b c, SameShape b c → p b = p c) {α : Type}
    {f : FieldValue → α} (hf : ∀ b c, SameShape b c → f b = f c) :
    (bound.filter p).map f = (bound'.filter p).map f := by
  induction h with
  | nil => rfl
  | @cons b c rest rest' hbc _ ih =>
    rw [List.filter_cons, List.filter_cons, hp b c hbc]
    split_ifs with hc
    · rw [List.map_cons, List.map_cons, hf b c hbc, ih]
    · exact ih

theorem assignment_congr {b c : FieldValue} (index : Option Nat) (h : b.SameShape c) :
    assignment index b = assignment index c := by
  rw [assignment, assignment, h.1]

theorem forall₂_zip {fields : List FieldMapping} {record record' : List Value}
    (h : SameNulls record record') :
    List.Forall₂ SameShape (fields.zip record) (fields.zip record') := by
  induction h generalizing fields with
  | nil => simp
  | cons hv _ ih =>
    cases fields with
    | nil => exact .nil
    | cons f rest => exact .cons ⟨rfl, hv⟩ ih

end FieldValue

namespace Dialect

variable {d : Dialect} {verb : Verb} {m : EntityMapping} {index : Option Nat}
  {record record' : List Value} {records records' : List (List Value)}

theorem wording_congr {bound bound' : List FieldValue}
    (h : List.Forall₂ FieldValue.SameShape bound bound') :
    d.wording verb m index bound = d.wording verb m index bound' := by
  have chosen {p : FieldValue → Bool} (hp : ∀ b c, FieldValue.SameShape b c → p b = p c) :=
    FieldValue.map_filter_congr h hp fun b c => FieldValue.assignment_congr (b := b) (c := c) index
  have hkeys := chosen fun b c => FieldValue.isKey_congr (b := b) (c := c)
  have hset := chosen fun b c => FieldValue.isSet_congr (b := b) (c := c)
  have hinserted := chosen fun b c => FieldValue.isInserted_congr (b := b) (c := c)
  cases verb with
  | insert => simp only [wording, Verb.parts, EntityMapping.insertion, hinserted]
  | update => simp only [wording, Verb.parts, EntityMapping.modification, hset, hkeys]
  | delete => simp only [wording, Verb.parts, EntityMapping.deletion, hkeys]

theorem worded_sameShape (h : SameNulls record record') :
    (d.worded verb m index record).SameShape (d.worded verb m index record') := by
  have hbound : List.Forall₂ FieldValue.SameShape (m.fields.zip record) (m.fields.zip record') :=
    FieldValue.forall₂_zip h
  constructor
  · exact wording_congr hbound
  · rw [Statement.names, Statement.names, worded, worded, List.map_map, List.map_map]
    refine FieldValue.map_filter_congr hbound (fun b c => FieldValue.binds_congr verb) ?_
    intro b c hbc
    simp only [Function.comp_apply, FieldValue.parameter, hbc.1]

theorem isEmpty_filter_isSet_congr (h : SameNulls record record') :
    ((m.fields.zip record).filter FieldValue.isSet).isEmpty =
      ((m.fields.zip record').filter FieldValue.isSet).isEmpty := by
  have hbound : List.Forall₂ FieldValue.SameShape (m.fields.zip record) (m.fields.zip record') :=
    FieldValue.forall₂_zip h
  have hmap := FieldValue.map_filter_congr hbound
    (fun b c => FieldValue.isSet_congr (b := b) (c := c)) (f := Prod.fst) fun b c hbc => hbc.1
  have hlength := congrArg List.length hmap
  rw [List.length_map, List.length_map] at hlength
  rw [← Bool.coe_iff_coe, List.isEmpty_iff_length_eq_zero, List.isEmpty_iff_length_eq_zero, hlength]

theorem numbered_agree (h : SameNulls record record') :
    Agree Statement.SameShape (d.numbered verb m index record)
      (d.numbered verb m index record') := by
  have hlength := List.Forall₂.length_eq h
  by_cases harity : m.fields.length = record.length
  · have hb := EntityMapping.bindings_eq_ok_iff.2 ⟨harity, rfl⟩
    have hb' := EntityMapping.bindings_eq_ok_iff.2 ⟨harity.trans hlength, rfl⟩
    simp only [numbered_eq, hb, hb', isEmpty_filter_isSet_congr h]
    split_ifs
    · exact .error _
    · exact .ok (worded_sameShape h)
  · have hb : m.bindings record = m.bindings record' := by
      rw [EntityMapping.bindings, EntityMapping.bindings, ← hlength, if_neg harity, if_neg harity]
    obtain ⟨e, he⟩ : ∃ e, m.bindings record' = .error e := by
      rw [← hb, EntityMapping.bindings, if_neg harity]
      exact ⟨_, rfl⟩
    simp only [numbered_eq, hb, he]
    exact .error e

theorem single_agree (h : SameNulls record record') :
    Agree Statement.SameShape (d.single verb m record) (d.single verb m record') := by
  rw [single_eq, single_eq]
  cases checkKeys verb m with
  | error e => exact .error e
  | ok u => exact numbered_agree h

theorem statements_agree (first : Nat) (h : List.Forall₂ SameNulls records records') :
    Agree (List.Forall₂ Statement.SameShape) (d.statements verb m first records)
      (d.statements verb m first records') := by
  induction h generalizing first with
  | nil => exact .ok .nil
  | @cons record record' rest rest' hrecord _ ih =>
    have hs : Agree Statement.SameShape (d.numbered verb m (some first) record)
        (d.numbered verb m (some first) record') := numbered_agree hrecord
    rcases hs.eq_error_or_eq_ok with ⟨e, hx, hy⟩ | ⟨s, t, hx, hy, hst⟩
    · simp only [statements_cons, hx, hy]
      exact .error _
    · rcases (ih (first + 1)).eq_error_or_eq_ok with ⟨e, hxs, hys⟩ | ⟨ss, ts, hxs, hys, hsts⟩
      · simp only [statements_cons, hx, hy, hxs, hys]
        exact .error e
      · simp only [statements_cons, hx, hy, hxs, hys]
        exact .ok (.cons hst hsts)

theorem concat_sameShape {ss ts : List Statement} (h : List.Forall₂ Statement.SameShape ss ts) :
    (Statement.concat ss).SameShape (Statement.concat ts) := by
  have htexts := map_eq_of_forall₂ h fun _ _ hst => hst.text
  have hnames := map_eq_of_forall₂ h fun _ _ hst => hst.names
  constructor
  · simp only [Statement.concat, htexts]
  · simp only [Statement.names, Statement.concat, List.map_flatMap]
    exact congrArg List.flatten hnames

theorem batch_agree (h : List.Forall₂ SameNulls records records') :
    Agree (Option.Rel Statement.SameShape) (d.batch verb m records) (d.batch verb m records') := by
  rw [batch_eq, batch_eq]
  cases h with
  | nil => exact .ok .none
  | cons hrecord hrest =>
    cases checkKeys verb m with
    | error e => exact .error e
    | ok u =>
      refine (statements_agree 0 (.cons hrecord hrest)).map ?_
      intro ss ts hss
      exact .some (concat_sameShape hss)

end Dialect

end RecordMapper
