import RecordMapper.Declaration.Marker
import RecordMapper.Mapping
import RecordMapper.Proofs.Predicate.Fragment
/-!
# What accepted markers say

As long as nothing is refused, the markers found on a field are those that stand on it: whether it has a
`key` or an `auto`, and the literal of its `column`. What a field declares thus shows in its attributes,
without a run over them.
-/

namespace RecordMapper.Declaration

namespace Attribute

def literal? (a : Attribute) : Option TextLiteral :=
  match a.arguments with
  | .group [t] => TextLiteral.ofTree? t
  | .value [t] => TextLiteral.ofTree? t
  | _ => none

def literalOf? (name : String) (a : Attribute) : Option TextLiteral :=
  if a.name = some name then a.literal? else none

end Attribute

namespace Field

def carries (f : Field) (name : String) : Bool := f.attributes.any fun a => a.name == some name

def columnLiteral? (f : Field) : Option TextLiteral :=
  f.attributes.findSome? (Attribute.literalOf? "column")

/-- The field as its attributes declare it. -/
def mapping (f : Field) : FieldMapping :=
  ⟨unraw f.identifier, f.columnLiteral?.map TextLiteral.text, f.carries "key", f.carries "auto"⟩

theorem carries_eq_true_iff {f : Field} {name : String} :
    f.carries name = true ↔ ∃ a ∈ f.attributes, a.name = some name := by
  simp [carries]

end Field

def Struct.tableLiteral? (s : Struct) : Option TextLiteral :=
  s.attributes.findSome? (Attribute.literalOf? "table")

theorem TextLiteral.textContent?_of_ofTree? {t : TokenTree} {l : TextLiteral}
    (h : ofTree? t = some l) : Literal.textContent? l.written = some l.content := by
  unfold ofTree? at h
  split at h
  · obtain ⟨content, hcontent, rfl⟩ := Option.map_eq_some_iff.1 h
    exact hcontent
  · cases h

theorem Attribute.textContent?_of_findSome? {name : String} {attributes : List Attribute}
    {l : TextLiteral} (h : attributes.findSome? (literalOf? name) = some l) :
    Literal.textContent? l.written = some l.content := by
  obtain ⟨a, -, ha⟩ := List.exists_of_findSome?_eq_some h
  unfold literalOf? literal? at ha
  split_ifs at ha
  split at ha
  · exact TextLiteral.textContent?_of_ofTree? ha
  · exact TextLiteral.textContent?_of_ofTree? ha
  · cases ha

section Accepted

variable {a : Attribute} {l : TextLiteral}

theorem tableName_eq_ok (h : tableName a = .ok l) : a.literal? = some l := by
  unfold tableName at h
  split at h
  · rename_i t ha
    cases ht : TextLiteral.ofTree? t with
    | none =>
      rw [ht] at h
      cases h
    | some l' =>
      rw [ht] at h
      rw [Attribute.literal?, ha, ← Except.ok.inj h]
      exact ht
  · cases h

theorem columnName_eq_ok (h : columnName a = .ok l) : a.literal? = some l := by
  unfold columnName at h
  split at h
  · cases h
  · cases h
  · cases h
  · rename_i t rest ha
    cases ht : TextLiteral.ofTree? t with
    | none =>
      rw [ht] at h
      cases h
    | some l' =>
      rw [ht] at h
      dsimp only at h
      split_ifs at h with hrest hempty
      rw [Bool.not_eq_true, Bool.not_eq_false', List.isEmpty_iff] at hrest
      rw [Attribute.literal?, ha, hrest, ← Except.ok.inj h]
      exact ht

theorem withoutArguments_eq_ok {α : Type} {x y : α} (h : withoutArguments a x = .ok y) :
    x = y := by
  unfold withoutArguments at h
  split at h
  · exact Except.ok.inj h
  · cases h

theorem markTable_eq_ok {table next : Option TextLiteral} (h : markTable table a = .ok next) :
    next = table.or (a.literalOf? "table") := by
  unfold markTable at h
  split at h
  · rename_i hname
    split_ifs at h with htable
    obtain ⟨l, hl, rfl⟩ := Except.map_eq_ok_iff.1 h
    rw [Bool.not_eq_true, Option.isSome_eq_false_iff, Option.isNone_iff_eq_none] at htable
    rw [htable, Option.none_or, Attribute.literalOf?, if_pos hname, tableName_eq_ok hl]
  · cases h
  · cases h
  · rename_i hname _ _
    rw [Attribute.literalOf?, if_neg hname, Option.or_none]
    exact (Except.ok.inj h).symm

theorem Marks.add_eq_ok {m next : Marks} (h : m.add a = .ok next) :
    next = ⟨m.key || a.name == some "key", m.auto || a.name == some "auto",
      m.column.or (a.literalOf? "column")⟩ := by
  unfold add at h
  split at h
  · rename_i hname
    split_ifs at h
    rw [← withoutArguments_eq_ok h]
    simp [hname, Attribute.literalOf?]
  · rename_i hname
    split_ifs at h
    rw [← withoutArguments_eq_ok h]
    simp [hname, Attribute.literalOf?]
  · rename_i hname
    split_ifs at h with hcolumn
    obtain ⟨l, hl, rfl⟩ := Except.map_eq_ok_iff.1 h
    rw [Bool.not_eq_true, Option.isSome_eq_false_iff, Option.isNone_iff_eq_none] at hcolumn
    simp [hcolumn, hname, Attribute.literalOf?, columnName_eq_ok hl]
  · cases h
  · rename_i hkey hauto hcolumn _
    rw [← Except.ok.inj h, beq_eq_false_iff_ne.2 hkey, beq_eq_false_iff_ne.2 hauto,
      Attribute.literalOf?, if_neg hcolumn]
    simp

end Accepted

theorem findSome?_cons_or {α β : Type} {f : α → Option β} {a : α} {l : List α} :
    (a :: l).findSome? f = (f a).or (l.findSome? f) := by
  rw [← List.singleton_append, List.findSome?_append, List.findSome?_singleton]

theorem collect_cons {σ : Type} {step : σ → Attribute → Except Complaint σ} {found : σ}
    {a : Attribute} {rest : List Attribute} (h : (collect step found (a :: rest)).2 = []) :
    ∃ next, step found a = .ok next ∧
      collect step found (a :: rest) = collect step next rest := by
  rw [collect] at h ⊢
  cases hstep : step found a with
  | ok next => exact ⟨next, rfl, rfl⟩
  | error c =>
    rw [hstep] at h
    cases h

theorem collect_markTable {table : Option TextLiteral} {attributes : List Attribute}
    (h : (collect markTable table attributes).2 = []) :
    (collect markTable table attributes).1 =
      table.or (attributes.findSome? (Attribute.literalOf? "table")) := by
  induction attributes generalizing table with
  | nil => simp [collect]
  | cons a rest ih =>
    obtain ⟨next, hnext, hrest⟩ := collect_cons h
    rw [hrest] at h ⊢
    rw [ih h, markTable_eq_ok hnext, findSome?_cons_or, Option.or_assoc]

theorem Marks.collect_add {m : Marks} {attributes : List Attribute}
    (h : (collect add m attributes).2 = []) :
    (collect add m attributes).1 =
      ⟨m.key || attributes.any fun a => a.name == some "key",
        m.auto || attributes.any fun a => a.name == some "auto",
        m.column.or (attributes.findSome? (Attribute.literalOf? "column"))⟩ := by
  induction attributes generalizing m with
  | nil => simp [collect]
  | cons a rest ih =>
    obtain ⟨next, hnext, hrest⟩ := collect_cons h
    rw [hrest] at h ⊢
    rw [ih h, add_eq_ok hnext, findSome?_cons_or, List.any_cons, List.any_cons]
    simp only [Bool.or_assoc, Option.or_assoc]

/-- A field without complaints has the marks that its attributes say, and `auto` only beside `key`. -/
theorem Field.marks_eq {f : Field} (h : f.marks.2 = []) :
    f.marks.1 = ⟨f.carries "key", f.carries "auto", f.columnLiteral?⟩ ∧
      (f.carries "auto" = true → f.carries "key" = true) := by
  have hmarks : f.marks.1 = (collect Marks.add Marks.empty f.attributes).1 := rfl
  have hcomplaints : f.marks.2 = (collect Marks.add Marks.empty f.attributes).2 ++
      if f.marks.1.auto && !f.marks.1.key then [.autoWithoutKey] else [] := rfl
  rw [hcomplaints, List.append_eq_nil_iff] at h
  obtain ⟨hcollect, hauto⟩ := h
  have hfound : f.marks.1 = ⟨f.carries "key", f.carries "auto", f.columnLiteral?⟩ :=
    hmarks.trans (Marks.collect_add hcollect)
  refine ⟨hfound, fun ha => ?_⟩
  rw [hfound] at hauto
  by_contra hk
  rw [Bool.not_eq_true] at hk
  simp [ha, hk] at hauto

/-- A structure that is accepted has named fields, nothing is wrong with its markers, and the model is
made from them alone. -/
theorem Struct.check_eq_ok {s : Struct} {m : DeclaredModel} (h : s.check = .ok m) :
    ∃ fields, s.shape = .named fields ∧ (∀ f ∈ fields, f.marks.2 = []) ∧
      m = ⟨s.visibility, s.identifier, s.tableLiteral?, fields.map fun f =>
        ⟨f.identifier, f.type, f.carries "key", f.carries "auto", f.columnLiteral?⟩⟩ := by
  unfold check at h
  split at h
  · cases h
  rename_i fields hshape
  split_ifs at h
  split at h
  · rename_i hnone
    rw [complaints, List.append_eq_nil_iff, List.flatMap_eq_nil_iff] at hnone
    obtain ⟨htable, hfields⟩ := hnone
    have hmarks : (fields.map fun f => (⟨f.identifier, f.type, f.marks.1⟩ : DeclaredField)) =
        fields.map fun f =>
          ⟨f.identifier, f.type, f.carries "key", f.carries "auto", f.columnLiteral?⟩ := by
      refine List.map_congr_left fun f hf => ?_
      rw [(Field.marks_eq (hfields f hf)).1]
    refine ⟨fields, hshape, hfields, ?_⟩
    rw [← Except.ok.inj h, collect_markTable htable, Option.none_or, hmarks]
    rfl
  · cases h

end RecordMapper.Declaration
