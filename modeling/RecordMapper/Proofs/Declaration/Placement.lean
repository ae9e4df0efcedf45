import RecordMapper.Proofs.Declaration.Marks
import RecordMapper.Proofs.Declaration.Reports
import Mathlib.Data.List.Induction
/-!
# Which markers a declaration may have

A declaration is accepted exactly if each marker stands where it belongs, at most once and with the
arguments that it takes, and `auto` only beside `key`. There is one gap: a structure may carry `auto`,
which says nothing there.
-/

namespace RecordMapper.Declaration

/-- The markers of a structure: at most one table, with its name, and no key and no column. -/
structure Struct.WellMarked (s : Struct) : Prop where
  noKey : ∀ a ∈ s.attributes, a.name ≠ some "key"
  noColumn : ∀ a ∈ s.attributes, a.name ≠ some "column"
  tableOnce : s.attributes.countP (fun a => a.name = some "table") ≤ 1
  tableNamed : ∀ a ∈ s.attributes, a.name = some "table" →
    ∃ t l, a.arguments = .value [t] ∧ TextLiteral.ofTree? t = some l

def Struct.CarriesAuto (s : Struct) : Prop := ∃ a ∈ s.attributes, a.name = some "auto"

/-- The markers of a field: each at most once and with its arguments, no table, no `auto` without a key. -/
structure Field.WellMarked (f : Field) : Prop where
  noTable : ∀ a ∈ f.attributes, a.name ≠ some "table"
  keyOnce : f.attributes.countP (fun a => a.name = some "key") ≤ 1
  autoOnce : f.attributes.countP (fun a => a.name = some "auto") ≤ 1
  columnOnce : f.attributes.countP (fun a => a.name = some "column") ≤ 1
  keyBare : ∀ a ∈ f.attributes, a.name = some "key" → a.arguments = .none
  autoBare : ∀ a ∈ f.attributes, a.name = some "auto" → a.arguments = .none
  columnNamed : ∀ a ∈ f.attributes, a.name = some "column" →
    ∃ t l, a.arguments = .group [t] ∧ TextLiteral.ofTree? t = some l ∧ l.content ≠ []
  autoKeyed : f.carries "auto" = true → f.carries "key" = true

section Flaws

variable {a : Attribute}

theorem exists_tableName_eq_ok_iff :
    (∃ l, tableName a = .ok l) ↔
      ∃ t l, a.arguments = .value [t] ∧ TextLiteral.ofTree? t = some l := by
  constructor
  · rintro ⟨l, h⟩
    unfold tableName at h
    split at h
    · rename_i t ha
      split at h
      · rename_i l' ht
        exact ⟨t, l', ha, ht⟩
      · cases h
    · cases h
  · rintro ⟨t, l, ha, ht⟩
    refine ⟨l, ?_⟩
    unfold tableName
    rw [ha]
    dsimp only
    rw [ht]

theorem exists_columnName_eq_ok_iff :
    (∃ l, columnName a = .ok l) ↔
      ∃ t l, a.arguments = .group [t] ∧ TextLiteral.ofTree? t = some l ∧ l.content ≠ [] := by
  constructor
  · rintro ⟨l, h⟩
    unfold columnName at h
    split at h
    · cases h
    · cases h
    · cases h
    · rename_i t rest ha
      split at h
      · cases h
      · rename_i l' ht
        split_ifs at h with hrest hempty
        rw [Bool.not_eq_true, Bool.not_eq_false', List.isEmpty_iff] at hrest
        rw [List.isEmpty_iff] at hempty
        exact ⟨t, l', hrest ▸ ha, ht, hempty⟩
  · rintro ⟨t, l, ha, ht, hne⟩
    refine ⟨l, ?_⟩
    unfold columnName
    rw [ha]
    dsimp only
    rw [ht]
    dsimp only
    rw [List.isEmpty_nil, Bool.not_true, if_neg Bool.false_ne_true, if_neg]
    simpa using hne

theorem exists_withoutArguments_eq_ok_iff :
    (∃ x, withoutArguments a () = .ok x) ↔ a.arguments = .none := by
  unfold withoutArguments
  split <;> simp_all

end Flaws

theorem Marker.flaw?_eq_none_iff {k : Marker} {a : Attribute} :
    k.flaw? a = none ↔
      match k with
      | .table => ∃ t l, a.arguments = .value [t] ∧ TextLiteral.ofTree? t = some l
      | .key | .auto => a.arguments = .none
      | .column => ∃ t l, a.arguments = .group [t] ∧ TextLiteral.ofTree? t = some l ∧
          l.content ≠ [] := by
  cases k with
  | table => exact refusal?_eq_none_iff.trans exists_tableName_eq_ok_iff
  | key => exact refusal?_eq_none_iff.trans exists_withoutArguments_eq_ok_iff
  | auto => exact refusal?_eq_none_iff.trans exists_withoutArguments_eq_ok_iff
  | column => exact refusal?_eq_none_iff.trans exists_columnName_eq_ok_iff

namespace Place

variable {p : Place} {attributes : List Attribute} {a : Attribute} {k : Marker}

/-- The place takes every marker that stands in it, at most once, and none has a flaw. -/
structure Accepts (p : Place) (attributes : List Attribute) : Prop where
  own : ∀ a ∈ attributes, ∀ k, a.name = some k.name →
    if p.takes k then k.flaw? a = none else p.misplaced? k = none
  once : ∀ k, p.takes k → attributes.countP (fun a => a.name = some k.name) ≤ 1

theorem report_concat :
    p.report (attributes ++ [a]) = p.report attributes ++ (p.complaint? attributes a).toList := by
  have hearlier : (attributes.zipIdx.filterMap fun x =>
        p.complaint? ((attributes ++ [a]).take x.2) x.1) = p.report attributes := by
    apply List.filterMap_congr
    intro x hmem
    have hx : x.2 ≤ attributes.length := Nat.le_of_lt (by simpa using List.snd_lt_of_mem_zipIdx hmem)
    rw [List.take_append_of_le_length hx]
  rw [report, List.zipIdx_append, List.filterMap_append, hearlier]
  cases h : p.complaint? attributes a <;> simp [h]

theorem Accepts.any_isFlawless (h : p.Accepts attributes) (ht : p.takes k = true) :
    attributes.any (Attribute.isFlawless k) = attributes.any fun a => a.name == some k.name := by
  rw [Bool.eq_iff_iff, List.any_eq_true, List.any_eq_true]
  refine exists_congr fun a => and_congr_right fun ha => ?_
  rw [Attribute.isFlawless_iff, beq_iff_eq]
  refine and_iff_left_of_imp fun hname => ?_
  have hown := h.own a ha k hname
  rwa [if_pos ht] at hown

theorem Accepts.complaint?_eq_none_iff (h : p.Accepts attributes) :
    p.complaint? attributes a = none ↔ ∀ k, a.name = some k.name →
      if p.takes k then
        attributes.countP (fun a => a.name = some k.name) = 0 ∧ k.flaw? a = none
      else p.misplaced? k = none := by
  rw [complaint?, verdict?_eq_none_iff]
  refine forall₂_congr fun k _ => ?_
  by_cases ht : p.takes k = true
  · rw [if_pos ht, if_pos ht, h.any_isFlawless ht, List.any_eq_false, List.countP_eq_zero]
    simp
  · rw [if_neg ht, if_neg ht]

theorem accepts_concat :
    p.Accepts (attributes ++ [a]) ↔ p.Accepts attributes ∧ p.complaint? attributes a = none := by
  constructor
  · intro h
    have hfirst : p.Accepts attributes := by
      refine ⟨fun b hb => h.own b (List.mem_append_left _ hb), fun k ht => ?_⟩
      have honce := h.once k ht
      rw [List.countP_append] at honce
      omega
    refine ⟨hfirst, hfirst.complaint?_eq_none_iff.2 fun k hname => ?_⟩
    have hown := h.own a (List.mem_append_right _ (List.mem_singleton_self a)) k hname
    by_cases ht : p.takes k = true
    · have honce := h.once k ht
      have hone : [a].countP (fun a => a.name = some k.name) = 1 := by simp [hname]
      rw [List.countP_append] at honce
      rw [if_pos ht] at hown ⊢
      exact ⟨by omega, hown⟩
    · rw [if_neg ht] at hown ⊢
      exact hown
  · rintro ⟨h, hnone⟩
    rw [h.complaint?_eq_none_iff] at hnone
    constructor
    · intro b hb k hname
      rw [List.mem_append, List.mem_singleton] at hb
      rcases hb with hb | rfl
      · exact h.own b hb k hname
      · have hlast := hnone k hname
        split_ifs at hlast ⊢
        · exact hlast.2
        · exact hlast
    · intro k ht
      rw [List.countP_append]
      by_cases hname : a.name = some k.name
      · have hlast := hnone k hname
        rw [if_pos ht] at hlast
        simp [hlast.1, hname]
      · simpa [hname] using h.once k ht

theorem report_eq_nil_iff : p.report attributes = [] ↔ p.Accepts attributes := by
  -- From the end: what is wrong with an attribute depends on those in front of it.
  induction attributes using List.reverseRecOn with
  | nil => exact iff_of_true rfl ⟨by simp, by simp⟩
  | append_singleton attributes a ih =>
    rw [report_concat, List.append_eq_nil_iff, ih, Option.toList_eq_nil_iff, accepts_concat]

end Place

theorem Struct.wellMarked_iff {s : Struct} :
    s.WellMarked ↔ Place.model.Accepts s.attributes := by
  constructor
  · intro h
    constructor
    · intro a ha k hname
      cases k with
      | table => exact Marker.flaw?_eq_none_iff.2 (h.tableNamed a ha hname)
      | key => exact absurd hname (h.noKey a ha)
      | auto => rfl
      | column => exact absurd hname (h.noColumn a ha)
    · intro k ht
      cases k with
      | table => exact h.tableOnce
      | key | auto | column => cases ht
  · intro h
    refine ⟨?_, ?_, h.once .table rfl, ?_⟩
    · intro a ha hname
      exact Option.some_ne_none _ (h.own a ha .key hname)
    · intro a ha hname
      exact Option.some_ne_none _ (h.own a ha .column hname)
    · intro a ha hname
      exact Marker.flaw?_eq_none_iff.1 (h.own a ha .table hname)

theorem Field.wellMarked_iff {f : Field} :
    f.WellMarked ↔ Place.field.Accepts f.attributes ∧
      (f.carries "auto" = true → f.carries "key" = true) := by
  constructor
  · intro h
    refine ⟨⟨?_, ?_⟩, h.autoKeyed⟩
    · intro a ha k hname
      cases k with
      | table => exact absurd hname (h.noTable a ha)
      | key => exact Marker.flaw?_eq_none_iff.2 (h.keyBare a ha hname)
      | auto => exact Marker.flaw?_eq_none_iff.2 (h.autoBare a ha hname)
      | column => exact Marker.flaw?_eq_none_iff.2 (h.columnNamed a ha hname)
    · intro k ht
      cases k with
      | table => cases ht
      | key => exact h.keyOnce
      | auto => exact h.autoOnce
      | column => exact h.columnOnce
  · rintro ⟨h, hauto⟩
    refine ⟨?_, h.once .key rfl, h.once .auto rfl, h.once .column rfl, ?_, ?_, ?_, hauto⟩
    · intro a ha hname
      exact Option.some_ne_none _ (h.own a ha .table hname)
    · intro a ha hname
      exact Marker.flaw?_eq_none_iff.1 (h.own a ha .key hname)
    · intro a ha hname
      exact Marker.flaw?_eq_none_iff.1 (h.own a ha .auto hname)
    · intro a ha hname
      exact Marker.flaw?_eq_none_iff.1 (h.own a ha .column hname)

theorem Field.report_eq_nil_iff {f : Field} : f.report = [] ↔ f.WellMarked := by
  rw [report, List.append_eq_nil_iff, Place.report_eq_nil_iff, wellMarked_iff]
  refine and_congr_right fun h => ?_
  rw [h.any_isFlawless (k := .auto) rfl, h.any_isFlawless (k := .key) rfl]
  change (if f.carries "auto" && !f.carries "key" then [Complaint.autoWithoutKey] else []) = [] ↔ _
  cases f.carries "auto" <;> cases f.carries "key" <;> simp

theorem exists_ok_of_isSome {text : String} (h : (generate text).toOption.isSome = true) :
    ∃ e, generate text = .ok e := by
  cases hg : generate text with
  | ok e => exact ⟨e, rfl⟩
  | error r =>
    rw [hg] at h
    cases h

/-- A structure with named fields and no generic parameters (lifetimes, types or constants) has code
exactly if its own markers and those of all its fields are well placed. That it must also not carry `auto`
itself holds exactly if it does not, or if something else is wrong with its markers. -/
theorem markers_accepted_iff {text : String} {s : Struct} {fields : List Field}
    (h : Declares text s fields) :
    ((∃ e, generate text = .ok e) ↔ s.WellMarked ∧ ∀ f ∈ fields, f.WellMarked) ∧
      (((∃ e, generate text = .ok e) ↔
          ¬ s.CarriesAuto ∧ s.WellMarked ∧ ∀ f ∈ fields, f.WellMarked) ↔
        ¬ s.CarriesAuto ∨ ¬ (s.WellMarked ∧ ∀ f ∈ fields, f.WellMarked)) := by
  have hok : (∃ e, generate text = .ok e) ↔ s.WellMarked ∧ ∀ f ∈ fields, f.WellMarked := by
    rw [h.generates_iff, Place.report_eq_nil_iff, Struct.wellMarked_iff]
    simp only [Field.report_eq_nil_iff]
  refine ⟨hok, ?_⟩
  rw [hok]
  tauto

set_option maxRecDepth 100000 in
/-- Each marker in its place, and an `auto` without a key. -/
theorem markers_accepted_iff_each_kind :
    let placed := "#[table = \"t\"] struct S \x7b #[auto] #[key] id: u8, #[column(\"c\")] n: u8 \x7d"
    let keyless := "struct S \x7b #[auto] id: u8 \x7d"
    (∃ s fields, Declares placed s fields ∧ (∃ e, generate placed = .ok e) ∧ fields.length = 2 ∧
      s.WellMarked ∧ ∀ f ∈ fields, f.WellMarked) ∧
    ∃ s f, Declares keyless s [f] ∧ (¬ ∃ e, generate keyless = .ok e) ∧ s.WellMarked ∧
      ¬ f.WellMarked := by
  intro placed keyless
  have hplaced : (Struct.read placed).bind Struct.size? = some (1, 2) ∧
      (generate placed).toOption.isSome = true := by
    decide +kernel
  have hkeyless : (Struct.read keyless).bind Struct.size? = some (0, 1) ∧
      (generate keyless).toOption.isSome = false := by
    decide +kernel
  constructor
  · obtain ⟨s, fields, h, -, hfields⟩ := exists_declares hplaced.1
    have hok : ∃ e, generate placed = .ok e := exists_ok_of_isSome hplaced.2
    obtain ⟨hmarked, hmarkedFields⟩ := (markers_accepted_iff h).1.1 hok
    exact ⟨s, fields, h, hok, hfields, hmarked, hmarkedFields⟩
  · obtain ⟨s, fields, h, hattributes, hfields⟩ := exists_declares hkeyless.1
    rw [List.length_eq_zero_iff] at hattributes
    obtain ⟨f, rfl⟩ := List.length_eq_one_iff.1 hfields
    have hmarked : s.WellMarked := by
      constructor <;> simp [hattributes]
    have hrefused : ¬ ∃ e, generate keyless = .ok e := by
      rintro ⟨e, he⟩
      have hnone := hkeyless.2
      rw [he] at hnone
      cases hnone
    refine ⟨s, f, h, hrefused, hmarked, fun hf => hrefused ?_⟩
    rw [(markers_accepted_iff h).1]
    exact ⟨hmarked, List.forall_mem_singleton.2 hf⟩

set_option maxRecDepth 100000 in
/-- A structure that carries `auto` has code, as if it did not. -/
theorem auto_on_structure_accepted :
    let text := "#[auto] struct S \x7b #[key] id: i32 \x7d"
    ∃ s fields, Declares text s fields ∧ s.CarriesAuto ∧ ∃ e, generate text = .ok e := by
  intro text
  obtain ⟨hsize, hnames, hok⟩ : (Struct.read text).bind Struct.size? = some (1, 1) ∧
      (Struct.read text).map (fun s => s.attributes.map Attribute.name) = some [some "auto"] ∧
      (generate text).toOption.isSome = true := by
    decide +kernel
  obtain ⟨s, fields, h, -, -⟩ := exists_declares hsize
  rw [h.read, Option.map_some, Option.some_inj] at hnames
  refine ⟨s, fields, h, ?_, exists_ok_of_isSome hok⟩
  have hmem : some "auto" ∈ s.attributes.map Attribute.name := by
    rw [hnames]
    exact List.mem_singleton_self _
  obtain ⟨a, ha, hname⟩ := List.mem_map.1 hmem
  exact ⟨a, ha, hname⟩

end RecordMapper.Declaration
