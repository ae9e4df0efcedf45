import RecordMapper.Proofs.Mapping.Build
import RecordMapper.Proofs.Predicate.Fragment
/-!
# What becomes of a declaration

A declaration without a fault is the mapping itself, and names find their way through it: a source leads
to one place, and no two sources lead to one column. Otherwise the first field with a fault is reported,
and of its faults a repeated source before a repeated column, and that before a missing key.
-/

namespace RecordMapper

namespace EntityMapping

inductive Misfit (entity : String) (earlier : List FieldMapping) (f : FieldMapping) :
    SchemaFault → Prop where
  | source : f.source ∈ earlier.map FieldMapping.source →
      Misfit entity earlier f (.duplicateField f.source entity)
  | column : f.source ∉ earlier.map FieldMapping.source →
      f.column ∈ earlier.map FieldMapping.column →
      Misfit entity earlier f (.columnTaken f.source entity f.column)
  | auto : f.source ∉ earlier.map FieldMapping.source →
      f.column ∉ earlier.map FieldMapping.column → f.marksAuto = true → f.isKey = false →
      Misfit entity earlier f (.autoWithoutKey f.source entity)

section Faults

variable {entity : String} {earlier : List FieldMapping} {fault : SchemaFault}

theorem faultAfter_eq_some_iff {f : FieldMapping} :
    faultAfter entity earlier f = some fault ↔ Misfit entity earlier f fault := by
  have taken {name : FieldMapping → String} (h : name f ∈ earlier.map name) :=
    (any_beq_iff_mem_map name).2 h
  have free {name : FieldMapping → String} (h : name f ∉ earlier.map name) :=
    mt (any_beq_iff_mem_map name).1 h
  constructor
  · intro h
    unfold faultAfter at h
    split_ifs at h with hs hc ha
    · obtain rfl := Option.some.inj h
      exact .source ((any_beq_iff_mem_map _).1 hs)
    · obtain rfl := Option.some.inj h
      exact .column (mt taken hs) ((any_beq_iff_mem_map _).1 hc)
    · obtain rfl := Option.some.inj h
      rw [Bool.and_eq_true, Bool.not_eq_true'] at ha
      exact .auto (mt taken hs) (mt taken hc) ha.1 ha.2
  · intro h
    cases h with
    | source hs => rw [faultAfter, if_pos (taken hs)]
    | column hs hc => rw [faultAfter, if_neg (free hs), if_pos (taken hc)]
    | auto hs hc hmark hkey =>
      rw [faultAfter, if_neg (free hs), if_neg (free hc), hmark, hkey]
      rfl

theorem firstFault_append {before rest : List FieldMapping} :
    firstFault entity earlier (before ++ rest) =
      (firstFault entity earlier before).or (firstFault entity (earlier ++ before) rest) := by
  induction before generalizing earlier with
  | nil => rw [List.append_nil]; rfl
  | cons f before ih =>
    rw [List.cons_append, firstFault, firstFault, ih, Option.or_assoc, List.append_assoc]
    rfl

theorem firstFault_eq_some_iff {fields : List FieldMapping} (he : Sound earlier) :
    firstFault entity earlier fields = some fault ↔ ∃ before f after,
      fields = before ++ f :: after ∧ Sound (earlier ++ before) ∧
        Misfit entity (earlier ++ before) f fault := by
  constructor
  · intro h
    induction fields generalizing earlier with
    | nil => cases h
    | cons f rest ih =>
      rw [firstFault, Option.or_eq_some_iff] at h
      -- Either this field is at fault or it joins those that were checked, which stay sound.
      rcases h with hf | ⟨hnone, hrest⟩
      · have hmisfit := faultAfter_eq_some_iff.1 hf
        rw [← List.append_nil earlier] at he hmisfit
        exact ⟨[], f, rest, rfl, he, hmisfit⟩
      · have hsound := sound_append_singleton_iff.2 ⟨he, faultAfter_eq_none_iff.1 hnone⟩
        obtain ⟨before, g, after, rfl, hb, hg⟩ := ih hsound hrest
        rw [List.append_assoc] at hb hg
        exact ⟨f :: before, g, after, rfl, hb, hg⟩
  · rintro ⟨before, f, after, rfl, hb, hf⟩
    rw [firstFault_append, (firstFault_eq_none_iff he).2 hb, Option.none_or, firstFault,
      faultAfter_eq_some_iff.2 hf, Option.some_or]

end Faults

theorem build_eq_error_iff {declaration : EntityMapping} {err : Error} :
    declaration.build = .error err ↔ ∃ before f after fault,
      declaration.fields = before ++ f :: after ∧ Sound before ∧
        Misfit declaration.name before f fault ∧
        err = Error.ofCause (.invalidSchema fault.message) := by
  have hnil : Sound [] := ⟨List.nodup_nil, List.nodup_nil, nofun⟩
  have hfirst (fault : SchemaFault) :
      firstFault declaration.name [] declaration.fields = some fault ↔ ∃ before f after,
        declaration.fields = before ++ f :: after ∧ Sound before ∧
          Misfit declaration.name before f fault :=
    firstFault_eq_some_iff hnil
  have hbuild : declaration.build = .error err ↔ ∃ fault,
      firstFault declaration.name [] declaration.fields = some fault ∧
        err = Error.ofCause (.invalidSchema fault.message) := by
    unfold build
    cases firstFault declaration.name [] declaration.fields with
    | none => simp
    | some found => simp [eq_comm]
  rw [hbuild]
  constructor
  · rintro ⟨fault, hfault, rfl⟩
    obtain ⟨before, f, after, hsplit, hb, hf⟩ := (hfirst fault).1 hfault
    exact ⟨before, f, after, fault, hsplit, hb, hf, rfl⟩
  · rintro ⟨before, f, after, fault, hsplit, hb, hf, rfl⟩
    exact ⟨fault, (hfirst fault).2 ⟨before, f, after, hsplit, hb, hf⟩, rfl⟩

section Names

variable {m : EntityMapping}

theorem mem_of_field? {source : String} {f : FieldMapping} (h : m.field? source = some f) :
    f ∈ m.fields ∧ f.source = source := by
  unfold field? at h
  exact ⟨List.mem_of_find?_eq_some h, by simpa using List.find?_some h⟩

variable (hm : Sound m.fields)
include hm

theorem field?_eq_some_iff {source : String} {f : FieldMapping} :
    m.field? source = some f ↔ f ∈ m.fields ∧ f.source = source := by
  constructor
  · exact mem_of_field?
  · rintro ⟨hf, rfl⟩
    obtain ⟨g, hg⟩ : ∃ g, m.field? f.source = some g := by
      rw [← Option.isSome_iff_exists, field?, List.find?_isSome]
      exact ⟨f, hf, beq_self_eq_true _⟩
    obtain ⟨hmem, hsource⟩ := mem_of_field? hg
    rw [hg, List.inj_on_of_nodup_map hm.sources hmem hf hsource]

theorem fieldIndex?_eq_some_iff {source : String} {i : Nat} :
    m.fieldIndex? source = some i ↔ ∃ f, m.fields[i]? = some f ∧ f.source = source := by
  have hdistinct := List.pairwise_iff_getElem.1 (List.pairwise_map.1 hm.sources)
  rw [fieldIndex?, List.findIdx?_eq_some_iff_getElem]
  constructor
  · rintro ⟨hi, hsource, -⟩
    exact ⟨m.fields[i], List.getElem?_eq_getElem hi, by simpa using hsource⟩
  · rintro ⟨f, hf, rfl⟩
    obtain ⟨hi, rfl⟩ := List.getElem?_eq_some_iff.1 hf
    refine ⟨hi, beq_self_eq_true _, ?_⟩
    intro j hj hsame
    exact hdistinct j i (Nat.lt_trans hj hi) hi hj (beq_iff_eq.1 hsame)

theorem compile_field_eq_ok_iff_mem {source text : String} :
    (Expr.field source).compile m = .ok text ↔
      ∃ f ∈ m.fields, f.source = source ∧ f.column = text := by
  rw [Expr.compile_field_eq_ok_iff]
  constructor
  · rintro ⟨f, hf, rfl⟩
    obtain ⟨hmem, hsource⟩ := mem_of_field? hf
    exact ⟨f, hmem, hsource, rfl⟩
  · rintro ⟨f, hmem, hsource, rfl⟩
    exact ⟨f, (field?_eq_some_iff hm).2 ⟨hmem, hsource⟩, rfl⟩

theorem compile_field_inj {a b text : String} (ha : (Expr.field a).compile m = .ok text)
    (hb : (Expr.field b).compile m = .ok text) : a = b := by
  obtain ⟨f, hf, rfl, rfl⟩ := (compile_field_eq_ok_iff_mem hm).1 ha
  obtain ⟨g, hg, rfl, hcolumn⟩ := (compile_field_eq_ok_iff_mem hm).1 hb
  rw [List.inj_on_of_nodup_map hm.columns hg hf hcolumn]

end Names

end EntityMapping

open EntityMapping in
/-- A declaration is accepted exactly if no two fields share a source or a column and only keys are
assigned by the store. The mapping is then the declaration as it was: a source is found at its own place,
and different sources are written as different columns. Else the first field that does not fit behind
those before it is reported. -/
theorem declaration_accepted_iff (declaration : EntityMapping) :
    ((∃ m, declaration.build = .ok m) ↔
      (declaration.fields.map FieldMapping.source).Nodup ∧
      (declaration.fields.map FieldMapping.column).Nodup ∧
      ∀ f ∈ declaration.fields, f.marksAuto = true → f.isKey = true) ∧
    (∀ m, declaration.build = .ok m →
      (m.name = declaration.name ∧ m.tableOverride = declaration.tableOverride ∧
        m.fields = declaration.fields) ∧
      (∀ source i, m.fieldIndex? source = some i ↔
        ∃ f, m.fields[i]? = some f ∧ f.source = source) ∧
      (∀ f ∈ m.fields, (Expr.field f.source).compile m = .ok f.column) ∧
      ∀ a b text, (Expr.field a).compile m = .ok text →
        (Expr.field b).compile m = .ok text → a = b) ∧
    ∀ err, declaration.build = .error err ↔ ∃ before f after fault,
      declaration.fields = before ++ f :: after ∧ Sound before ∧
        Misfit declaration.name before f fault ∧
        err = Error.ofCause (.invalidSchema fault.message) := by
  refine ⟨?_, ?_, fun err => build_eq_error_iff⟩
  · constructor
    · rintro ⟨m, hm⟩
      obtain ⟨hsound, -⟩ := build_eq_ok_iff.1 hm
      exact ⟨hsound.sources, hsound.columns, hsound.autos⟩
    · rintro ⟨hsources, hcolumns, hautos⟩
      exact ⟨declaration, build_eq_ok_iff.2 ⟨⟨hsources, hcolumns, hautos⟩, rfl⟩⟩
  · intro m hm
    obtain ⟨hsound, rfl⟩ := build_eq_ok_iff.1 hm
    refine ⟨⟨rfl, rfl, rfl⟩, ?_, ?_, ?_⟩
    · intro source i
      exact fieldIndex?_eq_some_iff hsound
    · intro f hf
      exact (compile_field_eq_ok_iff_mem hsound).2 ⟨f, hf, rfl, rfl⟩
    · intro a b text ha hb
      exact compile_field_inj hsound ha hb

/-- The override of a field may be the source of one that has another column, and an earlier field is
reported for want of a key before a later one for a column that is taken. -/
theorem declaration_accepted_iff_swapped :
    let a : FieldMapping := ⟨"a", some "b", true, false⟩
    let b : FieldMapping := ⟨"b", some "a", false, false⟩
    let c : FieldMapping := ⟨"c", none, false, true⟩
    let d : FieldMapping := ⟨"d", some "b", false, true⟩
    (∃ m, (⟨"Swap", none, [a, b]⟩ : EntityMapping).build = .ok m ∧ m.fieldIndex? "b" = some 1 ∧
      (Expr.field "b").compile m = .ok "a") ∧
    (⟨"Swap", none, [a, b, c, d]⟩ : EntityMapping).build = .error (Error.ofCause
      (.invalidSchema "field `c` on `Swap` is auto-increment but not a key")) ∧
    (⟨"Swap", none, [a, b, d, c]⟩ : EntityMapping).build = .error (Error.ofCause
      (.invalidSchema "field `d` on `Swap` maps to column `b`, which is already mapped")) := by
  intro a b c d
  have hbuild : (⟨"Swap", none, [a, b]⟩ : EntityMapping).build = .ok ⟨"Swap", none, [a, b]⟩ := rfl
  obtain ⟨-, hindex, hcompile, -⟩ := (declaration_accepted_iff ⟨"Swap", none, [a, b]⟩).2.1 _ hbuild
  have hsound := (EntityMapping.build_eq_ok_iff.1 hbuild).1
  refine ⟨⟨_, hbuild, ?_, hcompile b (by simp)⟩, ?_, ?_⟩
  · exact (hindex "b" 1).2 ⟨b, rfl, rfl⟩
  · refine ((declaration_accepted_iff ⟨"Swap", none, [a, b, c, d]⟩).2.2 _).2 ?_
    exact ⟨[a, b], c, [d], _, rfl, hsound, .auto (by decide) (by decide) rfl rfl, rfl⟩
  · refine ((declaration_accepted_iff ⟨"Swap", none, [a, b, d, c]⟩).2.2 _).2 ?_
    exact ⟨[a, b], d, [c], _, rfl, hsound, .column (by decide) (by decide), rfl⟩

end RecordMapper
