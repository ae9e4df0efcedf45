import RecordMapper.Mapping
import Mathlib.Data.List.Nodup
/-!
# Sound declarations

A declaration builds exactly if no two of its fields share a source or a column and only keys are
marked as assigned by the store. The mapping is then the declaration itself.
-/

namespace RecordMapper

namespace EntityMapping

structure Sound (fields : List FieldMapping) : Prop where
  sources : (fields.map FieldMapping.source).Nodup
  columns : (fields.map FieldMapping.column).Nodup
  autos : ∀ f ∈ fields, f.marksAuto = true → f.isKey = true

structure Fits (earlier : List FieldMapping) (f : FieldMapping) : Prop where
  source : f.source ∉ earlier.map FieldMapping.source
  column : f.column ∉ earlier.map FieldMapping.column
  auto : f.marksAuto = true → f.isKey = true

theorem any_beq_iff_mem_map {α : Type} [BEq α] [LawfulBEq α] (name : FieldMapping → α)
    {earlier : List FieldMapping} {f : FieldMapping} :
    (earlier.any fun g => name g == name f) = true ↔ name f ∈ earlier.map name := by
  simp [List.any_eq_true, List.mem_map]

theorem faultAfter_eq_none_iff {entity : String} {earlier : List FieldMapping} {f : FieldMapping} :
    faultAfter entity earlier f = none ↔ Fits earlier f := by
  unfold faultAfter
  split_ifs with hs hc ha
  · constructor
    · intro h; cases h
    · intro h; exact absurd ((any_beq_iff_mem_map _).1 hs) h.source
  · constructor
    · intro h; cases h
    · intro h; exact absurd ((any_beq_iff_mem_map _).1 hc) h.column
  · constructor
    · intro h; cases h
    · intro h
      rw [Bool.and_eq_true, Bool.not_eq_true'] at ha
      have hk := h.auto ha.1
      rw [ha.2] at hk
      cases hk
  · refine ⟨fun _ => ⟨?_, ?_, ?_⟩, fun _ => rfl⟩
    · intro h; exact hs ((any_beq_iff_mem_map _).2 h)
    · intro h; exact hc ((any_beq_iff_mem_map _).2 h)
    · intro hm
      simpa [hm] using ha

theorem sound_append_singleton_iff {earlier : List FieldMapping} {f : FieldMapping} :
    Sound (earlier ++ [f]) ↔ Sound earlier ∧ Fits earlier f := by
  have nodup {α : Type} (name : FieldMapping → α) :
      ((earlier ++ [f]).map name).Nodup ↔ (earlier.map name).Nodup ∧ name f ∉ earlier.map name := by
    rw [List.map_append, List.map_singleton, List.nodup_append]
    constructor
    · rintro ⟨hn, -, hd⟩
      exact ⟨hn, fun hm => hd _ hm _ (List.mem_singleton_self _) rfl⟩
    · rintro ⟨hn, hf⟩
      refine ⟨hn, List.nodup_singleton _, ?_⟩
      intro a ha b hb hab
      rw [List.mem_singleton.1 hb] at hab
      exact hf (hab ▸ ha)
  constructor
  · intro h
    obtain ⟨hs, hfs⟩ := (nodup _).1 h.sources
    obtain ⟨hc, hfc⟩ := (nodup _).1 h.columns
    refine ⟨⟨hs, hc, ?_⟩, hfs, hfc, ?_⟩
    · intro g hg; exact h.autos g (List.mem_append_left _ hg)
    · exact h.autos f (List.mem_append_right _ (List.mem_singleton_self f))
  · rintro ⟨h, hf⟩
    refine ⟨(nodup _).2 ⟨h.sources, hf.source⟩, (nodup _).2 ⟨h.columns, hf.column⟩, ?_⟩
    intro g hg
    rcases List.mem_append.1 hg with hg | hg
    · exact h.autos g hg
    · rw [List.mem_singleton.1 hg]
      exact hf.auto

theorem Sound.sublist {fields part : List FieldMapping} (h : Sound fields)
    (hp : part.Sublist fields) : Sound part :=
  ⟨h.sources.sublist (hp.map _), h.columns.sublist (hp.map _),
    fun f hf => h.autos f (hp.subset hf)⟩

/-- The induction moves one field after the other behind the ones already checked. -/
theorem firstFault_eq_none_iff {entity : String} {earlier fields : List FieldMapping}
    (he : Sound earlier) : firstFault entity earlier fields = none ↔ Sound (earlier ++ fields) := by
  induction fields generalizing earlier with
  | nil => simpa [firstFault] using he
  | cons f rest ih =>
    have happend : earlier ++ f :: rest = earlier ++ [f] ++ rest := by simp
    rw [firstFault, Option.or_eq_none_iff, faultAfter_eq_none_iff, happend]
    constructor
    · rintro ⟨hf, hrest⟩
      exact (ih (sound_append_singleton_iff.2 ⟨he, hf⟩)).1 hrest
    · intro h
      have hearlier := h.sublist (List.sublist_append_left _ _)
      exact ⟨(sound_append_singleton_iff.1 hearlier).2, (ih hearlier).2 h⟩

theorem build_eq_ok_iff {declaration m : EntityMapping} :
    declaration.build = .ok m ↔ Sound declaration.fields ∧ declaration = m := by
  have hnil : Sound [] := ⟨List.nodup_nil, List.nodup_nil, nofun⟩
  have hfault : firstFault declaration.name [] declaration.fields = none ↔
      Sound declaration.fields := firstFault_eq_none_iff hnil
  unfold build
  split
  · rename_i fault h
    rw [h] at hfault
    constructor
    · intro h'; cases h'
    · rintro ⟨hs, -⟩; cases hfault.2 hs
  · rename_i h
    rw [Except.ok.injEq]
    exact ⟨fun hm => ⟨hfault.1 h, hm⟩, And.right⟩

end EntityMapping

end RecordMapper
