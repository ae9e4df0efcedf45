import RecordMapper.Mapping
/-!
# The registry of mappings

A registry keeps the mapping of each type from the first time that its description succeeds. Asking
for a description is an effect: it may give another answer each time. What was kept is never
replaced, and a failure is not kept.
-/

namespace RecordMapper

/-- Mappings by type, the latest first. -/
structure Registry (κ : Type) where
  entries : List (κ × EntityMapping)

/-- A source of descriptions with a state of its own. -/
abbrev Describer (κ σ : Type) := κ → σ → Except Error EntityMapping × σ

namespace Registry

variable {κ σ : Type} [DecidableEq κ]

def empty : Registry κ := ⟨[]⟩

def find? (r : Registry κ) (type : κ) : Option EntityMapping :=
  (r.entries.find? fun entry => entry.1 = type).map Prod.snd

def keep (r : Registry κ) (type : κ) (mapping : EntityMapping) : Registry κ :=
  if (r.find? type).isSome then r else ⟨(type, mapping) :: r.entries⟩

/-- The mapping of a type: the one that was kept, else its description, kept if it succeeds. -/
def resolve (describe : Describer κ σ) (type : κ) :
    Registry κ × σ → Except Error EntityMapping × (Registry κ × σ)
  | (r, s) =>
    match r.find? type with
    | some mapping => (.ok mapping, r, s)
    | none =>
      match describe type s with
      | (.error e, s') => (.error e, r, s')
      | (.ok mapping, s') => (.ok mapping, r.keep type mapping, s')

theorem find?_keep_self (r : Registry κ) (type : κ) (m : EntityMapping)
    (h : r.find? type = none) : (r.keep type m).find? type = some m := by
  unfold keep
  rw [h]
  simp [find?]

theorem find?_keep_of_ne (r : Registry κ) {type other : κ} (m : EntityMapping)
    (h : type ≠ other) : (r.keep type m).find? other = r.find? other := by
  unfold keep
  split
  · rfl
  · simp [find?, h]

end Registry

end RecordMapper
