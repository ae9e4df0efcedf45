import RecordMapper.Proofs.Statement.Handover
import RecordMapper.Proofs.Text.Joined
/-!
# A batch is its records one by one

What a batch binds, hands to the dialect and says of a record is what a single statement of the record
does, with the record's number behind each placeholder. The joined text separates what the dialect says
of the records; only what it leaves empty at the beginning is lost.
-/

namespace RecordMapper

def numberSuffix (i : Nat) : String := "_" ++ Decimal.natText i

def Parameter.numbered (i : Nat) (p : Parameter) : Parameter :=
  { p with name := p.name ++ numberSuffix i }

def Assignment.numbered (i : Nat) (a : Assignment) : Assignment :=
  { a with placeholder := a.placeholder ++ numberSuffix i }

def RowFilter.numbered (i : Nat) : RowFilter → RowFilter
  | keys assignments => keys (assignments.map (Assignment.numbered i))
  | predicate text => predicate text

def Parts.numbered (i : Nat) : Parts → Parts
  | insertion p => insertion { p with columns := p.columns.map (Assignment.numbered i) }
  | modification p => modification { p with
      set := p.set.map (Assignment.numbered i)
      keys := p.keys.map (Assignment.numbered i) }
  | deletion p => deletion { p with filter := p.filter.numbered i }

namespace FieldValue

theorem placeholder_some (i : Nat) (f : FieldMapping) :
    placeholder (some i) f = placeholder none f ++ numberSuffix i := by
  simp only [placeholder, numberSuffix, String.append_assoc]

theorem map_parameter_some (i : Nat) (bound : List FieldValue) :
    bound.map (parameter (some i)) = (bound.map (parameter none)).map (Parameter.numbered i) := by
  rw [List.map_map]
  refine List.map_congr_left fun b _ => ?_
  rw [parameter, placeholder_some]
  rfl

theorem map_assignment_some (i : Nat) (bound : List FieldValue) :
    bound.map (assignment (some i)) = (bound.map (assignment none)).map (Assignment.numbered i) := by
  rw [List.map_map]
  refine List.map_congr_left fun b _ => ?_
  rw [assignment, placeholder_some]
  rfl

end FieldValue

theorem Verb.parts_some (verb : Verb) (m : EntityMapping) (i : Nat) (bound : List FieldValue) :
    verb.parts m (some i) bound = (verb.parts m none bound).numbered i := by
  cases verb with
  | insert =>
    rw [parts, EntityMapping.insertion, FieldValue.map_assignment_some]
    rfl
  | update =>
    rw [parts, EntityMapping.modification, FieldValue.map_assignment_some,
      FieldValue.map_assignment_some]
    rfl
  | delete =>
    rw [parts, EntityMapping.deletion, FieldValue.map_assignment_some]
    rfl

namespace Dialect

variable {d : Dialect} {verb : Verb} {m : EntityMapping} {record : List Value}
  {records : List (List Value)}

theorem parameters_worded_some (i : Nat) :
    (d.worded verb m (some i) record).parameters =
      (d.worded verb m none record).parameters.map (Parameter.numbered i) :=
  FieldValue.map_parameter_some i _

theorem parameters_concat_wordedFrom :
    (Statement.concat (d.wordedFrom verb m 0 records)).parameters =
      records.zipIdx.flatMap fun r =>
        (d.worded verb m none r.1).parameters.map (Parameter.numbered r.2) := by
  rw [Statement.concat, wordedFrom, List.flatMap_map]
  refine List.flatMap_congr fun r _ => ?_
  exact parameters_worded_some r.2

theorem handed_batchWatched_eq {s : Statement} (h : d.batch verb m records = .ok (some s)) :
    (d.batchWatched verb m records).handed = records.zipIdx.map fun r =>
      (verb.parts m none (m.fields.zip r.1)).numbered r.2 := by
  have hlength := (texts_batchWatched h).1
  refine List.ext_getElem? fun i => ?_
  rw [List.getElem?_map, List.getElem?_zipIdx]
  cases hp : (d.batchWatched verb m records).handed[i]? with
  | none =>
    rw [List.getElem?_eq_none_iff, hlength, ← List.getElem?_eq_none_iff] at hp
    rw [hp]
    rfl
  | some p =>
    obtain ⟨-, record, hr, -, rfl⟩ := handed_batchWatched hp
    rw [hr, Verb.parts_some]
    simp

end Dialect

/-- A batch and what was handed over for it, put together from single statements and what was handed
over for each of them. -/
structure Statement.Gathers (s : Statement) (d : Dialect) (handed : List Parts)
    (singles : List (Parts × Statement)) : Prop where
  parameters : s.parameters = singles.zipIdx.flatMap fun t =>
    t.1.2.parameters.map (Parameter.numbered t.2)
  parts : handed = singles.zipIdx.map fun t => t.1.1.numbered t.2
  text : s.text = String.intercalate ";\n" ((handed.map d.text).dropWhile (· == ""))
  /-- Standard wording leaves nothing empty. -/
  standard : (∀ p ∈ handed, d.text p = Dialect.standard.text p) →
    s.text = String.intercalate ";\n" (handed.map d.text) ∧ ∀ p ∈ handed, d.text p ≠ ""

/-- Whatever the dialect, a batch that succeeds is put together from the single statements of its
records, none of which fails. An empty batch needs no statement, with or without a key. -/
theorem batch_gathers_singles (d : Dialect) (verb : Verb) (m : EntityMapping) :
    d.batch verb m [] = .ok none ∧
    ∀ records result, records ≠ [] → d.batch verb m records = .ok result →
      ∃ (s : Statement) (handed : List Parts) (singles : List (Parts × Statement)),
        result = some s ∧ d.batchWatched verb m records = ⟨handed, .ok (some s)⟩ ∧
        List.Forall₂ (fun record t => d.single verb m record = .ok t.2 ∧
          d.singleWatched verb m record = ⟨[t.1], .ok t.2⟩) records singles ∧
        s.Gathers d handed singles := by
  refine ⟨rfl, ?_⟩
  intro records result hr h
  obtain ⟨s, rfl⟩ : ∃ s, result = some s := by
    refine Option.ne_none_iff_exists'.1 ?_
    rintro rfl
    exact hr (Dialect.batch_eq_ok_none_iff.1 h)
  obtain ⟨-, hk, ha, hs⟩ := Dialect.batch_eq_ok_some_iff.1 h
  let single (record : List Value) : Parts × Statement :=
    (verb.parts m none (m.fields.zip record), d.worded verb m none record)
  have htext := (Dialect.texts_batchWatched h).2
  refine ⟨s, (d.batchWatched verb m records).handed, records.map single, rfl, ?_, ?_, ?_⟩
  · rw [← h]
    rfl
  · rw [List.forall₂_map_right_iff, List.forall₂_same]
    intro record hm
    have hsingle : d.single verb m record = .ok (d.worded verb m none record) :=
      Dialect.single_eq_ok_iff.2 ⟨hk, ha record hm, rfl⟩
    refine ⟨hsingle, ?_⟩
    rw [Dialect.singleWatched_eq, hsingle]
  · refine ⟨?_, ?_, ?_, ?_⟩
    · rw [← hs, Dialect.parameters_concat_wordedFrom, List.zipIdx_map, List.flatMap_map]
      rfl
    · rw [Dialect.handed_batchWatched_eq h, List.zipIdx_map, List.map_map]
      rfl
    · rw [htext, Statement.joinTexts_eq]
      rfl
    · intro hstandard
      have hne : ∀ p ∈ (d.batchWatched verb m records).handed, d.text p ≠ "" := by
        intro p hp
        rw [hstandard p hp]
        exact Dialect.text_standard_ne p
      refine ⟨?_, hne⟩
      rw [htext, Statement.joinTexts_of_ne (List.forall_mem_map.2 hne)]
      rfl

/-- A dialect that says nothing of a record without columns: what it leaves empty for the first record
is dropped, and what it leaves empty for the last one is not. -/
theorem batch_gathers_singles_unworded :
    let m : EntityMapping := ⟨"Log", none, [⟨"text", none, false, false⟩]⟩
    let d := Dialect.standard.withInsertion fun p => if p.columns.isEmpty then "" else "I"
    let records : List (List Value) := [[.null], [.string "a"], [.null]]
    ∃ s handed singles, d.batchWatched .insert m records = ⟨handed, .ok (some s)⟩ ∧
      handed = [.insertion ⟨"Log", []⟩, .insertion ⟨"Log", [⟨"text", "@text_1"⟩]⟩,
        .insertion ⟨"Log", []⟩] ∧
      s.Gathers d handed singles ∧ s.text = "I;\n" := by
  intro m d records
  have hbatch : d.batch .insert m records = .ok (some (Statement.concat
      (d.wordedFrom .insert m 0 records))) := rfl
  obtain ⟨s, handed, singles, -, hwatched, -, hg⟩ :=
    (batch_gathers_singles d .insert m).2 records _ (by simp [records]) hbatch
  have hhanded : handed = [.insertion ⟨"Log", []⟩, .insertion ⟨"Log", [⟨"text", "@text_1"⟩]⟩,
      .insertion ⟨"Log", []⟩] := (congrArg Watched.handed hwatched).symm
  refine ⟨s, handed, singles, hwatched, hhanded, hg, ?_⟩
  rw [hg.text, hhanded]
  rfl

end RecordMapper
