import RecordMapper.Declaration.Expansion
/-!
# What a refused declaration reports

Markers are read in order into what was found so far, and whatever is wrong is reported on the way. What
is wrong with an attribute follows from the attribute and those in front of it in the same place: the
run finds a marker exactly if one of them is flawless. So the report is that of the structure and then
that of each field, and a field's own part follows from the field alone.
-/

namespace RecordMapper.Declaration

inductive Marker where
  | table
  | key
  | auto
  | column
deriving DecidableEq

inductive Place where
  | model
  | field

def refusal? {α : Type} : Except Complaint α → Option Complaint
  | .ok _ => none
  | .error c => some c

theorem refusal?_eq_none_iff {α : Type} {attempt : Except Complaint α} :
    refusal? attempt = none ↔ ∃ x, attempt = .ok x := by
  cases attempt <;> simp [refusal?]

theorem withoutArguments_eq_map {α : Type} {a : Attribute} {x : α} :
    withoutArguments a x = (withoutArguments a ()).map fun _ => x := by
  unfold withoutArguments
  split <;> rfl

namespace Marker

def name : Marker → String
  | table => "table"
  | key => "key"
  | auto => "auto"
  | column => "column"

def ofName? : String → Option Marker
  | "table" => some table
  | "key" => some key
  | "auto" => some auto
  | "column" => some column
  | _ => none

theorem ofName?_eq_some_iff {n : String} {k : Marker} : ofName? n = some k ↔ n = k.name := by
  constructor
  · intro h
    unfold ofName? at h
    split at h <;> cases h <;> rfl
  · rintro rfl
    cases k <;> rfl

theorem name_inj {k k' : Marker} : k.name = k'.name ↔ k = k' := by
  constructor
  · intro h
    have hself : ofName? k.name = some k := ofName?_eq_some_iff.2 rfl
    rw [ofName?_eq_some_iff.2 h] at hself
    exact (Option.some.inj hself).symm
  · exact congrArg name

def flaw? (k : Marker) (a : Attribute) : Option Complaint :=
  match k with
  | table => refusal? (tableName a)
  | key | auto => refusal? (withoutArguments a ())
  | column => refusal? (columnName a)

def repeated : Marker → Complaint
  | table => .repeatedTable
  | key => .repeatedKey
  | auto => .repeatedAuto
  | column => .repeatedColumn

end Marker

namespace Attribute

def marker? (a : Attribute) : Option Marker := a.name.bind Marker.ofName?

theorem marker?_eq_some_iff {a : Attribute} {k : Marker} :
    a.marker? = some k ↔ a.name = some k.name := by
  rw [marker?, Option.bind_eq_some_iff]
  simp only [Marker.ofName?_eq_some_iff, exists_eq_right]

def isFlawless (k : Marker) (a : Attribute) : Bool := a.name = some k.name && (k.flaw? a).isNone

theorem isFlawless_iff {k : Marker} {a : Attribute} :
    a.isFlawless k = true ↔ a.name = some k.name ∧ k.flaw? a = none := by
  rw [isFlawless, Bool.and_eq_true, decide_eq_true_iff, Option.isNone_iff_eq_none]

end Attribute

namespace Place

def takes : Place → Marker → Bool
  | model, .table => true
  | model, _ => false
  | field, .table => false
  | field, _ => true

/-- The complaint about a marker that stands in a place which does not take it. Nobody complains about
`auto` on a structure. -/
def misplaced? : Place → Marker → Option Complaint
  | model, .key | model, .column => some .fieldMarkerOnModel
  | field, .table => some .tableOnField
  | _, _ => none

def verdict? (p : Place) (present : Marker → Bool) (a : Attribute) : Option Complaint :=
  match a.marker? with
  | none => none
  | some k =>
    if p.takes k then if present k then some k.repeated else k.flaw? a
    else p.misplaced? k

/-- What is wrong with an attribute behind others: a marker repeats those of them that are flawless. -/
def complaint? (p : Place) (earlier : List Attribute) (a : Attribute) : Option Complaint :=
  p.verdict? (fun k => earlier.any (Attribute.isFlawless k)) a

def report (p : Place) (attributes : List Attribute) : List Complaint :=
  attributes.zipIdx.filterMap fun x => p.complaint? (attributes.take x.2) x.1

end Place

def Field.report (f : Field) : List Complaint :=
  Place.field.report f.attributes ++
    if f.attributes.any (Attribute.isFlawless .auto) &&
      !f.attributes.any (Attribute.isFlawless .key) then [.autoWithoutKey] else []

namespace Place

variable {p : Place} {present : Marker → Bool} {a : Attribute} {k : Marker}

theorem verdict?_of_name (h : a.name = some k.name) :
    p.verdict? present a =
      if p.takes k then if present k then some k.repeated else k.flaw? a
      else p.misplaced? k := by
  rw [verdict?, Attribute.marker?_eq_some_iff.2 h]

theorem verdict?_eq_none_iff :
    p.verdict? present a = none ↔ ∀ k, a.name = some k.name →
      if p.takes k then present k = false ∧ k.flaw? a = none else p.misplaced? k = none := by
  simp only [← Attribute.marker?_eq_some_iff]
  cases hm : a.marker? with
  | none => simp [verdict?, hm]
  | some k =>
    rw [verdict?_of_name (Attribute.marker?_eq_some_iff.1 hm)]
    simp only [Option.some.injEq, forall_eq']
    by_cases ht : p.takes k = true
    · rw [if_pos ht, if_pos ht]
      cases present k <;> simp
    · rw [if_neg ht, if_neg ht]

theorem verdict?_congr {present' : Marker → Bool}
    (h : ∀ k, p.takes k = true → present k = present' k) :
    p.verdict? present a = p.verdict? present' a := by
  cases hm : a.marker? with
  | none => rw [verdict?, verdict?, hm]
  | some k =>
    have hname := Attribute.marker?_eq_some_iff.1 hm
    rw [verdict?_of_name hname, verdict?_of_name hname]
    by_cases ht : p.takes k = true
    · rw [h k ht]
    · rw [if_neg ht, if_neg ht]

theorem present_of_verdict? {c : Complaint} (h : p.verdict? present a = some c)
    (ht : p.takes k = true) (ha : a.isFlawless k = true) : present k = true := by
  obtain ⟨hname, hflaw⟩ := Attribute.isFlawless_iff.1 ha
  rw [verdict?_of_name hname, if_pos ht, hflaw] at h
  by_cases hp : present k = true
  · exact hp
  · rw [if_neg hp] at h
    cases h

variable {σ : Type}

/-- A result of reading an attribute that follows the verdict of a place. `holds` tells which markers were
found: those before the attribute, and its own unless it is refused. -/
def Obeys (p : Place) (holds : σ → Marker → Bool) (found : σ) (a : Attribute)
    (result : Except Complaint σ) : Prop :=
  (∃ next, result = .ok next ∧ p.verdict? (holds found) a = none ∧
    ∀ k, p.takes k = true → holds next k = (holds found k || a.isFlawless k)) ∨
  ∃ c, result = .error c ∧ p.verdict? (holds found) a = some c

def Governs (p : Place) (holds : σ → Marker → Bool)
    (step : σ → Attribute → Except Complaint σ) : Prop :=
  ∀ found a, p.Obeys holds found a (step found a)

section Reading

variable {holds : σ → Marker → Bool} {found : σ}

theorem obeys_error {c : Complaint} (h : p.verdict? (holds found) a = some c) :
    p.Obeys holds found a (.error c) := .inr ⟨c, rfl, h⟩

theorem obeys_ignored
    (h : ∀ k, a.name = some k.name → p.takes k = false ∧ p.misplaced? k = none) :
    p.Obeys holds found a (.ok found) := by
  refine .inl ⟨found, rfl, verdict?_eq_none_iff.2 fun k hname => ?_, fun k ht => ?_⟩
  · obtain ⟨ht, hmisplaced⟩ := h k hname
    rw [ht, if_neg Bool.false_ne_true]
    exact hmisplaced
  · have hname : a.name ≠ some k.name := by
      intro hname
      rw [(h k hname).1] at ht
      cases ht
    rw [Attribute.isFlawless, decide_eq_false hname, Bool.false_and, Bool.or_false]

theorem obeys_read {α : Type} {read : Except Complaint α} {next : α → σ}
    (hname : a.name = some k.name) (ht : p.takes k = true) (hread : k.flaw? a = refusal? read)
    (hnext : ∀ x k', holds (next x) k' = (holds found k' || k' = k)) :
    p.Obeys holds found a
      (if holds found k = true then .error k.repeated else read.map next) := by
  have hverdict : p.verdict? (holds found) a =
      if holds found k = true then some k.repeated else refusal? read := by
    rw [verdict?_of_name hname, if_pos ht, hread]
  by_cases hp : holds found k = true
  · rw [if_pos hp] at hverdict ⊢
    exact obeys_error hverdict
  rw [if_neg hp] at hverdict ⊢
  cases hr : read with
  | error c =>
    rw [hr] at hverdict
    exact obeys_error hverdict
  | ok x =>
    rw [hr] at hverdict hread
    refine .inl ⟨next x, rfl, hverdict, fun k' _ => ?_⟩
    have hflawless : a.isFlawless k' = true ↔ k' = k := by
      rw [Attribute.isFlawless_iff, hname, Option.some_inj, Marker.name_inj]
      constructor
      · rintro ⟨rfl, -⟩
        rfl
      · rintro rfl
        exact ⟨rfl, hread⟩
    rw [hnext, Bool.eq_iff_iff]
    simp [hflawless]

end Reading

/-- A run from what some attributes marked marks what they and the rest do. -/
theorem Governs.collect {holds : σ → Marker → Bool}
    {step : σ → Attribute → Except Complaint σ} (h : p.Governs holds step) {found : σ}
    {earlier : List Attribute} (rest : List Attribute)
    (hfound : ∀ k, p.takes k = true → holds found k = earlier.any (Attribute.isFlawless k)) :
    (Declaration.collect step found rest).2 =
        (rest.zipIdx.filterMap fun x => p.complaint? (earlier ++ rest.take x.2) x.1) ∧
      ∀ k, p.takes k = true → holds (Declaration.collect step found rest).1 k =
        (earlier ++ rest).any (Attribute.isFlawless k) := by
  -- Each step moves one attribute from `rest` to `earlier`, refused or not.
  induction rest generalizing found earlier with
  | nil => simpa [Declaration.collect] using hfound
  | cons a rest ih =>
    have hverdict : p.verdict? (holds found) a = p.complaint? earlier a := verdict?_congr hfound
    have hsplit : ((a :: rest).zipIdx.filterMap fun x =>
          p.complaint? (earlier ++ (a :: rest).take x.2) x.1) =
        (p.complaint? earlier a).toList ++ rest.zipIdx.filterMap fun x =>
          p.complaint? (earlier ++ [a] ++ rest.take x.2) x.1 := by
      rw [List.zipIdx_cons', List.filterMap_cons, List.filterMap_map]
      cases h : p.complaint? earlier a <;> simp [h, Function.comp_def]
    rw [hsplit, List.append_cons earlier a rest, Declaration.collect]
    obtain ⟨next, hstep, hnone, hnext⟩ | ⟨c, hstep, hsome⟩ := h found a
    · have htaken : ∀ k, p.takes k = true →
          holds next k = (earlier ++ [a]).any (Attribute.isFlawless k) := by
        intro k ht
        rw [hnext k ht, hfound k ht]
        simp
      rw [hstep, ← hverdict, hnone]
      simpa using ih htaken
    · have hkept : ∀ k, p.takes k = true →
          holds found k = (earlier ++ [a]).any (Attribute.isFlawless k) := by
        intro k ht
        have himp := present_of_verdict? hsome ht
        rw [List.any_append, List.any_cons, List.any_nil, Bool.or_false, ← hfound k ht]
        cases ha : a.isFlawless k with
        | false => simp
        | true => simp [himp ha]
      rw [hstep, ← hverdict, hsome]
      simpa using ih hkept

end Place

def Marks.holds (m : Marks) : Marker → Bool
  | .table => false
  | .key => m.key
  | .auto => m.auto
  | .column => m.column.isSome

theorem Marks.holds_empty (k : Marker) : Marks.empty.holds k = false := by cases k <;> rfl

def holdsTable (table : Option TextLiteral) : Marker → Bool
  | .table => table.isSome
  | _ => false

theorem holdsTable_none (k : Marker) : holdsTable none k = false := by cases k <;> rfl

namespace Place

theorem model_governs : model.Governs holdsTable markTable := by
  intro table a
  unfold markTable
  split
  · rename_i hname
    refine obeys_read (k := .table) hname rfl rfl ?_
    intro l k
    cases k <;> simp [holdsTable]
  · rename_i hname
    exact obeys_error (verdict?_of_name (k := .key) hname)
  · rename_i hname
    exact obeys_error (verdict?_of_name (k := .column) hname)
  · rename_i htable hkey hcolumn
    apply obeys_ignored
    intro k hname
    cases k with
    | table => exact absurd hname htable
    | key => exact absurd hname hkey
    | auto => exact ⟨rfl, rfl⟩
    | column => exact absurd hname hcolumn

theorem field_governs : field.Governs Marks.holds Marks.add := by
  intro m a
  unfold Marks.add
  split
  · rename_i hname
    rw [withoutArguments_eq_map]
    refine obeys_read (k := .key) hname rfl rfl ?_
    intro _ k'
    cases k' <;> simp [Marks.holds]
  · rename_i hname
    rw [withoutArguments_eq_map]
    refine obeys_read (k := .auto) hname rfl rfl ?_
    intro _ k'
    cases k' <;> simp [Marks.holds]
  · rename_i hname
    refine obeys_read (k := .column) hname rfl rfl ?_
    intro l k'
    cases k' <;> simp [Marks.holds]
  · rename_i hname
    exact obeys_error (verdict?_of_name (k := .table) hname)
  · rename_i hkey hauto hcolumn htable
    apply obeys_ignored
    intro k hname
    cases k with
    | table => exact absurd hname htable
    | key => exact absurd hname hkey
    | auto => exact absurd hname hauto
    | column => exact absurd hname hcolumn

theorem Governs.collect_eq_report {p : Place} {σ : Type} {holds : σ → Marker → Bool}
    {step : σ → Attribute → Except Complaint σ} (h : p.Governs holds step) {start : σ}
    (hstart : ∀ k, holds start k = false) (attributes : List Attribute) :
    (Declaration.collect step start attributes).2 = p.report attributes ∧
      ∀ k, p.takes k = true → holds (Declaration.collect step start attributes).1 k =
        attributes.any (Attribute.isFlawless k) := by
  have hnothing (k : Marker) (_ : p.takes k = true) :
      holds start k = [].any (Attribute.isFlawless k) := hstart k
  exact h.collect attributes hnothing

end Place

theorem Field.marks_complaints (f : Field) : f.marks.2 = f.report := by
  obtain ⟨hreport, hholds⟩ := Place.field_governs.collect_eq_report Marks.holds_empty f.attributes
  have hkey := hholds .key rfl
  have hauto := hholds .auto rfl
  have hmarks : f.marks.2 = (collect Marks.add Marks.empty f.attributes).2 ++
    if f.marks.1.auto && !f.marks.1.key then [.autoWithoutKey] else [] := rfl
  rw [hmarks, hreport, Field.report, ← hkey, ← hauto]
  rfl

theorem Struct.complaints_eq (s : Struct) (fields : List Field) :
    s.complaints fields = Place.model.report s.attributes ++ fields.flatMap Field.report := by
  obtain ⟨hreport, -⟩ := Place.model_governs.collect_eq_report holdsTable_none s.attributes
  rw [complaints, hreport]
  simp only [Field.marks_complaints]

/-- The text declares a structure that has named fields and no generic parameters of any kind: neither
lifetimes nor types nor constants. -/
structure Declares (text : String) (s : Struct) (fields : List Field) : Prop where
  read : Struct.read text = some s
  shape : s.shape = .named fields
  plain : s.hasParameters = false

def Struct.size? (s : Struct) : Option (Nat × Nat) :=
  match s.shape, s.hasParameters with
  | .named fields, false => some (s.attributes.length, fields.length)
  | _, _ => none

theorem exists_declares {text : String} {m n : Nat}
    (h : (Struct.read text).bind Struct.size? = some (m, n)) :
    ∃ s fields, Declares text s fields ∧ s.attributes.length = m ∧ fields.length = n := by
  obtain ⟨s, hread, hsize⟩ := Option.bind_eq_some_iff.1 h
  unfold Struct.size? at hsize
  split at hsize
  · rename_i fields hshape hplain
    obtain ⟨rfl, rfl⟩ := Prod.mk.inj (Option.some.inj hsize)
    exact ⟨s, fields, ⟨hread, hshape, hplain⟩, rfl, rfl⟩
  · cases hsize

/-- What is told about a text that declares a structure: nothing if it has code. -/
def reported? (text : String) : Option (List String) :=
  match generate text with
  | .ok _ => some []
  | .error (.complaints found) => some (found.map Complaint.message)
  | .error .unreadable => none

section Declared

variable {text : String} {s : Struct} {fields : List Field}

theorem Declares.generate_cases (h : Declares text s fields) :
    (s.complaints fields = [] ∧ ∃ e, generate text = .ok e) ∨
      (s.complaints fields ≠ [] ∧
        generate text = .error (.complaints (s.complaints fields))) := by
  unfold generate Struct.check
  rw [h.read]
  dsimp only
  rw [h.shape]
  dsimp only
  rw [h.plain, if_neg Bool.false_ne_true]
  cases s.complaints fields with
  | nil => exact .inl ⟨rfl, _, rfl⟩
  | cons c rest => exact .inr ⟨List.cons_ne_nil c rest, rfl⟩

theorem Declares.generates_iff (h : Declares text s fields) :
    (∃ e, generate text = .ok e) ↔
      Place.model.report s.attributes = [] ∧ ∀ f ∈ fields, f.report = [] := by
  rw [← List.flatMap_eq_nil_iff, ← List.append_eq_nil_iff, ← s.complaints_eq]
  obtain ⟨hnone, hok⟩ | ⟨hsome, herror⟩ := h.generate_cases
  · exact iff_of_true hok hnone
  · refine iff_of_false ?_ hsome
    rintro ⟨e, he⟩
    rw [herror] at he
    cases he

theorem Declares.reported (h : Declares text s fields) :
    reported? text = some
      ((Place.model.report s.attributes ++ fields.flatMap Field.report).map Complaint.message) := by
  rw [← s.complaints_eq, reported?]
  obtain ⟨hnone, e, hok⟩ | ⟨-, herror⟩ := h.generate_cases
  · rw [hok, hnone]
    rfl
  · rw [herror]

/-- A structure with named fields and no generic parameters (lifetimes, types or constants) is told the
complaints about its own attributes and then those about each field in order, and it has code exactly if
there are none. What is told about a field comes from the field alone: another field in its place changes
nothing before or behind it. -/
theorem every_problem_reported (h : Declares text s fields) :
    reported? text = some
        ((Place.model.report s.attributes ++ fields.flatMap Field.report).map Complaint.message) ∧
      ((∃ e, generate text = .ok e) ↔
        Place.model.report s.attributes ++ fields.flatMap Field.report = []) ∧
      ∀ (text' : String) (s' : Struct) (before after : List Field) (f f' : Field),
        fields = before ++ f :: after → Declares text' s' (before ++ f' :: after) →
        s'.attributes = s.attributes →
        let told (part : List Complaint) : List String :=
          (Place.model.report s.attributes ++ before.flatMap Field.report).map Complaint.message ++
            part.map Complaint.message ++ (after.flatMap Field.report).map Complaint.message
        reported? text = some (told f.report) ∧ reported? text' = some (told f'.report) := by
  refine ⟨h.reported, ?_, ?_⟩
  · rw [h.generates_iff, List.append_eq_nil_iff, List.flatMap_eq_nil_iff]
  · intro text' s' before after f f' hfields h' hattributes told
    have htold (g : Field) : told g.report = (Place.model.report s.attributes ++
        (before ++ g :: after).flatMap Field.report).map Complaint.message := by
      simp [told]
    rw [h.reported, h'.reported, hattributes, hfields, htold, htold]
    exact ⟨rfl, rfl⟩

end Declared

set_option maxRecDepth 100000 in
/-- All that is wrong with a structure and its three fields, and a field before and after its repair. -/
theorem every_problem_reported_at_once :
    let broken := "#[key] struct S \x7b #[key(1)] #[key] #[key] a: A, #[auto] b: B, #[column()] c: C \x7d"
    let alone := "struct S \x7b #[auto] id: u8 \x7d"
    let repaired := "struct S \x7b #[auto] #[key] id: u8 \x7d"
    (∃ s fields, Declares broken s fields ∧ (¬ ∃ e, generate broken = .ok e) ∧
      (Place.model.report s.attributes ++ fields.flatMap Field.report).map Complaint.message =
        ["this attribute goes on a field, not on the model", "unexpected token in attribute",
          "duplicate #[key] attribute", "#[auto] requires #[key]",
          "unexpected end of input, expected string literal"]) ∧
    ∃ s f s' f', Declares alone s [f] ∧ Declares repaired s' [f'] ∧
      f.report.map Complaint.message = ["#[auto] requires #[key]"] ∧
      f'.report.map Complaint.message = [] := by
  intro broken alone repaired
  -- Each text is evaluated in one piece, so that it is read only once.
  have hbroken : (Struct.read broken).bind Struct.size? = some (1, 3) ∧ reported? broken = some
      ["this attribute goes on a field, not on the model", "unexpected token in attribute",
        "duplicate #[key] attribute", "#[auto] requires #[key]",
        "unexpected end of input, expected string literal"] := by
    decide +kernel
  have halone : (Struct.read alone).bind Struct.size? = some (0, 1) ∧
      reported? alone = some ["#[auto] requires #[key]"] := by
    decide +kernel
  have hrepaired : (Struct.read repaired).bind Struct.size? = some (0, 1) ∧
      reported? repaired = some [] := by
    decide +kernel
  constructor
  · obtain ⟨s, fields, h, -, -⟩ := exists_declares hbroken.1
    obtain ⟨htold, hok, -⟩ := every_problem_reported h
    have hlist := Option.some.inj (htold.symm.trans hbroken.2)
    refine ⟨s, fields, h, ?_, hlist⟩
    rw [hok]
    intro hnone
    rw [hnone] at hlist
    cases hlist
  · obtain ⟨s, fields, h, hattributes, hfields⟩ := exists_declares halone.1
    obtain ⟨s', fields', h', hattributes', hfields'⟩ := exists_declares hrepaired.1
    rw [List.length_eq_zero_iff] at hattributes hattributes'
    obtain ⟨f, rfl⟩ := List.length_eq_one_iff.1 hfields
    obtain ⟨f', rfl⟩ := List.length_eq_one_iff.1 hfields'
    obtain ⟨-, -, hlocal⟩ := every_problem_reported h
    obtain ⟨htold, htold'⟩ := hlocal repaired s' [] [] f f' rfl h'
      (hattributes'.trans hattributes.symm)
    rw [hattributes] at htold htold'
    refine ⟨s, f, s', f', h, h', ?_, ?_⟩
    · simpa [Place.report] using Option.some.inj (htold.symm.trans halone.2)
    · simpa [Place.report] using Option.some.inj (htold'.symm.trans hrepaired.2)

end RecordMapper.Declaration
