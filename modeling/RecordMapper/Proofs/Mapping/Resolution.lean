import RecordMapper.Database
import Mathlib.Data.List.Basic
/-!
# What the registry keeps

Types are resolved one by one or registered together, in any order, while their descriptions may answer
differently each time. The first mapping that is resolved of a type is its mapping from then on, and the
type is not described again; a failure leaves no trace in the registry, so that the next lookup describes
the type once more. A registration resolves its types in order up to the first failure.
-/

namespace RecordMapper

variable {κ σ : Type} [DecidableEq κ]

def Describer.noting (describe : Describer κ σ) : Describer κ (σ × List κ) := fun type s =>
  ((describe type s.1).1, (describe type s.1).2, s.2 ++ [type])

/-- A type that was resolved, with the registry before and after it and the types that were described
for it. -/
structure Lookup (κ σ : Type) where
  before : Registry κ × σ
  type : κ
  result : Except Error EntityMapping
  described : List κ
  after : Registry κ × σ

def Registry.lookup (describe : Describer κ σ) (type : κ) (x : Registry κ × σ) : Lookup κ σ where
  before := x
  type := type
  result := (Registry.resolve describe type x).1
  described := (Registry.resolve describe.noting type (x.1, x.2, [])).2.2.2
  after := (Registry.resolve describe type x).2

/-- What a lookup does: a mapping that was kept is handed out, and otherwise the type is described once.
What is described is kept unless it fails, and nothing else changes. -/
structure Lookup.Conforms (describe : Describer κ σ) (c : Lookup κ σ) : Prop where
  kept : ∀ m, c.before.1.find? c.type = some m →
    c.result = .ok m ∧ c.described = [] ∧ c.after = c.before
  asked : c.before.1.find? c.type = none →
    c.result = (describe c.type c.before.2).1 ∧ c.described = [c.type]
  stored : ∀ m, c.result = .ok m → c.after.1.find? c.type = some m
  failed : ∀ e, c.result = .error e → (describe c.type c.before.2).1 = .error e ∧
    c.described = [c.type] ∧ c.after.1 = c.before.1
  others : ∀ other, other ≠ c.type → c.after.1.find? other = c.before.1.find? other

namespace Registry

variable {describe : Describer κ σ} {type : κ} {r : Registry κ} {s s' : σ} {m : EntityMapping}

theorem lookup_found (h : r.find? type = some m) :
    lookup describe type (r, s) = ⟨(r, s), type, .ok m, [], (r, s)⟩ := by
  simp [lookup, resolve, h]

theorem lookup_failing {e : Error} (h : r.find? type = none) (hd : describe type s = (.error e, s')) :
    lookup describe type (r, s) = ⟨(r, s), type, .error e, [type], (r, s')⟩ := by
  simp [lookup, resolve, h, hd, Describer.noting]

theorem lookup_new (h : r.find? type = none) (hd : describe type s = (.ok m, s')) :
    lookup describe type (r, s) = ⟨(r, s), type, .ok m, [type], (r.keep type m, s')⟩ := by
  simp [lookup, resolve, h, hd, Describer.noting]

theorem conforms_lookup (describe : Describer κ σ) (type : κ) (x : Registry κ × σ) :
    (lookup describe type x).Conforms describe := by
  obtain ⟨r, s⟩ := x
  cases hfind : r.find? type with
  | some m =>
    rw [lookup_found hfind]
    constructor
    case kept =>
      intro m' h
      obtain rfl := Option.some.inj (hfind.symm.trans h)
      exact ⟨rfl, rfl, rfl⟩
    case asked =>
      intro h
      cases hfind.symm.trans h
    case stored =>
      intro m' h
      obtain rfl := Except.ok.inj h
      exact hfind
    case failed =>
      intro e h
      cases h
    case others =>
      intro other _
      rfl
  | none =>
    have hmissing {m : EntityMapping} : r.find? type ≠ some m := by
      rw [hfind]
      exact (Option.some_ne_none m).symm
    rcases hd : describe type s with ⟨e | m, s'⟩
    · rw [lookup_failing hfind hd]
      constructor
      case kept =>
        intro m h
        exact absurd h hmissing
      case asked =>
        intro _
        exact ⟨(congrArg Prod.fst hd).symm, rfl⟩
      case stored =>
        intro m h
        cases h
      case failed =>
        intro e' h
        obtain rfl := Except.error.inj h
        exact ⟨congrArg Prod.fst hd, rfl, rfl⟩
      case others =>
        intro other _
        rfl
    · rw [lookup_new hfind hd]
      constructor
      case kept =>
        intro m' h
        exact absurd h hmissing
      case asked =>
        intro _
        exact ⟨(congrArg Prod.fst hd).symm, rfl⟩
      case stored =>
        intro m' h
        obtain rfl := Except.ok.inj h
        exact find?_keep_self r type m hfind
      case failed =>
        intro e h
        cases h
      case others =>
        intro other hother
        exact find?_keep_of_ne r m hother.symm

end Registry

/-- Something that uses the registry, or a change of what descriptions depend on. -/
inductive Demand (κ σ : Type) where
  | resolve (type : κ)
  | register (types : List κ)
  | change (f : σ → σ)

def Registry.lookups (describe : Describer κ σ) : List κ → Registry κ × σ → List (Lookup κ σ)
  | [], _ => []
  | type :: rest, x =>
    lookup describe type x :: match (lookup describe type x).result with
      | .ok _ => lookups describe rest (lookup describe type x).after
      | .error _ => []

namespace Registry

variable {describe : Describer κ σ} {type : κ} {rest : List κ} {x y : Registry κ × σ}

theorem after_lookup {result : Except Error EntityMapping}
    (h : resolve describe type x = (result, y)) : (lookup describe type x).after = y :=
  congrArg Prod.snd h

theorem lookups_cons_error {e : Error} (h : resolve describe type x = (.error e, y)) :
    lookups describe (type :: rest) x = [lookup describe type x] := by
  simp only [lookups, lookup, h]

theorem lookups_cons_ok {m : EntityMapping} (h : resolve describe type x = (.ok m, y)) :
    lookups describe (type :: rest) x = lookup describe type x :: lookups describe rest y := by
  simp only [lookups, lookup, h]

end Registry

namespace Demand

def lookups (describe : Describer κ σ) (x : Registry κ × σ) : Demand κ σ → List (Lookup κ σ)
  | resolve type => [Registry.lookup describe type x]
  | register types => Registry.lookups describe types x
  | change _ => []

def after (describe : Describer κ σ) (x : Registry κ × σ) : Demand κ σ → Registry κ × σ
  | resolve type => (Registry.resolve describe type x).2
  | register types => (Database.register describe types x).state
  | change f => (x.1, f x.2)

def run (describe : Describer κ σ) : List (Demand κ σ) → Registry κ × σ → List (Lookup κ σ)
  | [], _ => []
  | d :: rest, x => d.lookups describe x ++ run describe rest (d.after describe x)

def afterRun (describe : Describer κ σ) : List (Demand κ σ) → Registry κ × σ → Registry κ × σ
  | [], x => x
  | d :: rest, x => afterRun describe rest (d.after describe x)

end Demand

namespace Lookup.Conforms

variable {describe : Describer κ σ} {c : Lookup κ σ} {type : κ} {m : EntityMapping}

theorem find?_after (h : c.Conforms describe) (hm : c.before.1.find? type = some m) :
    c.after.1.find? type = some m := by
  by_cases htype : type = c.type
  · subst htype
    rw [(h.kept m hm).2.2]
    exact hm
  · rw [h.others type htype]
    exact hm

theorem find?_after_none (h : c.Conforms describe) (hnone : c.before.1.find? type = none)
    (hfails : c.type = type → ∃ e, c.result = .error e) : c.after.1.find? type = none := by
  by_cases htype : type = c.type
  · obtain ⟨e, he⟩ := hfails htype.symm
    rw [(h.failed e he).2.2]
    exact hnone
  · rw [h.others type htype]
    exact hnone

end Lookup.Conforms

/-- Lookups that conform and lead, one after the other, from one registry to another. -/
inductive Trail (describe : Describer κ σ) : Registry κ → List (Lookup κ σ) → Registry κ → Prop where
  | nil (r : Registry κ) : Trail describe r [] r
  | cons {c : Lookup κ σ} {cs : List (Lookup κ σ)} {r : Registry κ} :
      c.Conforms describe → Trail describe c.after.1 cs r → Trail describe c.before.1 (c :: cs) r

namespace Trail

variable {describe : Describer κ σ} {r r' r'' : Registry κ} {c : Lookup κ σ}
  {cs cs' : List (Lookup κ σ)} {type : κ} {m : EntityMapping}

theorem append (h : Trail describe r cs r') (h' : Trail describe r' cs' r'') :
    Trail describe r (cs ++ cs') r'' := by
  induction h with
  | nil => exact h'
  | cons hc _ ih => exact .cons hc (ih h')

theorem conforms_of_mem (h : Trail describe r cs r') (hc : c ∈ cs) : c.Conforms describe := by
  induction h with
  | nil => cases hc
  | cons hfirst _ ih =>
    rcases List.mem_cons.1 hc with rfl | hc
    · exact hfirst
    · exact ih hc

theorem find?_before (h : Trail describe r cs r') (hm : r.find? type = some m) (hc : c ∈ cs) :
    c.before.1.find? type = some m := by
  induction h with
  | nil => cases hc
  | cons hfirst _ ih =>
    rcases List.mem_cons.1 hc with rfl | hc
    · exact hm
    · exact ih (hfirst.find?_after hm) hc

theorem find?_end (h : Trail describe r cs r') (hm : r.find? type = some m) :
    r'.find? type = some m := by
  induction h with
  | nil => exact hm
  | cons hfirst _ ih => exact ih (hfirst.find?_after hm)

theorem pairwise (h : Trail describe r cs r') :
    cs.Pairwise fun c later => ∀ m, c.result = .ok m → later.before.1.find? c.type = some m := by
  induction h with
  | nil => exact List.Pairwise.nil
  | cons hfirst hrest ih =>
    refine List.Pairwise.cons ?_ ih
    intro later hlater m hm
    exact hrest.find?_before (hfirst.stored m hm) hlater

theorem find?_before_none (h : Trail describe r (cs ++ c :: cs') r') (hnone : r.find? type = none)
    (hfails : ∀ b ∈ cs, b.type = type → ∃ e, b.result = .error e) :
    c.before.1.find? type = none := by
  induction cs generalizing r with
  | nil =>
    cases h
    exact hnone
  | cons b rest ih =>
    rw [List.forall_mem_cons] at hfails
    -- the first lookup is of another type or fails, so it leaves the type out as well
    cases h with
    | cons hb hrest => exact ih hrest (hb.find?_after_none hnone hfails.1) hfails.2

end Trail

inductive Registry.ResolvesAll (describe : Describer κ σ) :
    List κ → Registry κ × σ → List EntityMapping → Registry κ × σ → Prop where
  | nil (x : Registry κ × σ) : ResolvesAll describe [] x [] x
  | cons {type : κ} {types : List κ} {m : EntityMapping} {ms : List EntityMapping}
      {x y z : Registry κ × σ} :
      Registry.resolve describe type x = (.ok m, y) → ResolvesAll describe types y ms z →
        ResolvesAll describe (type :: types) x (m :: ms) z

namespace Database

open Registry (ResolvesAll)

variable {describe : Describer κ σ} {type : κ} {types rest : List κ} {x y : Registry κ × σ}
  {ms : List EntityMapping} {e : Error}

theorem register_cons_error (h : Registry.resolve describe type x = (.error e, y)) :
    register describe (type :: rest) x = ⟨.error e, [], y⟩ := by
  rw [register]
  change Action.bind _ _ x = _
  simp only [Action.bind, h]

theorem register_cons_ok {m : EntityMapping} (h : Registry.resolve describe type x = (.ok m, y)) :
    register describe (type :: rest) x = ⟨(register describe rest y).result,
      registration m :: (register describe rest y).journal, (register describe rest y).state⟩ := by
  rw [register]
  change Action.bind _ _ x = _
  simp only [Action.bind, h]
  rfl

theorem register_append (h : ResolvesAll describe types x ms y) :
    register describe (types ++ rest) x = ⟨(register describe rest y).result,
      ms.map registration ++ (register describe rest y).journal,
      (register describe rest y).state⟩ := by
  induction h with
  | nil x => rfl
  | cons hfirst _ ih =>
    rw [List.cons_append, register_cons_ok hfirst, ih]
    rfl

theorem result_register_ok_iff :
    (register describe types x).result = .ok () ↔ ∃ ms y, ResolvesAll describe types x ms y := by
  constructor
  · intro h
    induction types generalizing x with
    | nil => exact ⟨[], x, .nil x⟩
    | cons type rest ih =>
      rcases hr : Registry.resolve describe type x with ⟨e | m, y⟩
      · rw [register_cons_error hr] at h
        cases h
      · rw [register_cons_ok hr] at h
        obtain ⟨ms, z, hrest⟩ := ih h
        exact ⟨m :: ms, z, .cons hr hrest⟩
  · rintro ⟨ms, y, h⟩
    have hall : (register describe (types ++ []) x).result = .ok () := by
      rw [register_append h]
      rfl
    rwa [List.append_nil] at hall

theorem result_register_error_iff :
    (register describe types x).result = .error e ↔ ∃ before type after ms y,
      types = before ++ type :: after ∧ ResolvesAll describe before x ms y ∧
        (Registry.resolve describe type y).1 = .error e := by
  constructor
  · intro h
    induction types generalizing x with
    | nil => cases h
    | cons type rest ih =>
      rcases hr : Registry.resolve describe type x with ⟨e' | m, y⟩
      · rw [register_cons_error hr] at h
        refine ⟨[], type, rest, [], x, rfl, .nil x, ?_⟩
        rw [hr, ← Except.error.inj h]
      · rw [register_cons_ok hr] at h
        obtain ⟨before, failing, after, ms, z, rfl, hbefore, he⟩ := ih h
        exact ⟨type :: before, failing, after, m :: ms, z, rfl, .cons hr hbefore, he⟩
  · rintro ⟨before, type, after, ms, y, rfl, hbefore, he⟩
    have hfailing : Registry.resolve describe type y =
        (.error e, (Registry.resolve describe type y).2) := Prod.ext he rfl
    rw [register_append hbefore, register_cons_error hfailing]

theorem trail_lookups (describe : Describer κ σ) (types : List κ) (x : Registry κ × σ) :
    Trail describe x.1 (Registry.lookups describe types x) (register describe types x).state.1 := by
  induction types generalizing x with
  | nil => exact .nil x.1
  | cons type rest ih =>
    have hfirst := Registry.conforms_lookup describe type x
    rcases hr : Registry.resolve describe type x with ⟨e | m, y⟩
    · rw [Registry.lookups_cons_error hr, register_cons_error hr, ← Registry.after_lookup hr]
      exact .cons hfirst (.nil _)
    · rw [Registry.lookups_cons_ok hr, register_cons_ok hr]
      refine .cons hfirst ?_
      rw [Registry.after_lookup hr]
      exact ih y

/-- What was resolved on the way is kept, whether or not the rest resolves. -/
theorem find?_register (h : ResolvesAll describe types x ms y) :
    List.Forall₂ (fun type m => (register describe (types ++ rest) x).state.1.find? type = some m)
      types ms := by
  induction h with
  | nil x => exact .nil
  | @cons type types m ms x y z hfirst _ ih =>
    have hstate : (register describe (type :: types ++ rest) x).state =
        (register describe (types ++ rest) y).state := by
      rw [List.cons_append, register_cons_ok hfirst]
    rw [hstate]
    refine .cons ?_ ih
    have hstored := (Registry.conforms_lookup describe type x).stored m (congrArg Prod.fst hfirst)
    rw [Registry.after_lookup hfirst] at hstored
    exact (trail_lookups describe (types ++ rest) y).find?_end hstored

end Database

theorem Demand.trail_lookups (describe : Describer κ σ) (x : Registry κ × σ) (d : Demand κ σ) :
    Trail describe x.1 (d.lookups describe x) (d.after describe x).1 := by
  cases d with
  | resolve type => exact .cons (Registry.conforms_lookup describe type x) (.nil _)
  | register types => exact Database.trail_lookups describe types x
  | change f => exact .nil _

theorem Demand.trail_run (describe : Describer κ σ) (demands : List (Demand κ σ))
    (x : Registry κ × σ) :
    Trail describe x.1 (run describe demands x) (afterRun describe demands x).1 := by
  induction demands generalizing x with
  | nil => exact .nil _
  | cons d rest ih => exact (d.trail_lookups describe x).append (ih _)

/-- In every run the lookups, each of which does what a lookup does, account for all that happens to the
registry. Once a type has a mapping, every later lookup of it hands that mapping out and describes
nothing; a type that has only failed is described again. A registration succeeds exactly if its types
resolve one after the other, and fails as the first of them that does not; the mappings of those before
it are kept. -/
theorem first_mapping_kept (describe : Describer κ σ) (demands : List (Demand κ σ))
    (x : Registry κ × σ) :
    let calls := Demand.run describe demands x
    Trail describe x.1 calls (Demand.afterRun describe demands x).1 ∧
    (∀ c ∈ calls, c.Conforms describe) ∧
    (calls.Pairwise fun c later => later.type = c.type → ∀ m, c.result = .ok m →
      later.result = .ok m ∧ later.described = []) ∧
    (∀ earlier c later, calls = earlier ++ c :: later → x.1.find? c.type = none →
      (∀ b ∈ earlier, b.type = c.type → ∃ e, b.result = .error e) →
      c.described = [c.type] ∧ c.result = (describe c.type c.before.2).1) ∧
    ∀ types y, let out := Database.register describe types y
      (out.result = .ok () ↔ ∃ ms z, Registry.ResolvesAll describe types y ms z) ∧
      (∀ e, out.result = .error e ↔ ∃ before type after ms z, types = before ++ type :: after ∧
        Registry.ResolvesAll describe before y ms z ∧
          (Registry.resolve describe type z).1 = .error e) ∧
      ∀ before rest ms z, types = before ++ rest → Registry.ResolvesAll describe before y ms z →
        List.Forall₂ (fun type m => out.state.1.find? type = some m) before ms := by
  intro calls
  have htrail : Trail describe x.1 calls (Demand.afterRun describe demands x).1 :=
    Demand.trail_run describe demands x
  refine ⟨htrail, fun c hc => htrail.conforms_of_mem hc, ?_, ?_, ?_⟩
  · refine htrail.pairwise.imp_of_mem ?_
    intro c later _ hlater hfound htype m hm
    have hkept := hfound m hm
    rw [← htype] at hkept
    obtain ⟨hresult, hdescribed, -⟩ := (htrail.conforms_of_mem hlater).kept m hkept
    exact ⟨hresult, hdescribed⟩
  · intro earlier c later hsplit hnone hfails
    rw [hsplit] at htrail
    have hmissing : c.before.1.find? c.type = none := htrail.find?_before_none hnone hfails
    exact ((htrail.conforms_of_mem List.mem_append_cons_self).asked hmissing).symm
  · intro types y out
    refine ⟨Database.result_register_ok_iff, fun e => Database.result_register_error_iff, ?_⟩
    rintro before rest ms z rfl hbefore
    exact Database.find?_register hbefore

/-- Descriptions that answer from a script. The first one of the type `true` fails; a registration then
resolves it between two lookups of the type `false`. What the script would answer at the end is not
asked for. -/
theorem first_mapping_kept_script :
    let early := Error.ofCause (.invalidSchema "early")
    let part : EntityMapping := ⟨"Part", none, []⟩
    let log : EntityMapping := ⟨"Log", none, []⟩
    let describe : Describer Bool (List (Except Error EntityMapping)) :=
      fun _ script => (script.headD (.error early), script.tail)
    let demands : List (Demand Bool (List (Except Error EntityMapping))) :=
      [.resolve true, .register [false, true, false], .resolve true]
    let x := (Registry.empty, [.error early, .ok log, .ok part, .error early])
    let calls := Demand.run describe demands x
    calls.map (fun c => (c.type, c.described)) =
        [(true, [true]), (false, [false]), (true, [true]), (false, []), (true, [])] ∧
      calls.map Lookup.result = [.error early, .ok log, .ok part, .ok log, .ok part] ∧
      ∀ later ∈ calls.drop 3, later.type = true →
        later.result = .ok part ∧ later.described = [] := by
  intro early part log describe demands x calls
  obtain ⟨-, -, hpairwise, -⟩ := first_mapping_kept describe demands x
  have hcalls : calls = calls.take 3 ++ calls.drop 3 := (List.take_append_drop 3 calls).symm
  refine ⟨rfl, rfl, ?_⟩
  intro later hlater htype
  change calls.Pairwise _ at hpairwise
  rw [hcalls, List.pairwise_append] at hpairwise
  have hfirst : Registry.lookup describe true
      ((⟨[(false, log)]⟩ : Registry Bool), [.ok part, .error early]) ∈ calls.take 3 :=
    .tail _ (.tail _ (.head _))
  exact hpairwise.2.2 _ hfirst later hlater htype part rfl

end RecordMapper
