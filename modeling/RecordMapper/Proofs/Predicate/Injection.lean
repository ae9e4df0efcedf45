import RecordMapper.Proofs.Predicate.Fragment
import RecordMapper.Proofs.Predicate.Quotes
import RecordMapper.Proofs.Predicate.Tree
/-!
# Constants stay inside their literals

Two filters that differ in nothing but the contents of their text constants compile to texts that
differ in nothing but the contents of the literals standing for them. Nothing that a text constant
holds can end its literal, begin another one, or change a character around it.
-/

namespace RecordMapper

open Quoted (Piece scan contents)

def Value.blank : Value → Value
  | string _ => string ""
  | char _ => char 'x'
  | v => v

/-- The literals behind the keyword of a call: those of a collection as they are, and one for a
pattern, which adds its wildcard to what the constant spells. -/
def Method.quotations (method : Method) (operand : Expr × List (List Char)) : List (List Char) :=
  match method with
  | contains => operand.2
  | startsWith => operand.1.constant?.toList.map fun v => v.spelling ++ ['%']
  | endsWith => operand.1.constant?.toList.map fun v => '%' :: v.spelling

namespace Expr

namespace Cases

def blank : Cases Expr := { same with value := fun v => .value v.blank }

def hasConstantPatterns : Cases Bool where
  binary _ left right := left.2 && right.2
  field _ := true
  list items := items.all Prod.snd
  call method receiver arguments :=
    receiver.all Prod.snd && arguments.all Prod.snd && (method = .contains ||
      (method.roles? receiver arguments).all fun (_, pattern) => pattern.1.constant?.isSome)
  unary operand := operand.2
  value _ := true

def quotations : Cases (List (List Char)) where
  binary _ left right := left.2 ++ right.2
  field _ := []
  list items := items.flatMap Prod.snd
  call method receiver arguments :=
    match method.roles? receiver arguments with
    | some (subject, operand) => subject.2 ++ method.quotations operand
    | none => []
  unary operand := operand.2
  value v := if v.isQuoted then [v.spelling] else []

end Cases

def blank : Expr → Expr := fold Cases.blank

/-- Whether every pattern of a `LIKE` in the filter is a constant, under any number of unary nodes. -/
def hasConstantPatterns : Expr → Bool := fold Cases.hasConstantPatterns

/-- The contents of the literals in the text of a filter with constant patterns, in order. -/
def quotations : Expr → List (List Char) := fold Cases.quotations

theorem blank_list (items : List Expr) : (list items).blank = list (items.map blank) := by
  unfold blank
  rw [fold_list]
  simp [Cases.blank, Cases.same, Function.comp_def]

theorem blank_call (method : Method) (receiver : Option Expr) (arguments : List Expr) :
    (call method receiver arguments).blank =
      call method (receiver.map blank) (arguments.map blank) := by
  unfold blank
  rw [fold_call]
  simp [Cases.blank, Cases.same, Function.comp_def]

theorem quotations_list (items : List Expr) :
    (list items).quotations = items.flatMap quotations := by
  unfold quotations
  rw [fold_list]
  simp [Cases.quotations, List.flatMap_map]

theorem quotations_call {method : Method} {receiver : Option Expr} {arguments : List Expr}
    {subject operand : Expr} (h : method.roles? receiver arguments = some (subject, operand)) :
    (call method receiver arguments).quotations =
      subject.quotations ++ method.quotations (operand, operand.quotations) := by
  unfold quotations
  rw [fold_call]
  simp [Cases.quotations, Method.roles?_map, h]

theorem hasConstantPatterns_list {items : List Expr}
    (h : (list items).hasConstantPatterns = true) :
    ∀ e ∈ items, e.hasConstantPatterns = true := by
  unfold hasConstantPatterns at h ⊢
  rw [fold_list] at h
  simpa [Cases.hasConstantPatterns] using h

theorem hasConstantPatterns_call {method : Method} {receiver : Option Expr}
    {arguments : List Expr} {subject operand : Expr}
    (h : (call method receiver arguments).hasConstantPatterns = true)
    (hr : method.roles? receiver arguments = some (subject, operand)) :
    subject.hasConstantPatterns = true ∧ operand.hasConstantPatterns = true ∧
      (method ≠ .contains → ∃ v, operand.constant? = some v) := by
  unfold hasConstantPatterns at h ⊢
  rw [fold_call] at h
  simp only [Cases.hasConstantPatterns, Method.roles?_map, hr, Option.map_some,
    Bool.and_eq_true, Bool.or_eq_true, Option.all_map, List.all_map, List.all_eq_true,
    Option.all_some, decide_eq_true_eq, Function.comp_apply] at h
  obtain ⟨⟨hreceiver, harguments⟩, hpattern⟩ := h
  have hparts := Method.of_roles? (p := fun e => fold Cases.hasConstantPatterns e = true) hr
    (fun e he => by rw [Option.mem_def] at he; subst he; exact hreceiver) harguments
  refine ⟨hparts.1, hparts.2, fun hm => ?_⟩
  exact Option.isSome_iff_exists.1 (hpattern.resolve_left hm)

theorem isNullConstant_blank (e : Expr) : e.blank.isNullConstant = e.isNullConstant := by
  induction e with
  | unary operand ih => exact ih
  | value v => cases v <;> rfl
  | list items => rw [blank_list]; rfl
  | call method receiver arguments => rw [blank_call]; rfl
  | _ => rfl

theorem quotations_of_isNullConstant {e : Expr} (h : e.isNullConstant = true) :
    e.quotations = [] := by
  induction e with
  | unary operand ih => exact ih h
  | value v =>
    obtain rfl := Value.isNull_eq_true_iff.1 h
    rfl
  | _ => cases h

theorem constant?_blank (e : Expr) : e.blank.constant? = e.constant?.map Value.blank := by
  induction e with
  | unary operand ih => exact ih
  | list items => rw [blank_list]; rfl
  | call method receiver arguments => rw [blank_call]; rfl
  | _ => rfl

end Expr

/-- Texts with the same raw characters and with literals in the same places, where those of the first
text hold the given contents. -/
def Alike (quotations : List (List Char)) (a b : String) : Prop :=
  ∃ ps qs, scan a = some ps ∧ scan b = some qs ∧ ps.map Piece.place = qs.map Piece.place ∧
    contents ps = quotations

namespace Alike

variable {cs ds : List (List Char)} {a b c d sep : String}

theorem of_notMem (h : '\'' ∉ a.toList) : Alike [] a a :=
  ⟨_, _, Quoted.scan_of_notMem h, Quoted.scan_of_notMem h, rfl, Quoted.contents_raw _⟩

theorem literal (s t : String) : Alike [s.toList] (Quoted.literal s) (Quoted.literal t) :=
  ⟨_, _, Quoted.scan_literal s, Quoted.scan_literal t, rfl, rfl⟩

theorem raw_append (h : '\'' ∉ sep.toList) (hab : Alike cs a b) :
    Alike cs (sep ++ a) (sep ++ b) := by
  obtain ⟨ps, qs, hp, hq, hplace, rfl⟩ := hab
  refine ⟨_, _, Quoted.scan_raw_append h hp, Quoted.scan_raw_append h hq, ?_, ?_⟩
  · rw [List.map_append, List.map_append, hplace]
  · simp

theorem append_raw (hab : Alike cs a b) (h : '\'' ∉ sep.toList) :
    Alike cs (a ++ sep) (b ++ sep) := by
  obtain ⟨ps, qs, hp, hq, hplace, rfl⟩ := hab
  refine ⟨_, _, Quoted.scan_append_raw hp h, Quoted.scan_append_raw hq h, ?_, ?_⟩
  · rw [List.map_append, List.map_append, hplace]
  · simp

theorem around (hab : Alike cs a b) (hcd : Alike ds c d) (h : '\'' ∉ sep.toList)
    (hn : sep ≠ "") : Alike (cs ++ ds) (a ++ sep ++ c) (b ++ sep ++ d) := by
  obtain ⟨ps, qs, hp, hq, hplace, rfl⟩ := hab
  obtain ⟨ps', qs', hp', hq', hplace', rfl⟩ := hcd
  refine ⟨_, _, Quoted.scan_around hp hp' h hn, Quoted.scan_around hq hq' h hn, ?_, ?_⟩
  · simp only [List.map_append, hplace, hplace']
  · simp

end Alike

namespace Value

/-- The text of a constant decides neither whether it has a literal nor whether that has quotes. -/
theorem literal_blank {v : Value} {text : String} (h : v.literal = .ok text) :
    ∃ text', v.blank.literal = .ok text' ∧
      Alike (if v.isQuoted then [v.spelling] else []) text text' := by
  by_cases hq : v.isQuoted = true
  · have hb : ∃ s, v.blank.literal = .ok (Quoted.literal s) := by
      cases v with
      | string s => exact ⟨_, rfl⟩
      | char c => exact ⟨_, rfl⟩
      | date d => exact ⟨_, rfl⟩
      | dateTime t => exact ⟨_, rfl⟩
      | _ => cases hq
    obtain ⟨s, hs⟩ := hb
    have hl := literal_eq_ok h
    rw [if_pos hq] at hl ⊢
    refine ⟨_, hs, ?_⟩
    rw [hl]
    simpa using Alike.literal (String.ofList v.spelling) s
  · have hb : v.blank = v := by
      cases v with
      | string s => exact absurd rfl hq
      | char c => exact absurd rfl hq
      | _ => rfl
    have hl := literal_eq_ok h
    rw [if_neg hq] at hl ⊢
    have hn := quote_notMem_spelling (Bool.not_eq_true _ ▸ hq)
    refine ⟨text, by rw [hb]; exact h, Alike.of_notMem ?_⟩
    rwa [hl, String.toList_ofList]

end Value

namespace Method

theorem range_of_literal {method : Method} (hm : method ≠ .contains) {v : Value} {text : String}
    (h : v.literal = .ok text) :
    ∃ s, method.range text = Quoted.literal (String.ofList s) ∧
      ∀ e o, e.constant? = some v → method.quotations (e, o) = [s] := by
  cases method with
  | contains => exact absurd rfl hm
  | startsWith =>
    refine ⟨v.spelling ++ ['%'], ?_, fun e o he => by simp [quotations, he]⟩
    rw [range, Value.strip_literal h]
    simp [← String.toList_inj, Quoted.toList_literal, Quoted.double_append, Quoted.double]
  | endsWith =>
    refine ⟨'%' :: v.spelling, ?_, fun e o he => by simp [quotations, he]⟩
    rw [range, Value.strip_literal h]
    simp [← String.toList_inj, Quoted.toList_literal, Quoted.double]

end Method

namespace Expr

variable {m : EntityMapping}

theorem alike_items {items : List Expr} {texts : List String}
    (h : List.Forall₂ (fun e t => e.compile m = .ok t) items texts)
    (ih : ∀ e ∈ items, ∀ t, e.compile m = .ok t →
      ∃ t', e.blank.compile m = .ok t' ∧ Alike e.quotations t t') :
    ∃ texts', List.Forall₂ (fun e t => e.compile m = .ok t) (items.map blank) texts' ∧
      Alike (items.flatMap quotations) (String.intercalate "," texts)
        (String.intercalate "," texts') := by
  induction h with
  | nil => exact ⟨[], .nil, Alike.of_notMem (by decide)⟩
  | @cons e t items texts he hrest ih' =>
    obtain ⟨t', ht', ha⟩ := ih e List.mem_cons_self t he
    obtain ⟨texts', hts', has⟩ := ih' fun e he => ih e (List.mem_cons_of_mem _ he)
    refine ⟨t' :: texts', .cons ht' hts', ?_⟩
    cases hrest with
    | nil =>
      cases hts'
      simpa using ha
    | cons _ _ =>
      cases hts'
      rw [String.intercalate_cons_cons, String.intercalate_cons_cons]
      exact Alike.around ha has (by decide) (by decide)

theorem alike_compile_blank (hm : m.HasPlainColumns) {e : Expr} {text : String}
    (hp : e.hasConstantPatterns = true) (h : e.compile m = .ok text) :
    ∃ text', e.blank.compile m = .ok text' ∧ Alike e.quotations text text' := by
  induction e generalizing text with
  | binary op left right ihl ihr =>
    obtain ⟨hpl, hpr⟩ := Bool.and_eq_true_iff.1 hp
    obtain ⟨l, word, hl, hw, hcase⟩ := compile_binary_eq_ok_iff.1 h
    obtain ⟨l', hl', hal⟩ := ihl hpl hl
    change ∃ text', (binary op left.blank right.blank).compile m = .ok text' ∧
      Alike (left.quotations ++ right.quotations) text text'
    rcases hcase with ⟨test, hn, ht, rfl⟩ | ⟨hn, r, hr, rfl⟩
    · refine ⟨l' ++ test, ?_, ?_⟩
      · rw [compile_binary_eq_ok_iff, isNullConstant_blank]
        exact ⟨l', word, hl', hw, .inl ⟨test, hn, ht, rfl⟩⟩
      · rw [quotations_of_isNullConstant hn, List.append_nil]
        exact hal.append_raw (BinaryOperator.quote_notMem_nullTest ht)
    · obtain ⟨r', hr', har⟩ := ihr hpr hr
      refine ⟨l' ++ (" " ++ word ++ " ") ++ r', ?_, ?_⟩
      · rw [compile_binary_eq_ok_iff, isNullConstant_blank]
        exact ⟨l', word, hl', hw, .inr ⟨hn, r', hr', rfl⟩⟩
      · refine hal.around har ?_ (by simp)
        simp [BinaryOperator.quote_notMem_word hw]
  | field source =>
    obtain ⟨f, hf, rfl⟩ := compile_field_eq_ok_iff.1 h
    refine ⟨f.column, compile_field_eq_ok_iff.2 ⟨f, hf, rfl⟩, ?_⟩
    exact Alike.of_notMem (hm f (List.mem_of_find?_eq_some hf))
  | list items ih =>
    obtain ⟨texts, hts, rfl⟩ := compile_list_eq_ok_iff.1 h
    obtain ⟨texts', hts', ha⟩ := alike_items hts fun e he t ht =>
      ih e he (hasConstantPatterns_list hp e he) ht
    rw [blank_list, quotations_list]
    exact ⟨_, compile_list_eq_ok_iff.2 ⟨texts', hts', rfl⟩, ha⟩
  | call method receiver arguments ihr iha =>
    obtain ⟨subject, operand, s, o, hroles, hs, ho, rfl⟩ := compile_call_eq_ok_iff.1 h
    obtain ⟨hps, hpo, hpattern⟩ := hasConstantPatterns_call hp hroles
    obtain ⟨ihs, iho⟩ := Method.of_roles? hroles ihr iha
    obtain ⟨s', hs', has⟩ := ihs hps hs
    obtain ⟨o', ho', hao⟩ := iho hpo ho
    have hrange : Alike (method.quotations (operand, operand.quotations)) (method.range o)
        (method.range o') := by
      by_cases hc : method = .contains
      · subst hc
        exact (hao.raw_append (by decide)).append_raw (by decide)
      · obtain ⟨v, hv⟩ := hpattern hc
        have hv' : operand.blank.constant? = some v.blank := by
          rw [constant?_blank, hv, Option.map_some]
        rw [compile_of_constant? m hv] at ho
        rw [compile_of_constant? m hv'] at ho'
        obtain ⟨c, hro, hq⟩ := Method.range_of_literal hc ho
        obtain ⟨c', hro', -⟩ := Method.range_of_literal hc ho'
        rw [hro, hro', hq operand _ hv]
        simpa using Alike.literal (String.ofList c) (String.ofList c')
    rw [blank_call, quotations_call hroles]
    refine ⟨_, compile_call_eq_ok_iff.2 ⟨subject.blank, operand.blank, s', o', ?_, hs', ho', rfl⟩, ?_⟩
    · rw [Method.roles?_map, hroles]
      rfl
    · refine Alike.append_raw (Alike.around (has.raw_append (by decide)) hrange ?_ ?_) (by decide)
      · cases method <;> decide
      · cases method <;> decide
  | unary operand ih =>
    rw [compile] at h
    exact ih hp h
  | value v =>
    rw [compile] at h
    obtain ⟨text', ht', ha⟩ := Value.literal_blank h
    exact ⟨text', ht', ha⟩

end Expr

/-- Injection safety: of two filters that differ in the text of constants only, the fragments have the
same characters outside literals and literals in the same places, and each literal is read back as
the constant that it stands for, with the wildcard of its pattern. -/
theorem compile_injection_safe {m : EntityMapping} (hm : m.HasPlainColumns) {e e' : Expr}
    {text text' : String} (h : e.compile m = .ok text) (h' : e'.compile m = .ok text')
    (same : e.blank = e'.blank) (hp : e.hasConstantPatterns = true)
    (hp' : e'.hasConstantPatterns = true) :
    ∃ ps ps', scan text = some ps ∧ scan text' = some ps' ∧
      ps.map Piece.place = ps'.map Piece.place ∧
      contents ps = e.quotations ∧ contents ps' = e'.quotations := by
  obtain ⟨blank, hb, ps, qs, hps, hqs, hplace, hc⟩ := Expr.alike_compile_blank hm hp h
  obtain ⟨blank', hb', ps', qs', hps', hqs', hplace', hc'⟩ := Expr.alike_compile_blank hm hp' h'
  have hsame : blank = blank' := by
    rw [same, hb'] at hb
    exact (Except.ok.inj hb).symm
  have hq : qs = qs' := by
    rw [hsame, hqs'] at hqs
    exact (Option.some.inj hqs).symm
  exact ⟨ps, ps', hps, hps', by rw [hplace, hq, hplace'], hc, hc'⟩

/-- A constant full of quotes beside an empty one, in a pattern and in a comparison. -/
theorem compile_injection_safe_quotes :
    ∃ ps ps', scan "([Name] LIKE 'O''%') OR [Name] = ''''" = some ps ∧
      scan "([Name] LIKE '%') OR [Name] = 'x'" = some ps' ∧
      ps.map Piece.place = ps'.map Piece.place ∧
      contents ps = [['O', '\'', '%'], ['\'']] ∧ contents ps' = [['%'], ['x']] := by
  let m : EntityMapping := ⟨"Test", none, [⟨"Name", some "[Name]", false, false⟩]⟩
  let filter (s : String) (c : Char) : Expr :=
    .binary .or (.startsWith (.field "Name") (.unary (.value (.string s))))
      (.binary .eq (.field "Name") (.value (.char c)))
  have hm : m.HasPlainColumns := by
    intro f hf
    rw [List.mem_singleton.1 hf]
    decide
  have h : (filter "O'" '\'').compile m = .ok "([Name] LIKE 'O''%') OR [Name] = ''''" := rfl
  have h' : (filter "" 'x').compile m = .ok "([Name] LIKE '%') OR [Name] = 'x'" := rfl
  exact compile_injection_safe hm h h' rfl rfl rfl

end RecordMapper
