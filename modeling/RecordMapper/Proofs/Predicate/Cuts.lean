import RecordMapper.Proofs.Predicate.Fault
import RecordMapper.Proofs.Predicate.Quotes
import RecordMapper.Proofs.Text.Separated
/-!
# Where a fragment would be taken apart

Only the text of a constant can bring a line break into a fragment as long as no column has one in its
name, and a line break that begins a text stands behind a quote or a wildcard. So the separators of a
fragment are those that stand in the texts of its constants.
-/

namespace RecordMapper

open Recorder (HasSeparators)

theorem ne_newline_of_isDigit {c : Char} (h : c.isDigit = true) : c ≠ '\n' := by
  rintro rfl
  exact absurd h (by decide)

namespace Decimal

theorem newline_notMem_padded (width n : Nat) : '\n' ∉ padded width n := fun h =>
  ne_newline_of_isDigit (isDigit_of_mem_padded h) rfl

theorem newline_notMem_intText (n : Int) : '\n' ∉ (intText n).toList := by
  intro h
  rcases isDigit_or_eq_of_mem_intText h with hc | hc
  · exact ne_newline_of_isDigit hc rfl
  · exact absurd hc (by decide)

end Decimal

theorem Date.newline_notMem_chars (d : Date) : '\n' ∉ d.chars := by
  have hyear : '\n' ∉ Date.yearText d.year := by
    unfold Date.yearText
    dsimp only
    split_ifs <;> simp [Decimal.newline_notMem_padded]
  simp [Date.chars, hyear, Decimal.newline_notMem_padded]

theorem TimeOfDay.newline_notMem_chars (t : TimeOfDay) : '\n' ∉ t.chars := by
  have hfraction : '\n' ∉ TimeOfDay.fractionText t.nanosecond := by
    unfold TimeOfDay.fractionText
    dsimp only
    split_ifs <;> simp [Decimal.newline_notMem_padded]
  simp [TimeOfDay.chars, hfraction, Decimal.newline_notMem_padded]

namespace Value

def separators : Value → Nat
  | string s => Recorder.separators s
  | _ => 0

theorem newline_notMem_spelling {v : Value} {text : String} (h : v.literal = .ok text)
    (hstring : ∀ s, v ≠ string s) (hchar : ∀ c, v ≠ char c) : '\n' ∉ v.spelling := by
  cases v with
  | null => decide
  | bool b => cases b <;> decide
  | int32 n => exact Decimal.newline_notMem_intText _
  | int64 n => exact Decimal.newline_notMem_intText _
  | float x =>
    have hfinite : x.isFinite = true := by
      by_contra hx
      rw [literal, if_neg hx] at h
      cases h
    intro hmem
    rcases Binary64.isDigit_or_eq_of_mem_text hfinite hmem with hc | hc | hc
    · exact ne_newline_of_isDigit hc rfl
    · exact absurd hc (by decide)
    · exact absurd hc (by decide)
  | string s => exact absurd rfl (hstring s)
  | char c => exact absurd rfl (hchar c)
  | date d => simpa [spelling, Date.text] using d.newline_notMem_chars
  | dateTime t =>
    simp [spelling, DateTime.text, DateTime.chars, Date.newline_notMem_chars,
      TimeOfDay.newline_notMem_chars]
  | bytes data => exact List.not_mem_nil
  | list items => exact List.not_mem_nil

theorem hasSeparators_literal {v : Value} {text : String} (h : v.literal = .ok text) :
    HasSeparators text v.separators := by
  have hplain (hn : '\n' ∉ v.spelling) : HasSeparators text 0 := by
    have hnone : Recorder.separators (String.ofList v.spelling) = 0 := by
      rw [Recorder.separators, String.toList_ofList, Recorder.pieces_of_notMem hn]
    rw [literal_eq_ok h]
    split_ifs
    · rw [← hnone]
      exact .literal _
    · exact .of_notMem (by rwa [String.toList_ofList])
  cases v with
  | string s =>
    cases h
    exact .literal s
  | char c =>
    cases h
    -- a single character is no separator, whichever it is
    have hnone : Recorder.separators (String.singleton c) = 0 := by
      simp [Recorder.separators, Recorder.pieces]
    change HasSeparators _ 0
    rw [← hnone]
    exact .literal _
  | _ => exact hplain (newline_notMem_spelling h (by simp) (by simp))

end Value

theorem Method.hasSeparators_range (method : Method) {o : String} {n : Nat}
    (h : HasSeparators o n) : HasSeparators (method.range o) n := by
  cases method with
  | contains =>
    have ho : HasSeparators ("(" ++ o ++ ")") (0 + n + 0) :=
      ((HasSeparators.of_notMem (by decide)).append h).append (.of_notMem (by decide))
    rwa [Nat.zero_add] at ho
  | startsWith =>
    have ho : HasSeparators ("'" ++ String.ofList (Quoted.strip o).toList ++ "%'") n :=
      .quote_append h.pieces_strip (.of_notMem (by decide))
    rwa [String.ofList_toList] at ho
  | endsWith =>
    have ho : HasSeparators ("'" ++ String.ofList ('%' :: (Quoted.strip o).toList) ++ "'") n := by
      refine .quote_append ?_ (.of_notMem (by decide))
      rw [Recorder.pieces_cons_of_ne (by decide)]
      exact h.pieces_strip
    rw [String.ofList_cons, String.ofList_toList, ← String.append_assoc] at ho
    exact ho

namespace Expr

def text? : Expr → Option String
  | value (.string s) => some s
  | _ => none

def texts (e : Expr) : List String := e.nodes.filterMap text?

def textSeparators (e : Expr) : Nat := (e.texts.map Recorder.separators).sum

theorem texts_binary (op : BinaryOperator) (left right : Expr) :
    (binary op left right).texts = left.texts ++ right.texts := by
  have hnodes : (binary op left right).nodes =
      binary op left right :: (left.nodes ++ right.nodes) := rfl
  rw [texts, hnodes, List.filterMap_cons, List.filterMap_append]
  rfl

theorem texts_list (items : List Expr) : (list items).texts = items.flatMap texts := by
  rw [texts, nodes_list, List.filterMap_cons, List.filterMap_flatMap]
  rfl

theorem texts_call (method : Method) (receiver : Option Expr) (arguments : List Expr) :
    (call method receiver arguments).texts =
      (method.visited receiver arguments).flatMap texts := by
  rw [texts, nodes_call, List.filterMap_cons, List.filterMap_flatMap]
  rfl

theorem texts_of_isNullConstant {e : Expr} (h : e.isNullConstant = true) : e.texts = [] := by
  induction e with
  | unary operand ih => exact ih h
  | value v =>
    obtain rfl := Value.isNull_eq_true_iff.1 h
    rfl
  | _ => cases h

theorem textSeparators_binary (op : BinaryOperator) (left right : Expr) :
    (binary op left right).textSeparators = left.textSeparators + right.textSeparators := by
  rw [textSeparators, texts_binary, List.map_append, List.sum_append]
  rfl

theorem textSeparators_list (items : List Expr) :
    (list items).textSeparators = (items.map textSeparators).sum := by
  rw [textSeparators, texts_list, List.map_flatMap, List.flatMap_def, List.sum_flatten,
    List.map_map]
  rfl

theorem textSeparators_call {method : Method} {receiver : Option Expr} {arguments : List Expr}
    {subject operand : Expr} (h : method.roles? receiver arguments = some (subject, operand)) :
    (call method receiver arguments).textSeparators =
      subject.textSeparators + operand.textSeparators := by
  rw [textSeparators, texts_call, Method.visited, h]
  dsimp only
  split_ifs
  · simp [textSeparators]
  · simp [textSeparators, Nat.add_comm]

theorem textSeparators_value (v : Value) : (value v).textSeparators = v.separators := by
  cases v <;> rfl

theorem textSeparators_eq_zero_iff (e : Expr) :
    e.textSeparators = 0 ↔ ∀ t ∈ e.texts, ¬ Statement.separator.toList <:+: t.toList := by
  rw [textSeparators, List.sum_eq_zero_iff_forall_eq_nat, List.forall_mem_map]
  simp only [Recorder.separators_eq_zero_iff]

variable {m : EntityMapping}

theorem hasSeparators_items {items : List Expr} {texts : List String}
    (h : List.Forall₂ (fun e t => e.compile m = .ok t) items texts)
    (ih : ∀ e ∈ items, ∀ t, e.compile m = .ok t → HasSeparators t e.textSeparators) :
    HasSeparators (String.intercalate "," texts) (items.map textSeparators).sum := by
  induction h with
  | nil => exact .of_notMem (by decide)
  | @cons e t items texts he hrest ih' =>
    have ht := ih e List.mem_cons_self t he
    have hts := ih' fun e he => ih e (List.mem_cons_of_mem _ he)
    rw [List.map_cons, List.sum_cons]
    cases hrest with
    | nil => simpa using ht
    | cons _ _ =>
      rw [String.intercalate_cons_cons]
      exact (ht.append (.of_notMem (by decide))).append hts

/-- The separators of a fragment are those in the texts of its constants. -/
theorem hasSeparators_compile (hm : ∀ f ∈ m.fields, '\n' ∉ f.column.toList) {e : Expr}
    {text : String} (h : e.compile m = .ok text) : HasSeparators text e.textSeparators := by
  induction e generalizing text with
  | binary op left right ihl ihr =>
    obtain ⟨l, word, hl, hw, hcase⟩ := compile_binary_eq_ok_iff.1 h
    rw [textSeparators_binary]
    rcases hcase with ⟨test, hn, ht, rfl⟩ | ⟨-, r, hr, rfl⟩
    · have hright : right.textSeparators = 0 := by
        rw [textSeparators, texts_of_isNullConstant hn]
        rfl
      rw [hright]
      refine (ihl hl).append (.of_notMem ?_)
      cases op <;> cases ht <;> decide
    · have hword : '\n' ∉ (" " ++ word ++ " ").toList := by
        cases op <;> cases hw <;> decide
      exact ((ihl hl).append (.of_notMem hword)).append (ihr hr)
  | field source =>
    obtain ⟨f, hf, rfl⟩ := compile_field_eq_ok_iff.1 h
    exact .of_notMem (hm f (List.mem_of_find?_eq_some hf))
  | list items ih =>
    obtain ⟨texts, hts, rfl⟩ := compile_list_eq_ok_iff.1 h
    rw [textSeparators_list]
    exact hasSeparators_items hts fun e he t ht => ih e he ht
  | call method receiver arguments ihr iha =>
    obtain ⟨subject, operand, s, o, hroles, hs, ho, rfl⟩ := compile_call_eq_ok_iff.1 h
    obtain ⟨ihs, iho⟩ := Method.of_roles? hroles ihr iha
    have hkeyword : '\n' ∉ method.keyword.toList := by cases method <;> decide
    have hopen : HasSeparators ("(" ++ s) (0 + subject.textSeparators) :=
      (HasSeparators.of_notMem (by decide)).append (ihs hs)
    have htest := (hopen.append (.of_notMem hkeyword)).append
      (method.hasSeparators_range (iho ho))
    rw [Nat.zero_add] at htest
    rw [textSeparators_call hroles]
    exact htest.append (.of_notMem (by decide))
  | unary operand ih =>
    rw [compile] at h
    exact ih h
  | value v =>
    rw [compile] at h
    rw [textSeparators_value]
    exact Value.hasSeparators_literal h

end Expr

end RecordMapper
