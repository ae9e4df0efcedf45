import RecordMapper.Proofs.Predicate.Fragment
import RecordMapper.Proofs.Predicate.Quotes
import RecordMapper.Proofs.Predicate.Tree
import RecordMapper.Proofs.Text.Doubled
import RecordMapper.Proofs.Text.Joined
/-!
# Patterns made from any operand

A pattern is the text of its operand without an enclosing pair of quotes, between new ones. That is one
literal for a constant. For other operands it is one only if no quote in their text stands alone: the
text of a comparison with a constant, for one, ends the pattern too early.
-/

namespace RecordMapper

open Quoted (Piece scan contents)

namespace Quoted

theorem strip_eq_or (text : String) :
    strip text = text ∨ text.toList.count '\'' = (strip text).toList.count '\'' + 2 := by
  by_cases h : Enclosed text
  · obtain ⟨inside, hi⟩ := h
    right
    rw [strip_of_enclosed hi, hi]
    simp
  · exact .inl (strip_of_not_enclosed h)

theorem count_double (s : List Char) : (double s).count '\'' % 2 = 0 := by
  induction s with
  | nil => rfl
  | cons c rest ih =>
    by_cases hc : c = '\''
    · subst hc
      rw [double, if_pos rfl, List.count_cons_self, List.count_cons_self]
      omega
    · rw [double, if_neg hc, List.count_cons_of_ne hc]
      exact ih

end Quoted

def EvenQuotes (text : String) : Prop := text.toList.count '\'' % 2 = 0

namespace EvenQuotes

variable {a b : String}

theorem of_notMem (h : '\'' ∉ a.toList) : EvenQuotes a := by
  rw [EvenQuotes, List.count_eq_zero_of_not_mem h]

theorem append (ha : EvenQuotes a) (hb : EvenQuotes b) : EvenQuotes (a ++ b) := by
  unfold EvenQuotes at *
  rw [String.toList_append, List.count_append]
  omega

theorem literal (s : String) : EvenQuotes (Quoted.literal s) := by
  have h := Quoted.count_double s.toList
  unfold EvenQuotes
  rw [Quoted.toList_literal]
  simp
  omega

theorem range (h : EvenQuotes a) (method : Method) : EvenQuotes (method.range a) := by
  have hs : (Quoted.strip a).toList.count '\'' % 2 = 0 := by
    unfold EvenQuotes at h
    rcases Quoted.strip_eq_or a with hs | hs
    · rw [hs]; exact h
    · omega
  cases method with
  | contains => exact ((of_notMem (by decide)).append h).append (of_notMem (by decide))
  | startsWith => simp [EvenQuotes, Method.range]; omega
  | endsWith => simp [EvenQuotes, Method.range]; omega

end EvenQuotes

/-- Every fragment ends outside a literal, whatever its patterns are made from. -/
theorem evenQuotes_of_compile {m : EntityMapping} (hm : m.HasPlainColumns) {e : Expr}
    {text : String} (h : e.compile m = .ok text) : EvenQuotes text := by
  induction e generalizing text with
  | binary op left right ihl ihr =>
    obtain ⟨l, word, hl, hw, hcase⟩ := Expr.compile_binary_eq_ok_iff.1 h
    rcases hcase with ⟨test, -, ht, rfl⟩ | ⟨-, r, hr, rfl⟩
    · exact (ihl hl).append (.of_notMem (BinaryOperator.quote_notMem_nullTest ht))
    · refine ((ihl hl).append (.of_notMem ?_)).append (ihr hr)
      simp [BinaryOperator.quote_notMem_word hw]
  | field source =>
    obtain ⟨f, hf, rfl⟩ := Expr.compile_field_eq_ok_iff.1 h
    exact .of_notMem (hm f (List.mem_of_find?_eq_some hf))
  | list items ih =>
    obtain ⟨texts, hts, rfl⟩ := Expr.compile_list_eq_ok_iff.1 h
    refine intercalate_closed (.of_notMem (by decide)) (fun _ _ => .append)
      (.of_notMem (by decide)) fun t ht => ?_
    obtain ⟨e, he, hc⟩ := exists_of_forall₂ hts ht
    exact ih e he hc
  | call method receiver arguments ihr iha =>
    obtain ⟨subject, operand, s, o, hroles, hs, ho, rfl⟩ := Expr.compile_call_eq_ok_iff.1 h
    obtain ⟨ihs, iho⟩ := Method.of_roles? hroles ihr iha
    have hkeyword : '\'' ∉ method.keyword.toList := by cases method <;> decide
    refine .append (.append (.append (.append ?_ (ihs hs)) ?_) ((iho ho).range method)) ?_
    · exact .of_notMem (by decide)
    · exact .of_notMem hkeyword
    · exact .of_notMem (by decide)
  | unary operand ih =>
    rw [Expr.compile] at h
    exact ih h
  | value v =>
    rw [Expr.compile] at h
    rw [Value.literal_eq_ok h]
    split
    · exact .literal _
    · rename_i hq
      refine .of_notMem ?_
      rw [String.toList_ofList]
      exact Value.quote_notMem_spelling (Bool.not_eq_true _ ▸ hq)

namespace Quoted

theorem double_eq_append_iff {c : Char} (hc : c ≠ '\'') {q : List Char} :
    (∃ s, q ++ [c] = double s) ↔ ∃ s, q = double s := by
  constructor
  · rintro ⟨s, hs⟩
    rcases List.eq_nil_or_concat s with rfl | ⟨init, x, rfl⟩
    · simp [double] at hs
    · rw [List.concat_eq_append] at hs
      by_cases hx : x = '\''
      · have hl := congrArg List.getLast? hs
        simp only [double_append, double, hx, if_true, List.getLast?_append] at hl
        exact absurd (Option.some.inj hl) hc
      · rw [double_append, double, if_neg hx, double] at hs
        exact ⟨init, (List.append_inj' hs rfl).1⟩
  · rintro ⟨s, rfl⟩
    exact ⟨s ++ [c], by rw [double_append, double, if_neg hc, double]⟩

theorem double_eq_cons_iff {c : Char} (hc : c ≠ '\'') {q : List Char} :
    (∃ s, c :: q = double s) ↔ ∃ s, q = double s := by
  constructor
  · rintro ⟨s, hs⟩
    cases s with
    | nil => cases hs
    | cons x rest =>
      by_cases hx : x = '\''
      · rw [double, if_pos hx] at hs
        exact absurd ((List.cons.inj hs).1.trans hx) hc
      · rw [double, if_neg hx] at hs
        exact ⟨rest, (List.cons.inj hs).2⟩
  · rintro ⟨s, rfl⟩
    exact ⟨c :: s, by rw [double, if_neg hc]⟩

theorem eq_literal_iff {inside : List Char} {text : String}
    (h : text.toList = '\'' :: inside ++ ['\'']) :
    (∃ s, text = literal s) ↔ ∃ s, inside = double s := by
  constructor
  · rintro ⟨s, rfl⟩
    rw [toList_literal] at h
    exact ⟨s.toList, by simpa using h.symm⟩
  · rintro ⟨s, rfl⟩
    refine ⟨String.ofList s, ?_⟩
    rw [← String.toList_inj, h, toList_literal, String.toList_ofList]

end Quoted

theorem Method.range_eq_literal_iff {method : Method} (hm : method ≠ .contains) {text : String} :
    (∃ s, method.range text = Quoted.literal s) ↔
      ∃ s, (Quoted.strip text).toList = Quoted.double s := by
  cases method with
  | contains => exact absurd rfl hm
  | startsWith =>
    have h : (range startsWith text).toList =
        '\'' :: ((Quoted.strip text).toList ++ ['%']) ++ ['\''] := by simp [range]
    rw [Quoted.eq_literal_iff h]
    exact Quoted.double_eq_append_iff (by decide)
  | endsWith =>
    have h : (range endsWith text).toList =
        '\'' :: ('%' :: (Quoted.strip text).toList) ++ ['\''] := by simp [range]
    rw [Quoted.eq_literal_iff h]
    exact Quoted.double_eq_cons_iff (by decide)

/-- What a `LIKE` is followed by is one literal exactly when the text of the operand is one literal, or
is not between quotes of its own and has no literal in it but of quotes. -/
theorem like_literal_iff {m : EntityMapping} (hm : m.HasPlainColumns) {method : Method}
    (hlike : method ≠ .contains) {receiver : Option Expr} {arguments : List Expr} {text : String}
    (h : (Expr.call method receiver arguments).compile m = .ok text) :
    ∃ subject operand s o pattern ps,
      method.roles? receiver arguments = some (subject, operand) ∧
      subject.compile m = .ok s ∧ operand.compile m = .ok o ∧
      text = "(" ++ s ++ " LIKE " ++ pattern ++ ")" ∧ scan o = some ps ∧
      ((∃ content, pattern = Quoted.literal content) ↔
        (∃ content, ps = [Piece.literal content]) ∨
          ¬ Quoted.Enclosed o ∧ ∀ c ∈ contents ps, Quoted.OnlyQuotes c) := by
  obtain ⟨subject, operand, s, o, hroles, hs, ho, rfl⟩ := Expr.compile_call_eq_ok_iff.1 h
  obtain ⟨ps, hps⟩ := Option.isSome_iff_exists.1
    (Quoted.isSome_scan_iff.2 (evenQuotes_of_compile hm ho))
  have hkeyword : method.keyword = " LIKE " := by
    cases method with
    | contains => exact absurd rfl hlike
    | startsWith => rfl
    | endsWith => rfl
  refine ⟨subject, operand, s, o, method.range o, ps, hroles, hs, ho, ?_, hps, ?_⟩
  · rw [hkeyword]
  · rw [Method.range_eq_literal_iff hlike, Quoted.exists_double_strip_iff hps]

/-- A pattern from a constant with a quote is one literal, as the constant is. -/
theorem like_literal_iff_constant :
    let m : EntityMapping := ⟨"Test", none, [⟨"Name", none, false, false⟩]⟩
    (Expr.startsWith (.field "Name") (.value (.string "O'"))).compile m =
        .ok "(Name LIKE 'O''%')" ∧
      ∃ o pattern, (Expr.value (.string "O'")).compile m = .ok o ∧
        scan o = some [Piece.literal "O'".toList] ∧
        "(Name LIKE 'O''%')" = "(Name LIKE " ++ pattern ++ ")" ∧
        ∃ content, pattern = Quoted.literal content := by
  intro m
  have hm : m.HasPlainColumns := by
    intro f hf
    rw [List.mem_singleton.1 hf]
    decide
  have htext : (Expr.startsWith (.field "Name") (.value (.string "O'"))).compile m =
      .ok "(Name LIKE 'O''%')" := rfl
  obtain ⟨subject, operand, s, o, pattern, ps, hroles, hs, ho, hlike, hscan, hliteral⟩ :=
    like_literal_iff hm (by decide) htext
  obtain ⟨rfl, rfl⟩ : Expr.field "Name" = subject ∧ Expr.value (.string "O'") = operand :=
    Prod.mk.inj (Option.some.inj hroles)
  obtain rfl : "Name" = s := Except.ok.inj hs
  obtain rfl : Quoted.literal "O'" = o := Except.ok.inj ho
  have hone : scan (Quoted.literal "O'") = some [Piece.literal "O'".toList] := Quoted.scan_literal _
  have hps : ps = [Piece.literal "O'".toList] := Option.some.inj (hscan.symm.trans hone)
  exact ⟨htext, _, pattern, ho, hone, hlike, hliteral.2 (.inl ⟨_, hps⟩)⟩

/-- A pattern from a field and a constant: the characters of the constant stand outside every
literal. -/
theorem like_sum_not_literal :
    (Expr.startsWith (.field "Name")
        (.binary .add (.field "Name") (.value (.string "x OR 1=1 --")))).compile
      ⟨"Test", none, [⟨"Name", none, false, false⟩]⟩ =
      .ok ("(" ++ "Name" ++ " LIKE " ++ "'Name + 'x OR 1=1 --'%'" ++ ")") ∧
    scan "'Name + 'x OR 1=1 --'%'" =
      some (Piece.literal "Name + ".toList :: "x OR 1=1 --".toList.map Piece.raw ++
        [Piece.literal "%".toList]) ∧
    ¬ ∃ content, "'Name + 'x OR 1=1 --'%'" = Quoted.literal content := by
  have hscan : scan "'Name + 'x OR 1=1 --'%'" =
      some (Piece.literal "Name + ".toList :: "x OR 1=1 --".toList.map Piece.raw ++
        [Piece.literal "%".toList]) := by decide
  refine ⟨rfl, hscan, ?_⟩
  rintro ⟨content, hc⟩
  rw [hc, Quoted.scan_literal] at hscan
  exact absurd (Option.some.inj hscan) (by simp)

end RecordMapper
