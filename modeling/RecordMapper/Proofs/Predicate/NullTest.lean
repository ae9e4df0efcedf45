import RecordMapper.Proofs.Predicate.Fragment
import RecordMapper.Proofs.Predicate.Quotes
import RecordMapper.Proofs.Predicate.Tree
/-!
# Comparisons with null

No row meets a comparison with the text `null`, so a comparison for equality becomes a null test. What
decides is the tree of the right side and not its text: the null constant inside a list of one item is
written `null` as well, and is still compared.
-/

namespace RecordMapper

namespace Expr

/-- The null constant, under unary nodes and lists of one item. -/
def isWrittenNull : Expr → Bool
  | value v => v.isNull
  | unary operand => isWrittenNull operand
  | list [item] => isWrittenNull item
  | _ => false

def IsListedNull (e : Expr) : Prop := e.isWrittenNull = true ∧ e.isNullConstant = false

theorem isWrittenNull_of_isNullConstant {e : Expr} (h : e.isNullConstant = true) :
    e.isWrittenNull = true := by
  induction e with
  | value v => rwa [isNullConstant] at h
  | unary operand ih =>
    rw [isNullConstant] at h
    rw [isWrittenNull]
    exact ih h
  | _ => cases h

end Expr

theorem ne_of_mem_of_notMem {text text' : String} {c : Char} (h : c ∈ text.toList)
    (h' : c ∉ text'.toList) : text ≠ text' := by
  rintro rfl
  exact h' h

/-- Numbers have no letters, and what stands in quotes is no keyword. -/
theorem Value.eq_null_iff {v : Value} {text : String} (h : v.literal = .ok text) :
    text = "null" ↔ v.isNull = true := by
  have hnumeral {t : String} (ht : ∀ c ∈ t.toList, c.isDigit = true ∨ c = '.' ∨ c = '-') :
      t ≠ "null" := by
    rintro rfl
    rcases ht 'n' (by decide) with hn | hn | hn
    · exact absurd hn (by decide)
    · exact absurd hn (by decide)
    · exact absurd hn (by decide)
  have hint (n : Int) : Decimal.intText n ≠ "null" :=
    hnumeral fun c hc => (Decimal.isDigit_or_eq_of_mem_intText hc).imp_right .inr
  cases hq : v.isQuoted with
  | true =>
    have hquote : '\'' ∈ text.toList := by
      rw [literal_eq_ok h, if_pos hq, Quoted.toList_literal]
      exact List.mem_cons_self
    have hne : text ≠ "null" := ne_of_mem_of_notMem hquote (by decide)
    refine ⟨fun h => absurd h hne, fun hnull => ?_⟩
    rw [isNull_eq_true_iff.1 hnull] at hq
    cases hq
  | false =>
    cases v with
    | null => exact ⟨fun _ => rfl, fun _ => (Except.ok.inj h).symm⟩
    | bool b =>
      obtain rfl := Except.ok.inj h
      cases b <;> decide
    | int32 n =>
      obtain rfl := Except.ok.inj h
      exact ⟨fun h => absurd h (hint _), fun hnull => by cases hnull⟩
    | int64 n =>
      obtain rfl := Except.ok.inj h
      exact ⟨fun h => absurd h (hint _), fun hnull => by cases hnull⟩
    | float x =>
      simp only [literal] at h
      split at h
      · rename_i hx
        obtain rfl := Except.ok.inj h
        have hne : x.text ≠ "null" := hnumeral fun c => Binary64.isDigit_or_eq_of_mem_text hx
        exact ⟨fun h => absurd h hne, fun hnull => by cases hnull⟩
      · cases h
    | bytes data => cases h
    | list items => cases h
    | _ => cases hq

namespace Expr

variable {m : EntityMapping} {l r : Expr} {left right : String}

/-- What is written `null` is the null constant, however deep it lies. Every other kind of node brings
a character with it that the keyword does not have. -/
theorem eq_null_iff (hm : ∀ f ∈ m.fields, f.column ≠ "null") {e : Expr} {text : String}
    (h : e.compile m = .ok text) : text = "null" ↔ e.isWrittenNull = true := by
  induction e generalizing text with
  | binary op left right ihl ihr =>
    have hblank : ' ' ∈ text.toList := by
      obtain ⟨l, word, -, -, hcase⟩ := compile_binary_eq_ok_iff.1 h
      rcases hcase with ⟨test, -, ht, rfl⟩ | ⟨-, r, -, rfl⟩
      · have htest : ' ' ∈ test.toList := by
          cases op <;> cases ht <;> decide
        simp [htest]
      · simp
    exact ⟨fun h => absurd h (ne_of_mem_of_notMem hblank (by decide)), nofun⟩
  | field source =>
    obtain ⟨f, hf, rfl⟩ := compile_field_eq_ok_iff.1 h
    exact ⟨fun h => absurd h (hm f (List.mem_of_find?_eq_some hf)), nofun⟩
  | list items ih =>
    obtain ⟨texts, hts, rfl⟩ := compile_list_eq_ok_iff.1 h
    cases hts with
    | nil => exact ⟨fun h => absurd h (by decide), nofun⟩
    | @cons item t items ts ht hts =>
      cases hts with
      | nil =>
        rw [String.intercalate_singleton, isWrittenNull]
        exact ih item List.mem_cons_self ht
      | @cons _ t' _ ts ht' hts' =>
        have hcomma : ',' ∈ (String.intercalate "," (t :: t' :: ts)).toList := by
          rw [String.intercalate_cons_cons]
          simp
        exact ⟨fun h => absurd h (ne_of_mem_of_notMem hcomma (by decide)), nofun⟩
  | call method receiver arguments ihr iha =>
    obtain ⟨subject, operand, s, o, -, -, -, rfl⟩ := compile_call_eq_ok_iff.1 h
    refine ⟨fun h => absurd h (ne_of_mem_of_notMem (c := '(') ?_ (by decide)), nofun⟩
    simp
  | unary operand ih =>
    rw [compile] at h
    rw [isWrittenNull]
    exact ih h
  | value v =>
    rw [compile] at h
    rw [isWrittenNull]
    exact Value.eq_null_iff h

theorem compile_comparison {op : BinaryOperator} {test word : String}
    (ht : op.nullTest? = some test) (hw : op.word? = some word) (hl : l.compile m = .ok left)
    (hr : r.compile m = .ok right) :
    (binary op l r).compile m =
      .ok (if r.isNullConstant then left ++ test else left ++ (" " ++ word ++ " ") ++ right) := by
  rw [compile_binary_eq_ok_iff]
  refine ⟨left, word, hl, hw, ?_⟩
  cases hnull : r.isNullConstant with
  | true => exact .inl ⟨test, rfl, ht, rfl⟩
  | false => exact .inr ⟨nofun, right, hr, rfl⟩

theorem compile_comparison_iff (hm : ∀ f ∈ m.fields, f.column ≠ "null") {op : BinaryOperator}
    {test word : String} (ht : op.nullTest? = some test) (hw : op.word? = some word)
    (hl : l.compile m = .ok left) (hr : r.compile m = .ok right) :
    (binary op l r).compile m =
        .ok (if right = "null" then left ++ test else left ++ (" " ++ word ++ " ") ++ right) ↔
      ¬ r.IsListedNull := by
  have hnull := eq_null_iff hm hr
  have hne : test ≠ " " ++ word ++ " " ++ "null" := by
    cases op <;> cases ht <;> cases hw <;> decide
  rw [compile_comparison ht hw hl hr, Except.ok.injEq]
  cases hconst : r.isNullConstant with
  | true =>
    have hright := hnull.2 (isWrittenNull_of_isNullConstant hconst)
    rw [if_pos rfl, if_pos hright]
    refine ⟨fun _ hlisted => ?_, fun _ => rfl⟩
    exact absurd (hconst.symm.trans hlisted.2) (by decide)
  | false =>
    rw [if_neg Bool.false_ne_true]
    by_cases hright : right = "null"
    · rw [if_pos hright, hright, String.append_assoc, String.append_right_inj]
      exact ⟨fun h => absurd h.symm hne, fun h => absurd ⟨hnull.1 hright, hconst⟩ h⟩
    · rw [if_neg hright]
      exact ⟨fun _ hlisted => hright (hnull.2 hlisted.1), fun _ => rfl⟩

end Expr

/-- A comparison for equality becomes a null test whenever its right side is written `null`, and is the
comparison of both texts otherwise, exactly if the right side is not a null that stands in a list. With a
listed null it compares with the text `null`. -/
theorem null_comparison_iff {m : EntityMapping} (hm : ∀ f ∈ m.fields, f.column ≠ "null")
    {l r : Expr} {left right : String} (hl : l.compile m = .ok left)
    (hr : r.compile m = .ok right) :
    ((Expr.binary .eq l r).compile m =
        .ok (if right = "null" then left ++ " IS NULL" else left ++ " = " ++ right) ↔
      ¬ r.IsListedNull) ∧
    ((Expr.binary .ne l r).compile m =
        .ok (if right = "null" then left ++ " IS NOT NULL" else left ++ " <> " ++ right) ↔
      ¬ r.IsListedNull) ∧
    (r.IsListedNull → right = "null" ∧
      (Expr.binary .eq l r).compile m = .ok (left ++ " = null") ∧
      (Expr.binary .ne l r).compile m = .ok (left ++ " <> null")) := by
  have heqWord : " = " = " " ++ "=" ++ " " := rfl
  have hneWord : " <> " = " " ++ "<>" ++ " " := rfl
  refine ⟨?_, ?_, ?_⟩
  · rw [heqWord]
    exact Expr.compile_comparison_iff hm rfl rfl hl hr
  · rw [hneWord]
    exact Expr.compile_comparison_iff hm rfl rfl hl hr
  · rintro ⟨hwritten, hconst⟩
    obtain rfl := (Expr.eq_null_iff hm hr).2 hwritten
    have heq : (Expr.binary .eq l r).compile m = _ := Expr.compile_comparison rfl rfl hl hr
    have hne : (Expr.binary .ne l r).compile m = _ := Expr.compile_comparison rfl rfl hl hr
    rw [hconst, if_neg Bool.false_ne_true, String.append_assoc] at heq hne
    exact ⟨rfl, heq, hne⟩

/-- The null constant under a unary node is tested for, and compared with in two lists. -/
theorem null_comparison_iff_nested :
    let m : EntityMapping := ⟨"Test", none, [⟨"Pyh", none, false, false⟩]⟩
    let bare : Expr := .unary .null
    let listed : Expr := .list [.unary (.list [.null])]
    (Expr.binary .ne (.field "Pyh") bare).compile m = .ok ("Pyh" ++ " IS NOT NULL") ∧
      (Expr.binary .ne (.field "Pyh") listed).compile m = .ok ("Pyh" ++ " <> null") := by
  intro m bare listed
  have hm : ∀ f ∈ m.fields, f.column ≠ "null" := by decide
  have hleft : (Expr.field "Pyh").compile m = .ok "Pyh" := rfl
  have hbare : bare.compile m = .ok "null" := rfl
  have hlisted : listed.compile m = .ok "null" := rfl
  obtain ⟨-, htest, -⟩ := null_comparison_iff hm hleft hbare
  obtain ⟨-, -, hcompare⟩ := null_comparison_iff hm hleft hlisted
  refine ⟨htest.2 ?_, (hcompare ⟨rfl, rfl⟩).2.2⟩
  rintro ⟨-, hconst⟩
  cases hconst

/-- A field compared with a list that holds nothing but null: the right side is written `null`, and there
is no null test. -/
theorem listed_null_compared :
    let m : EntityMapping := ⟨"Test", none, [⟨"Pyh", none, false, false⟩]⟩
    let l : Expr := .field "Pyh"
    let r : Expr := .list [.null]
    (∀ f ∈ m.fields, f.column ≠ "null") ∧ l.compile m = .ok "Pyh" ∧ r.compile m = .ok "null" ∧
      (Expr.binary .eq l r).compile m = .ok "Pyh = null" ∧
      (Expr.binary .eq l r).compile m ≠ .ok ("Pyh" ++ " IS NULL") := by
  intro m l r
  have hcompare : (Expr.binary .eq l r).compile m = .ok "Pyh = null" := rfl
  refine ⟨by decide, rfl, rfl, hcompare, ?_⟩
  rw [hcompare]
  intro h
  exact absurd (Except.ok.inj h) (by decide)

end RecordMapper
