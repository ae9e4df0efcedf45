import RecordMapper.Proofs.Predicate.Fragment
import RecordMapper.Proofs.Predicate.Tree
/-!
# Regrouping operations

An operation is written as its left side with a tail behind it. Two operations in a row are one left side
with two tails behind each other, whichever of them was grouped first, unless the first tail is a null
test: that one takes nothing but the null constant for its right side.
-/

namespace RecordMapper

namespace Fragment

/-- One fragment behind another; of two failures the first one is reported. -/
def append (first second : Fragment) : Fragment :=
  match first with
  | .error e => .error e
  | .ok text => second.map (text ++ ·)

theorem append_assoc (first second third : Fragment) :
    append (append first second) third = append first (append second third) := by
  cases first with
  | error e => rfl
  | ok a =>
    cases second with
    | error e => rfl
    | ok b =>
      cases third with
      | error e => rfl
      | ok c => exact congrArg Except.ok (String.append_assoc ..)

theorem append_ok (s t : String) : append (.ok s) (.ok t) = .ok (s ++ t) := rfl

theorem append_between_eq_iff {s t : String} (hne : s ≠ t) (first last : Fragment) :
    append first (append (.ok s) last) = append first (append (.ok t) last) ↔
      ¬ ((∃ a, first = .ok a) ∧ ∃ b, last = .ok b) := by
  cases first with
  | error e => simp [append]
  | ok a =>
    cases last with
    | error e => simp [append, Except.map]
    | ok b => simp [append, Except.map, hne]

end Fragment

open Fragment

namespace BinaryOperator

def TestsNull (op : BinaryOperator) (right : Expr) : Prop :=
  right.isNullConstant = true ∧ (op = eq ∨ op = ne)

theorem TestsNull.exists_nullTest {op : BinaryOperator} {right : Expr} (h : op.TestsNull right) :
    ∃ test, op.nullTest? = some test := by
  rcases h.2 with rfl | rfl
  · exact ⟨_, rfl⟩
  · exact ⟨_, rfl⟩

/-- What stands behind the left side of an operation. -/
def tail (op : BinaryOperator) (m : EntityMapping) (right : Expr) : Fragment :=
  match if right.isNullConstant then op.nullTest? else none with
  | some test => .ok test
  | none => append (.ok (" " ++ op.text ++ " ")) (right.compile m)

variable {op : BinaryOperator} {m : EntityMapping} {right : Expr}

theorem tail_of_testsNull {test : String} (h : op.TestsNull right)
    (ht : op.nullTest? = some test) : op.tail m right = .ok test := by
  rw [tail, if_pos h.1, ht]

theorem tail_of_not_testsNull (h : ¬ op.TestsNull right) :
    op.tail m right = append (.ok (" " ++ op.text ++ " ")) (right.compile m) := by
  have hnone : (if right.isNullConstant then op.nullTest? else none) = none := by
    split_ifs with hnull
    · cases op with
      | eq => exact absurd ⟨hnull, .inl rfl⟩ h
      | ne => exact absurd ⟨hnull, .inr rfl⟩ h
      | _ => rfl
    · rfl
  rw [tail, hnone]

end BinaryOperator

namespace Expr

variable {m : EntityMapping} {op op' : BinaryOperator} {a b c : Expr}

theorem compile_binary (hop : op ≠ .coalesce) :
    (binary op a b).compile m = append (a.compile m) (op.tail m b) := by
  have hword : op.word? = some op.text := by
    cases op with
    | coalesce => exact absurd rfl hop
    | _ => rfl
  rw [compile, Fragment.binary, hword, BinaryOperator.tail]
  generalize (if b.isNullConstant then op.nullTest? else none) = test
  cases test with
  | some test => cases a.compile m <;> rfl
  | none =>
    cases a.compile m with
    | error e => rfl
    | ok left =>
      cases b.compile m with
      | error e => rfl
      | ok right =>
        refine congrArg Except.ok ?_
        simp only [String.append_assoc]

theorem exists_tail_eq_ok_iff :
    (∃ text, op.tail m c = .ok text) ↔ ∃ text, c.compile m = .ok text := by
  by_cases h : op.TestsNull c
  · obtain ⟨test, ht⟩ := h.exists_nullTest
    rw [BinaryOperator.tail_of_testsNull h ht, compile_of_isNullConstant m h.1]
    exact ⟨fun _ => ⟨_, rfl⟩, fun _ => ⟨_, rfl⟩⟩
  · rw [BinaryOperator.tail_of_not_testsNull h]
    cases c.compile m <;> simp [append, Except.map]

/-- An operation is no null constant, so the operator in front of it keeps its word. -/
theorem tail_binary (hop' : op' ≠ .coalesce) :
    op.tail m (binary op' b c) =
      append (.ok (" " ++ op.text ++ " ")) (append (b.compile m) (op'.tail m c)) := by
  have hno : ¬ op.TestsNull (binary op' b c) := by
    rintro ⟨hnull, -⟩
    cases hnull
  rw [BinaryOperator.tail_of_not_testsNull hno, compile_binary hop']

theorem compile_left_grouped (hop : op ≠ .coalesce) (hop' : op' ≠ .coalesce) :
    (binary op' (binary op a b) c).compile m =
      append (a.compile m) (append (op.tail m b) (op'.tail m c)) := by
  rw [compile_binary hop', compile_binary hop, append_assoc]

theorem compile_right_grouped (hop : op ≠ .coalesce) (hop' : op' ≠ .coalesce) :
    (binary op a (binary op' b c)).compile m =
      append (a.compile m)
        (append (append (.ok (" " ++ op.text ++ " ")) (b.compile m)) (op'.tail m c)) := by
  rw [compile_binary hop, tail_binary hop', append_assoc]

end Expr

/-- Regrouping two operations changes neither text nor error unless the first one is a null test and
everything else compiles; then one grouping tests for null and the other compares with it. -/
theorem regrouping_shows_iff (m : EntityMapping) {op op' : BinaryOperator} (hop : op ≠ .coalesce)
    (hop' : op' ≠ .coalesce) (a b c : Expr) :
    ((Expr.binary op' (.binary op a b) c).compile m ≠
        (Expr.binary op a (.binary op' b c)).compile m ↔
      op.TestsNull b ∧ (∃ left, a.compile m = .ok left) ∧ ∃ right, c.compile m = .ok right) ∧
    ∀ left right word, b.isNullConstant = true → a.compile m = .ok left → c.compile m = .ok right →
      op'.word? = some word → ¬ op'.TestsNull c →
      (op = .eq →
        (Expr.binary op' (.binary op a b) c).compile m =
          .ok (left ++ " IS NULL " ++ word ++ " " ++ right) ∧
        (Expr.binary op a (.binary op' b c)).compile m =
          .ok (left ++ " = null " ++ word ++ " " ++ right)) ∧
      (op = .ne →
        (Expr.binary op' (.binary op a b) c).compile m =
          .ok (left ++ " IS NOT NULL " ++ word ++ " " ++ right) ∧
        (Expr.binary op a (.binary op' b c)).compile m =
          .ok (left ++ " <> null " ++ word ++ " " ++ right)) := by
  rw [Expr.compile_left_grouped hop hop', Expr.compile_right_grouped hop hop']
  constructor
  · by_cases h : op.TestsNull b
    · obtain ⟨test, ht⟩ := h.exists_nullTest
      have hne : test ≠ " " ++ op.text ++ " " ++ "null" := by
        cases op <;> cases ht <;> decide
      rw [BinaryOperator.tail_of_testsNull h ht, Expr.compile_of_isNullConstant m h.1, append_ok,
        Ne, append_between_eq_iff hne, not_not, Expr.exists_tail_eq_ok_iff]
      exact (and_iff_right h).symm
    · rw [BinaryOperator.tail_of_not_testsNull h]
      constructor
      · intro hne
        exact absurd rfl hne
      · rintro ⟨hnull, -⟩
        exact absurd hnull h
  · intro left right word hnull ha hc hword hno
    have htext : op'.text = word := by rw [BinaryOperator.text, hword]; rfl
    rw [ha, BinaryOperator.tail_of_not_testsNull hno, hc, htext, Expr.compile_of_isNullConstant m hnull]
    have hjoin (test : String) : append (.ok left) (append (.ok test)
        (append (.ok (" " ++ word ++ " ")) (.ok right))) =
          .ok (left ++ (test ++ " ") ++ word ++ " " ++ right) := by
      simp only [append_ok, String.append_assoc]
    constructor
    · rintro rfl
      rw [BinaryOperator.tail_of_testsNull ⟨hnull, .inl rfl⟩ rfl]
      exact ⟨hjoin " IS NULL", hjoin " = null"⟩
    · rintro rfl
      rw [BinaryOperator.tail_of_testsNull ⟨hnull, .inr rfl⟩ rfl]
      exact ⟨hjoin " IS NOT NULL", hjoin " <> null"⟩

/-- A null constant under a unary node between two operators: for `AND` behind `=` the grouping shows, for
`=` behind `AND` it does not. -/
theorem regrouping_shows_iff_null :
    let m : EntityMapping := ⟨"Test", none, [⟨"Pyh", none, false, false⟩]⟩
    let a : Expr := .field "Pyh"
    let b : Expr := .unary .null
    let c : Expr := .value (.bool true)
    (Expr.binary .and (.binary .eq a b) c).compile m = .ok "Pyh IS NULL AND true" ∧
      (Expr.binary .eq a (.binary .and b c)).compile m = .ok "Pyh = null AND true" ∧
      (Expr.binary .eq (.binary .and a b) c).compile m =
        (Expr.binary .and a (.binary .eq b c)).compile m := by
  intro m a b c
  have ha : a.compile m = .ok "Pyh" := rfl
  have hc : c.compile m = .ok "true" := rfl
  have heq : BinaryOperator.eq ≠ .coalesce := nofun
  have hand : BinaryOperator.and ≠ .coalesce := nofun
  obtain ⟨-, htexts⟩ := regrouping_shows_iff m heq hand a b c
  have hno : ¬ BinaryOperator.and.TestsNull c := by
    rintro ⟨hnull, -⟩
    cases hnull
  obtain ⟨hleft, hright⟩ := (htexts _ _ _ rfl ha hc rfl hno).1 rfl
  obtain ⟨hshows, -⟩ := regrouping_shows_iff m hand heq a b c
  refine ⟨hleft, hright, ?_⟩
  by_contra hne
  obtain ⟨⟨-, hop⟩, -⟩ := hshows.1 hne
  rcases hop with h | h
  · cases h
  · cases h

end RecordMapper
