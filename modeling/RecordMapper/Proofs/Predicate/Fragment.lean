import RecordMapper.Predicate.Compile
import Mathlib.Data.List.Forall2
/-!
# What a fragment is made of

For each combinator of fragments, when its result exists and which text it then is. Proofs about
compiled filters go through these and open no combinator.
-/

namespace RecordMapper

theorem Except.map_eq_ok_iff {ε α β : Type} {x : Except ε α} {f : α → β} {b : β} :
    x.map f = .ok b ↔ ∃ a, x = .ok a ∧ f a = b := by
  cases x <;> simp [Except.map]

theorem exists_of_forall₂ {α β : Type} {R : α → β → Prop} {as : List α} {bs : List β}
    (h : List.Forall₂ R as bs) {b : β} (hb : b ∈ bs) : ∃ a ∈ as, R a b := by
  induction h with
  | nil => cases hb
  | @cons a b' as bs hab _ ih =>
    rcases List.mem_cons.1 hb with rfl | hb
    · exact ⟨a, List.mem_cons_self, hab⟩
    · obtain ⟨a', ha', h'⟩ := ih hb
      exact ⟨a', List.mem_cons_of_mem _ ha', h'⟩

namespace Method

def keyword : Method → String
  | contains => " IN "
  | startsWith | endsWith => " LIKE "

def range : Method → String → String
  | contains, operand => "(" ++ operand ++ ")"
  | startsWith, operand => "'" ++ Quoted.strip operand ++ "%'"
  | endsWith, operand => "'%" ++ Quoted.strip operand ++ "'"

end Method

namespace Fragment

theorem all_eq_ok_iff {fragments : List Fragment} {texts : List String} :
    all fragments = .ok texts ↔ List.Forall₂ (fun f t => f = .ok t) fragments texts := by
  induction fragments generalizing texts with
  | nil => cases texts <;> simp [all]
  | cons f rest ih =>
    cases f with
    | error e => cases texts <;> simp [all]
    | ok text =>
      cases h : all rest with
      | error e =>
        rw [h] at ih
        cases texts <;> simp [all, h, ← ih]
      | ok others =>
        rw [h] at ih
        cases texts <;> simp [all, h, ← ih]

theorem list_eq_ok_iff {items : List Fragment} {text : String} :
    list items = .ok text ↔ ∃ texts, List.Forall₂ (fun f t => f = .ok t) items texts ∧
      text = String.intercalate "," texts := by
  simp only [list, Except.map_eq_ok_iff, all_eq_ok_iff, eq_comm (a := text)]

theorem binary_eq_ok_iff {op : BinaryOperator} {rightIsNull : Bool} {left right : Fragment}
    {text : String} :
    binary op rightIsNull left right = .ok text ↔ ∃ l word, left = .ok l ∧ op.word? = some word ∧
      ((∃ test, rightIsNull = true ∧ op.nullTest? = some test ∧ text = l ++ test) ∨
        ((rightIsNull = true → op.nullTest? = none) ∧
          ∃ r, right = .ok r ∧ text = l ++ (" " ++ word ++ " ") ++ r)) := by
  cases hw : op.word? with
  | none => simp [binary, hw]
  | some word =>
    cases left with
    | error e =>
      cases rightIsNull <;> cases ht : op.nullTest? <;> simp [binary, hw, ht, Except.map]
    | ok l =>
      cases rightIsNull <;> cases ht : op.nullTest? <;> cases right <;>
        simp [binary, hw, ht, Except.map, String.append_assoc, eq_comm (b := text)]

theorem test_ok (method : Method) (s o : String) :
    test method (.ok s) (.ok o) =
      .ok ("(" ++ s ++ method.keyword ++ method.range o ++ ")") := by
  cases method <;>
    simp [test, Except.map, Method.keyword, Method.range, ← String.toList_inj]

theorem test_eq_ok_iff {method : Method} {subject operand : Fragment} {text : String} :
    test method subject operand = .ok text ↔ ∃ s o, subject = .ok s ∧ operand = .ok o ∧
      text = "(" ++ s ++ method.keyword ++ method.range o ++ ")" := by
  cases subject with
  | error e => cases method <;> cases operand <;> simp [test, Except.map]
  | ok s =>
    cases operand with
    | error e => cases method <;> simp [test, Except.map]
    | ok o => simp [test_ok, eq_comm (b := text)]

end Fragment

namespace Expr

variable {m : EntityMapping} {text : String}

theorem compile_binary_eq_ok_iff {op : BinaryOperator} {left right : Expr} :
    (binary op left right).compile m = .ok text ↔
      ∃ l word, left.compile m = .ok l ∧ op.word? = some word ∧
        ((∃ test, right.isNullConstant = true ∧ op.nullTest? = some test ∧ text = l ++ test) ∨
          ((right.isNullConstant = true → op.nullTest? = none) ∧
            ∃ r, right.compile m = .ok r ∧ text = l ++ (" " ++ word ++ " ") ++ r)) := by
  rw [compile, Fragment.binary_eq_ok_iff]

theorem compile_field_eq_ok_iff {source : String} :
    (field source).compile m = .ok text ↔ ∃ f, m.field? source = some f ∧ text = f.column := by
  rw [compile, EntityMapping.fragment]
  cases m.field? source <;> simp [eq_comm]

theorem compile_list_eq_ok_iff {items : List Expr} :
    (list items).compile m = .ok text ↔
      ∃ texts, List.Forall₂ (fun e t => e.compile m = .ok t) items texts ∧
        text = String.intercalate "," texts := by
  rw [compile_list, Fragment.list_eq_ok_iff]
  simp only [List.forall₂_map_left_iff]

theorem compile_call_eq_ok_iff {method : Method} {receiver : Option Expr}
    {arguments : List Expr} :
    (call method receiver arguments).compile m = .ok text ↔
      ∃ subject operand s o, method.roles? receiver arguments = some (subject, operand) ∧
        subject.compile m = .ok s ∧ operand.compile m = .ok o ∧
        text = "(" ++ s ++ method.keyword ++ method.range o ++ ")" := by
  rw [compile_call]
  cases h : method.roles? receiver arguments with
  | none => simp
  | some roles =>
    obtain ⟨subject, operand⟩ := roles
    simp [Fragment.test_eq_ok_iff]

end Expr

end RecordMapper
