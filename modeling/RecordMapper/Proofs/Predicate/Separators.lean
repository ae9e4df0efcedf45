import RecordMapper.Proofs.Predicate.Fragment
import RecordMapper.Proofs.Predicate.Quotes
import RecordMapper.Proofs.Predicate.Tree
import RecordMapper.Proofs.Text.Joined
import Mathlib.Algebra.Order.BigOperators.Group.List
import Mathlib.Algebra.Order.Group.Nat
/-!
# Separators of nested lists

A list is written item by item with one comma between two neighbours, and a list inside it brings its own
items and commas. An inner list without items is still a neighbour: its commas stay and nothing stands
between them.
-/

namespace RecordMapper

theorem sum_map_le_and_eq_iff {α : Type} {f g : α → Nat} {l : List α}
    (h : ∀ a ∈ l, f a ≤ g a + 1) :
    (l.map f).sum ≤ (l.map g).sum + l.length ∧
      ((l.map f).sum = (l.map g).sum + l.length ↔ ∀ a ∈ l, f a = g a + 1) := by
  induction l with
  | nil => simp
  | cons a rest ih =>
    rw [List.forall_mem_cons] at h
    obtain ⟨hle, heq⟩ := ih h.2
    have ha := h.1
    rw [List.forall_mem_cons, ← heq]
    simp only [List.map_cons, List.sum_cons, List.length_cons]
    omega

theorem Decimal.intText_ne_empty (n : Int) : intText n ≠ "" := by
  have hdigits : digits n.natAbs ≠ [] := Nat.toDigits_ne_nil
  unfold intText natText
  split <;> simp [hdigits]

theorem Binary64.text_ne_empty (x : Binary64) : x.text ≠ "" := by
  have hpositional (s : Decimal.Scaled) : s.positional false ≠ [] := by
    simp only [Decimal.Scaled.positional]
    split
    · simp [Nat.toDigits_ne_nil]
    · split <;> simp
  have hm : x.magnitudeText literalFormat ≠ [] := by
    unfold magnitudeText
    split
    · decide
    · exact hpositional _
  unfold text write
  cases x.isNaN <;> cases x.isFinite <;> simp [hm]

theorem Value.literal_ne_empty {v : Value} {text : String} (h : v.literal = .ok text) :
    text ≠ "" := by
  rw [literal_eq_ok h]
  cases hq : v.isQuoted with
  | true => simp [Quoted.literal]
  | false =>
    cases v with
    | null => decide
    | bool b => cases b <;> decide
    | int32 n => simpa [spelling] using Decimal.intText_ne_empty n.toInt
    | int64 n => simpa [spelling] using Decimal.intText_ne_empty n.toInt
    | float x => simpa [spelling] using x.text_ne_empty
    | bytes data => cases h
    | list items => cases h
    | _ => cases hq

namespace Expr

namespace Cases

def leaves : Cases (List Expr) where
  binary op left right := [.binary op left.1 right.1]
  field source := [.field source]
  list items := items.flatMap Prod.snd
  call method receiver arguments :=
    [.call method (receiver.map Prod.fst) (arguments.map Prod.fst)]
  unary operand := operand.2
  value v := [.value v]

def lists : Cases (List (List Expr)) where
  binary _ _ _ := []
  field _ := []
  list items := items.map Prod.fst :: items.flatMap Prod.snd
  call _ _ _ := []
  unary operand := operand.2
  value _ := []

def separators : Cases Nat where
  binary _ _ _ := 0
  field _ := 0
  list items := (items.map Prod.snd).sum + (items.length - 1)
  call _ _ _ := 0
  unary operand := operand.2
  value _ := 0

end Cases

/-- What is no list itself in a filter and in the lists nested in it, in order. -/
def leaves : Expr → List Expr := fold Cases.leaves

/-- The items of a filter that is a list, and of each list nested in it. -/
def lists : Expr → List (List Expr) := fold Cases.lists

def separators : Expr → Nat := fold Cases.separators

/-- No item beside another one comes to nothing. -/
def HasNoGaps (e : Expr) : Prop :=
  ∀ items ∈ e.lists, 2 ≤ items.length → ∀ item ∈ items, item.leaves ≠ []

theorem leaves_list (items : List Expr) : (list items).leaves = items.flatMap leaves := by
  unfold leaves
  rw [fold_list]
  simp [Cases.leaves, List.flatMap_map]

theorem lists_list (items : List Expr) : (list items).lists = items :: items.flatMap lists := by
  unfold lists
  rw [fold_list]
  simp [Cases.lists, List.flatMap_map, Function.comp_def]

theorem separators_list (items : List Expr) :
    (list items).separators = (items.map separators).sum + (items.length - 1) := by
  unfold separators
  rw [fold_list]
  simp [Cases.separators, Function.comp_def]

def isLeaf : Expr → Bool
  | list _ | unary _ => false
  | _ => true

theorem leaves_of_isLeaf {e : Expr} (h : e.isLeaf = true) : e.leaves = [e] := by
  cases e with
  | list items => cases h
  | call method receiver arguments =>
    unfold leaves
    rw [fold_call]
    simp [Cases.leaves, Function.comp_def]
  | unary operand => cases h
  | _ => rfl

theorem lists_of_isLeaf {e : Expr} (h : e.isLeaf = true) : e.lists = [] := by
  cases e with
  | list items => cases h
  | unary operand => cases h
  | _ => rfl

theorem separators_of_isLeaf {e : Expr} (h : e.isLeaf = true) : e.separators = 0 := by
  cases e with
  | list items => cases h
  | unary operand => cases h
  | _ => rfl

@[elab_as_elim]
theorem list_induction {motive : Expr → Prop} (leaf : ∀ e, e.isLeaf = true → motive e)
    (list : ∀ items, (∀ e ∈ items, motive e) → motive (list items))
    (unary : ∀ operand, motive operand → motive (unary operand)) (e : Expr) : motive e := by
  induction e with
  | list items ih => exact list items ih
  | unary operand ih => exact unary operand ih
  | _ => exact leaf _ rfl

theorem hasNoGaps_list_iff {items : List Expr} :
    (list items).HasNoGaps ↔ (2 ≤ items.length → ∀ item ∈ items, item.leaves ≠ []) ∧
      ∀ item ∈ items, item.HasNoGaps := by
  unfold HasNoGaps
  rw [lists_list, List.forall_mem_cons]
  refine and_congr_right fun _ => ?_
  constructor
  · intro h item hitem nested hnested
    exact h nested (List.mem_flatMap.2 ⟨item, hitem, hnested⟩)
  · intro h nested hnested
    obtain ⟨item, hitem, hnested⟩ := List.mem_flatMap.1 hnested
    exact h item hitem nested hnested

/-- Commas keep all neighbours apart, and there are more of them only where there are gaps. -/
theorem length_leaves_le (e : Expr) : e.leaves.length ≤ e.separators + 1 := by
  induction e using list_induction with
  | leaf e h =>
    rw [leaves_of_isLeaf h, separators_of_isLeaf h]
    exact Nat.le_refl 1
  | list items ih =>
    have hsum := (sum_map_le_and_eq_iff ih).1
    rw [leaves_list, List.length_flatMap, separators_list]
    omega
  | unary operand ih => exact ih

theorem separators_eq_iff (e : Expr) : e.separators = e.leaves.length - 1 ↔ e.HasNoGaps := by
  induction e using list_induction with
  | leaf e h =>
    rw [leaves_of_isLeaf h, separators_of_isLeaf h, HasNoGaps, lists_of_isLeaf h]
    exact ⟨fun _ => nofun, fun _ => rfl⟩
  | list items ih =>
    have hle : ∀ item ∈ items, item.leaves.length ≤ item.separators + 1 :=
      fun item _ => item.length_leaves_le
    obtain ⟨hsum, heq⟩ := sum_map_le_and_eq_iff hle
    -- a neighbour has a comma more than its own lists need, so it must have a leaf
    have hitem : (∀ item ∈ items, item.leaves.length = item.separators + 1) ↔
        (∀ item ∈ items, item.leaves ≠ []) ∧ ∀ item ∈ items, item.HasNoGaps := by
      rw [← forall₂_and]
      refine forall₂_congr fun item hi => ?_
      have hgap := ih item hi
      have hlen := hle item hi
      rw [← hgap, ← List.length_pos_iff]
      omega
    rw [hasNoGaps_list_iff, leaves_list, List.length_flatMap, separators_list]
    rcases items with _ | ⟨item, _ | ⟨next, rest⟩⟩
    · simp
    · simpa using ih item List.mem_cons_self
    · have htwo : 2 ≤ (item :: next :: rest).length := Nat.le_add_left 2 _
      rw [forall_prop_of_true htwo, ← hitem, ← heq]
      omega
  | unary operand ih => exact ih

def written (m : EntityMapping) (e : Expr) : String :=
  match e.compile m with
  | .ok text => text
  | .error _ => ""

section Written

variable {m : EntityMapping} {e : Expr} {text : String}

theorem written_eq (h : e.compile m = .ok text) : e.written m = text := by
  rw [written, h]

theorem compile_items {items : List Expr} (h : (list items).compile m = .ok text) :
    (∀ item ∈ items, item.compile m = .ok (item.written m)) ∧
      text = String.intercalate "," (items.map (written m)) := by
  obtain ⟨texts, hts, rfl⟩ := compile_list_eq_ok_iff.1 h
  suffices hall : (∀ item ∈ items, item.compile m = .ok (item.written m)) ∧
      items.map (written m) = texts from ⟨hall.1, by rw [hall.2]⟩
  clear h
  induction hts with
  | nil => exact ⟨nofun, rfl⟩
  | @cons item t items ts ht _ ih =>
    have hw := written_eq ht
    rw [List.forall_mem_cons, List.map_cons, hw, ih.2]
    exact ⟨⟨ht, ih.1⟩, rfl⟩

theorem compile_leaves (h : e.compile m = .ok text) :
    ∀ leaf ∈ e.leaves, leaf.compile m = .ok (leaf.written m) := by
  induction e using list_induction generalizing text with
  | leaf e hleaf =>
    intro leaf hmem
    rw [leaves_of_isLeaf hleaf, List.mem_singleton] at hmem
    rw [hmem, written_eq h, h]
  | list items ih =>
    obtain ⟨hitems, -⟩ := compile_items h
    intro leaf hmem
    rw [leaves_list] at hmem
    obtain ⟨item, hitem, hmem⟩ := List.mem_flatMap.1 hmem
    exact ih item hitem (hitems item hitem) leaf hmem
  | unary operand ih =>
    rw [compile] at h
    exact ih h

theorem length_eq (h : e.compile m = .ok text) :
    text.length = (e.leaves.map fun leaf => (leaf.written m).length).sum + e.separators := by
  induction e using list_induction generalizing text with
  | leaf e hleaf =>
    rw [leaves_of_isLeaf hleaf, separators_of_isLeaf hleaf, List.map_singleton, List.sum_singleton,
      written_eq h]
    rfl
  | list items ih =>
    obtain ⟨hitems, rfl⟩ := compile_items h
    have hsum : (items.map fun item => (item.written m).length) = items.map fun item =>
        (item.leaves.map fun leaf => (leaf.written m).length).sum + item.separators :=
      List.map_congr_left fun item hitem => ih item hitem (hitems item hitem)
    calc
      _ = (items.map fun item => (item.written m).length).sum + (items.length - 1) := by
        rw [length_intercalate, List.map_map, List.length_map]
        exact congrArg _ (Nat.mul_one _)
      _ = (items.map fun item => (item.leaves.map fun leaf => (leaf.written m).length).sum).sum +
          (items.map separators).sum + (items.length - 1) := by rw [hsum, List.sum_map_add]
      _ = _ := by
        rw [leaves_list, separators_list, List.map_flatMap, List.flatMap_def, List.sum_flatten,
          List.map_map, Nat.add_assoc]
        rfl
  | unary operand ih =>
    rw [compile] at h
    exact ih h

theorem eq_intercalate_leaves (h : e.compile m = .ok text) (hg : e.HasNoGaps) :
    text = String.intercalate "," (e.leaves.map (written m)) := by
  induction e using list_induction generalizing text with
  | leaf e hleaf => rw [leaves_of_isLeaf hleaf, List.map_singleton, written_eq h,
      String.intercalate_singleton]
  | list items ih =>
    obtain ⟨hitems, rfl⟩ := compile_items h
    obtain ⟨hne, hgaps⟩ := hasNoGaps_list_iff.1 hg
    have hparts : items.map (written m) =
        items.map fun item => String.intercalate "," (item.leaves.map (written m)) := by
      refine List.map_congr_left fun item hitem => ?_
      exact ih item hitem (hitems item hitem) (hgaps item hitem)
    rw [hparts, leaves_list, List.map_flatMap]
    rcases items with _ | ⟨item, _ | ⟨next, rest⟩⟩
    · rfl
    · simp
    · refine (intercalate_flatMap fun item hitem => ?_).symm
      rw [ne_eq, List.map_eq_nil_iff]
      exact hne (Nat.le_add_left 2 _) item hitem
  | unary operand ih =>
    rw [compile] at h
    exact ih h hg

theorem written_ne_empty (hm : ∀ f ∈ m.fields, f.column ≠ "") (hleaf : e.isLeaf = true)
    (h : e.compile m = .ok text) : text ≠ "" := by
  cases e with
  | binary op left right =>
    obtain ⟨l, word, -, -, ⟨test, -, ht, rfl⟩ | ⟨-, r, -, rfl⟩⟩ := compile_binary_eq_ok_iff.1 h
    · cases op <;> cases ht <;> simp
    · simp
  | field source =>
    obtain ⟨f, hf, rfl⟩ := compile_field_eq_ok_iff.1 h
    exact hm f (List.mem_of_find?_eq_some hf)
  | list items => cases hleaf
  | call method receiver arguments =>
    obtain ⟨subject, operand, s, o, -, -, -, rfl⟩ := compile_call_eq_ok_iff.1 h
    simp
  | unary operand => cases hleaf
  | value v =>
    rw [compile] at h
    exact Value.literal_ne_empty h

end Written

theorem isLeaf_of_mem_leaves {e leaf : Expr} (h : leaf ∈ e.leaves) : leaf.isLeaf = true := by
  induction e using list_induction with
  | leaf e hleaf =>
    rw [leaves_of_isLeaf hleaf, List.mem_singleton] at h
    rwa [h]
  | list items ih =>
    rw [leaves_list] at h
    obtain ⟨item, hitem, h⟩ := List.mem_flatMap.1 h
    exact ih item hitem h
  | unary operand ih => exact ih h

end Expr

/-- If no column is empty, what is no list itself in a list has a text, and no empty one. These texts with
a comma between two neighbours are the text of the list exactly if no list of two or more items has an
item in which nothing stands. An empty text has nothing in it in any case. -/
theorem list_text_iff {m : EntityMapping} (hm : ∀ f ∈ m.fields, f.column ≠ "")
    {items : List Expr} {text : String} (h : (Expr.list items).compile m = .ok text) :
    ∃ texts,
      List.Forall₂ (fun e t => e.compile m = .ok t) (Expr.list items).leaves texts ∧
      (∀ t ∈ texts, t ≠ "") ∧
      (text = String.intercalate "," texts ↔
        ∀ nested ∈ (Expr.list items).lists, 2 ≤ nested.length → ∀ item ∈ nested, item.leaves ≠ []) ∧
      (text = "" → (Expr.list items).leaves = []) := by
  have hleaves := Expr.compile_leaves h
  have hlength := Expr.length_eq h
  have hne : ∀ leaf ∈ (Expr.list items).leaves, leaf.written m ≠ "" := by
    intro leaf hleaf
    exact Expr.written_ne_empty hm (Expr.isLeaf_of_mem_leaves hleaf) (hleaves leaf hleaf)
  refine ⟨(Expr.list items).leaves.map (Expr.written m), ?_, ?_, ⟨?_, ?_⟩, ?_⟩
  · rw [List.forall₂_map_right_iff, List.forall₂_same]
    exact hleaves
  · intro t ht
    obtain ⟨leaf, hleaf, rfl⟩ := List.mem_map.1 ht
    exact hne leaf hleaf
  · intro htext
    -- both sides hold the same leaves, so they can only differ in their commas
    have hjoined : text.length = _ := htext ▸ length_intercalate _ _
    rw [List.map_map, List.length_map] at hjoined
    refine (Expr.separators_eq_iff _).1 ?_
    have hsum : ((Expr.list items).leaves.map (String.length ∘ Expr.written m)).sum =
        ((Expr.list items).leaves.map fun leaf => (leaf.written m).length).sum := rfl
    have hcomma : ",".length = 1 := rfl
    rw [hsum, hcomma] at hjoined
    omega
  · exact Expr.eq_intercalate_leaves h
  · intro hempty
    by_contra hsome
    obtain ⟨leaf, hleaf⟩ := List.exists_mem_of_ne_nil _ hsome
    have hpart : (leaf.written m).length ≤
        ((Expr.list items).leaves.map fun leaf => (leaf.written m).length).sum :=
      List.le_sum_of_mem (List.mem_map.2 ⟨leaf, hleaf, rfl⟩)
    rw [hempty, String.length_empty] at hlength
    have hzero : (leaf.written m).length = 0 := by omega
    exact hne leaf hleaf (String.length_eq_zero_iff.1 hzero)

/-- Lists in a list, one of them under a unary node; and lists in which nothing stands, each alone. -/
theorem list_text_iff_nested :
    let m : EntityMapping := ⟨"Test", none, [⟨"a", some "[a]", false, false⟩]⟩
    let items : List Expr := [.value (.string "x,y"),
      .unary (.list [.list [.field "a"], .unary (.value (.int32 1))])]
    let hollow : List Expr := [.unary (.list [.list []])]
    (Expr.list items).compile m = .ok "'x,y',[a],1" ∧
    (∃ texts, List.Forall₂ (fun (e : Expr) t => e.compile m = .ok t)
        [.value (.string "x,y"), .field "a", .value (.int32 1)] texts ∧
      "'x,y',[a],1" = String.intercalate "," texts) ∧
    (Expr.list hollow).compile m = .ok "" ∧ (Expr.list hollow).leaves = [] := by
  intro m items hollow
  have hm : ∀ f ∈ m.fields, f.column ≠ "" := by decide
  have hitems : (Expr.list items).compile m = .ok "'x,y',[a],1" := rfl
  have hhollow : (Expr.list hollow).compile m = .ok "" := rfl
  obtain ⟨texts, htexts, -, hjoin, -⟩ := list_text_iff hm hitems
  obtain ⟨-, -, -, -, hempty⟩ := list_text_iff hm hhollow
  refine ⟨hitems, ⟨texts, htexts, hjoin.2 ?_⟩, hhollow, hempty rfl⟩
  have hlists : (Expr.list items).lists =
      [items, [.list [.field "a"], .unary (.value (.int32 1))], [.field "a"]] := rfl
  rw [hlists]
  simp [items, Expr.leaves, Expr.fold, Expr.foldItems, Expr.Cases.leaves]

/-- An empty list behind an item: its comma ends the text. -/
theorem empty_list_leaves_comma :
    let m : EntityMapping := ⟨"Test", none, []⟩
    let items : List Expr := [.value (.string "s"), .list []]
    (∀ f ∈ m.fields, f.column ≠ "") ∧ (Expr.list items).compile m = .ok "'s'," ∧
      (Expr.list items).leaves = [.value (.string "s")] ∧
      (Expr.value (.string "s")).compile m = .ok "'s'" ∧
      "'s'," ≠ String.intercalate "," ["'s'"] := by
  refine ⟨nofun, rfl, rfl, rfl, by decide⟩

end RecordMapper
