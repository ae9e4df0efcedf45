import RecordMapper.Statement.Basic
import Mathlib.Algebra.GroupWithZero.Nat
/-!
# Texts with a separator

What holds of the parts of a joined text and of what stands between them, and how the texts of a batch
are joined.
-/

namespace RecordMapper

theorem intercalate_closed {p : String → Prop} {separator : String} {texts : List String}
    (empty : p "") (append : ∀ a b, p a → p b → p (a ++ b)) (hs : p separator)
    (h : ∀ text ∈ texts, p text) : p (String.intercalate separator texts) := by
  induction texts with
  | nil => exact empty
  | cons text rest ih =>
    have ht := h text List.mem_cons_self
    cases rest with
    | nil => simpa using ht
    | cons next rest =>
      have hrest := ih fun text ht => h text (List.mem_cons_of_mem _ ht)
      rw [String.intercalate_cons_cons]
      exact append _ _ (append _ _ ht hs) hrest

theorem notMem_intercalate {c : Char} {separator : String} {texts : List String}
    (hs : c ∉ separator.toList) (h : ∀ text ∈ texts, c ∉ text.toList) :
    c ∉ (String.intercalate separator texts).toList := by
  refine intercalate_closed (p := fun text => c ∉ text.toList) (by simp) ?_ hs h
  intro a b ha hb
  rw [String.toList_append, List.mem_append, not_or]
  exact ⟨ha, hb⟩

theorem length_intercalate (separator : String) (texts : List String) :
    (String.intercalate separator texts).length =
      (texts.map String.length).sum + (texts.length - 1) * separator.length := by
  induction texts with
  | nil => simp
  | cons text rest ih =>
    cases rest with
    | nil => simp
    | cons next rest =>
      rw [String.intercalate_cons_cons, String.length_append, String.length_append, ih]
      simp only [List.map_cons, List.sum_cons, List.length_cons, Nat.add_sub_cancel]
      rw [Nat.succ_mul]
      omega

theorem intercalate_flatMap {α : Type} {separator : String} {parts : α → List String} {l : List α}
    (h : ∀ a ∈ l, parts a ≠ []) :
    String.intercalate separator (l.flatMap parts) =
      String.intercalate separator (l.map fun a => String.intercalate separator (parts a)) := by
  induction l with
  | nil => rfl
  | cons a rest ih =>
    rw [List.forall_mem_cons] at h
    have hrest := ih h.2
    cases rest with
    | nil => simp
    | cons b rest =>
      have hne : (b :: rest).flatMap parts ≠ [] := by
        intro hnil
        exact h.2 b List.mem_cons_self (List.flatMap_eq_nil_iff.1 hnil b List.mem_cons_self)
      rw [List.flatMap_cons, String.intercalate_append_of_ne_nil h.1 hne, hrest]
      exact String.intercalate_cons_cons.symm

namespace Statement

theorem foldl_append_eq {written : String} (hw : written ≠ "") (texts : List String) :
    texts.foldl append written = String.intercalate separator (written :: texts) := by
  induction texts generalizing written with
  | nil => simp
  | cons text rest ih =>
    have hne : written ++ separator ++ text ≠ "" := by simp [separator]
    rw [List.foldl_cons, append, if_neg hw, ih hne, String.intercalate_cons_append,
      String.intercalate_cons_cons]

/-- Only texts that are empty at the beginning are not separated from what follows. -/
theorem joinTexts_eq (texts : List String) :
    joinTexts texts = String.intercalate separator (texts.dropWhile (· == "")) := by
  induction texts with
  | nil => rfl
  | cons text rest ih =>
    by_cases ht : text = ""
    · rw [ht, List.dropWhile_cons_of_pos rfl, ← ih]
      rfl
    · rw [List.dropWhile_cons_of_neg (by simpa using ht)]
      exact foldl_append_eq ht rest

theorem joinTexts_of_ne {texts : List String} (h : ∀ text ∈ texts, text ≠ "") :
    joinTexts texts = String.intercalate separator texts := by
  rw [joinTexts_eq]
  cases texts with
  | nil => rfl
  | cons text rest =>
    rw [List.dropWhile_cons_of_neg (by simpa using h text List.mem_cons_self)]

end Statement

end RecordMapper
