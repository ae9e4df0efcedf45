import RecordMapper.Proofs.Predicate.Fragment
import RecordMapper.Proofs.Predicate.Precedence
import RecordMapper.Proofs.Predicate.Tree
/-!
# Which grouping survives without parentheses

The text of a filter is its words with blanks between them, and nothing in it shows how operations were
nested. A reader who goes by precedence finds the filter again exactly when it was nested by precedence.
-/

namespace RecordMapper

def Word.Spells (m : EntityMapping) (text : String) : Word → Prop
  | leaf e => e.compile m = .ok text
  | operator op => op.word? = some text
  | nullTest op => op.nullTest? = some (" " ++ text)

namespace BinaryOperator

theorem exists_nullTest_eq {op : BinaryOperator} {test : String} (h : op.nullTest? = some test) :
    ∃ text, test = " " ++ text := by
  cases op with
  | eq => exact ⟨"IS NULL", (Option.some.inj h).symm⟩
  | ne => exact ⟨"IS NOT NULL", (Option.some.inj h).symm⟩
  | _ => cases h

theorem isSome_nullTest?_iff {op : BinaryOperator} :
    op.nullTest?.isSome = true ↔ op = eq ∨ op = ne := by
  cases op <;> simp [nullTest?]

end BinaryOperator

namespace Expr

/-- The words of a filter; a comparison with null is a null test behind its left side. -/
def words : Expr → List Word
  | binary op left right =>
    if right.isNullConstant ∧ op.nullTest?.isSome then words left ++ [.nullTest op]
    else words left ++ .operator op :: words right
  | e => [.leaf e]

/-- Binary operations, each with a word, over fields and constants. -/
def IsPlain : Expr → Prop
  | binary op left right => op ≠ .coalesce ∧ IsPlain left ∧ IsPlain right
  | field _ | value _ => True
  | list _ | call _ _ _ | unary _ => False

/-- A leaf, or an operation whose level is at least `level`. -/
def Binds (level : Nat) : Expr → Prop
  | binary op _ _ => level ≤ op.level
  | _ => True

/-- Left sides bind at least as tightly as their operation, and right sides more tightly. -/
def IsNested : Expr → Prop
  | binary op left right =>
    Binds op.level left ∧ Binds (op.level + 1) right ∧ IsNested left ∧ IsNested right
  | _ => True

theorem words_ne_nil (e : Expr) : e.words ≠ [] := by
  cases e with
  | binary op left right =>
    rw [words]
    split_ifs <;> simp
  | _ => simp [words]

def SpelledBy (m : EntityMapping) (text : String) (words : List Word) : Prop :=
  ∃ texts, List.Forall₂ (fun w t => w.Spells m t) words texts ∧
    text = String.intercalate " " texts

theorem spelledBy_singleton {m : EntityMapping} {text : String} {w : Word} (h : w.Spells m text) :
    SpelledBy m text [w] :=
  ⟨[text], .cons h .nil, String.intercalate_singleton.symm⟩

theorem SpelledBy.append {m : EntityMapping} {text text' : String} {ws ws' : List Word}
    (h : SpelledBy m text ws) (h' : SpelledBy m text' ws') (hne : ws ≠ []) (hne' : ws' ≠ []) :
    SpelledBy m (text ++ " " ++ text') (ws ++ ws') := by
  obtain ⟨ts, hts, rfl⟩ := h
  obtain ⟨ts', hts', rfl⟩ := h'
  have hnil {us : List Word} {vs : List String}
      (huv : List.Forall₂ (fun w t => w.Spells m t) us vs) (hus : us ≠ []) : vs ≠ [] := by
    rintro rfl
    cases huv
    exact hus rfl
  refine ⟨ts ++ ts', List.rel_append hts hts', ?_⟩
  rw [String.intercalate_append_of_ne_nil (hnil hts hne) (hnil hts' hne')]

theorem spelledBy_words {m : EntityMapping} {e : Expr} {text : String}
    (h : e.compile m = .ok text) : SpelledBy m text e.words := by
  induction e generalizing text with
  | binary op left right ihl ihr =>
    obtain ⟨l, word, hl, hw, hcase⟩ := compile_binary_eq_ok_iff.1 h
    have hleft := ihl hl
    rw [words]
    rcases hcase with ⟨test, hnull, htest, rfl⟩ | ⟨hnull, r, hr, rfl⟩
    · rw [if_pos ⟨hnull, by rw [htest]; rfl⟩]
      obtain ⟨t, rfl⟩ := BinaryOperator.exists_nullTest_eq htest
      have hword := spelledBy_singleton (m := m) (w := .nullTest op) htest
      have happend := hleft.append hword (words_ne_nil left) (List.cons_ne_nil _ _)
      rwa [String.append_assoc] at happend
    · have hno : ¬ (right.isNullConstant ∧ op.nullTest?.isSome) := by
        rintro ⟨hright, hsome⟩
        rw [hnull hright] at hsome
        cases hsome
      rw [if_neg hno]
      have hword := spelledBy_singleton (m := m) (w := .operator op) hw
      have hrest := hword.append (ihr hr) (List.cons_ne_nil _ _) (words_ne_nil right)
      have happend := hleft.append hrest (words_ne_nil left) (List.cons_ne_nil _ _)
      simp only [String.append_assoc, List.singleton_append] at happend ⊢
      exact happend
  | _ => exact spelledBy_singleton h

theorem IsPlain.eq_null {e : Expr} (h : e.IsPlain) (hn : e.isNullConstant = true) : e = null := by
  cases e with
  | value v =>
    obtain rfl := Value.isNull_eq_true_iff.1 hn
    rfl
  | unary operand => exact h.elim
  | _ => cases hn

theorem reads_words {e : Expr} {level : Nat} (hp : e.IsPlain) (hn : e.IsNested)
    (hb : e.Binds level) : Reads level e.words e := by
  induction e generalizing level with
  | binary op left right ihl ihr =>
    obtain ⟨hop, hpl, hpr⟩ := hp
    obtain ⟨hbl, hbr, hnl, hnr⟩ := hn
    have hleft := ihl hpl hnl hbl
    rw [words]
    split_ifs with hnull
    · obtain rfl := hpr.eq_null hnull.1
      exact .nullTest (BinaryOperator.isSome_nullTest?_iff.1 hnull.2) hb hleft
    · exact .operation hop hb hleft (ihr hpr hnr hbr)
  | field source => exact .field source
  | value v => exact .value v
  | list items => exact hp.elim
  | call method receiver arguments => exact hp.elim
  | unary operand => exact hp.elim

end Expr

theorem Reads.isNested {level : Nat} {ws : List Word} {e : Expr} (h : Reads level ws e) :
    e.IsPlain ∧ e.IsNested ∧ e.Binds level := by
  induction h with
  | field source => exact ⟨trivial, trivial, trivial⟩
  | value v => exact ⟨trivial, trivial, trivial⟩
  | operation hop hlevel _ _ ihl ihr =>
    obtain ⟨hpl, hnl, hbl⟩ := ihl
    obtain ⟨hpr, hnr, hbr⟩ := ihr
    exact ⟨⟨hop, hpl, hpr⟩, ⟨hbl, hbr, hnl, hnr⟩, hlevel⟩
  | @nullTest level op ws operand hop hlevel _ ih =>
    obtain ⟨hp, hn, hb⟩ := ih
    have hne : op ≠ .coalesce := by
      rcases hop with rfl | rfl
      · exact nofun
      · exact nofun
    exact ⟨⟨hne, hp, trivial⟩, ⟨hb, trivial, hn, trivial⟩, hlevel⟩

/-- A filter that compiles is written as its words with single blanks between them. By precedence these
words are read as the filter, and as nothing else, exactly if the filter is made of binary operations
over fields and constants and was nested by precedence; then a reader finds it. -/
theorem grouping_survives_iff {m : EntityMapping} {e : Expr} {text : String}
    (h : e.compile m = .ok text) :
    (∃ texts, List.Forall₂ (fun w t => w.Spells m t) e.words texts ∧
      text = String.intercalate " " texts) ∧
    (e.IsPlain ∧ e.IsNested ↔ ∀ e', Reads 0 e.words e' ↔ e' = e) ∧
    (e.IsPlain ∧ e.IsNested → Reads.read e.words = some e) := by
  have hreads (hn : e.IsPlain ∧ e.IsNested) : Reads 0 e.words e := by
    have hbinds : e.Binds 0 := by
      cases e with
      | binary op left right => exact Nat.zero_le _
      | _ => trivial
    exact Expr.reads_words hn.1 hn.2 hbinds
  refine ⟨Expr.spelledBy_words h, ?_, fun hn => (hreads hn).read_eq⟩
  constructor
  · intro hn e'
    constructor
    · intro h'
      exact (hreads hn).unique h'
    · rintro rfl
      exact hreads hn
  · intro honly
    obtain ⟨hp, hn, -⟩ := ((honly e).2 rfl).isNested
    exact ⟨hp, hn⟩

/-- A filter that is nested by precedence, and one with its disjunction inside a conjunction. -/
theorem grouping_survives_iff_nested :
    let m : EntityMapping := ⟨"Test", none, [⟨"a", none, false, false⟩, ⟨"b", none, false, false⟩]⟩
    let a : Expr := .field "a"
    let b : Expr := .field "b"
    let one : Expr := .value (.int32 1)
    let nested : Expr := .binary .or (.binary .gt a one)
      (.binary .and (.isNull (.binary .sub (.binary .sub a one) (.binary .mul b one))) (.isNotNull b))
    let inside : Expr := .binary .and (.binary .or (.isNull a) (.isNull b)) (.isNotNull b)
    nested.compile m = .ok "a > 1 OR a - 1 - b * 1 IS NULL AND b IS NOT NULL" ∧
      (∀ e', Reads 0 nested.words e' ↔ e' = nested) ∧ Reads.read nested.words = some nested ∧
      inside.compile m = .ok "a IS NULL OR b IS NULL AND b IS NOT NULL" ∧
      ¬ ∀ e', Reads 0 inside.words e' ↔ e' = inside := by
  intro m a b one nested inside
  have hnested : nested.compile m = .ok "a > 1 OR a - 1 - b * 1 IS NULL AND b IS NOT NULL" := rfl
  have hinside : inside.compile m = .ok "a IS NULL OR b IS NULL AND b IS NOT NULL" := rfl
  have hshape : nested.IsPlain ∧ nested.IsNested := by
    constructor
    · simp [nested, a, b, one, Expr.IsPlain, Expr.isNull, Expr.isNotNull, Expr.null]
    · simp [nested, a, b, one, Expr.IsNested, Expr.Binds, BinaryOperator.level, Expr.isNull,
        Expr.isNotNull, Expr.null]
  obtain ⟨-, honly, hread⟩ := grouping_survives_iff hnested
  refine ⟨hnested, honly.1 hshape, hread hshape, hinside, ?_⟩
  intro h
  obtain ⟨-, hn⟩ := (grouping_survives_iff hinside).2.1.2 h
  simp [inside, a, b, Expr.IsNested, Expr.Binds, BinaryOperator.level] at hn

end RecordMapper
