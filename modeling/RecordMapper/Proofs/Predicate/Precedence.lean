import RecordMapper.Predicate.Expr
/-!
# Reading operators by precedence

A reader knows levels of operators and takes equal levels from the left; a null test stands behind its
operand at the level of comparisons. What can be read from a sequence of words is given by rules. No
sequence can be read in two ways: a reader that closes what binds more tightly finds the only one.
-/

namespace RecordMapper

/-- How tightly an operator binds. The operator without a word is never read. -/
def BinaryOperator.level : BinaryOperator → Nat
  | or => 0
  | and => 1
  | eq | ne | gt | ge | lt | le => 2
  | add | sub => 3
  | mul | div | mod => 4
  | coalesce => 5

inductive Word where
  | leaf (e : Expr)
  | operator (op : BinaryOperator)
  | nullTest (op : BinaryOperator)

/-- What words stand for when nothing in them binds less tightly than `level`. -/
inductive Reads : Nat → List Word → Expr → Prop where
  | field {level : Nat} (source : String) : Reads level [.leaf (.field source)] (.field source)
  | value {level : Nat} (v : Value) : Reads level [.leaf (.value v)] (.value v)
  | operation {level : Nat} {op : BinaryOperator} {ws ws' : List Word} {left right : Expr} :
      op ≠ .coalesce → level ≤ op.level → Reads op.level ws left →
      Reads (op.level + 1) ws' right →
      Reads level (ws ++ .operator op :: ws') (.binary op left right)
  | nullTest {level : Nat} {op : BinaryOperator} {ws : List Word} {operand : Expr} :
      op = .eq ∨ op = .ne → level ≤ op.level → Reads op.level ws operand →
      Reads level (ws ++ [.nullTest op]) (.binary op operand .null)

namespace Reads

/-- Left sides with their operators whose right sides are still to come, the latest first. -/
abbrev Open := List (Expr × BinaryOperator)

/-- Gives `e` as the right side to all that is open and binds at least as tightly as `level`. -/
def close (level : Nat) : Open → Expr → Open × Expr
  | [], e => ([], e)
  | (left, op) :: rest, e =>
    if level ≤ op.level then close level rest (.binary op left e) else ((left, op) :: rest, e)

inductive Place where
  | before (opened : Open)
  | behind (opened : Open) (e : Expr)

def step : Place → Word → Option Place
  | .before opened, .leaf e => some (.behind opened e)
  | .behind opened e, .operator op =>
    let (opened', left) := close op.level opened e
    some (.before ((left, op) :: opened'))
  | .behind opened e, .nullTest op =>
    let (opened', operand) := close op.level opened e
    some (.behind opened' (.binary op operand .null))
  | .before _, .operator _ | .before _, .nullTest _ | .behind _ _, .leaf _ => none

def read (words : List Word) : Option Expr :=
  match words.foldlM step (.before []) with
  | some (.behind opened e) => some (close 0 opened e).2
  | _ => none

def Below (level : Nat) (opened : Open) : Prop := ∀ o ∈ opened.head?, o.2.level < level

theorem close_of_below {level : Nat} {opened : Open} (h : Below level opened) (e : Expr) :
    close level opened e = (opened, e) := by
  cases opened with
  | nil => rfl
  | cons o rest =>
    have ho : ¬ level ≤ o.2.level := Nat.not_le.2 (h o rfl)
    rw [close, if_neg ho]

theorem Below.mono {level level' : Nat} {opened : Open} (h : Below level opened)
    (hle : level ≤ level') : Below level' opened :=
  fun o ho => Nat.lt_of_lt_of_le (h o ho) hle

/-- A reader that has gone through the words of `e` closes them to `e` before it closes anything that was
open already. The induction is on the rules; the left side of an operation is closed by its operator. -/
theorem exists_foldlM_step {level : Nat} {ws : List Word} {e : Expr} (h : Reads level ws e)
    {opened : Open} (hb : Below level opened) :
    ∃ opened' e', ws.foldlM step (.before opened) = some (.behind opened' e') ∧
      ∀ lower ≤ level, close lower opened' e' = close lower opened e := by
  induction h generalizing opened with
  | field source => exact ⟨opened, .field source, rfl, fun _ _ => rfl⟩
  | value v => exact ⟨opened, .value v, rfl, fun _ _ => rfl⟩
  | @operation level op ws ws' left right _ hlevel _ _ ihl ihr =>
    have hop := hb.mono hlevel
    obtain ⟨openedl, l, hl, hcl⟩ := ihl hop
    have hopen : Below (op.level + 1) ((left, op) :: opened) := by
      intro o ho
      obtain rfl := Option.some.inj ho
      exact Nat.lt_succ_self _
    obtain ⟨openedr, r, hr, hcr⟩ := ihr hopen
    have hstep : step (.behind openedl l) (.operator op) = some (.before ((left, op) :: opened)) := by
      rw [step, hcl op.level (Nat.le_refl _), close_of_below hop]
    refine ⟨openedr, r, ?_, ?_⟩
    · rw [List.foldlM_append, hl, Option.bind_eq_bind, Option.bind_some, List.foldlM_cons, hstep,
        Option.bind_eq_bind, Option.bind_some, hr]
    · intro lower hle
      have hlower : lower ≤ op.level := Nat.le_trans hle hlevel
      rw [hcr lower (Nat.le_trans hlower (Nat.le_succ _)), close, if_pos hlower]
  | @nullTest level op ws operand _ hlevel _ ih =>
    have hop := hb.mono hlevel
    obtain ⟨opened', e', he, hc⟩ := ih hop
    have hstep : step (.behind opened' e') (.nullTest op) =
        some (.behind opened (.binary op operand .null)) := by
      rw [step, hc op.level (Nat.le_refl _), close_of_below hop]
    refine ⟨opened, .binary op operand .null, ?_, fun _ _ => rfl⟩
    rw [List.foldlM_append, he, Option.bind_eq_bind, Option.bind_some, List.foldlM_cons, hstep]
    rfl

theorem read_eq {ws : List Word} {e : Expr} (h : Reads 0 ws e) : read ws = some e := by
  have hnil : Below 0 [] := nofun
  obtain ⟨opened, e', hws, hc⟩ := h.exists_foldlM_step hnil
  rw [read, hws]
  dsimp only
  rw [hc 0 (Nat.le_refl _)]
  rfl

theorem unique {ws : List Word} {e e' : Expr} (h : Reads 0 ws e) (h' : Reads 0 ws e') : e' = e :=
  Option.some.inj (h'.read_eq.symm.trans h.read_eq)

end Reads

end RecordMapper
