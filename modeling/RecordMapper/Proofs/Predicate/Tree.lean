import RecordMapper.Predicate.Compile
/-!
# The tree of a filter

Induction over filters and functions on them by cases. A function by cases is given each part of a node
together with what was made of that part.
-/

namespace RecordMapper

/-- What holds of the receiver and of each argument holds of what is tested and of what it is tested
against. -/
theorem Method.of_roles? {α : Type} {p : α → Prop} {method : Method} {receiver : Option α}
    {arguments : List α} {subject operand : α}
    (h : method.roles? receiver arguments = some (subject, operand))
    (hr : ∀ a ∈ receiver, p a) (ha : ∀ a ∈ arguments, p a) : p subject ∧ p operand := by
  unfold roles? at h
  split at h
  · rename_i r a
    have hpr := hr r rfl
    have hpa := ha a List.mem_cons_self
    split at h <;> cases h
    · exact ⟨hpa, hpr⟩
    · exact ⟨hpr, hpa⟩
  · cases h
    exact ⟨ha _ (List.mem_cons_of_mem _ List.mem_cons_self), ha _ List.mem_cons_self⟩
  · cases h

namespace Expr

/-- A property of every filter follows from its parts; a call hands on what holds of its receiver
and of each argument. -/
@[elab_as_elim, induction_eliminator]
theorem induction {motive : Expr → Prop}
    (binary : ∀ op left right, motive left → motive right → motive (binary op left right))
    (field : ∀ source, motive (field source))
    (list : ∀ items, (∀ e ∈ items, motive e) → motive (list items))
    (call : ∀ method receiver arguments, (∀ e ∈ receiver, motive e) →
      (∀ e ∈ arguments, motive e) → motive (call method receiver arguments))
    (unary : ∀ operand, motive operand → motive (unary operand))
    (value : ∀ v, motive (value v)) : ∀ e, motive e
  | .binary op left right =>
    binary op left right (induction binary field list call unary value left)
      (induction binary field list call unary value right)
  | .field source => field source
  | .list items => list items fun e _ => induction binary field list call unary value e
  | .call method receiver arguments =>
    call method receiver arguments (fun e _ => induction binary field list call unary value e)
      fun e _ => induction binary field list call unary value e
  | .unary operand => unary operand (induction binary field list call unary value operand)
  | .value v => value v
termination_by e => sizeOf e

structure Cases (α : Type) where
  binary : BinaryOperator → Expr × α → Expr × α → α
  field : String → α
  list : List (Expr × α) → α
  call : Method → Option (Expr × α) → List (Expr × α) → α
  unary : Expr × α → α
  value : Value → α

def Cases.same : Cases Expr where
  binary op left right := .binary op left.2 right.2
  field source := .field source
  list items := .list (items.map Prod.snd)
  call method receiver arguments := .call method (receiver.map Prod.snd) (arguments.map Prod.snd)
  unary operand := .unary operand.2
  value v := .value v

section Fold

variable {α : Type} (cases : Cases α)

mutual

def fold : Expr → α
  | binary op left right => cases.binary op (left, fold left) (right, fold right)
  | field source => cases.field source
  | list items => cases.list (foldItems items)
  | call method receiver arguments =>
    cases.call method (foldReceiver receiver) (foldItems arguments)
  | unary operand => cases.unary (operand, fold operand)
  | value v => cases.value v

def foldItems : List Expr → List (Expr × α)
  | [] => []
  | e :: rest => (e, fold e) :: foldItems rest

def foldReceiver : Option Expr → Option (Expr × α)
  | none => none
  | some e => some (e, fold e)

end

theorem foldItems_eq_map (items : List Expr) :
    foldItems cases items = items.map fun e => (e, fold cases e) := by
  induction items with
  | nil => rfl
  | cons e rest ih => rw [foldItems, ih, List.map_cons]

theorem fold_list (items : List Expr) :
    fold cases (list items) = cases.list (items.map fun e => (e, fold cases e)) := by
  rw [fold, foldItems_eq_map]

theorem fold_call (method : Method) (receiver : Option Expr) (arguments : List Expr) :
    fold cases (call method receiver arguments) =
      cases.call method (receiver.map fun e => (e, fold cases e))
        (arguments.map fun e => (e, fold cases e)) := by
  rw [fold, foldItems_eq_map]
  cases receiver <;> rfl

end Fold

/-- The constant that a filter is, under any number of unary nodes. -/
def constant? : Expr → Option Value
  | value v => some v
  | unary operand => constant? operand
  | _ => none

theorem compile_of_constant? {e : Expr} {v : Value} (m : EntityMapping)
    (h : e.constant? = some v) : e.compile m = v.literal := by
  induction e with
  | value w => cases h; rw [compile]
  | unary operand ih => rw [compile]; exact ih h
  | _ => cases h

theorem compile_of_isNullConstant {e : Expr} (m : EntityMapping) (h : e.isNullConstant = true) :
    e.compile m = .ok "null" := by
  induction e with
  | unary operand ih => exact ih h
  | value v =>
    obtain rfl := Value.isNull_eq_true_iff.1 h
    rfl
  | _ => cases h

end Expr

end RecordMapper
