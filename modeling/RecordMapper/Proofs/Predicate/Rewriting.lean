import RecordMapper.Proofs.Predicate.Fault
/-!
# Rewriting a filter node by node

A rule for single nodes is applied at every node, to the parts before the whole. If the rule changes
neither the fragment of a node nor whether the node is the null constant, rewriting keeps the fragment of
every filter. Dropping unary nodes is such a rule, and so is either way of turning one shape of call into
the other.
-/

namespace RecordMapper

theorem Method.forall_mem_visited {α : Type} {p : α → Prop} {method : Method} {receiver : Option α}
    {arguments : List α} (hr : ∀ a ∈ receiver, p a) (ha : ∀ a ∈ arguments, p a) :
    ∀ a ∈ method.visited receiver arguments, p a := by
  unfold visited
  cases hroles : method.roles? receiver arguments with
  | none =>
    intro a h
    rcases List.mem_append.1 h with h | h
    · exact hr a (Option.mem_toList.1 h)
    · exact ha a h
  | some roles =>
    obtain ⟨hs, ho⟩ := of_roles? hroles hr ha
    dsimp only
    split_ifs
    · simp [hs, ho]
    · simp [hs, ho]

namespace Expr

def Cases.rewritten (rule : Expr → Expr) : Cases Expr where
  binary op left right := rule (same.binary op left right)
  field source := rule (same.field source)
  list items := rule (same.list items)
  call method receiver arguments := rule (same.call method receiver arguments)
  unary operand := rule (same.unary operand)
  value v := rule (same.value v)

/-- A filter with a rule applied at every node, to the parts before the whole. -/
def rewritten (rule : Expr → Expr) : Expr → Expr := fold (Cases.rewritten rule)

def parts : Expr → List Expr
  | binary _ left right => [left, right]
  | field _ | value _ => []
  | list items => items
  | call method receiver arguments => method.visited receiver arguments
  | unary operand => [operand]

section Rewritten

variable {rule : Expr → Expr}

theorem rewritten_list (items : List Expr) :
    (list items).rewritten rule = rule (list (items.map (rewritten rule))) := by
  unfold rewritten
  rw [fold_list]
  simp [Cases.rewritten, Cases.same, Function.comp_def]

theorem rewritten_call (method : Method) (receiver : Option Expr) (arguments : List Expr) :
    (call method receiver arguments).rewritten rule =
      rule (call method (receiver.map (rewritten rule)) (arguments.map (rewritten rule))) := by
  unfold rewritten
  rw [fold_call]
  simp [Cases.rewritten, Cases.same, Function.comp_def]

theorem nodes_eq (e : Expr) : e.nodes = e :: e.parts.flatMap nodes := by
  cases e with
  | binary op left right =>
    rw [parts, List.flatMap_cons, List.flatMap_singleton]
    rfl
  | field source => rfl
  | list items => exact nodes_list items
  | call method receiver arguments => exact nodes_call method receiver arguments
  | unary operand =>
    rw [parts, List.flatMap_singleton]
    rfl
  | value v => rfl

/-- What holds of all nodes behind a rule, if it holds of those of the parts, holds of all nodes of a
rewritten filter. -/
theorem forall_mem_nodes_rewritten {p : Expr → Prop}
    (h : ∀ e, (∀ part ∈ e.parts, ∀ n ∈ part.nodes, p n) → ∀ n ∈ (rule e).nodes, p n) (e : Expr) :
    ∀ n ∈ (e.rewritten rule).nodes, p n := by
  induction e with
  | binary op left right ihl ihr =>
    apply h
    intro part hpart
    rcases List.mem_pair.1 hpart with rfl | rfl
    · exact ihl
    · exact ihr
  | field source => exact h _ nofun
  | list items ih =>
    rw [rewritten_list]
    apply h
    intro part hpart
    obtain ⟨item, hitem, rfl⟩ := List.mem_map.1 hpart
    exact ih item hitem
  | call method receiver arguments ihr iha =>
    rw [rewritten_call]
    apply h
    intro part hpart
    rw [parts, Method.visited_map] at hpart
    obtain ⟨e, he, rfl⟩ := List.mem_map.1 hpart
    exact Method.forall_mem_visited ihr iha e he
  | unary operand ih =>
    apply h
    intro part hpart
    rw [List.mem_singleton.1 hpart]
    exact ih
  | value v => exact h _ nofun

/-- A rewriting that makes nothing of what another rule did to a node makes nothing of what that rule did
to a filter. -/
theorem rewritten_rewritten {rule' : Expr → Expr}
    (h : ∀ e, (rule e).rewritten rule' = e.rewritten rule') (e : Expr) :
    (e.rewritten rule).rewritten rule' = e.rewritten rule' := by
  induction e with
  | binary op left right ihl ihr =>
    refine (h (binary op (left.rewritten rule) (right.rewritten rule))).trans ?_
    exact congrArg rule' (congrArg₂ (binary op) ihl ihr)
  | field source => exact h _
  | list items ih =>
    have hitems : items.map (rewritten rule' ∘ rewritten rule) = items.map (rewritten rule') :=
      List.map_congr_left ih
    rw [rewritten_list, h, rewritten_list, rewritten_list, List.map_map, hitems]
  | call method receiver arguments ihr iha =>
    have hreceiver : receiver.map (rewritten rule' ∘ rewritten rule) =
        receiver.map (rewritten rule') := Option.map_congr ihr
    have harguments : arguments.map (rewritten rule' ∘ rewritten rule) =
        arguments.map (rewritten rule') := List.map_congr_left iha
    rw [rewritten_call, h, rewritten_call, rewritten_call, Option.map_map, List.map_map, hreceiver,
      harguments]
  | unary operand ih =>
    refine (h (unary (operand.rewritten rule))).trans ?_
    exact congrArg rule' (congrArg unary ih)
  | value v => exact h _

/-- A rule that changes nothing that a fragment shows of a single node. -/
structure Keeps (m : EntityMapping) (rule : Expr → Expr) : Prop where
  compile : ∀ e, (rule e).compile m = e.compile m
  isNullConstant : ∀ e, (rule e).isNullConstant = e.isNullConstant

variable {m : EntityMapping}

theorem Keeps.isNullConstant_rewritten (h : Keeps m rule) (e : Expr) :
    (e.rewritten rule).isNullConstant = e.isNullConstant := by
  induction e with
  | unary operand ih => exact (h.isNullConstant _).trans ih
  | list items =>
    rw [rewritten_list]
    exact h.isNullConstant _
  | call method receiver arguments =>
    rw [rewritten_call]
    exact h.isNullConstant _
  | _ => exact h.isNullConstant _

/-- A comparison looks at the tree of its right side; everything else looks at the fragments of the
parts. -/
theorem Keeps.compile_rewritten (h : Keeps m rule) (e : Expr) :
    (e.rewritten rule).compile m = e.compile m := by
  induction e with
  | binary op left right ihl ihr =>
    have hright := h.isNullConstant_rewritten right
    refine (h.compile (binary op (left.rewritten rule) (right.rewritten rule))).trans ?_
    rw [Expr.compile, Expr.compile, ihl, ihr, hright]
  | field source => exact h.compile _
  | list items ih =>
    have hitems : items.map (Expr.compile m ∘ rewritten rule) = items.map (Expr.compile m) :=
      List.map_congr_left ih
    rw [rewritten_list, h.compile, compile_list, compile_list, List.map_map, hitems]
  | call method receiver arguments ihr iha =>
    have hreceiver : receiver.map (Expr.compile m ∘ rewritten rule) =
        receiver.map (Expr.compile m) := Option.map_congr ihr
    have harguments : arguments.map (Expr.compile m ∘ rewritten rule) =
        arguments.map (Expr.compile m) := List.map_congr_left iha
    -- a call in neither shape is reported by its number of arguments, which is still the same
    rw [rewritten_call, h.compile, Expr.compile, Expr.compile]
    simp only [compileReceiver_eq_map, compileItems_eq_map, Option.map_map, List.map_map,
      hreceiver, harguments]
  | unary operand ih =>
    refine (h.compile (unary (operand.rewritten rule))).trans ?_
    rw [Expr.compile, Expr.compile, ih]
  | value v => exact h.compile _

end Rewritten

def dropUnary : Expr → Expr
  | unary operand => operand
  | e => e

/-- A call on a receiver, made with two arguments: the collection or the pattern comes first. -/
def toArguments : Expr → Expr
  | call .contains (some collection) [probe] => call .contains none [collection, probe]
  | call .startsWith (some text) [pattern] => call .startsWith none [pattern, text]
  | call .endsWith (some text) [pattern] => call .endsWith none [pattern, text]
  | e => e

/-- A call with two arguments, made on the collection or on the text that is matched. -/
def toReceiver : Expr → Expr
  | call .contains none [collection, probe] => call .contains (some collection) [probe]
  | call .startsWith none [pattern, text] => call .startsWith (some text) [pattern]
  | call .endsWith none [pattern, text] => call .endsWith (some text) [pattern]
  | e => e

def bare : Expr → Expr := rewritten dropUnary

def argumentForm : Expr → Expr := rewritten toArguments

def receiverForm : Expr → Expr := rewritten toReceiver

def isUnary : Expr → Bool
  | unary _ => true
  | _ => false

def isReceiverCall : Expr → Bool
  | call _ (some _) [_] => true
  | _ => false

def isArgumentCall : Expr → Bool
  | call _ none [_, _] => true
  | _ => false

theorem keeps_dropUnary (m : EntityMapping) : Keeps m dropUnary where
  compile e := by
    cases e with
    | unary operand => rw [dropUnary, Expr.compile]
    | _ => rfl
  isNullConstant e := by
    cases e with
    | unary operand => rfl
    | _ => rfl

theorem keeps_toArguments (m : EntityMapping) : Keeps m toArguments where
  compile e := by
    unfold toArguments
    split <;> rfl
  isNullConstant e := by
    unfold toArguments
    split <;> rfl

theorem keeps_toReceiver (m : EntityMapping) : Keeps m toReceiver where
  compile e := by
    unfold toReceiver
    split <;> rfl
  isNullConstant e := by
    unfold toReceiver
    split <;> rfl

theorem parts_toArguments (e : Expr) : e.toArguments.parts = e.parts := by
  unfold toArguments
  split <;> rfl

theorem parts_toReceiver (e : Expr) : e.toReceiver.parts = e.parts := by
  unfold toReceiver
  split <;> rfl

theorem isReceiverCall_toArguments (e : Expr) : e.toArguments.isReceiverCall = false := by
  unfold toArguments
  split
  · rfl
  · rfl
  · rfl
  -- the call has none of the three forms that are turned
  · rename_i hcontains hstarts hends
    unfold isReceiverCall
    split
    · rename_i method receiver argument
      cases method with
      | contains => exact absurd rfl (hcontains receiver argument)
      | startsWith => exact absurd rfl (hstarts receiver argument)
      | endsWith => exact absurd rfl (hends receiver argument)
    · rfl

theorem isArgumentCall_toReceiver (e : Expr) : e.toReceiver.isArgumentCall = false := by
  unfold toReceiver
  split
  · rfl
  · rfl
  · rfl
  · rename_i hcontains hstarts hends
    unfold isArgumentCall
    split
    · rename_i method operand subject
      cases method with
      | contains => exact absurd rfl (hcontains operand subject)
      | startsWith => exact absurd rfl (hstarts operand subject)
      | endsWith => exact absurd rfl (hends operand subject)
    · rfl

theorem forall_mem_nodes_rewritten_of_parts {rule : Expr → Expr} {p : Expr → Prop}
    (hparts : ∀ e, (rule e).parts = e.parts) (hp : ∀ e, p (rule e)) (e : Expr) :
    ∀ n ∈ (e.rewritten rule).nodes, p n := by
  apply forall_mem_nodes_rewritten
  intro e he n hn
  rw [nodes_eq, hparts, List.mem_cons, List.mem_flatMap] at hn
  rcases hn with rfl | ⟨part, hpart, hn⟩
  · exact hp e
  · exact he part hpart n hn

theorem isUnary_of_mem_nodes_bare (e : Expr) : ∀ n ∈ e.bare.nodes, n.isUnary = false := by
  apply forall_mem_nodes_rewritten
  intro e he n hn
  cases e with
  | unary operand => exact he operand List.mem_cons_self n hn
  | _ =>
    rw [nodes_eq, List.mem_cons, List.mem_flatMap] at hn
    rcases hn with rfl | ⟨part, hpart, hn⟩
    · rfl
    · exact he part hpart n hn

theorem argumentForm_receiverForm (e : Expr) : e.receiverForm.argumentForm = e.argumentForm := by
  apply rewritten_rewritten
  intro e
  unfold toReceiver
  split <;> rfl

theorem receiverForm_argumentForm (e : Expr) : e.argumentForm.receiverForm = e.receiverForm := by
  apply rewritten_rewritten
  intro e
  unfold toArguments
  split <;> rfl

end Expr

/-- Unary nodes are invisible: without them, at whatever depth they stand, a filter compiles to the same
text or fails with the same error, and so do any two filters that differ in unary nodes only. -/
theorem unary_nodes_invisible (m : EntityMapping) (e : Expr) :
    (∀ n ∈ e.bare.nodes, n.isUnary = false) ∧ e.bare.compile m = e.compile m ∧
      ∀ e' : Expr, e'.bare = e.bare → e'.compile m = e.compile m := by
  have hbare (e : Expr) : e.bare.compile m = e.compile m :=
    (Expr.keeps_dropUnary m).compile_rewritten e
  refine ⟨e.isUnary_of_mem_nodes_bare, hbare e, ?_⟩
  intro e' h
  rw [← hbare e', h, hbare e]

/-- Unary nodes around a null constant, a collection and its item. -/
theorem unary_nodes_invisible_collection :
    let m : EntityMapping :=
      ⟨"Test", none, [⟨"Pyh", none, false, false⟩, ⟨"Name", some "[Name]", false, false⟩]⟩
    let item : Expr := .value (.string "s")
    let e : Expr := .binary .or (.binary .ne (.unary (.field "Pyh")) (.unary (.unary .null)))
      (.inList (.unary (.field "Name")) (.unary (.list [.unary item])))
    let bare : Expr := .binary .or (.isNotNull (.field "Pyh")) (.inList (.field "Name") (.list [item]))
    e.bare = bare ∧ e.compile m = .ok "Pyh IS NOT NULL OR ([Name] IN ('s'))" := by
  intro m item e bare
  have hbare : e.bare = bare := rfl
  obtain ⟨-, hcompile, -⟩ := unary_nodes_invisible m e
  refine ⟨hbare, ?_⟩
  rw [← hcompile, hbare]
  rfl

/-- The shapes of calls are interchangeable: with every call on a receiver made with two arguments, or the
other way round, a filter compiles to the same text or fails with the same error, and so do any two
filters that differ in the shapes of calls only. -/
theorem call_shapes_interchangeable (m : EntityMapping) (e : Expr) :
    ((∀ n ∈ e.argumentForm.nodes, n.isReceiverCall = false) ∧
      e.argumentForm.compile m = e.compile m ∧ e.argumentForm.receiverForm = e.receiverForm) ∧
    ((∀ n ∈ e.receiverForm.nodes, n.isArgumentCall = false) ∧
      e.receiverForm.compile m = e.compile m ∧ e.receiverForm.argumentForm = e.argumentForm) ∧
    ∀ e' : Expr, e'.argumentForm = e.argumentForm → e'.compile m = e.compile m := by
  have harguments (e : Expr) : e.argumentForm.compile m = e.compile m :=
    (Expr.keeps_toArguments m).compile_rewritten e
  have hreceiver : e.receiverForm.compile m = e.compile m :=
    (Expr.keeps_toReceiver m).compile_rewritten e
  refine ⟨⟨?_, harguments e, e.receiverForm_argumentForm⟩,
    ⟨?_, hreceiver, e.argumentForm_receiverForm⟩, ?_⟩
  · exact Expr.forall_mem_nodes_rewritten_of_parts Expr.parts_toArguments
      Expr.isReceiverCall_toArguments e
  · exact Expr.forall_mem_nodes_rewritten_of_parts Expr.parts_toReceiver
      Expr.isArgumentCall_toReceiver e
  · intro e' h
    rw [← harguments e', h, harguments e]

/-- Calls of both shapes in a probe and in the collection that it is looked for in. -/
theorem call_shapes_interchangeable_nested :
    let m : EntityMapping := ⟨"Test", none, [⟨"Name", some "[Name]", false, false⟩]⟩
    let a : Expr := .value (.string "a")
    let x : Expr := .value (.string "x")
    let e : Expr := .contains (.list [x, .call .endsWith none [x, .field "Name"]])
      (.startsWith (.field "Name") a)
    let e' : Expr := .inList (.call .startsWith none [a, .field "Name"])
      (.list [x, .endsWith (.field "Name") x])
    e'.argumentForm = e.argumentForm ∧
      e.compile m = .ok "(([Name] LIKE 'a%') IN ('x',([Name] LIKE '%x')))" ∧
      e'.compile m = .ok "(([Name] LIKE 'a%') IN ('x',([Name] LIKE '%x')))" := by
  intro m a x e e'
  have hform : e'.argumentForm = e.argumentForm := rfl
  have htext : e.compile m = .ok "(([Name] LIKE 'a%') IN ('x',([Name] LIKE '%x')))" := rfl
  obtain ⟨-, -, hsame⟩ := call_shapes_interchangeable m e
  exact ⟨hform, htext, (hsame e' hform).trans htext⟩

end RecordMapper
