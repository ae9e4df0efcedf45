import RecordMapper.Proofs.Predicate.Fragment
import RecordMapper.Proofs.Predicate.Tree
/-!
# Which filters have no fragment

Whether a node can be written shows in the node alone, whatever its parts are. A filter has a fragment
exactly when every node can be written; else it fails with what is said of the first node, in the order
of a visit, that cannot.
-/

namespace RecordMapper

def failure? {α : Type} : Except Error α → Option Error
  | .ok _ => none
  | .error e => some e

section Failure

variable {α β : Type} {x : Except Error α}

theorem failure?_eq_none_iff : failure? x = none ↔ ∃ a, x = .ok a := by
  cases x <;> simp [failure?]

theorem failure?_eq_some_iff {e : Error} : failure? x = some e ↔ x = .error e := by
  cases x <;> simp [failure?]

theorem failure?_map {f : α → β} : failure? (x.map f) = failure? x := by
  cases x <;> rfl

end Failure

theorem findSome?_flatMap {α β γ : Type} {f : α → List β} {g : β → Option γ} {h : α → Option γ}
    {l : List α} (hf : ∀ a ∈ l, (f a).findSome? g = h a) :
    (l.flatMap f).findSome? g = l.findSome? h := by
  induction l with
  | nil => rfl
  | cons a rest ih =>
    rw [List.forall_mem_cons] at hf
    rw [List.flatMap_cons, List.findSome?_append, hf.1, ih hf.2, List.findSome?_cons]
    cases h a <;> rfl

/-- The parts of a call in the order in which they are visited: a pattern before what it is matched
with, and a collection after what is looked for in it. -/
def Method.visited {α : Type} (method : Method) (receiver : Option α) (arguments : List α) :
    List α :=
  match method.roles? receiver arguments with
  | some (subject, operand) => if method = contains then [subject, operand] else [operand, subject]
  | none => receiver.toList ++ arguments

namespace Expr

def Cases.nodes : Cases (List Expr) where
  binary op left right := .binary op left.1 right.1 :: (left.2 ++ right.2)
  field source := [.field source]
  list items := .list (items.map Prod.fst) :: items.flatMap Prod.snd
  call method receiver arguments :=
    .call method (receiver.map Prod.fst) (arguments.map Prod.fst) ::
      (method.visited receiver arguments).flatMap Prod.snd
  unary operand := .unary operand.1 :: operand.2
  value v := [.value v]

def nodes : Expr → List Expr := fold Cases.nodes

end Expr

def Value.fault? : Value → Option Error
  | bytes _ => some (Error.ofCause (.unsupportedExpression
      "Bytes values cannot be used as predicate constants"))
  | list _ => some (Error.ofCause (.unsupportedExpression
      "List values cannot be used as predicate constants"))
  | float x =>
    if x.isFinite then none
    else some (Error.ofCause (.unsupportedExpression
      ("non-finite float `" ++ x.text ++ "` has no literal form")))
  | _ => none

/-- What is wrong with a node, whatever its parts are. -/
def Expr.fault? (m : EntityMapping) : Expr → Option Error
  | binary op _ _ =>
    if op = .coalesce then
      some (Error.ofCause (.unsupportedOperator "??" "use an explicit ISNULL/COALESCE function"))
    else none
  | field source =>
    if source ∈ m.fields.map FieldMapping.source then none
    else some (Error.ofCause (.unknownField m.name source))
  | call method receiver arguments =>
    if receiver.isSome ∧ arguments.length = 1 ∨ receiver.isNone ∧ arguments.length = 2 then none
    else some (Fragment.malformedCall method receiver.isSome arguments.length)
  | value v => v.fault?
  | list _ | unary _ => none

theorem Method.roles?_eq_none_iff {α : Type} {method : Method} {receiver : Option α}
    {arguments : List α} :
    method.roles? receiver arguments = none ↔
      ¬ (receiver.isSome ∧ arguments.length = 1 ∨ receiver.isNone ∧ arguments.length = 2) := by
  match receiver, arguments with
  | some _, [] => simp [roles?]
  | some _, [_] => simp [roles?]
  | some _, _ :: _ :: _ => simp [roles?]
  | none, [] => simp [roles?]
  | none, [_] => simp [roles?]
  | none, [_, _] => simp [roles?]
  | none, _ :: _ :: _ :: _ => simp [roles?]

theorem Method.visited_map {α β : Type} (f : α → β) (method : Method) (receiver : Option α)
    (arguments : List α) :
    method.visited (receiver.map f) (arguments.map f) =
      (method.visited receiver arguments).map f := by
  unfold visited
  rw [roles?_map]
  cases method.roles? receiver arguments with
  | none => cases receiver <;> simp
  | some roles =>
    dsimp only [Option.map_some]
    split_ifs <;> rfl

theorem BinaryOperator.word?_eq_none_iff {op : BinaryOperator} :
    op.word? = none ↔ op = .coalesce := by
  cases op <;> simp [word?]

namespace Fragment

theorem failure?_all (items : List Fragment) : failure? (all items) = items.findSome? failure? := by
  induction items with
  | nil => rfl
  | cons item rest ih =>
    cases item with
    | error e => rfl
    | ok text =>
      rw [List.findSome?_cons, all]
      change _ = rest.findSome? failure?
      rw [← ih]
      cases all rest <;> rfl

theorem failure?_list (items : List Fragment) :
    failure? (list items) = items.findSome? failure? := by
  rw [list, failure?_map, failure?_all]

theorem failure?_test (method : Method) (subject operand : Fragment) :
    failure? (test method subject operand) =
      if method = .contains then (failure? subject).or (failure? operand)
      else (failure? operand).or (failure? subject) := by
  cases method <;> cases subject <;> cases operand <;> rfl

/-- The right side of a null test is not looked at, but then there is nothing wrong with it. -/
theorem failure?_binary {op : BinaryOperator} {rightIsNull : Bool} {left right : Fragment}
    (hop : op ≠ .coalesce) (hright : rightIsNull = true → failure? right = none) :
    failure? (binary op rightIsNull left right) = (failure? left).or (failure? right) := by
  obtain ⟨word, hw⟩ := Option.ne_none_iff_exists'.1 (mt BinaryOperator.word?_eq_none_iff.1 hop)
  unfold binary
  rw [hw]
  generalize htest : (if rightIsNull then op.nullTest? else none) = test
  cases test with
  | none =>
    cases left with
    | error e => rfl
    | ok l => exact failure?_map
  | some test =>
    have hnull : rightIsNull = true := by
      by_contra hnot
      rw [if_neg hnot] at htest
      cases htest
    have hnone := hright hnull
    rw [hnone, Option.or_none]
    exact failure?_map

end Fragment

theorem Value.failure?_literal (v : Value) : failure? v.literal = v.fault? := by
  cases v with
  | float x =>
    simp only [literal, fault?]
    split_ifs <;> rfl
  | _ => rfl

theorem EntityMapping.failure?_fragment (m : EntityMapping) (source : String) :
    failure? (m.fragment source) = (Expr.field source).fault? m := by
  rw [fragment, Expr.fault?]
  cases hf : m.field? source with
  | none =>
    have hnone : ∀ f ∈ m.fields, ¬ f.source = source := by
      simpa [field?] using hf
    rw [if_neg (by simpa using hnone)]
    rfl
  | some f =>
    have hsource : f.source = source := by simpa using List.find?_some hf
    rw [if_pos (hsource ▸ List.mem_map_of_mem (List.mem_of_find?_eq_some hf))]
    rfl

namespace Expr

theorem nodes_list (items : List Expr) :
    (list items).nodes = list items :: items.flatMap nodes := by
  unfold nodes
  rw [fold_list]
  simp [Cases.nodes, List.flatMap_map, Function.comp_def]

theorem nodes_call (method : Method) (receiver : Option Expr) (arguments : List Expr) :
    (call method receiver arguments).nodes =
      call method receiver arguments ::
        (method.visited receiver arguments).flatMap nodes := by
  unfold nodes
  rw [fold_call]
  simp [Cases.nodes, Method.visited_map, List.flatMap_map, Function.comp_def]

theorem failure?_of_isNullConstant {m : EntityMapping} {e : Expr} (h : e.isNullConstant = true) :
    failure? (e.compile m) = none := by
  rw [compile_of_isNullConstant m h]
  rfl

/-- A filter fails with what is wrong with the first of its nodes that has a fault. -/
theorem failure?_compile (m : EntityMapping) (e : Expr) :
    failure? (e.compile m) = e.nodes.findSome? (fault? m) := by
  induction e with
  | binary op left right ihl ihr =>
    change _ = (binary op left right :: (left.nodes ++ right.nodes)).findSome? (fault? m)
    rw [compile, List.findSome?_cons, List.findSome?_append, ← ihl, ← ihr, fault?]
    by_cases hop : op = .coalesce
    · subst hop
      rfl
    · rw [if_neg hop]
      exact Fragment.failure?_binary hop failure?_of_isNullConstant
  | field source =>
    rw [compile, EntityMapping.failure?_fragment]
    change _ = [field source].findSome? (fault? m)
    rw [List.findSome?_singleton]
  | list items ih =>
    have hitems : (items.flatMap nodes).findSome? (fault? m) =
        items.findSome? (failure? ∘ compile m) := findSome?_flatMap fun e he => (ih e he).symm
    rw [compile_list, Fragment.failure?_list, nodes_list, List.findSome?_cons, List.findSome?_map,
      hitems]
    rfl
  | call method receiver arguments ihr iha =>
    rw [compile_call, nodes_call, List.findSome?_cons, fault?]
    cases hroles : method.roles? receiver arguments with
    | none =>
      rw [if_neg (Method.roles?_eq_none_iff.1 hroles)]
      rfl
    | some roles =>
      obtain ⟨subject, operand⟩ := roles
      obtain ⟨ihs, iho⟩ := Method.of_roles? hroles ihr iha
      have hshape : method.roles? receiver arguments ≠ none := by simp [hroles]
      rw [if_pos (not_not.1 (mt Method.roles?_eq_none_iff.2 hshape)), Method.visited, hroles]
      dsimp only
      rw [Fragment.failure?_test, ihs, iho]
      split_ifs <;> simp [List.findSome?_append]
  | unary operand ih =>
    rw [compile, ih]
    rfl
  | value v =>
    rw [compile, Value.failure?_literal]
    change _ = [value v].findSome? (fault? m)
    rw [List.findSome?_singleton]
    rfl

theorem kind_fault? {m : EntityMapping} {n : Expr} {err : Error} (h : n.fault? m = some err) :
    err.contexts = [] ∧ (err.kind = some .unsupportedOperator ∨ err.kind = some .unknownField ∨
      err.kind = some .unsupportedExpression) := by
  cases n with
  | binary op left right =>
    rw [fault?] at h
    split_ifs at h
    cases h
    exact ⟨rfl, .inl rfl⟩
  | field source =>
    rw [fault?] at h
    split_ifs at h
    cases h
    exact ⟨rfl, .inr (.inl rfl)⟩
  | call method receiver arguments =>
    rw [fault?] at h
    split_ifs at h
    cases h
    exact ⟨rfl, .inr (.inr rfl)⟩
  | value v =>
    suffices hv : ∃ message, err = Error.ofCause (.unsupportedExpression message) by
      obtain ⟨message, rfl⟩ := hv
      exact ⟨rfl, .inr (.inr rfl)⟩
    cases v with
    | float x =>
      rw [fault?, Value.fault?] at h
      split_ifs at h
      exact ⟨_, (Option.some.inj h).symm⟩
    | bytes data => exact ⟨_, (Option.some.inj h).symm⟩
    | list items => exact ⟨_, (Option.some.inj h).symm⟩
    | _ => cases h
  | list items => cases h
  | unary operand => cases h

end Expr

/-- A filter compiles exactly when no node of it has a fault. Otherwise it fails with what is wrong with
the first node that has one, which is of one of three kinds. -/
theorem compile_fails_with_first_fault (m : EntityMapping) (e : Expr) :
    ((∃ text, e.compile m = .ok text) ↔ ∀ n ∈ e.nodes, n.fault? m = none) ∧
    (∀ err, e.compile m = .error err ↔ ∃ before n after, e.nodes = before ++ n :: after ∧
      n.fault? m = some err ∧ ∀ b ∈ before, b.fault? m = none) ∧
    ∀ err, e.compile m = .error err → err.contexts = [] ∧
      (err.kind = some .unsupportedOperator ∨ err.kind = some .unknownField ∨
        err.kind = some .unsupportedExpression) := by
  have hfirst (err : Error) : e.compile m = .error err ↔ ∃ before n after,
      e.nodes = before ++ n :: after ∧ n.fault? m = some err ∧ ∀ b ∈ before, b.fault? m = none := by
    rw [← failure?_eq_some_iff, Expr.failure?_compile, List.findSome?_eq_some_iff]
  refine ⟨?_, hfirst, ?_⟩
  · rw [← failure?_eq_none_iff, Expr.failure?_compile, List.findSome?_eq_none_iff]
  · intro err h
    obtain ⟨-, n, -, -, hn, -⟩ := (hfirst err).1 h
    exact Expr.kind_fault? hn

/-- A pattern with an unknown field, before what it is matched with and before an operator without a
word. -/
theorem compile_fails_with_first_fault_pattern :
    let m : EntityMapping := ⟨"Test", none, [⟨"a", none, false, false⟩]⟩
    let start : Expr := .startsWith (.value (.bytes [])) (.field "b")
    let filter : Expr := .binary .and start (.binary .coalesce (.field "a") (.field "c"))
    filter.compile m = .error (Error.ofCause (.unknownField "Test" "b")) := by
  intro m start filter
  refine ((compile_fails_with_first_fault m filter).2.1 _).2
    ⟨[filter, start], .field "b", _, rfl, rfl, ?_⟩
  intro n hn
  simp only [List.mem_cons, List.not_mem_nil, or_false] at hn
  rcases hn with rfl | rfl
  · rfl
  · rfl

end RecordMapper
