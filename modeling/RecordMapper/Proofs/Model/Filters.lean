import RecordMapper.Model.Path
import RecordMapper.Proofs.Mapping.Build
import RecordMapper.Proofs.Predicate.Fault
/-!
# Typed filters

A filter built from the paths of a model names only fields that the model's mapping has and uses only
operators and calls that have a written form. What is left to go wrong is an operand: bytes, lists and
numbers that are not finite have no literal. Lists come only from types that the library does not have.
-/

namespace RecordMapper

def Value.isUnwritable : Value → Bool
  | bytes _ | list _ => true
  | float x => !x.isFinite
  | _ => false

theorem Value.isSome_fault? (v : Value) : v.fault?.isSome = v.isUnwritable := by
  cases v with
  | float x =>
    rw [fault?, isUnwritable]
    split_ifs with hx
    · rw [hx]
      rfl
    · rw [Bool.not_eq_true] at hx
      rw [hx]
      rfl
  | _ => rfl

theorem FieldType.toValue_ne_list (t : FieldType) (x : t.Carrier) (items : List Value) :
    t.toValue x ≠ .list items := by
  induction t with
  | option inner ih =>
    cases x with
    | none => exact Value.noConfusion
    | some x => exact ih x
  | _ => exact Value.noConfusion

/-- What is said of an operand is never said of a call, whose name stands in front. -/
theorem Value.kind_of_fault? {v : Value} {err : Error} (h : v.fault? = some err) :
    (err.kind = some .unsupportedExpression ∧ err.contexts = []) ∧
      ∀ method hasReceiver count, err ≠ Fragment.malformedCall method hasReceiver count := by
  have hmessage : ∃ message : String, message.toList.head? ≠ some '`' ∧
      err = Error.ofCause (.unsupportedExpression message) := by
    cases v with
    | float x =>
      rw [Value.fault?] at h
      split_ifs at h
      refine ⟨_, ?_, (Option.some.inj h).symm⟩
      simp
    | bytes data => exact ⟨_, by decide, (Option.some.inj h).symm⟩
    | list items => exact ⟨_, by decide, (Option.some.inj h).symm⟩
    | _ => cases h
  obtain ⟨message, hhead, rfl⟩ := hmessage
  refine ⟨⟨rfl, rfl⟩, fun method hasReceiver count hcall => hhead ?_⟩
  rw [Fragment.malformedCall] at hcall
  injection hcall with _ hroot
  injection hroot with htext
  rw [htext]
  simp

theorem Model.failure?_path {τ : Type} {model : Model τ} {m : EntityMapping}
    (hm : model.describe = .ok m) {f : ModelField τ} (hf : f ∈ model.fields) :
    failure? (f.path.expr.compile m) = none := by
  obtain ⟨-, rfl⟩ := EntityMapping.build_eq_ok_iff.1 hm
  have hsource : f.source ∈ model.declaration.fields.map FieldMapping.source := by
    rw [declaration, List.map_map]
    exact List.mem_map.2 ⟨f, hf, rfl⟩
  change failure? (model.declaration.fragment f.source) = none
  rw [EntityMapping.failure?_fragment, Expr.fault?, if_pos hsource]

variable {τ : Type} [FieldTypes τ]

/-- The filters that the paths of a model build, each with the values it compares with, in order. -/
inductive Model.FiltersBy (model : Model τ) : Expr → List Value → Prop where
  | compare {f : ModelField τ} (hf : f ∈ model.fields) {op : BinaryOperator}
      (hop : op ∈ [.eq, .ne, .gt, .ge, .lt, .le]) (x : FieldTypes.Carrier f.type) :
      FiltersBy model (f.path.compare op x) [FieldTypes.toValue f.type x]
  | inList {f : ModelField τ} (hf : f ∈ model.fields) (xs : List (FieldTypes.Carrier f.type)) :
      FiltersBy model (f.path.inList xs) (xs.map (FieldTypes.toValue f.type))
  | startsWith {f : ModelField τ} (hf : f ∈ model.fields) (ht : FieldTypes.isText f.type = true)
      (start : String) : FiltersBy model (f.path.startsWith ht start) [.string start]
  | endsWith {f : ModelField τ} (hf : f ∈ model.fields) (ht : FieldTypes.isText f.type = true)
      (ending : String) : FiltersBy model (f.path.endsWith ht ending) [.string ending]
  | isNull {f : ModelField τ} (hf : f ∈ model.fields) : FiltersBy model f.path.isNull []
  | isNotNull {f : ModelField τ} (hf : f ∈ model.fields) : FiltersBy model f.path.isNotNull []
  | join {op : BinaryOperator} (hop : op ∈ [.and, .or]) {left right : Expr} {vs ws : List Value}
      (hl : FiltersBy model left vs) (hr : FiltersBy model right ws) :
      FiltersBy model (.binary op left right) (vs ++ ws)

namespace Model

variable {model : Model τ} {m : EntityMapping}

theorem failure?_operand (v : Value) : failure? ((Expr.value v).compile m) = v.fault? := by
  rw [Expr.compile]
  exact v.failure?_literal

theorem failure?_binary {op : BinaryOperator} (hop : op ≠ .coalesce) (left right : Expr) :
    failure? ((Expr.binary op left right).compile m) =
      (failure? (left.compile m)).or (failure? (right.compile m)) := by
  rw [Expr.compile]
  exact Fragment.failure?_binary hop Expr.failure?_of_isNullConstant

theorem failure?_like {method : Method} (hmethod : method ≠ .contains) {subject : Expr}
    (hs : failure? (subject.compile m) = none) (pattern : String) :
    failure? ((Expr.call method (some subject) [.value (.string pattern)]).compile m) = none := by
  rw [Expr.compile_call, Method.roles?, if_neg hmethod]
  dsimp only
  rw [Fragment.failure?_test, if_neg hmethod, hs, failure?_operand]
  rfl

/-- A typed filter fails with what is wrong with the first of its operands that has a fault. -/
theorem FiltersBy.failure?_compile (hm : model.describe = .ok m) {e : Expr} {vs : List Value}
    (h : model.FiltersBy e vs) : failure? (e.compile m) = vs.findSome? Value.fault? := by
  induction h with
  | @compare f hf op hop x =>
    have hne : op ≠ .coalesce := by
      rintro rfl
      simp at hop
    rw [Path.compare, failure?_binary hne, failure?_path hm hf, Path.operand, failure?_operand,
      Option.none_or, List.findSome?_singleton]
  | @inList f hf xs =>
    have hitems : failure? ((Expr.list (xs.map Path.operand)).compile m) =
        (xs.map (FieldTypes.toValue f.type)).findSome? Value.fault? := by
      rw [Expr.compile_list, Fragment.failure?_list, List.findSome?_map, List.findSome?_map,
        List.findSome?_map]
      exact congrArg (List.findSome? · xs) (funext fun x => failure?_operand _)
    rw [Path.inList, Expr.inList, Expr.compile_call, Method.roles?]
    dsimp only
    rw [Fragment.failure?_test, if_pos rfl, failure?_path hm hf, Option.none_or, hitems]
  | @startsWith f hf ht start => exact failure?_like (by decide) (failure?_path hm hf) start
  | @endsWith f hf ht ending => exact failure?_like (by decide) (failure?_path hm hf) ending
  | @isNull f hf =>
    rw [Path.isNull, Expr.isNull, failure?_binary (by decide), failure?_path hm hf, Expr.null,
      failure?_operand]
    rfl
  | @isNotNull f hf =>
    rw [Path.isNotNull, Expr.isNotNull, failure?_binary (by decide), failure?_path hm hf, Expr.null,
      failure?_operand]
    rfl
  | @join op hop left right vs ws hl hr ihl ihr =>
    have hne : op ≠ .coalesce := by
      rintro rfl
      simp at hop
    rw [failure?_binary hne, ihl, ihr, List.findSome?_append]

theorem FiltersBy.operand {e : Expr} {vs : List Value} (h : model.FiltersBy e vs) :
    ∀ v ∈ vs, (∃ f ∈ model.fields, ∃ x, FieldTypes.toValue f.type x = v) ∨ ∃ s, v = .string s := by
  induction h with
  | @compare f hf op hop x =>
    intro v hv
    rw [List.mem_singleton.1 hv]
    exact .inl ⟨f, hf, x, rfl⟩
  | @inList f hf xs =>
    intro v hv
    obtain ⟨x, -, rfl⟩ := List.mem_map.1 hv
    exact .inl ⟨f, hf, x, rfl⟩
  | startsWith hf ht start =>
    intro v hv
    exact .inr ⟨start, List.mem_singleton.1 hv⟩
  | endsWith hf ht ending =>
    intro v hv
    exact .inr ⟨ending, List.mem_singleton.1 hv⟩
  | isNull hf => simp
  | isNotNull hf => simp
  | join hop hl hr ihl ihr =>
    intro v hv
    rcases List.mem_append.1 hv with hv | hv
    · exact ihl v hv
    · exact ihr v hv

theorem FiltersBy.exists_error_iff (hm : model.describe = .ok m) {e : Expr} {vs : List Value}
    (h : model.FiltersBy e vs) :
    (∃ err, e.compile m = .error err) ↔ ∃ v ∈ vs, v.isUnwritable = true := by
  have hfails : (∃ err, e.compile m = .error err) ↔ (failure? (e.compile m)).isSome = true := by
    rw [Option.isSome_iff_exists]
    simp only [failure?_eq_some_iff]
  rw [hfails, h.failure?_compile hm, List.findSome?_isSome_iff]
  simp only [Value.isSome_fault?]

end Model

/-- A filter built from the paths of a model fails exactly if bytes, a list or a number that is not finite
stands among its operands; if no type of a field has lists, as no built-in one does, exactly if bytes or
such a number does. It then fails with what is said of the first of them as a constant, and neither a field
nor an operator nor the shape of a call is ever at fault. -/
theorem typed_filter_fails_iff {model : Model τ} {m : EntityMapping} (hm : model.describe = .ok m)
    {e : Expr} {vs : List Value} (h : model.FiltersBy e vs) :
    ((∃ err, e.compile m = .error err) ↔ ∃ v ∈ vs, v.isUnwritable = true) ∧
    ((∀ f ∈ model.fields, ∀ x items, FieldTypes.toValue f.type x ≠ .list items) →
      ((∃ err, e.compile m = .error err) ↔
        ∃ v ∈ vs, (∃ data, v = .bytes data) ∨ ∃ x, v = .float x ∧ x.isFinite = false)) ∧
    (∀ err, e.compile m = .error err →
      (err.kind = some .unsupportedExpression ∧ err.contexts = []) ∧
      (∃ before v after, vs = before ++ v :: after ∧ v.isUnwritable = true ∧
        v.literal = .error err ∧ ∀ b ∈ before, b.isUnwritable = false) ∧
      ∀ method hasReceiver count, err ≠ Fragment.malformedCall method hasReceiver count) ∧
    ∀ (t : FieldType) x items, t.toValue x ≠ .list items := by
  refine ⟨h.exists_error_iff hm, ?_, ?_, FieldType.toValue_ne_list⟩
  · intro hlists
    rw [h.exists_error_iff hm]
    refine exists_congr fun v => and_congr_right fun hv => ?_
    have hlist : ∀ items, v ≠ .list items := by
      intro items hitems
      rcases h.operand v hv with ⟨f, hf, x, hx⟩ | ⟨s, hs⟩
      · exact hlists f hf x items (hx.trans hitems)
      · rw [hs] at hitems
        cases hitems
    cases v with
    | list items => exact absurd rfl (hlist items)
    | _ => simp [Value.isUnwritable]
  · intro err herr
    rw [← failure?_eq_some_iff, h.failure?_compile hm, List.findSome?_eq_some_iff] at herr
    obtain ⟨before, v, after, rfl, hfv, hbefore⟩ := herr
    obtain ⟨hkind, hcall⟩ := Value.kind_of_fault? hfv
    refine ⟨hkind, ⟨before, v, after, rfl, ?_, ?_, ?_⟩, hcall⟩
    · rw [← v.isSome_fault?, hfv]
      rfl
    · rw [← failure?_eq_some_iff, Value.failure?_literal, hfv]
    · intro b hb
      rw [← b.isSome_fault?, hbefore b hb]
      rfl

/-- A list with a number that is not finite, before bytes that are not looked at any more; and a filter
without either. -/
theorem typed_filter_fails_iff_nested :
    let name : ModelField := ⟨"name", none, true, false, .option .string⟩
    let score : ModelField := ⟨"score", some "[Score]", false, false, .option .float⟩
    let data : ModelField := ⟨"data", none, false, false, .bytes⟩
    let model : Model := ⟨"crate::Test", "Test", none, [name, score, data]⟩
    let nan : Binary64 := ⟨0x7ff8000000000000⟩
    let start : Expr := name.path.startsWith rfl "A"
    let scores : Expr := score.path.inList [none, some nan]
    let filter : Expr := .binary .and start (.binary .or scores (data.path.eq []))
    (∃ err, filter.compile model.declaration = .error err ∧
      err.kind = some .unsupportedExpression ∧ err ≠ Fragment.malformedCall .contains true 1) ∧
    ¬ ∃ err, (Expr.binary .and start score.path.isNull).compile model.declaration = .error err := by
  intro name score data model nan start scores filter
  have hm : model.describe = .ok model.declaration := rfl
  have hname : name ∈ model.fields := by decide
  have hscore : score ∈ model.fields := by decide
  have hdata : data ∈ model.fields := by decide
  have hstart : model.FiltersBy start [.string "A"] := .startsWith hname rfl "A"
  have hscores : model.FiltersBy scores [.null, .float nan] := .inList hscore [none, some nan]
  have heq : model.FiltersBy (data.path.eq []) [.bytes []] := .compare hdata (by decide) []
  have hfilter : model.FiltersBy filter [.string "A", .null, .float nan, .bytes []] :=
    .join (by decide) hstart (.join (by decide) hscores heq)
  constructor
  · obtain ⟨-, hbuiltin, hfirst, hlists⟩ := typed_filter_fails_iff hm hfilter
    have hnan : Binary64.isFinite nan = false := by decide
    obtain ⟨err, herr⟩ := (hbuiltin fun f _ => hlists f.type).2
      ⟨.float nan, by simp, .inr ⟨nan, rfl, hnan⟩⟩
    obtain ⟨⟨hkind, -⟩, -, hcall⟩ := hfirst err herr
    exact ⟨err, herr, hkind, hcall .contains true 1⟩
  · rw [(typed_filter_fails_iff hm (.join (by decide) hstart (.isNull hscore))).1]
    simp [Value.isUnwritable]

/-- An application's own type: texts that are stored as one list. -/
inductive TagType where
  | tags
deriving DecidableEq

def TagType.load : Value → Except Error (List String)
  | .list items => .ok (items.filterMap Value.string?)
  | v => .error (Error.ofCause (.typeConversion v "Tags"))

instance : FieldTypes TagType where
  Carrier _ := List String
  default _ := []
  toValue _ tags := .list (tags.map .string)
  load _ := TagType.load
  isText _ := false

/-- A comparison with tags has neither bytes nor a number among its operands and fails all the same. -/
theorem list_operand_not_written :
    let tags : ModelField TagType := ⟨"Tags", none, false, false, .tags⟩
    let model : Model TagType := ⟨"crate::Test", "Test", none, [tags]⟩
    let own : FieldTypes.Carrier tags.type := ["a"]
    model.describe = .ok model.declaration ∧
      model.FiltersBy (tags.path.eq own) [.list [.string "a"]] ∧
      (∀ v ∈ [Value.list [.string "a"]], (∀ data, v ≠ .bytes data) ∧ ∀ x, v ≠ .float x) ∧
      (tags.path.eq own).compile model.declaration = .error (Error.ofCause (.unsupportedExpression
        "List values cannot be used as predicate constants")) := by
  intro tags model own
  refine ⟨rfl, .compare (by simp [model]) (by decide) own, ?_, rfl⟩
  simp

end RecordMapper
