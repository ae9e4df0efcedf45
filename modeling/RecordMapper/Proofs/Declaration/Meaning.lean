import RecordMapper.Declaration.Expansion
import RecordMapper.Proofs.Declaration.Escapes
/-!
# What generated code says

The code is read as it stands, without a look at what it was generated from: a chain of builder calls is
run to the mapping that it describes, and a list of conversions to the values that it takes from a
record. Literals are decoded, so a string counts by what it stands for.
-/

namespace RecordMapper.Declaration

def spelled? (token : String) : Option String :=
  (Literal.textContent? token.toList).map String.ofList

@[simp]
theorem spelled?_token (s : String) : spelled? (Escaped.token s) = some s := by
  rw [spelled?, Literal.textContent?_token, Option.map_some, String.ofList_toList]

theorem spelled?_written {l : TextLiteral}
    (h : Literal.textContent? l.written = some l.content) :
    spelled? (Expansion.written l) = some l.text := by
  rw [spelled?, Expansion.written, String.toList_ofList, h]
  rfl

/-- Runs the calls behind a builder: `m` is described so far, and `open_` is the field whose own calls
stand inside a call of `field`. -/
def runCalls : EntityMapping → Option FieldMapping → List String →
    Option (Except Error EntityMapping)
  | m, none, [".", "build", "(", ")"] => some m.build
  | m, none, "." :: "table" :: "(" :: t :: ")" :: rest =>
    (spelled? t).bind fun table => runCalls { m with tableOverride := some table } none rest
  | m, none, "." :: "field" :: "(" :: "_quarry" :: ":" :: ":" :: "codegen_support" :: ":" :: ":" ::
      "Field" :: ":" :: ":" :: "new" :: "(" :: s :: ")" :: rest =>
    (spelled? s).bind fun source => runCalls m (some ⟨source, none, false, false⟩) rest
  | m, some f, "." :: "column" :: "(" :: c :: ")" :: rest =>
    (spelled? c).bind fun column => runCalls m (some { f with override := some column }) rest
  | m, some f, "." :: "key" :: "(" :: ")" :: rest => runCalls m (some { f with isKey := true }) rest
  | m, some f, "." :: "auto_increment" :: "(" :: ")" :: rest =>
    runCalls m (some { f with marksAuto := true }) rest
  | m, some f, ")" :: rest => runCalls { m with fields := m.fields ++ [f] } none rest
  | _, _, _ => none

def runBuilder : List String → Option (Except Error EntityMapping)
  | "_quarry" :: ":" :: ":" :: "codegen_support" :: ":" :: ":" :: "EntityMapping" :: ":" :: ":" ::
      "builder" :: "(" :: name :: ")" :: rest =>
    (spelled? name).bind fun name => runCalls ⟨name, none, []⟩ none rest
  | _ => none

/-- The values of conversions with commas between them, for a record with its fields given by name. -/
def runConversions (record : String → Value) : List String → Option (List Value)
  | [] => some []
  | ["_quarry", ":", ":", "codegen_support", ":", ":", "Primitive", ":", ":", "to_value", "(", "&",
      "self", ".", own, ")"] => some [record own]
  | "_quarry" :: ":" :: ":" :: "codegen_support" :: ":" :: ":" :: "Primitive" :: ":" :: ":" ::
      "to_value" :: "(" :: "&" :: "self" :: "." :: own :: ")" :: "," :: rest =>
    (runConversions record rest).map (record own :: ·)
  | _ => none

namespace Expansion

def builderTokens (e : Expansion) : List String :=
  support "EntityMapping" ++ tokens ": : builder (" ++ [Escaped.token e.name, ")"] ++
    (e.table.elim [] fun l => methodCall "table" [written l]) ++
    e.described.flatMap describedTokens ++ methodCall "build" []

theorem support_eq (name : String) :
    support name = ["_quarry", ":", ":", "codegen_support", ":", ":", name] := by
  have htokens : tokens "_quarry : : codegen_support : :" =
      ["_quarry", ":", ":", "codegen_support", ":", ":"] := rfl
  rw [support, htokens]
  rfl

theorem runCalls_describedTokens {f : DescribedField} (m : EntityMapping) (rest : List String)
    (h : ∀ l ∈ f.column, Literal.textContent? l.written = some l.content) :
    runCalls m none (describedTokens f ++ rest) =
      runCalls { m with fields := m.fields ++ [f.mapping] } none rest := by
  have htokens : tokens ": : new (" = [":", ":", "new", "("] := rfl
  have hnew (ts : List String) :
      runCalls m none ([".", "field", "("] ++ (support "Field" ++ (tokens ": : new (" ++
        ([Escaped.token f.source, ")"] ++ ts)))) =
      runCalls m (some ⟨f.source, none, false, false⟩) ts := by
    rw [support_eq, htokens]
    change (spelled? (Escaped.token f.source)).bind _ = _
    rw [spelled?_token]
    rfl
  have hcolumn (ts : List String) :
      runCalls m (some ⟨f.source, none, false, false⟩)
        ((f.column.elim [] fun l => methodCall "column" [written l]) ++ ts) =
      runCalls m (some ⟨f.source, f.column.map TextLiteral.text, false, false⟩) ts := by
    cases hc : f.column with
    | none => rfl
    | some l =>
      change (spelled? (written l)).bind _ = _
      rw [spelled?_written (h l hc)]
      rfl
  have hmarks (column : Option String) (ts : List String) :
      runCalls m (some ⟨f.source, column, false, false⟩)
        ((if f.key then methodCall "key" [] else []) ++
          ((if f.auto then methodCall "auto_increment" [] else []) ++ ts)) =
      runCalls m (some ⟨f.source, column, f.key, f.auto⟩) ts := by
    cases f.key <;> cases f.auto <;> rfl
  have hcall : describedTokens f ++ rest = [".", "field", "("] ++ (support "Field" ++
      (tokens ": : new (" ++ ([Escaped.token f.source, ")"] ++
        ((f.column.elim [] fun l => methodCall "column" [written l]) ++
          ((if f.key then methodCall "key" [] else []) ++
            ((if f.auto then methodCall "auto_increment" [] else []) ++ ([")"] ++ rest))))))) := by
    simp only [describedTokens, methodCall, List.append_assoc]
  rw [hcall, hnew, hcolumn, hmarks]
  rfl

theorem runCalls_described (m : EntityMapping) (described : List DescribedField)
    (h : ∀ f ∈ described, ∀ l ∈ f.column, Literal.textContent? l.written = some l.content) :
    runCalls m none (described.flatMap describedTokens ++ methodCall "build" []) =
      some (EntityMapping.build
        { m with fields := m.fields ++ described.map DescribedField.mapping }) := by
  induction described generalizing m with
  | nil =>
    rw [List.map_nil, List.append_nil]
    rfl
  | cons f rest ih =>
    rw [List.forall_mem_cons] at h
    rw [List.flatMap_cons, List.append_assoc, runCalls_describedTokens m _ h.1, ih _ h.2]
    simp

theorem runBuilder_builderTokens {e : Expansion}
    (ht : ∀ l ∈ e.table, Literal.textContent? l.written = some l.content)
    (hd : ∀ f ∈ e.described, ∀ l ∈ f.column, Literal.textContent? l.written = some l.content) :
    runBuilder e.builderTokens = some e.declaration.build := by
  have htokens : tokens ": : builder (" = [":", ":", "builder", "("] := rfl
  have hbuilder (ts : List String) :
      runBuilder (support "EntityMapping" ++ (tokens ": : builder (" ++
        ([Escaped.token e.name, ")"] ++ ts))) = runCalls ⟨e.name, none, []⟩ none ts := by
    rw [support_eq, htokens]
    change (spelled? (Escaped.token e.name)).bind _ = _
    rw [spelled?_token]
    rfl
  have htable (ts : List String) :
      runCalls ⟨e.name, none, []⟩ none
        ((e.table.elim [] fun l => methodCall "table" [written l]) ++ ts) =
      runCalls ⟨e.name, e.table.map TextLiteral.text, []⟩ none ts := by
    cases he : e.table with
    | none => rfl
    | some l =>
      change (spelled? (written l)).bind _ = _
      rw [spelled?_written (ht l he)]
      rfl
  rw [builderTokens]
  simp only [List.append_assoc]
  rw [hbuilder, htable, runCalls_described _ _ hd]
  rfl

theorem runConversions_recordedTokens (record : String → Value) (identifiers : List String) :
    runConversions record (List.intercalate [","] (identifiers.map recordedTokens)) =
      some (identifiers.map record) := by
  have htokens : tokens ": : to_value ( & self ." =
      [":", ":", "to_value", "(", "&", "self", "."] := rfl
  have hown (own : String) (ts : List String) : runConversions record (recordedTokens own ++ ts) =
      runConversions record (["_quarry", ":", ":", "codegen_support", ":", ":", "Primitive", ":",
        ":", "to_value", "(", "&", "self", ".", own, ")"] ++ ts) := by
    rw [recordedTokens, support_eq, htokens]
    rfl
  induction identifiers with
  | nil => rfl
  | cons own rest ih =>
    cases rest with
    | nil =>
      rw [List.map_singleton, List.intercalate_singleton, ← List.append_nil (recordedTokens own), hown]
      rfl
    | cons next rest =>
      rw [List.map_cons, List.map_cons, List.intercalate_cons_cons, ← List.map_cons,
        List.append_assoc, hown]
      change (runConversions record (List.intercalate [","] _)).map (record own :: ·) = _
      rw [ih]
      rfl

end Expansion

end RecordMapper.Declaration
