import RecordMapper.Proofs.Declaration.Marks
import RecordMapper.Proofs.Declaration.Meaning
import RecordMapper.Proofs.Mapping.Build
import RecordMapper.Proofs.Statement.Refusal
/-!
# The code of a declaration agrees with it

Four pieces of code name the fields of a declaration: the description of its mapping, the values of a
record, the record read from a row, and the paths. Each goes through the fields in the order of the
declaration, and all take a field's source and column from its identifier and its attributes alone. So
the mapping that the description builds has a field for each value of a record, in the same place.
-/

namespace RecordMapper.Declaration

open Expansion

def describeItem (own : String) (body : List String) : List String :=
  ["impl"] ++ support "Entity" ++ ["for", own] ++ tokens "\x7b fn describe ( ) - >" ++
    support "Result" ++ ["<"] ++ support "EntityMapping" ++ tokens "> \x7b" ++ body ++
    tokens "\x7d \x7d"

def recordItem (own : String) (values : List String) (loads : List (List String)) : List String :=
  ["impl"] ++ support "Model" ++ ["for", own] ++ tokens "\x7b fn to_record ( & self ) - >" ++
    support "ValueRecord" ++ ["\x7b"] ++ support "ValueRecord" ++ tokens ": : from_vec (" ++
    support "Vec" ++ tokens ": : from ( [" ++ values ++ tokens "] ) ) \x7d" ++
    tokens "fn load ( row : &" ++ support "Row" ++ tokens ") - >" ++ support "Result" ++
    tokens "< Self > \x7b Ok ( Self \x7b" ++ loads.flatten ++ tokens "\x7d ) \x7d \x7d"

def pathsItem (visibility : List TokenTree) (own paths : String) (methods : List (List String)) :
    List String :=
  tokens "# [ derive ( Debug , Clone , Copy ) ]" ++ typeTokens visibility ++
    ["struct", paths, ";", "impl", paths, "\x7b"] ++ methods.flatten ++
    ["\x7d", "impl", own, "\x7b"] ++ typeTokens visibility ++ tokens "fn fields ( ) - >" ++
    [paths, "\x7b", paths] ++ tokens "\x7d \x7d"

/-- The field is read with its own type, from its own column or under its own source. -/
def Field.LoadedBy (f : Field) (code : List String) : Prop :=
  ∃ column source, spelled? column = some f.mapping.column ∧
    spelled? source = some f.mapping.source ∧
    code = [f.identifier, ":"] ++ support "load_field" ++ tokens ": : <" ++ typeTokens f.type ++
      tokens "> ( row ," ++ [column, ",", source] ++ tokens ") ? ,"

/-- The method named as the field gives a path of the field's type to the field's source. -/
def Field.ReachedBy (visibility : List TokenTree) (f : Field) (code : List String) : Prop :=
  ∃ source, spelled? source = some f.mapping.source ∧
    code = typeTokens visibility ++ ["fn", f.identifier] ++ tokens "( & self ) - >" ++
      support "Path" ++ ["<"] ++ typeTokens f.type ++ tokens "> \x7b" ++ support "Path" ++
      tokens ": : new (" ++ [source] ++ tokens ") \x7d"

structure Expansion.Agrees (e : Expansion) (s : Struct) (fields : List Field) : Prop where
  /-- The code is made of a description, which builds the declared mapping, of the values of a record,
  and of the reading of each field and the path to it. -/
  code : ∃ body values loads methods,
    e.allTokens = tokens "const _ : ( ) = \x7b use quarry as _quarry ;" ++
      describeItem s.identifier body ++ recordItem s.identifier values loads ++
      pathsItem s.visibility s.identifier e.pathsName methods ++ tokens "\x7d ;" ∧
    runBuilder body = some e.declaration.build ∧
    (∀ self, runConversions self values = some (e.recordValues self)) ∧
    List.Forall₂ Field.LoadedBy fields loads ∧
    List.Forall₂ (Field.ReachedBy s.visibility) fields methods
  declaration : e.declaration =
    ⟨unraw s.identifier, s.tableLiteral?.map TextLiteral.text, fields.map Field.mapping⟩
  values : ∀ self, e.recordValues self = fields.map fun f => self f.identifier

def Struct.expansion (s : Struct) (fields : List Field) : Expansion where
  visibility := s.visibility
  identifier := s.identifier
  name := unraw s.identifier
  table := s.tableLiteral?
  described := fields.map fun f =>
    ⟨f.mapping.source, f.columnLiteral?, f.mapping.isKey, f.mapping.marksAuto⟩
  recorded := fields.map Field.identifier
  loaded := fields.map fun f => ⟨f.identifier, f.type, f.mapping.column, f.mapping.source⟩
  paths := fields.map fun f => ⟨f.identifier, f.type, f.mapping.source⟩

theorem generate_eq_ok {text : String} {e : Expansion} (h : generate text = .ok e) :
    ∃ s fields, Struct.read text = some s ∧ s.shape = .named fields ∧
      (∀ f ∈ fields, f.marks.2 = []) ∧ e = s.expansion fields := by
  unfold generate at h
  split at h
  · cases h
  rename_i s hread
  split at h
  · cases h
  rename_i m hcheck
  obtain ⟨fields, hshape, hmarks, rfl⟩ := Struct.check_eq_ok hcheck
  refine ⟨s, fields, hread, hshape, hmarks, ?_⟩
  rw [← Except.ok.inj h, DeclaredModel.expansion]
  simp only [List.map_map]
  rfl

namespace Expansion

variable (e : Expansion)

theorem allTokens_eq :
    e.allTokens = tokens "const _ : ( ) = \x7b use quarry as _quarry ;" ++
      describeItem e.identifier e.builderTokens ++
      recordItem e.identifier (List.intercalate [","] (e.recorded.map recordedTokens))
        (e.loaded.map loadedTokens) ++
      pathsItem e.visibility e.identifier e.pathsName (e.paths.map e.pathTokens) ++
      tokens "\x7d ;" := by
  have hentity : e.entityTokens = describeItem e.identifier e.builderTokens := by
    unfold entityTokens builderTokens describeItem
    simp only [List.append_assoc]
  have hmodel : e.modelTokens =
      recordItem e.identifier (List.intercalate [","] (e.recorded.map recordedTokens))
        (e.loaded.map loadedTokens) := by
    unfold modelTokens recordItem
    rw [List.flatMap_def]
  have hfield : e.fieldTokens =
      pathsItem e.visibility e.identifier e.pathsName (e.paths.map e.pathTokens) := by
    unfold fieldTokens pathsItem
    rw [List.flatMap_def]
  unfold allTokens
  rw [hentity, hmodel, hfield]

end Expansion

theorem Field.loadedBy_loadedTokens (f : Field) :
    f.LoadedBy (loadedTokens ⟨f.identifier, f.type, f.mapping.column, f.mapping.source⟩) :=
  ⟨_, _, spelled?_token _, spelled?_token _, rfl⟩

theorem Field.reachedBy_pathTokens (e : Expansion) (f : Field) :
    f.ReachedBy e.visibility (e.pathTokens ⟨f.identifier, f.type, f.mapping.source⟩) :=
  ⟨_, spelled?_token _, rfl⟩

theorem Struct.expansion_agrees (s : Struct) (fields : List Field) :
    (s.expansion fields).Agrees s fields where
  code := by
    refine ⟨_, _, _, _, allTokens_eq _, runBuilder_builderTokens ?_ ?_,
      fun self => runConversions_recordedTokens self _, ?_, ?_⟩
    · intro l hl
      exact Attribute.textContent?_of_findSome? hl
    · intro d hd l hl
      obtain ⟨f, -, rfl⟩ := List.mem_map.1 hd
      exact Attribute.textContent?_of_findSome? hl
    · rw [List.forall₂_map_right_iff, Struct.expansion, List.forall₂_map_right_iff,
        List.forall₂_same]
      intro f hf
      exact f.loadedBy_loadedTokens
    · rw [List.forall₂_map_right_iff, Struct.expansion, List.forall₂_map_right_iff,
        List.forall₂_same]
      intro f hf
      exact f.reachedBy_pathTokens _
  declaration := by
    rw [Expansion.declaration, Struct.expansion, List.map_map]
    rfl
  values := by
    intro self
    rw [recordValues, Struct.expansion, List.map_map]
    rfl

/-- For a declaration that is accepted, the pieces of code agree on its fields, which are keys and
assigned by the store exactly if they are marked so. If the described mapping builds, a record of the
declared type has a value for each of its fields in the same place, and no statement about such records
is refused for the number of their values. -/
theorem expansions_agree {text : String} {e : Expansion} (h : generate text = .ok e) :
    ∃ s fields, Struct.read text = some s ∧ s.shape = .named fields ∧ e.Agrees s fields ∧
      (∀ f ∈ fields,
        (f.mapping.isKey = true ↔ ∃ a ∈ f.attributes, a.name = some "key") ∧
        (f.mapping.isAutoIncrement = true ↔ ∃ a ∈ f.attributes, a.name = some "auto")) ∧
      ∀ m, e.declaration.build = .ok m →
        (∀ self, (e.recordValues self).length = m.fields.length ∧
          m.bindings (e.recordValues self) =
            .ok (fields.map fun f => (f.mapping, self f.identifier))) ∧
        (∀ (d : Dialect) verb self err, d.single verb m (e.recordValues self) = .error err →
          err = Error.ofCause (.noKeyDefined m.name) ∨ err = m.nothingToUpdate) ∧
        ∀ (d : Dialect) verb (selves : List (String → Value)) err,
          d.batch verb m (selves.map e.recordValues) = .error err →
          err = Error.ofCause (.noKeyDefined m.name) ∨
            ∃ i < selves.length, err = Dialect.batchContext i m.nothingToUpdate := by
  obtain ⟨s, fields, hread, hshape, hmarks, rfl⟩ := generate_eq_ok h
  have hagrees := s.expansion_agrees fields
  refine ⟨s, fields, hread, hshape, hagrees, ?_, ?_⟩
  · intro f hf
    refine ⟨Field.carries_eq_true_iff, ?_⟩
    rw [← Field.carries_eq_true_iff, FieldMapping.isAutoIncrement, Bool.and_eq_true]
    exact ⟨And.right, fun hauto => ⟨(Field.marks_eq (hmarks f hf)).2 hauto, hauto⟩⟩
  · intro m hm
    have hfields : m.fields = fields.map Field.mapping := by
      rw [← (EntityMapping.build_eq_ok_iff.1 hm).2, hagrees.declaration]
    have hlength (self : String → Value) :
        m.fields.length = ((s.expansion fields).recordValues self).length := by
      rw [hfields, hagrees.values, List.length_map, List.length_map]
    refine ⟨fun self => ⟨(hlength self).symm, ?_⟩, ?_, ?_⟩
    · rw [EntityMapping.bindings_eq_ok_iff]
      refine ⟨hlength self, ?_⟩
      rw [hfields, hagrees.values, List.zip_map']
    · intro d verb self err herr
      exact Dialect.eq_of_single_error (hlength self) herr
    · intro d verb selves err herr
      have hall : ∀ record ∈ selves.map (s.expansion fields).recordValues,
          m.fields.length = record.length := List.forall_mem_map.2 fun self _ => hlength self
      simpa using Dialect.eq_of_batch_error hall herr

set_option maxRecDepth 100000 in
/-- A raw name that is a key and assigned by the store, and a column whose literal has an escape. -/
theorem expansions_agree_raw_name :
    let text := "struct User \x7b #[key] #[auto] r#type: i64, #[column(\"[a\\x41]\")] name: String \x7d"
    ∃ e s fields, generate text = .ok e ∧ e.Agrees s fields ∧
      fields.map Field.mapping =
        [⟨"type", none, true, true⟩, ⟨"name", some "[aA]", false, false⟩] ∧
      ∃ m, e.declaration.build = .ok m ∧ ∀ self, m.bindings (e.recordValues self) =
        .ok [(⟨"type", none, true, true⟩, self "r#type"),
          (⟨"name", some "[aA]", false, false⟩, self "name")] := by
  intro text
  have hgenerate : ((generate text).toOption.map fun e => (e.recorded, e.declaration)) =
      some (["r#type", "name"],
        ⟨"User", none, [⟨"type", none, true, true⟩, ⟨"name", some "[aA]", false, false⟩]⟩) := by
    decide +kernel
  obtain ⟨e, he, hparts⟩ := Option.map_eq_some_iff.1 hgenerate
  obtain ⟨hrecorded, hdeclaration⟩ := Prod.mk.inj hparts
  have hok : generate text = .ok e := by
    cases hg : generate text with
    | error r =>
      rw [hg] at he
      cases he
    | ok e' =>
      rw [hg] at he
      exact congrArg Except.ok (Option.some.inj he)
  obtain ⟨s, fields, -, -, hagrees, -, hbuilt⟩ := expansions_agree hok
  have hfields : fields.map Field.mapping =
      [⟨"type", none, true, true⟩, ⟨"name", some "[aA]", false, false⟩] :=
    congrArg EntityMapping.fields (hagrees.declaration.symm.trans hdeclaration)
  have hbuild : e.declaration.build = .ok e.declaration := by
    rw [hdeclaration]
    rfl
  refine ⟨e, s, fields, hok, hagrees, hfields, e.declaration, hbuild, fun self => ?_⟩
  obtain ⟨hrecords, -⟩ := hbuilt e.declaration hbuild
  have hpairs : (fields.map fun f => (f.mapping, self f.identifier)) =
      (fields.map Field.mapping).zip (e.recordValues self) := by
    rw [hagrees.values, List.zip_map']
  rw [(hrecords self).2, hpairs, hfields, recordValues, hrecorded]
  rfl

end RecordMapper.Declaration
