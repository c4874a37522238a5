import EmbedSpiceDB.Schema.Reloader

/-! # The refactored reloader

The copy of `internal/schema` kept in `demo/main.go` reads every file through `ReadSchemaFile`,
in the given order, and factors the manifest logic into `schemaFromYAML` and
`readReferencedSchemaFile`. A manifest's schema must hold a non-space character. Its `Reload`
is therefore `ReadSchemaFile` on each file followed by one `WriteSchema` of the joined parts.
-/

namespace EmbedSpiceDB.Schema.Refactored

open Path

section

variable (fs : FileSystem) (decoders : Decoders)

/-- The part of `schemaFromYAML` after `yaml.Unmarshal`: the keys `schema`, `schema_file` and
`schemaFile`. `decodeError` is the error of `DecodeValidationFile`, when it failed. -/
def minimalYAML (yamlFilePath content : String) (decodeError : Option String) : Run String :=
  match decoders.unmarshal content with
  | .error yerr => Run.fail (.parseYAMLFile none (decodeError.getD yerr))
  | .ok m =>
    match stringField m "schema" with
    | some s => pure s
    | none =>
      match stringField m "schema_file" with
      | some ref => readReferencedSchemaFile fs true yamlFilePath ref
      | none =>
        match stringField m "schemaFile" with
        | some ref => readReferencedSchemaFile fs true yamlFilePath ref
        | none =>
          match decodeError with
          | some err => Run.fail (.parseYAMLFile none err)
          | none => Run.fail .noSchemaInYAML

/-- `schemaFromYAML`: the decoded inline schema or reference, else the minimal YAML keys. -/
def schemaFromYAML (yamlFilePath content : String) : Run String :=
  match decoders.decodeValidationFile content with
  | .ok parsed =>
    if parsed.schema ≠ "" then pure parsed.schema
    else if parsed.schemaFile ≠ "" then readReferencedSchemaFile fs true yamlFilePath parsed.schemaFile
    else minimalYAML fs decoders yamlFilePath content none
  | .error err => minimalYAML fs decoders yamlFilePath content (some err)

/-- `ReadSchemaFile`: a manifest must resolve to a schema with a non-space character. -/
def readSchemaFile (filePath : String) : Run String :=
  if isYAML filePath then do
    let content ← readFile fs filePath
    let schema ← schemaFromYAML fs decoders filePath content
    if trimSpace schema = "" then Run.fail .noSchemaInYAML else pure schema
  else readFile fs filePath

/-- The loop of `Reload`: every file through `ReadSchemaFile`, in order. -/
def readSchemaFiles : List String → List String → Run (List String)
  | schemaParts, [] => pure schemaParts
  | schemaParts, filePath :: rest => do
    let content ← (readSchemaFile fs decoders filePath).mapError (.readSchemaFile filePath)
    readSchemaFiles (schemaParts ++ [content]) rest

/-- `SchemaReloader.Reload`, with `reply` answering the `WriteSchema` RPC. -/
def reload (reply : String → Except String Unit) (files : List String) : Run Unit :=
  if files.isEmpty then Run.fail .noSchemaFiles
  else do
    let schemaParts ← readSchemaFiles fs decoders [] files
    let combinedSchema := "\n\n".intercalate schemaParts
    if combinedSchema = "" then Run.fail .noSchemaContent
    else writeSchema reply combinedSchema

/-- The reference `schemaFromYAML` resolves for a manifest with this content, when it reaches one:
`parsed.SchemaFile`, or the `schema_file` or `schemaFile` key of the minimal YAML. -/
def yamlReference (content : String) : Option String :=
  match decoders.decodeValidationFile content with
  | .ok parsed =>
    if parsed.schema ≠ "" then none
    else if parsed.schemaFile ≠ "" then some parsed.schemaFile
    else minimalYAMLReference decoders content
  | .error _ => minimalYAMLReference decoders content

end

/-! ## What the refactored reloader reads -/

section

variable (fs : FileSystem) (decoders : Decoders) {mayWrite : Bool} {files : List String}

theorem schemaFromYAML_permitted {yamlFilePath content : String} (member : yamlFilePath ∈ files)
    (yaml : isYAML yamlFilePath = true) (read : fs yamlFilePath = some content) :
    (schemaFromYAML fs decoders yamlFilePath content).Confined
      (Permitted (yamlReference decoders) fs mayWrite files) := by
  unfold schemaFromYAML minimalYAML
  repeat' split
  all_goals first
    | exact Run.Confined.pure _
    | exact Run.Confined.fail _
    | exact readReferencedSchemaFile_permitted fs true member yaml read
        (by simp_all [yamlReference, minimalYAMLReference])

theorem readSchemaFile_permitted {filePath : String} (member : filePath ∈ files) :
    (readSchemaFile fs decoders filePath).Confined (Permitted (yamlReference decoders) fs mayWrite files) := by
  unfold readSchemaFile
  split
  · rename_i yaml
    refine (readFile_permitted member).bind fun content read =>
      (schemaFromYAML_permitted fs decoders member yaml (readFile_result_ok.mp read)).bind
        fun schema _ => ?_
    split
    · exact Run.Confined.fail _
    · exact Run.Confined.pure _
  · exact readFile_permitted member

theorem readSchemaFiles_permitted (schemaParts : List String) {todo : List String}
    (configured : ∀ file ∈ todo, file ∈ files) :
    (readSchemaFiles fs decoders schemaParts todo).Confined
      (Permitted (yamlReference decoders) fs mayWrite files) := by
  induction todo generalizing schemaParts with
  | nil => exact Run.Confined.pure _
  | cons filePath rest ih =>
    exact ((readSchemaFile_permitted fs decoders (configured _ (List.mem_cons_self _ _))).mapError _).bind
      fun _ _ => ih _ fun file member => configured file (List.mem_cons_of_mem _ member)

/-- A manifest never reads to a blank schema. -/
theorem readSchemaFile_manifest_not_blank {filePath schema : String} (yaml : isYAML filePath = true)
    (ok : (readSchemaFile fs decoders filePath).result = .ok schema) : ¬Blank schema := by
  simp only [readSchemaFile, yaml, if_true] at ok
  obtain ⟨content, -, ok⟩ := Run.bind_eq_ok ok
  obtain ⟨resolved, -, ok⟩ := Run.bind_eq_ok ok
  split at ok
  · simp at ok
  · rename_i notBlank
    simp only [Run.pure_result, Except.ok.injEq] at ok
    subst ok
    rwa [← trimSpace_eq_empty_iff]

/-- Two empty schema files, and a manifest whose inline schema is one space. -/
def blankFiles : FileSystem := fun path =>
  if path = "a.zed" ∨ path = "b.zed" then some "" else if path = "blank.yaml" then some "schema: ' '"
  else none

/-- Decoders that read `schema: ' '` as the validation file with the schema `" "`. -/
def blankDecoders : Decoders where
  decodeValidationFile content :=
    if content = "schema: ' '" then .ok ⟨" ", ""⟩ else .error "not a validation file"
  unmarshal _ := .error "not YAML"

/-- Both reloaders submit the separator `"\n\n"` for two empty files, and the internal
`ReadSchemaFile` returns a blank inline schema that the refactored one rejects. -/
theorem blank_schema_submitted :
    Blank "\n\n" ∧
      (Schema.reload blankFiles blankDecoders (fun _ => .ok ()) ["a.zed", "b.zed"]).writes = ["\n\n"] ∧
      (reload blankFiles blankDecoders (fun _ => .ok ()) ["a.zed", "b.zed"]).writes = ["\n\n"] ∧
      (Schema.readSchemaFile blankFiles blankDecoders "blank.yaml").result = .ok " " ∧
      (readSchemaFile blankFiles blankDecoders "blank.yaml").result = .error .noSchemaInYAML := by
  refine ⟨by decide, by decide, by decide, rfl, rfl⟩

/-! ## `Reload` is `ReadSchemaFile` on each file, in order -/

theorem readSchemaFiles_ok (parts : String → String) (schemaParts : List String) {todo : List String}
    (read : ∀ file ∈ todo, (readSchemaFile fs decoders file).result = .ok (parts file)) :
    (readSchemaFiles fs decoders schemaParts todo).result = .ok (schemaParts ++ todo.map parts) := by
  induction todo generalizing schemaParts with
  | nil => simp [readSchemaFiles]
  | cons filePath rest ih =>
    have first := read filePath (List.mem_cons_self _ _)
    rw [readSchemaFiles, Run.bind_result_ok ((Run.mapError_result_ok_iff _).mpr first),
      ih _ fun file member => read file (List.mem_cons_of_mem _ member)]
    simp

theorem readSchemaFiles_error (schemaParts : List String) {todo : List String} {filePath : String}
    {err : ReloadError} (member : filePath ∈ todo)
    (failed : (readSchemaFile fs decoders filePath).result = .error err) :
    ∃ err', (readSchemaFiles fs decoders schemaParts todo).result = .error err' := by
  induction todo generalizing schemaParts with
  | nil => simp at member
  | cons first rest ih =>
    rw [readSchemaFiles]
    cases read : ((readSchemaFile fs decoders first).mapError (.readSchemaFile first)).result with
    | error err' => exact ⟨err', Run.bind_result_error read _⟩
    | ok content =>
      rw [Run.bind_result_ok read]
      rcases List.mem_cons.mp member with rfl | later
      · simp [Run.mapError, failed] at read
      · exact ih _ later

section

variable {manifest content ref : String}

end

/-- The refactored `Reload` agrees with `ReadSchemaFile` applied to each file in the given order:
when every file reads, it sends exactly one `WriteSchema`, of the parts joined by a blank line
(when that is not empty); when some file fails, it fails and sends nothing. -/
theorem reload_agrees_with_readSchemaFile (reply : String → Except String Unit)
    {files : List String} (nonempty : files ≠ []) :
    (∀ parts : String → String, (∀ file ∈ files, (readSchemaFile fs decoders file).result = .ok (parts file)) →
      "\n\n".intercalate (files.map parts) ≠ "" →
        (reload fs decoders reply files).writes = ["\n\n".intercalate (files.map parts)]) ∧
    (∀ file ∈ files, ∀ err, (readSchemaFile fs decoders file).result = .error err →
      (∃ err', (reload fs decoders reply files).result = .error err') ∧
        (reload fs decoders reply files).writes = []) := by
  have notEmpty : files.isEmpty = false := by simpa using nonempty
  have confined : (readSchemaFiles fs decoders [] files).Confined
      (Permitted (yamlReference decoders) fs false files) :=
    readSchemaFiles_permitted fs decoders [] fun _ member => member
  have readOnly := confined.writes_eq_nil
  refine ⟨fun parts read joined => ?_, fun file member err failed => ?_⟩
  · have ok := readSchemaFiles_ok fs decoders parts [] read
    simp only [List.nil_append] at ok
    simp only [reload, notEmpty, Bool.false_eq_true, if_false]
    rw [Run.writes_bind_ok ok, readOnly]
    simp [joined, Run.writes, writeSchema]
  · obtain ⟨err', failed'⟩ := readSchemaFiles_error fs decoders [] member failed
    simp [reload, notEmpty, Run.bind_result_error failed', Run.writes_bind_error failed', readOnly]

theorem mixed_files_reload_in_order :
    ["a.yaml", "b.zed"] ≠ [] ∧
      (∀ parts : String → String, (∀ file ∈ ["a.yaml", "b.zed"],
          (readSchemaFile mixedFiles inlineDecoders file).result = .ok (parts file)) →
        "\n\n".intercalate (["a.yaml", "b.zed"].map parts) ≠ "" →
          (reload mixedFiles inlineDecoders (fun _ => .ok ()) ["a.yaml", "b.zed"]).writes =
            ["\n\n".intercalate (["a.yaml", "b.zed"].map parts)]) ∧
      (∀ file ∈ ["a.yaml", "b.zed"], ∀ err, (readSchemaFile mixedFiles inlineDecoders file).result = .error err →
        (∃ err', (reload mixedFiles inlineDecoders (fun _ => .ok ()) ["a.yaml", "b.zed"]).result = .error err') ∧
          (reload mixedFiles inlineDecoders (fun _ => .ok ()) ["a.yaml", "b.zed"]).writes = []) :=
  ⟨by simp, reload_agrees_with_readSchemaFile mixedFiles inlineDecoders (fun _ => .ok ()) (by simp)⟩

end

end EmbedSpiceDB.Schema.Refactored

namespace EmbedSpiceDB.Schema

open Path

end EmbedSpiceDB.Schema
