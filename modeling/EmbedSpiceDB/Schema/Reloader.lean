import EmbedSpiceDB.Schema.Run

/-! # `internal/schema/reloader.go`

`Reload` reads the configured files in two passes: the plain schema files at once, in order, and
the YAML manifests after all of them, in order. The parts are joined with a blank line and
submitted with one `WriteSchema` call. `ReadSchemaFile` resolves one file on its own. Both take a
manifest's inline schema, or read its reference through the same guard; their fallbacks differ.
-/

namespace EmbedSpiceDB.Schema

open Path

section

variable (fs : FileSystem) (decoders : Decoders)

/-- The first loop of `Reload`: a plain file is read into `schemaParts` at once, a manifest is set
aside in `yamlFiles` for the second loop. -/
def readPlainFiles : List String → List String → List String → Run (List String × List String)
  | schemaParts, yamlFiles, [] => pure (schemaParts, yamlFiles)
  | schemaParts, yamlFiles, filePath :: rest =>
    if isYAML filePath then readPlainFiles schemaParts (yamlFiles ++ [filePath]) rest
    else do
      let content ← (readFile fs filePath).mapError (.readSchemaFile filePath)
      readPlainFiles (schemaParts ++ [content]) yamlFiles rest

/-- One manifest of `Reload`'s second loop: the part it appends, if any. -/
def manifestPart (yamlFile : String) : Run (Option String) := do
  let content ← (readFile fs yamlFile).mapError (.readYAMLFile yamlFile)
  match decoders.decodeValidationFile content with
  | .error err =>
    match decoders.unmarshal content with
    | .error _ => Run.fail (.parseYAMLFile (some yamlFile) err)
    | .ok m =>
      match stringField m "schema" with
      | some s => pure (some s)
      | none =>
        match stringField m "schema_file" with
        | some ref => some <$> readReferencedSchemaFile fs true yamlFile ref
        | none => Run.fail (.parseYAMLFile (some yamlFile) err)
  | .ok parsed =>
    if parsed.schema ≠ "" then pure (some parsed.schema)
    else if parsed.schemaFile ≠ "" then
      some <$> readReferencedSchemaFile fs true yamlFile parsed.schemaFile
    else
      match decoders.unmarshal content with
      | .ok m =>
        match stringField m "schema_file" with
        | some ref => some <$> readReferencedSchemaFile fs true yamlFile ref
        | none => pure none
      | .error _ => pure none

/-- The second loop of `Reload`, over the manifests set aside by the first. -/
def readManifests : List String → List String → Run (List String)
  | schemaParts, [] => pure schemaParts
  | schemaParts, yamlFile :: rest => do
    let part ← manifestPart fs decoders yamlFile
    readManifests (schemaParts ++ part.toList) rest

/-- `SchemaReloader.Reload`, with `reply` answering the `WriteSchema` RPC. -/
def reload (reply : String → Except String Unit) (files : List String) : Run Unit :=
  if files.isEmpty then Run.fail .noSchemaFiles
  else do
    let (schemaParts, yamlFiles) ← readPlainFiles fs [] [] files
    let schemaParts ← readManifests fs decoders schemaParts yamlFiles
    let combinedSchema := "\n\n".intercalate schemaParts
    if combinedSchema = "" then Run.fail .noSchemaContent
    else writeSchema reply combinedSchema

/-- `ReadSchemaFile`. -/
def readSchemaFile (filePath : String) : Run String :=
  if isYAML filePath then do
    let content ← readFile fs filePath
    match decoders.decodeValidationFile content with
    | .error err =>
      match decoders.unmarshal content with
      | .error _ => Run.fail (.parseYAMLFile none err)
      | .ok m =>
        match stringField m "schema" with
        | some s => pure s
        | none =>
          match stringField m "schema_file" with
          | some ref => readReferencedSchemaFile fs false filePath ref
          | none =>
            match stringField m "schemaFile" with
            | some ref => readReferencedSchemaFile fs false filePath ref
            | none => Run.fail (.parseYAMLFile none err)
    | .ok parsed =>
      if parsed.schema ≠ "" then pure parsed.schema
      else if parsed.schemaFile ≠ "" then
        readReferencedSchemaFile fs false filePath parsed.schemaFile
      else
        match decoders.unmarshal content with
        | .ok m =>
          match stringField m "schema_file" with
          | some ref => readReferencedSchemaFile fs false filePath ref
          | none => Run.fail .noSchemaInYAML
        | .error _ => Run.fail .noSchemaInYAML
  else readFile fs filePath

end

/-! ## The reference a manifest names -/

section

variable (decoders : Decoders)

/-- The reference the minimal-YAML fallback resolves, when it reaches one: the `schema_file` key,
else the `schemaFile` key, of a manifest without an inline `schema` key. -/
def minimalYAMLReference (content : String) : Option String :=
  match decoders.unmarshal content with
  | .error _ => none
  | .ok m =>
    match stringField m "schema" with
    | some _ => none
    | none =>
      match stringField m "schema_file" with
      | some ref => some ref
      | none => stringField m "schemaFile"

/-- The reference `Reload`'s second loop resolves for a manifest with this content, when it
reaches one: `parsed.SchemaFile`, or the `schema_file` key of its fallbacks. -/
def manifestReference (content : String) : Option String :=
  match decoders.decodeValidationFile content with
  | .error _ =>
    match decoders.unmarshal content with
    | .error _ => none
    | .ok m =>
      match stringField m "schema" with
      | some _ => none
      | none => stringField m "schema_file"
  | .ok parsed =>
    if parsed.schema ≠ "" then none
    else if parsed.schemaFile ≠ "" then some parsed.schemaFile
    else
      match decoders.unmarshal content with
      | .ok m => stringField m "schema_file"
      | .error _ => none

/-- The reference `ReadSchemaFile` resolves for a manifest with this content, when it reaches one:
`parsed.SchemaFile`, the `schema_file` key of its second fallback, or the `schema_file` or
`schemaFile` key of its first. -/
def fileReference (content : String) : Option String :=
  match decoders.decodeValidationFile content with
  | .error _ => minimalYAMLReference decoders content
  | .ok parsed =>
    if parsed.schema ≠ "" then none
    else if parsed.schemaFile ≠ "" then some parsed.schemaFile
    else
      match decoders.unmarshal content with
      | .ok m => stringField m "schema_file"
      | .error _ => none

end

/-! ## What a reload reads -/

section

variable (fs : FileSystem) (decoders : Decoders) {mayWrite : Bool} {files : List String}

theorem readPlainFiles_permitted (schemaParts yamlFiles : List String) {todo : List String}
    (configured : ∀ file ∈ todo, file ∈ files) :
    (readPlainFiles fs schemaParts yamlFiles todo).Confined
      (Permitted (manifestReference decoders) fs mayWrite files) := by
  induction todo generalizing schemaParts yamlFiles with
  | nil => exact Run.Confined.pure _
  | cons filePath rest ih =>
    have later := fun file member => configured file (List.mem_cons_of_mem _ member)
    unfold readPlainFiles
    split
    · exact ih _ _ later
    · exact ((readFile_permitted (configured _ (List.mem_cons_self _ _))).mapError _).bind
        fun _ _ => ih _ _ later

/-- The first loop sets aside exactly the manifests, in order. -/
theorem readPlainFiles_manifests {schemaParts yamlFiles todo parts manifests : List String}
    (ok : (readPlainFiles fs schemaParts yamlFiles todo).result = .ok (parts, manifests)) :
    manifests = yamlFiles ++ todo.filter isYAML := by
  induction todo generalizing schemaParts yamlFiles with
  | nil =>
    simp only [readPlainFiles, Run.pure_result, Except.ok.injEq, Prod.mk.injEq] at ok
    simp [ok.2]
  | cons filePath rest ih =>
    unfold readPlainFiles at ok
    split at ok
    · simp [ih ok, List.filter_cons, *]
    · obtain ⟨content, -, later⟩ := Run.bind_eq_ok ok
      simp [ih later, List.filter_cons, *]

theorem manifestPart_permitted {yamlFile : String} (member : yamlFile ∈ files)
    (yaml : isYAML yamlFile = true) :
    (manifestPart fs decoders yamlFile).Confined (Permitted (manifestReference decoders) fs mayWrite files) := by
  unfold manifestPart
  refine ((readFile_permitted member).mapError _).bind fun content read => ?_
  rw [Run.mapError_result_ok_iff, readFile_result_ok] at read
  repeat' split
  all_goals first
    | exact Run.Confined.pure _
    | exact Run.Confined.fail _
    | exact (readReferencedSchemaFile_permitted fs true member yaml read
        (by simp_all [manifestReference])).map _

theorem readManifests_permitted (schemaParts : List String) {yamlFiles : List String}
    (manifests : ∀ yamlFile ∈ yamlFiles, yamlFile ∈ files ∧ isYAML yamlFile = true) :
    (readManifests fs decoders schemaParts yamlFiles).Confined
      (Permitted (manifestReference decoders) fs mayWrite files) := by
  induction yamlFiles generalizing schemaParts with
  | nil => exact Run.Confined.pure _
  | cons yamlFile rest ih =>
    obtain ⟨member, yaml⟩ := manifests yamlFile (List.mem_cons_self _ _)
    exact (manifestPart_permitted fs decoders member yaml).bind fun _ _ =>
      ih _ fun other later => manifests other (List.mem_cons_of_mem _ later)

/-- `ReadSchemaFile` reads only its file and what a manifest references inside its directory. -/
theorem readSchemaFile_permitted (filePath : String) :
    (readSchemaFile fs decoders filePath).Confined (Permitted (fileReference decoders) fs false [filePath]) := by
  have member : filePath ∈ [filePath] := List.mem_singleton_self _
  unfold readSchemaFile
  split
  · rename_i yaml
    refine (readFile_permitted member).bind fun content read => ?_
    rw [readFile_result_ok] at read
    repeat' split
    all_goals first
      | exact Run.Confined.pure _
      | exact Run.Confined.fail _
      | exact readReferencedSchemaFile_permitted fs false member yaml read
          (by simp_all [fileReference, minimalYAMLReference])
  · exact readFile_permitted member

/-! ## A reference that escapes -/

variable {manifest content ref : String}

/-- `Reload` sends at most one `WriteSchema`, and never of the empty document. -/
theorem reload_writes (reply : String → Except String Unit) (files : List String) :
    (reload fs decoders reply files).writes = [] ∨
      ∃ schema, schema ≠ "" ∧ (reload fs decoders reply files).writes = [schema] := by
  unfold reload
  split
  · exact .inl rfl
  cases plain : (readPlainFiles fs [] [] files).result with
  | error err => exact .inl (by rw [Run.writes_bind_error plain,
      (readPlainFiles_permitted fs decoders [] [] fun _ member => member).writes_eq_nil])
  | ok split =>
    obtain ⟨parts, manifests⟩ := split
    have setAside := readPlainFiles_manifests fs plain
    rw [Run.writes_bind_ok plain,
      (readPlainFiles_permitted fs decoders [] [] fun _ member => member).writes_eq_nil, List.nil_append]
    have manifestsRead : (readManifests fs decoders parts manifests).Confined
        (Permitted (manifestReference decoders) fs false files) :=
      readManifests_permitted fs decoders parts fun yamlFile member => by
        simpa [setAside] using member
    cases read : (readManifests fs decoders parts manifests).result with
    | error err => exact .inl (by simp only [Run.writes_bind_error read, manifestsRead.writes_eq_nil])
    | ok schemaParts =>
      rw [Run.writes_bind_ok read, manifestsRead.writes_eq_nil, List.nil_append]
      dsimp only
      split
      · exact .inl rfl
      · exact .inr ⟨_, ‹_›, by simp [Run.writes, writeSchema]⟩

end

/-! ## Reload against `ReadSchemaFile` -/

/-- A manifest with an inline schema `A` next to a plain file holding `B`. -/
def mixedFiles : FileSystem := fun path =>
  if path = "a.yaml" then some "schema: A" else if path = "b.zed" then some "B" else none

/-- Decoders that read `schema: A` as the validation file with schema `A`. -/
def inlineDecoders : Decoders where
  decodeValidationFile content :=
    if content = "schema: A" then .ok ⟨"A", ""⟩ else .error "not a validation file"
  unmarshal _ := .error "not YAML"

/-- `ReadSchemaFile` reads `a.yaml` as `A` and `b.zed` as `B`, so the document in the given
order is `A`, a blank line, `B`; `Reload` submits `B` first, having moved the manifest last. -/
theorem reload_moves_manifests_last :
    (readSchemaFile mixedFiles inlineDecoders "a.yaml").result = .ok "A" ∧
      (readSchemaFile mixedFiles inlineDecoders "b.zed").result = .ok "B" ∧
      (reload mixedFiles inlineDecoders (fun _ => .ok ()) ["a.yaml", "b.zed"]).effects =
        [.readFile "b.zed", .readFile "a.yaml", .writeSchema "B\n\nA"] := by
  refine ⟨rfl, rfl, ?_⟩
  decide

end EmbedSpiceDB.Schema
