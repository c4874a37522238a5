import EmbedSpiceDB.Path

/-! # Reload computations: reads, `WriteSchema` and errors

A reload runs against a read-only file system. `Run` records each file it reads and each
`WriteSchema` request it sends, in order, beside its result, so that statements about a reload
speak of what it did and not only of what it returned. Errors are one constructor per
`fmt.Errorf` of `internal/schema/reloader.go`. YAML decoding is a parameter: `Decoders` holds
`validationfile.DecodeValidationFile` and `yaml.Unmarshal` as arbitrary functions.
-/

namespace EmbedSpiceDB.Schema

open Path

/-- The files a reload can read: the content of each readable path. -/
abbrev FileSystem := String → Option String

/-- What a reload does outside itself. -/
inductive Effect where
  /-- `os.ReadFile(path)`, or `os.Open` followed by `io.ReadAll`. -/
  | readFile (path : String)
  /-- `schemaClient.WriteSchema(ctx, &v1.WriteSchemaRequest{Schema: schema})`. -/
  | writeSchema (schema : String)
deriving DecidableEq, Repr

/-- The errors a reload returns; `cause` is what `%w` wraps. -/
inductive ReloadError where
  /-- The `*fs.PathError` of `os.ReadFile` or `os.Open`. -/
  | pathError (path : String)
  /-- `no schema files configured` -/
  | noSchemaFiles
  /-- `failed to read schema file %s: %w` -/
  | readSchemaFile (path : String) (cause : ReloadError)
  /-- `failed to read YAML file %s: %w` -/
  | readYAMLFile (path : String) (cause : ReloadError)
  /-- `failed to parse YAML file %s: %w`; `ReadSchemaFile` leaves out the path. -/
  | parseYAMLFile (path : Option String) (cause : String)
  /-- `schema file %q is not local` -/
  | notLocal (ref : String)
  /-- `failed to read referenced schema file %s: %w`; `ReadSchemaFile` leaves out the path. -/
  | readReferenced (path : Option String) (cause : ReloadError)
  /-- `no schema found in YAML file` -/
  | noSchemaInYAML
  /-- `no schema content found in files` -/
  | noSchemaContent
  /-- `failed to write schema: %w` -/
  | writeSchema (cause : String)
deriving DecidableEq, Repr

/-- A reload step: the effects it performed, in order, and its result. -/
structure Run (α : Type) where
  effects : List Effect
  result : Except ReloadError α

namespace Run

variable {α β : Type}

instance : Monad Run where
  pure value := ⟨[], .ok value⟩
  bind run next :=
    match run.result with
    | .ok value => ⟨run.effects ++ (next value).effects, (next value).result⟩
    | .error err => ⟨run.effects, .error err⟩

/-- `return "", err`: stop with an error and do nothing more. -/
def fail (err : ReloadError) : Run α := ⟨[], .error err⟩

/-- `fmt.Errorf("...: %w", err)` around a step: the same effects, the error rewrapped. -/
def mapError (wrap : ReloadError → ReloadError) (run : Run α) : Run α :=
  ⟨run.effects, match run.result with
    | .ok value => .ok value
    | .error err => .error (wrap err)⟩

@[simp] theorem pure_effects (value : α) : (pure value : Run α).effects = [] := rfl
@[simp] theorem pure_result (value : α) : (pure value : Run α).result = .ok value := rfl
@[simp] theorem fail_effects (err : ReloadError) : (fail err : Run α).effects = [] := rfl
@[simp] theorem fail_result (err : ReloadError) : (fail err : Run α).result = .error err := rfl
@[simp] theorem mapError_effects (wrap : ReloadError → ReloadError) (run : Run α) :
    (run.mapError wrap).effects = run.effects := rfl

theorem bind_ok {run : Run α} {value : α} (ok : run.result = .ok value) (next : α → Run β) :
    run >>= next = ⟨run.effects ++ (next value).effects, (next value).result⟩ := by
  show (match run.result with
    | .ok value => _
    | .error err => _) = _
  rw [ok]

theorem bind_error {run : Run α} {err : ReloadError} (failed : run.result = .error err)
    (next : α → Run β) : run >>= next = ⟨run.effects, .error err⟩ := by
  show (match run.result with
    | .ok value => _
    | .error err => _) = _
  rw [failed]

theorem bind_eq_ok {run : Run α} {next : α → Run β} {value : β}
    (ok : (run >>= next).result = .ok value) :
    ∃ first, run.result = .ok first ∧ (next first).result = .ok value := by
  cases first : run.result with
  | ok first' => exact ⟨first', rfl, by simpa [bind_ok first] using ok⟩
  | error err => simp [bind_error first] at ok

theorem bind_result_ok {run : Run α} {value : α} (ok : run.result = .ok value) (next : α → Run β) :
    (run >>= next).result = (next value).result := by
  rw [bind_ok ok]

theorem bind_result_error {run : Run α} {err : ReloadError} (failed : run.result = .error err)
    (next : α → Run β) : (run >>= next).result = .error err := by
  rw [bind_error failed]

@[simp] theorem mapError_result_ok_iff {run : Run α} {value : α} (wrap : ReloadError → ReloadError) :
    (run.mapError wrap).result = .ok value ↔ run.result = .ok value := by
  unfold mapError
  split <;> simp_all

@[simp] theorem map_effects (f : α → β) (run : Run α) : (f <$> run).effects = run.effects := by
  show (run >>= fun value => pure (f value)).effects = _
  cases ok : run.result with
  | ok value => simp [bind_ok ok]
  | error err => simp [bind_error ok]

theorem map_ok {run : Run α} {value : α} (ok : run.result = .ok value) (f : α → β) :
    (f <$> run).result = .ok (f value) := by
  show (run >>= fun value => pure (f value)).result = _
  simp [bind_ok ok]

@[simp] theorem map_fail (f : α → β) (err : ReloadError) : f <$> (fail err : Run α) = fail err := rfl

/-- Every effect of a run is allowed. -/
def Confined (allowed : Effect → Prop) (run : Run α) : Prop :=
  ∀ effect ∈ run.effects, allowed effect

variable {allowed : Effect → Prop}

theorem Confined.pure (value : α) : Confined allowed (Pure.pure value : Run α) := by
  simp [Confined]

theorem Confined.fail (err : ReloadError) : Confined allowed (Run.fail err : Run α) := by
  simp [Confined]

theorem Confined.bind {run : Run α} {next : α → Run β} (first : Confined allowed run)
    (rest : ∀ value, run.result = .ok value → Confined allowed (next value)) :
    Confined allowed (run >>= next) := by
  cases ok : run.result with
  | ok value =>
    rw [bind_ok ok]
    intro effect member
    rcases List.mem_append.mp member with early | late
    · exact first effect early
    · exact rest value ok effect late
  | error err => rw [bind_error ok]; exact first

theorem Confined.mapError {run : Run α} (confined : Confined allowed run)
    (wrap : ReloadError → ReloadError) : Confined allowed (run.mapError wrap) := confined

theorem Confined.map {run : Run α} (confined : Confined allowed run) (f : α → β) :
    Confined allowed (f <$> run) := by
  simpa [Confined] using confined

theorem Confined.mono {run : Run α} {weaker : Effect → Prop} (confined : Confined allowed run)
    (implies : ∀ effect, allowed effect → weaker effect) : Confined weaker run :=
  fun effect member => implies effect (confined effect member)

/-- The documents a run sent with `WriteSchema`, in order. -/
def writes (run : Run α) : List String :=
  run.effects.filterMap fun
    | .writeSchema schema => some schema
    | .readFile _ => none

theorem writes_bind_ok {run : Run α} {value : α} (ok : run.result = .ok value) (next : α → Run β) :
    (run >>= next).writes = run.writes ++ (next value).writes := by
  simp [writes, bind_ok ok]

theorem writes_bind_error {run : Run α} {err : ReloadError} (failed : run.result = .error err)
    (next : α → Run β) : (run >>= next).writes = run.writes := by
  simp [writes, bind_error failed]

end Run

/-- `os.ReadFile(path)`: one read, failing with the path error when the file is unreadable. -/
def readFile (fs : FileSystem) (path : String) : Run String :=
  ⟨[.readFile path], match fs path with
    | some content => .ok content
    | none => .error (.pathError path)⟩

/-- The `WriteSchema` RPC, answered by `reply`; a failure becomes `failed to write schema`. -/
def writeSchema (reply : String → Except String Unit) (schema : String) : Run Unit :=
  ⟨[.writeSchema schema], match reply schema with
    | .ok () => .ok ()
    | .error err => .error (.writeSchema err)⟩

/-! ## YAML manifests -/

/-- The fields of a decoded `validationfile.ValidationFile` the reloader reads. -/
structure ValidationFile where
  /-- `parsed.Schema.Schema` -/
  schema : String
  /-- `parsed.SchemaFile` -/
  schemaFile : String
deriving DecidableEq, Repr

/-- A value of the `map[string]any` that `yaml.Unmarshal` fills: a string, or anything else. -/
inductive YAMLValue where
  | string (value : String)
  | other
deriving DecidableEq, Repr

/-- The two YAML decoders the reloader calls, each an arbitrary function of the file content. -/
structure Decoders where
  decodeValidationFile : String → Except String ValidationFile
  unmarshal : String → Except String (String → Option YAMLValue)

/-- `unicode.IsSpace`: the Latin-1 spaces, and above Latin-1 the other `White_Space` characters. -/
def isSpace (c : Char) : Bool :=
  if c.val ≤ 0xFF then
    c.val == 0x09 || c.val == 0x0A || c.val == 0x0B || c.val == 0x0C || c.val == 0x0D ||
      c.val == 0x20 || c.val == 0x85 || c.val == 0xA0
  else
    c.val == 0x1680 || (0x2000 ≤ c.val && c.val ≤ 0x200A) || c.val == 0x2028 ||
      c.val == 0x2029 || c.val == 0x202F || c.val == 0x205F || c.val == 0x3000

/-- `strings.TrimSpace`: drop leading and trailing spaces. -/
def trimSpace (s : String) : String :=
  ⟨((s.data.dropWhile isSpace).reverse.dropWhile isSpace).reverse⟩

/-- A string with no character other than spaces. -/
def Blank (s : String) : Prop := ∀ c ∈ s.data, isSpace c = true

instance : DecidablePred Blank := fun s => inferInstanceAs (Decidable (∀ c ∈ s.data, isSpace c = true))

/-- `strings.TrimSpace(s) == ""` says exactly that `s` is blank. -/
theorem trimSpace_eq_empty_iff (s : String) : trimSpace s = "" ↔ Blank s := by
  have dropped : ∀ chars : List Char, chars.dropWhile isSpace = [] ↔ ∀ c ∈ chars, isSpace c = true :=
    fun chars => List.dropWhile_eq_nil_iff
  have trimmed : trimSpace s = "" ↔ (s.data.dropWhile isSpace).reverse.dropWhile isSpace = [] := by
    constructor
    · intro empty
      simpa [trimSpace] using congrArg String.data empty
    · intro empty
      simp only [trimSpace, empty, List.reverse_nil]
  rw [trimmed, dropped, Blank, ← dropped s.data]
  simp only [List.mem_reverse]
  constructor
  · intro spaces
    cases rest : s.data.dropWhile isSpace with
    | nil => rfl
    | cons c more =>
      have notSpace := List.head_dropWhile_not isSpace s.data (by simp [rest])
      simp only [rest, List.head_cons] at notSpace
      simp [rest, notSpace] at spaces
  · intro empty
    simp [empty]

/-- `m[key]` when it is a string with a non-space character:
`if v, ok := m[key]; ok { if s, ok := v.(string); ok && strings.TrimSpace(s) != "" { ... } }`. -/
def stringField (m : String → Option YAMLValue) (key : String) : Option String :=
  match m key with
  | some (.string s) => if trimSpace s ≠ "" then some s else none
  | _ => none

/-- `ext == ".yaml" || ext == ".yml"` for `ext := strings.ToLower(filepath.Ext(filePath))`. Only the
ASCII capitals lower to the letters of `.yaml` and `.yml`, so ASCII lowering decides the test. -/
def isYAML (filePath : String) : Bool :=
  let ext := (ext filePath).data.map Char.toLower
  ext == ".yaml".data || ext == ".yml".data

/-- The reference guard at each manifest branch (`readReferencedSchemaFile` in the refactored
reloader; inline at seven sites of `internal/schema/reloader.go`): reject a reference that is
not `filepath.IsLocal`, else read `filepath.Join(filepath.Dir(manifest), ref)`. `ReadSchemaFile`
in `internal/schema` leaves the path out of its read error (`withPath = false`). -/
def readReferencedSchemaFile (fs : FileSystem) (withPath : Bool) (manifest ref : String) :
    Run String :=
  if !isLocal ref then Run.fail (.notLocal ref)
  else
    let schemaPath := join (dir manifest) ref
    (readFile fs schemaPath).mapError (.readReferenced (if withPath then some schemaPath else none))

/-- A path a manifest reads through its own reference: `filepath.Join(filepath.Dir(manifest), ref)`
for the reference `ref` that `reference`, the reader's parse of a manifest, finds in the manifest's
content; `ref` is local and the path lies inside the manifest's directory. -/
def Referenced (reference : String → Option String) (fs : FileSystem) (manifest path : String) : Prop :=
  ∃ content ref, fs manifest = some content ∧ reference content = some ref ∧ isLocal ref = true ∧
    path = join (dir manifest) ref ∧ Within (dir manifest) path

/-- The effects a reload of `files` may have: reading a configured file, reading the file that a
configured manifest references, by `reference`, inside its own directory, and `WriteSchema` when
`mayWrite`. -/
def Permitted (reference : String → Option String) (fs : FileSystem) (mayWrite : Bool)
    (files : List String) : Effect → Prop
  | .readFile path =>
    path ∈ files ∨ ∃ manifest ∈ files, isYAML manifest = true ∧ Referenced reference fs manifest path
  | .writeSchema _ => mayWrite = true

section

variable {reference : String → Option String} {fs : FileSystem}

/-- A run that may not write sends no `WriteSchema`. -/
theorem Run.Confined.writes_eq_nil {α : Type} {run : Run α} {files : List String}
    (confined : run.Confined (Permitted reference fs false files)) : run.writes = [] := by
  rw [Run.writes, List.filterMap_eq_nil_iff]
  intro effect member
  cases effect with
  | readFile path => rfl
  | writeSchema schema => exact absurd (confined _ member) (by simp [Permitted])

@[simp] theorem readFile_effects (path : String) : (readFile fs path).effects = [.readFile path] := rfl

@[simp] theorem readFile_result_ok {path content : String} :
    (readFile fs path).result = .ok content ↔ fs path = some content := by
  unfold readFile
  split <;> simp_all

theorem readFile_permitted {mayWrite : Bool} {files : List String} {path : String}
    (member : path ∈ files) : (readFile fs path).Confined (Permitted reference fs mayWrite files) := by
  intro effect read
  simp only [readFile, List.mem_singleton] at read
  subst read
  exact .inl member

end

/-- The only file the guard reads is the joined path of a local reference, inside the manifest's
directory. -/
theorem readReferencedSchemaFile_confined (fs : FileSystem) (withPath : Bool) (manifest ref : String) :
    (readReferencedSchemaFile fs withPath manifest ref).Confined
      (fun effect => effect = .readFile (join (dir manifest) ref) ∧ isLocal ref = true ∧
        Within (dir manifest) (join (dir manifest) ref)) := by
  unfold readReferencedSchemaFile
  split
  · exact Run.Confined.fail _
  · rename_i isLocalRef
    simp only [Bool.not_eq_true', Bool.not_eq_false] at isLocalRef
    intro effect member
    simp only [Run.mapError_effects, readFile, List.mem_singleton] at member
    exact ⟨member, isLocalRef, within_join (clean_ne_empty _) isLocalRef⟩

/-- The guard on a manifest's own reference reads only what `Permitted` allows. -/
theorem readReferencedSchemaFile_permitted {reference : String → Option String} (fs : FileSystem)
    (withPath : Bool) {mayWrite : Bool} {files : List String} {manifest content ref : String}
    (member : manifest ∈ files) (yaml : isYAML manifest = true) (read : fs manifest = some content)
    (parsed : reference content = some ref) :
    (readReferencedSchemaFile fs withPath manifest ref).Confined (Permitted reference fs mayWrite files) :=
  (readReferencedSchemaFile_confined fs withPath manifest ref).mono fun _ ⟨joined, isLocalRef, inside⟩ =>
    joined ▸ Or.inr ⟨manifest, member, yaml, content, ref, read, parsed, isLocalRef, rfl, inside⟩

end EmbedSpiceDB.Schema
