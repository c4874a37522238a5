import EmbedSpiceDB.Schema.Run
import EmbedSpiceDB.Server.Lifecycle

/-! # `Config` and `New`

`New` applies `WithDefaults`, then `Validate`, which collects every failed check of the
configuration, then `createDatastore`. `Validate` trims and lowercases `DatastoreType` before it
compares it; `createDatastore` only lowercases it. Lowercasing is on ASCII letters here: Go's
`ToLower` also maps the Kelvin sign to `k` and `İ` to `i`, letters none of the datastore names
holds, so the comparisons come out the same.
-/

namespace EmbedSpiceDB.Server

open Schema

/-- The fields of `Config` that `New` reads; durations are in nanoseconds. -/
structure Config where
  schemaFiles : List String
  grpcAddress : String
  httpEnabled : Bool
  httpAddress : String
  presharedKey : String
  watchDebounce : Int
  revisionQuantization : Int
  gcWindow : Int
  datastoreType : String
  datastoreURI : String
  healthCheckEnabled : Bool
  healthCheckAddress : String
deriving DecidableEq, Repr

namespace Config

/-- `DefaultConfig`. -/
def defaultConfig : Config where
  schemaFiles := []
  grpcAddress := ":50051"
  httpEnabled := false
  httpAddress := ":8443"
  presharedKey := "dev-key"
  watchDebounce := 500000000
  revisionQuantization := 5000000000
  gcWindow := 86400000000000
  datastoreType := "memdb"
  datastoreURI := ""
  healthCheckEnabled := false
  healthCheckAddress := "127.0.0.1:0"

/-- `WithDefaults`. Each of its `if`s reads only the field it sets and the `Enabled` flags, which
none of them sets, so it sets each field on its own. -/
def withDefaults (c : Config) : Config :=
  { c with
    grpcAddress := if c.grpcAddress = "" then ":50051" else c.grpcAddress
    presharedKey := if c.presharedKey = "" then "dev-key" else c.presharedKey
    watchDebounce := if c.watchDebounce = 0 then 500000000 else c.watchDebounce
    revisionQuantization := if c.revisionQuantization = 0 then 5000000000 else c.revisionQuantization
    gcWindow := if c.gcWindow = 0 then 86400000000000 else c.gcWindow
    httpAddress := if c.httpAddress = "" && c.httpEnabled then ":8443" else c.httpAddress
    datastoreType := if c.datastoreType = "" then "memdb" else c.datastoreType
    healthCheckAddress :=
      if c.healthCheckAddress = "" && c.healthCheckEnabled then "127.0.0.1:0" else c.healthCheckAddress }

end Config

/-- An error `Validate` collects, with the field it names. -/
inductive ConfigError where
  /-- `GRPCAddress must not be empty` -/
  | grpcAddressEmpty
  /-- `GRPCAddress %q is invalid: %w` -/
  | grpcAddressInvalid (address cause : String)
  /-- `HTTPAddress must not be empty when HTTPEnabled is true` -/
  | httpAddressEmpty
  /-- `HTTPAddress %q is invalid: %w` -/
  | httpAddressInvalid (address cause : String)
  /-- `PresharedKey must not be empty` -/
  | presharedKeyEmpty
  /-- `DatastoreURI must not be empty when DatastoreType is %q` -/
  | datastoreURIEmpty (datastoreType : String)
  /-- `unsupported DatastoreType %q (supported: memdb, postgres, mysql)` -/
  | unsupportedDatastoreType (datastoreType : String)
  /-- `HealthCheckAddress must not be empty when HealthCheckEnabled is true` -/
  | healthCheckAddressEmpty
  /-- `HealthCheckAddress %q is invalid: %w` -/
  | healthCheckAddressInvalid (address cause : String)
  /-- `SchemaFiles[%d] must not be empty` -/
  | schemaFileEmpty (index : Nat)
deriving DecidableEq, Repr

/-- `strings.ToLower` on the datastore names. -/
def toLower (s : String) : String := ⟨s.data.map Char.toLower⟩

namespace Config

/-- The check of a required address: empty after trimming, or refused by `net.ResolveTCPAddr`,
whose error `resolve` gives. -/
def checkAddress (resolve : String → Option String) (address : String) (empty : ConfigError)
    (invalid : String → String → ConfigError) : List ConfigError :=
  if trimSpace address = "" then [empty]
  else
    match resolve address with
    | some err => [invalid address err]
    | none => []

/-- The check of `DatastoreType`, and of `DatastoreURI` for the persistent stores. -/
def checkDatastore (c : Config) : List ConfigError :=
  match toLower (trimSpace c.datastoreType) with
  | "" | "memdb" => []
  | "postgres" | "postgresql" | "mysql" =>
    if trimSpace c.datastoreURI = "" then [.datastoreURIEmpty c.datastoreType] else []
  | _ => [.unsupportedDatastoreType c.datastoreType]

/-- `Validate`: every failed check, in order; `errors.Join` of them is `nil` when there is none. -/
def validate (resolve : String → Option String) (c : Config) : List ConfigError :=
  checkAddress resolve c.grpcAddress .grpcAddressEmpty .grpcAddressInvalid ++
  (if c.httpEnabled then checkAddress resolve c.httpAddress .httpAddressEmpty .httpAddressInvalid
    else []) ++
  (if trimSpace c.presharedKey = "" then [.presharedKeyEmpty] else []) ++
  c.checkDatastore ++
  (if c.healthCheckEnabled then
    checkAddress resolve c.healthCheckAddress .healthCheckAddressEmpty .healthCheckAddressInvalid
    else []) ++
  (c.schemaFiles.enum.filterMap fun (i, f) => if trimSpace f = "" then some (.schemaFileEmpty i) else none)

end Config

/-- `createDatastore`, with `memdb` the error of `memdb.NewMemdbDatastore`, if any. -/
def createDatastore (memdb : Option String) (c : Config) : Except String Unit :=
  let datastoreType := toLower c.datastoreType
  let datastoreType := if datastoreType = "" then "memdb" else datastoreType
  match datastoreType with
  | "memdb" =>
    match memdb with
    | some err => .error err
    | none => .ok ()
  | "postgres" | "postgresql" =>
    .error ("PostgreSQL datastore is not available in standalone embedspicedb. Use memdb for " ++
      "development, or use embedspicedb within the SpiceDB module context for persistent datastores")
  | "mysql" =>
    .error ("MySQL datastore is not available in standalone embedspicedb. Use memdb for " ++
      "development, or use embedspicedb within the SpiceDB module context for persistent datastores")
  | _ => .error ("unsupported datastore type: " ++ c.datastoreType ++ " (supported: memdb, postgres, mysql)")

/-- Why `New` fails. -/
inductive NewError where
  /-- `invalid config: %w`, joining every error `Validate` collected. -/
  | invalidConfig (errs : List ConfigError)
  /-- `failed to create datastore: %w` -/
  | createDatastore (err : String)
deriving DecidableEq, Repr

/-- `New`: the server it makes, with its configuration after `WithDefaults`. -/
def newServer (resolve : String → Option String) (memdb : Option String) (config : Config) :
    Except NewError (Config × EmbeddedServer) :=
  let config := config.withDefaults
  match config.validate resolve with
  | [] =>
    match createDatastore memdb config with
    | .error err => .error (.createDatastore err)
    | .ok () => .ok (config, EmbeddedServer.new)
  | errs => .error (.invalidConfig errs)

/-! ## Defaults -/

namespace Config

theorem withDefaults_idem (c : Config) : c.withDefaults.withDefaults = c.withDefaults := by
  simp only [withDefaults]
  congr 1 <;> split_ifs <;> simp_all

theorem defaultConfig_withDefaults : defaultConfig.withDefaults = defaultConfig := by
  decide

/-- Every default `WithDefaults` fills in passes the check `Validate` makes of its field. -/
theorem withDefaults_pass (c : Config) :
    (c.grpcAddress = "" → trimSpace c.withDefaults.grpcAddress ≠ "") ∧
    (c.presharedKey = "" → trimSpace c.withDefaults.presharedKey ≠ "") ∧
    (c.datastoreType = "" → c.withDefaults.checkDatastore = []) ∧
    (c.httpEnabled = true → c.httpAddress = "" → trimSpace c.withDefaults.httpAddress ≠ "") ∧
    (c.healthCheckEnabled = true → c.healthCheckAddress = "" →
      trimSpace c.withDefaults.healthCheckAddress ≠ "") := by
  have memdb : toLower (trimSpace "memdb") = "memdb" := by decide
  refine ⟨fun empty => ?_, fun empty => ?_, fun empty => ?_, fun enabled empty => ?_,
    fun enabled empty => ?_⟩
  · simp only [withDefaults, empty, if_true]; decide
  · simp only [withDefaults, empty, if_true]; decide
  · simp [checkDatastore, withDefaults, empty, memdb]
  · simp only [withDefaults, empty, enabled]; decide
  · simp only [withDefaults, empty, enabled]; decide

/-- With a resolver that accepts its gRPC address, `DefaultConfig` is valid. -/
theorem validate_defaultConfig (resolve : String → Option String) (resolves : resolve ":50051" = none) :
    defaultConfig.validate resolve = [] := by
  have named : trimSpace ":50051" ≠ "" ∧ trimSpace "dev-key" ≠ "" ∧
      toLower (trimSpace "memdb") = "memdb" := by decide
  simp [validate, checkAddress, checkDatastore, defaultConfig, resolves, named]

/-! ## What `Validate` accepts -/

theorem checkAddress_eq_nil {resolve : String → Option String} {address : String}
    {empty : ConfigError} {invalid : String → String → ConfigError} :
    checkAddress resolve address empty invalid = [] ↔ ¬Blank address ∧ resolve address = none := by
  unfold checkAddress
  rw [← trimSpace_eq_empty_iff]
  split
  · simp_all
  · split <;> simp_all

/-- The datastore names `Validate` accepts. -/
def SupportedDatastore (c : Config) : Prop :=
  toLower (trimSpace c.datastoreType) = "" ∨ toLower (trimSpace c.datastoreType) = "memdb" ∨
    (toLower (trimSpace c.datastoreType) = "postgres" ∨ toLower (trimSpace c.datastoreType) = "postgresql" ∨
      toLower (trimSpace c.datastoreType) = "mysql") ∧ ¬Blank c.datastoreURI

theorem checkDatastore_eq_nil {c : Config} : c.checkDatastore = [] ↔ SupportedDatastore c := by
  unfold checkDatastore SupportedDatastore
  rw [← trimSpace_eq_empty_iff]
  split <;> simp_all

/-- A configuration `Validate` accepts. -/
def Valid (resolve : String → Option String) (c : Config) : Prop :=
  (¬Blank c.grpcAddress ∧ resolve c.grpcAddress = none) ∧
  (c.httpEnabled = true → ¬Blank c.httpAddress ∧ resolve c.httpAddress = none) ∧
  ¬Blank c.presharedKey ∧ SupportedDatastore c ∧
  (c.healthCheckEnabled = true → ¬Blank c.healthCheckAddress ∧ resolve c.healthCheckAddress = none) ∧
  ∀ f ∈ c.schemaFiles, ¬Blank f

theorem validate_eq_nil_iff {resolve : String → Option String} {c : Config} :
    c.validate resolve = [] ↔ Valid resolve c := by
  have files : (c.schemaFiles.enum.filterMap fun (i, f) =>
      if trimSpace f = "" then some (ConfigError.schemaFileEmpty i) else none) = [] ↔
      ∀ f ∈ c.schemaFiles, ¬Blank f := by
    rw [List.filterMap_eq_nil_iff]
    constructor
    · intro unflagged f member
      obtain ⟨i, found⟩ := List.mem_iff_getElem?.mp member
      simpa [← trimSpace_eq_empty_iff] using unflagged (i, f) (List.mem_enum_iff_getElem?.mpr found)
    · rintro nonblank ⟨i, f⟩ member
      have := nonblank f (List.mem_iff_getElem?.mpr ⟨i, List.mem_enum_iff_getElem?.mp member⟩)
      simpa [← trimSpace_eq_empty_iff] using this
  simp only [validate, List.append_eq_nil, checkAddress_eq_nil, checkDatastore_eq_nil, files, Valid]
  cases c.httpEnabled <;> cases c.healthCheckEnabled <;>
    simp [checkAddress_eq_nil, trimSpace_eq_empty_iff, and_assoc]

end Config

open Config

/-! ## What `New` accepts -/

theorem toLower_eq_empty {s : String} : toLower s = "" ↔ s = "" := by
  constructor
  · intro empty
    have := congrArg String.data empty
    simp only [toLower, List.map_eq_nil_iff] at this
    exact String.ext this
  · rintro rfl
    rfl

/-- `createDatastore` makes the in-memory datastore only. -/
theorem createDatastore_ok_iff {memdb : Option String} {c : Config} :
    createDatastore memdb c = .ok () ↔
      (toLower c.datastoreType = "" ∨ toLower c.datastoreType = "memdb") ∧ memdb = none := by
  unfold createDatastore
  by_cases empty : toLower c.datastoreType = ""
  · cases memdb <;> simp [empty]
  · simp only [empty, if_false, false_or]
    split <;> cases memdb <;> simp_all

/-- `New` succeeds only on a configuration that `Validate` accepts after `WithDefaults` and that
names the in-memory datastore; it makes a fresh server. -/
theorem newServer_ok {resolve : String → Option String} {memdb : Option String}
    {config c : Config} {es : EmbeddedServer} (made : newServer resolve memdb config = .ok (c, es)) :
    c = config.withDefaults ∧ es = EmbeddedServer.new ∧ Valid resolve c ∧
      toLower c.datastoreType = "memdb" := by
  simp only [newServer] at made
  split at made
  · rename_i valid
    split at made
    · cases made
    · rename_i created
      cases made
      have named : config.withDefaults.datastoreType ≠ "" := by
        simp only [withDefaults]
        split <;> simp_all
      exact ⟨rfl, rfl, validate_eq_nil_iff.mp valid,
        (createDatastore_ok_iff.mp created).1.resolve_left (mt toLower_eq_empty.mp named)⟩
  · cases made

/-- Conversely, `New` succeeds on every such configuration while `memdb.NewMemdbDatastore` does. -/
theorem newServer_of_valid {resolve : String → Option String} {memdb : Option String}
    {config : Config} (valid : Valid resolve config.withDefaults)
    (memdbType : toLower config.withDefaults.datastoreType = "memdb") (opened : memdb = none) :
    newServer resolve memdb config = .ok (config.withDefaults, EmbeddedServer.new) := by
  have created : createDatastore memdb config.withDefaults = .ok () :=
    createDatastore_ok_iff.mpr ⟨.inr memdbType, opened⟩
  simp only [newServer, validate_eq_nil_iff.mpr valid, created]

/-- On a configuration that `Validate` accepts after `WithDefaults`, `New` fails where
`createDatastore` does, with its error. -/
theorem newServer_of_createDatastore_error {resolve : String → Option String} {memdb : Option String}
    {config : Config} {err : String} (valid : Valid resolve config.withDefaults)
    (failed : createDatastore memdb config.withDefaults = .error err) :
    newServer resolve memdb config = .error (.createDatastore err) := by
  simp only [newServer, validate_eq_nil_iff.mpr valid, failed]

/-- `New` succeeds exactly on a configuration that `Validate` accepts after `WithDefaults` and that
names the in-memory datastore, while `memdb.NewMemdbDatastore` succeeds; it then makes a fresh
server with the configuration after `WithDefaults`. -/
theorem newServer_eq_ok_iff {resolve : String → Option String} {memdb : Option String}
    {config c : Config} {es : EmbeddedServer} :
    newServer resolve memdb config = .ok (c, es) ↔
      c = config.withDefaults ∧ es = EmbeddedServer.new ∧ Valid resolve c ∧
        toLower c.datastoreType = "memdb" ∧ memdb = none := by
  constructor
  · intro made
    obtain ⟨rfl, rfl, valid, named⟩ := newServer_ok made
    refine ⟨rfl, rfl, valid, named, ?_⟩
    cases memdb with
    | none => rfl
    | some err =>
      have failed : createDatastore (some err) config.withDefaults = .error err := by
        simp [createDatastore, named]
      rw [newServer_of_createDatastore_error valid failed] at made
      cases made
  · rintro ⟨rfl, rfl, valid, named, rfl⟩
    exact newServer_of_valid valid named rfl

/-- `Validate` trims `DatastoreType` before it compares it, `createDatastore` does not: a
configuration that `Validate` accepts, whose type is `memdb` only once trimmed, makes `New` fail
in `createDatastore`. -/
theorem padded_datastore_type_fails {resolve : String → Option String} {memdb : Option String}
    {config : Config} (valid : Valid resolve config.withDefaults)
    (padded : toLower (trimSpace config.withDefaults.datastoreType) = "memdb")
    (unpadded : toLower config.withDefaults.datastoreType ≠ "memdb") :
    ∃ err, newServer resolve memdb config = .error (.createDatastore err) := by
  have named : toLower config.withDefaults.datastoreType ≠ "" := fun empty => by
    rw [toLower_eq_empty.mp empty] at padded
    exact absurd padded (by decide)
  have refused : createDatastore memdb config.withDefaults ≠ .ok () := fun created =>
    ((createDatastore_ok_iff.mp created).1.elim named unpadded)
  cases failed : createDatastore memdb config.withDefaults with
  | error err => exact ⟨err, newServer_of_createDatastore_error valid failed⟩
  | ok created => exact absurd failed refused

/-- `Validate` trims `DatastoreType`, `createDatastore` does not: a padded `memdb` passes the first
and fails the second. -/
example : newServer (fun _ => none) none { defaultConfig with datastoreType := " memdb" } =
    .error (.createDatastore "unsupported datastore type:  memdb (supported: memdb, postgres, mysql)") := by
  rfl

theorem padded_memdb_fails :
    Valid (fun _ => none) { defaultConfig with datastoreType := " memdb" }.withDefaults ∧
      toLower (trimSpace { defaultConfig with datastoreType := " memdb" }.withDefaults.datastoreType) =
        "memdb" ∧
      toLower { defaultConfig with datastoreType := " memdb" }.withDefaults.datastoreType ≠ "memdb" ∧
      ∃ err, newServer (fun _ => none) none { defaultConfig with datastoreType := " memdb" } =
        .error (.createDatastore err) :=
  have valid : Valid (fun _ => none) { defaultConfig with datastoreType := " memdb" }.withDefaults :=
    validate_eq_nil_iff.mp (by decide)
  ⟨valid, by decide, by decide, padded_datastore_type_fails valid (by decide) (by decide)⟩

end EmbedSpiceDB.Server
