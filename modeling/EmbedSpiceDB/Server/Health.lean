import EmbedSpiceDB.Server.Lifecycle

/-! # `health.go`: `HealthCheck`

`HealthCheck` reads one snapshot of the server under `es.mu`, then checks the connection with one
`ReadSchema` call, the datastore with one `Statistics` call, and the schema from the same
`ReadSchema` answer. Each check writes its entry of `status.Checks`; `status.Status` starts empty,
the checks set it to `degraded` or `unhealthy`, and it ends `healthy` if none did. The handler of
`/healthz` answers 503 for an error with an `unhealthy` status, and 200 otherwise.
-/

namespace EmbedSpiceDB.Server

/-- The fields `HealthCheck` copies under `es.mu`; `startTime` only feeds the uptime text. -/
structure Snapshot where
  started : Bool
  /-- `conn != nil`. -/
  conn : Bool
  /-- `ds != nil`. -/
  datastore : Bool
  /-- `reloader != nil`. -/
  reloader : Bool
  schemaFiles : List String

/-- An error of the `ReadSchema` call: whether its gRPC code is `NotFound`, and its text. -/
structure RpcError where
  notFound : Bool
  text : String

/-- What `HealthCheck` gets from outside. -/
structure Probes where
  /-- The answer of `ReadSchema`: the schema text, or the error. -/
  readSchema : Except RpcError String
  /-- The error of `ds.Statistics`, if any. -/
  statistics : Option String

/-- `HealthStatus` without its timestamp and uptime fields. -/
structure HealthStatus where
  status : String
  /-- `Checks`, one entry per component, as written. -/
  checks : List (String × String)
deriving DecidableEq, Repr

namespace HealthStatus

/-- `status.Checks[key] = value`. -/
def check (status : HealthStatus) (key value : String) : HealthStatus :=
  { status with checks := (status.checks.filter (·.1 ≠ key)) ++ [(key, value)] }

/-- `status.Status = value`. -/
def set (status : HealthStatus) (value : String) : HealthStatus := { status with status := value }

end HealthStatus

open HealthStatus EmbeddedServer

/-- The connection check: the answer of `ReadSchema`, if it was called, and the status after it. -/
def checkConnection (snapshot : Snapshot) (probes : Probes) (status : HealthStatus) :
    Option (Except RpcError String) × HealthStatus :=
  if !snapshot.conn then (none, (status.check "grpc_connection" "not_available").set "degraded")
  else
    match probes.readSchema with
    | .error schemaErr =>
      if snapshot.schemaFiles.isEmpty && schemaErr.notFound then
        (some (.error schemaErr), status.check "grpc_connection" "healthy (no schema defined)")
      else
        (some (.error schemaErr),
          (status.check "grpc_connection" ("error: " ++ schemaErr.text)).set "degraded")
    | .ok schemaText => (some (.ok schemaText), status.check "grpc_connection" "healthy")

/-- The datastore check. -/
def checkDatastore (snapshot : Snapshot) (probes : Probes) (status : HealthStatus) : HealthStatus :=
  if !snapshot.datastore then (status.check "datastore" "not_available").set "unhealthy"
  else
    match probes.statistics with
    | some err =>
      let status := status.check "datastore" s!"error: {err}"
      if status.status ≠ "unhealthy" then status.set "degraded" else status
    | none => status.check "datastore" "healthy"

/-- The schema check, on the `ReadSchema` answer of the connection check. -/
def checkSchema (snapshot : Snapshot) (schemaResp : Option (Except RpcError String))
    (status : HealthStatus) : HealthStatus :=
  if !snapshot.schemaFiles.isEmpty then
    if !snapshot.reloader then (status.check "schema" "reloader_not_available").set "degraded"
    else
      match schemaResp with
      | some (.error schemaErr) => (status.check "schema" ("error: " ++ schemaErr.text)).set "degraded"
      | some (.ok schemaText) =>
        if schemaText = "" then (status.check "schema" "not_loaded").set "degraded"
        else status.check "schema" "loaded"
      | none => (status.check "schema" "not_loaded").set "degraded"
  else status.check "schema" "not_configured"

/-- `HealthCheck`: the status and its error, if any. -/
def healthCheck (snapshot : Snapshot) (probes : Probes) : HealthStatus × Option String :=
  let status : HealthStatus := ⟨"", []⟩
  if !snapshot.started then
    ((status.check "server" "not_started").set "unhealthy", some "server is not started")
  else
    let status := status.check "server" "started"
    let (schemaResp, status) := checkConnection snapshot probes status
    let status := checkDatastore snapshot probes status
    let status := checkSchema snapshot schemaResp status
    if status.status = "unhealthy" || status.status = "degraded" then (status, none)
    else (status.set "healthy", none)

/-- The HTTP code `healthCheckHandler` answers. -/
def healthCheckCode (result : HealthStatus × Option String) : Nat :=
  if result.2.isSome && result.1.status = "unhealthy" then 503 else 200

/-! ## The status -/

@[simp] theorem HealthStatus.check_status (status : HealthStatus) (key value : String) :
    (status.check key value).status = status.status := rfl

@[simp] theorem HealthStatus.set_status (status : HealthStatus) (value : String) :
    (status.set value).status = value := rfl

/-- The connection check leaves the status, or degrades it. -/
theorem checkConnection_status (snapshot : Snapshot) (probes : Probes) (status : HealthStatus) :
    (checkConnection snapshot probes status).2.status = status.status ∨
      (checkConnection snapshot probes status).2.status = "degraded" := by
  unfold checkConnection
  repeat' split
  all_goals simp

/-- With a datastore, its check leaves the status, or degrades it. -/
theorem checkDatastore_status {snapshot : Snapshot} (present : snapshot.datastore = true)
    (probes : Probes) (status : HealthStatus) :
    (checkDatastore snapshot probes status).status = status.status ∨
      (checkDatastore snapshot probes status).status = "degraded" := by
  simp only [checkDatastore, present, Bool.not_true, Bool.false_eq_true, if_false]
  repeat' split
  all_goals simp

/-- The schema check leaves the status, or degrades it. -/
theorem checkSchema_status (snapshot : Snapshot) (schemaResp : Option (Except RpcError String))
    (status : HealthStatus) :
    (checkSchema snapshot schemaResp status).status = status.status ∨
      (checkSchema snapshot schemaResp status).status = "degraded" := by
  unfold checkSchema
  repeat' split
  all_goals simp

/-- `HealthCheck` fails exactly on a server that is not started. -/
theorem healthCheck_error (snapshot : Snapshot) (probes : Probes) :
    (healthCheck snapshot probes).2.isSome = !snapshot.started := by
  cases started : snapshot.started <;> simp [healthCheck, started, apply_ite]

private theorem empty_or_degraded {status next : HealthStatus}
    (before : status.status = "" ∨ status.status = "degraded")
    (stepped : next.status = status.status ∨ next.status = "degraded") :
    next.status = "" ∨ next.status = "degraded" := by
  rcases stepped with same | degraded
  · rwa [same]
  · exact .inr degraded

/-- With a datastore, `HealthCheck` reports `unhealthy` exactly when the server is not started, and
otherwise `healthy` or `degraded`. -/
theorem healthCheck_status {snapshot : Snapshot} (present : snapshot.datastore = true)
    (probes : Probes) :
    ((healthCheck snapshot probes).1.status = "unhealthy" ↔ snapshot.started = false) ∧
      (snapshot.started = true → (healthCheck snapshot probes).1.status = "healthy" ∨
        (healthCheck snapshot probes).1.status = "degraded") := by
  unfold healthCheck
  split
  · simp_all
  · generalize connected :
      checkConnection snapshot probes (check ⟨"", []⟩ "server" "started") = afterConnection
    obtain ⟨schemaResp, afterConnection⟩ := afterConnection
    have connection :=
      connected ▸ checkConnection_status snapshot probes (check ⟨"", []⟩ "server" "started")
    have settled := empty_or_degraded
      (empty_or_degraded (empty_or_degraded (.inl rfl) connection)
        (checkDatastore_status present probes afterConnection))
      (checkSchema_status snapshot schemaResp (checkDatastore snapshot probes afterConnection))
    dsimp only
    split <;> rcases settled with settled | settled <;> simp_all

/-- A server that is not started is reported `unhealthy`, with the single check `server`
`not_started`, and an error. -/
theorem healthCheck_not_started {snapshot : Snapshot} (stopped : snapshot.started = false)
    (probes : Probes) :
    healthCheck snapshot probes = (⟨"unhealthy", [("server", "not_started")]⟩, some "server is not started") := by
  simp [healthCheck, stopped, HealthStatus.check, HealthStatus.set]

/-- With a datastore, `/healthz` answers 503 exactly for an `unhealthy` status. -/
theorem healthCheckCode_eq_503_iff {snapshot : Snapshot} (present : snapshot.datastore = true)
    (probes : Probes) :
    healthCheckCode (healthCheck snapshot probes) = 503 ↔
      (healthCheck snapshot probes).1.status = "unhealthy" := by
  rw [(healthCheck_status present probes).1]
  cases started : snapshot.started
  · simp [healthCheckCode, healthCheck_not_started started]
  · have noError := healthCheck_error snapshot probes
    simp only [started, Bool.not_true] at noError
    simp [healthCheckCode, noError]

/-! ## The worst of the checks

What `HealthCheck` is for: each check gives a verdict, and the status is the worst of them,
`unhealthy` over `degraded` over `healthy`, once the server is started.
-/

/-- The verdict of one check. -/
inductive Verdict where
  | healthy
  | degraded
  | unhealthy
deriving DecidableEq, Repr

namespace Verdict

/-- The worse of two verdicts. -/
def worst : Verdict → Verdict → Verdict
  | .unhealthy, _ | _, .unhealthy => .unhealthy
  | .degraded, _ | _, .degraded => .degraded
  | .healthy, .healthy => .healthy

/-- The status text of a verdict. -/
def text : Verdict → String
  | .healthy => "healthy"
  | .degraded => "degraded"
  | .unhealthy => "unhealthy"

theorem worst_worst_eq_healthy {a b c : Verdict} :
    (a.worst b).worst c = .healthy ↔ c = .healthy ∧ b = .healthy ∧ a = .healthy := by
  cases a <;> cases b <;> cases c <;> decide

theorem worst_ne_unhealthy {a b : Verdict} (left : a ≠ .unhealthy) (right : b ≠ .unhealthy) :
    a.worst b ≠ .unhealthy := by
  cases a <;> cases b <;> simp_all [worst]

theorem text_of_ne_unhealthy {v : Verdict} (ne : v ≠ .unhealthy) :
    v.text = if v = .healthy then "healthy" else "degraded" := by
  cases v <;> simp_all [text]

end Verdict

/-- The connection check: a failed `ReadSchema` degrades, unless no schema files are configured
and no schema is defined yet. -/
def connectionVerdict (snapshot : Snapshot) (probes : Probes) : Verdict :=
  if !snapshot.conn then .degraded
  else
    match probes.readSchema with
    | .ok _ => .healthy
    | .error schemaErr =>
      if snapshot.schemaFiles.isEmpty && schemaErr.notFound then .healthy else .degraded

/-- The datastore check: no handle is `unhealthy`, a failed `Statistics` degrades. -/
def datastoreVerdict (snapshot : Snapshot) (probes : Probes) : Verdict :=
  if !snapshot.datastore then .unhealthy
  else if probes.statistics.isSome then .degraded else .healthy

/-- The schema check, when schema files are configured: it needs the reloader, and a non-empty
schema from the connection check's `ReadSchema`. -/
def schemaVerdict (snapshot : Snapshot) (probes : Probes) : Verdict :=
  if snapshot.schemaFiles.isEmpty then .healthy
  else if !snapshot.reloader || !snapshot.conn then .degraded
  else
    match probes.readSchema with
    | .ok schemaText => if schemaText = "" then .degraded else .healthy
    | .error _ => .degraded

/-- The status the checks call for: `unhealthy` for a server that is not started, otherwise the
worst verdict of the three checks. -/
def worstStatus (snapshot : Snapshot) (probes : Probes) : String :=
  if !snapshot.started then Verdict.unhealthy.text
  else (((connectionVerdict snapshot probes).worst (datastoreVerdict snapshot probes)).worst
    (schemaVerdict snapshot probes)).text

theorem checkConnection_status_eq (snapshot : Snapshot) (probes : Probes) (status : HealthStatus) :
    (checkConnection snapshot probes status).2.status =
      if connectionVerdict snapshot probes = .healthy then status.status else "degraded" := by
  unfold checkConnection connectionVerdict
  cases snapshot.conn
  · simp
  · cases probes.readSchema with
    | ok => simp
    | error => simp only [Bool.not_true, Bool.false_eq_true, if_false]; split_ifs <;> simp_all

/-- The connection check hands the schema check the `ReadSchema` answer when it has a connection. -/
theorem checkConnection_response (snapshot : Snapshot) (probes : Probes) (status : HealthStatus) :
    (checkConnection snapshot probes status).1 =
      if snapshot.conn then some probes.readSchema else none := by
  unfold checkConnection
  cases snapshot.conn
  · simp
  · cases probes.readSchema with
    | ok => simp
    | error => simp only [Bool.not_true, Bool.false_eq_true, if_false]; split_ifs <;> rfl

theorem checkDatastore_status_eq {snapshot : Snapshot} (present : snapshot.datastore = true)
    (probes : Probes) {status : HealthStatus} (notUnhealthy : status.status ≠ "unhealthy") :
    (checkDatastore snapshot probes status).status =
      if datastoreVerdict snapshot probes = .healthy then status.status else "degraded" := by
  unfold checkDatastore datastoreVerdict
  cases statistics : probes.statistics <;> simp [present, statistics, notUnhealthy]

theorem checkSchema_status_eq (snapshot : Snapshot) (probes : Probes) (status : HealthStatus) :
    (checkSchema snapshot (if snapshot.conn then some probes.readSchema else none) status).status =
      if schemaVerdict snapshot probes = .healthy then status.status else "degraded" := by
  unfold checkSchema schemaVerdict
  cases files : snapshot.schemaFiles.isEmpty
  · cases snapshot.reloader <;> cases snapshot.conn
    all_goals try simp
    cases probes.readSchema with
    | ok schemaText => by_cases empty : schemaText = "" <;> simp [empty]
    | error => simp
  · simp

theorem connectionVerdict_ne_unhealthy (snapshot : Snapshot) (probes : Probes) :
    connectionVerdict snapshot probes ≠ .unhealthy := by
  unfold connectionVerdict
  repeat' split
  all_goals simp

theorem datastoreVerdict_ne_unhealthy {snapshot : Snapshot} (present : snapshot.datastore = true)
    (probes : Probes) : datastoreVerdict snapshot probes ≠ .unhealthy := by
  simp only [datastoreVerdict, present, Bool.not_true, Bool.false_eq_true, if_false]
  split <;> simp

theorem schemaVerdict_ne_unhealthy (snapshot : Snapshot) (probes : Probes) :
    schemaVerdict snapshot probes ≠ .unhealthy := by
  unfold schemaVerdict
  repeat' split
  all_goals simp

/-- With a datastore handle, `HealthCheck` reports the worst verdict of its checks: no check is
`unhealthy`, each failing one degrades the status, and the order of the checks does not matter. -/
theorem healthCheck_worst {snapshot : Snapshot} (present : snapshot.datastore = true)
    (probes : Probes) : (healthCheck snapshot probes).1.status = worstStatus snapshot probes := by
  unfold healthCheck worstStatus
  cases started : snapshot.started
  · simp [Verdict.text]
  · simp only [Bool.not_true, Bool.false_eq_true, if_false]
    generalize connected : checkConnection snapshot probes (check ⟨"", []⟩ "server" "started") = afterConnection
    obtain ⟨schemaResp, afterConnection⟩ := afterConnection
    have response := checkConnection_response snapshot probes (check ⟨"", []⟩ "server" "started")
    have connection := checkConnection_status_eq snapshot probes (check ⟨"", []⟩ "server" "started")
    rw [connected] at response connection
    dsimp only at response connection ⊢
    subst response
    -- The status after the checks: empty while every verdict is `healthy`, then `degraded`.
    have settled := checkSchema_status_eq snapshot probes (checkDatastore snapshot probes afterConnection)
    rw [checkDatastore_status_eq present probes (by rw [connection]; split <;> simp), connection] at settled
    generalize checkSchema snapshot (if snapshot.conn = true then some probes.readSchema else none)
      (checkDatastore snapshot probes afterConnection) = final at settled ⊢
    rw [Verdict.text_of_ne_unhealthy (Verdict.worst_ne_unhealthy (Verdict.worst_ne_unhealthy
      (connectionVerdict_ne_unhealthy snapshot probes) (datastoreVerdict_ne_unhealthy present probes))
      (schemaVerdict_ne_unhealthy snapshot probes))]
    simp only [← ite_and, HealthStatus.check_status] at settled
    -- `HealthCheck` then reports `healthy` over an empty status, and keeps `degraded`.
    simp only [Verdict.worst_worst_eq_healthy]
    split at settled
    next healthy => simp [settled, healthy]
    next degraded => simp [settled, degraded]

/-! ## The snapshot of a server -/

/-- The snapshot `HealthCheck` takes of a server built by `New`: its datastore handle is set once
and never cleared. -/
def EmbeddedServer.snapshot (es : EmbeddedServer) (schemaFiles : List String) : Snapshot :=
  ⟨es.started, es.conn.isSome, true, es.reloader.isSome, schemaFiles⟩

/-- On a server that keeps `ConnInvariant`, as every sequence of calls from `New` and every
interleaving of the threads after it do, `HealthCheck` fails, reports `unhealthy`, and makes
`/healthz` answer 503, each exactly when the server is not started; a started server has its
connection and its reloader, so the connection and schema checks never find them missing. -/
theorem ConnInvariant.healthCheck {es : EmbeddedServer} (invariant : ConnInvariant es)
    (schemaFiles : List String) (probes : Probes) :
    let result := Server.healthCheck (es.snapshot schemaFiles) probes
    (result.2.isSome ↔ es.started = false) ∧ (result.1.status = "unhealthy" ↔ es.started = false) ∧
      (healthCheckCode result = 503 ↔ es.started = false) ∧
      (es.started = true → (es.snapshot schemaFiles).conn = true ∧
        (es.snapshot schemaFiles).reloader = true) := by
  intro result
  have status := @healthCheck_status (es.snapshot schemaFiles) rfl probes
  refine ⟨by simp [result, healthCheck_error, EmbeddedServer.snapshot], status.1,
    (healthCheckCode_eq_503_iff rfl probes).trans status.1, fun started => ?_⟩
  obtain ⟨id, conn, reloader, -⟩ := invariant.bound started
  simp [EmbeddedServer.snapshot, conn, reloader]

/-- After `Stop`, `HealthCheck` reports `unhealthy`, with the single check `server` `not_started`,
and an error. -/
theorem healthCheck_stop (es : EmbeddedServer) (schemaFiles : List String) (probes : Probes) :
    healthCheck (es.stop.snapshot schemaFiles) probes =
      (⟨"unhealthy", [("server", "not_started")]⟩, some "server is not started") :=
  healthCheck_not_started (stop_started es) probes

/-- In every state a sequence of calls reaches from `New`, `HealthCheck` reports the worst verdict
of its checks once the server is started, and `unhealthy` with an error before, so that
`/healthz` answers 503 exactly when the server is not started; a started server has its connection
and its reloader, so the verdicts turn on the probes alone. -/
theorem healthCheck_reachable (calls : List Call) (schemaFiles : List String) (probes : Probes) :
    let es := run new calls
    let result := healthCheck (es.snapshot schemaFiles) probes
    result.1.status = worstStatus (es.snapshot schemaFiles) probes ∧
      (result.2.isSome ↔ es.started = false) ∧ (healthCheckCode result = 503 ↔ es.started = false) ∧
      (es.started = true →
        (es.snapshot schemaFiles).conn = true ∧ (es.snapshot schemaFiles).reloader = true) := by
  intro es result
  obtain ⟨error, -, code, bound⟩ := (connInvariant_run calls).healthCheck schemaFiles probes
  exact ⟨healthCheck_worst rfl probes, error, code, bound⟩

end EmbedSpiceDB.Server
