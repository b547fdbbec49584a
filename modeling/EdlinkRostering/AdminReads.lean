/-
The read endpoints of the admin API.

Transcribed from `api/auth.py`, the routers, `services/queries`, `list_unresolved`,
`list_authorizations` and the three evaluators the alerts feed runs.  Rows that a query
does not order keep the order of their table; a duration in days is an exact rational.

* `currentOperator` — who is asking;
* `respond` — what a `GET` returns.
-/
import EdlinkRostering.Timeline
import Mathlib.Data.Rat.Init

namespace Admin

open Authorizations (AuthorizationRow ConnectorStatus)

/-! ### Authentication -/

/-- What the validator read out of the token. -/
structure Claims where
  sub : String
  email : String := ""
  name : String := ""

/-- An answer other than 200. -/
structure Problem where
  status : Nat
  detail : String
deriving DecidableEq

variable (db : AdminDatabase)

/-- `_load_active_role`. -/
def loadActiveRole (operatorId : Uuid) : Option Role :=
  ((Table.rows db.operatorRoles).find? fun r =>
    r.2.operatorId = operatorId && r.2.revokedAt.isNone).map fun r => r.2.role

/-- The LEAs an operator holds an active grant for, deleted ones included. -/
def grantedLeas (operatorId : Uuid) : List LeaId :=
  ((Table.rows db.operatorLeaGrants).filter fun g =>
    g.2.operatorId = operatorId && g.2.revokedAt.isNone).map fun g => g.2.leaId

/-- `SELECT … FROM leas WHERE id AND deleted_at IS NULL`. -/
def leaIsLive (leaId : LeaId) : Bool :=
  (db.leas.lookup leaId).any fun l => l.deletedAt.isNone

/-- `_load_authorized_leas`. -/
def loadAuthorizedLeas (role : Role) (operatorId : Uuid) : List LeaId :=
  if role = .owner || role = .admin || role = .auditor then
    ((Table.rows db.leas).filter fun l => l.2.deletedAt.isNone).map Prod.fst
  else (grantedLeas db operatorId).filter (leaIsLive db)

def noActiveRole : Problem where
  status := 403
  detail := "Operator has no active role. Contact an owner to grant access."

/-- The row of a subject; one that is not there yet is created without a role. -/
def ownRow (subject : String) : Option (Uuid × OperatorRow) :=
  (Table.rows db.operators).find? fun r => r.2.subject = subject

/-- `current_operator`. -/
def currentOperator (claims : Claims) : Except Problem Operator :=
  if claims.sub = "" then .error { status := 401, detail := "Token missing sub claim." }
  else match ownRow db claims.sub with
    | none => .error noActiveRole
    | some (id, row) =>
      if row.status ≠ .active then
        .error { status := 401, detail := "Operator " ++ row.status.value ++ "." }
      else match loadActiveRole db id with
        | none => .error noActiveRole
        | some role =>
          .ok
            { id := id, subject := claims.sub, email := claims.email, displayName := claims.name
              role := role, status := .active
              authorizedLeas := loadAuthorizedLeas db role id }

def Role.value : Role → String
  | .operator => "operator"
  | .admin => "admin"
  | .owner => "owner"
  | .auditor => "auditor"

/-- `_ROLES_SATISFYING`, the minimum second. -/
def Role.satisfies : Role → Role → Bool
  | _, .auditor => true
  | .operator, .operator | .admin, .operator | .owner, .operator => true
  | .admin, .admin | .owner, .admin => true
  | .owner, .owner => true
  | _, _ => false

/-- `require`. -/
def requireProblem (op : Operator) (minRole : Role) : Option Problem :=
  if op.role.satisfies minRole then none
  else some
    { status := 403
      detail := "Role " ++ Json.reprStr op.role.value
        ++ " cannot access an endpoint that requires " ++ Json.reprStr minRole.value ++ "." }

/-- `require_lea_scope_at`, once the role is let through. -/
def leaScopeProblem (op : Operator) (leaId : LeaId) : Option Problem :=
  if op.role = .operator ∧ leaId ∉ op.authorizedLeas then
    some
      { status := 403
        detail := "Operator is not authorized for LEA " ++ Json.reprStr leaId ++ "." }
  else none

/-! ### LEAs and cursors -/

variable (pg : AdminPostgres) (now : Instant)

/-- A difference of two instants in days. -/
def daysBetween (later earlier : Instant) : Rat :=
  (((later : Int) - earlier : Int) : Rat) / 86400000000

structure LeaSummary where
  id : LeaId
  name : String
  leaType : String
  state : String
  status : LeaStatus
  studentCount : Nat
  enrollmentCount : Nat
  latestSyncAt : Option Instant
  latestSyncStatus : Option JobStatus
  cursorLagDays : Option Rat
  inFlightCount : Nat
deriving DecidableEq

/-- The jobs of an LEA that are not reverts. -/
def syncsOf (leaId : LeaId) : List (Uuid × SyncJobRow) :=
  (Table.rows db.syncJobs).filter fun j => j.2.leaId = leaId && j.2.status ≠ .revert

/-- One row of the roll-up, with its subqueries. -/
def leaSummary (id : LeaId) (l : LeaDirectoryRow) : LeaSummary where
  id := id
  name := l.name
  leaType := l.leaType
  state := l.state
  status := l.status
  studentCount := (Table.rows db.students).countP fun s =>
    s.2.leaId = id && s.2.deletedAt.isNone
  enrollmentCount := (Table.rows db.enrollments).countP fun e =>
    e.2.leaId = id && e.2.deletedAt.isNone
  latestSyncAt := ((syncsOf db id).map fun j => j.2.startedAt).max?
  latestSyncStatus := (((syncsOf db id).insertionSort fun a b =>
    b.2.startedAt ≤ a.2.startedAt).head?).map fun j => j.2.status
  cursorLagDays := (((Table.rows db.cursorState).find? fun c => c.1.1 = id).bind fun c =>
    c.2.lastEventAt).map (daysBetween now)
  inFlightCount := (Table.rows db.syncJobs).countP fun j =>
    j.2.leaId = id && j.2.status = .running

/-- `list_leas`. -/
def listLeas (scope : Option (List LeaId)) : List LeaSummary :=
  (((Table.rows db.leas).filter fun l =>
    l.2.deletedAt.isNone && inScope scope l.1).insertionSort fun a b =>
      pg.textLe a.1 b.1 = true).map fun l => leaSummary db now l.1 l.2

/-- A row of `cursor_state` as the API shows it. -/
structure CursorRowOut where
  leaId : LeaId
  partner : String
  lastEventId : Option String
  lastEventAt : Option Instant
  lastPollAt : Option Instant
  coldStartRequired : Bool
  daysBehind : Option Rat
deriving DecidableEq

def cursorRowOut (row : (LeaId × String) × CursorStateRow) : CursorRowOut where
  leaId := row.1.1
  partner := row.1.2
  lastEventId := row.2.lastEventId
  lastEventAt := row.2.lastEventAt
  lastPollAt := row.2.lastPollAt
  coldStartRequired := row.2.coldStartRequired
  daysBehind := row.2.lastEventAt.map (daysBetween now)

/-- `ORDER BY lea_id, partner`. -/
def pairLe (a b : LeaId × String) : Prop :=
  pg.textLe a.1 b.1 = true ∧ (a.1 = b.1 → pg.textLe a.2 b.2 = true)

instance : DecidableRel (pairLe pg) := fun a b => by
  unfold pairLe
  infer_instance

/-- `list_cursors`. -/
def listCursors (leaId : Option LeaId) (scope : Option (List LeaId)) : List CursorRowOut :=
  (((Table.rows db.cursorState).filter fun c =>
    leaId.all (fun leaId => c.1.1 = leaId) && inScope scope c.1.1).insertionSort fun a b =>
      pairLe pg a.1 b.1).map (cursorRowOut now)

/-! ### Quarantine and connectors -/

structure QuarantineRowOut where
  id : Uuid
  syncJobId : Uuid
  leaId : LeaId
  entityType : String
  entityId : String
  reason : String
  createdAt : Instant
  resolvedAt : Option Instant
  resolutionStatus : Option String
  resolutionOperator : Option String
deriving DecidableEq

def quarantineRowOut (row : Uuid × QuarantineRow) : QuarantineRowOut where
  id := row.1
  syncJobId := row.2.syncJobId
  leaId := row.2.leaId
  entityType := row.2.entityType
  entityId := row.2.entityId
  reason := row.2.reason
  createdAt := row.2.createdAt
  resolvedAt := row.2.resolvedAt
  resolutionStatus := row.2.resolutionStatus
  resolutionOperator := row.2.resolutionOperator

/-- `LeaId(lea_id) if lea_id else None`. -/
def nonEmpty (leaId : Option LeaId) : Option LeaId := leaId.filter fun leaId => leaId ≠ ""

/-- `list_unresolved`. -/
def listUnresolved (leaId : Option LeaId) (scope : Option (List LeaId)) (limit : Nat) :
    List QuarantineRowOut :=
  ((((Table.rows db.quarantine).filter fun q =>
    q.2.resolvedAt.isNone && leaId.all (fun leaId => q.2.leaId = leaId)
      && inScope scope q.2.leaId).insertionSort fun a b =>
        a.2.createdAt ≤ b.2.createdAt).take limit).map quarantineRowOut

structure ConnectorAuthorizationOut where
  id : Uuid
  leaId : LeaId
  leaName : String
  partner : String
  status : ConnectorStatus
  authorizedAt : Option Instant
  authorizedByEmail : Option String
  revokedAt : Option Instant
  revokedByEmail : Option String
  edlinkIntegrationId : Option String
  pollIntervalSeconds : Int
  notes : Option String
  integrationStatus : String
  sharingScope : Option String
  integrationStatusObservedAt : Option Instant
deriving DecidableEq

/-- The row joined with its LEA and the two operators. -/
def connectorOut (row : Uuid × AuthorizationRow) : Option ConnectorAuthorizationOut :=
  (db.leas.lookup row.2.leaId).map fun l =>
    { id := row.1, leaId := row.2.leaId, leaName := l.name, partner := row.2.partner
      status := row.2.status, authorizedAt := row.2.authorizedAt
      authorizedByEmail := row.2.authorizedBy.bind (emailOf db)
      revokedAt := row.2.revokedAt, revokedByEmail := row.2.revokedBy.bind (emailOf db)
      edlinkIntegrationId := l.edlinkIntegrationId
      pollIntervalSeconds := row.2.pollIntervalSeconds, notes := row.2.notes
      integrationStatus := row.2.integrationStatus, sharingScope := row.2.sharingScope
      integrationStatusObservedAt := row.2.integrationStatusObservedAt }

/-- `revoked_at DESC`, which puts NULL first. -/
def revokedDesc : Option Instant → Option Instant → Prop
  | none, _ => True
  | some _, none => False
  | some a, some b => b ≤ a

instance : DecidableRel revokedDesc := fun a b => by
  cases a <;> cases b <;> unfold revokedDesc <;> infer_instance

/-- `ORDER BY (revoked_at IS NULL) DESC, l.name, partner, revoked_at DESC`. -/
def connectorLe (a b : ConnectorAuthorizationOut) : Prop :=
  (a.revokedAt = none ∧ b.revokedAt ≠ none) ∨
    ((a.revokedAt = none ↔ b.revokedAt = none) ∧
      pairLe pg (a.leaName, a.partner) (b.leaName, b.partner) ∧
      (a.leaName = b.leaName → a.partner = b.partner → revokedDesc a.revokedAt b.revokedAt))

instance : DecidableRel (connectorLe pg) := fun a b => by
  unfold connectorLe
  infer_instance

/-- `list_authorizations`. -/
def listAuthorizations (scope : Option (List LeaId)) (leaId : Option LeaId)
    (includeRevoked : Bool) : List ConnectorAuthorizationOut :=
  (((Table.rows db.authorizations).filter fun ca =>
    (includeRevoked || ca.2.revokedAt.isNone) && inScope scope ca.2.leaId
      && leaId.all (fun leaId => ca.2.leaId = leaId)).filterMap
        (connectorOut db)).insertionSort (connectorLe pg)

/-! ### Syncs and reconciliation -/

/-- `list_syncs_for_lea`. -/
def listSyncsForLea (leaId : LeaId) (partner : String) (limit : Nat) :
    List (Uuid × SyncJobRow) :=
  (((Table.rows db.syncJobs).filter fun j =>
    j.2.leaId = leaId && j.2.partner = partner).insertionSort fun a b =>
      b.2.startedAt ≤ a.2.startedAt).take limit

structure ReconciliationRunOut where
  id : Uuid
  leaId : LeaId
  partner : String
  startedAt : Instant
  completedAt : Instant
  status : ReconciliationRunStatus
  canonicalRootHash : String
  partnerRootHash : Option String
  drift : List DriftDetailRow
  errorMessage : Option String
deriving DecidableEq

/-- The response model has no place for a run that is not completed. -/
def reconciliationRunOut (row : Uuid × ReconciliationRunRow) : Option ReconciliationRunOut :=
  row.2.completedAt.map fun completedAt =>
    { id := row.1, leaId := row.2.leaId, partner := row.2.partner, startedAt := row.2.startedAt
      completedAt := completedAt, status := row.2.status
      canonicalRootHash := row.2.canonicalRootHash, partnerRootHash := row.2.partnerRootHash
      drift := row.2.driftSummary.getD [], errorMessage := row.2.errorMessage }

/-- `list_reconciliation_runs_for_lea`; `none` when a row does not fit the model. -/
def listReconciliationRunsForLea (leaId : LeaId) (partner : String) (limit : Nat) :
    Option (List ReconciliationRunOut) :=
  ((((Table.rows db.reconciliationRuns).filter fun r =>
    r.2.leaId = leaId && r.2.partner = partner).insertionSort fun a b =>
      b.2.startedAt ≤ a.2.startedAt).take limit).mapM reconciliationRunOut

/-! ### Alerts -/

structure AlertOut where
  code : String
  severity : String
  dedupKey : String
  leaId : Option String
  measurements : List (String × Rat)
  properties : List (String × String)
deriving DecidableEq

/-- `_emit`, and the row the router makes of the record. -/
def emit (code severity dedupKey : String) (properties : List (String × String))
    (measurements : List (String × Rat)) : AlertOut where
  code := code
  severity := severity
  dedupKey := dedupKey
  leaId := properties.lookup "lea_id"
  measurements := measurements
  properties := properties ++
    [("alert_code", code), ("alert_severity", severity), ("dedup_key", dedupKey)]

def cursorLagThresholdDays : Nat := 20
def quarantineGrowthThreshold : Nat := 25
def windowHours : Nat := 24

def microsecondsPerHour : Nat := 3600000000

/-- `evaluate_cursor_lag`. -/
def evaluateCursorLag : List AlertOut :=
  let lagging := (Table.rows db.cursorState).filterMap fun c =>
    c.2.lastEventAt.bind fun lastEventAt =>
      if lastEventAt + cursorLagThresholdDays * 24 * microsecondsPerHour < now then
        some (c.1, c.2.lastEventId, lastEventAt)
      else none
  (lagging.insertionSort fun a b => a.2.2 ≤ b.2.2).map fun (key, lastEventId, lastEventAt) =>
    emit "alert.cursor_lag_20_day" "warning"
      ("alert.cursor_lag_20_day:" ++ key.1 ++ ":" ++ key.2)
      [("lea_id", key.1), ("partner", key.2), ("last_event_id", lastEventId.getD ""),
        ("last_event_at", pg.isoformat lastEventAt),
        ("threshold_days", toString cursorLagThresholdDays)]
      [("days_behind", daysBetween now lastEventAt)]

/-- The unresolved rows of the window. -/
def recentUnresolved : List (Uuid × QuarantineRow) :=
  (Table.rows db.quarantine).filter fun q =>
    q.2.resolvedAt.isNone && now ≤ q.2.createdAt + windowHours * microsecondsPerHour

/-- `evaluate_quarantine_growth`. -/
def evaluateQuarantineGrowth : List AlertOut :=
  let rows := recentUnresolved db now
  (rows.map fun q => q.2.leaId).dedup.filterMap fun leaId =>
    let n := rows.countP fun q => q.2.leaId = leaId
    if quarantineGrowthThreshold < n then
      some (emit "alert.quarantine_growth" "warning" ("alert.quarantine_growth:" ++ leaId)
        [("lea_id", leaId), ("window_hours", toString windowHours),
          ("threshold", toString quarantineGrowthThreshold)]
        [("unresolved_count", n)])
    else none

/-- `DISTINCT ON`: the first row of each key. -/
def distinctOn {α κ : Type} [DecidableEq κ] (key : α → κ) : List α → List α
  | [] => []
  | a :: rows => a :: (distinctOn key rows).filter fun b => key b ≠ key a

/-- `evaluate_reconciliation_drift`. -/
def evaluateReconciliationDrift : List AlertOut :=
  let completed := (Table.rows db.reconciliationRuns).filterMap fun r =>
    r.2.completedAt.bind fun completedAt =>
      if now ≤ completedAt + windowHours * microsecondsPerHour then some (r.1, completedAt, r.2)
      else none
  let sorted := completed.insertionSort fun a b =>
    pairLe pg (a.2.2.leaId, a.2.2.partner) (b.2.2.leaId, b.2.2.partner) ∧
      (a.2.2.leaId = b.2.2.leaId → a.2.2.partner = b.2.2.partner → b.2.1 ≤ a.2.1)
  let latest := distinctOn (fun r => (r.2.2.leaId, r.2.2.partner)) sorted
  latest.filterMap fun (id, completedAt, run) =>
    if run.status ≠ .driftDetected then none
    else
      let summary := run.driftSummary.getD []
      some (emit "alert.reconciliation_drift" "warning"
        ("alert.reconciliation_drift:" ++ run.leaId ++ ":" ++ run.partner)
        [("run_id", id), ("lea_id", run.leaId), ("partner", run.partner),
          ("completed_at", pg.isoformat completedAt),
          ("entity_types", ",".intercalate (summary.map DriftDetailRow.entityType)),
          ("canonical_root_hash", run.canonicalRootHash),
          ("partner_root_hash", run.partnerRootHash.getD "")]
        [("entity_types_drifted", summary.length),
          ("canonical_only_count", (summary.map fun d => d.canonicalOnlyIds.length).sum),
          ("partner_only_count", (summary.map fun d => d.partnerOnlyIds.length).sum)])

/-! ### The routes -/

inductive Request where
  | listLeas
  | listCursors (leaId : Option LeaId)
  | listQuarantine (leaId : Option LeaId) (limit : Int)
  | listConnectors (leaId : Option LeaId) (includeRevoked : Bool)
  | listAuditEntries (filter : AuditFilter) (cursorOccurredAt : Option Instant)
      (cursorId : Option String) (limit : Int)
  | listLeaTimeline (leaId : LeaId) (limit : Int)
  | listReconciliationRuns (leaId : LeaId) (limit : Int) (partner : String)
  | listSyncs (leaId : LeaId) (limit : Int) (partner : String)
  | listActiveAlerts

/-- The body of an answer; what the validation of a query parameter says is FastAPI's. -/
inductive Response where
  | leas (rows : List LeaSummary)
  | cursors (rows : List CursorRowOut)
  | quarantine (rows : List QuarantineRowOut)
  | connectors (rows : List ConnectorAuthorizationOut)
  | audit (page : AuditExplorerPage)
  | timeline (entries : List TimelineEntry)
  | reconciliation (rows : List ReconciliationRunOut)
  | syncs (rows : List (Uuid × SyncJobRow))
  | alerts (rows : List AlertOut)
  | unprocessable
  | problem (problem : Problem)
deriving DecidableEq

/-- `Query(ge=1, le=…)`. -/
def withLimit (max limit : Int) (body : Nat → Response) : Response :=
  if 1 ≤ limit ∧ limit ≤ max then body limit.toNat else .unprocessable

/-- A list route of the whole fleet: an operator without grants gets `empty`. -/
def fleetRoute (op : Operator) (empty : Response) (body : Option (List LeaId) → Response) :
    Response :=
  if op.role = .operator ∧ op.authorizedLeas = [] then empty else body op.scope

/-- A route below `/leas/{lea_id}`. -/
def perLea (op : Operator) (leaId : LeaId) (body : Response) : Response :=
  match leaScopeProblem op leaId with
  | some problem => .problem problem
  | none => body

/-- The routes, once `require("auditor")` has let the operator through. -/
def route (op : Operator) : Request → Response
  | .listLeas => fleetRoute op (.leas []) fun scope => .leas (listLeas db pg now scope)
  | .listCursors leaId =>
    fleetRoute op (.cursors []) fun scope => .cursors (listCursors db pg now leaId scope)
  | .listQuarantine leaId limit =>
    withLimit 500 limit fun limit =>
      fleetRoute op (.quarantine []) fun scope =>
        .quarantine (listUnresolved db (nonEmpty leaId) scope limit)
  | .listConnectors leaId includeRevoked =>
    .connectors (listAuthorizations db pg op.scope (nonEmpty leaId) includeRevoked)
  | .listAuditEntries filter cursorOccurredAt cursorId limit =>
    withLimit 200 limit fun limit =>
      .audit (listAuditEntries pg db op filter cursorOccurredAt cursorId limit)
  | .listLeaTimeline leaId limit =>
    perLea op leaId (withLimit 200 limit fun limit =>
      .timeline (listTimelineForLea pg db leaId limit))
  | .listReconciliationRuns leaId limit partner =>
    perLea op leaId (withLimit 200 limit fun limit =>
      match listReconciliationRunsForLea db leaId partner limit with
      | some rows => .reconciliation rows
      | none => .problem { status := 500, detail := "An unexpected error occurred." })
  | .listSyncs leaId limit partner =>
    perLea op leaId (withLimit 200 limit fun limit =>
      .syncs (listSyncsForLea db leaId partner limit))
  | .listActiveAlerts =>
    .alerts (evaluateCursorLag db pg now ++ evaluateQuarantineGrowth db now
      ++ evaluateReconciliationDrift db pg now)

/-- A `GET` with these claims at this time. -/
def respond (claims : Claims) (request : Request) : Response :=
  match currentOperator db claims with
  | .error problem => .problem problem
  | .ok op =>
    match requireProblem op .auditor with
    | some problem => .problem problem
    | none => route db pg now op request

end Admin
