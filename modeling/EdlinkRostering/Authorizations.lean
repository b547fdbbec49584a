/-
Connector authorizations: authorize, revoke, adjust and the status poll.

Transcribed from `services/connector_authz.py`, `poll_and_persist` of
`services/integration_status.py` and the query of the reconciliation sweep.  Each verb
is one transaction, cut into its statements; the partial unique index
`uq_connector_authorization_live` makes the insert wait for whoever is changing the
live row of its pair, and refuses it when there is one.

* `Verb.statement` — the four verbs;
* `activeAuthorizations` — what the sweep selects.
-/
import EdlinkRostering.RowLocks
import EdlinkRostering.Postgres
import EdlinkRostering.Table
import EdlinkRostering.Entities

namespace Authorizations

inductive ConnectorStatus where
  | pending
  | active
  | revoked
  | locked
deriving DecidableEq, Repr

def ConnectorStatus.value : ConnectorStatus → String
  | .pending => "pending"
  | .active => "active"
  | .revoked => "revoked"
  | .locked => "locked"

/-- A row of `connector_authorization`. -/
structure AuthorizationRow where
  leaId : LeaId
  partner : String
  status : ConnectorStatus
  authorizedAt : Option Instant := none
  authorizedBy : Option Uuid := none
  revokedAt : Option Instant := none
  revokedBy : Option Uuid := none
  pollIntervalSeconds : Int := 300
  notes : Option String := none
  integrationStatus : String := "active"
  sharingScope : Option String := none
  integrationStatusObservedAt : Option Instant := none
deriving DecidableEq

structure AuditLogRow where
  operatorId : Uuid
  action : String
  targetKind : String
  targetId : String
  leaId : Option LeaId
  reason : String
  detail : Dict
  createdAt : Instant
deriving DecidableEq

/-- The tables the verbs read and write; `leas` maps an id to its `deleted_at`. -/
structure AuthzStore where
  leas : Table LeaId (Option Instant)
  authorizations : Table Uuid AuthorizationRow
  auditLog : List AuditLogRow

/-- A row, or an entry of the partial unique index. -/
inductive AuthzLock where
  | row (id : Uuid)
  | live (leaId : LeaId) (partner : String)
deriving DecidableEq

inductive AuthzError where
  | leaNotFound (leaId : LeaId)
  | noLiveRow (leaId : LeaId) (partner : String)
  | valueError
  | integrityError
deriving DecidableEq

def pollIntervalMin : Int := 60
def pollIntervalMax : Int := 3600

/-- The text of the exception; Postgres writes its own. -/
def AuthzError.message : AuthzError → Option String
  | .leaNotFound leaId => some ("LEA " ++ Json.reprStr leaId ++ " not found or deleted.")
  | .noLiveRow leaId partner =>
    some ("No live connector_authorization for " ++ Json.reprStr leaId ++ " on "
      ++ Json.reprStr partner ++ ".")
  | .valueError =>
    some ("poll_interval_seconds must be between " ++ toString pollIntervalMin ++ " and "
      ++ toString pollIntervalMax ++ ".")
  | .integrityError => none

/-! ### The verbs -/

/-- What every verb of the service is called with, and the time it starts at. -/
structure Call where
  leaId : LeaId
  partner : String
  operatorId : Uuid
  reason : String
  now : Instant

/-- `IntegrationStatusSnapshot`. -/
structure IntegrationSnapshot where
  status : String
  sharingScope : String
  observedAt : Instant

inductive Verb where
  | authorize (call : Call) (pollIntervalSeconds : Option Int) (notes : Option String)
      (newId : Uuid)
  | revoke (call : Call)
  | adjustPollInterval (call : Call) (newPollIntervalSeconds : Int)
  | pollAndPersist (leaId : LeaId) (partner : String) (snapshot : IntegrationSnapshot)

/-- What `_load_live_row` returns. -/
structure LiveRow where
  id : Uuid
  status : ConnectorStatus
  pollIntervalSeconds : Int
deriving DecidableEq

inductive Outcome where
  | authorized (id : Uuid) (status : ConnectorStatus) (pollIntervalSeconds : Int)
      (createdNewRow : Bool)
  | revoked (id : Uuid) (revokedAt : Instant)
  | adjusted (id : Uuid) (previous new : Int)
  | polled (record : Option (String × String × Instant))
deriving DecidableEq

/-- The next statement of a verb. -/
inductive AuthzPc where
  | assertLea
  | load
  | awaitIndex (interval : Int)
  | insert (interval : Int)
  | activate (current : LiveRow) (interval : Int)
  | update (current : LiveRow)
  | poll
  | audit (row : AuditLogRow) (outcome : Outcome)
  | commit (outcome : Outcome)
  | fail (error : AuthzError)
deriving DecidableEq

/-- `_validate_interval`. -/
def validInterval (seconds : Int) : Bool :=
  pollIntervalMin ≤ seconds && seconds ≤ pollIntervalMax

/-- `… if poll_interval_seconds is not None else default`. -/
def chooseInterval (given : Option Int) (default : Int) : Option Int :=
  match given with
  | none => some default
  | some seconds => if validInterval seconds then some seconds else none

/-- The live rows of a pair. -/
def AuthzStore.liveRows (s : AuthzStore) (leaId : LeaId) (partner : String) :
    List (Uuid × AuthorizationRow) :=
  (Table.rows s.authorizations).filter fun r =>
    r.2.leaId = leaId && r.2.partner = partner && r.2.revokedAt.isNone

/-- `_load_live_row`. -/
def AuthzStore.loadLiveRow (s : AuthzStore) (leaId : LeaId) (partner : String) : Option LiveRow :=
  (s.liveRows leaId partner).head?.map fun r =>
    { id := r.1, status := r.2.status, pollIntervalSeconds := r.2.pollIntervalSeconds }

/-- `UPDATE connector_authorization … WHERE id`. -/
def AuthzStore.modifyRow (s : AuthzStore) (id : Uuid) (f : AuthorizationRow → AuthorizationRow) :
    AuthzStore :=
  { s with authorizations := Table.modify s.authorizations id f }

def AuthzStore.insertRow (s : AuthzStore) (id : Uuid) (row : AuthorizationRow) : AuthzStore :=
  { s with authorizations := s.authorizations.insert id row }

/-- `_write_audit_log`. -/
def AuthzStore.writeAuditLog (s : AuthzStore) (row : AuditLogRow) : AuthzStore :=
  { s with auditLog := s.auditLog ++ [row] }

/-- `UPDATE connector_authorization SET status = 'active', …` on a pending row. -/
def activateRow (call : Call) (interval : Int) (notes : Option String) (row : AuthorizationRow) :
    AuthorizationRow :=
  { row with
    status := .active
    authorizedAt := some call.now
    authorizedBy := some call.operatorId
    pollIntervalSeconds := interval
    notes := notes.or row.notes }

/-- `UPDATE connector_authorization SET status = 'revoked', revoked_at, revoked_by`. -/
def revokeRow (call : Call) (row : AuthorizationRow) : AuthorizationRow :=
  { row with status := .revoked, revokedAt := some call.now, revokedBy := some call.operatorId }

/-- `UPDATE connector_authorization SET poll_interval_seconds`. -/
def setInterval (interval : Int) (row : AuthorizationRow) : AuthorizationRow :=
  { row with pollIntervalSeconds := interval }

/-- `UPDATE connector_authorization SET integration_status, …`. -/
def observe (snapshot : IntegrationSnapshot) (row : AuthorizationRow) : AuthorizationRow :=
  { row with
    integrationStatus := snapshot.status
    sharingScope := some snapshot.sharingScope
    integrationStatusObservedAt := some snapshot.observedAt }

/-- `ck_connector_authorization_integration_status`. -/
def integrationStatuses : List String :=
  ["inactive", "active", "requested", "disabled", "destroyed"]

/-- The row `_write_audit_log` inserts for a verb. -/
def auditRow (call : Call) (action : String) (targetId : Uuid) (detail : Dict) : AuditLogRow where
  operatorId := call.operatorId
  action := action
  targetKind := "connector_authorization"
  targetId := targetId
  leaId := some call.leaId
  reason := call.reason
  detail := ("partner", .str call.partner) :: detail
  createdAt := call.now

/-- The end of `authorize`, by the row it leaves and the status it found. -/
def authorizedPc (call : Call) (id : Uuid) (status : ConnectorStatus) (interval : Int)
    (created : Bool) (previous : Option ConnectorStatus) : AuthzPc :=
  .audit
    (auditRow call "connector.authorized" id
      [("previous_status", .ofOption (previous.map ConnectorStatus.value)),
        ("created_new_row", .bool created)])
    (.authorized id status interval created)

/-- What a verb does with the live row it has loaded. -/
def Verb.loaded : Verb → Option LiveRow → AuthzPc
  | .authorize _ pollIntervalSeconds _ _, none =>
    match chooseInterval pollIntervalSeconds 300 with
    | none => .fail .valueError
    | some interval => .awaitIndex interval
  | .authorize call pollIntervalSeconds _ _, some current =>
    if current.status = .pending then
      match chooseInterval pollIntervalSeconds current.pollIntervalSeconds with
      | none => .fail .valueError
      | some interval => .activate current interval
    else
      authorizedPc call current.id current.status current.pollIntervalSeconds false
        (some current.status)
  | .revoke call, none => .fail (.noLiveRow call.leaId call.partner)
  | .revoke _, some current => .update current
  | .adjustPollInterval call _, none => .fail (.noLiveRow call.leaId call.partner)
  | .adjustPollInterval _ _, some current => .update current
  | .pollAndPersist .., _ => .poll

/-- The pair a verb is about. -/
def Verb.pair : Verb → LeaId × String
  | .authorize call _ _ _ => (call.leaId, call.partner)
  | .revoke call => (call.leaId, call.partner)
  | .adjustPollInterval call _ => (call.leaId, call.partner)
  | .pollAndPersist leaId partner _ => (leaId, partner)

/-- The first statement; the new interval is validated before the session opens. -/
def Verb.begin : Verb → AuthzPc
  | .authorize .. => .assertLea
  | .revoke _ => .load
  | .adjustPollInterval _ new => if validInterval new then .load else .fail .valueError
  | .pollAndPersist .. => .poll

abbrev AuthzStatement :=
  ReadCommitted.Statement AuthzStore AuthzLock AuthzPc Outcome AuthzError

/-- The `UPDATE … WHERE id` of a verb, with the audit row that follows it.  The other verbs
never come here. -/
def Verb.updateStatement (current : LiveRow) : Verb → AuthzStatement
  | .revoke call =>
    .exec [.row current.id] (·.modifyRow current.id (revokeRow call))
      (.audit
        (auditRow call "connector.revoked" current.id
          [("previous_status", .str current.status.value)])
        (.revoked current.id call.now))
  | .adjustPollInterval call new =>
    .exec [.row current.id] (·.modifyRow current.id (setInterval new))
      (.audit
        (auditRow call "connector.poll_interval_adjusted" current.id
          [("previous_poll_interval_seconds", .int current.pollIntervalSeconds),
            ("new_poll_interval_seconds", .int new)])
        (.adjusted current.id current.pollIntervalSeconds new))
  | .authorize .. | .pollAndPersist .. => .raise .integrityError

/-- The statements of `authorize` alone; no other verb comes here. -/
def Verb.authorizeStatement (s : AuthzStore) (pc : AuthzPc) : Verb → AuthzStatement
  | .authorize call _ notes newId =>
    match pc with
    | .assertLea =>
      match s.leas.lookup call.leaId with
      | some none => .exec [] id .load
      | _ => .raise (.leaNotFound call.leaId)
    | .awaitIndex interval =>
      .exec (.live call.leaId call.partner ::
        (s.liveRows call.leaId call.partner).map fun r => .row r.1) id (.insert interval)
    | .insert interval =>
      if (s.authorizations.lookup newId).isSome ||
          !(s.liveRows call.leaId call.partner).isEmpty then
        .raise .integrityError
      else
        .exec [.row newId]
          (·.insertRow newId
            { leaId := call.leaId, partner := call.partner, status := .active
              authorizedAt := some call.now, authorizedBy := some call.operatorId
              pollIntervalSeconds := interval, notes := notes })
          (authorizedPc call newId .active interval true none)
    | .activate current interval =>
      .exec [.row current.id] (·.modifyRow current.id (activateRow call interval notes))
        (authorizedPc call current.id .active interval false (some .pending))
    | _ => .raise .integrityError
  | .revoke _ | .adjustPollInterval .. | .pollAndPersist .. => .raise .integrityError

/-- `UPDATE … WHERE lea_id AND partner AND revoked_at IS NULL`: the condition is looked at
again once the row is free. -/
def Verb.pollStatement (s : AuthzStore) : Verb → AuthzStatement
  | .pollAndPersist leaId partner snapshot =>
    let rows := s.liveRows leaId partner
    if rows = [] then .exec [] id (.commit (.polled none))
    else if snapshot.status ∉ integrationStatuses then .raise .integrityError
    else
      .exec (rows.map fun r => .row r.1)
        (fun s => rows.foldl (fun s r => s.modifyRow r.1 (observe snapshot)) s)
        (.commit (.polled (some (snapshot.status, snapshot.sharingScope, snapshot.observedAt))))
  | .authorize .. | .revoke _ | .adjustPollInterval .. => .raise .integrityError

/-- The verb's transaction, statement by statement. -/
def Verb.statement (verb : Verb) (pc : AuthzPc) (s : AuthzStore) : AuthzStatement :=
  match pc with
  | .load => .exec [] id (verb.loaded (s.loadLiveRow verb.pair.1 verb.pair.2))
  | .update current => verb.updateStatement current
  | .poll => verb.pollStatement s
  | .audit row outcome => .exec [] (·.writeAuditLog row) (.commit outcome)
  | .commit outcome => .commit outcome
  | .fail error => .raise error
  | .assertLea | .awaitIndex _ | .insert _ | .activate _ _ => verb.authorizeStatement s pc

/-! ### The sweep -/

/-- The rows with `status = 'active'`. -/
def AuthzStore.activeRows (s : AuthzStore) : List (Uuid × AuthorizationRow) :=
  (Table.rows s.authorizations).filter fun r => r.2.status = .active

/-- `_active_authorizations`: the pairs of those rows, `ORDER BY lea_id, partner`. -/
def activeAuthorizations (pg : Postgres) (s : AuthzStore) : List (LeaId × String) :=
  (s.activeRows.map fun r => (r.2.leaId, r.2.partner)).insertionSort fun a b =>
    pg.textLe a.1 b.1 = true ∧ (a.1 = b.1 → pg.textLe a.2 b.2 = true)

end Authorizations
