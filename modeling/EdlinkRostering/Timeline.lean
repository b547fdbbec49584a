/-
The activity timeline and its pages.

Transcribed from `services/admin_timeline.py` and `api/routers/audit.py`.  Seven selects
have one shape and are united; the scope narrows each of them, the other filters and the
cursor narrow the union, which is then ordered and cut.

* `timelineRows` — the union;
* `listTimeline` — `list_timeline`;
* `listAuditEntries` — one page of the audit explorer.
-/
import EdlinkRostering.AdminDatabase
import EdlinkRostering.Keyset

namespace Admin

open Authorizations (AuthorizationRow AuditLogRow)

inductive TimelineSource where
  | auditLog
  | syncJobs
  | revertActions
  | retryActions
  | quarantineCreated
  | quarantineResolved
  | reconciliationRuns
deriving DecidableEq, Repr

inductive ActorKind where
  | operator
  | system
deriving DecidableEq, Repr

/-- `till` is the source's `until`, a keyword here. -/
structure TimelineFilter where
  leaIds : Option (List LeaId) := none
  operatorId : Option String := none
  actionPrefix : Option String := none
  since : Option Instant := none
  till : Option Instant := none
  cursorOccurredAt : Option Instant := none
  cursorId : Option String := none
  limit : Nat := 50

structure TimelineEntry where
  id : String
  source : TimelineSource
  occurredAt : Instant
  actorKind : ActorKind
  actorEmail : Option String
  action : String
  reason : Option String
  targetKind : String
  targetId : String
  detail : Option Dict
deriving DecidableEq

/-- A row of the union: the entry and the column only the filter reads. -/
structure TimelineRow extends TimelineEntry where
  operatorId : Option String := none
deriving DecidableEq

/-! ### The branches of the union -/

variable (pg : AdminPostgres) (db : AdminDatabase)

/-- `LEFT JOIN operator op ON op.id = …`. -/
def emailOf (id : Uuid) : Option String := (db.operators.lookup id).map OperatorRow.email

/-- A `timestamptz` column inside `jsonb_build_object`. -/
def timestampJson (instant : Option Instant) : Json := .ofOption (instant.map pg.timestamptz)

/-- `audit`: rows without an LEA are left out. -/
def auditBranch (scope : Option (List LeaId)) : List TimelineRow :=
  (Table.rows db.auditLog).filterMap fun (id, al) =>
    match al.leaId with
    | none => none
    | some leaId =>
      if inScope scope leaId then
        some
          { id := id, source := .auditLog, occurredAt := al.createdAt, actorKind := .operator
            actorEmail := emailOf db al.operatorId, action := al.action, reason := some al.reason
            targetKind := al.targetKind, targetId := al.targetId, detail := some al.detail
            operatorId := some al.operatorId }
      else none

/-- `syncs`. -/
def syncEntry (id : Uuid) (sj : SyncJobRow) : TimelineRow where
  id := id
  source := .syncJobs
  occurredAt := sj.startedAt
  actorKind := .system
  actorEmail := none
  action := "sync." ++ sj.status.value
  reason := sj.errorSummary
  targetKind := "sync_job"
  targetId := id
  detail := some
    [("partner", .str sj.partner), ("lea_id", .str sj.leaId),
      ("event_count", .int sj.eventCount), ("error_count", .int sj.errorCount),
      ("warning_count", .int sj.warningCount), ("completed_at", timestampJson pg sj.completedAt),
      ("cursor_before", .ofOption sj.cursorBefore), ("cursor_after", .ofOption sj.cursorAfter)]

def syncsBranch (scope : Option (List LeaId)) : List TimelineRow :=
  (Table.rows db.syncJobs).filterMap fun (id, sj) =>
    if inScope scope sj.leaId then some (syncEntry pg id sj) else none

/-- `reverts`: the LEA is the job's. -/
def revertsBranch (scope : Option (List LeaId)) : List TimelineRow :=
  (Table.rows db.revertActions).filterMap fun (id, ra) =>
    match db.syncJobs.lookup ra.syncJobId with
    | none => none
    | some sj =>
      if inScope scope sj.leaId then
        some
          { id := id, source := .revertActions, occurredAt := ra.revertedAt
            actorKind := .operator, actorEmail := some ra.operatorIdentity
            action := "sync.revert", reason := some ra.reason
            targetKind := "sync_job", targetId := ra.syncJobId
            detail := some
              [("lea_id", .str sj.leaId), ("snapshots_restored", .int ra.snapshotsRestored),
                ("revert_generation_id", .str ra.revertGenerationId)] }
      else none

/-- `retries`. -/
def retriesBranch (scope : Option (List LeaId)) : List TimelineRow :=
  (Table.rows db.retryActions).filterMap fun (id, rt) =>
    if inScope scope rt.leaId then
      some
        { id := id, source := .retryActions, occurredAt := rt.retriedAt, actorKind := .operator
          actorEmail := some rt.operatorIdentity, action := "sync.retry_requested"
          reason := some rt.reason, targetKind := "sync_job", targetId := rt.syncJobId
          detail := some
            [("partner", .str rt.partner), ("lea_id", .str rt.leaId), ("forced", .bool rt.forced),
              ("cursor_rewound_to", .ofOption rt.cursorRewoundTo)] }
    else none

/-- `quarantine_created`. -/
def quarantineCreatedBranch (scope : Option (List LeaId)) : List TimelineRow :=
  (Table.rows db.quarantine).filterMap fun (id, q) =>
    if inScope scope q.leaId then
      some
        { id := id ++ "#created", source := .quarantineCreated, occurredAt := q.createdAt
          actorKind := .system, actorEmail := none, action := "quarantine.created"
          reason := some q.reason, targetKind := "quarantine_row", targetId := id
          detail := some
            [("lea_id", .str q.leaId), ("entity_type", .str q.entityType),
              ("entity_id", .str q.entityId), ("sync_job_id", .str q.syncJobId)] }
    else none

/-- `quarantine_resolved`: the same rows once more when they are resolved. -/
def quarantineResolvedBranch (scope : Option (List LeaId)) : List TimelineRow :=
  (Table.rows db.quarantine).filterMap fun (id, q) =>
    match q.resolvedAt with
    | none => none
    | some resolvedAt =>
      if inScope scope q.leaId then
        some
          { id := id ++ "#resolved", source := .quarantineResolved, occurredAt := resolvedAt
            actorKind := .operator, actorEmail := q.resolutionOperator
            action := "quarantine." ++ q.resolutionStatus.getD "resolved", reason := none
            targetKind := "quarantine_row", targetId := id
            detail := some
              [("lea_id", .str q.leaId), ("entity_type", .str q.entityType),
                ("entity_id", .str q.entityId),
                ("resolution_status", .ofOption q.resolutionStatus)] }
      else none

/-- `reconciliations`. -/
def reconciliationsBranch (scope : Option (List LeaId)) : List TimelineRow :=
  (Table.rows db.reconciliationRuns).filterMap fun (id, rr) =>
    if inScope scope rr.leaId then
      some
        { id := id, source := .reconciliationRuns, occurredAt := rr.startedAt
          actorKind := .system, actorEmail := none
          action := "reconciliation." ++ rr.status.value, reason := rr.errorMessage
          targetKind := "reconciliation_run", targetId := id
          detail := some
            [("partner", .str rr.partner), ("lea_id", .str rr.leaId),
              ("canonical_root_hash", .str rr.canonicalRootHash),
              ("partner_root_hash", .ofOption rr.partnerRootHash),
              ("completed_at", timestampJson pg rr.completedAt),
              ("drift_count", .int ((rr.driftSummary.getD []).length))] }
    else none

/-- The `UNION ALL`. -/
def timelineRows (scope : Option (List LeaId)) : List TimelineRow :=
  auditBranch db scope ++ syncsBranch pg db scope ++ revertsBranch db scope
    ++ retriesBranch db scope ++ quarantineCreatedBranch db scope
    ++ quarantineResolvedBranch db scope ++ reconciliationsBranch pg db scope

/-! ### The query -/

/-- `LIKE`, the pattern first: `%` is any text, `_` any character, and a backslash takes
the next character as it is. -/
def like : List Char → List Char → Bool
  | [], text => text.isEmpty
  | '%' :: pattern, text => text.tails.any (like pattern)
  | '_' :: pattern, text =>
    match text with
    | [] => false
    | _ :: text => like pattern text
  | '\\' :: c :: pattern, text =>
    match text with
    | [] => false
    | d :: text => c = d && like pattern text
  | c :: pattern, text =>
    match text with
    | [] => false
    | d :: text => c = d && like pattern text

/-- The clause of the cursor; half a cursor is no cursor. -/
def cursorClause (filt : TimelineFilter) (row : TimelineEntry) : Bool :=
  match filt.cursorOccurredAt, filt.cursorId with
  | some occurredAt, some id =>
    row.occurredAt < occurredAt || (row.occurredAt = occurredAt && textLt pg.toPostgres row.id id)
  | _, _ => true

/-- `_outer_where`. -/
def outerWhere (filt : TimelineFilter) (row : TimelineRow) : Bool :=
  filt.operatorId.all (fun operatorId => row.operatorId = some operatorId)
    && filt.actionPrefix.all (fun pre => like (pre.toList ++ ['%']) row.action.toList)
    && filt.since.all (fun since => since ≤ row.occurredAt)
    && filt.till.all (fun till => row.occurredAt ≤ till)
    && cursorClause pg filt row.toTimelineEntry

/-- `ORDER BY occurred_at DESC, id DESC`. -/
def newestFirst (a b : TimelineEntry) : Prop :=
  b.occurredAt < a.occurredAt ∨ (a.occurredAt = b.occurredAt ∧ pg.textLe b.id a.id = true)

instance : DecidableRel (newestFirst pg) := fun a b => by
  unfold newestFirst
  infer_instance

/-- `list_timeline`; `_row_to_entry` drops the column of the filter. -/
def listTimeline (filt : TimelineFilter) : List TimelineEntry :=
  ((((timelineRows pg db filt.leaIds).filter (outerWhere pg filt)).map
    TimelineRow.toTimelineEntry).insertionSort (newestFirst pg)).take filt.limit

/-- `list_timeline_for_lea`. -/
def listTimelineForLea (leaId : LeaId) (limit : Nat) : List TimelineEntry :=
  listTimeline pg db { leaIds := some [leaId], limit := limit }

/-! ### The pages of the audit explorer -/

structure AuditCursor where
  occurredAt : Instant
  id : String
deriving DecidableEq

structure AuditExplorerPage where
  entries : List TimelineEntry
  nextCursor : Option AuditCursor
deriving DecidableEq

/-- The query parameters that do not change from page to page. -/
structure AuditFilter where
  operatorId : Option String := none
  actionPrefix : Option String := none
  since : Option Instant := none
  till : Option Instant := none

/-- `op.authorized_leas if op.role == "operator" else None`. -/
def Operator.scope (op : Operator) : Option (List LeaId) :=
  if op.role = .operator then some op.authorizedLeas else none

/-- `_next_cursor`. -/
def nextCursor (entries : List TimelineEntry) (limit : Nat) : Option AuditCursor :=
  if entries.length < limit then none
  else entries.getLast?.map fun last => { occurredAt := last.occurredAt, id := last.id }

/-- `list_audit_entries`. -/
def listAuditEntries (op : Operator) (filter : AuditFilter) (cursorOccurredAt : Option Instant)
    (cursorId : Option String) (limit : Nat) : AuditExplorerPage :=
  if op.role = .operator ∧ op.authorizedLeas = [] then { entries := [], nextCursor := none }
  else
    let entries := listTimeline pg db
      { leaIds := op.scope, operatorId := filter.operatorId, actionPrefix := filter.actionPrefix
        since := filter.since, till := filter.till, cursorOccurredAt := cursorOccurredAt
        cursorId := cursorId, limit := limit }
    { entries := entries, nextCursor := nextCursor entries limit }

end Admin
