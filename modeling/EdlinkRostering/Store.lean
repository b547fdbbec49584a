/-
The database: the roster and the tables that record how it came about.

One `Store` is a committed state of the Postgres schema, restricted to the
columns the services read or write.  Foreign keys to `sync_jobs` are not
modelled: every service inserts its job before it writes a row that names it.

* `Store.insertSyncJob` — the one insert whose primary key can be taken;
* `Store.leaState` — what the validation pipeline reads of an LEA.
-/
import EdlinkRostering.Roster
import EdlinkRostering.Validation

/-! ### Rows -/

inductive JobStatus where
  | running
  | success
  | failed
  | revert
  | quarantineRelease
  | bulkLoad
deriving DecidableEq, Repr

structure SyncJobRow where
  leaId : LeaId
  partner : String
  status : JobStatus
  startedAt : Instant
  completedAt : Option Instant := none
  eventCount : Nat := 0
  errorCount : Nat := 0
  warningCount : Nat := 0
  cursorBefore : Option String := none
  cursorAfter : Option String := none
  errorSummary : Option String := none
deriving DecidableEq

structure ValidationResultRow where
  syncJobId : Uuid
  layer : Nat
  code : String
  payloadReference : Option EventId
  detail : List (String × DetailValue)
  createdAt : Instant
deriving DecidableEq

/-- The `id` is a column default, modelled as the position of the row in its
table. -/
structure QuarantineRow where
  syncJobId : Uuid
  leaId : LeaId
  entityType : String
  entityId : String
  reason : String
  rawPayload : Json
  createdAt : Instant
  resolvedAt : Option Instant := none
  resolutionStatus : Option String := none
  resolutionOperator : Option String := none
deriving DecidableEq

structure RevertActionRow where
  syncJobId : Uuid
  revertGenerationId : Uuid
  operatorIdentity : String
  reason : String
  revertedAt : Instant
  snapshotsRestored : Nat
deriving DecidableEq

structure RetryActionRow where
  syncJobId : Uuid
  leaId : LeaId
  partner : String
  operatorIdentity : String
  reason : String
  retriedAt : Instant
  cursorRewoundTo : Option String
  forced : Bool
deriving DecidableEq

structure CursorStateRow where
  lastEventId : Option String
  lastEventAt : Option Instant
  lastPollAt : Option Instant
  coldStartRequired : Bool
  updatedAt : Instant
deriving DecidableEq

/-- A committed state of the database. -/
structure Store where
  roster : Roster
  syncJobs : Table Uuid SyncJobRow
  syncValidationResults : List ValidationResultRow
  quarantine : List QuarantineRow
  revertActions : List RevertActionRow
  retryActions : List RetryActionRow
  cursorState : Table (LeaId × String) CursorStateRow

namespace Store

/-- The migrated schema before any row is written. -/
def empty : Store where
  roster := Roster.empty
  syncJobs := ∅
  syncValidationResults := []
  quarantine := []
  revertActions := []
  retryActions := []
  cursorState := ∅

/-! ### Writes -/

/-- A statement that touches the roster alone. -/
def withRoster (s : Store) (r : Roster) : Store := { s with roster := r }

/-- `INSERT INTO sync_jobs`; `none` when the primary key is taken. -/
def insertSyncJob (s : Store) (id : Uuid) (row : SyncJobRow) : Option Store :=
  if s.syncJobs.lookup id = none then some { s with syncJobs := s.syncJobs.insert id row }
  else none

/-- `UPDATE sync_jobs SET … WHERE id`. -/
def updateSyncJob (s : Store) (id : Uuid) (f : SyncJobRow → SyncJobRow) : Store :=
  { s with syncJobs := Table.modify s.syncJobs id f }

/-- `INSERT INTO quarantine`. -/
def insertQuarantine (s : Store) (row : QuarantineRow) : Store :=
  { s with quarantine := s.quarantine ++ [row] }

/-! ### Reads -/

/-- `SELECT id FROM students WHERE lea_id`: soft-deleted students are included. -/
def readKnownStudentIds (s : Store) (leaId : LeaId) : List StudentId :=
  ((Table.rows s.roster.students).filter fun r => r.2.leaId = leaId).map Prod.fst

/-- `SELECT COUNT(*) FROM students WHERE lea_id AND deleted_at IS NULL`. -/
def readLiveStudentCount (s : Store) (leaId : LeaId) : Nat :=
  (Table.rows s.roster.students).countP fun r => r.2.leaId = leaId && r.2.deletedAt.isNone

/-- The snapshots a job wrote with `deleted_upstream`, over the three tables. -/
def deletionCount (s : Store) (jobId : Uuid) : Nat :=
  let count (et : EntityType) : Nat :=
    (s.roster.snapshots et).rows.countP fun row => row.generationId = jobId && row.deletedUpstream
  count .student + count .enrollment + count .lea

/-- `_read_recent_sync_history`: the last 30 successful jobs of the LEA and the
partner, newest first. -/
def readRecentSyncHistory (s : Store) (leaId : LeaId) (partner : String) : List Nat × List Nat :=
  let jobs := (((Table.rows s.syncJobs).filter fun j =>
    j.2.leaId = leaId && j.2.partner = partner && j.2.status = .success).insertionSort
      fun a b => b.2.startedAt ≤ a.2.startedAt).take 30
  (jobs.map (·.2.eventCount), jobs.map fun j => s.deletionCount j.1)

/-- The LEA-scoped view a page is validated against. -/
def leaState (s : Store) (leaId : LeaId) (partner : String) : LEAState :=
  let history := s.readRecentSyncHistory leaId partner
  { leaId := leaId
    knownStudentIds := s.readKnownStudentIds leaId
    liveStudentCount := s.readLiveStudentCount leaId
    recentEventCounts := history.1
    recentDeletionCounts := history.2 }

/-- `_read_cursor`: an empty cursor if the row is absent. -/
def readCursor (s : Store) (leaId : LeaId) (partner : String) : Cursor :=
  match s.cursorState.lookup (leaId, partner) with
  | none => { value := "" }
  | some row => { value := row.lastEventId.getD "", observedAt := row.lastEventAt }

theorem insertSyncJob_eq_some {s s' : Store} {id : Uuid} {row : SyncJobRow} :
    s.insertSyncJob id row = some s' ↔
      s.syncJobs.lookup id = none ∧ s' = { s with syncJobs := s.syncJobs.insert id row } := by
  rw [insertSyncJob]
  split
  · next h => simp [h, eq_comm]
  · next h => simp [h]

theorem mem_readKnownStudentIds {s : Store} {leaId : LeaId} {id : StudentId} :
    id ∈ s.readKnownStudentIds leaId ↔ s.roster.studentExists leaId id = true := by
  rw [Roster.studentExists_iff]
  simp only [readKnownStudentIds, List.mem_map, List.mem_filter, decide_eq_true_eq, Prod.exists]
  constructor
  · rintro ⟨id, row, ⟨hm, hl⟩, rfl⟩
    exact ⟨row, Table.mem_rows.mp hm, hl⟩
  · rintro ⟨row, hm, hl⟩
    exact ⟨id, row, ⟨Table.mem_rows.mpr hm, hl⟩, rfl⟩

end Store
