/-
The tables behind the admin API.

The read endpoints see more of the schema than the sync services write: the directory
columns of `leas`, the operators with their roles and grants, the audit tables with their
ids.  A table is a `Table`, whose rows come back in the order they stand in it where a
query leaves ties.

* `AdminDatabase` — a committed state;
* `Operator` — who is asking, as the request's dependency loads it.
-/
import EdlinkRostering.Store
import EdlinkRostering.Authorizations

/-- The text of `sync_jobs.status`. -/
def JobStatus.value : JobStatus → String
  | .running => "running"
  | .success => "success"
  | .failed => "failed"
  | .revert => "revert"
  | .quarantineRelease => "quarantine_release"
  | .bulkLoad => "bulk_load"

namespace Admin

open Authorizations (AuthorizationRow AuditLogRow)

/-! ### Rows -/

inductive LeaStatus where
  | onboarding
  | active
  | decommissioned
deriving DecidableEq, Repr

/-- A row of `leas` with the columns the onboarding flow added. -/
structure LeaDirectoryRow extends LeaRow where
  status : LeaStatus := .onboarding
  edlinkIntegrationId : Option String := none
deriving DecidableEq

inductive ReconciliationRunStatus where
  | matched
  | driftDetected
  | skippedQuietWindow
  | failed
deriving DecidableEq, Repr

def ReconciliationRunStatus.value : ReconciliationRunStatus → String
  | .matched => "matched"
  | .driftDetected => "drift_detected"
  | .skippedQuietWindow => "skipped_quiet_window"
  | .failed => "failed"

/-- One entry of `drift_summary`. -/
structure DriftDetailRow where
  entityType : String
  canonicalOnlyIds : List String
  partnerOnlyIds : List String
  canonicalMidHash : String
  partnerMidHash : String
deriving DecidableEq

structure ReconciliationRunRow where
  leaId : LeaId
  partner : String
  startedAt : Instant
  completedAt : Option Instant
  status : ReconciliationRunStatus
  canonicalRootHash : String
  partnerRootHash : Option String := none
  driftSummary : Option (List DriftDetailRow) := none
  errorMessage : Option String := none
deriving DecidableEq

inductive OperatorStatus where
  | active
  | disabled
  | locked
deriving DecidableEq, Repr

def OperatorStatus.value : OperatorStatus → String
  | .active => "active"
  | .disabled => "disabled"
  | .locked => "locked"

inductive Role where
  | operator
  | admin
  | owner
  | auditor
deriving DecidableEq, Repr

structure OperatorRow where
  subject : String
  displayName : String
  email : String
  status : OperatorStatus := .active
deriving DecidableEq

structure OperatorRoleRow where
  operatorId : Uuid
  role : Role
  revokedAt : Option Instant := none
deriving DecidableEq

structure OperatorLeaGrantRow where
  operatorId : Uuid
  leaId : LeaId
  revokedAt : Option Instant := none
deriving DecidableEq

/-! ### The database -/

/-- The tables the read endpoints select from. -/
structure AdminDatabase where
  leas : Table LeaId LeaDirectoryRow := ∅
  students : Table StudentId StudentRow := ∅
  enrollments : Table EnrollmentId EnrollmentRow := ∅
  syncJobs : Table Uuid SyncJobRow := ∅
  quarantine : Table Uuid QuarantineRow := ∅
  revertActions : Table Uuid RevertActionRow := ∅
  retryActions : Table Uuid RetryActionRow := ∅
  cursorState : Table (LeaId × String) CursorStateRow := ∅
  authorizations : Table Uuid AuthorizationRow := ∅
  auditLog : Table Uuid AuditLogRow := ∅
  reconciliationRuns : Table Uuid ReconciliationRunRow := ∅
  operators : Table Uuid OperatorRow := ∅
  operatorRoles : Table Uuid OperatorRoleRow := ∅
  operatorLeaGrants : Table Uuid OperatorLeaGrantRow := ∅

/-- The authenticated operator of a request. -/
structure Operator where
  id : Uuid
  subject : String
  email : String
  displayName : String
  role : Role
  status : OperatorStatus := .active
  authorizedLeas : List LeaId

/-- The collation, the text a `timestamptz` becomes inside a JSON value, and the one the
driver's `datetime` prints. -/
structure AdminPostgres extends Postgres where
  timestamptz : Instant → String
  isoformat : Instant → String

/-- `ORDER BY`, `<` and `=` on text go by one total order. -/
structure TextOrdered (pg : Postgres) : Prop where
  total : ∀ a b, pg.textLe a b = true ∨ pg.textLe b a = true
  trans : ∀ a b c, pg.textLe a b = true → pg.textLe b c = true → pg.textLe a c = true
  antisymm : ∀ a b, pg.textLe a b = true → pg.textLe b a = true → a = b

/-- The operator `<` on text. -/
def textLt (pg : Postgres) (a b : String) : Bool := pg.textLe a b && a ≠ b

theorem textLt_irrefl (pg : Postgres) (a : String) : textLt pg a a = false := by
  simp [textLt]

theorem TextOrdered.textLt_trans {pg : Postgres} (h : TextOrdered pg) {a b c : String}
    (hab : textLt pg a b = true) (hbc : textLt pg b c = true) : textLt pg a c = true := by
  simp only [textLt, ne_eq, decide_not, Bool.and_eq_true, Bool.not_eq_true',
    decide_eq_false_iff_not] at hab hbc ⊢
  refine ⟨h.trans a b c hab.1 hbc.1, fun hac => ?_⟩
  subst hac
  exact hab.2 (h.antisymm a b hab.1 hbc.1)

/-- `lea_id = ANY(:leas)`, or no filter at all. -/
def inScope (scope : Option (List LeaId)) (leaId : LeaId) : Bool :=
  match scope with
  | none => true
  | some leas => leas.contains leaId

/-- The `C` collation orders text. -/
theorem textOrdered_reference : TextOrdered Postgres.reference where
  total a b := by
    simp only [Postgres.reference, decide_eq_true_eq]
    exact le_total a b
  trans a b c := by
    simp only [Postgres.reference, decide_eq_true_eq]
    exact fun hab hbc => le_trans hab hbc
  antisymm a b := by
    simp only [Postgres.reference, decide_eq_true_eq]
    exact fun hab hba => le_antisymm hab hba

/-- A reference database; an instant is written as its microseconds. -/
def AdminPostgres.reference : AdminPostgres :=
  { Postgres.reference with timestamptz := toString, isoformat := toString }

end Admin
