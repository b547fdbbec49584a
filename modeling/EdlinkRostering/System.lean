/-
The system: the operations, run to completion one after another.

An operation that raises or is refused leaves the database as it was, except for
a bulk load, whose earlier transactions stay.  A run starts from the migrated
schema.

* `Store.exec` — the state after one operation;
* `Store.exec_cases` — an operation leaves the state alone or has the effect its
  service documents.
-/
import EdlinkRostering.Runs
import EdlinkRostering.Quarantine
import EdlinkRostering.Retry
import EdlinkRostering.BulkLoad

/-- One operation of the services, with everything it is called with and draws. -/
inductive Op where
  | page (run : PageRun)
  | bulkLoad (run : BulkRun)
  | revert (run : RevertRun)
  | release (run : ReleaseRun)
  | reject (run : RejectRun)
  | retry (run : RetryRun)

/-- The state an operation that can fail leaves. -/
def commit {ε α : Type} (s : Store) : Except ε (Store × α) → Store
  | .ok (s', _) => s'
  | .error _ => s

/-- The state after one operation. -/
def Store.exec (pg : Postgres) (s : Store) : Op → Store
  | .page run => ((processOnePage pg run s).map Prod.fst).getD s
  | .bulkLoad run => (bulkLoad pg run s).1
  | .revert run => commit s (revert pg run s)
  | .release run => commit s (release run s)
  | .reject run => commit s (reject run s)
  | .retry run => commit s (retry run s)

/-- What an operation that went through did. -/
def Op.Effect (pg : Postgres) (s s' : Store) : Op → Prop
  | .page run => run.Commits pg s s'
  | .bulkLoad run => s' = s.exec pg (.bulkLoad run)
  | .revert run => ∃ outcome, Reverts pg run s s' outcome
  | .release run => Releases run s s'
  | .reject run => ∃ row, s.quarantine[run.quarantineId]? = some row ∧ row.resolvedAt = none ∧
      s' = s.markResolved run.quarantineId run.now "rejected" run.operatorIdentity
        (some (run.fullReason row))
  | .retry run => ∃ target, s.syncJobs.lookup run.syncJobId = some target ∧
      s'.cursorState
        = (rewindCursor s target.leaId target.partner target.cursorBefore run.now).cursorState ∧
      s' = { s with
        cursorState := s'.cursorState, retryActions := s.retryActions ++ [run.action target] }

theorem commit_cases {ε α : Type} {P : Store → Prop} {s : Store} {result : Except ε (Store × α)}
    (h : ∀ s' a, result = .ok (s', a) → P s') : commit s result = s ∨ P (commit s result) := by
  cases result with
  | error e => exact Or.inl rfl
  | ok p => exact Or.inr (h p.1 p.2 rfl)

theorem Store.exec_cases (pg : Postgres) (s : Store) (op : Op) :
    s.exec pg op = s ∨ op.Effect pg s (s.exec pg op) := by
  cases op with
  | page run =>
    rw [exec]
    cases h : processOnePage pg run s with
    | none => exact Or.inl rfl
    | some p => exact Or.inr (processOnePage_eq_some h).1
  | bulkLoad run => exact Or.inr rfl
  | revert run =>
    exact commit_cases (P := fun s' => Op.Effect pg s s' (.revert run)) fun s' outcome h =>
      ⟨outcome, revert_eq_ok h⟩
  | release run =>
    exact commit_cases (P := fun s' => Op.Effect pg s s' (.release run)) fun s' outcome h =>
      release_eq_ok h
  | reject run =>
    exact commit_cases (P := fun s' => Op.Effect pg s s' (.reject run)) fun s' outcome h =>
      reject_eq_ok h
  | retry run =>
    exact commit_cases (P := fun s' => Op.Effect pg s s' (.retry run)) fun s' outcome h =>
      retry_eq_ok h

/-! ### A small district -/

namespace Fixture

/-- The first day of the school year. -/
def schoolYear : Date := ⟨2026, 8, 3, by decide, by decide, by decide, by decide, by decide,
  by decide⟩

def student (leaId : LeaId) (id : StudentId) (grade : Option String := none)
    (externalIds : Dict := []) : CanonicalEntity :=
  .student
    { id := id, leaId := leaId, givenName := "Alex", familyName := "Diaz", grade := grade
      externalIds := externalIds }

def enrollment (leaId : LeaId) (id : EnrollmentId) (studentId : StudentId)
    (classId : String := "class-1") : CanonicalEntity :=
  .enrollment
    { id := id, leaId := leaId, studentId := studentId, classId := classId
      beginDate := .date schoolYear }

def lea (id : LeaId) (name : String := "Unified") : CanonicalEntity :=
  .lea { id := id, name := name, leaType := .traditionalDistrict, state := "CA" }

def entityType : CanonicalEntity → EntityType
  | .lea _ => .lea
  | .student _ => .student
  | .enrollment _ => .enrollment

def event (leaId : LeaId) (eventId : EventId) (entity : CanonicalEntity)
    (operation : Operation := .created) : NormalizedEvent where
  eventId := eventId
  leaId := leaId
  entityType := entityType entity
  operation := operation
  entity := entity
  sourceEventId := eventId
  occurredAt := 7

/-- A well-formed page that ends the log. -/
def page (events : List NormalizedEvent) : EventPage where
  events := events
  nextCursor := { value := (events.getLast?.map (·.eventId)).getD "", observedAt := some 7 }
  hasMore := false
  layer1Check :=
    { ok := true, httpStatus := 200, contentType := "application/json", bodyWellFormed := true }

/-- The commit of such a page for `leaId`. -/
def pageOp (leaId : LeaId) (syncJobId : Uuid) (events : List NormalizedEvent) : Op :=
  .page
    { leaId := leaId, partner := "edlink", page := page events, syncJobId := syncJobId, now := 10 }

def releaseOp (quarantineId : Nat) (generation : Uuid) : Op :=
  .release
    { quarantineId := quarantineId, operatorIdentity := "op", releaseGenerationId := generation
      now := 20 }

def revertOp (syncJobId generation : Uuid) : Op :=
  .revert
    { syncJobId := syncJobId, operatorIdentity := "op", reason := "bad batch"
      revertGenerationId := generation, now := 30 }

def bulkOp (leaId : LeaId) (syncJobId : Uuid) (students : List StudentEntry)
    (enrollments : List EnrollmentEntry := []) : Op :=
  .bulkLoad
    { leaId := leaId, partner := "edlink", syncJobId := syncJobId
      payload := { students := students, enrollments := enrollments }
      latest := { value := "evt_900" }, clock := fun _ => 40 }

/-- A run from the migrated schema on the reference database. -/
def after (ops : List Op) : Store := Runs.run (Store.exec Postgres.reference) Store.empty ops

end Fixture
