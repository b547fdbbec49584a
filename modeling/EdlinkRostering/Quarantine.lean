/-
The quarantine service: release and reject.

Both follow `QuarantineService` statement by statement on one database state, the
case of an operator who is alone.  A release inserts its snapshot without a look
at the one that is live, and builds it from the quarantined payload alone.

* `release_eq_ok`, `reject_eq_ok` — what an accepted call wrote.
-/
import EdlinkRostering.Revert

inductive QuarantineError where
  | notFound (quarantineId : Nat)
  | alreadyResolved (quarantineId : Nat)
  | refused (message : String)
  /-- A statement raised. -/
  | database
deriving DecidableEq

def QuarantineError.message : QuarantineError → Option String
  | .notFound id => some ("quarantine_id " ++ toString id ++ " not found")
  | .alreadyResolved id =>
    some ("quarantine_id " ++ toString id ++ " was already resolved (see resolution_status).")
  | .refused message => some message
  | .database => none

/-- What a release is called with and draws. -/
structure ReleaseRun where
  quarantineId : Nat
  operatorIdentity : String
  releaseGenerationId : Uuid
  now : Instant

/-- What a reject is called with. -/
structure RejectRun where
  quarantineId : Nat
  operatorIdentity : String
  reason : String
  now : Instant

/-! ### The statements -/

/-- `_load_unresolved` on the row the `SELECT` returned. -/
def checkUnresolved (quarantineId : Nat) (row : Option QuarantineRow) :
    Except QuarantineError QuarantineRow :=
  match row with
  | none => .error (.notFound quarantineId)
  | some row =>
    if row.resolvedAt.isSome then .error (.alreadyResolved quarantineId) else .ok row

/-- The checks of a release on the row alone; the payload and its student. -/
def checkReleasable (row : QuarantineRow) : Except QuarantineError (Dict × StudentId) :=
  match row.rawPayload with
  | .obj payload =>
    if row.entityType ≠ "enrollment" then
      .error (.refused ("Quarantine release only supports enrollment rows; got entity_type="
        ++ Json.reprStr row.entityType ++ "."))
    else match Dict.get? payload "student_id" with
      | some (.str studentId) => .ok (payload, studentId)
      | _ => .error (.refused "Enrollment payload is missing 'student_id'.")
  | _ => .error (.refused "Quarantine raw_payload is not a JSON object; cannot release.")

/-- The refusal of a release whose student is still missing. -/
def studentMissing (leaId : LeaId) (studentId : StudentId) : QuarantineError :=
  .refused ("student_id=" ++ Json.reprStr studentId ++ " still does not exist for lea_id="
    ++ Json.reprStr leaId
    ++ ". Wait for the upstream person.created event or reject this quarantine row.")

/-- `_insert_release_sync_job_row`. -/
def ReleaseRun.job (run : ReleaseRun) (leaId : LeaId) : SyncJobRow where
  leaId := leaId
  partner := "operator"
  status := .quarantineRelease
  startedAt := run.now
  completedAt := some run.now
  eventCount := 1
  errorSummary := some ("release of quarantine row " ++ toString run.quarantineId)

/-- The snapshot of `_insert_enrollment_snapshot`; `none` where a column refuses
its value. -/
def ReleaseRun.snapshotRow (run : ReleaseRun) (leaId : LeaId) (payload : Dict) :
    Option SnapshotRow := do
  let naturalKey ← Dict.requiredColumn payload "id"
  let sourceEventId ← Dict.textColumn payload "source_event_id"
  some
    { naturalKey := naturalKey, leaId := leaId, generationId := run.releaseGenerationId
      deletedUpstream := false, sourceEventId := sourceEventId, sourceEventAt := some run.now
      createdAt := run.now, payload := payload }

/-- The id and the row of `_upsert_enrollment_canonical`. -/
def enrollmentOfPayload (leaId : LeaId) (payload : Dict) :
    Option (EnrollmentId × EnrollmentRow) := do
  let id ← Dict.requiredColumn payload "id"
  let studentId ← Dict.requiredColumn payload "student_id"
  let classId ← Dict.requiredColumn payload "class_id"
  let beginDate ← (parseIsoDate (Dict.get? payload "begin_date")).bind fun d => d
  let endDate ← parseIsoDate (Dict.get? payload "end_date")
  some (id, { leaId := leaId, studentId := studentId, classId := classId, beginDate := beginDate
              endDate := endDate })

/-- `_mark_resolved`. -/
def Store.markResolved (s : Store) (quarantineId : Nat) (resolvedAt : Instant)
    (resolutionStatus resolutionOperator : String) (reasonOverride : Option String := none) :
    Store :=
  { s with quarantine := s.quarantine.modify quarantineId fun row =>
    { row with
      resolvedAt := some resolvedAt, resolutionStatus := some resolutionStatus
      resolutionOperator := some resolutionOperator, reason := reasonOverride.getD row.reason } }

/-! ### Release and reject -/

structure ReleaseOutcome where
  quarantineId : Nat
  syncJobId : Uuid
  releaseGenerationId : Uuid
  entityType : String
  entityId : String
deriving DecidableEq

structure RejectOutcome where
  quarantineId : Nat
  rejectedAt : Instant
  reason : String
deriving DecidableEq

def ReleaseRun.outcome (run : ReleaseRun) (row : QuarantineRow) : ReleaseOutcome where
  quarantineId := run.quarantineId
  syncJobId := row.syncJobId
  releaseGenerationId := run.releaseGenerationId
  entityType := row.entityType
  entityId := row.entityId

def RejectRun.outcome (run : RejectRun) : RejectOutcome where
  quarantineId := run.quarantineId
  rejectedAt := run.now
  reason := run.reason

/-- The writes of a release whose checks have passed. -/
def releaseAccepted (run : ReleaseRun) (row : QuarantineRow) (payload : Dict) (s : Store) :
    Option Store := do
  let s ← s.insertSyncJob run.releaseGenerationId (run.job row.leaId)
  let snapshot ← run.snapshotRow row.leaId payload
  let r := s.roster.insertSnapshot .enrollment snapshot
  let (id, enrollment) ← enrollmentOfPayload row.leaId payload
  let r ← r.upsert id (.enrollment enrollment)
  some ((s.withRoster r).markResolved run.quarantineId run.now "released" run.operatorIdentity)

/-- `QuarantineService.release`. -/
def release (run : ReleaseRun) (s : Store) : Except QuarantineError (Store × ReleaseOutcome) := do
  let row ← checkUnresolved run.quarantineId s.quarantine[run.quarantineId]?
  let (payload, studentId) ← checkReleasable row
  if !s.roster.studentExists row.leaId studentId then .error (studentMissing row.leaId studentId)
  else match releaseAccepted run row payload s with
    | none => .error .database
    | some s' => .ok (s', run.outcome row)

/-- The reason a reject leaves on the row. -/
def RejectRun.fullReason (run : RejectRun) (row : QuarantineRow) : String :=
  "rejected: " ++ run.reason ++ "; original: " ++ row.reason

/-- `QuarantineService.reject`. -/
def reject (run : RejectRun) (s : Store) : Except QuarantineError (Store × RejectOutcome) := do
  let row ← checkUnresolved run.quarantineId s.quarantine[run.quarantineId]?
  .ok (s.markResolved run.quarantineId run.now "rejected" run.operatorIdentity
      (some (run.fullReason row)), run.outcome)

/-! ### What an accepted call is -/

theorem checkUnresolved_eq_ok {id : Nat} {row? : Option QuarantineRow} {row : QuarantineRow} :
    checkUnresolved id row? = .ok row ↔ row? = some row ∧ row.resolvedAt = none := by
  cases row? with
  | none => simp [checkUnresolved]
  | some row' =>
    rw [checkUnresolved]
    cases hr : row'.resolvedAt with
    | none =>
      simp only [Option.isSome_none, Bool.false_eq_true, if_false, Except.ok.injEq,
        Option.some.injEq]
      exact ⟨fun h => ⟨h, h ▸ hr⟩, fun h => h.1⟩
    | some i =>
      simp only [Option.isSome_some, if_true, reduceCtorEq, Option.some.injEq, false_iff, not_and]
      rintro rfl
      simp [hr]

theorem checkReleasable_eq_ok {row : QuarantineRow} {payload : Dict} {studentId : StudentId} :
    checkReleasable row = .ok (payload, studentId) ↔ row.rawPayload = .obj payload ∧
      row.entityType = "enrollment" ∧ Dict.get? payload "student_id" = some (.str studentId) := by
  rw [checkReleasable]
  split
  · next payload' hp =>
    rw [hp]
    by_cases ht : row.entityType = "enrollment"
    · rw [if_neg (not_not.mpr ht)]
      split
      · next studentId' hs =>
        simp only [Except.ok.injEq, Prod.mk.injEq, Json.obj.injEq]
        constructor
        · rintro ⟨rfl, rfl⟩
          exact ⟨rfl, ht, hs⟩
        · rintro ⟨rfl, -, hs'⟩
          rw [hs] at hs'
          exact ⟨rfl, Json.str.inj (Option.some.inj hs')⟩
      · next hs =>
        simp only [reduceCtorEq, Json.obj.injEq, false_iff]
        rintro ⟨rfl, -, hs'⟩
        exact hs _ hs'
    · rw [if_pos ht]
      simp [ht]
  · next hp =>
    simp only [reduceCtorEq, false_iff]
    exact fun h => hp _ h.1

/-- What an accepted release wrote. -/
structure Releases (run : ReleaseRun) (s s' : Store) : Prop where
  released : ∃ row payload studentId snapshot id enrollment,
    s.quarantine[run.quarantineId]? = some row ∧ row.resolvedAt = none ∧
    row.rawPayload = .obj payload ∧ row.entityType = "enrollment" ∧
    Dict.get? payload "student_id" = some (.str studentId) ∧
    s.roster.studentExists row.leaId studentId = true ∧
    run.snapshotRow row.leaId payload = some snapshot ∧
    enrollmentOfPayload row.leaId payload = some (id, enrollment) ∧
    (s.roster.insertSnapshot .enrollment snapshot).upsert id (.enrollment enrollment)
      = some s'.roster ∧
    s'.syncJobs = s.syncJobs.insert run.releaseGenerationId (run.job row.leaId)
  fresh : s.syncJobs.lookup run.releaseGenerationId = none
  quarantine : s'.quarantine
    = (s.markResolved run.quarantineId run.now "released" run.operatorIdentity).quarantine
  cursorState : s'.cursorState = s.cursorState
  revertActions : s'.revertActions = s.revertActions
  retryActions : s'.retryActions = s.retryActions

theorem release_eq_ok {run : ReleaseRun} {s s' : Store} {outcome : ReleaseOutcome}
    (h : release run s = .ok (s', outcome)) : Releases run s s' := by
  rw [release] at h
  cases hu : checkUnresolved run.quarantineId s.quarantine[run.quarantineId]? with
  | error e => rw [hu] at h; exact absurd h (by simp [bind, Except.bind])
  | ok row =>
    rw [hu] at h
    cases hc : checkReleasable row with
    | error e => simp [bind, Except.bind, hc] at h
    | ok p =>
      obtain ⟨payload, studentId⟩ := p
      simp only [bind, Except.bind, hc] at h
      obtain ⟨hrow, hres⟩ := checkUnresolved_eq_ok.mp hu
      obtain ⟨hp, ht, hs⟩ := checkReleasable_eq_ok.mp hc
      cases hst : s.roster.studentExists row.leaId studentId with
      | false => simp [hst] at h
      | true =>
        simp only [hst, Bool.not_true, Bool.false_eq_true, if_false] at h
        split at h
        · exact absurd h (by simp)
        · next s₁ hacc =>
          obtain ⟨rfl, -⟩ := Prod.mk.inj (Except.ok.inj h)
          simp only [releaseAccepted, Option.bind_eq_bind, Option.bind_eq_some_iff,
            Store.insertSyncJob_eq_some] at hacc
          obtain ⟨_, ⟨hfresh, rfl⟩, snapshot, hsnap, ⟨id, enrollment⟩, hen, r, hr, h⟩ := hacc
          obtain rfl := Option.some.inj h
          exact ⟨⟨row, payload, studentId, snapshot, id, enrollment, hrow, hres, hp, ht, hs, hst,
            hsnap, hen, hr, rfl⟩, hfresh, rfl, rfl, rfl, rfl⟩

theorem reject_eq_ok {run : RejectRun} {s s' : Store} {outcome : RejectOutcome}
    (h : reject run s = .ok (s', outcome)) :
    ∃ row, s.quarantine[run.quarantineId]? = some row ∧ row.resolvedAt = none ∧
      s' = s.markResolved run.quarantineId run.now "rejected" run.operatorIdentity
        (some (run.fullReason row)) := by
  rw [reject] at h
  cases hu : checkUnresolved run.quarantineId s.quarantine[run.quarantineId]? with
  | error e => rw [hu] at h; exact absurd h (by simp [bind, Except.bind])
  | ok row =>
    rw [hu] at h
    obtain ⟨hrow, hres⟩ := checkUnresolved_eq_ok.mp hu
    exact ⟨row, hrow, hres, (Prod.mk.inj (Except.ok.inj h)).1.symm⟩

/-- The two readings of the payload agree on the key. -/
theorem snapshotRow_eq_some {run : ReleaseRun} {leaId : LeaId} {payload : Dict}
    {snapshot : SnapshotRow} (h : run.snapshotRow leaId payload = some snapshot) :
    Dict.requiredColumn payload "id" = some snapshot.naturalKey ∧ snapshot.leaId = leaId ∧
      snapshot.generationId = run.releaseGenerationId ∧
      snapshot.supersededByGenerationId = none ∧ snapshot.supersededAt = none ∧
      snapshot.deletedUpstream = false ∧ snapshot.payload = payload := by
  simp only [ReleaseRun.snapshotRow, Option.bind_eq_bind, Option.bind_eq_some_iff] at h
  obtain ⟨k, hk, _, -, h⟩ := h
  rw [← Option.some.inj h]
  exact ⟨hk, rfl, rfl, rfl, rfl, rfl, rfl⟩

theorem enrollmentOfPayload_id {leaId : LeaId} {payload : Dict} {id : EnrollmentId}
    {enrollment : EnrollmentRow} (h : enrollmentOfPayload leaId payload = some (id, enrollment)) :
    Dict.requiredColumn payload "id" = some id ∧ enrollment.leaId = leaId := by
  simp only [enrollmentOfPayload, Option.bind_eq_bind, Option.bind_eq_some_iff] at h
  obtain ⟨_, hid, _, -, _, -, _, -, _, -, h⟩ := h
  obtain ⟨rfl, rfl⟩ := Prod.mk.inj (Option.some.inj h)
  exact ⟨hid, rfl⟩
