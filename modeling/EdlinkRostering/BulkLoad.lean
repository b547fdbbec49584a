/-
The bulk load: a partner snapshot walked into canonical state.

A bulk load is not one transaction but eight, and an exception in any of them
leaves what the earlier ones committed; `bulkLoad` follows `bulk_load_lea` as a
list of stages.  `BulkRun.raises` says at which stages an exception comes from
outside the model (the partner, the network, the database); a stage also fails
on its own when an entry has no id or a statement is refused.  The partner's
projections return text and NULL only, and dates as text.

* `bulkLoad_induction` — what every bulk load, completed or not, preserves;
* `bulkLoad_eq_some` — what a successful one wrote.
-/
import EdlinkRostering.SyncWorker

/-- A student row of the partner snapshot, on the columns of `_ENTITY_PLAN`. -/
structure StudentEntry where
  id : Option String
  givenName : Option String
  familyName : Option String
  grade : Option String := none
  preferredFirstName : Option String := none
  primarySchoolId : Option String := none
deriving DecidableEq

/-- An enrollment row of the partner snapshot. -/
structure EnrollmentEntry where
  id : Option String
  studentId : Option String
  classId : Option String
  beginDate : Option DateField
  endDate : Option DateField := none
deriving DecidableEq

inductive PartnerEntry where
  | student (entry : StudentEntry)
  | enrollment (entry : EnrollmentEntry)
deriving DecidableEq

structure PartnerPayload where
  students : List StudentEntry
  enrollments : List EnrollmentEntry
deriving DecidableEq

namespace PartnerEntry

def entityType : PartnerEntry → EntityType
  | .student _ => .student
  | .enrollment _ => .enrollment

theorem entityType_ne_lea (entry : PartnerEntry) : entry.entityType ≠ .lea := by
  cases entry <;> simp [entityType]

def id : PartnerEntry → Option String
  | .student entry => entry.id
  | .enrollment entry => entry.id

/-- `_canonical_payload` of the row, whose `lea_id` is the target LEA. -/
def payload (leaId : LeaId) : PartnerEntry → Dict
  | .student entry =>
    [("id", .ofOption entry.id), ("lea_id", .str leaId),
      ("given_name", .ofOption entry.givenName), ("family_name", .ofOption entry.familyName),
      ("grade", .ofOption entry.grade),
      ("preferred_first_name", .ofOption entry.preferredFirstName),
      ("primary_school_id", .ofOption entry.primarySchoolId)]
  | .enrollment entry =>
    [("id", .ofOption entry.id), ("lea_id", .str leaId),
      ("student_id", .ofOption entry.studentId), ("class_id", .ofOption entry.classId),
      ("begin_date", (entry.beginDate.map DateField.jsonSafe).getD .null),
      ("end_date", (entry.endDate.map DateField.jsonSafe).getD .null)]

/-- The row `_upsert_canonical_row` leaves over `old`: `external_ids` is written
on insert only, and `deleted_at` is cleared. -/
def canonicalRow (pg : Postgres) (leaId : LeaId) (old : Option CanonicalRow) :
    PartnerEntry → Option CanonicalRow
  | .student entry => do
    let givenName ← entry.givenName
    let familyName ← entry.familyName
    some (.student
      { leaId := leaId, givenName := givenName, familyName := familyName, grade := entry.grade
        preferredFirstName := entry.preferredFirstName, primarySchoolId := entry.primarySchoolId
        externalIds := match old with
          | some (.student row) => row.externalIds
          | _ => .obj [] })
  | .enrollment entry => do
    let studentId ← entry.studentId
    let classId ← entry.classId
    let beginDate ← (pg.bindDate? entry.beginDate).bind fun d => d
    let endDate ← pg.bindDate? entry.endDate
    some (.enrollment
      { leaId := leaId, studentId := studentId, classId := classId, beginDate := beginDate
        endDate := endDate })

/-- The snapshot of `_insert_snapshot`. -/
def snapshotRow (entry : PartnerEntry) (leaId : LeaId) (naturalKey : String) (syncJobId : Uuid)
    (createdAt : Instant) : SnapshotRow where
  naturalKey := naturalKey
  leaId := leaId
  generationId := syncJobId
  sourceEventId := some ("bulk-load-" ++ syncJobId)
  sourceEventAt := some createdAt
  createdAt := createdAt
  payload := entry.payload leaId

end PartnerEntry

/-! ### One entry -/

/-- `_read_current_snapshot_payload`: `.first()` of the live rows. -/
def Roster.currentPayload (r : Roster) (entityType : EntityType) (leaId : LeaId)
    (naturalKey : String) : Option Dict :=
  (r.live entityType leaId naturalKey).head?.map (·.payload)

/-- The live snapshot's payload is the entry's, and the entry is passed over. -/
def Roster.skips (r : Roster) (leaId : LeaId) (naturalKey : String) (entry : PartnerEntry) :
    Bool :=
  (r.currentPayload entry.entityType leaId naturalKey).any fun current =>
    Dict.sameDict current (entry.payload leaId)

/-- Supersede the live snapshot of the entry's key and insert the new one. -/
def Roster.pushEntry (r : Roster) (leaId : LeaId) (naturalKey : String) (entry : PartnerEntry)
    (syncJobId : Uuid) (createdAt : Instant) : Roster :=
  (r.supersede entry.entityType leaId naturalKey syncJobId createdAt).insertSnapshot
    entry.entityType (entry.snapshotRow leaId naturalKey syncJobId createdAt)

/-- The body of the loop of `_apply_entity_type`: the new roster, and whether the
entry was written. -/
def applyEntry (pg : Postgres) (leaId : LeaId) (syncJobId : Uuid) (createdAt : Instant)
    (r : Roster) (entry : PartnerEntry) : Option (Roster × Bool) :=
  match entry.id with
  | none => none
  | some naturalKey =>
    if r.skips leaId naturalKey entry then some (r, false)
    else do
      let row ← entry.canonicalRow pg leaId (r.canonical entry.entityType naturalKey)
      let r' ← (r.pushEntry leaId naturalKey entry syncJobId createdAt).upsert naturalKey row
      some (r', true)

/-- The same with `written += 1`. -/
def applyEntryCounted (pg : Postgres) (leaId : LeaId) (syncJobId : Uuid) (createdAt : Instant)
    (acc : Roster × Nat) (entry : PartnerEntry) : Option (Roster × Nat) := do
  let (r, changed) ← applyEntry pg leaId syncJobId createdAt acc.1 entry
  some (r, if changed then acc.2 + 1 else acc.2)

/-- `_apply_entity_type`: one transaction over the entries of a type. -/
def applyEntityType (pg : Postgres) (leaId : LeaId) (syncJobId : Uuid) (createdAt : Instant)
    (entries : List PartnerEntry) (r : Roster) : Option (Roster × Nat) :=
  entries.foldlM (applyEntryCounted pg leaId syncJobId createdAt) (r, 0)

/-! ### The stages -/

inductive BulkStage where
  | insertJob
  | partnerSnapshot
  | ensureLea
  | students
  | enrollments
  | latestCursor
  | advanceCursor
  | markSuccess
  | markFailed
deriving DecidableEq, Repr

/-- What a bulk load is called with and draws. -/
structure BulkRun where
  leaId : LeaId
  partner : String
  syncJobId : Uuid
  /-- What `partner_snapshot` returns. -/
  payload : PartnerPayload
  /-- What `latest_cursor_provider` returns. -/
  latest : Cursor
  /-- `datetime.now` at each stage. -/
  clock : BulkStage → Instant
  /-- The stages at which an exception comes from outside. -/
  raises : BulkStage → Bool := fun _ => false
  /-- The text of that exception. -/
  error : String := ""

namespace BulkRun

/-- The job row of `_insert_sync_job_running`, whose status is `bulk_load`. -/
def job (run : BulkRun) : SyncJobRow where
  leaId := run.leaId
  partner := run.partner
  status := .bulkLoad
  startedAt := run.clock .insertJob
  cursorBefore := some ""

/-- `_advance_cursor`. -/
def advanceCursor (run : BulkRun) (s : Store) : Store :=
  let row : CursorStateRow :=
    { lastEventId := if run.latest.value = "" then none else some run.latest.value
      lastEventAt := run.latest.observedAt
      lastPollAt := some (run.clock .advanceCursor)
      coldStartRequired := false
      updatedAt := run.clock .advanceCursor }
  { s with cursorState := s.cursorState.insert (run.leaId, run.partner) row }

end BulkRun

/-- The state between two stages, and the snapshots written so far. -/
structure BulkProgress where
  store : Store
  students : Nat := 0
  enrollments : Nat := 0

/-- The transaction of a stage between `insertJob` and the report. -/
def BulkRun.stage (pg : Postgres) (run : BulkRun) (p : BulkProgress) :
    BulkStage → Option BulkProgress
  | .ensureLea => some { p with store := ensureLeaExists p.store run.leaId }
  | .students => do
    let (r, written) ← applyEntityType pg run.leaId run.syncJobId (run.clock .students)
      (run.payload.students.map .student) p.store.roster
    some { p with store := p.store.withRoster r, students := written }
  | .enrollments => do
    let (r, written) ← applyEntityType pg run.leaId run.syncJobId (run.clock .enrollments)
      (run.payload.enrollments.map .enrollment) p.store.roster
    some { p with store := p.store.withRoster r, enrollments := written }
  | .advanceCursor => some { p with store := run.advanceCursor p.store }
  | .markSuccess =>
    some { p with
      store := p.store.updateSyncJob run.syncJobId fun job =>
        { job with
          status := .success, completedAt := some (run.clock .markSuccess)
          eventCount := p.students + p.enrollments, cursorAfter := some run.latest.value } }
  -- the stages that write nothing
  | .insertJob | .partnerSnapshot | .latestCursor | .markFailed => some p

/-- Run stages up to the first that raises; the flag says whether none did. -/
def runStages (pg : Postgres) (run : BulkRun) : List BulkStage → BulkProgress →
    BulkProgress × Bool
  | [], p => (p, true)
  | stage :: stages, p =>
    if run.raises stage then (p, false)
    else match run.stage pg p stage with
      | none => (p, false)
      | some p' => runStages pg run stages p'

/-- The `try` block of `bulk_load_lea`. -/
def bulkStages : List BulkStage :=
  [.partnerSnapshot, .ensureLea, .students, .enrollments, .latestCursor, .advanceCursor,
    .markSuccess]

/-- `_mark_sync_job_failed`, which can raise as well. -/
def BulkRun.markFailed (run : BulkRun) (s : Store) : Store :=
  if run.raises .markFailed then s
  else s.updateSyncJob run.syncJobId fun job =>
    { job with
      status := .failed, completedAt := some (run.clock .markFailed)
      errorSummary := some ("bulk_load_failed: " ++ run.error) }

structure BulkLoadReport where
  syncJobId : Uuid
  leaId : LeaId
  partner : String
  rowsStudents : Nat
  rowsEnrollments : Nat
  writtenStudents : Nat
  writtenEnrollments : Nat
  cursorAfter : String
deriving DecidableEq

/-- `bulk_load_lea`: the state it leaves, and its report unless it raised. -/
def bulkLoad (pg : Postgres) (run : BulkRun) (s : Store) : Store × Option BulkLoadReport :=
  if run.raises .insertJob then (s, none)
  else match s.insertSyncJob run.syncJobId run.job with
    | none => (s, none)
    | some s =>
      match runStages pg run bulkStages { store := s } with
      | (p, false) => (run.markFailed p.store, none)
      | (p, true) => (p.store, some
          { syncJobId := run.syncJobId, leaId := run.leaId, partner := run.partner
            rowsStudents := run.payload.students.length
            rowsEnrollments := run.payload.enrollments.length
            writtenStudents := p.students, writtenEnrollments := p.enrollments
            cursorAfter := run.latest.value })

/-! ### What one entry does -/

theorem canonicalRow_entry_type {pg : Postgres} {leaId : LeaId} {old : Option CanonicalRow}
    {entry : PartnerEntry} {row : CanonicalRow}
    (h : entry.canonicalRow pg leaId old = some row) :
    row.entityType = entry.entityType ∧ row.deletedAt = none ∧ ∀ id, row.owner id = leaId := by
  cases entry with
  | student entry =>
    simp only [PartnerEntry.canonicalRow, Option.bind_eq_bind, Option.bind_eq_some_iff] at h
    obtain ⟨_, -, _, -, h⟩ := h
    rw [← Option.some.inj h]
    exact ⟨rfl, rfl, fun _ => rfl⟩
  | enrollment entry =>
    simp only [PartnerEntry.canonicalRow, Option.bind_eq_bind, Option.bind_eq_some_iff] at h
    obtain ⟨_, -, _, -, _, -, _, -, h⟩ := h
    rw [← Option.some.inj h]
    exact ⟨rfl, rfl, fun _ => rfl⟩

section

variable {pg : Postgres} {leaId : LeaId} {syncJobId : Uuid} {createdAt : Instant}

theorem applyEntry_eq_some {r r' : Roster} {entry : PartnerEntry} {changed : Bool} :
    applyEntry pg leaId syncJobId createdAt r entry = some (r', changed) ↔
      ∃ naturalKey, entry.id = some naturalKey ∧
        ((r.skips leaId naturalKey entry = true ∧ r' = r ∧ changed = false) ∨
        (r.skips leaId naturalKey entry = false ∧ changed = true ∧
          ∃ row, entry.canonicalRow pg leaId (r.canonical entry.entityType naturalKey) = some row ∧
            (r.pushEntry leaId naturalKey entry syncJobId createdAt).upsert naturalKey row
              = some r')) := by
  rw [applyEntry]
  cases entry.id with
  | none => simp
  | some naturalKey =>
    simp only [Option.some.injEq, exists_eq_left']
    cases r.skips leaId naturalKey entry with
    | true => simp [eq_comm]
    | false =>
      simp only [Bool.false_eq_true, if_false, Option.bind_eq_bind, Option.bind_eq_some_iff,
        Option.some.injEq, Prod.mk.injEq, false_and, false_or, true_and]
      constructor
      · rintro ⟨row, hrow, r', hr, rfl, rfl⟩
        exact ⟨rfl, row, hrow, hr⟩
      · rintro ⟨rfl, row, hrow, hr⟩
        exact ⟨row, hrow, _, hr, rfl, rfl⟩

/-- One entry is passed over, or pushes its snapshot and writes its canonical
row. -/
theorem applyEntryCounted_eq_some {r r' : Roster} {entry : PartnerEntry} {n n' : Nat}
    (h : applyEntryCounted pg leaId syncJobId createdAt (r, n) entry = some (r', n')) :
    ∃ naturalKey, entry.id = some naturalKey ∧
      ((r.skips leaId naturalKey entry = true ∧ r' = r) ∨
      (r.skips leaId naturalKey entry = false ∧
        ∃ row, entry.canonicalRow pg leaId (r.canonical entry.entityType naturalKey) = some row ∧
          (r.pushEntry leaId naturalKey entry syncJobId createdAt).admits naturalKey row = true ∧
          r' = (r.pushEntry leaId naturalKey entry syncJobId createdAt).setCanonical naturalKey
            row)) := by
  simp only [applyEntryCounted, Option.bind_eq_bind, Option.bind_eq_some_iff] at h
  obtain ⟨⟨r₁, changed⟩, h₁, h⟩ := h
  obtain ⟨rfl, -⟩ := Prod.mk.inj (Option.some.inj h)
  obtain ⟨k, hk, ⟨hs, rfl, -⟩ | ⟨hs, -, row, hrow, hu⟩⟩ := applyEntry_eq_some.mp h₁
  · exact ⟨k, hk, Or.inl ⟨hs, rfl⟩⟩
  · exact ⟨k, hk, Or.inr ⟨hs, row, hrow, Roster.upsert_eq_some.mp hu⟩⟩

end

/-! ### What a bulk load does -/

/-- The entries of both types. -/
def PartnerPayload.entries (payload : PartnerPayload) : List PartnerEntry :=
  payload.students.map .student ++ payload.enrollments.map .enrollment

/-- What no stage touches, and where the job and the cursor of the run are the
only rows that change. -/
structure BulkRun.Frame (run : BulkRun) (s s' : Store) : Prop where
  quarantine : s'.quarantine = s.quarantine
  revertActions : s'.revertActions = s.revertActions
  retryActions : s'.retryActions = s.retryActions
  cursorState : ∀ key, key ≠ (run.leaId, run.partner) →
    s'.cursorState.lookup key = s.cursorState.lookup key
  syncJobs : ∀ id, id ≠ run.syncJobId → s'.syncJobs.lookup id = s.syncJobs.lookup id

namespace BulkRun.Frame

variable {run : BulkRun}

theorem refl (s : Store) : run.Frame s s := ⟨rfl, rfl, rfl, fun _ _ => rfl, fun _ _ => rfl⟩

theorem trans {s₁ s₂ s₃ : Store} (h : run.Frame s₁ s₂) (h' : run.Frame s₂ s₃) :
    run.Frame s₁ s₃ :=
  ⟨h'.1.trans h.1, h'.2.trans h.2, h'.3.trans h.3,
    fun key hk => (h'.4 key hk).trans (h.4 key hk), fun id hid => (h'.5 id hid).trans (h.5 id hid)⟩

theorem withRoster (s : Store) (r : Roster) : run.Frame s (s.withRoster r) :=
  ⟨rfl, rfl, rfl, fun _ _ => rfl, fun _ _ => rfl⟩

theorem updateSyncJob (s : Store) (f : SyncJobRow → SyncJobRow) :
    run.Frame s (s.updateSyncJob run.syncJobId f) :=
  ⟨rfl, rfl, rfl, fun _ _ => rfl, fun id hid => by
    rw [Store.updateSyncJob, Table.lookup_modify, if_neg hid]⟩

theorem stage {pg : Postgres} {p p' : BulkProgress} {stage : BulkStage}
    (h : run.stage pg p stage = some p') : run.Frame p.store p'.store := by
  cases stage with
  | ensureLea =>
    rw [← Option.some.inj h]
    exact withRoster _ _
  | students | enrollments =>
    simp only [BulkRun.stage, Option.bind_eq_bind, Option.bind_eq_some_iff] at h
    obtain ⟨⟨r, written⟩, -, h⟩ := h
    rw [← Option.some.inj h]
    exact withRoster _ _
  | advanceCursor =>
    rw [← Option.some.inj h]
    refine ⟨rfl, rfl, rfl, fun key hk => ?_, fun _ _ => rfl⟩
    rw [BulkRun.advanceCursor, Table.lookup_insert_eq, if_neg hk]
  | markSuccess =>
    rw [← Option.some.inj h]
    exact updateSyncJob _ _
  | insertJob | partnerSnapshot | latestCursor | markFailed =>
    rw [← Option.some.inj h]
    exact refl _

end BulkRun.Frame

/-- A property of the state that every stage keeps survives the stages that ran. -/
theorem runStages_induction {pg : Postgres} {run : BulkRun} {P : BulkProgress → Prop}
    (hstep : ∀ stage p p', P p → run.stage pg p stage = some p' → P p') :
    ∀ (stages : List BulkStage) (p : BulkProgress), P p → P (runStages pg run stages p).1
  | [], _, hp => hp
  | stage :: stages, p, hp => by
    rw [runStages]
    split
    · exact hp
    · split
      · exact hp
      · next p' hs => exact runStages_induction hstep stages p' (hstep stage p p' hp hs)

theorem runStages_cons_eq_true {pg : Postgres} {run : BulkRun} {stage : BulkStage}
    {stages : List BulkStage} {p p' : BulkProgress}
    (h : runStages pg run (stage :: stages) p = (p', true)) :
    ∃ p₁, run.stage pg p stage = some p₁ ∧ runStages pg run stages p₁ = (p', true) := by
  rw [runStages] at h
  split at h
  · exact absurd (Prod.mk.inj h).2 (by simp)
  · split at h
    · exact absurd (Prod.mk.inj h).2 (by simp)
    · next p₁ h₁ => exact ⟨p₁, h₁, h⟩

theorem markFailed_frame (run : BulkRun) (s : Store) :
    run.Frame s (run.markFailed s) ∧ (run.markFailed s).roster = s.roster := by
  rw [BulkRun.markFailed]
  split
  · exact ⟨.refl _, rfl⟩
  · exact ⟨.updateSyncJob _ _, rfl⟩

/-- A property of the roster that the placeholder LEA and every entry keep holds
after every bulk load, wherever it stopped. -/
theorem bulkLoad_induction {pg : Postgres} {run : BulkRun} {P : Roster → Prop}
    (hlea : ∀ r, P r → P (r.ensureLeaExists run.leaId))
    (hentry : ∀ r r' n n' entry at', entry ∈ run.payload.entries → P r →
      applyEntryCounted pg run.leaId run.syncJobId at' (r, n) entry = some (r', n') → P r')
    {s : Store} (hs : P s.roster) : P (bulkLoad pg run s).1.roster := by
  have hstage : ∀ stage p p', P p.store.roster → run.stage pg p stage = some p' →
      P p'.store.roster := by
    intro stage p p' hp h
    cases stage with
    | ensureLea =>
      rw [← Option.some.inj h]
      exact hlea _ hp
    | students =>
      simp only [BulkRun.stage, Option.bind_eq_bind, Option.bind_eq_some_iff] at h
      obtain ⟨⟨r, written⟩, ha, h⟩ := h
      rw [← Option.some.inj h]
      exact Runs.foldlM_invariant (I := fun acc => P acc.1) (fun e he acc acc' =>
        hentry acc.1 acc'.1 acc.2 acc'.2 e _ (List.mem_append_left _ he)) hp ha
    | enrollments =>
      simp only [BulkRun.stage, Option.bind_eq_bind, Option.bind_eq_some_iff] at h
      obtain ⟨⟨r, written⟩, ha, h⟩ := h
      rw [← Option.some.inj h]
      exact Runs.foldlM_invariant (I := fun acc => P acc.1) (fun e he acc acc' =>
        hentry acc.1 acc'.1 acc.2 acc'.2 e _ (List.mem_append_right _ he)) hp ha
    | _ => rw [← Option.some.inj h]; exact hp
  rw [bulkLoad]
  split
  · exact hs
  · split
    · exact hs
    · -- the stages that were committed, whether the load fails after them or not
      next s₀ hins =>
      obtain ⟨-, rfl⟩ := Store.insertSyncJob_eq_some.mp hins
      have hrun : P (runStages pg run bulkStages { store := { s with
          syncJobs := s.syncJobs.insert run.syncJobId run.job } }).1.store.roster :=
        runStages_induction hstage bulkStages _ hs
      split
      · next p hp =>
        rw [hp] at hrun
        rw [(markFailed_frame run p.store).2]
        exact hrun
      · next p hp =>
        rw [hp] at hrun
        exact hrun

theorem bulkLoad_frame (pg : Postgres) (run : BulkRun) (s : Store) :
    run.Frame s (bulkLoad pg run s).1 := by
  rw [bulkLoad]
  split
  · exact .refl _
  · split
    · exact .refl _
    · next s₀ hins =>
      obtain ⟨-, rfl⟩ := Store.insertSyncJob_eq_some.mp hins
      have hins : run.Frame s { s with syncJobs := s.syncJobs.insert run.syncJobId run.job } :=
        ⟨rfl, rfl, rfl, fun _ _ => rfl, fun id hid => by rw [Table.lookup_insert_eq, if_neg hid]⟩
      have hrun : run.Frame s (runStages pg run bulkStages
          { store := { s with syncJobs := s.syncJobs.insert run.syncJobId run.job } }).1.store :=
        runStages_induction (fun _ _ _ hp h => BulkRun.Frame.trans hp (.stage h)) bulkStages _
          hins
      split
      · next p hp =>
        rw [hp] at hrun
        exact hrun.trans (markFailed_frame run _).1
      · next p hp =>
        rw [hp] at hrun
        exact hrun

/-- What a successful bulk load wrote to the roster. -/
theorem bulkLoad_eq_some {pg : Postgres} {run : BulkRun} {s s' : Store}
    {report : BulkLoadReport} (h : bulkLoad pg run s = (s', some report)) :
    ∃ r₁ w₁ w₂,
      applyEntityType pg run.leaId run.syncJobId (run.clock .students)
        (run.payload.students.map .student) (s.roster.ensureLeaExists run.leaId) = some (r₁, w₁) ∧
      applyEntityType pg run.leaId run.syncJobId (run.clock .enrollments)
        (run.payload.enrollments.map .enrollment) r₁ = some (s'.roster, w₂) := by
  rw [bulkLoad] at h
  split at h
  · exact absurd (Prod.mk.inj h).2 (by simp)
  · split at h
    · exact absurd (Prod.mk.inj h).2 (by simp)
    · next s₀ hins =>
      obtain ⟨-, rfl⟩ := Store.insertSyncJob_eq_some.mp hins
      split at h
      · exact absurd (Prod.mk.inj h).2 (by simp)
      · next p hp =>
        obtain ⟨rfl, -⟩ := Prod.mk.inj h
        obtain ⟨_, h₁, hp⟩ := runStages_cons_eq_true hp
        obtain rfl := Option.some.inj h₁
        obtain ⟨_, h₂, hp⟩ := runStages_cons_eq_true hp
        obtain rfl := Option.some.inj h₂
        obtain ⟨_, h₃, hp⟩ := runStages_cons_eq_true hp
        obtain ⟨_, h₄, hp⟩ := runStages_cons_eq_true hp
        obtain ⟨_, h₅, hp⟩ := runStages_cons_eq_true hp
        obtain rfl := Option.some.inj h₅
        obtain ⟨_, h₆, hp⟩ := runStages_cons_eq_true hp
        obtain rfl := Option.some.inj h₆
        obtain ⟨_, h₇, hp⟩ := runStages_cons_eq_true hp
        obtain rfl := Option.some.inj h₇
        obtain rfl := (Prod.mk.inj hp).1
        simp only [BulkRun.stage, Option.bind_eq_bind, Option.bind_eq_some_iff] at h₃ h₄
        obtain ⟨⟨r₁, w₁⟩, ha₁, h₃⟩ := h₃
        obtain rfl := Option.some.inj h₃
        obtain ⟨⟨r₂, w₂⟩, ha₂, h₄⟩ := h₄
        obtain rfl := Option.some.inj h₄
        exact ⟨r₁, w₁, w₂, ha₁, ha₂⟩
