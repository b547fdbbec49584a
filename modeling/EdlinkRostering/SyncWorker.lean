/-
The sync worker: one page, one transaction.

`processOnePage` follows `_process_one_page` statement by statement on the page
the connector returned for the stored cursor.  `none` is a transaction that
raised before `commit`: nothing it wrote stays.  The job id is drawn by the
worker (`uuid.uuid4()`) and is an argument, as is the clock.

* `applyEvent_eq_some` — what applying one event can do to the roster;
* `processOnePage_eq_some` — what a committed page transaction is.
-/
import EdlinkRostering.Store
import EdlinkRostering.Runs

namespace NormalizedEvent

/-- The canonical row `_upsert_canonical` binds for the event; `none` where an
`assert isinstance` fails or a `date` column refuses its literal. -/
def canonicalRow (event : NormalizedEvent) (pg : Postgres) (now : Instant) :
    Option CanonicalRow :=
  let deletedAt := if event.deletedUpstream then some now else none
  match event.entityType, event.entity with
  | .student, .student entity =>
    some (.student
      { leaId := entity.leaId, givenName := entity.givenName, familyName := entity.familyName
        grade := entity.grade, preferredFirstName := entity.preferredFirstName
        primarySchoolId := entity.primarySchoolId, externalIds := .obj entity.externalIds
        deletedAt := deletedAt })
  | .enrollment, .enrollment entity => do
    let beginDate ← pg.bindDate entity.beginDate
    let endDate ← pg.bindDate? entity.endDate
    some (.enrollment
      { leaId := entity.leaId, studentId := entity.studentId, classId := entity.classId
        beginDate := beginDate, endDate := endDate, deletedAt := deletedAt })
  | .lea, .lea entity =>
    some (.lea
      { name := entity.name, leaType := entity.leaType.value, state := entity.state
        ncesLeaId := entity.ncesLeaId, deletedAt := deletedAt })
  | _, _ => none

/-- The snapshot `_insert_snapshot` writes for the event. -/
def snapshotRow (event : NormalizedEvent) (leaId : LeaId) (syncJobId : Uuid)
    (createdAt : Instant) : SnapshotRow where
  naturalKey := event.naturalKey
  leaId := leaId
  generationId := syncJobId
  deletedUpstream := event.deletedUpstream
  sourceEventId := some event.sourceEventId
  sourceEventAt := some event.occurredAt
  createdAt := createdAt
  payload := event.entityPayload

end NormalizedEvent

/-- The event is stored under another LEA than the one the worker drains. -/
def NormalizedEvent.foreignLea (event : NormalizedEvent) (leaId : LeaId) : Bool :=
  event.entityType = .lea && event.naturalKey ≠ leaId

/-! ### One event -/

/-- The event is at or below the high-water mark of its live snapshot. -/
def Roster.dedups (r : Roster) (pg : Postgres) (leaId : LeaId) (event : NormalizedEvent) : Bool :=
  (r.latestLiveSourceEventId pg event.entityType leaId event.naturalKey).any fun latest =>
    event.sourceEventId ≤ latest

/-- Supersede the live snapshot of the event's key and insert the new one. -/
def Roster.pushSnapshot (r : Roster) (leaId : LeaId) (event : NormalizedEvent)
    (syncJobId : Uuid) (createdAt : Instant) : Roster :=
  (r.supersede event.entityType leaId event.naturalKey syncJobId createdAt).insertSnapshot
    event.entityType (event.snapshotRow leaId syncJobId createdAt)

/-- `_apply_event`: the new roster, and whether the event changed it. -/
def applyEvent (pg : Postgres) (leaId : LeaId) (syncJobId : Uuid) (createdAt : Instant)
    (r : Roster) (event : NormalizedEvent) : Option (Roster × Bool) :=
  if r.dedups pg leaId event then some (r, false)
  else do
    let row ← event.canonicalRow pg createdAt
    let r' ← (r.pushSnapshot leaId event syncJobId createdAt).upsert event.naturalKey row
    some (r', true)

/-! ### One page -/

/-- `_write_quarantine_row`: the payload with the source event id added to it. -/
def quarantineRow (leaId : LeaId) (syncJobId : Uuid) (createdAt : Instant)
    (event : NormalizedEvent) : QuarantineRow where
  syncJobId := syncJobId
  leaId := leaId
  entityType := event.entityType.value
  entityId := event.naturalKey
  reason := "Layer 4: referential dependency unresolved"
  rawPayload := .obj (event.entityPayload ++ [("source_event_id", .str event.sourceEventId)])
  createdAt := createdAt

/-- The counters of the event loop. -/
structure PageCounts where
  applied : Nat := 0
  skipped : Nat := 0
  quarantined : Nat := 0
deriving DecidableEq

/-- One turn of the event loop. -/
def processEvent (pg : Postgres) (leaId : LeaId) (syncJobId : Uuid) (now : Instant)
    (report : ValidationReport) (acc : Store × PageCounts) (event : NormalizedEvent) :
    Option (Store × PageCounts) :=
  let (s, counts) := acc
  if event.eventId ∈ report.quarantinedEventIds then
    some (s.insertQuarantine (quarantineRow leaId syncJobId now event),
      { counts with quarantined := counts.quarantined + 1 })
  else if event.eventId ∉ report.okEventIds then
    -- rejected by Layer 2 or 3; the audit row carries the issue
    some (s, { counts with skipped := counts.skipped + 1 })
  else do
    let (r, changed) ← applyEvent pg leaId syncJobId now s.roster event
    some (s.withRoster r,
      if changed then { counts with applied := counts.applied + 1 }
      else { counts with skipped := counts.skipped + 1 })

/-- The event loop. -/
def processEvents (pg : Postgres) (leaId : LeaId) (syncJobId : Uuid) (now : Instant)
    (report : ValidationReport) (events : List NormalizedEvent) (s : Store) :
    Option (Store × PageCounts) :=
  events.foldlM (processEvent pg leaId syncJobId now report) (s, {})

/-- `_persist_validation_issues`. -/
def persistValidationIssues (s : Store) (syncJobId : Uuid) (report : ValidationReport)
    (createdAt : Instant) : Store :=
  { s with syncValidationResults := s.syncValidationResults ++ report.issues.map fun i =>
    { syncJobId := syncJobId, layer := i.layer, code := i.code, payloadReference := i.eventId
      detail := i.detail ++ [("severity", .text (some i.severity.value))]
      createdAt := createdAt } }

/-- `_summarize_blocking_errors`. -/
def summarizeBlockingErrors (report : ValidationReport) : String :=
  let blocking := report.issues.filter fun i => i.severity = .error
  let parts := (blocking.take 3).map fun i =>
    match i.eventId with
    | none => "L" ++ toString i.layer ++ ":" ++ i.code
    | some eventId => "L" ++ toString i.layer ++ ":" ++ i.code ++ "@" ++ eventId
  let parts := if 3 < blocking.length
    then parts ++ ["(+" ++ toString (blocking.length - 3) ++ " more)"] else parts
  if parts.isEmpty then "page blocked" else String.intercalate "; " parts

/-- `_upsert_cursor_state`: an empty cursor is stored as NULL. -/
def upsertCursorState (s : Store) (leaId : LeaId) (partner : String) (cursor : Cursor)
    (lastPollAt : Instant) : Store :=
  let coldStartRequired := match s.cursorState.lookup (leaId, partner) with
    | none => false
    | some row => row.coldStartRequired
  let row : CursorStateRow :=
    { lastEventId := if cursor.value = "" then none else some cursor.value
      lastEventAt := cursor.observedAt
      lastPollAt := some lastPollAt
      coldStartRequired := coldStartRequired
      updatedAt := lastPollAt }
  { s with cursorState := s.cursorState.insert (leaId, partner) row }

structure PageOutcome where
  syncJobId : Uuid
  leaId : LeaId
  status : JobStatus
  cursorBefore : String
  cursorAfter : String
  eventCount : Nat
  skippedCount : Nat
  quarantinedCount : Nat
  errorCount : Nat
  warningCount : Nat
  hasMore : Bool
deriving DecidableEq

/-- What a page transaction is run with. -/
structure PageRun where
  leaId : LeaId
  partner : String
  page : EventPage
  syncJobId : Uuid
  now : Instant

namespace PageRun

/-- The report on the page in the state the transaction reads. -/
def report (run : PageRun) (s : Store) : ValidationReport :=
  runPipeline run.page (s.leaState run.leaId run.partner)

/-- The `running` job row and the validation results. -/
def start (run : PageRun) (s : Store) : Option Store := do
  let s' ← s.insertSyncJob run.syncJobId
    { leaId := run.leaId, partner := run.partner, status := .running, startedAt := run.now
      cursorBefore := some (s.readCursor run.leaId run.partner).value }
  some (persistValidationIssues s' run.syncJobId (run.report s) run.now)

/-- `_mark_sync_job_failed` on a blocked page. -/
def fail (run : PageRun) (report : ValidationReport) (s : Store) : Store :=
  s.updateSyncJob run.syncJobId fun job =>
    { job with
      status := .failed, completedAt := some run.now, errorCount := report.errorCount
      warningCount := report.warningCount, errorSummary := some (summarizeBlockingErrors report) }

/-- `_mark_sync_job_success` and `_upsert_cursor_state`. -/
def finish (run : PageRun) (report : ValidationReport) (applied : Nat) (s : Store) : Store :=
  let s := s.updateSyncJob run.syncJobId fun job =>
    { job with
      status := .success, completedAt := some run.now, eventCount := applied
      errorCount := report.errorCount, warningCount := report.warningCount
      cursorAfter := some run.page.nextCursor.value }
  upsertCursorState s run.leaId run.partner run.page.nextCursor run.now

/-- The outcome of a blocked page. -/
def failedOutcome (run : PageRun) (s : Store) : PageOutcome :=
  let cursorBefore := (s.readCursor run.leaId run.partner).value
  { syncJobId := run.syncJobId, leaId := run.leaId, status := .failed
    cursorBefore := cursorBefore, cursorAfter := cursorBefore
    eventCount := 0, skippedCount := 0, quarantinedCount := 0
    errorCount := (run.report s).errorCount, warningCount := (run.report s).warningCount
    hasMore := false }

def successOutcome (run : PageRun) (s : Store) (counts : PageCounts) : PageOutcome where
  syncJobId := run.syncJobId
  leaId := run.leaId
  status := .success
  cursorBefore := (s.readCursor run.leaId run.partner).value
  cursorAfter := run.page.nextCursor.value
  eventCount := counts.applied
  skippedCount := counts.skipped
  quarantinedCount := counts.quarantined
  errorCount := (run.report s).errorCount
  warningCount := (run.report s).warningCount
  hasMore := run.page.hasMore

end PageRun

/-- `_ensure_lea_exists`. -/
def ensureLeaExists (s : Store) (leaId : LeaId) : Store :=
  s.withRoster (s.roster.ensureLeaExists leaId)

/-- `_process_one_page`, from the page on. -/
def processOnePage (pg : Postgres) (run : PageRun) (s : Store) : Option (Store × PageOutcome) := do
  let report := run.report s
  let started ← run.start s
  if report.pageBlocked then
    some (run.fail report started, run.failedOutcome s)
  else do
    let (s', counts) ← processEvents pg run.leaId run.syncJobId run.now report run.page.events
      (ensureLeaExists started run.leaId)
    some (run.finish report counts.applied s', run.successOutcome s counts)

/-! ### What one event does -/

theorem applyEvent_eq_some {pg : Postgres} {leaId : LeaId} {syncJobId : Uuid}
    {createdAt : Instant} {r r' : Roster} {event : NormalizedEvent} {changed : Bool} :
    applyEvent pg leaId syncJobId createdAt r event = some (r', changed) ↔
      (r.dedups pg leaId event = true ∧ r' = r ∧ changed = false) ∨
      (r.dedups pg leaId event = false ∧ changed = true ∧
        ∃ row, event.canonicalRow pg createdAt = some row ∧
          (r.pushSnapshot leaId event syncJobId createdAt).upsert event.naturalKey row
            = some r') := by
  rw [applyEvent]
  cases r.dedups pg leaId event with
  | true => simp [eq_comm]
  | false =>
    simp only [Bool.false_eq_true, if_false, Option.bind_eq_bind, Option.bind_eq_some_iff,
      Option.some.injEq, Prod.mk.injEq, false_and, false_or, true_and]
    constructor
    · rintro ⟨row, hrow, r', hr, rfl, rfl⟩
      exact ⟨rfl, row, hrow, hr⟩
    · rintro ⟨rfl, row, hrow, hr⟩
      exact ⟨row, hrow, _, hr, rfl, rfl⟩

theorem canonicalRow_entityType {event : NormalizedEvent} {pg : Postgres} {now : Instant}
    {row : CanonicalRow} (h : event.canonicalRow pg now = some row) :
    row.entityType = event.entityType := by
  rw [NormalizedEvent.canonicalRow] at h
  split at h
  · next ht _ => rw [ht, ← Option.some.inj h]; rfl
  · next ht _ =>
    simp only [Option.bind_eq_bind, Option.bind_eq_some_iff] at h
    obtain ⟨_, -, _, -, h⟩ := h
    rw [ht, ← Option.some.inj h]; rfl
  · next ht _ => rw [ht, ← Option.some.inj h]; rfl
  · exact absurd h (by simp)

/-! ### What the event loop does -/

/-- One accepted event, without the flag. -/
def applyEventRoster (pg : Postgres) (leaId : LeaId) (syncJobId : Uuid) (now : Instant)
    (r : Roster) (event : NormalizedEvent) : Option Roster :=
  (applyEvent pg leaId syncJobId now r event).map Prod.fst

/-- The accepted events of a page, applied one after another. -/
def applyEvents (pg : Postgres) (leaId : LeaId) (syncJobId : Uuid) (now : Instant)
    (events : List NormalizedEvent) (r : Roster) : Option Roster :=
  events.foldlM (applyEventRoster pg leaId syncJobId now) r

section

variable {pg : Postgres} {leaId : LeaId} {syncJobId : Uuid} {now : Instant}

/-- One accepted event is deduplicated, or pushes its snapshot and writes its
canonical row. -/
theorem applyEventRoster_eq_some {r r' : Roster} {event : NormalizedEvent} :
    applyEventRoster pg leaId syncJobId now r event = some r' ↔
      (r.dedups pg leaId event = true ∧ r' = r) ∨
      (r.dedups pg leaId event = false ∧ ∃ row, event.canonicalRow pg now = some row ∧
        (r.pushSnapshot leaId event syncJobId now).admits event.naturalKey row = true ∧
        r' = (r.pushSnapshot leaId event syncJobId now).setCanonical event.naturalKey row) := by
  rw [applyEventRoster, Option.map_eq_some_iff]
  constructor
  · rintro ⟨⟨r₁, changed⟩, h, rfl⟩
    rcases applyEvent_eq_some.mp h with ⟨hd, rfl, -⟩ | ⟨hd, -, row, hrow, hu⟩
    · exact Or.inl ⟨hd, rfl⟩
    · exact Or.inr ⟨hd, row, hrow, Roster.upsert_eq_some.mp hu⟩
  · rintro (⟨hd, rfl⟩ | ⟨hd, row, hrow, hu⟩)
    · exact ⟨(r', false), applyEvent_eq_some.mpr (Or.inl ⟨hd, rfl, rfl⟩), rfl⟩
    · exact ⟨(r', true), applyEvent_eq_some.mpr
        (Or.inr ⟨hd, rfl, row, hrow, Roster.upsert_eq_some.mpr hu⟩), rfl⟩

theorem applyEvents_cons_eq_some {event : NormalizedEvent} {events : List NormalizedEvent}
    {r r' : Roster} : applyEvents pg leaId syncJobId now (event :: events) r = some r' ↔
      ∃ r₁, applyEventRoster pg leaId syncJobId now r event = some r₁ ∧
        applyEvents pg leaId syncJobId now events r₁ = some r' :=
  Runs.foldlM_cons_eq_some

/-- The events a report sends to quarantine. -/
def ValidationReport.quarantines (report : ValidationReport) (event : NormalizedEvent) : Bool :=
  event.eventId ∈ report.quarantinedEventIds

/-- The tables the event loop and the roster statements leave alone. -/
structure Store.SameRecords (s s' : Store) : Prop where
  syncJobs : s'.syncJobs = s.syncJobs
  revertActions : s'.revertActions = s.revertActions
  retryActions : s'.retryActions = s.retryActions
  cursorState : s'.cursorState = s.cursorState

theorem Store.SameRecords.trans {s₁ s₂ s₃ : Store} (h : s₁.SameRecords s₂)
    (h' : s₂.SameRecords s₃) : s₁.SameRecords s₃ :=
  ⟨h'.1.trans h.1, h'.2.trans h.2, h'.3.trans h.3, h'.4.trans h.4⟩

theorem Store.sameRecords_insertQuarantine (s : Store) (row : QuarantineRow) :
    s.SameRecords (s.insertQuarantine row) :=
  ⟨rfl, rfl, rfl, rfl⟩

theorem Store.sameRecords_withRoster (s : Store) (r : Roster) : s.SameRecords (s.withRoster r) :=
  ⟨rfl, rfl, rfl, rfl⟩

/-- The event loop applies the accepted events in page order, appends a
quarantine row for each quarantined one and writes nothing else. -/
theorem processEvents_eq_some {report : ValidationReport} {events : List NormalizedEvent}
    {s s' : Store} {counts : PageCounts}
    (h : processEvents pg leaId syncJobId now report events s = some (s', counts)) :
    applyEvents pg leaId syncJobId now (events.filter report.accepts) s.roster
        = some s'.roster ∧
      s'.quarantine = s.quarantine ++
        (events.filter report.quarantines).map (quarantineRow leaId syncJobId now) ∧
      s.SameRecords s' := by
  rw [processEvents] at h
  generalize ({} : PageCounts) = counts₀ at h
  induction events generalizing s counts₀ with
  | nil =>
    obtain ⟨rfl, rfl⟩ := Prod.mk.inj (Option.some.inj h)
    exact ⟨rfl, by simp, rfl, rfl, rfl, rfl⟩
  | cons event events ih =>
    obtain ⟨⟨s₁, counts₁⟩, h₁, h₂⟩ := Runs.foldlM_cons_eq_some.mp h
    obtain ⟨hr, hq', hs⟩ := ih _ h₂
    simp only [processEvent] at h₁
    by_cases hq : event.eventId ∈ report.quarantinedEventIds
    · -- quarantined: the roster stays, the quarantine table gains its row
      rw [if_pos hq] at h₁
      obtain ⟨rfl, -⟩ := Prod.mk.inj (Option.some.inj h₁)
      rw [List.filter_cons_of_neg (by simp [ValidationReport.accepts, hq]),
        List.filter_cons_of_pos (by simpa [ValidationReport.quarantines] using hq)]
      exact ⟨hr, hq'.trans (by simp [Store.insertQuarantine]),
        (s.sameRecords_insertQuarantine _).trans hs⟩
    · rw [if_neg hq] at h₁
      rw [List.filter_cons_of_neg (p := report.quarantines)
        (by simpa [ValidationReport.quarantines] using hq)]
      by_cases ho : event.eventId ∈ report.okEventIds
      · -- accepted: the one case that reaches `applyEvent`
        rw [if_neg (by simpa using ho), Option.bind_eq_bind, Option.bind_eq_some_iff] at h₁
        obtain ⟨⟨r, changed⟩, ha, h₁⟩ := h₁
        obtain ⟨rfl, -⟩ := Prod.mk.inj (Option.some.inj h₁)
        rw [List.filter_cons_of_pos (by simp [ValidationReport.accepts, hq, ho])]
        exact ⟨applyEvents_cons_eq_some.mpr ⟨r, by rw [applyEventRoster, ha]; rfl, hr⟩, hq',
          (s.sameRecords_withRoster r).trans hs⟩
      · -- rejected: counted, and nothing is written
        rw [if_pos ho] at h₁
        obtain ⟨rfl, -⟩ := Prod.mk.inj (Option.some.inj h₁)
        rw [List.filter_cons_of_neg (by simp [ValidationReport.accepts, ho])]
        exact ⟨hr, hq', hs⟩

end

/-! ### What a committed page is -/

namespace PageRun

/-- The events of the page the worker hands to `_apply_event`. -/
def accepted (run : PageRun) (s : Store) : List NormalizedEvent :=
  run.page.events.filter (run.report s).accepts

/-- The events of the page the worker writes to quarantine. -/
def quarantined (run : PageRun) (s : Store) : List NormalizedEvent :=
  run.page.events.filter (run.report s).quarantines

/-- The page does not get past Layer 1. -/
def blocked (run : PageRun) (s : Store) : Bool := (run.report s).pageBlocked

end PageRun

/-- What a committed page transaction wrote. -/
structure PageRun.Commits (pg : Postgres) (run : PageRun) (s s' : Store) : Prop where
  fresh : s.syncJobs.lookup run.syncJobId = none
  /-- The roster of a page that is not blocked. -/
  roster : run.blocked s = false → applyEvents pg run.leaId run.syncJobId run.now
    (run.accepted s) (s.roster.ensureLeaExists run.leaId) = some s'.roster
  quarantine : run.blocked s = false → s'.quarantine = s.quarantine ++
    (run.quarantined s).map (quarantineRow run.leaId run.syncJobId run.now)
  cursorState : run.blocked s = false → s'.cursorState
    = (upsertCursorState s run.leaId run.partner run.page.nextCursor run.now).cursorState
  /-- A blocked page only leaves its failed job. -/
  blocked : run.blocked s = true →
    s'.roster = s.roster ∧ s'.quarantine = s.quarantine ∧ s'.cursorState = s.cursorState
  job : ∃ job, s'.syncJobs.lookup run.syncJobId = some job ∧ job.leaId = run.leaId ∧
    job.partner = run.partner ∧
    job.status = (if run.blocked s then .failed else .success) ∧
    job.cursorBefore = some (s.readCursor run.leaId run.partner).value
  syncJobs : ∀ id ≠ run.syncJobId, s'.syncJobs.lookup id = s.syncJobs.lookup id
  revertActions : s'.revertActions = s.revertActions
  retryActions : s'.retryActions = s.retryActions

/-- The job of a page while its transaction runs. -/
def PageRun.runningJob (run : PageRun) (s : Store) : SyncJobRow where
  leaId := run.leaId
  partner := run.partner
  status := .running
  startedAt := run.now
  cursorBefore := some (s.readCursor run.leaId run.partner).value

theorem PageRun.start_eq_some {run : PageRun} {s s' : Store} (h : run.start s = some s') :
    s.syncJobs.lookup run.syncJobId = none ∧ s'.roster = s.roster ∧
      s'.quarantine = s.quarantine ∧ s'.cursorState = s.cursorState ∧
      s'.syncJobs = s.syncJobs.insert run.syncJobId (run.runningJob s) ∧
      s'.revertActions = s.revertActions ∧ s'.retryActions = s.retryActions := by
  simp only [start, Option.bind_eq_bind, Option.bind_eq_some_iff,
    Store.insertSyncJob_eq_some] at h
  obtain ⟨_, ⟨hfresh, rfl⟩, hs⟩ := h
  rw [← Option.some.inj hs]
  exact ⟨hfresh, rfl, rfl, rfl, rfl, rfl, rfl⟩

theorem processOnePage_eq_some {pg : Postgres} {run : PageRun} {s s' : Store}
    {outcome : PageOutcome} (h : processOnePage pg run s = some (s', outcome)) :
    run.Commits pg s s' ∧ outcome.status = (if run.blocked s then .failed else .success) := by
  simp only [processOnePage, Option.bind_eq_bind, Option.bind_eq_some_iff] at h
  obtain ⟨s₀, hstart, h⟩ := h
  obtain ⟨hfresh, hr₀, hq₀, hc₀, hj₀, hv₀, ht₀⟩ := PageRun.start_eq_some hstart
  rw [show (run.report s).pageBlocked = run.blocked s from rfl] at h
  by_cases hb : run.blocked s = true
  · rw [if_pos hb] at h
    obtain ⟨rfl, rfl⟩ := Prod.mk.inj (Option.some.inj h)
    refine ⟨⟨hfresh, by simp [hb], by simp [hb], by simp [hb], fun _ => ⟨hr₀, hq₀, hc₀⟩, ?_, ?_,
      hv₀, ht₀⟩, by rw [hb]; rfl⟩
    · simp [PageRun.fail, Store.updateSyncJob, hj₀, Table.lookup_modify, hb, PageRun.runningJob]
    · intro id hid
      simp [PageRun.fail, Store.updateSyncJob, hj₀, Table.lookup_modify, hid]
  · rw [if_neg hb, Option.bind_eq_some_iff] at h
    obtain ⟨⟨s₁, counts⟩, h₁, h⟩ := h
    obtain ⟨rfl, rfl⟩ := Prod.mk.inj (Option.some.inj h)
    obtain ⟨hr, hq, hs⟩ := processEvents_eq_some h₁
    replace hb : run.blocked s = false := Bool.eq_false_iff.mpr hb
    have hj : s₁.syncJobs = s.syncJobs.insert run.syncJobId (run.runningJob s) :=
      hs.syncJobs.trans hj₀
    have hc : s₁.cursorState = s.cursorState := hs.cursorState.trans hc₀
    refine ⟨⟨hfresh, fun _ => ?_, fun _ => hq.trans (hq₀ ▸ rfl), fun _ => ?_, by simp [hb], ?_, ?_,
      hs.revertActions.trans hv₀, hs.retryActions.trans ht₀⟩, by rw [hb]; rfl⟩
    · rw [← hr₀]; exact hr
    · simp [PageRun.finish, upsertCursorState, Store.updateSyncJob, hc]
    · simp [PageRun.finish, upsertCursorState, Store.updateSyncJob, hj, Table.lookup_modify, hb,
        PageRun.runningJob]
    · intro id hid
      simp [PageRun.finish, upsertCursorState, Store.updateSyncJob, hj, Table.lookup_modify, hid]

/-! ### The live snapshots after one event -/

@[simp] theorem Roster.canonical_pushSnapshot (r : Roster) (leaId : LeaId)
    (event : NormalizedEvent) (syncJobId : Uuid) (createdAt : Instant) :
    (r.pushSnapshot leaId event syncJobId createdAt).canonical = r.canonical := by
  rw [pushSnapshot, canonical_insertSnapshot, canonical_supersede]

/-- The constraints do not read the snapshot tables. -/
@[simp] theorem Roster.admits_pushSnapshot (r : Roster) (leaId : LeaId)
    (event : NormalizedEvent) (syncJobId : Uuid) (createdAt : Instant) :
    (r.pushSnapshot leaId event syncJobId createdAt).admits = r.admits := by
  rw [pushSnapshot, insertSnapshot, admits_modifySnapshots, supersede, admits_modifySnapshots]

/-- The `lea_id` under which the snapshot of the event is stored. -/
def NormalizedEvent.storedUnder (event : NormalizedEvent) (leaId : LeaId) : LeaId :=
  if event.entityType = .lea then event.naturalKey else leaId

theorem Roster.live_pushSnapshot (r : Roster) (leaId : LeaId) (event : NormalizedEvent)
    (syncJobId : Uuid) (createdAt : Instant) (et : EntityType) (l : LeaId) (k : String) :
    (r.pushSnapshot leaId event syncJobId createdAt).live et l k
      = (if et = event.entityType ∧ l = leaId ∧ k = event.naturalKey then [] else r.live et l k)
        ++ if et = event.entityType ∧
              l = event.storedUnder leaId ∧ k = event.naturalKey
          then [{ (event.snapshotRow leaId syncJobId createdAt).stored event.entityType with
            snapshotId := (r.snapshots event.entityType).rows.length }] else [] := by
  have hlen : ((r.supersede event.entityType leaId event.naturalKey syncJobId
      createdAt).snapshots event.entityType).rows.length
        = (r.snapshots event.entityType).rows.length := by
    rw [supersede, modifySnapshots_self, SnapshotTable.mark, List.length_map]
  rw [pushSnapshot, live_insertSnapshot, live_supersede, hlen]
  congr 1
  refine if_congr (and_congr_right fun _ => ?_) rfl rfl
  rw [SnapshotRow.liveAt_iff, SnapshotRow.stored_leaId, SnapshotRow.stored_naturalKey,
    SnapshotRow.stored_supersededByGenerationId]
  exact ⟨fun h => ⟨h.1.symm, h.2.1.symm⟩, fun h => ⟨h.1.symm, h.2.symm, rfl⟩⟩

/-! ### What an accepted event is known to be -/

theorem PageRun.cleared_of_mem_accepted {run : PageRun} {s : Store} {event : NormalizedEvent}
    (hb : run.blocked s = false) (h : event ∈ run.accepted s) :
    event ∈ run.page.events ∧ event.Cleared := by
  obtain ⟨hmem, hacc⟩ := List.mem_filter.mp h
  exact ⟨hmem, cleared_of_accepts (layer1_ok_of_not_blocked hb) hmem hacc⟩

theorem PageRun.cleared_of_mem_quarantined {run : PageRun} {s : Store} {event : NormalizedEvent}
    (hb : run.blocked s = false) (h : event ∈ run.quarantined s) :
    event ∈ run.page.events ∧ event.Cleared := by
  obtain ⟨hmem, hq⟩ := List.mem_filter.mp h
  have hq : event.eventId ∈ (run.report s).quarantinedEventIds := by
    simpa only [ValidationReport.quarantines, decide_eq_true_eq] using hq
  exact ⟨hmem, cleared_of_quarantined (layer1_ok_of_not_blocked hb) hmem hq⟩

/-- Layer 2 makes the tenant of a student or enrollment the envelope's. -/
theorem owner_of_cleared {event : NormalizedEvent} {pg : Postgres} {now : Instant}
    {row : CanonicalRow} (hc : event.Cleared) (ht : event.entityType ≠ .lea)
    (h : event.canonicalRow pg now = some row) (id : String) : row.owner id = event.leaId := by
  cases he : event.entityType with
  | lea => exact absurd he ht
  | student =>
    obtain ⟨student, hs, hl⟩ := cleared_student hc he
    rw [NormalizedEvent.canonicalRow, he, hs] at h
    rw [← Option.some.inj h]
    exact hl
  | enrollment =>
    obtain ⟨enrollment, _, _, hs, hl, -⟩ := cleared_enrollment hc he
    rw [NormalizedEvent.canonicalRow, he, hs] at h
    simp only [Option.bind_eq_bind, Option.bind_eq_some_iff] at h
    obtain ⟨_, -, _, -, h⟩ := h
    rw [← Option.some.inj h]
    exact hl
