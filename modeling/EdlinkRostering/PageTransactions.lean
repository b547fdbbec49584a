/-
A page and a retry as transactions.

`Polls.lean` and `Retry.lean` run one page and one retry to the end on one database
state.  Here both go statement by statement.  Of the rows the two write, both write
the cursor row only, so its key is the only lock.  Python code between two statements
belongs to the second: the partner is asked for the page between the `SELECT` of the
cursor and the `SELECT` of the students.

* `PagePc.denotes` — alone, a page is what `processOnePage` says;
* `RetryPc.denotes` — alone, a retry is what `retry` says.
-/
import EdlinkRostering.ReadCommitted
import EdlinkRostering.Polls
import EdlinkRostering.Retry

open ReadCommitted

/-- The key of a cursor row. -/
abbrev CursorKey := LeaId × String

/-! ### A page -/

/-- The jobs `_read_recent_sync_history` takes its counts from. -/
def Store.recentJobs (s : Store) (leaId : LeaId) (partner : String) : List (Uuid × SyncJobRow) :=
  (((Table.rows s.syncJobs).filter fun j =>
    j.2.leaId = leaId && j.2.partner = partner && j.2.status = .success).insertionSort
      fun a b => b.2.startedAt ≤ a.2.startedAt).take 30

theorem Store.readRecentSyncHistory_eq (s : Store) (leaId : LeaId) (partner : String) :
    s.readRecentSyncHistory leaId partner =
      ((s.recentJobs leaId partner).map (·.2.eventCount),
        (s.recentJobs leaId partner).map fun j => s.deletionCount j.1) :=
  rfl

/-- What a page transaction has read. -/
structure PageReads where
  cursor : Cursor
  page : EventPage
  state : LEAState

def PageReads.report (reads : PageReads) : ValidationReport := runPipeline reads.page reads.state

/-- Where the event loop stands. -/
inductive ApplyPc where
  | ensureLea
  | turn (events : List NormalizedEvent) (counts : PageCounts)
  | supersede (event : NormalizedEvent) (events : List NormalizedEvent) (counts : PageCounts)
  | insertSnapshot (event : NormalizedEvent) (events : List NormalizedEvent) (counts : PageCounts)
  | upsertCanonical (event : NormalizedEvent) (events : List NormalizedEvent) (counts : PageCounts)
  | upsertCursor (counts : PageCounts)

/-- Where a page transaction stands. -/
inductive PagePc where
  | readCursor
  | readKnownStudentIds (cursor : Cursor)
  | readLiveStudentCount (cursor : Cursor) (page : EventPage) (known : List StudentId)
  | readRecentJobs (cursor : Cursor) (page : EventPage) (known : List StudentId) (live : Nat)
  | readDeletions (cursor : Cursor) (page : EventPage) (known : List StudentId) (live : Nat)
      (jobs : List (Uuid × SyncJobRow))
  | insertSyncJob (reads : PageReads)
  | persistIssues (reads : PageReads)
  | markFailed (reads : PageReads)
  | apply (reads : PageReads) (pc : ApplyPc)
  | commit (outcome : PageOutcome)

abbrev PageStatement := Statement Store CursorKey PagePc PageOutcome Unit

namespace Poll

variable (leaId : LeaId) (poll : Poll) (reads : PageReads)

/-- The call of `processOnePage` behind a page transaction. -/
def runOf : PageRun := poll.pageRun leaId reads.page

/-- The row `_insert_sync_job_running` writes. -/
def runningJob : SyncJobRow where
  leaId := leaId
  partner := connectorName
  status := .running
  startedAt := poll.now
  cursorBefore := some reads.cursor.value

def failedOutcome : PageOutcome where
  syncJobId := poll.syncJobId
  leaId := leaId
  status := .failed
  cursorBefore := reads.cursor.value
  cursorAfter := reads.cursor.value
  eventCount := 0
  skippedCount := 0
  quarantinedCount := 0
  errorCount := reads.report.errorCount
  warningCount := reads.report.warningCount
  hasMore := false

def successOutcome (counts : PageCounts) : PageOutcome where
  syncJobId := poll.syncJobId
  leaId := leaId
  status := .success
  cursorBefore := reads.cursor.value
  cursorAfter := reads.page.nextCursor.value
  eventCount := counts.applied
  skippedCount := counts.skipped
  quarantinedCount := counts.quarantined
  errorCount := reads.report.errorCount
  warningCount := reads.report.warningCount
  hasMore := reads.page.hasMore

/-- `_mark_sync_job_success`. -/
def markSuccess (counts : PageCounts) (s : Store) : Store :=
  s.updateSyncJob poll.syncJobId fun job =>
    { job with
      status := .success, completedAt := some poll.now, eventCount := counts.applied
      errorCount := reads.report.errorCount, warningCount := reads.report.warningCount
      cursorAfter := some reads.page.nextCursor.value }

/-- `_upsert_cursor_state`, at the end of a page. -/
def advanceCursor (s : Store) : Store :=
  upsertCursorState s leaId connectorName reads.page.nextCursor poll.now

/-- The next statement of the event loop. -/
def applyStatement (pg : Postgres) (s : Store) : ApplyPc → PageStatement
  | .ensureLea =>
    .exec [] (fun s => ensureLeaExists s leaId) (.apply reads (.turn reads.page.events {}))
  | .turn (event :: events) counts =>
    if event.eventId ∈ reads.report.quarantinedEventIds then
      .exec [] (fun s => s.insertQuarantine (quarantineRow leaId poll.syncJobId poll.now event))
        (.apply reads (.turn events { counts with quarantined := counts.quarantined + 1 }))
    else if event.eventId ∉ reads.report.okEventIds then
      .exec [] id (.apply reads (.turn events { counts with skipped := counts.skipped + 1 }))
    else if s.roster.dedups pg leaId event then
      .exec [] id (.apply reads (.turn events { counts with skipped := counts.skipped + 1 }))
    else .exec [] id (.apply reads (.supersede event events counts))
  | .supersede event events counts =>
    .exec []
      (fun s => s.withRoster
        (s.roster.supersede event.entityType leaId event.naturalKey poll.syncJobId poll.now))
      (.apply reads (.insertSnapshot event events counts))
  | .insertSnapshot event events counts =>
    .exec []
      (fun s => s.withRoster
        (s.roster.insertSnapshot event.entityType
          (event.snapshotRow leaId poll.syncJobId poll.now)))
      (.apply reads (.upsertCanonical event events counts))
  | .upsertCanonical event events counts =>
    match event.canonicalRow pg poll.now with
    | none => .raise ()
    | some row =>
      if s.roster.admits event.naturalKey row then
        .exec [] (fun s => s.withRoster (s.roster.setCanonical event.naturalKey row))
          (.apply reads (.turn events { counts with applied := counts.applied + 1 }))
      else .raise ()
  | .turn [] counts =>
    .exec [] (poll.markSuccess reads counts) (.apply reads (.upsertCursor counts))
  | .upsertCursor counts =>
    .exec [(leaId, connectorName)] (poll.advanceCursor leaId reads)
      (.commit (poll.successOutcome leaId reads counts))

end Poll

/-- The next statement of `_process_one_page`. -/
def PagePc.statement (pg : Postgres) (leaId : LeaId) (poll : Poll) (pc : PagePc) (s : Store) :
    PageStatement :=
  match pc with
  | .readCursor => .exec [] id (.readKnownStudentIds (s.readCursor leaId connectorName))
  | .readKnownStudentIds cursor =>
    match fetchChanges poll.log leaId cursor poll.pageSize with
    | none => .raise ()
    | some page => .exec [] id (.readLiveStudentCount cursor page (s.readKnownStudentIds leaId))
  | .readLiveStudentCount cursor page known =>
    .exec [] id (.readRecentJobs cursor page known (s.readLiveStudentCount leaId))
  | .readRecentJobs cursor page known live =>
    .exec [] id (.readDeletions cursor page known live (s.recentJobs leaId connectorName))
  | .readDeletions cursor page known live jobs =>
    .exec [] id
      (.insertSyncJob
        { cursor := cursor, page := page
          state :=
            { leaId := leaId, knownStudentIds := known, liveStudentCount := live
              recentEventCounts := jobs.map (·.2.eventCount)
              recentDeletionCounts := jobs.map fun j => s.deletionCount j.1 } })
  | .insertSyncJob reads =>
    if s.syncJobs.lookup poll.syncJobId = none then
      .exec []
        (fun s =>
          { s with syncJobs := s.syncJobs.insert poll.syncJobId (poll.runningJob leaId reads) })
        (.persistIssues reads)
    else .raise ()
  | .persistIssues reads =>
    .exec [] (fun s => persistValidationIssues s poll.syncJobId reads.report poll.now)
      (if reads.report.pageBlocked then .markFailed reads else .apply reads .ensureLea)
  | .markFailed reads =>
    .exec [] ((poll.runOf leaId reads).fail reads.report) (.commit (poll.failedOutcome leaId reads))
  | .apply reads pc => poll.applyStatement leaId reads pg s pc
  | .commit outcome => .commit outcome

/-- What is left of the event loop and of the page, run alone. -/
def Poll.finishFrom (pg : Postgres) (leaId : LeaId) (poll : Poll) (reads : PageReads)
    (events : List NormalizedEvent) (counts : PageCounts) (s : Store) :
    Option (Store × PageOutcome) := do
  let (s', counts) ← events.foldlM
    (processEvent pg leaId poll.syncJobId poll.now reads.report) (s, counts)
  some (poll.advanceCursor leaId reads (poll.markSuccess reads counts s'),
    poll.successOutcome leaId reads counts)

/-- What is left of the event loop, run alone. -/
def ApplyPc.resume (pg : Postgres) (leaId : LeaId) (poll : Poll) (reads : PageReads) (s : Store) :
    ApplyPc → Option (Store × PageOutcome)
  | .ensureLea => poll.finishFrom pg leaId reads reads.page.events {} (ensureLeaExists s leaId)
  | .turn events counts => poll.finishFrom pg leaId reads events counts s
  | .supersede event events counts => do
    let row ← event.canonicalRow pg poll.now
    let r ← (s.roster.pushSnapshot leaId event poll.syncJobId poll.now).upsert event.naturalKey row
    poll.finishFrom pg leaId reads events { counts with applied := counts.applied + 1 }
      (s.withRoster r)
  | .insertSnapshot event events counts => do
    let row ← event.canonicalRow pg poll.now
    let r ← (s.roster.insertSnapshot event.entityType
      (event.snapshotRow leaId poll.syncJobId poll.now)).upsert event.naturalKey row
    poll.finishFrom pg leaId reads events { counts with applied := counts.applied + 1 }
      (s.withRoster r)
  | .upsertCanonical event events counts => do
    let row ← event.canonicalRow pg poll.now
    let r ← s.roster.upsert event.naturalKey row
    poll.finishFrom pg leaId reads events { counts with applied := counts.applied + 1 }
      (s.withRoster r)
  | .upsertCursor counts =>
    some (poll.advanceCursor leaId reads s, poll.successOutcome leaId reads counts)

/-- What is left of a page from its validation issues on, run alone. -/
def Poll.resumeIssues (pg : Postgres) (leaId : LeaId) (poll : Poll) (reads : PageReads)
    (s : Store) : Option (Store × PageOutcome) :=
  let s' := persistValidationIssues s poll.syncJobId reads.report poll.now
  if reads.report.pageBlocked then
    some ((poll.runOf leaId reads).fail reads.report s', poll.failedOutcome leaId reads)
  else ApplyPc.ensureLea.resume pg leaId poll reads s'

/-- What is left of a page once it has read, run alone. -/
def Poll.resumeReads (pg : Postgres) (leaId : LeaId) (poll : Poll) (reads : PageReads)
    (s : Store) : Option (Store × PageOutcome) := do
  let s' ← s.insertSyncJob poll.syncJobId (poll.runningJob leaId reads)
  poll.resumeIssues pg leaId reads s'

/-- What is left of a page, run alone. -/
def PagePc.rest (pg : Postgres) (leaId : LeaId) (poll : Poll) (pc : PagePc) (s : Store) :
    Option (Store × PageOutcome) :=
  let state (known : List StudentId) (live : Nat) (jobs : List (Uuid × SyncJobRow)) : LEAState :=
    { leaId := leaId, knownStudentIds := known, liveStudentCount := live
      recentEventCounts := jobs.map (·.2.eventCount)
      recentDeletionCounts := jobs.map fun j => s.deletionCount j.1 }
  let jobs := s.recentJobs leaId connectorName
  match pc with
  | .readCursor => do
    let page ← poll.page leaId s
    processOnePage pg (poll.pageRun leaId page) s
  | .readKnownStudentIds cursor => do
    let page ← fetchChanges poll.log leaId cursor poll.pageSize
    poll.resumeReads pg leaId ⟨cursor, page, s.leaState leaId connectorName⟩ s
  | .readLiveStudentCount cursor page known =>
    poll.resumeReads pg leaId ⟨cursor, page, state known (s.readLiveStudentCount leaId) jobs⟩ s
  | .readRecentJobs cursor page known live =>
    poll.resumeReads pg leaId ⟨cursor, page, state known live jobs⟩ s
  | .readDeletions cursor page known live jobs =>
    poll.resumeReads pg leaId ⟨cursor, page, state known live jobs⟩ s
  | .insertSyncJob reads => poll.resumeReads pg leaId reads s
  | .persistIssues reads => poll.resumeIssues pg leaId reads s
  | .markFailed reads =>
    some ((poll.runOf leaId reads).fail reads.report s, poll.failedOutcome leaId reads)
  | .apply reads pc => pc.resume pg leaId poll reads s
  | .commit outcome => some (s, outcome)

/-- A page that raised. -/
def orRaised {α : Type} : Option α → Except Unit α
  | none => .error ()
  | some a => .ok a

def PagePc.resume (pg : Postgres) (leaId : LeaId) (poll : Poll) (pc : PagePc) (s : Store) :
    Except Unit (Store × PageOutcome) :=
  orRaised (pc.rest pg leaId poll s)

section

variable {pg : Postgres} {leaId : LeaId} {poll : Poll} {reads : PageReads} {s : Store}

/-- A page is its reads and what it makes of them. -/
theorem processOnePage_eq_resumeReads {page : EventPage} :
    processOnePage pg (poll.pageRun leaId page) s =
      poll.resumeReads pg leaId
        ⟨s.readCursor leaId connectorName, page, s.leaState leaId connectorName⟩ s := by
  simp only [processOnePage, PageRun.start, Poll.resumeReads, Poll.resumeIssues, Poll.pageRun,
    Option.bind_eq_bind, Option.bind_assoc, Option.bind_some]
  rfl

/-- One turn of the event loop, and the rest. -/
theorem finishFrom_cons (event : NormalizedEvent) (events : List NormalizedEvent)
    (counts : PageCounts) :
    poll.finishFrom pg leaId reads (event :: events) counts s =
      (processEvent pg leaId poll.syncJobId poll.now reads.report (s, counts) event).bind
        fun acc => poll.finishFrom pg leaId reads events acc.2 acc.1 := by
  simp only [Poll.finishFrom, List.foldlM_cons, Option.bind_eq_bind, Option.bind_assoc]

theorem apply_means (pc : ApplyPc) :
    (poll.applyStatement leaId reads pg s pc).Means (PagePc.resume pg leaId poll) s
      (orRaised (pc.resume pg leaId poll reads s)) := by
  cases pc with
  | ensureLea => rfl
  | turn events counts =>
    cases events with
    | nil => rfl
    | cons event events =>
      rw [show (ApplyPc.turn (event :: events) counts).resume pg leaId poll reads s =
        poll.finishFrom pg leaId reads (event :: events) counts s from rfl, finishFrom_cons]
      simp only [Poll.applyStatement, processEvent]
      by_cases hq : event.eventId ∈ reads.report.quarantinedEventIds
      · rw [if_pos hq, if_pos hq]; rfl
      rw [if_neg hq, if_neg hq]
      by_cases hok : event.eventId ∉ reads.report.okEventIds
      · rw [if_pos hok, if_pos hok]; rfl
      rw [if_neg hok, if_neg hok, applyEvent]
      by_cases hd : s.roster.dedups pg leaId event = true
      · rw [if_pos hd, if_pos hd]; rfl
      · rw [if_neg hd, if_neg hd]
        simp only [Option.bind_eq_bind, Option.bind_assoc]
        rfl
  | supersede event events counts => rfl
  | insertSnapshot event events counts => rfl
  | upsertCanonical event events counts =>
    simp only [Poll.applyStatement, ApplyPc.resume, Roster.upsert]
    cases event.canonicalRow pg poll.now with
    | none => rfl
    | some row =>
      simp only [Option.bind_eq_bind, Option.bind_some]
      by_cases h : s.roster.admits event.naturalKey row = true
      · rw [if_pos h, if_pos h]; rfl
      · rw [if_neg h, if_neg h]; rfl
  | upsertCursor counts => rfl

/-- **A page, alone.** -/
theorem PagePc.denotes (pg : Postgres) (leaId : LeaId) (poll : Poll) :
    Denotes (PagePc.statement pg leaId poll) (PagePc.resume pg leaId poll) := by
  intro pc s
  cases pc with
  | readCursor =>
    show PagePc.resume pg leaId poll .readCursor s = _
    simp only [PagePc.resume, PagePc.rest, processOnePage_eq_resumeReads]
    rfl
  | readKnownStudentIds cursor =>
    simp only [PagePc.statement, PagePc.resume, PagePc.rest]
    cases fetchChanges poll.log leaId cursor poll.pageSize with
    | none => rfl
    | some page => rfl
  | readLiveStudentCount cursor page known => rfl
  | readRecentJobs cursor page known live => rfl
  | readDeletions cursor page known live jobs => rfl
  | insertSyncJob reads =>
    simp only [PagePc.statement, PagePc.resume, PagePc.rest, Poll.resumeReads, Store.insertSyncJob]
    by_cases h : s.syncJobs.lookup poll.syncJobId = none
    · rw [if_pos h, if_pos h]; rfl
    · rw [if_neg h, if_neg h]; rfl
  | persistIssues reads =>
    simp only [PagePc.statement, PagePc.resume, PagePc.rest, Poll.resumeIssues]
    by_cases h : reads.report.pageBlocked = true
    · rw [if_pos h, if_pos h]; rfl
    · rw [if_neg h, if_neg h]; rfl
  | markFailed reads => rfl
  | apply reads pc => exact apply_means pc
  | commit outcome => rfl

end

/-! ### A retry -/

/-- Where a retry stands. -/
inductive RetryPc where
  | load
  | rewind (target : SyncJobRow)
  | insertAction (target : SyncJobRow)
  | commit (target : SyncJobRow)

/-- `_insert_retry_action`. -/
def RetryRun.audit (run : RetryRun) (target : SyncJobRow) (s : Store) : Store :=
  { s with retryActions := s.retryActions ++ [run.action target] }

def RetryRun.outcome (run : RetryRun) (target : SyncJobRow) : RetryOutcome where
  syncJobId := run.syncJobId
  leaId := target.leaId
  partner := target.partner
  cursorRewoundTo := target.cursorBefore
  forced := run.forced

/-- The rewind of a retry. -/
def RetryRun.rewind (run : RetryRun) (target : SyncJobRow) (s : Store) : Store :=
  rewindCursor s target.leaId target.partner target.cursorBefore run.now

/-- The next statement of `RetryService.retry`. -/
def RetryPc.statement (run : RetryRun) (pc : RetryPc) (s : Store) :
    Statement Store CursorKey RetryPc RetryOutcome RetryError :=
  match pc with
  | .load =>
    match s.syncJobs.lookup run.syncJobId with
    | none => .raise (.syncJobNotFound run.syncJobId)
    | some target => .exec [] id (.rewind target)
  | .rewind target =>
    if target.status = .revert then .raise (.refusedRevert run.syncJobId)
    else if target.status = .success && !run.forced then .raise (.refusedSuccess run.syncJobId)
    else .exec [(target.leaId, target.partner)] (run.rewind target) (.insertAction target)
  | .insertAction target => .exec [] (run.audit target) (.commit target)
  | .commit target => .commit (run.outcome target)

/-- What is left of a retry, run alone. -/
def RetryPc.resume (run : RetryRun) (pc : RetryPc) (s : Store) :
    Except RetryError (Store × RetryOutcome) :=
  match pc with
  | .load => retry run s
  | .rewind target =>
    if target.status = .revert then .error (.refusedRevert run.syncJobId)
    else if target.status = .success && !run.forced then .error (.refusedSuccess run.syncJobId)
    else .ok (run.audit target (run.rewind target s), run.outcome target)
  | .insertAction target => .ok (run.audit target s, run.outcome target)
  | .commit target => .ok (s, run.outcome target)

/-- **A retry, alone.** -/
theorem RetryPc.denotes (run : RetryRun) :
    Denotes (RetryPc.statement run) (RetryPc.resume run) := by
  intro pc s
  cases pc with
  | load =>
    simp only [RetryPc.statement, RetryPc.resume, retry]
    cases s.syncJobs.lookup run.syncJobId with
    | none => rfl
    | some target => rfl
  | rewind target =>
    simp only [RetryPc.statement, RetryPc.resume]
    by_cases hrevert : target.status = .revert
    · rw [if_pos hrevert, if_pos hrevert]; rfl
    rw [if_neg hrevert, if_neg hrevert]
    by_cases hforced : (target.status = .success && !run.forced) = true
    · rw [if_pos hforced, if_pos hforced]; rfl
    · rw [if_neg hforced, if_neg hforced]; rfl
  | insertAction target => rfl
  | commit target => rfl
