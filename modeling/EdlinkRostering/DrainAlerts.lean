/-
What a drain tells telemetry.

Transcribed from `drain_lea` with its telemetry and its alerts, `evaluate_sync_outcome`
and `fire_integration_degraded` of `services/alerts.py`.  A page is committed before it is
tracked, and tracked one event after another: a drain that is killed, or whose telemetry
raises, in between leaves the rows of a job without some of its alerts, and no later drain
makes up for them.  The alert rules read the stream, not the tables.

* `drainLeaTracked_eq` — the same drain, and what it tracks;
* `job_alerts_exact` — over every run the alerts about a job are the first of those its rows
  call for, and all of them unless its drain was cut.
-/
import EdlinkRostering.SyncDetail
import EdlinkRostering.IntegrationStatus
import EdlinkRostering.AdminReads

open Admin (AlertOut emit)

/-- A call of `track_event`. -/
structure TrackedEvent where
  name : String
  properties : List (String × String)
  measurements : List (String × Rat)
deriving DecidableEq

namespace Alerts

/-! ### The alerts -/

/-- The event `_emit` tracks. -/
def tracked (alert : AlertOut) : TrackedEvent where
  name := alert.code
  properties := alert.properties
  measurements := alert.measurements

def syncFailure (syncJobId : Uuid) (leaId : LeaId) (partner : String) (errorCount : Nat)
    (errorSummary : Option String) : AlertOut :=
  emit "alert.sync_failure" "critical" ("alert.sync_failure:" ++ syncJobId)
    [("sync_job_id", syncJobId), ("lea_id", leaId), ("partner", partner),
      ("error_summary", errorSummary.getD "")]
    [("error_count", errorCount)]

def schemaDrift (syncJobId : Uuid) (leaId : LeaId) (partner : String) (sampleCode : String)
    (sampleEventId : Option EventId) (layer2Errors : Nat) : AlertOut :=
  emit "alert.schema_drift" "warning"
    ("alert.schema_drift:" ++ leaId ++ ":" ++ partner ++ ":" ++ sampleCode)
    [("sync_job_id", syncJobId), ("lea_id", leaId), ("partner", partner),
      ("sample_code", sampleCode), ("sample_event_id", sampleEventId.getD "")]
    [("layer_2_error_count", layer2Errors)]

/-- The errors of Layer 2, by their code and their event. -/
def layer2Errors (report : ValidationReport) : List (String × Option EventId) :=
  (report.issues.filter fun i => i.layer = 2 && i.severity = .error).map fun i =>
    (i.code, i.eventId)

/-- The alert about the errors of Layer 2, if there is one. -/
def driftAlerts (syncJobId : Uuid) (leaId : LeaId) (partner : String) :
    List (String × Option EventId) → List AlertOut
  | [] => []
  | sample :: rest => [schemaDrift syncJobId leaId partner sample.1 sample.2 (rest.length + 1)]

/-- `evaluate_sync_outcome`. -/
def evaluateSyncOutcome (syncJobId : Uuid) (leaId : LeaId) (partner : String)
    (status : JobStatus) (report : ValidationReport) (errorSummary : Option String) :
    List AlertOut :=
  (if status = .failed then
    [syncFailure syncJobId leaId partner report.errorCount errorSummary] else [])
  ++ driftAlerts syncJobId leaId partner (layer2Errors report)

/-- `fire_integration_degraded`. -/
def integrationDegraded (leaId : LeaId) (partner status : String) : AlertOut :=
  emit "alert.integration_degraded" "critical"
    ("alert.integration_degraded:" ++ leaId ++ ":" ++ partner)
    [("lea_id", leaId), ("partner", partner), ("integration_status", status)] []

/-! ### A drain -/

/-- `sync.page_processed`. -/
def pageProcessed (leaId : LeaId) (outcome : PageOutcome) : TrackedEvent where
  name := "sync.page_processed"
  properties := [("lea_id", leaId), ("partner", connectorName),
    ("status", outcome.status.value), ("sync_job_id", outcome.syncJobId)]
  measurements := [("event_count", outcome.eventCount), ("skipped_count", outcome.skippedCount),
    ("quarantined_count", outcome.quarantinedCount), ("error_count", outcome.errorCount)]

/-- The error summary `_process_one_page` returns. -/
def errorSummary (status : JobStatus) (report : ValidationReport) : Option String :=
  if status = .failed then some (summarizeBlockingErrors report) else none

/-- What the drain tracks about one page. -/
def trackPage (leaId : LeaId) (outcome : PageOutcome) (report : ValidationReport) :
    List TrackedEvent :=
  pageProcessed leaId outcome
    :: (evaluateSyncOutcome outcome.syncJobId leaId connectorName outcome.status report
      (errorSummary outcome.status report)).map tracked

/-- One turn of the page loop, with everything it is called with and draws. -/
structure Turn where
  /-- What `fetch_changes` returns for a cursor; `none` is an exception. -/
  fetch : Cursor → Option EventPage
  syncJobId : Uuid
  now : Instant
  /-- Whether the transaction is committed. -/
  commits : Bool := true
  /-- How many events about the page are tracked before the drain ends there, if it does. -/
  cut : Option Nat := none

namespace Turn

def pageRun (leaId : LeaId) (turn : Turn) (page : EventPage) : PageRun where
  leaId := leaId
  partner := connectorName
  page := page
  syncJobId := turn.syncJobId
  now := turn.now

/-- `_process_one_page`: the state it commits, and what it returns. -/
def exec (pg : Postgres) (leaId : LeaId) (turn : Turn) (s : Store) :
    Option (Store × PageOutcome × ValidationReport) := do
  let page ← turn.fetch (s.readCursor leaId connectorName)
  if turn.commits then
    let (s', outcome) ← processOnePage pg (turn.pageRun leaId page) s
    some (s', outcome, (turn.pageRun leaId page).report s)
  else none

end Turn

/-- The page loop of `drain_lea`, with what it tracks. -/
def drainLeaTracked (pg : Postgres) (leaId : LeaId) :
    List Turn → Store → Store × List PageOutcome × List TrackedEvent
  | [], s => (s, [], [])
  | turn :: turns, s =>
    match turn.exec pg leaId s with
    | none => (s, [], [])
    | some (s', outcome, report) =>
      let events := trackPage leaId outcome report
      match turn.cut with
      | some n => (s', [outcome], events.take n)
      | none =>
        if !outcome.hasMore || outcome.status ≠ .success then (s', [outcome], events)
        else
          let rest := drainLeaTracked pg leaId turns s'
          (rest.1, outcome :: rest.2.1, events ++ rest.2.2)

theorem Turn.exec_eq_some {pg : Postgres} {leaId : LeaId} {turn : Turn} {s s' : Store}
    {outcome : PageOutcome} {report : ValidationReport}
    (h : turn.exec pg leaId s = some (s', outcome, report)) :
    ∃ page, report = (turn.pageRun leaId page).report s ∧
      processOnePage pg (turn.pageRun leaId page) s = some (s', outcome) := by
  simp only [exec, Option.bind_eq_bind, Option.bind_eq_some_iff] at h
  obtain ⟨page, -, h⟩ := h
  split at h
  · obtain ⟨⟨s₁, outcome₁⟩, hcommit, hresult⟩ := Option.bind_eq_some_iff.mp h
    simp only [Option.some.injEq, Prod.mk.injEq] at hresult
    obtain ⟨rfl, rfl, rfl⟩ := hresult
    exact ⟨page, rfl, hcommit⟩
  · exact absurd h (by simp)

/-! ### The polls of the EdLink connector -/

/-- A poll as a turn of the loop. -/
def Turn.ofPoll (leaId : LeaId) (poll : Poll) (cut : Option Nat) : Turn where
  fetch since := fetchChanges poll.log leaId since poll.pageSize
  syncJobId := poll.syncJobId
  now := poll.now
  commits := poll.commits
  cut := cut

/-- The polls a drain may get to: a cut is the end of it. -/
def reached : List (Poll × Option Nat) → List Poll
  | [] => []
  | (poll, none) :: rest => poll :: reached rest
  | (poll, some _) :: _ => [poll]

/-- A poll is executed like its turn. -/
theorem Turn.exec_ofPoll (pg : Postgres) (leaId : LeaId) (poll : Poll) (cut : Option Nat)
    (s : Store) : poll.exec pg leaId s
      = (((Turn.ofPoll leaId poll cut).exec pg leaId s).map fun r => (r.1, some r.2.1)).getD
          (s, none) := by
  have hrun : ∀ page, (Turn.ofPoll leaId poll cut).pageRun leaId page = poll.pageRun leaId page :=
    fun _ => rfl
  have hfetch : (Turn.ofPoll leaId poll cut).fetch (s.readCursor leaId connectorName)
      = poll.page leaId s := rfl
  have hcommits : (Turn.ofPoll leaId poll cut).commits = poll.commits := rfl
  simp only [Poll.exec, Turn.exec, hrun, hfetch, hcommits]
  cases poll.page leaId s with
  | none => rfl
  | some page =>
    cases poll.commits with
    | false => rfl
    | true =>
      simp only [if_true, Option.bind_eq_bind, Option.bind_some]
      cases processOnePage pg (poll.pageRun leaId page) s <;> rfl

/-- Tracking changes nothing about a drain of the EdLink connector but where it ends. -/
theorem drainLeaTracked_eq (pg : Postgres) (leaId : LeaId) (polls : List (Poll × Option Nat))
    (s : Store) :
    let tracked := drainLeaTracked pg leaId (polls.map fun p => Turn.ofPoll leaId p.1 p.2) s
    (tracked.1, tracked.2.1) = drainLea pg leaId (reached polls) s := by
  induction polls generalizing s with
  | nil => rfl
  | cons p polls ih =>
    obtain ⟨poll, cut⟩ := p
    have hexec := Turn.exec_ofPoll pg leaId poll cut s
    rw [List.map_cons, drainLeaTracked]
    cases hturn : (Turn.ofPoll leaId poll cut).exec pg leaId s with
    | none =>
      rw [hturn, Option.map_none, Option.getD_none] at hexec
      cases cut <;> simp only [reached, drainLea, hexec]
    | some result =>
      obtain ⟨s', outcome, report⟩ := result
      rw [hturn, Option.map_some, Option.getD_some] at hexec
      cases cut with
      | some n =>
        simp only [reached, drainLea, hexec, Turn.ofPoll]
        split <;> rfl
      | none =>
        simp only [reached, drainLea, hexec, Turn.ofPoll]
        split
        · rfl
        · rw [← ih s']
          rfl

/-! ### The alerts about a job -/

/-- The alerts that name a job. -/
def jobAlerts (id : Uuid) (log : List TrackedEvent) : List TrackedEvent :=
  log.filter fun event =>
    event.name ≠ "sync.page_processed" && event.properties.lookup "sync_job_id" = some id

/-- The errors of Layer 2 among the validation results. -/
def layer2Results (results : List ValidationResultRow) : List (String × Option EventId) :=
  (results.filter fun v => v.layer = 2 && v.hasSeverity .error).map fun v =>
    (v.code, v.payloadReference)

/-- The alerts the rows of a job call for. -/
def calledFor (s : Store) (id : Uuid) : List TrackedEvent :=
  match s.syncJobs.lookup id with
  | none => []
  | some job =>
    ((if job.status = .failed then
        [syncFailure id job.leaId job.partner job.errorCount job.errorSummary] else [])
      ++ driftAlerts id job.leaId job.partner (layer2Results (s.resultsOf id))).map tracked

theorem jobAlerts_append (id : Uuid) (log log' : List TrackedEvent) :
    jobAlerts id (log ++ log') = jobAlerts id log ++ jobAlerts id log' :=
  List.filter_append _ _

/-- The alerts of an outcome all name its job. -/
theorem jobAlerts_trackPage (id : Uuid) (leaId : LeaId) (outcome : PageOutcome)
    (report : ValidationReport) : jobAlerts id (trackPage leaId outcome report)
      = if id = outcome.syncJobId then
          (evaluateSyncOutcome outcome.syncJobId leaId connectorName outcome.status report
            (errorSummary outcome.status report)).map tracked
        else [] := by
  have hpage : jobAlerts id [pageProcessed leaId outcome] = [] := by
    rw [jobAlerts, List.filter_eq_nil_iff]
    intro event hevent
    obtain rfl := List.mem_singleton.mp hevent
    simp [pageProcessed]
  have hnamed : ∀ event ∈ (evaluateSyncOutcome outcome.syncJobId leaId connectorName outcome.status
      report (errorSummary outcome.status report)).map tracked,
      event.name ≠ "sync.page_processed"
        ∧ event.properties.lookup "sync_job_id" = some outcome.syncJobId := by
    intro event hevent
    obtain ⟨alert, halert, rfl⟩ := List.mem_map.mp hevent
    rcases List.mem_append.mp halert with halert | halert
    · split at halert
      · obtain rfl := List.mem_singleton.mp halert
        exact ⟨(by decide : "alert.sync_failure" ≠ "sync.page_processed"), rfl⟩
      · exact absurd halert List.not_mem_nil
    · cases hdrift : layer2Errors report with
      | nil =>
        rw [hdrift] at halert
        exact absurd halert List.not_mem_nil
      | cons sample rest =>
        rw [hdrift] at halert
        obtain rfl := List.mem_singleton.mp halert
        exact ⟨(by decide : "alert.schema_drift" ≠ "sync.page_processed"), rfl⟩
  rw [trackPage, ← List.singleton_append, jobAlerts_append, hpage, List.nil_append, jobAlerts]
  by_cases hid : id = outcome.syncJobId
  · rw [if_pos hid, List.filter_eq_self]
    intro event hevent
    obtain ⟨hname, hjob⟩ := hnamed event hevent
    rw [hid, hjob]
    simpa using hname
  · rw [if_neg hid, List.filter_eq_nil_iff]
    intro event hevent
    rw [(hnamed event hevent).2]
    simpa using fun _ => Ne.symm hid

/-- The validation results say which errors were of Layer 2. -/
theorem layer2Results_results (run : PageRun) (s : Store) :
    layer2Results (run.results s) = layer2Errors (run.report s) := by
  rw [layer2Results, PageRun.results, List.filter_map, List.map_map, layer2Errors]
  refine congrArg (List.map _) (List.filter_congr ?_)
  intro i _
  rw [Function.comp_apply, ValidationResultRow.hasSeverity_result]

/-- The rows of a committed page call for the alerts of its outcome. -/
theorem calledFor_page {pg : Postgres} {run : PageRun} {s s' : Store} {outcome : PageOutcome}
    (h : processOnePage pg run s = some (s', outcome))
    (hnew : s.resultsOf run.syncJobId = []) : calledFor s' run.syncJobId
      = (evaluateSyncOutcome run.syncJobId run.leaId run.partner outcome.status (run.report s)
          (errorSummary outcome.status (run.report s))).map tracked := by
  obtain ⟨hjob, hresults⟩ := processOnePage_records h
  have hstatus := (processOnePage_eq_some h).2
  have hof : s'.resultsOf run.syncJobId = run.results s := by
    rw [Store.resultsOf_append hresults (run.results_syncJobId s), if_pos rfl, hnew,
      List.nil_append]
  simp only [calledFor, hjob]
  rw [hof, layer2Results_results, evaluateSyncOutcome]
  simp only [PageRun.committedJob, errorSummary, hstatus]
  by_cases hb : run.blocked s = true
  · simp [hb]
  · simp [hb]

/-! ### Runs -/

/-- The world of the drains, and what was tracked so far. -/
structure Watched extends Integration.World where
  telemetry : List TrackedEvent

/-- One call of `drain_lea`, with the turns its loop may take. -/
structure Drain where
  leaId : LeaId
  turns : List Turn
  observedAt : Instant
  poller : Bool := true
  /-- The call ends after the status is committed, before its alert. -/
  cutPoll : Bool := false

/-- The page loop, in the world. -/
def drainTurns (pg : Postgres) (d : Drain) (w : Watched) : Watched :=
  let drained := drainLeaTracked pg d.leaId d.turns w.sync
  { w with sync := drained.1, telemetry := w.telemetry ++ drained.2.2 }

/-- `drain_lea` with telemetry and alerts. -/
def drainWatched (pg : Postgres) (d : Drain) (w : Watched) : Watched :=
  if d.poller then
    let snapshot := Integration.getIntegrationStatus (w.integration d.leaId) d.observedAt
    match Integration.pollAndPersist d.leaId snapshot w.authz with
    | none => w
    | some (authz, record) =>
      let w' := { w with authz := authz }
      if d.cutPoll then w'
      else match record with
        | none => drainTurns pg d w'
        | some record =>
          if record.isDegraded then
            { w' with
              telemetry := w.telemetry
                ++ [tracked (integrationDegraded d.leaId connectorName record.status)] }
          else drainTurns pg d w'
  else drainTurns pg d w

/-- The tables after a drain of the EdLink connector are those of the drain that tracks
nothing and ends where it does. -/
theorem drainWatched_world (pg : Postgres) (d : Drain) (polls : List (Poll × Option Nat))
    (w : Watched) (hturns : d.turns = polls.map fun p => Turn.ofPoll d.leaId p.1 p.2)
    (hcut : d.cutPoll = false) : (drainWatched pg d w).toWorld
      = (Integration.drainLeaPolled pg
          { leaId := d.leaId, polls := reached polls, observedAt := d.observedAt
            poller := d.poller } w.toWorld).world := by
  have hpages : ∀ w : Watched, (drainLeaTracked pg d.leaId d.turns w.sync).1
      = (drainLea pg d.leaId (reached polls) w.sync).1 := by
    intro w
    rw [hturns]
    exact congrArg Prod.fst (drainLeaTracked_eq pg d.leaId polls w.sync)
  rw [drainWatched, Integration.drainLeaPolled]
  cases d.poller with
  | false => simp [drainTurns, Integration.drainPages, hpages]
  | true =>
    simp only [if_true, Integration.Drain.snapshot]
    cases Integration.pollAndPersist d.leaId
      (Integration.getIntegrationStatus (w.integration d.leaId) d.observedAt) w.authz with
    | none => rfl
    | some p =>
      obtain ⟨authz, record⟩ := p
      simp only [hcut, Bool.false_eq_true, if_false]
      cases record with
      | none => simp [drainTurns, Integration.drainPages, hpages]
      | some record =>
        by_cases hdegraded : record.isDegraded = true
        · simp [hdegraded]
        · simp [hdegraded, drainTurns, Integration.drainPages, hpages]

/-- What can happen: a drain, another step of the authorizations, another operation. -/
inductive WatchedStep where
  | drain (d : Drain)
  | integration (step : Integration.Step) (h : ∀ d, step ≠ .drain d)
  | operation (op : Op) (h : ∀ run, op ≠ .page run)

/-- The state after a step. -/
def watchedStep (pg : Postgres) (w : Watched) : WatchedStep → Watched
  | .drain d => drainWatched pg d w
  | .integration step _ => { w with toWorld := Integration.step pg w.toWorld step }
  | .operation op _ => { w with sync := w.sync.exec pg op }

/-- The step is a drain that ends while it tracks the page of the job. -/
def WatchedStep.Cuts (id : Uuid) : WatchedStep → Prop
  | .drain d => ∃ turn ∈ d.turns, turn.syncJobId = id ∧ turn.cut ≠ none
  | .integration _ _ | .operation _ _ => False

/-- The step is a bulk load of the job, which alerts nobody. -/
def WatchedStep.Loads (id : Uuid) : WatchedStep → Prop
  | .operation (.bulkLoad run) _ => run.syncJobId = id
  | .operation _ _ | .integration _ _ | .drain _ => False

/-- The alerts about the job are the first of those its rows call for, all of them unless it
was cut, and there are no rows without it. -/
structure Told (cut : Prop) (id : Uuid) (s : Store) (log : List TrackedEvent) : Prop where
  alerts : jobAlerts id log <+: calledFor s id
  all : ¬ cut → jobAlerts id log = calledFor s id
  rows : s.syncJobs.lookup id = none → s.resultsOf id = []

section

variable {pg : Postgres} {cut : Prop} {id : Uuid} {s s' : Store} {log : List TrackedEvent}

/-- What is told does not depend on the rest of the database. -/
theorem Told.congr (h : Told cut id s log) (hjob : s'.syncJobs.lookup id = s.syncJobs.lookup id)
    (hof : s'.resultsOf id = s.resultsOf id) {log' : List TrackedEvent}
    (hlog : jobAlerts id log' = jobAlerts id log) : Told cut id s' log' := by
  have hsame : calledFor s' id = calledFor s id := by rw [calledFor, calledFor, hjob, hof]
  refine ⟨?_, ?_, ?_⟩
  · rw [hlog, hsame]
    exact h.alerts
  · rw [hlog, hsame]
    exact h.all
  · rw [hjob, hof]
    exact h.rows

/-- Nothing is said of a job before it is there. -/
theorem Told.silent (h : Told cut id s log) (hfresh : s.syncJobs.lookup id = none) :
    jobAlerts id log = [] := by
  have hnone : calledFor s id = [] := by rw [calledFor, hfresh]
  exact List.prefix_nil.mp (hnone ▸ h.alerts)

theorem syncJobId_of_processOnePage {run : PageRun} {outcome : PageOutcome}
    (h : processOnePage pg run s = some (s', outcome)) : outcome.syncJobId = run.syncJobId := by
  simp only [processOnePage, Option.bind_eq_bind, Option.bind_eq_some_iff] at h
  obtain ⟨started, -, h⟩ := h
  split at h
  · rw [← (Prod.mk.inj (Option.some.inj h)).2]
    rfl
  · rw [Option.bind_eq_some_iff] at h
    obtain ⟨_, -, h⟩ := h
    rw [← (Prod.mk.inj (Option.some.inj h)).2]
    rfl

/-- The first events about a page. -/
theorem jobAlerts_take (id : Uuid) (n : Nat) (log : List TrackedEvent) :
    jobAlerts id (log.take n) <+: jobAlerts id log :=
  (List.take_prefix n log).filter _

/-- One page: all of its events are tracked, or the first of them if the job was cut. -/
theorem Told.page (h : Told cut id s log) (leaId : LeaId) {run : PageRun} {outcome : PageOutcome}
    (hlea : run.leaId = leaId) (hpartner : run.partner = connectorName)
    (hcommit : processOnePage pg run s = some (s', outcome)) {events : List TrackedEvent}
    (hevents : events = trackPage leaId outcome (run.report s) ∨
      (∃ n, events = (trackPage leaId outcome (run.report s)).take n) ∧
        (id = run.syncJobId → cut)) :
    Told cut id s' (log ++ events) := by
  have hid := syncJobId_of_processOnePage hcommit
  obtain ⟨hcommits, -⟩ := processOnePage_eq_some hcommit
  obtain ⟨hjob, hresults⟩ := processOnePage_records hcommit
  have hof := Store.resultsOf_append hresults (run.results_syncJobId s) id
  have hsofar : jobAlerts id events
      <+: jobAlerts id (trackPage leaId outcome (run.report s)) := by
    rcases hevents with rfl | ⟨⟨n, rfl⟩, -⟩
    · exact List.prefix_rfl
    · exact jobAlerts_take id n _
  rw [jobAlerts_trackPage, hid] at hsofar
  by_cases hne : id = run.syncJobId
  · -- the job of this page: it was not there, and nothing was said of it
    subst hne
    have hcalled := calledFor_page hcommit (h.rows hcommits.fresh)
    rw [hlea, hpartner] at hcalled
    rw [if_pos rfl] at hsofar
    refine ⟨?_, fun hcut => ?_, fun hlookup => absurd (hjob.symm.trans hlookup) (by simp)⟩
    · rw [jobAlerts_append, h.silent hcommits.fresh, List.nil_append, hcalled]
      exact hsofar
    · have hall := hevents.resolve_right fun hsome => hcut (hsome.2 rfl)
      rw [jobAlerts_append, h.silent hcommits.fresh, List.nil_append, hall, jobAlerts_trackPage,
        hid, if_pos rfl, hcalled]
  · rw [if_neg hne, List.append_nil] at hof
    rw [if_neg hne] at hsofar
    refine h.congr (hcommits.syncJobs id hne) hof ?_
    rw [jobAlerts_append, List.prefix_nil.mp hsofar, List.append_nil]

/-- The events of a turn that committed its page: all of them, or the first where it is cut. -/
def Turn.Tracks (turn : Turn) (leaId : LeaId) (outcome : PageOutcome) (report : ValidationReport)
    (events : List TrackedEvent) : Prop :=
  events = trackPage leaId outcome report ∨
    (∃ n, events = (trackPage leaId outcome report).take n) ∧ turn.cut ≠ none

/-- **The rule of the page loop**: what every committed page keeps, the loop keeps. -/
theorem drainLeaTracked_keeps {I : Store → List TrackedEvent → Prop} (leaId : LeaId)
    {turns : List Turn}
    (hpage : ∀ turn ∈ turns, ∀ s s' log page outcome events, I s log →
      processOnePage pg (turn.pageRun leaId page) s = some (s', outcome) →
      turn.Tracks leaId outcome ((turn.pageRun leaId page).report s) events →
      I s' (log ++ events))
    (h : I s log) :
    I (drainLeaTracked pg leaId turns s).1 (log ++ (drainLeaTracked pg leaId turns s).2.2) := by
  induction turns generalizing s log with
  | nil =>
    show I s (log ++ [])
    rw [List.append_nil]
    exact h
  | cons turn turns ih =>
    have hrest := fun t (ht : t ∈ turns) => hpage t (List.mem_cons_of_mem _ ht)
    rw [drainLeaTracked]
    cases hexec : turn.exec pg leaId s with
    | none =>
      show I s (log ++ [])
      rw [List.append_nil]
      exact h
    | some result =>
      obtain ⟨s₁, outcome, report⟩ := result
      obtain ⟨page, rfl, hcommit⟩ := Turn.exec_eq_some hexec
      have hone := hpage turn List.mem_cons_self s s₁ log page outcome
      dsimp only
      cases hn : turn.cut with
      | some n => exact hone _ h hcommit (Or.inr ⟨⟨n, rfl⟩, by simp [hn]⟩)
      | none =>
        have hall := hone _ h hcommit (Or.inl rfl)
        dsimp only
        split
        · exact hall
        · rw [← List.append_assoc]
          exact ih hrest hall

/-- The rule of a drain. -/
theorem drainWatched_keeps {I : Store → List TrackedEvent → Prop} {d : Drain} {w : Watched}
    (hpage : ∀ turn ∈ d.turns, ∀ s s' log page outcome events, I s log →
      processOnePage pg (turn.pageRun d.leaId page) s = some (s', outcome) →
      turn.Tracks d.leaId outcome ((turn.pageRun d.leaId page).report s) events →
      I s' (log ++ events))
    (hdegraded : ∀ s log partner status, I s log →
      I s (log ++ [tracked (integrationDegraded d.leaId partner status)]))
    (h : I w.sync w.telemetry) :
    I (drainWatched pg d w).sync (drainWatched pg d w).telemetry := by
  have hturns := drainLeaTracked_keeps d.leaId hpage h
  rw [drainWatched]
  cases d.poller with
  | false => exact hturns
  | true =>
    rw [if_pos rfl]
    dsimp only
    cases Integration.pollAndPersist d.leaId
      (Integration.getIntegrationStatus (w.integration d.leaId) d.observedAt) w.authz with
    | none => exact h
    | some p =>
      obtain ⟨authz, record⟩ := p
      dsimp only
      split
      · exact h
      cases record with
      | none => exact hturns
      | some record =>
        dsimp only
        split
        · exact hdegraded _ _ _ _ h
        · exact hturns

theorem jobAlerts_integrationDegraded (id : Uuid) (leaId : LeaId) (partner status : String) :
    jobAlerts id [tracked (integrationDegraded leaId partner status)] = [] := by
  rw [jobAlerts, List.filter_eq_nil_iff]
  intro event hevent
  obtain rfl := List.mem_singleton.mp hevent
  have hlookup : (tracked (integrationDegraded leaId partner status)).properties.lookup
      "sync_job_id" = none := rfl
  rw [hlookup]
  simp

theorem Told.drainWatched {w : Watched} (h : Told cut id w.sync w.telemetry) {d : Drain}
    (hcut : ∀ turn ∈ d.turns, turn.syncJobId = id → turn.cut ≠ none → cut) :
    Told cut id (drainWatched pg d w).sync (Alerts.drainWatched pg d w).telemetry := by
  refine drainWatched_keeps ?_ ?_ h
  · intro turn hturn s s' log page outcome events hs hcommit htracks
    refine hs.page d.leaId rfl rfl hcommit (htracks.imp_right fun hsome => ⟨hsome.1, ?_⟩)
    exact fun hid => hcut turn hturn hid.symm hsome.2
  · intro s log partner status hs
    refine hs.congr rfl rfl ?_
    rw [jobAlerts_append, jobAlerts_integrationDegraded, List.append_nil]

/-- The job is there, and these are the alerts about it. -/
structure Settled (id : Uuid) (alerts : List TrackedEvent) (s : Store)
    (log : List TrackedEvent) : Prop where
  job : s.syncJobs.lookup id ≠ none
  alerts : jobAlerts id log = alerts

/-- A page of another job, as every page is once the job is there. -/
theorem Settled.page {alerts events : List TrackedEvent} (h : Settled id alerts s log)
    (leaId : LeaId) {run : PageRun} {outcome : PageOutcome}
    (hcommit : processOnePage pg run s = some (s', outcome))
    (hsofar : jobAlerts id events
      <+: jobAlerts id (trackPage leaId outcome (run.report s))) :
    Settled id alerts s' (log ++ events) := by
  obtain ⟨hcommits, -⟩ := processOnePage_eq_some hcommit
  have hne : id ≠ run.syncJobId := by
    rintro rfl
    exact h.job hcommits.fresh
  rw [jobAlerts_trackPage, syncJobId_of_processOnePage hcommit, if_neg hne] at hsofar
  refine ⟨?_, ?_⟩
  · rw [hcommits.syncJobs id hne]
    exact h.job
  · rw [jobAlerts_append, List.prefix_nil.mp hsofar, List.append_nil]
    exact h.alerts

/-- **Nothing is told of a job later on.** -/
theorem Settled.step {alerts : List TrackedEvent} {w : Watched}
    (h : Settled id alerts w.sync w.telemetry) (step : WatchedStep) :
    Settled id alerts (watchedStep pg w step).sync (watchedStep pg w step).telemetry := by
  cases step with
  | drain d =>
    refine drainWatched_keeps ?_ ?_ h
    · intro turn _ s s' log page outcome events hs hcommit htracks
      refine hs.page d.leaId hcommit ?_
      rcases htracks with rfl | ⟨⟨n, rfl⟩, -⟩
      · exact List.prefix_rfl
      · exact jobAlerts_take id n _
    · intro s log partner status hs
      refine ⟨hs.job, ?_⟩
      rw [jobAlerts_append, jobAlerts_integrationDegraded, List.append_nil]
      exact hs.alerts
  | integration step hdrain =>
    cases step with
    | verb verb =>
      show Settled id alerts (Integration.step pg w.toWorld (.verb verb)).sync w.telemetry
      rw [Integration.step]
      split <;> exact h
    | changeStatus leaId file => exact h
    | drain d => exact absurd rfl (hdrain d)
  | operation op hop =>
    refine ⟨?_, h.alerts⟩
    show (w.sync.exec pg op).syncJobs.lookup id ≠ none
    rcases w.sync.exec_grows pg op with ⟨hjobs, -⟩ | ⟨g, hgrows⟩
    · rw [hjobs]
      exact h.job
    · have hne : id ≠ g := by
        rintro rfl
        exact h.job hgrows.fresh
      rw [hgrows.others id hne]
      exact h.job

/-- The other operations write no validation results. -/
theorem exec_results (s : Store) {op : Op} (hop : ∀ run, op ≠ .page run) :
    (s.exec pg op).syncValidationResults = s.syncValidationResults := by
  cases op with
  | page run => exact absurd rfl (hop run)
  | bulkLoad run =>
    rcases bulkLoad_records pg run s with hsame | ⟨-, hresults, -⟩
    · exact congrArg Store.syncValidationResults hsame
    · exact hresults
  | revert run =>
    show (commit s (revert pg run s)).syncValidationResults = _
    cases hok : revert pg run s with
    | error e => rfl
    | ok p => exact revert_results hok
  | release run =>
    show (commit s (release run s)).syncValidationResults = _
    cases hok : release run s with
    | error e => rfl
    | ok p => exact release_results hok
  | reject run =>
    show (commit s (reject run s)).syncValidationResults = _
    cases hok : reject run s with
    | error e => rfl
    | ok p =>
      obtain ⟨row, -, -, hs'⟩ := reject_eq_ok hok
      show p.1.syncValidationResults = s.syncValidationResults
      exact (congrArg Store.syncValidationResults hs').trans rfl
  | retry run =>
    show (commit s (retry run s)).syncValidationResults = _
    cases hok : retry run s with
    | error e => rfl
    | ok p =>
      obtain ⟨target, -, -, hs'⟩ := retry_eq_ok hok
      show p.1.syncValidationResults = s.syncValidationResults
      exact (congrArg Store.syncValidationResults hs').trans rfl

theorem Told.operation (h : Told cut id s log) {op : Op} (hop : ∀ run, op ≠ .page run)
    (hload : ∀ run, op = .bulkLoad run → run.syncJobId ≠ id) :
    Told cut id (s.exec pg op) log := by
  have hof : (s.exec pg op).resultsOf id = s.resultsOf id := by
    rw [Store.resultsOf, exec_results s hop, Store.resultsOf]
  rcases s.exec_grows pg op with ⟨hjobs, -⟩ | ⟨g, hgrows⟩
  · exact h.congr (congrArg (AList.lookup id) hjobs) hof rfl
  by_cases hid : id = g
  swap
  · exact h.congr (hgrows.others id hid) hof rfl
  -- a revert or a release: its job has not failed, and no results
  subst hid
  obtain ⟨job, hjob, hinserts⟩ := hgrows.inserted
  have hstatus : job.status ≠ .failed := by
    have hgeneration := hgrows.generation
    cases op with
    | page run => exact absurd rfl (hop run)
    | bulkLoad run => exact absurd (Option.some.inj hgeneration) (hload run rfl)
    | revert run =>
      have hrevert : job.status = .revert := hinserts
      rw [hrevert]
      decide
    | release run =>
      obtain ⟨leaId, rfl⟩ := hinserts
      exact (by decide : JobStatus.quarantineRelease ≠ .failed)
    | reject run => exact False.elim hinserts
    | retry run => exact False.elim hinserts
  have hnone : calledFor (s.exec pg op) id = [] := by
    rw [calledFor, hjob]
    dsimp only
    rw [if_neg hstatus, hof, h.rows hgrows.fresh]
    rfl
  have hsilent := h.silent hgrows.fresh
  refine ⟨?_, fun _ => ?_, fun hlookup => absurd (hjob.symm.trans hlookup) (by simp)⟩
  · rw [hsilent]
    exact List.nil_prefix
  · rw [hsilent, hnone]

/-- **One step.** -/
theorem Told.step {w : Watched} (h : Told cut id w.sync w.telemetry) {step : WatchedStep}
    (hcut : step.Cuts id → cut) (hload : ¬ step.Loads id) :
    Told cut id (watchedStep pg w step).sync (watchedStep pg w step).telemetry := by
  cases step with
  | drain d => exact h.drainWatched fun turn hturn hid hn => hcut ⟨turn, hturn, hid, hn⟩
  | integration step hdrain =>
    cases step with
    | verb verb =>
      show Told cut id (Integration.step pg w.toWorld (.verb verb)).sync w.telemetry
      rw [Integration.step]
      split <;> exact h
    | changeStatus leaId file => exact h
    | drain d => exact absurd rfl (hdrain d)
  | operation op hop =>
    refine h.operation hop fun run hrun hid => ?_
    subst hrun
    exact hload hid

end

/-- **Every failed page job has its alert, and only it.**  In every run of drains, each of
which may end anywhere, with their status polls, authorization changes and the other
operations of the services, the alerts that name a job are the first of those its rows call
for: one critical alert with the counts and the summary of the row if it failed, one warning
about the first of its Layer 2 errors if it has any, and none for a job that was never
committed.  They are all of them unless a drain ended while it tracked the page, and nothing
is added to them once the step that committed the job is over. -/
theorem job_alerts_exact (pg : Postgres) (start : Watched) (steps : List WatchedStep) (id : Uuid)
    (hjob : start.sync.syncJobs.lookup id = none) (hrows : start.sync.resultsOf id = [])
    (hlog : jobAlerts id start.telemetry = []) (hload : ∀ step ∈ steps, ¬ step.Loads id) :
    let w := Runs.run (watchedStep pg) start steps
    jobAlerts id w.telemetry <+: calledFor w.sync id ∧
      ((∀ step ∈ steps, ¬ step.Cuts id) → jobAlerts id w.telemetry = calledFor w.sync id) ∧
      ∀ before, before <+: steps →
        (Runs.run (watchedStep pg) start before).sync.syncJobs.lookup id ≠ none →
        jobAlerts id w.telemetry
          = jobAlerts id (Runs.run (watchedStep pg) start before).telemetry := by
  intro w
  have hnone : calledFor start.sync id = [] := by rw [calledFor, hjob]
  have hstart : Told (∃ step ∈ steps, step.Cuts id) id start.sync start.telemetry := by
    refine ⟨?_, fun _ => ?_, fun _ => hrows⟩
    · rw [hlog]
      exact List.nil_prefix
    · rw [hlog, hnone]
  have hsteps : Runs.Guarded (watchedStep pg) (fun _ step => step ∈ steps) start steps :=
    Runs.Guarded.of_forall fun step hstep => hstep
  have htold : Told (∃ step ∈ steps, step.Cuts id) id w.sync w.telemetry := by
    refine hsteps.invariant
      (I := fun w : Watched => Told (∃ step ∈ steps, step.Cuts id) id w.sync w.telemetry) ?_ hstart
    intro w step h hstep
    exact h.step (fun hcuts => ⟨step, hstep, hcuts⟩) (hload step hstep)
  refine ⟨htold.alerts, fun hcuts => htold.all ?_, fun before hbefore hlookup => ?_⟩
  · rintro ⟨step, hstep, hcut⟩
    exact hcuts step hstep hcut
  · obtain ⟨after, rfl⟩ := hbefore
    have hsettled : Settled id (jobAlerts id (Runs.run (watchedStep pg) start before).telemetry)
        w.sync w.telemetry := by
      show Settled id _ (Runs.run (watchedStep pg) start (before ++ after)).sync
        (Runs.run (watchedStep pg) start (before ++ after)).telemetry
      rw [Runs.run_append]
      exact Runs.run_invariant
        (I := fun w : Watched => Settled id
          (jobAlerts id (Runs.run (watchedStep pg) start before).telemetry) w.sync w.telemetry)
        (fun w step h => h.step step) ⟨hlookup, rfl⟩ after
    exact hsettled.alerts

namespace Example

/-- A page with a student who has no given name. -/
def nameless : EventPage :=
  { Fixture.page [Fixture.event "L1" "evt_001" (.student
      { id := "s1", leaId := "L1", givenName := "", familyName := "Diaz" })] with hasMore := true }

/-- A page that did not come through. -/
def badGateway : EventPage :=
  { Fixture.page [] with
    layer1Check :=
      { ok := false, httpStatus := 502, contentType := "text/html", bodyWellFormed := false } }

def turn (syncJobId : Uuid) (page : EventPage) (cut : Option Nat := none) : Turn where
  fetch _ := some page
  syncJobId := syncJobId
  now := 10
  cut := cut

/-- A drain that ends with a failed page, and a second one that is killed when it has tracked
the page of the same failure. -/
def steps : List WatchedStep :=
  [.drain { leaId := "L1", turns := [turn "job-1" nameless, turn "job-2" badGateway]
            observedAt := 3 },
    .drain { leaId := "L1", turns := [turn "job-3" badGateway (some 1)], observedAt := 4 }]

def start : Watched := { Integration.onboarded with telemetry := [] }

end Example

open Example in
theorem job_alerts_exact_badGateway :
    let w := Runs.run (watchedStep .reference) start steps
    jobAlerts "job-1" w.telemetry = [tracked
        (schemaDrift "job-1" "L1" "edlink" "STUDENT_MISSING_GIVEN_NAME" (some "evt_001") 1)] ∧
      jobAlerts "job-2" w.telemetry = [tracked
        (syncFailure "job-2" "L1" "edlink" 1 (some "L1:HTTP_INTEGRITY_FAILED"))] ∧
      jobAlerts "job-3" w.telemetry = [] ∧ (calledFor w.sync "job-3").length = 1 := by
  intro w
  have hload : ∀ id, ∀ step ∈ steps, ¬ WatchedStep.Loads id step := by
    intro id step hstep
    simp only [steps, List.mem_cons, List.not_mem_nil, or_false] at hstep
    rcases hstep with rfl | rfl
    · exact not_false
    · exact not_false
  have hall : ∀ id ∈ ["job-1", "job-2"], jobAlerts id w.telemetry = calledFor w.sync id := by
    intro id hid
    refine (job_alerts_exact .reference start steps id rfl rfl rfl (hload id)).2.1 ?_
    intro step hstep hcuts
    simp only [steps, List.mem_cons, List.not_mem_nil, or_false] at hstep
    rcases hstep with rfl | rfl
    · obtain ⟨t, ht, -, hcut⟩ := hcuts
      simp only [List.mem_cons, List.not_mem_nil, or_false] at ht
      rcases ht with rfl | rfl <;> exact hcut rfl
    · obtain ⟨t, ht, rfl, -⟩ := hcuts
      rw [List.mem_singleton.mp ht] at hid
      exact absurd hid (by decide)
  refine ⟨?_, ?_, by decide +kernel, by decide +kernel⟩
  · rw [hall "job-1" List.mem_cons_self]
    decide +kernel
  · rw [hall "job-2" (List.mem_cons_of_mem _ List.mem_cons_self)]
    decide +kernel

end Alerts
