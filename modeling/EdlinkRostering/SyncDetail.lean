/-
The drill-down of a sync job.

`get_sync_detail` reads five tables: the job, its validation results, what it put into
quarantine, its reverts and its retries.  The services write them in several transactions,
and no constraint ties them together.

* `processOnePage_records` — the job row and the validation results of a page;
* `Store.Documented.exec` — every operation keeps the five in agreement;
* `sync_detail_consistent` — in every reachable state the five agree.
-/
import EdlinkRostering.Generations

/-- What `get_sync_detail` composes; the ids of the actions are their positions. -/
structure SyncDetail where
  sync : Uuid × SyncJobRow
  validationIssues : List ValidationResultRow
  quarantinedEntityIds : List String
  revertHistory : List (RevertActionRow × Nat)
  retryHistory : List (RetryActionRow × Nat)
deriving DecidableEq

namespace Store

/-- `SELECT … FROM sync_validation_results WHERE sync_job_id`. -/
def resultsOf (s : Store) (id : Uuid) : List ValidationResultRow :=
  s.syncValidationResults.filter fun v => v.syncJobId = id

/-- `get_sync_detail`. -/
def getSyncDetail (s : Store) (id : Uuid) : Option SyncDetail :=
  (s.syncJobs.lookup id).map fun row =>
    { sync := (id, row)
      validationIssues := (s.resultsOf id).insertionSort fun a b =>
        a.layer < b.layer ∨ (a.layer = b.layer ∧ a.createdAt ≤ b.createdAt)
      quarantinedEntityIds :=
        (s.quarantine.filter fun q => q.syncJobId = id).map QuarantineRow.entityId
      revertHistory := (s.revertActions.zipIdx.filter fun a => a.1.syncJobId = id).insertionSort
        fun a b => a.1.revertedAt ≤ b.1.revertedAt
      retryHistory := (s.retryActions.zipIdx.filter fun a => a.1.syncJobId = id).insertionSort
        fun a b => a.1.retriedAt ≤ b.1.retriedAt }

end Store

/-! ### What a page writes about itself -/

namespace PageRun

/-- The rows of `_persist_validation_issues`. -/
def results (run : PageRun) (s : Store) : List ValidationResultRow :=
  (run.report s).issues.map fun i =>
    { syncJobId := run.syncJobId, layer := i.layer, code := i.code, payloadReference := i.eventId
      detail := i.detail ++ [("severity", .text (some i.severity.value))], createdAt := run.now }

/-- The job of a committed page. -/
def committedJob (run : PageRun) (s : Store) (applied : Nat) : SyncJobRow where
  leaId := run.leaId
  partner := run.partner
  status := if run.blocked s then .failed else .success
  startedAt := run.now
  completedAt := some run.now
  eventCount := if run.blocked s then 0 else applied
  errorCount := (run.report s).errorCount
  warningCount := (run.report s).warningCount
  cursorBefore := some (s.readCursor run.leaId run.partner).value
  cursorAfter := if run.blocked s then none else some run.page.nextCursor.value
  errorSummary := if run.blocked s then some (summarizeBlockingErrors (run.report s)) else none

end PageRun

section

variable {pg : Postgres}

theorem processEvents_results {leaId : LeaId} {syncJobId : Uuid} {now : Instant}
    {report : ValidationReport} {events : List NormalizedEvent} {s s' : Store}
    {counts : PageCounts}
    (h : processEvents pg leaId syncJobId now report events s = some (s', counts)) :
    s'.syncValidationResults = s.syncValidationResults := by
  refine Runs.foldlM_invariant (f := processEvent pg leaId syncJobId now report)
    (I := fun acc => acc.1.syncValidationResults = s.syncValidationResults) ?_ rfl h
  intro event _ acc acc' hacc hstep
  obtain ⟨s₀, counts₀⟩ := acc
  simp only [processEvent] at hstep
  split at hstep
  · obtain rfl := Option.some.inj hstep
    exact hacc
  split at hstep
  · obtain rfl := Option.some.inj hstep
    exact hacc
  · rw [Option.bind_eq_bind, Option.bind_eq_some_iff] at hstep
    obtain ⟨⟨r, changed⟩, -, hstep⟩ := hstep
    obtain rfl := Option.some.inj hstep
    exact hacc

/-- The job row and the validation results of a page. -/
theorem processOnePage_records {run : PageRun} {s s' : Store} {outcome : PageOutcome}
    (h : processOnePage pg run s = some (s', outcome)) :
    s'.syncJobs.lookup run.syncJobId = some (run.committedJob s outcome.eventCount) ∧
      s'.syncValidationResults = s.syncValidationResults ++ run.results s := by
  simp only [processOnePage, Option.bind_eq_bind, Option.bind_eq_some_iff] at h
  obtain ⟨s₀, hstart, h⟩ := h
  obtain ⟨-, -, -, -, hj₀, -, -⟩ := PageRun.start_eq_some hstart
  have hv₀ : s₀.syncValidationResults = s.syncValidationResults ++ run.results s := by
    simp only [PageRun.start, Option.bind_eq_bind, Option.bind_eq_some_iff,
      Store.insertSyncJob_eq_some] at hstart
    obtain ⟨_, ⟨-, rfl⟩, hs⟩ := hstart
    rw [← Option.some.inj hs]
    rfl
  split at h
  · next hb =>
    have hb : run.blocked s = true := hb
    obtain ⟨rfl, rfl⟩ := Prod.mk.inj (Option.some.inj h)
    refine ⟨?_, hv₀⟩
    rw [PageRun.fail, Store.updateSyncJob, Table.lookup_modify, if_pos rfl, hj₀,
      Table.lookup_insert_eq, if_pos rfl]
    simp [PageRun.committedJob, hb, PageRun.runningJob]
  · next hb =>
    rw [Option.bind_eq_some_iff] at h
    obtain ⟨⟨s₁, counts⟩, h₁, h⟩ := h
    obtain ⟨rfl, rfl⟩ := Prod.mk.inj (Option.some.inj h)
    have hb : run.blocked s = false := Bool.eq_false_iff.mpr hb
    have hj₁ : s₁.syncJobs = s.syncJobs.insert run.syncJobId (run.runningJob s) :=
      (processEvents_eq_some h₁).2.2.syncJobs.trans hj₀
    refine ⟨?_, (processEvents_results h₁).trans hv₀⟩
    show (Table.modify s₁.syncJobs _ _).lookup run.syncJobId = _
    rw [Table.lookup_modify, if_pos rfl, hj₁, Table.lookup_insert_eq, if_pos rfl]
    simp [PageRun.committedJob, hb, PageRun.runningJob, PageRun.successOutcome]

end

/-! ### The tables agree -/

/-- The `severity` key of the detail, which is written last. -/
def ValidationResultRow.severity (v : ValidationResultRow) : Option DetailValue :=
  v.detail.reverse.lookup "severity"

def ValidationResultRow.hasSeverity (v : ValidationResultRow) (severity : Severity) : Bool :=
  v.severity = some (.text (some severity.value))

/-- An error about the page as a whole. -/
def ValidationResultRow.pageError (v : ValidationResultRow) : Bool :=
  v.hasSeverity .error && v.payloadReference.isNone

/-- The revert is of a job that is there, and has a job of its own. -/
def Store.RecordsRevert (s : Store) (a : RevertActionRow) : Prop :=
  ∃ target job, s.syncJobs.lookup a.syncJobId = some target ∧
    s.syncJobs.lookup a.revertGenerationId = some job ∧ job.status = .revert ∧
    job.leaId = target.leaId ∧ job.partner = target.partner ∧ job.startedAt = a.revertedAt

/-- The retry is of a job that is there and was not refused, and rewound to its start. -/
def Store.RecordsRetry (s : Store) (a : RetryActionRow) : Prop :=
  ∃ target, s.syncJobs.lookup a.syncJobId = some target ∧ a.leaId = target.leaId ∧
    a.partner = target.partner ∧ a.cursorRewoundTo = target.cursorBefore ∧
    target.status ≠ .revert ∧ (target.status = .success → a.forced = true)

/-- The tables behind the drill-down tell the same story. -/
structure Store.Documented (s : Store) : Prop where
  counted : ∀ id row, s.syncJobs.lookup id = some row →
    row.errorCount = (s.resultsOf id).countP (·.hasSeverity .error) ∧
      row.warningCount = (s.resultsOf id).countP (·.hasSeverity .warning)
  blocking : ∀ id row, s.syncJobs.lookup id = some row → s.resultsOf id ≠ [] →
    (row.status = .failed ↔ ∃ v ∈ s.resultsOf id, v.pageError = true)
  kept : ∀ id row, s.syncJobs.lookup id = some row → row.status = .failed →
    ∀ q ∈ s.quarantine, q.syncJobId ≠ id
  results : ∀ v ∈ s.syncValidationResults, s.syncJobs.lookup v.syncJobId ≠ none
  quarantine : ∀ q ∈ s.quarantine, s.syncJobs.lookup q.syncJobId ≠ none
  reverts : ∀ a ∈ s.revertActions, s.RecordsRevert a
  retries : ∀ a ∈ s.retryActions, s.RecordsRetry a

theorem ValidationResultRow.hasSeverity_result (i : ValidationIssue) (syncJobId : Uuid)
    (now : Instant) (severity : Severity) :
    ValidationResultRow.hasSeverity
      { syncJobId := syncJobId, layer := i.layer, code := i.code, payloadReference := i.eventId
        detail := i.detail ++ [("severity", .text (some i.severity.value))], createdAt := now }
      severity = decide (i.severity = severity) := by
  have hlast : (i.detail ++ [("severity", DetailValue.text (some i.severity.value))]).reverse.lookup
      "severity" = some (.text (some i.severity.value)) := by
    rw [List.reverse_append]
    rfl
  rw [hasSeverity, ValidationResultRow.severity, hlast]
  cases i.severity <;> cases severity <;> decide

theorem PageRun.countP_results (run : PageRun) (s : Store) (severity : Severity) :
    (run.results s).countP (·.hasSeverity severity)
      = (run.report s).issues.countP (·.severity = severity) := by
  rw [results, List.countP_map]
  refine List.countP_congr ?_
  intro i _
  rw [Function.comp_apply, ValidationResultRow.hasSeverity_result]

/-- A page is blocked by its page errors. -/
theorem PageRun.blocked_iff (run : PageRun) (s : Store) :
    run.blocked s = true ↔ ∃ v ∈ run.results s, v.pageError = true := by
  have hblocked : run.blocked s
      = (run.report s).issues.any fun i => i.severity = .error && i.eventId = none := by
    rw [blocked, report, runPipeline]
    split
    · rfl
    · rfl
  have hrow : ∀ i : ValidationIssue, ValidationResultRow.pageError
      { syncJobId := run.syncJobId, layer := i.layer, code := i.code, payloadReference := i.eventId
        detail := i.detail ++ [("severity", .text (some i.severity.value))]
        createdAt := run.now } = (i.severity = .error && i.eventId = none) := by
    intro i
    rw [ValidationResultRow.pageError, ValidationResultRow.hasSeverity_result]
    cases i.eventId <;> rfl
  rw [hblocked, List.any_eq_true, results]
  constructor
  · rintro ⟨i, hi, herror⟩
    exact ⟨_, List.mem_map_of_mem hi, (hrow i).trans herror⟩
  · rintro ⟨v, hv, herror⟩
    obtain ⟨i, hi, rfl⟩ := List.mem_map.mp hv
    exact ⟨i, hi, (hrow i).symm.trans herror⟩

namespace Store

section

variable {s s' : Store}

theorem resultsOf_append {vs : List ValidationResultRow} {g : Uuid}
    (h : s'.syncValidationResults = s.syncValidationResults ++ vs)
    (hvs : ∀ v ∈ vs, v.syncJobId = g) (id : Uuid) :
    s'.resultsOf id = s.resultsOf id ++ if id = g then vs else [] := by
  rw [resultsOf, h, List.filter_append, resultsOf]
  congr 1
  by_cases hid : id = g
  · rw [if_pos hid, List.filter_eq_self]
    intro v hv
    exact decide_eq_true ((hvs v hv).trans hid.symm)
  · rw [if_neg hid, List.filter_eq_nil_iff]
    intro v hv
    simpa [hvs v hv] using Ne.symm hid

/-- Nothing was written under a job that is not there. -/
theorem Documented.resultsOf_eq_nil (h : s.Documented) {g : Uuid}
    (hfresh : s.syncJobs.lookup g = none) : s.resultsOf g = [] := by
  rw [resultsOf, List.filter_eq_nil_iff]
  intro v hv hid
  refine h.results v hv ?_
  rw [of_decide_eq_true hid]
  exact hfresh

theorem RecordsRevert.mono {a : RevertActionRow} (h : s.RecordsRevert a)
    (hkept : ∀ id row, s.syncJobs.lookup id = some row → s'.syncJobs.lookup id = some row) :
    s'.RecordsRevert a := by
  obtain ⟨target, job, htarget, hjob, hrest⟩ := h
  exact ⟨target, job, hkept _ _ htarget, hkept _ _ hjob, hrest⟩

theorem RecordsRetry.mono {a : RetryActionRow} (h : s.RecordsRetry a)
    (hkept : ∀ id row, s.syncJobs.lookup id = some row → s'.syncJobs.lookup id = some row) :
    s'.RecordsRetry a := by
  obtain ⟨target, htarget, hrest⟩ := h
  exact ⟨target, hkept _ _ htarget, hrest⟩

/-- A transaction that inserts a job, with its validation results and its quarantine rows. -/
structure AddsJob (s s' : Store) (g : Uuid) (job : SyncJobRow) (vs : List ValidationResultRow) :
    Prop where
  fresh : s.syncJobs.lookup g = none
  inserted : s'.syncJobs.lookup g = some job
  others : ∀ id, id ≠ g → s'.syncJobs.lookup id = s.syncJobs.lookup id
  results : s'.syncValidationResults = s.syncValidationResults ++ vs
  owned : ∀ v ∈ vs, v.syncJobId = g
  errors : job.errorCount = vs.countP (·.hasSeverity .error)
  warnings : job.warningCount = vs.countP (·.hasSeverity .warning)
  blocking : vs ≠ [] → (job.status = .failed ↔ ∃ v ∈ vs, v.pageError = true)
  quarantine : ∀ q ∈ s'.quarantine, (∃ q₀ ∈ s.quarantine, q₀.syncJobId = q.syncJobId) ∨
    (q.syncJobId = g ∧ job.status ≠ .failed)
  reverts : ∀ a ∈ s'.revertActions, a ∈ s.revertActions ∨ s'.RecordsRevert a
  retries : s'.retryActions = s.retryActions

section

variable {g : Uuid} {job : SyncJobRow} {vs : List ValidationResultRow}

/-- The jobs stay as they are. -/
theorem AddsJob.lookup (h : s.AddsJob s' g job vs) {id : Uuid} {row : SyncJobRow}
    (hrow : s.syncJobs.lookup id = some row) : s'.syncJobs.lookup id = some row := by
  have hne : id ≠ g := by
    rintro rfl
    rw [h.fresh] at hrow
    exact absurd hrow (by simp)
  rw [h.others id hne, hrow]

theorem AddsJob.lookup_ne_none (h : s.AddsJob s' g job vs) {id : Uuid}
    (hid : s.syncJobs.lookup id ≠ none) : s'.syncJobs.lookup id ≠ none := by
  obtain ⟨row, hrow⟩ := Option.ne_none_iff_exists'.mp hid
  rw [h.lookup hrow]
  exact Option.some_ne_none row

/-- What is listed for another job is old. -/
theorem AddsJob.resultsOf_of_ne (h : s.AddsJob s' g job vs) {id : Uuid} (hid : id ≠ g) :
    s'.resultsOf id = s.resultsOf id := by
  rw [resultsOf_append h.results h.owned, if_neg hid, List.append_nil]

/-- What is listed for the new job is new. -/
theorem Documented.resultsOf_new (h : s.Documented) (hadds : s.AddsJob s' g job vs) :
    s'.resultsOf g = vs := by
  rw [resultsOf_append hadds.results hadds.owned, if_pos rfl, h.resultsOf_eq_nil hadds.fresh,
    List.nil_append]

theorem Documented.counted_grow (h : s.Documented) (hadds : s.AddsJob s' g job vs) {id : Uuid}
    {row : SyncJobRow} (hrow : s'.syncJobs.lookup id = some row) :
    row.errorCount = (s'.resultsOf id).countP (·.hasSeverity .error) ∧
      row.warningCount = (s'.resultsOf id).countP (·.hasSeverity .warning) := by
  by_cases hid : id = g
  · subst hid
    obtain rfl := Option.some.inj (hadds.inserted.symm.trans hrow)
    rw [h.resultsOf_new hadds]
    exact ⟨hadds.errors, hadds.warnings⟩
  · rw [hadds.resultsOf_of_ne hid]
    exact h.counted id row ((hadds.others id hid).symm.trans hrow)

theorem Documented.blocking_grow (h : s.Documented) (hadds : s.AddsJob s' g job vs) {id : Uuid}
    {row : SyncJobRow} (hrow : s'.syncJobs.lookup id = some row) (hne : s'.resultsOf id ≠ []) :
    row.status = .failed ↔ ∃ v ∈ s'.resultsOf id, v.pageError = true := by
  by_cases hid : id = g
  · subst hid
    obtain rfl := Option.some.inj (hadds.inserted.symm.trans hrow)
    rw [h.resultsOf_new hadds] at hne ⊢
    exact hadds.blocking hne
  · rw [hadds.resultsOf_of_ne hid] at hne ⊢
    exact h.blocking id row ((hadds.others id hid).symm.trans hrow) hne

theorem Documented.kept_grow (h : s.Documented) (hadds : s.AddsJob s' g job vs) {id : Uuid}
    {row : SyncJobRow} (hrow : s'.syncJobs.lookup id = some row) (hfailed : row.status = .failed)
    {q : QuarantineRow} (hq : q ∈ s'.quarantine) : q.syncJobId ≠ id := by
  intro hqid
  rcases hadds.quarantine q hq with ⟨q₀, hq₀, hsame⟩ | ⟨hg, hstatus⟩
  · by_cases hid : id = g
    · -- no row was there under the new id
      refine h.quarantine q₀ hq₀ ?_
      rw [hsame, hqid, hid]
      exact hadds.fresh
    · exact h.kept id row ((hadds.others id hid).symm.trans hrow) hfailed q₀ hq₀
        (hsame.trans hqid)
  · obtain rfl : id = g := hqid.symm.trans hg
    obtain rfl := Option.some.inj (hadds.inserted.symm.trans hrow)
    exact hstatus hfailed

/-- A new job with its validation results and its quarantine rows. -/
theorem Documented.grow (h : s.Documented) (hadds : s.AddsJob s' g job vs) : s'.Documented where
  counted _ _ hrow := h.counted_grow hadds hrow
  blocking _ _ hrow hne := h.blocking_grow hadds hrow hne
  kept _ _ hrow hfailed _ hq := h.kept_grow hadds hrow hfailed hq
  results v hv := by
    rw [hadds.results] at hv
    rcases List.mem_append.mp hv with hv | hv
    · exact hadds.lookup_ne_none (h.results v hv)
    · rw [hadds.owned v hv, hadds.inserted]
      exact Option.some_ne_none job
  quarantine q hq := by
    rcases hadds.quarantine q hq with ⟨q₀, hq₀, hsame⟩ | ⟨hg, -⟩
    · rw [← hsame]
      exact hadds.lookup_ne_none (h.quarantine q₀ hq₀)
    · rw [hg, hadds.inserted]
      exact Option.some_ne_none job
  reverts a ha := by
    rcases hadds.reverts a ha with ha | ha
    · exact (h.reverts a ha).mono fun _ _ hrow => hadds.lookup hrow
    · exact ha
  retries a ha := by
    rw [hadds.retries] at ha
    exact (h.retries a ha).mono fun _ _ hrow => hadds.lookup hrow

end

/-- A transaction that inserts no job: it resolves quarantine rows or records a retry. -/
theorem Documented.annotate (h : s.Documented) (hjobs : s'.syncJobs = s.syncJobs)
    (hresults : s'.syncValidationResults = s.syncValidationResults)
    (hquarantine : ∀ q ∈ s'.quarantine, ∃ q₀ ∈ s.quarantine, q₀.syncJobId = q.syncJobId)
    (hreverts : s'.revertActions = s.revertActions)
    (hretries : ∀ a ∈ s'.retryActions, a ∈ s.retryActions ∨ s.RecordsRetry a) :
    s'.Documented := by
  have hof : ∀ id, s'.resultsOf id = s.resultsOf id := by
    intro id
    rw [resultsOf, hresults, resultsOf]
  refine ⟨?_, ?_, ?_, ?_, ?_, ?_, ?_⟩
  · intro id row hrow
    rw [hof]
    exact h.counted id row (hjobs ▸ hrow)
  · intro id row hrow
    rw [hof]
    exact h.blocking id row (hjobs ▸ hrow)
  · intro id row hrow hfailed q hq hqid
    obtain ⟨q₀, hq₀, hsame⟩ := hquarantine q hq
    exact h.kept id row (hjobs ▸ hrow) hfailed q₀ hq₀ (hsame.trans hqid)
  · intro v hv
    rw [hjobs]
    exact h.results v (hresults ▸ hv)
  · intro q hq
    obtain ⟨q₀, hq₀, hsame⟩ := hquarantine q hq
    rw [hjobs, ← hsame]
    exact h.quarantine q₀ hq₀
  · intro a ha
    exact (h.reverts a (hreverts ▸ ha)).mono fun _ _ hrow => hjobs ▸ hrow
  · intro a ha
    have hkept : ∀ id row, s.syncJobs.lookup id = some row → s'.syncJobs.lookup id = some row :=
      fun _ _ hrow => hjobs ▸ hrow
    rcases hretries a ha with ha | ha
    · exact (h.retries a ha).mono hkept
    · exact ha.mono hkept

end

end Store

/-! ### The operations -/

section

variable {pg : Postgres} {s s' : Store}

/-- What the first transaction of a bulk load establishes and every later one keeps. -/
theorem bulkLoad_store_induction {run : BulkRun} {P : Store → Prop}
    (hinsert : P { s with syncJobs := s.syncJobs.insert run.syncJobId run.job })
    (hstage : ∀ stage p p', P p.store → run.stage pg p stage = some p' → P p'.store)
    (hfail : ∀ s, P s → P (run.markFailed s)) :
    (bulkLoad pg run s).1 = s ∨
      (s.syncJobs.lookup run.syncJobId = none ∧ P (bulkLoad pg run s).1) := by
  rw [bulkLoad]
  split
  · exact Or.inl rfl
  split
  · exact Or.inl rfl
  next s₀ hins =>
  obtain ⟨hfresh, rfl⟩ := Store.insertSyncJob_eq_some.mp hins
  have hrun : P (runStages pg run bulkStages
      { store := { s with syncJobs := s.syncJobs.insert run.syncJobId run.job } }).1.store :=
    runStages_induction (P := fun p => P p.store) hstage bulkStages _ hinsert
  refine Or.inr ⟨hfresh, ?_⟩
  split
  · next p hp =>
    rw [hp] at hrun
    exact hfail _ hrun
  · next p hp =>
    rw [hp] at hrun
    exact hrun

/-- A bulk load writes no validation results, and its job counts none. -/
theorem bulkLoad_records (pg : Postgres) (run : BulkRun) (s : Store) :
    (bulkLoad pg run s).1 = s ∨ (s.syncJobs.lookup run.syncJobId = none ∧
      (bulkLoad pg run s).1.syncValidationResults = s.syncValidationResults ∧
      ∃ job, (bulkLoad pg run s).1.syncJobs.lookup run.syncJobId = some job ∧
        job.errorCount = 0 ∧ job.warningCount = 0) := by
  let P : Store → Prop := fun s' => s'.syncValidationResults = s.syncValidationResults ∧
    ∃ job, s'.syncJobs.lookup run.syncJobId = some job ∧ job.errorCount = 0 ∧ job.warningCount = 0
  have hupdate : ∀ {s' : Store} {f : SyncJobRow → SyncJobRow}, P s' →
      (∀ job, (f job).errorCount = job.errorCount ∧ (f job).warningCount = job.warningCount) →
      P (s'.updateSyncJob run.syncJobId f) := by
    rintro s' f ⟨hv, job, hj, he, hw⟩ hf
    refine ⟨hv, f job, ?_, (hf job).1.trans he, (hf job).2.trans hw⟩
    rw [Store.updateSyncJob, Table.lookup_modify, if_pos rfl, hj, Option.map_some]
  refine bulkLoad_store_induction (P := P) ⟨rfl, run.job, ?_, rfl, rfl⟩ ?_ ?_
  · rw [Table.lookup_insert_eq, if_pos rfl]
  · intro stage p p' hp h
    cases stage with
    | students | enrollments =>
      simp only [BulkRun.stage, Option.bind_eq_bind, Option.bind_eq_some_iff] at h
      obtain ⟨_, -, h⟩ := h
      rw [← Option.some.inj h]
      exact hp
    | markSuccess =>
      rw [← Option.some.inj h]
      exact hupdate hp fun job => ⟨rfl, rfl⟩
    | _ =>
      rw [← Option.some.inj h]
      exact hp
  · intro s' hs'
    rw [BulkRun.markFailed]
    split
    · exact hs'
    · exact hupdate hs' fun job => ⟨rfl, rfl⟩

theorem revert_results {run : RevertRun} {outcome : RevertOutcome}
    (h : revert pg run s = .ok (s', outcome)) :
    s'.syncValidationResults = s.syncValidationResults := by
  rw [revert] at h
  split at h
  · exact absurd h (by simp)
  split at h
  · exact absurd h (by simp)
  split at h
  · exact absurd h (by simp)
  next result hacc =>
  obtain rfl := Except.ok.inj h
  simp only [revertAccepted, Option.bind_eq_bind, Option.bind_eq_some_iff,
    Store.insertSyncJob_eq_some] at hacc
  obtain ⟨_, ⟨-, rfl⟩, _, -, h⟩ := hacc
  rw [← (Prod.mk.inj (Option.some.inj h)).1]

theorem release_results {run : ReleaseRun} {outcome : ReleaseOutcome}
    (h : release run s = .ok (s', outcome)) :
    s'.syncValidationResults = s.syncValidationResults := by
  rw [release] at h
  cases hu : checkUnresolved run.quarantineId s.quarantine[run.quarantineId]? with
  | error e =>
    rw [hu] at h
    exact absurd h (by simp [bind, Except.bind])
  | ok row =>
  rw [hu] at h
  cases hc : checkReleasable row with
  | error e => exact absurd h (by simp [bind, Except.bind, hc])
  | ok p =>
  simp only [bind, Except.bind, hc] at h
  split at h
  · exact absurd h (by simp)
  split at h
  · exact absurd h (by simp)
  next s₁ hacc =>
  simp only [releaseAccepted, Option.bind_eq_bind, Option.bind_eq_some_iff,
    Store.insertSyncJob_eq_some] at hacc
  obtain ⟨_, ⟨-, rfl⟩, _, -, _, -, r, -, hs⟩ := hacc
  rw [← (Prod.mk.inj (Except.ok.inj h)).1, ← Option.some.inj hs]
  rfl

/-- A retry is of a job that is not refused. -/
theorem retry_records {run : RetryRun} {outcome : RetryOutcome}
    (h : retry run s = .ok (s', outcome)) : ∃ target,
    s.syncJobs.lookup run.syncJobId = some target ∧ s.RecordsRetry (run.action target) ∧
      s'.retryActions = s.retryActions ++ [run.action target] := by
  obtain ⟨target, htarget, -, hs'⟩ := retry_eq_ok h
  have hadded := congrArg Store.retryActions hs'
  refine ⟨target, htarget, ⟨target, htarget, rfl, rfl, rfl, ?_⟩, hadded⟩
  rw [retry, htarget] at h
  dsimp only at h
  split at h
  · exact absurd h (by simp)
  next hrevert =>
  split at h
  · exact absurd h (by simp)
  next hsuccess =>
  refine ⟨hrevert, ?_⟩
  intro hs
  show run.forced = true
  simpa [hs] using hsuccess

theorem mem_quarantine_markResolved {q : Nat} {now : Instant} {status operator : String}
    {reason : Option String} {x : QuarantineRow}
    (h : x ∈ (s.markResolved q now status operator reason).quarantine) :
    ∃ x₀ ∈ s.quarantine, x₀.syncJobId = x.syncJobId := by
  obtain ⟨n, hn⟩ := List.mem_iff_getElem?.mp h
  rw [Store.markResolved, List.getElem?_modify, Option.map_eq_map, Option.map_eq_some_iff] at hn
  obtain ⟨x₀, hx₀, rfl⟩ := hn
  refine ⟨x₀, List.mem_of_getElem? hx₀, ?_⟩
  split <;> rfl

theorem PageRun.results_syncJobId (run : PageRun) (s : Store) :
    ∀ v ∈ run.results s, v.syncJobId = run.syncJobId := by
  intro v hv
  obtain ⟨i, -, rfl⟩ := List.mem_map.mp hv
  rfl

theorem Store.Documented.page (h : s.Documented) {run : PageRun} {outcome : PageOutcome}
    (hpage : processOnePage pg run s = some (s', outcome)) : s'.Documented := by
  obtain ⟨hcommits, -⟩ := processOnePage_eq_some hpage
  obtain ⟨hjob, hresults⟩ := processOnePage_records hpage
  refine h.grow ⟨hcommits.fresh, hjob, hcommits.syncJobs, hresults, run.results_syncJobId s,
    (run.countP_results s .error).symm, (run.countP_results s .warning).symm, ?_, ?_, ?_,
    hcommits.retryActions⟩
  · intro _
    rw [← run.blocked_iff s, PageRun.committedJob]
    cases run.blocked s <;> simp
  · intro q hq
    cases hb : run.blocked s with
    | true =>
      rw [(hcommits.blocked hb).2.1] at hq
      exact Or.inl ⟨q, hq, rfl⟩
    | false =>
      rw [hcommits.quarantine hb] at hq
      rcases List.mem_append.mp hq with hq | hq
      · exact Or.inl ⟨q, hq, rfl⟩
      · obtain ⟨event, -, rfl⟩ := List.mem_map.mp hq
        exact Or.inr ⟨rfl, by simp [PageRun.committedJob, hb]⟩
  · intro a ha
    exact Or.inl (hcommits.revertActions ▸ ha)

theorem Store.Documented.bulkLoad (h : s.Documented) (pg : Postgres) (run : BulkRun) :
    (bulkLoad pg run s).1.Documented := by
  rcases bulkLoad_records pg run s with hsame | ⟨hfresh, hresults, job, hjob, herrors, hwarnings⟩
  · rw [hsame]
    exact h
  · have hframe := bulkLoad_frame pg run s
    refine h.grow ⟨hfresh, hjob, hframe.syncJobs,
      hresults.trans (List.append_nil _).symm, fun v hv => absurd hv List.not_mem_nil, herrors,
      hwarnings, fun hne => absurd rfl hne, ?_, ?_, hframe.retryActions⟩
    · intro q hq
      exact Or.inl ⟨q, hframe.quarantine ▸ hq, rfl⟩
    · intro a ha
      exact Or.inl (hframe.revertActions ▸ ha)

theorem Store.Documented.ofRevert (h : s.Documented) {run : RevertRun} {outcome : RevertOutcome}
    (hrevert : revert pg run s = .ok (s', outcome)) : s'.Documented := by
  have hr := revert_eq_ok hrevert
  obtain ⟨target, htarget, hjobs⟩ := hr.target
  obtain ⟨counts, -, hactions, -⟩ := hr.roster
  have hjob : s'.syncJobs.lookup run.revertGenerationId = some (run.job target) := by
    rw [hjobs, Table.lookup_insert_eq, if_pos rfl]
  have hothers : ∀ id, id ≠ run.revertGenerationId →
      s'.syncJobs.lookup id = s.syncJobs.lookup id := by
    intro id hid
    rw [hjobs, Table.lookup_insert_eq, if_neg hid]
  refine h.grow ⟨hr.fresh, hjob, hothers,
    (revert_results hrevert).trans (List.append_nil _).symm,
    fun v hv => absurd hv List.not_mem_nil, rfl, rfl, fun hne => absurd rfl hne, ?_, ?_,
    hr.retryActions⟩
  · intro q hq
    exact Or.inl ⟨q, hr.quarantine ▸ hq, rfl⟩
  · intro a ha
    rw [hactions] at ha
    rcases List.mem_append.mp ha with ha | ha
    · exact Or.inl ha
    · obtain rfl := List.mem_singleton.mp ha
      have hne : run.syncJobId ≠ run.revertGenerationId := fun heq => by
        rw [heq, hr.fresh] at htarget
        exact absurd htarget (by simp)
      exact Or.inr ⟨target, run.job target, (hothers _ hne).trans htarget, hjob, rfl, rfl, rfl,
        rfl⟩

theorem Store.Documented.ofRelease (h : s.Documented) {run : ReleaseRun}
    {outcome : ReleaseOutcome} (hrelease : release run s = .ok (s', outcome)) :
    s'.Documented := by
  have hr := release_eq_ok hrelease
  obtain ⟨row, _, _, _, _, _, -, -, -, -, -, -, -, -, -, hjobs⟩ := hr.released
  have hjob : s'.syncJobs.lookup run.releaseGenerationId = some (run.job row.leaId) := by
    rw [hjobs, Table.lookup_insert_eq, if_pos rfl]
  refine h.grow ⟨hr.fresh, hjob, ?_,
    (release_results hrelease).trans (List.append_nil _).symm,
    fun v hv => absurd hv List.not_mem_nil, rfl, rfl, fun hne => absurd rfl hne, ?_, ?_,
    hr.retryActions⟩
  · intro id hid
    rw [hjobs, Table.lookup_insert_eq, if_neg hid]
  · intro q hq
    rw [hr.quarantine] at hq
    exact Or.inl (mem_quarantine_markResolved hq)
  · intro a ha
    exact Or.inl (hr.revertActions ▸ ha)

/-- **One operation** keeps the tables in agreement. -/
theorem Store.Documented.exec (h : s.Documented) (pg : Postgres) (op : Op) :
    (s.exec pg op).Documented := by
  have hcommit : ∀ {ε α : Type} (result : Except ε (Store × α)),
      (∀ s' a, result = .ok (s', a) → s'.Documented) → (commit s result).Documented := by
    intro ε α result hok
    cases result with
    | error e => exact h
    | ok p => exact hok p.1 p.2 rfl
  cases op with
  | page run =>
    rw [Store.exec]
    cases hpage : processOnePage pg run s with
    | none => exact h
    | some p => exact h.page hpage
  | bulkLoad run => exact h.bulkLoad pg run
  | revert run => exact hcommit _ fun s' outcome hok => h.ofRevert hok
  | release run => exact hcommit _ fun s' outcome hok => h.ofRelease hok
  | reject run =>
    refine hcommit _ fun s' outcome hok => ?_
    obtain ⟨row, -, -, rfl⟩ := reject_eq_ok hok
    exact h.annotate rfl rfl (fun q hq => mem_quarantine_markResolved hq) rfl fun a ha => Or.inl ha
  | retry run =>
    refine hcommit _ fun s' outcome hok => ?_
    obtain ⟨target, -, hrecords, hactions⟩ := retry_records hok
    obtain ⟨_, -, -, hs'⟩ := retry_eq_ok hok
    refine h.annotate ?_ ?_ ?_ ?_ ?_
    · rw [hs']
    · rw [hs']
    · intro q hq
      rw [hs'] at hq
      exact ⟨q, hq, rfl⟩
    · rw [hs']
    · intro a ha
      rw [hactions] at ha
      rcases List.mem_append.mp ha with ha | ha
      · exact Or.inl ha
      · obtain rfl := List.mem_singleton.mp ha
        exact Or.inr hrecords

theorem Store.documented_empty : Store.empty.Documented where
  counted _ _ h := absurd h (by simp [Store.empty])
  blocking _ _ h := absurd h (by simp [Store.empty])
  kept _ _ h := absurd h (by simp [Store.empty])
  results _ h := absurd h List.not_mem_nil
  quarantine _ h := absurd h List.not_mem_nil
  reverts _ h := absurd h List.not_mem_nil
  retries _ h := absurd h List.not_mem_nil

end

/-! ### The drill-down -/

/-- What an operator may conclude from one drill-down, given the jobs. -/
structure SyncDetail.Consistent (s : Store) (detail : SyncDetail) : Prop where
  errors : detail.sync.2.errorCount = detail.validationIssues.countP (·.hasSeverity .error)
  warnings : detail.sync.2.warningCount = detail.validationIssues.countP (·.hasSeverity .warning)
  /-- Where there are issues, the job failed exactly if one is an error about the page. -/
  failed : detail.validationIssues ≠ [] →
    (detail.sync.2.status = .failed ↔ ∃ v ∈ detail.validationIssues, v.pageError = true)
  quarantined : detail.sync.2.status = .failed → detail.quarantinedEntityIds = []
  reverts : ∀ a ∈ detail.revertHistory, ∃ job, s.syncJobs.lookup a.1.revertGenerationId = some job ∧
    job.status = .revert ∧ job.leaId = detail.sync.2.leaId ∧
    job.partner = detail.sync.2.partner ∧ job.startedAt = a.1.revertedAt
  retries : ∀ a ∈ detail.retryHistory, a.1.leaId = detail.sync.2.leaId ∧
    a.1.partner = detail.sync.2.partner ∧ a.1.cursorRewoundTo = detail.sync.2.cursorBefore ∧
    detail.sync.2.status ≠ .revert ∧ (detail.sync.2.status = .success → a.1.forced = true)

theorem mem_of_mem_history {α : Type} {p : α × Nat → Bool} {r : α × Nat → α × Nat → Prop}
    [DecidableRel r] {rows : List α} {a : α × Nat}
    (h : a ∈ (rows.zipIdx.filter p).insertionSort r) : a.1 ∈ rows ∧ p a = true := by
  obtain ⟨hmem, hp⟩ := List.mem_filter.mp ((List.mem_insertionSort r).mp h)
  exact ⟨List.fst_mem_of_mem_zipIdx hmem, hp⟩

theorem Store.Documented.consistent {s : Store} (h : s.Documented) {id : Uuid} {detail : SyncDetail}
    (hdetail : s.getSyncDetail id = some detail) : detail.Consistent s := by
  obtain ⟨row, hrow, rfl⟩ := Option.map_eq_some_iff.mp hdetail
  obtain ⟨herrors, hwarnings⟩ := h.counted id row hrow
  have hperm : ((s.resultsOf id).insertionSort fun a b : ValidationResultRow =>
      a.layer < b.layer ∨ (a.layer = b.layer ∧ a.createdAt ≤ b.createdAt)).Perm (s.resultsOf id) :=
    List.perm_insertionSort _ _
  refine ⟨?_, ?_, ?_, ?_, ?_, ?_⟩
  · exact herrors.trans (hperm.countP_eq _).symm
  · exact hwarnings.trans (hperm.countP_eq _).symm
  · intro hne
    have hsome : s.resultsOf id ≠ [] := fun hnil => hne (List.perm_nil.mp (hnil ▸ hperm))
    refine (h.blocking id row hrow hsome).trans (exists_congr fun v => and_congr_left fun _ => ?_)
    exact hperm.mem_iff.symm
  · intro hfailed
    refine List.map_eq_nil_iff.mpr (List.filter_eq_nil_iff.mpr ?_)
    intro q hq hid
    exact h.kept id row hrow hfailed q hq (of_decide_eq_true hid)
  · intro a ha
    obtain ⟨hmem, hid⟩ := mem_of_mem_history ha
    obtain ⟨target, job, htarget, hjob, hstatus, hlea, hpartner, hat⟩ := h.reverts a.1 hmem
    rw [of_decide_eq_true hid] at htarget
    obtain rfl := Option.some.inj (hrow.symm.trans htarget)
    exact ⟨job, hjob, hstatus, hlea, hpartner, hat⟩
  · intro a ha
    obtain ⟨hmem, hid⟩ := mem_of_mem_history ha
    obtain ⟨target, htarget, hrest⟩ := h.retries a.1 hmem
    rw [of_decide_eq_true hid] at htarget
    obtain rfl := Option.some.inj (hrow.symm.trans htarget)
    exact hrest

/-- **The drill-down never contradicts itself.**  After every run of the services, each
job's counters are those of its listed issues, an issue list explains the failure of its
job, a failed job quarantined nothing, each revert listed has its own revert job at that
time, and each retry listed rewound to the cursor the job started from. -/
theorem sync_detail_consistent (pg : Postgres) (ops : List Op) (id : Uuid) :
    let s := Runs.run (Store.exec pg) Store.empty ops
    ∀ detail ∈ s.getSyncDetail id, detail.Consistent s := by
  intro s detail hdetail
  have hdocumented : s.Documented :=
    Runs.run_invariant (fun s op h => h.exec pg op) Store.documented_empty ops
  exact hdocumented.consistent hdetail

namespace SyncDetail

/-- A page that quarantines an enrollment; its job is reverted, and retried all the same. -/
def reverted : List Op :=
  [Fixture.pageOp "L1" "job-1"
      [Fixture.event "L1" "evt_1" (Fixture.student "L1" "stu-1"),
        Fixture.event "L1" "evt_2" (Fixture.enrollment "L1" "enr-1" "stu-2")],
    Fixture.revertOp "job-1" "gen-1",
    .retry
      { syncJobId := "job-1", operatorIdentity := "qa", reason := "once more", forced := true
        now := 40 }]

end SyncDetail

/-- The drill-down of a job with issues, a revert and a retry. -/
theorem sync_detail_consistent_reverted :
    let s := Fixture.after SyncDetail.reverted
    ∃ detail ∈ s.getSyncDetail "job-1",
      (detail.validationIssues.length, detail.quarantinedEntityIds, detail.revertHistory.length,
        detail.retryHistory.length) = (3, ["enr-1"], 1, 1) ∧ detail.Consistent s := by
  intro s
  have hsome : (s.getSyncDetail "job-1").map (fun detail => (detail.validationIssues.length,
      detail.quarantinedEntityIds, detail.revertHistory.length, detail.retryHistory.length))
        = some (3, ["enr-1"], 1, 1) := by
    decide +kernel
  obtain ⟨detail, hdetail, hlists⟩ := Option.map_eq_some_iff.mp hsome
  exact ⟨detail, hdetail, hlists,
    sync_detail_consistent .reference SyncDetail.reverted "job-1" detail hdetail⟩
