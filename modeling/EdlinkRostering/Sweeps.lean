/-
The daily reconciliation sweep.

Transcribed from `services/reconciliation_scheduler.py`, the two transactions of
`reconcile_lea` and `_insert_run` of `services/reconciliation.py`, and the provider of
`cli/_snapshot.py`.  A sweep is no transaction: other ones commit before every turn and
between the two of a turn, and a partner may raise.  A `Turn` holds all of that, so the
sweep is a function of its targets and its turns.

* `sweep_accounts` — every target is counted once, and every report has its row;
* `sweep_independent` — a turn reports what it would report alone on the state before
  the sweep, whatever became of the targets before it.
-/
import EdlinkRostering.AdminReads
import EdlinkRostering.Drift
import EdlinkRostering.Connector

open Authorizations (AuthzStore activeAuthorizations)
open Admin (ReconciliationRunRow ReconciliationRunStatus DriftDetailRow)

/-- A committed state of the tables a sweep reads and writes. -/
structure OpsDatabase extends CanonicalDatabase where
  reconciliationRuns : Table Uuid ReconciliationRunRow

namespace Sweeps

/-! ### One target -/

/-- An entry of `_drift_summary`. -/
def detailRow (d : ReconciliationDriftDetail) : DriftDetailRow where
  entityType := d.entityType.name
  canonicalOnlyIds := d.canonicalOnlyIds
  partnerOnlyIds := d.partnerOnlyIds
  canonicalMidHash := String.ofList d.canonicalMidHash
  partnerMidHash := String.ofList d.partnerMidHash

/-- The text that `reconcile_lea` writes into `status`. -/
def runStatus : ReconciliationStatus → ReconciliationRunStatus
  | .matched => .matched
  | .driftDetected => .driftDetected
  | .skippedQuietWindow => .skippedQuietWindow

/-- What `reconcile_lea` returns. -/
structure RunReport extends ReconciliationReport where
  id : Uuid
  leaId : LeaId
  partner : String
  startedAt : Instant
  completedAt : Instant
deriving DecidableEq

/-- The row `_insert_run` writes for a report. -/
def RunReport.row (report : RunReport) : ReconciliationRunRow where
  leaId := report.leaId
  partner := report.partner
  startedAt := report.startedAt
  completedAt := some report.completedAt
  status := runStatus report.status
  canonicalRootHash := String.ofList report.canonicalRootHash
  partnerRootHash := report.partnerRootHash.map String.ofList
  driftSummary := if report.drift = [] then none else some (report.drift.map detailRow)

/-- `_insert_run`; `none` when the primary key is taken. -/
def insertRun (db : OpsDatabase) (report : RunReport) : Option OpsDatabase :=
  if db.reconciliationRuns.lookup report.id = none then
    some { db with reconciliationRuns := db.reconciliationRuns.insert report.id report.row }
  else none

/-- `str(exc)`: the provider's text, or one that Postgres writes. -/
abbrev ExcText := Option String

/-- `make_snapshot_provider`, over the walk of the one partner that is wired. -/
def snapshotProvider (walk : LeaId → Except ExcText SnapshotPayload) (partner : String)
    (leaId : LeaId) : Except ExcText SnapshotPayload :=
  if partner = "edlink" then walk leaId
  else .error (some ("No walk_resources wired for partner " ++ Json.reprStr partner ++ "."
    ++ " Only 'edlink' is supported in the POC."))

/-- What one turn of the loop draws and meets: the other transactions that commit before it
and between its two, the order Postgres returns the rows in, and what the provider says. -/
structure Turn where
  before : OpsDatabase → OpsDatabase := id
  runId : Uuid
  startedAt : Instant
  now : Instant
  scan : ∀ (db : CanonicalDatabase) (leaId : LeaId), Scan db leaId := Scan.heap
  snapshot : String → LeaId → Except ExcText SnapshotPayload
  between : OpsDatabase → OpsDatabase := id
  completedAt : Instant

/-- The report of the turn. -/
def Turn.stamp (turn : Turn) (target : LeaId × String) (report : ReconciliationReport) :
    RunReport where
  toReconciliationReport := report
  id := turn.runId
  leaId := target.1
  partner := target.2
  startedAt := turn.startedAt
  completedAt := turn.completedAt

/-- The end of a transaction that writes the row of a report. -/
def insertAndCommit (db : OpsDatabase) (report : RunReport) :
    OpsDatabase × Except ExcText RunReport :=
  match insertRun db report with
  | none => (db, .error none)
  | some db => (db, .ok report)

/-- `reconcile_lea`. -/
def reconcile (sha : Sha256) (quietMinutes : Int) (turn : Turn) (target : LeaId × String)
    (db : OpsDatabase) : OpsDatabase × Except ExcText RunReport :=
  let db := turn.before db
  let (leaId, partner) := target
  if cursorQuietFor db.toStore leaId partner quietMinutes turn.now then
    let canonical := computeHashes sha (turn.scan db.toCanonicalDatabase leaId).rows
    match turn.snapshot partner leaId with
    | .error exc => (turn.between db, .error exc)
    | .ok payload =>
      insertAndCommit (turn.between db)
        (turn.stamp target (compareSides canonical (computeHashes sha (payload.rows leaId))))
  else
    -- the row of a skipped run is written in the first transaction
    insertAndCommit db (turn.stamp target
      { status := .skippedQuietWindow, canonicalRootHash := "skipped".toList,
        partnerRootHash := none })

/-- `reconcile_one`. -/
def reconcileOne (sha : Sha256) (requireQuietMinutes : Int) (force : Bool) (turn : Turn)
    (target : LeaId × String) (db : OpsDatabase) : OpsDatabase × Except ExcText RunReport :=
  reconcile sha (if force then 0 else requireQuietMinutes) turn target db

/-! ### The sweep -/

/-- `SweepReport`, as the loop fills it. -/
structure SweepReport where
  totalAuthorizations : Nat := 0
  matchedCount : Nat := 0
  driftCount : Nat := 0
  skippedCount : Nat := 0
  failedCount : Nat := 0
  perLea : List RunReport := []
  failures : List (LeaId × String × ExcText) := []
  idempotencyRowsSwept : Nat := 0
deriving DecidableEq

/-- The body of the loop after `reconcile_one`. -/
def SweepReport.add (report : SweepReport) (target : LeaId × String) :
    Except ExcText RunReport → SweepReport
  | .ok run =>
    let report := { report with perLea := report.perLea ++ [run] }
    match run.status with
    | .matched => { report with matchedCount := report.matchedCount + 1 }
    | .driftDetected => { report with driftCount := report.driftCount + 1 }
    | .skippedQuietWindow => { report with skippedCount := report.skippedCount + 1 }
  | .error exc =>
    { report with
      failedCount := report.failedCount + 1
      failures := report.failures ++ [(target.1, target.2, exc)] }

/-- The loop over the targets, from turn `n` on. -/
def sweepTargets (sha : Sha256) (quietMinutes : Int) (turns : Nat → Turn) :
    Nat → List (LeaId × String) → OpsDatabase → SweepReport → OpsDatabase × SweepReport
  | _, [], db, report => (db, report)
  | n, target :: targets, db, report =>
    let turn := reconcileOne sha quietMinutes false (turns n) target db
    sweepTargets sha quietMinutes turns (n + 1) targets turn.1 (report.add target turn.2)

/-- `_sweep_idempotency_keys`: an exception counts as no row. -/
def sweepIdempotencyKeys : Except ExcText Nat → Nat
  | .ok deleted => deleted
  | .error _ => 0

/-- `run_daily_sweep`. -/
def runDailySweep (pg : Postgres) (sha : Sha256) (quietMinutes : Int) (authz : AuthzStore)
    (turns : Nat → Turn) (keys : Except ExcText Nat) (db : OpsDatabase) :
    OpsDatabase × SweepReport :=
  let targets := activeAuthorizations pg authz
  let (db, report) := sweepTargets sha quietMinutes turns 0 targets db {}
  (db, { report with
    totalAuthorizations := targets.length, idempotencyRowsSwept := sweepIdempotencyKeys keys })

/-! ### One turn -/

section

variable (sha : Sha256) (quietMinutes : Int) (turn : Turn) (target : LeaId × String)
  (db : OpsDatabase)

/-- What the turn has to report, if its row can be written. -/
def verdict : Except ExcText RunReport :=
  let report (payload : SnapshotPayload) := turn.stamp target (reconcileLea sha
    (turn.scan db.toCanonicalDatabase target.1) target.2 payload quietMinutes turn.now)
  if cursorQuietFor db.toStore target.1 target.2 quietMinutes turn.now then
    (turn.snapshot target.2 target.1).map report
  else .ok (report [])

variable {sha quietMinutes turn target db}

theorem insertAndCommit_cases (db : OpsDatabase) (report : RunReport) :
    (db.reconciliationRuns.lookup report.id ≠ none ∧
      insertAndCommit db report = (db, .error none)) ∨
    (db.reconciliationRuns.lookup report.id = none ∧ insertAndCommit db report = ({ db with
      reconciliationRuns := db.reconciliationRuns.insert report.id report.row }, .ok report)) := by
  rw [insertAndCommit, insertRun]
  by_cases hfree : db.reconciliationRuns.lookup report.id = none
  · rw [if_pos hfree]
    exact Or.inr ⟨hfree, rfl⟩
  · rw [if_neg hfree]
    exact Or.inl ⟨hfree, rfl⟩

variable (sha quietMinutes turn target db) in
/-- **What a turn does.**  It reports what `reconcileLea` reports on the state it reads, and
writes the row of that report; or it raises and writes nothing. -/
theorem reconcile_cases : ∃ db₁, (db₁ = turn.before db ∨ db₁ = turn.between (turn.before db)) ∧
    ((∃ exc, reconcile sha quietMinutes turn target db = (db₁, .error exc) ∧
        (verdict sha quietMinutes turn target (turn.before db) = .error exc ∨
          db₁.reconciliationRuns.lookup turn.runId ≠ none)) ∨
      ∃ report, verdict sha quietMinutes turn target (turn.before db) = .ok report ∧
        db₁.reconciliationRuns.lookup turn.runId = none ∧
        reconcile sha quietMinutes turn target db = ({ db₁ with
          reconciliationRuns := db₁.reconciliationRuns.insert turn.runId report.row },
          .ok report)) := by
  obtain ⟨leaId, partner⟩ := target
  cases hquiet : cursorQuietFor (turn.before db).toStore leaId partner quietMinutes turn.now with
  | false =>
    -- a skipped run: one transaction
    refine ⟨turn.before db, Or.inl rfl, ?_⟩
    simp only [reconcile, verdict, hquiet, Bool.false_eq_true, if_false, reconcileLea]
    rcases insertAndCommit_cases (turn.before db) (turn.stamp (leaId, partner)
      { status := .skippedQuietWindow, canonicalRootHash := "skipped".toList,
        partnerRootHash := none }) with ⟨htaken, h⟩ | ⟨hfree, h⟩
    · exact Or.inl ⟨none, h, Or.inr htaken⟩
    · exact Or.inr ⟨_, rfl, hfree, h⟩
  | true =>
    refine ⟨turn.between (turn.before db), Or.inr rfl, ?_⟩
    simp only [reconcile, verdict, hquiet, if_true, reconcileLea]
    cases turn.snapshot partner leaId with
    | error exc => exact Or.inl ⟨exc, rfl, Or.inl rfl⟩
    | ok payload =>
      rcases insertAndCommit_cases (turn.between (turn.before db)) (turn.stamp (leaId, partner)
        (compareSides
          (computeHashes sha (turn.scan (turn.before db).toCanonicalDatabase leaId).rows)
          (computeHashes sha (payload.rows leaId)))) with ⟨htaken, h⟩ | ⟨hfree, h⟩
      · exact Or.inl ⟨none, h, Or.inr htaken⟩
      · exact Or.inr ⟨_, rfl, hfree, h⟩

/-- A report carries the stamp of its turn. -/
theorem verdict_eq_ok {report : RunReport}
    (h : verdict sha quietMinutes turn target db = .ok report) :
    report.id = turn.runId ∧ (report.leaId, report.partner) = target ∧
      report.completedAt = turn.completedAt := by
  rw [verdict] at h
  split at h
  · cases hpayload : turn.snapshot target.2 target.1 with
    | error exc =>
      rw [hpayload] at h
      exact absurd h (by simp [Except.map])
    | ok payload =>
      rw [hpayload] at h
      obtain rfl := Except.ok.inj h
      exact ⟨rfl, rfl, rfl⟩
  · obtain rfl := Except.ok.inj h
    exact ⟨rfl, rfl, rfl⟩

end

/-! ### The loop -/

section

variable (sha : Sha256) (quietMinutes : Int) (turns : Nat → Turn)

/-- What the turns came to, in order, and the state they leave. -/
def outcomes : Nat → List (LeaId × String) → OpsDatabase →
    OpsDatabase × List (Except ExcText RunReport)
  | _, [], db => (db, [])
  | n, target :: targets, db =>
    let turn := reconcile sha quietMinutes (turns n) target db
    let rest := outcomes (n + 1) targets turn.1
    (rest.1, turn.2 :: rest.2)

/-- The report of a list of outcomes. -/
def tally (report : SweepReport) (swept : List ((LeaId × String) × Except ExcText RunReport)) :
    SweepReport :=
  swept.foldl (fun report p => report.add p.1 p.2) report

variable {sha quietMinutes turns}

theorem sweepTargets_eq (n : Nat) (targets : List (LeaId × String)) (db : OpsDatabase)
    (report : SweepReport) : sweepTargets sha quietMinutes turns n targets db report
      = ((outcomes sha quietMinutes turns n targets db).1,
          tally report (targets.zip (outcomes sha quietMinutes turns n targets db).2)) := by
  induction targets generalizing n db report with
  | nil => rfl
  | cons target targets ih => exact ih (n + 1) _ _

variable (sha quietMinutes turns) in
theorem length_outcomes (n : Nat) (targets : List (LeaId × String)) (db : OpsDatabase) :
    (outcomes sha quietMinutes turns n targets db).2.length = targets.length := by
  induction targets generalizing n db with
  | nil => rfl
  | cons target targets ih =>
    show (outcomes sha quietMinutes turns (n + 1) targets _).2.length + 1 = targets.length + 1
    rw [ih]

/-- The runs of a status among the reports. -/
def countRuns (reports : List RunReport) (status : ReconciliationStatus) : Nat :=
  reports.countP fun run => run.status = status

/-- What stands in `failures` for an outcome. -/
def failureOf : (LeaId × String) × Except ExcText RunReport → Option (LeaId × String × ExcText)
  | (_, .ok _) => none
  | (target, .error exc) => some (target.1, target.2, exc)

/-- The counters agree with the two lists. -/
structure SweepReport.Counts (report : SweepReport) : Prop where
  matched : report.matchedCount = countRuns report.perLea .matched
  drift : report.driftCount = countRuns report.perLea .driftDetected
  skipped : report.skippedCount = countRuns report.perLea .skippedQuietWindow
  failed : report.failedCount = report.failures.length

theorem SweepReport.Counts.add {report : SweepReport} (h : report.Counts)
    (target : LeaId × String) (outcome : Except ExcText RunReport) :
    (report.add target outcome).Counts := by
  obtain ⟨hm, hd, hs, hf⟩ := h
  cases outcome with
  | error exc =>
    refine ⟨hm, hd, hs, ?_⟩
    show report.failedCount + 1 = (report.failures ++ [(target.1, target.2, exc)]).length
    rw [List.length_append, List.length_singleton, hf]
  | ok run =>
    have hcount : ∀ status, countRuns (report.perLea ++ [run]) status
        = countRuns report.perLea status + if run.status = status then 1 else 0 := by
      intro status
      rw [countRuns, List.countP_append, List.countP_singleton, countRuns]
      simp
    simp only [SweepReport.add]
    cases hrun : run.status <;> refine ⟨?_, ?_, ?_, hf⟩ <;> simp only [hcount, hrun] <;>
      simp only [if_true, if_false, reduceCtorEq] <;> omega

/-- Every run has one of the three statuses. -/
theorem countRuns_total (reports : List RunReport) :
    countRuns reports .matched + countRuns reports .driftDetected
      + countRuns reports .skippedQuietWindow = reports.length := by
  induction reports with
  | nil => rfl
  | cons run reports ih =>
    simp only [countRuns, List.countP_cons, List.length_cons] at ih ⊢
    cases run.status <;> simp <;> omega

theorem tally_spec (swept : List ((LeaId × String) × Except ExcText RunReport))
    (report : SweepReport) (h : report.Counts) : (tally report swept).Counts ∧
      (tally report swept).perLea = report.perLea ++ swept.filterMap (fun p => p.2.toOption) ∧
      (tally report swept).failures = report.failures ++ swept.filterMap failureOf := by
  induction swept generalizing report with
  | nil => exact ⟨h, (List.append_nil _).symm, (List.append_nil _).symm⟩
  | cons p swept ih =>
    obtain ⟨target, outcome⟩ := p
    obtain ⟨hcounts, hper, hfail⟩ := ih (report.add target outcome) (h.add target outcome)
    refine ⟨hcounts, ?_, ?_⟩
    · show (tally (report.add target outcome) swept).perLea = _
      rw [hper]
      cases outcome with
      | error exc => rfl
      | ok run =>
        have hadd : (report.add target (.ok run)).perLea = report.perLea ++ [run] := by
          simp only [SweepReport.add]
          cases run.status <;> rfl
        rw [hadd, List.append_assoc]
        rfl
    · show (tally (report.add target outcome) swept).failures = _
      rw [hfail]
      cases outcome with
      | error exc =>
        show (report.failures ++ [(target.1, target.2, exc)]) ++ _ = _
        rw [List.append_assoc]
        rfl
      | ok run =>
        have hadd : (report.add target (.ok run)).failures = report.failures := by
          simp only [SweepReport.add]
          cases run.status <;> rfl
        rw [hadd]
        rfl

/-- An outcome is a report or a failure. -/
theorem length_reports_failures (swept : List ((LeaId × String) × Except ExcText RunReport)) :
    (swept.filterMap fun p => p.2.toOption).length + (swept.filterMap failureOf).length
      = swept.length := by
  induction swept with
  | nil => rfl
  | cons p swept ih =>
    obtain ⟨target, outcome⟩ := p
    cases outcome with
    | error exc =>
      show _ + ((swept.filterMap failureOf).length + 1) = swept.length + 1
      rw [← ih, ← Nat.add_assoc]
      rfl
    | ok run =>
      show ((swept.filterMap fun p => p.2.toOption).length + 1) + _ = swept.length + 1
      rw [← ih, Nat.add_right_comm]
      rfl

theorem tally_perLea {targets : List (LeaId × String)} (outs : List (Except ExcText RunReport))
    (hlength : outs.length = targets.length) :
    (tally {} (targets.zip outs)).perLea = outs.filterMap Except.toOption := by
  obtain ⟨-, hper, -⟩ := tally_spec (targets.zip outs) {} ⟨rfl, rfl, rfl, rfl⟩
  have hsnd : (targets.zip outs).map Prod.snd = outs := List.map_snd_zip hlength.le
  calc _ = (targets.zip outs).filterMap fun p => p.2.toOption := hper
    _ = ((targets.zip outs).map Prod.snd).filterMap Except.toOption := by
      rw [List.filterMap_map]
      rfl
    _ = _ := by rw [hsnd]

/-- The counters of a sweep sum to the number of its turns. -/
theorem tally_total (swept : List ((LeaId × String) × Except ExcText RunReport)) :
    (tally {} swept).matchedCount + (tally {} swept).driftCount + (tally {} swept).skippedCount
      + (tally {} swept).failedCount = swept.length := by
  obtain ⟨hcounts, hper, hfail⟩ := tally_spec swept {} ⟨rfl, rfl, rfl, rfl⟩
  -- the reports are of three kinds, the rest are failures
  have hkinds := countRuns_total (tally {} swept).perLea
  have hsplit := length_reports_failures swept
  rw [← hcounts.matched, ← hcounts.drift, ← hcounts.skipped, hper] at hkinds
  have hfailed := hcounts.failed
  rw [hfail] at hfailed
  simp only [List.nil_append] at hkinds hfailed
  omega

/-! ### Every target is accounted for -/

/-- The other transactions keep the runs that are there. -/
structure Turn.KeepsRuns (turn : Turn) : Prop where
  before : ∀ db id row, db.reconciliationRuns.lookup id = some row →
    (turn.before db).reconciliationRuns.lookup id = some row
  between : ∀ db id row, db.reconciliationRuns.lookup id = some row →
    (turn.between db).reconciliationRuns.lookup id = some row

theorem reconcile_keepsRuns {turn : Turn} (h : turn.KeepsRuns) {target : LeaId × String}
    {db : OpsDatabase} {id : Uuid} {row : ReconciliationRunRow}
    (hrow : db.reconciliationRuns.lookup id = some row) :
    (reconcile sha quietMinutes turn target db).1.reconciliationRuns.lookup id = some row := by
  have hbefore := h.before db id row hrow
  obtain ⟨db₁, hdb₁, hcases⟩ := reconcile_cases sha quietMinutes turn target db
  have hkept : db₁.reconciliationRuns.lookup id = some row := by
    rcases hdb₁ with rfl | rfl
    · exact hbefore
    · exact h.between _ id row hbefore
  rcases hcases with ⟨exc, heq, -⟩ | ⟨report, -, hfree, heq⟩
  · rw [heq]
    exact hkept
  · rw [heq]
    have hne : id ≠ turn.runId := by
      rintro rfl
      rw [hfree] at hkept
      exact absurd hkept (by simp)
    exact (Table.lookup_insert_eq _ _ _ _).trans ((if_neg hne).trans hkept)

theorem outcomes_keepsRuns (h : ∀ n, (turns n).KeepsRuns) (n : Nat)
    (targets : List (LeaId × String)) {db : OpsDatabase} {id : Uuid} {row : ReconciliationRunRow}
    (hrow : db.reconciliationRuns.lookup id = some row) :
    (outcomes sha quietMinutes turns n targets db).1.reconciliationRuns.lookup id = some row := by
  induction targets generalizing n db with
  | nil => exact hrow
  | cons target targets ih => exact ih (n + 1) (reconcile_keepsRuns (h n) hrow)

/-- A report of the sweep is one of its target, and its row stands at the end. -/
theorem outcomes_rows (h : ∀ n, (turns n).KeepsRuns) (n : Nat) (targets : List (LeaId × String))
    (db : OpsDatabase) : ∀ p ∈ targets.zip (outcomes sha quietMinutes turns n targets db).2,
      ∀ report, p.2 = .ok report → (report.leaId, report.partner) = p.1 ∧
        (outcomes sha quietMinutes turns n targets db).1.reconciliationRuns.lookup report.id
          = some report.row := by
  induction targets generalizing n db with
  | nil => exact fun p hp => absurd hp List.not_mem_nil
  | cons target targets ih =>
    intro p hp report hreport
    rcases List.mem_cons.mp hp with rfl | hp
    · -- the row of this turn is kept by the turns after it
      obtain ⟨db₁, -, hcases⟩ := reconcile_cases sha quietMinutes (turns n) target db
      have houtcome : (reconcile sha quietMinutes (turns n) target db).2 = .ok report := hreport
      rcases hcases with ⟨exc, heq, -⟩ | ⟨written, hverdict, -, heq⟩
      · rw [heq] at houtcome
        exact absurd houtcome (by simp)
      · rw [heq] at houtcome
        obtain rfl := Except.ok.inj houtcome
        obtain ⟨hid, htarget, -⟩ := verdict_eq_ok hverdict
        have hrow : (reconcile sha quietMinutes (turns n) target db).1.reconciliationRuns.lookup
            written.id = some written.row := by
          rw [heq, hid]
          exact (Table.lookup_insert_eq _ _ _ _).trans (if_pos rfl)
        exact ⟨htarget, outcomes_keepsRuns h (n + 1) targets hrow⟩
    · exact ih (n + 1) _ p hp report hreport

/-! ### No target depends on another -/

/-- Two states in which a reconciliation of the target reads the same. -/
structure SameSide (target : LeaId × String) (db db' : OpsDatabase) : Prop where
  live : ∀ family, (db.liveRows target.1 family).Perm (db'.liveRows target.1 family)
  cursor : db.cursorState.lookup target = db'.cursorState.lookup target

theorem SameSide.trans {target : LeaId × String} {a b c : OpsDatabase}
    (hab : SameSide target a b) (hbc : SameSide target b c) : SameSide target a c where
  live family := (hab.live family).trans (hbc.live family)
  cursor := hab.cursor.trans hbc.cursor

/-- What a turn has to report depends on its side alone, whatever the order of the rows. -/
theorem verdict_congr {turn : Turn} {target : LeaId × String} {db db' : OpsDatabase}
    (h : SameSide target db db') :
    verdict sha quietMinutes turn target db = verdict sha quietMinutes turn target db' := by
  have hquiet : cursorQuietFor db.toStore target.1 target.2 quietMinutes turn.now
      = cursorQuietFor db'.toStore target.1 target.2 quietMinutes turn.now := by
    have hcursor : db.cursorState.lookup (target.1, target.2)
        = db'.cursorState.lookup (target.1, target.2) := h.cursor
    rw [cursorQuietFor, cursorQuietFor, hcursor]
  have hhashes : computeHashes sha (turn.scan db.toCanonicalDatabase target.1).rows
      = computeHashes sha (turn.scan db'.toCanonicalDatabase target.1).rows := by
    refine Reconciliation.computeHashes_congr (Reconciliation.oneTextPerId_scan _) ?_
    intro family
    exact ((turn.scan db.toCanonicalDatabase target.1).perm family).trans
      ((h.live family).trans ((turn.scan db'.toCanonicalDatabase target.1).perm family).symm)
  simp only [verdict, reconcileLea, hquiet, hhashes]

/-- Transactions of others that leave the sides of the targets and draw none of the ids. -/
def Spares (targets : List (LeaId × String)) (ids : Nat → Uuid)
    (others : OpsDatabase → OpsDatabase) : Prop :=
  ∀ db, (∀ target ∈ targets, SameSide target db (others db)) ∧
    ∀ n, db.reconciliationRuns.lookup (ids n) = none →
      (others db).reconciliationRuns.lookup (ids n) = none

/-- The state of a sweep at turn `n`: the sides are those of `db₀`, the ids to come are free. -/
structure Undisturbed (targets : List (LeaId × String)) (ids : Nat → Uuid) (n : Nat)
    (db₀ db : OpsDatabase) : Prop where
  sides : ∀ target ∈ targets, SameSide target db₀ db
  free : ∀ m, n ≤ m → db.reconciliationRuns.lookup (ids m) = none

theorem Undisturbed.others {targets : List (LeaId × String)} {ids : Nat → Uuid} {n : Nat}
    {db₀ db : OpsDatabase} (h : Undisturbed targets ids n db₀ db)
    {others : OpsDatabase → OpsDatabase} (hspares : Spares targets ids others) :
    Undisturbed targets ids n db₀ (others db) where
  sides target htarget := (h.sides target htarget).trans ((hspares db).1 target htarget)
  free m hm := (hspares db).2 m (h.free m hm)

variable (sha quietMinutes) in
/-- One turn: it reports on the state before the sweep, and leaves the next one undisturbed. -/
theorem Undisturbed.reconcile {targets : List (LeaId × String)} {n : Nat} {db₀ db : OpsDatabase}
    (h : Undisturbed targets (fun n => (turns n).runId) n db₀ db)
    (hids : Function.Injective fun n => (turns n).runId)
    (hbefore : Spares targets (fun n => (turns n).runId) (turns n).before)
    (hbetween : Spares targets (fun n => (turns n).runId) (turns n).between)
    {target : LeaId × String} (htarget : target ∈ targets) :
    (Sweeps.reconcile sha quietMinutes (turns n) target db).2
        = verdict sha quietMinutes (turns n) target db₀ ∧
      Undisturbed targets (fun n => (turns n).runId) (n + 1) db₀
        (Sweeps.reconcile sha quietMinutes (turns n) target db).1 := by
  have hread := h.others hbefore
  obtain ⟨db₁, hdb₁, hcases⟩ := reconcile_cases sha quietMinutes (turns n) target db
  have hstate : Undisturbed targets (fun n => (turns n).runId) n db₀ db₁ := by
    rcases hdb₁ with rfl | rfl
    · exact hread
    · exact hread.others hbetween
  rw [verdict_congr (hread.sides target htarget)]
  rcases hcases with ⟨exc, heq, hexc⟩ | ⟨report, hverdict, -, heq⟩
  · rw [heq]
    refine ⟨?_, hstate.sides, fun m hm => hstate.free m (by omega)⟩
    rcases hexc with hverdict | htaken
    · exact hverdict.symm
    · exact absurd (hstate.free n le_rfl) htaken
  · rw [heq]
    -- writing a run leaves every side alone
    refine ⟨hverdict.symm, ?_, ?_⟩
    · intro t ht
      exact ⟨(hstate.sides t ht).live, (hstate.sides t ht).cursor⟩
    intro m hm
    have hne : (turns m).runId ≠ (turns n).runId := fun hid => by
      have := hids hid
      omega
    exact (Table.lookup_insert_eq _ _ _ _).trans
      ((if_neg hne).trans (hstate.free m (by omega)))

variable (sha quietMinutes) in
theorem outcomes_eq_verdicts {targets : List (LeaId × String)}
    (hids : Function.Injective fun n => (turns n).runId)
    (hbefore : ∀ n, Spares targets (fun n => (turns n).runId) (turns n).before)
    (hbetween : ∀ n, Spares targets (fun n => (turns n).runId) (turns n).between)
    (db₀ : OpsDatabase) (n : Nat) (rest : List (LeaId × String)) (hrest : rest ⊆ targets)
    (db : OpsDatabase) (h : Undisturbed targets (fun n => (turns n).runId) n db₀ db) :
    rest.zip (outcomes sha quietMinutes turns n rest db).2
      = (rest.zipIdx n).map fun p => (p.1, verdict sha quietMinutes (turns p.2) p.1 db₀) := by
  induction rest generalizing n db with
  | nil => rfl
  | cons target rest ih =>
    obtain ⟨houtcome, hnext⟩ := h.reconcile sha quietMinutes hids (hbefore n) (hbetween n)
      (hrest List.mem_cons_self)
    have htail := ih (n + 1) (fun t ht => hrest (List.mem_cons_of_mem _ ht)) _ hnext
    show (target, (reconcile sha quietMinutes (turns n) target db).2) :: rest.zip _ = _
    rw [houtcome, htail]
    rfl

end

/-! ### The sweep as a whole -/

/-- The sweep is the tally of its turns. -/
theorem runDailySweep_eq (pg : Postgres) (sha : Sha256) (quietMinutes : Int) (authz : AuthzStore)
    (turns : Nat → Turn) (keys : Except ExcText Nat) (db : OpsDatabase) :
    let targets := activeAuthorizations pg authz
    let outs := outcomes sha quietMinutes turns 0 targets db
    let report := tally {} (targets.zip outs.2)
    runDailySweep pg sha quietMinutes authz turns keys db = (outs.1, { report with
      totalAuthorizations := targets.length, idempotencyRowsSwept := sweepIdempotencyKeys keys }) :=
  by simp only [runDailySweep, sweepTargets_eq]

/-- **A sweep accounts for every target.**  Every active authorization comes to a report, in
the order of the query, or to a failure; the four counters are those of the two lists and
sum to the number of targets.  A report is one of its target, and its row stands when the
sweep ends. -/
theorem sweep_accounts (pg : Postgres) (sha : Sha256) (quietMinutes : Int) (authz : AuthzStore)
    (turns : Nat → Turn) (keys : Except ExcText Nat) (db : OpsDatabase)
    (henv : ∀ n, (turns n).KeepsRuns) :
    let targets := activeAuthorizations pg authz
    let swept := runDailySweep pg sha quietMinutes authz turns keys db
    (∃ outs : List (Except ExcText RunReport), outs.length = targets.length ∧
      swept.2.perLea = outs.filterMap Except.toOption ∧
      swept.2.failures = (targets.zip outs).filterMap failureOf ∧
      ∀ p ∈ targets.zip outs, ∀ report, p.2 = .ok report →
        (report.leaId, report.partner) = p.1 ∧
          swept.1.reconciliationRuns.lookup report.id = some report.row) ∧
    swept.2.Counts ∧ swept.2.totalAuthorizations = targets.length ∧
    swept.2.matchedCount + swept.2.driftCount + swept.2.skippedCount + swept.2.failedCount
      = targets.length := by
  intro targets swept
  have hswept : swept = _ := runDailySweep_eq pg sha quietMinutes authz turns keys db
  have hlength := length_outcomes sha quietMinutes turns 0 targets db
  obtain ⟨hcounts, -, hfail⟩ := tally_spec
    (targets.zip (outcomes sha quietMinutes turns 0 targets db).2) {} ⟨rfl, rfl, rfl, rfl⟩
  have hreports := tally_perLea _ hlength
  rw [hswept]
  refine ⟨⟨_, hlength, hreports, hfail, outcomes_rows henv 0 targets db⟩,
    ⟨hcounts.matched, hcounts.drift, hcounts.skipped, hcounts.failed⟩, rfl, ?_⟩
  have htotal := tally_total (targets.zip (outcomes sha quietMinutes turns 0 targets db).2)
  rw [List.length_zip, hlength, Nat.min_self] at htotal
  exact htotal

/-- Two authorized LEAs, of which the partner knows the first. -/
def twoLeas : AuthzStore where
  leas := AList.insert "L2" none (AList.insert "L1" none ∅)
  authorizations := AList.insert "a2" { leaId := "L2", partner := "edlink", status := .active }
    (AList.insert "a1" { leaId := "L1", partner := "edlink", status := .active } ∅)
  auditLog := []

def quietTurn (n : Nat) : Turn where
  runId := String.ofList (List.replicate n 'r')
  startedAt := 0
  now := 0
  snapshot := snapshotProvider fun leaId =>
    if leaId = "L1" then .ok [("students", [Reconciliation.alex "05"])]
    else .error (some "404")
  completedAt := n + 1

def rosteredOps : OpsDatabase := { Reconciliation.rostered with reconciliationRuns := ∅ }

theorem sweep_accounts_twoLeas :
    let swept := runDailySweep Postgres.reference Reconciliation.alexSha 60 twoLeas quietTurn
      (.ok 0) rosteredOps
    swept.2.matchedCount + swept.2.driftCount + swept.2.skippedCount + swept.2.failedCount = 2 :=
  (sweep_accounts Postgres.reference Reconciliation.alexSha 60 twoLeas quietTurn (.ok 0)
    rosteredOps fun _ => ⟨fun _ _ _ h => h, fun _ _ _ h => h⟩).2.2.2

/-- **A sweep is that many reconciliations on their own.**  Where the other transactions leave
the canonical rows and the cursors of its targets, each target is reported, or fails, as on
the state before the sweep: a partner that raises, a drift or a skipped window changes
nothing for the targets after it, nor does the order in which the rows are read. -/
theorem sweep_independent (pg : Postgres) (sha : Sha256) (quietMinutes : Int)
    (authz : AuthzStore) (turns : Nat → Turn) (keys : Except ExcText Nat) (db : OpsDatabase)
    (hids : Function.Injective fun n => (turns n).runId)
    (hfree : ∀ n, db.reconciliationRuns.lookup (turns n).runId = none)
    (hbefore : ∀ n, Spares (activeAuthorizations pg authz) (fun n => (turns n).runId)
      (turns n).before)
    (hbetween : ∀ n, Spares (activeAuthorizations pg authz) (fun n => (turns n).runId)
      (turns n).between) :
    let alone := (activeAuthorizations pg authz).zipIdx.map fun p =>
      (p.1, verdict sha quietMinutes (turns p.2) p.1 db)
    let report := (runDailySweep pg sha quietMinutes authz turns keys db).2
    report.perLea = alone.filterMap (fun p => p.2.toOption) ∧
      report.failures = alone.filterMap failureOf := by
  intro alone report
  have hstart : Undisturbed (activeAuthorizations pg authz) (fun n => (turns n).runId) 0 db db :=
    ⟨fun target _ => ⟨fun family => List.Perm.refl _, rfl⟩, fun m _ => hfree m⟩
  have halone := outcomes_eq_verdicts sha quietMinutes hids hbefore hbetween db 0
    (activeAuthorizations pg authz) (List.Subset.refl _) db hstart
  have hreport : report = _ :=
    congrArg Prod.snd (runDailySweep_eq pg sha quietMinutes authz turns keys db)
  obtain ⟨-, hper, hfail⟩ := tally_spec alone {} ⟨rfl, rfl, rfl, rfl⟩
  rw [hreport, halone]
  exact ⟨hper, hfail⟩

theorem sweep_independent_twoLeas :
    (runDailySweep Postgres.reference Reconciliation.alexSha 60 twoLeas quietTurn (.ok 0)
      rosteredOps).2.failures = [("L2", "edlink", some "404")] := by
  refine (sweep_independent Postgres.reference Reconciliation.alexSha 60 twoLeas quietTurn (.ok 0)
    rosteredOps ?_ (fun _ => rfl) ?_ ?_).2.trans ?_
  · intro n m hid
    have hlist := String.ofList_injective hid
    simpa using congrArg List.length hlist
  · exact fun n db => ⟨fun _ _ => ⟨fun _ => List.Perm.refl _, rfl⟩, fun _ h => h⟩
  · exact fun n db => ⟨fun _ _ => ⟨fun _ => List.Perm.refl _, rfl⟩, fun _ h => h⟩
  · rfl

end Sweeps
