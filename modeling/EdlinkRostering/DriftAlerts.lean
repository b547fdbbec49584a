/-
The drift alerts after a sweep.

`evaluate_reconciliation_drift` keeps the latest completed run of each pair with
`DISTINCT ON`.  The alerts of a pair depend on the runs of that pair alone, and a sweep
adds one run a report.

* `Admin.filter_distinctOn` — `DISTINCT ON` keeps the first row of each key;
* `Sweeps.sweep_settles_alerts` — what the sweep says of a pair is what the feed says.
-/
import EdlinkRostering.Sweeps
import EdlinkRostering.Keyset

namespace Admin

section

variable {α κ : Type} [DecidableEq κ]

/-- `DISTINCT ON` keeps the first row of each key. -/
theorem filter_distinctOn (key : α → κ) (k : κ) (rows : List α) :
    (distinctOn key rows).filter (fun a => key a = k)
      = (rows.filter fun a => key a = k).head?.toList := by
  induction rows with
  | nil => rfl
  | cons a rows ih =>
    by_cases hkey : key a = k
    · -- the later rows of the key are dropped
      have hrest : ((distinctOn key rows).filter fun b => key b ≠ key a).filter
          (fun b => key b = k) = [] := by
        rw [List.filter_filter, List.filter_eq_nil_iff]
        intro b _
        simp [hkey]
      rw [distinctOn, List.filter_cons_of_pos (by simpa using hkey), hrest,
        List.filter_cons_of_pos (by simpa using hkey)]
      rfl
    · have hrest : ((distinctOn key rows).filter fun b => key b ≠ key a).filter
          (fun b => key b = k) = (distinctOn key rows).filter fun b => key b = k := by
        rw [List.filter_filter]
        refine List.filter_congr ?_
        intro b _
        by_cases hb : key b = k
        · simp [hb, Ne.symm hkey]
        · simp [hb]
      rw [distinctOn, List.filter_cons_of_neg (by simpa using hkey), hrest, ih,
        List.filter_cons_of_neg (by simpa using hkey)]

end

/-! ### The alerts of a pair -/

variable {pg : AdminPostgres}

theorem pairLe_refl (horder : TextOrdered pg.toPostgres) (a : LeaId × String) : pairLe pg a a :=
  ⟨(horder.total a.1 a.1).elim id id, fun _ => (horder.total a.2 a.2).elim id id⟩

theorem pairLe_total (horder : TextOrdered pg.toPostgres) (a b : LeaId × String) :
    pairLe pg a b ∨ pairLe pg b a := by
  by_cases hlea : a.1 = b.1
  · have hrefl : pg.textLe a.1 b.1 = true ∧ pg.textLe b.1 a.1 = true := by
      rw [hlea]
      exact ⟨(pairLe_refl horder b).1, (pairLe_refl horder b).1⟩
    rcases horder.total a.2 b.2 with hle | hle
    · exact Or.inl ⟨hrefl.1, fun _ => hle⟩
    · exact Or.inr ⟨hrefl.2, fun _ => hle⟩
  · rcases horder.total a.1 b.1 with hle | hle
    · exact Or.inl ⟨hle, fun h => absurd h hlea⟩
    · exact Or.inr ⟨hle, fun h => absurd h.symm hlea⟩

theorem pairLe_trans (horder : TextOrdered pg.toPostgres) {a b c : LeaId × String}
    (hab : pairLe pg a b) (hbc : pairLe pg b c) : pairLe pg a c := by
  refine ⟨horder.trans _ _ _ hab.1 hbc.1, ?_⟩
  intro hac
  have hba : a.1 = b.1 := horder.antisymm _ _ hab.1 (hac ▸ hbc.1)
  exact horder.trans _ _ _ (hab.2 hba) (hbc.2 (hba ▸ hac))

theorem pairLe_antisymm (horder : TextOrdered pg.toPostgres) {a b : LeaId × String}
    (hab : pairLe pg a b) (hba : pairLe pg b a) : a = b := by
  have hlea : a.1 = b.1 := horder.antisymm _ _ hab.1 hba.1
  exact Prod.ext hlea (horder.antisymm _ _ (hab.2 hlea) (hba.2 hlea.symm))

/-- The pair of a run. -/
def ReconciliationRunRow.pair (row : ReconciliationRunRow) : LeaId × String :=
  (row.leaId, row.partner)

/-- A completed run of the window, as the evaluator selects it. -/
def completedRun (now : Instant) (r : Uuid × ReconciliationRunRow) :
    Option (Uuid × Instant × ReconciliationRunRow) :=
  r.2.completedAt.bind fun completedAt =>
    if now ≤ completedAt + windowHours * microsecondsPerHour then some (r.1, completedAt, r.2)
    else none

variable (pg)

/-- `ORDER BY lea_id, partner, completed_at DESC`. -/
def runLe (a b : Uuid × Instant × ReconciliationRunRow) : Prop :=
  pairLe pg (a.2.2.leaId, a.2.2.partner) (b.2.2.leaId, b.2.2.partner) ∧
    (a.2.2.leaId = b.2.2.leaId → a.2.2.partner = b.2.2.partner → b.2.1 ≤ a.2.1)

instance : DecidableRel (runLe pg) := fun a b => by
  unfold runLe
  infer_instance

/-- The alert of the latest run of a pair. -/
def driftAlert (r : Uuid × Instant × ReconciliationRunRow) : Option AlertOut :=
  if r.2.2.status ≠ .driftDetected then none
  else
    let summary := r.2.2.driftSummary.getD []
    some (emit "alert.reconciliation_drift" "warning"
      ("alert.reconciliation_drift:" ++ r.2.2.leaId ++ ":" ++ r.2.2.partner)
      [("run_id", r.1), ("lea_id", r.2.2.leaId), ("partner", r.2.2.partner),
        ("completed_at", pg.isoformat r.2.1),
        ("entity_types", ",".intercalate (summary.map DriftDetailRow.entityType)),
        ("canonical_root_hash", r.2.2.canonicalRootHash),
        ("partner_root_hash", r.2.2.partnerRootHash.getD "")]
      [("entity_types_drifted", summary.length),
        ("canonical_only_count", (summary.map fun d => d.canonicalOnlyIds.length).sum),
        ("partner_only_count", (summary.map fun d => d.partnerOnlyIds.length).sum)])

theorem evaluateReconciliationDrift_eq (db : AdminDatabase) (now : Instant) :
    evaluateReconciliationDrift db pg now
      = (distinctOn (fun r => r.2.2.pair) (((Table.rows db.reconciliationRuns).filterMap
          (completedRun now)).insertionSort (runLe pg))).filterMap (driftAlert pg) := by
  rfl

/-- The alerts that name a pair. -/
def alertsOf (alerts : List AlertOut) (pair : LeaId × String) : List AlertOut :=
  alerts.filter fun alert => alert.properties.lookup "lea_id" = some pair.1
    ∧ alert.properties.lookup "partner" = some pair.2

variable {pg}

theorem runLe_total (horder : TextOrdered pg.toPostgres)
    (a b : Uuid × Instant × ReconciliationRunRow) : runLe pg a b ∨ runLe pg b a := by
  by_cases hpair : a.2.2.pair = b.2.2.pair
  · have hrefl : pairLe pg a.2.2.pair b.2.2.pair ∧ pairLe pg b.2.2.pair a.2.2.pair := by
      rw [hpair]
      exact ⟨pairLe_refl horder _, pairLe_refl horder _⟩
    rcases Nat.le_total b.2.1 a.2.1 with hle | hle
    · exact Or.inl ⟨hrefl.1, fun _ _ => hle⟩
    · exact Or.inr ⟨hrefl.2, fun _ _ => hle⟩
  · rcases pairLe_total horder a.2.2.pair b.2.2.pair with h | h
    · exact Or.inl ⟨h, fun h₁ h₂ => absurd (Prod.ext h₁ h₂) hpair⟩
    · exact Or.inr ⟨h, fun h₁ h₂ => absurd (Prod.ext h₁.symm h₂.symm) hpair⟩

theorem runLe_trans (horder : TextOrdered pg.toPostgres)
    {a b c : Uuid × Instant × ReconciliationRunRow} (hab : runLe pg a b) (hbc : runLe pg b c) :
    runLe pg a c := by
  refine ⟨pairLe_trans horder hab.1 hbc.1, ?_⟩
  intro hlea hpartner
  -- the three runs are of one pair
  have hac : a.2.2.pair = c.2.2.pair := Prod.ext hlea hpartner
  have hb : a.2.2.pair = b.2.2.pair := pairLe_antisymm horder hab.1 (by
    show pairLe pg b.2.2.pair a.2.2.pair
    rw [hac]
    exact hbc.1)
  obtain ⟨h₁, h₂⟩ := Prod.mk.inj hb
  exact (hbc.2 (h₁ ▸ hlea) (h₂ ▸ hpartner)).trans (hab.2 h₁ h₂)

/-- The runs of a pair. -/
def runsOf (pair : LeaId × String) (runs : Table Uuid ReconciliationRunRow) :
    List (Uuid × ReconciliationRunRow) :=
  (Table.rows runs).filter fun r => r.2.pair = pair

/-- A completed run is the run. -/
theorem completedRun_eq_some {now : Instant} {r : Uuid × ReconciliationRunRow}
    {run : Uuid × Instant × ReconciliationRunRow} (h : completedRun now r = some run) :
    (run.1, run.2.2) = r ∧ r.2.completedAt = some run.2.1 := by
  rw [completedRun] at h
  cases hcompleted : r.2.completedAt with
  | none =>
    rw [hcompleted] at h
    exact absurd h (by simp)
  | some completedAt =>
    rw [hcompleted] at h
    simp only [Option.bind_some] at h
    split at h
    · obtain rfl := Option.some.inj h
      exact ⟨rfl, rfl⟩
    · exact absurd h (by simp)

/-- An alert names the pair of its run. -/
theorem driftAlert_names {run : Uuid × Instant × ReconciliationRunRow} {alert : AlertOut}
    (h : driftAlert pg run = some alert) :
    alert.properties.lookup "lea_id" = some run.2.2.leaId ∧
      alert.properties.lookup "partner" = some run.2.2.partner := by
  rw [driftAlert] at h
  split at h
  · exact absurd h (by simp)
  · obtain rfl := Option.some.inj h
    exact ⟨rfl, rfl⟩

/-- The alerts of a pair come from the latest of its own runs. -/
theorem alertsOf_evaluate (horder : TextOrdered pg.toPostgres) (db : AdminDatabase)
    (now : Instant) (pair : LeaId × String) :
    alertsOf (evaluateReconciliationDrift db pg now) pair
      = ((((runsOf pair db.reconciliationRuns).filterMap (completedRun now)).insertionSort
          (runLe pg)).head?.toList).filterMap (driftAlert pg) := by
  have : Std.Total (runLe pg) := ⟨runLe_total horder⟩
  have : IsTrans _ (runLe pg) := ⟨fun _ _ _ => runLe_trans horder⟩
  have hselect : ∀ runs : List (Uuid × Instant × ReconciliationRunRow),
      alertsOf (runs.filterMap (driftAlert pg)) pair
        = (runs.filter fun r => r.2.2.pair = pair).filterMap (driftAlert pg) := by
    intro runs
    rw [alertsOf, List.filter_filterMap, List.filterMap_filter]
    refine List.filterMap_congr ?_
    intro run _
    cases halert : driftAlert pg run with
    | none => simp
    | some alert =>
      obtain ⟨hlea, hpartner⟩ := driftAlert_names halert
      rw [Option.filter_some, hlea, hpartner]
      simp [ReconciliationRunRow.pair, Prod.ext_iff]
  have hrows : ((Table.rows db.reconciliationRuns).filterMap (completedRun now)).filter
      (fun r => r.2.2.pair = pair)
      = (runsOf pair db.reconciliationRuns).filterMap (completedRun now) := by
    rw [runsOf, List.filter_filterMap, List.filterMap_filter]
    refine List.filterMap_congr ?_
    intro r _
    cases hrun : completedRun now r with
    | none => simp
    | some run =>
      obtain ⟨rfl, -⟩ := completedRun_eq_some hrun
      rw [Option.filter_some]
  rw [evaluateReconciliationDrift_eq, hselect, filter_distinctOn, List.filter_insertionSort, hrows]

/-- A completed run of the window that is later than the others of its pair decides. -/
theorem alertsOf_of_latest (horder : TextOrdered pg.toPostgres) {db : AdminDatabase}
    {now : Instant} (completedAt : Instant) {id : Uuid} {row : ReconciliationRunRow}
    {rest : List (Uuid × ReconciliationRunRow)}
    (hruns : runsOf row.pair db.reconciliationRuns = (id, row) :: rest)
    (hcompleted : row.completedAt = some completedAt)
    (hwindow : now ≤ completedAt + windowHours * microsecondsPerHour)
    (hlatest : ∀ r ∈ rest, ∀ t, r.2.completedAt = some t → t < completedAt) :
    alertsOf (evaluateReconciliationDrift db pg now) row.pair
      = (driftAlert pg (id, completedAt, row)).toList := by
  have hrun : completedRun now (id, row) = some (id, completedAt, row) := by
    rw [completedRun, hcompleted]
    exact if_pos hwindow
  have hfirst : ∀ run ∈ rest.filterMap (completedRun now), runLe pg (id, completedAt, row) run := by
    intro run hmem
    obtain ⟨r, hr, heq⟩ := List.mem_filterMap.mp hmem
    obtain ⟨rfl, ht⟩ := completedRun_eq_some heq
    -- the other runs are of the same pair
    have hpair : run.2.2.pair = row.pair := by
      have hmem' : (run.1, run.2.2) ∈ runsOf row.pair db.reconciliationRuns := by
        rw [hruns]
        exact List.mem_cons_of_mem _ hr
      simpa using List.of_mem_filter hmem'
    refine ⟨?_, fun _ _ => (hlatest _ hr _ ht).le⟩
    show pairLe pg row.pair run.2.2.pair
    rw [hpair]
    exact pairLe_refl horder _
  have : Std.Total (runLe pg) := ⟨runLe_total horder⟩
  have : IsTrans _ (runLe pg) := ⟨fun _ _ _ => runLe_trans horder⟩
  rw [alertsOf_evaluate horder, hruns, List.filterMap_cons_some hrun,
    List.insertionSort_cons_of_forall_rel _ hfirst]
  cases halert : driftAlert pg (id, completedAt, row) with
  | none => simp [halert]
  | some alert => simp [halert]

end Admin

namespace Sweeps

open Admin
open Authorizations (AuthzStore activeAuthorizations)

section

variable {sha : Sha256} {quietMinutes : Int} {turns : Nat → Turn} {pair : LeaId × String}

/-- The reports of a pair. -/
def reportsOf (pair : LeaId × String) (reports : List RunReport) : List RunReport :=
  reports.filter fun report => (report.leaId, report.partner) = pair

/-- The alert a report stands for. -/
def alertOfReport (pg : AdminPostgres) (report : RunReport) : Option AlertOut :=
  driftAlert pg (report.id, report.completedAt, report.row)

variable (sha quietMinutes) in
/-- One turn adds the run it reports. -/
theorem runsOf_reconcile {turn : Turn} (target : LeaId × String) (db : OpsDatabase)
    (hbefore : ∀ db, runsOf pair (turn.before db).reconciliationRuns
      = runsOf pair db.reconciliationRuns)
    (hbetween : ∀ db, runsOf pair (turn.between db).reconciliationRuns
      = runsOf pair db.reconciliationRuns) :
    runsOf pair (reconcile sha quietMinutes turn target db).1.reconciliationRuns
      = ((reportsOf pair (reconcile sha quietMinutes turn target db).2.toOption.toList).map
          fun report => (report.id, report.row)) ++ runsOf pair db.reconciliationRuns := by
  obtain ⟨db₁, hdb₁, hcases⟩ := reconcile_cases sha quietMinutes turn target db
  have hkept : runsOf pair db₁.reconciliationRuns = runsOf pair db.reconciliationRuns := by
    rcases hdb₁ with rfl | rfl
    · exact hbefore db
    · exact (hbetween _).trans (hbefore db)
  rcases hcases with ⟨exc, heq, -⟩ | ⟨report, hverdict, hfree, heq⟩
  · rw [heq, ← hkept]
    rfl
  · obtain ⟨hid, -, -⟩ := verdict_eq_ok hverdict
    rw [heq, ← hkept, ← hid]
    rw [← hid] at hfree
    show (Table.rows (AList.insert report.id report.row db₁.reconciliationRuns)).filter _ = _
    rw [Table.rows_insert_of_lookup_eq_none _ hfree, List.filter_cons]
    by_cases hpair : (report.leaId, report.partner) = pair
    · have hrow : report.row.pair = pair := hpair
      simp [reportsOf, hpair, hrow, runsOf, Except.toOption]
    · have hrow : report.row.pair ≠ pair := hpair
      simp [reportsOf, hpair, hrow, runsOf, Except.toOption]

variable (sha quietMinutes) in
/-- The sweep adds the runs it reports, the last one in front. -/
theorem runsOf_outcomes
    (hbefore : ∀ n db, runsOf pair ((turns n).before db).reconciliationRuns
      = runsOf pair db.reconciliationRuns)
    (hbetween : ∀ n db, runsOf pair ((turns n).between db).reconciliationRuns
      = runsOf pair db.reconciliationRuns)
    (n : Nat) (targets : List (LeaId × String)) (db : OpsDatabase) :
    runsOf pair (outcomes sha quietMinutes turns n targets db).1.reconciliationRuns
      = ((reportsOf pair ((outcomes sha quietMinutes turns n targets db).2.filterMap
          Except.toOption)).reverse.map fun report => (report.id, report.row))
        ++ runsOf pair db.reconciliationRuns := by
  induction targets generalizing n db with
  | nil => rfl
  | cons target targets ih =>
    have hone := runsOf_reconcile sha quietMinutes target db (hbefore n) (hbetween n)
    have hrest := ih (n + 1) (reconcile sha quietMinutes (turns n) target db).1
    rw [hone, ← List.append_assoc, ← List.map_append] at hrest
    refine hrest.trans (congrArg (· ++ _) (congrArg (List.map _) ?_))
    show _ = (reportsOf pair (((reconcile sha quietMinutes (turns n) target db).2 ::
      (outcomes sha quietMinutes turns (n + 1) targets _).2).filterMap Except.toOption)).reverse
    cases (reconcile sha quietMinutes (turns n) target db).2 with
    | error exc => exact List.append_nil _
    | ok report =>
      rw [List.filterMap_cons_some (f := Except.toOption) (b := report) rfl, reportsOf, reportsOf,
        reportsOf]
      by_cases hpair : (report.leaId, report.partner) = pair
      · simp [hpair, Except.toOption]
      · simp [hpair, Except.toOption]

theorem outcome_completedAt {turn : Turn} {target : LeaId × String} {db : OpsDatabase}
    {report : RunReport} (h : (reconcile sha quietMinutes turn target db).2 = .ok report) :
    report.completedAt = turn.completedAt := by
  obtain ⟨db₁, -, ⟨exc, heq, -⟩ | ⟨written, hverdict, -, heq⟩⟩ := reconcile_cases sha
    quietMinutes turn target db
  · rw [heq] at h
    exact absurd h (by simp)
  · rw [heq] at h
    obtain rfl := Except.ok.inj h
    exact (verdict_eq_ok hverdict).2.2

variable (sha quietMinutes) in
/-- A sweep completes its reports in order. -/
theorem outcomes_in_order (hclock : StrictMono fun n => (turns n).completedAt) (n : Nat)
    (targets : List (LeaId × String)) (db : OpsDatabase) :
    (∀ report ∈ (outcomes sha quietMinutes turns n targets db).2.filterMap Except.toOption,
      (turns n).completedAt ≤ report.completedAt) ∧
    ((outcomes sha quietMinutes turns n targets db).2.filterMap Except.toOption).Pairwise
      fun a b => a.completedAt < b.completedAt := by
  induction targets generalizing n db with
  | nil => exact ⟨fun report h => absurd h List.not_mem_nil, List.Pairwise.nil⟩
  | cons target targets ih =>
    obtain ⟨hlater, hsorted⟩ := ih (n + 1) (reconcile sha quietMinutes (turns n) target db).1
    have hnext : (turns n).completedAt < (turns (n + 1)).completedAt := hclock (Nat.lt_succ_self n)
    show (∀ report ∈ ((reconcile sha quietMinutes (turns n) target db).2 ::
      (outcomes sha quietMinutes turns (n + 1) targets _).2).filterMap Except.toOption, _) ∧
      (((reconcile sha quietMinutes (turns n) target db).2 ::
        (outcomes sha quietMinutes turns (n + 1) targets _).2).filterMap _).Pairwise _
    cases houtcome : (reconcile sha quietMinutes (turns n) target db).2 with
    | error exc =>
      rw [List.filterMap_cons_none (by rfl)]
      exact ⟨fun report h => hnext.le.trans (hlater report h), hsorted⟩
    | ok report =>
      have hreport := outcome_completedAt houtcome
      rw [List.filterMap_cons_some (f := Except.toOption) (b := report) rfl]
      refine ⟨?_, List.pairwise_cons.mpr ⟨?_, hsorted⟩⟩
      · intro other hmem
        rcases List.mem_cons.mp hmem with rfl | hmem
        · exact hreport.ge
        · exact hnext.le.trans (hlater other hmem)
      · intro other hmem
        rw [hreport]
        exact hnext.trans_le (hlater other hmem)

end

/-- **A sweep settles the drift alerts.**  Where no other transaction writes a run of the
pair, and no clock goes back, the alerts of a pair after a sweep are those of its last
report: one if it drifted, none if it matched or was skipped.  A pair without a report, a
failed target or none at all, keeps the alerts it had. -/
theorem sweep_settles_alerts (pg : AdminPostgres) (horder : TextOrdered pg.toPostgres)
    (sha : Sha256) (quietMinutes : Int) (authz : AuthzStore) (turns : Nat → Turn)
    (keys : Except ExcText Nat) (db : OpsDatabase) (pair : LeaId × String) (now : Instant)
    (hbefore : ∀ n db, runsOf pair ((turns n).before db).reconciliationRuns
      = runsOf pair db.reconciliationRuns)
    (hbetween : ∀ n db, runsOf pair ((turns n).between db).reconciliationRuns
      = runsOf pair db.reconciliationRuns)
    (hclock : StrictMono fun n => (turns n).completedAt)
    (hlater : ∀ r ∈ runsOf pair db.reconciliationRuns, ∀ t, r.2.completedAt = some t →
      t < (turns 0).completedAt)
    (hwindow : now ≤ (turns 0).completedAt + windowHours * microsecondsPerHour)
    (old new : AdminDatabase) (hold : old.reconciliationRuns = db.reconciliationRuns)
    (hnew : new.reconciliationRuns = (runDailySweep pg.toPostgres sha quietMinutes authz turns
      keys db).1.reconciliationRuns) :
    alertsOf (evaluateReconciliationDrift new pg now) pair
      = match (reportsOf pair (runDailySweep pg.toPostgres sha quietMinutes authz turns keys
          db).2.perLea).getLast? with
        | some report => (alertOfReport pg report).toList
        | none => alertsOf (evaluateReconciliationDrift old pg now) pair := by
  have hswept := runDailySweep_eq pg.toPostgres sha quietMinutes authz turns keys db
  have hper : (runDailySweep pg.toPostgres sha quietMinutes authz turns keys db).2.perLea
      = (outcomes sha quietMinutes turns 0 (activeAuthorizations pg.toPostgres authz)
          db).2.filterMap Except.toOption := by
    rw [hswept]
    exact tally_perLea _ (length_outcomes sha quietMinutes turns 0 _ db)
  have hruns := runsOf_outcomes sha quietMinutes hbefore hbetween 0
    (activeAuthorizations pg.toPostgres authz) db
  obtain ⟨hfrom, hsorted⟩ := outcomes_in_order sha quietMinutes hclock 0
    (activeAuthorizations pg.toPostgres authz) db
  rw [hswept] at hnew
  rw [← hnew, ← hper] at hruns
  rw [← hper] at hfrom hsorted
  cases hlast : (reportsOf pair (runDailySweep pg.toPostgres sha quietMinutes authz turns keys
      db).2.perLea).getLast? with
  | none =>
    -- no run of the pair was written
    rw [List.getLast?_eq_none_iff] at hlast
    rw [hlast] at hruns
    show _ = alertsOf (evaluateReconciliationDrift old pg now) pair
    rw [alertsOf_evaluate horder, alertsOf_evaluate horder, hruns, hold]
    rfl
  | some report =>
    obtain ⟨earlier, hreports⟩ := List.getLast?_eq_some_iff.mp hlast
    have hmem : report ∈ reportsOf pair (runDailySweep pg.toPostgres sha quietMinutes authz turns
        keys db).2.perLea := by
      rw [hreports]
      exact List.mem_append_right _ List.mem_cons_self
    obtain ⟨hin, hpair⟩ := List.mem_filter.mp hmem
    have hrow : report.row.pair = pair := of_decide_eq_true hpair
    have hstart := hfrom report hin
    rw [hreports, List.reverse_append] at hruns
    rw [← hrow]
    rw [← hrow] at hruns
    refine alertsOf_of_latest horder report.completedAt hruns rfl
      (hwindow.trans (Nat.add_le_add_right hstart _)) ?_
    intro r hr t ht
    rcases List.mem_append.mp hr with hr | hr
    · -- an earlier report of the sweep
      obtain ⟨other, hother, rfl⟩ := List.mem_map.mp hr
      obtain rfl := Option.some.inj ht
      have hordered : (earlier ++ [report]).Pairwise fun a b => a.completedAt < b.completedAt := by
        rw [← hreports]
        exact hsorted.filter _
      exact (List.pairwise_append.mp hordered).2.2 other (List.mem_reverse.mp hother) report
        List.mem_cons_self
    · rw [hrow] at hr
      exact (hlater r hr t ht).trans_le hstart

/-- A run of each LEA that found a drift. -/
def driftedRuns : Table Uuid ReconciliationRunRow :=
  let run (leaId : LeaId) : ReconciliationRunRow :=
    { leaId := leaId, partner := "edlink", startedAt := 0, completedAt := some 0
      status := .driftDetected, canonicalRootHash := "c0", partnerRootHash := some "p0" }
  AList.insert "run-2" (run "L2") (AList.insert "run-1" (run "L1") ∅)

def driftedOps : OpsDatabase := { rosteredOps with reconciliationRuns := driftedRuns }

theorem completedAt_driftedRuns :
    ∀ r ∈ Table.rows driftedRuns, ∀ t, r.2.completedAt = some t →
      t < (quietTurn 0).completedAt := by
  intro r hr t ht
  have hzero : ∀ r ∈ Table.rows driftedRuns, r.2.completedAt = some 0 := by decide
  obtain rfl := Option.some.inj ((hzero r hr).symm.trans ht)
  decide

/-- The sweep finds the first LEA in agreement, and its alert goes; the partner fails for the
second, whose alert stays. -/
theorem sweep_settles_alerts_twoLeas :
    let pg := AdminPostgres.reference
    let swept := runDailySweep pg.toPostgres Reconciliation.alexSha 60 twoLeas quietTurn (.ok 0)
      driftedOps
    let alerts (runs : Table Uuid ReconciliationRunRow) (leaId : LeaId) :=
      alertsOf (evaluateReconciliationDrift { reconciliationRuns := runs } pg 9) (leaId, "edlink")
    alerts swept.1.reconciliationRuns "L1" = [] ∧
      alerts swept.1.reconciliationRuns "L2" = alerts driftedRuns "L2" := by
  intro pg swept alerts
  have hclock : StrictMono fun n => (quietTurn n).completedAt := fun n m h => Nat.succ_lt_succ h
  have hsettles (leaId : LeaId) := sweep_settles_alerts pg textOrdered_reference
    Reconciliation.alexSha 60 twoLeas quietTurn (.ok 0) driftedOps (leaId, "edlink") 9
    (fun _ _ => rfl) (fun _ _ => rfl) hclock
    (fun r hr => completedAt_driftedRuns r (List.mem_of_mem_filter hr)) (by decide)
    { reconciliationRuns := driftedRuns } { reconciliationRuns := swept.1.reconciliationRuns }
    rfl rfl
  -- the first LEA has a report, which raises no alert, and the second has none
  have hreports :
      (reportsOf ("L1", "edlink") swept.2.perLea).getLast?.map (alertOfReport pg) = some none ∧
        (reportsOf ("L2", "edlink") swept.2.perLea).getLast?.map (alertOfReport pg) = none := by
    decide +kernel
  constructor
  · obtain ⟨report, hreport, hquiet⟩ := Option.map_eq_some_iff.mp hreports.1
    refine (hsettles "L1").trans ?_
    rw [hreport]
    dsimp only
    rw [hquiet, Option.toList_none]
  · refine (hsettles "L2").trans ?_
    rw [Option.map_eq_none_iff.mp hreports.2]

end Sweeps
