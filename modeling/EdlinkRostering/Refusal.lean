/-
When a revert is refused.

The guard joins the snapshots of the job with the job that superseded them and
looks for one that is no revert.  It does not ask for another job: a page or a bulk
load that wrote one key twice superseded a snapshot of its own and refuses its own
revert.

* `Store.SupersededByOther` — a newer job that is no revert stands on the job;
* `refusal_exact` — the refusal is exact unless the job superseded itself alone;
* `revert_refused_by_itself` — a page that named a student twice.
-/
import EdlinkRostering.DoubleRevert

/-- A snapshot of the job is superseded by another job that is no revert. -/
def Store.SupersededByOther (s : Store) (syncJobId : Uuid) : Prop :=
  ∃ et, ∃ x ∈ (s.roster.snapshots et).rows, x.generationId = syncJobId ∧
    ∃ g job, x.supersededByGenerationId = some g ∧ g ≠ syncJobId ∧
      s.syncJobs.lookup g = some job ∧ job.status ≠ .revert

/-- A snapshot of the job is superseded by the job itself: its page or partner
snapshot named one key more than once. -/
def Store.SupersededByItself (s : Store) (syncJobId : Uuid) : Prop :=
  ∃ et, ∃ x ∈ (s.roster.snapshots et).rows, x.generationId = syncJobId ∧
    x.supersededByGenerationId = some syncJobId

/-- The revert is refused exactly when another job that is no revert stands on the
job, and a refused one leaves everything as it is. -/
def Store.RefusesExactly (pg : Postgres) (s : Store) (run : RevertRun) : Prop :=
  ((∃ et, revert pg run s = .error (.refused run.syncJobId et)) ↔
    s.SupersededByOther run.syncJobId) ∧
  ∀ et, revert pg run s = .error (.refused run.syncJobId et) → s.exec pg (.revert run) = s

section

variable {pg : Postgres} {run : RevertRun} {s : Store} {target : SyncJobRow}

/-- A revert of a job that exists is refused by the first table that has a row for
the guard. -/
theorem revert_refused_iff (htarget : s.syncJobs.lookup run.syncJobId = some target) :
    (∃ et, revert pg run s = .error (.refused run.syncJobId et)) ↔
      ∃ et, s.supersededByNewerSync run.syncJobId et = true := by
  have hnone : s.refusedBy run.syncJobId = none ↔
      ¬ ∃ et, s.supersededByNewerSync run.syncJobId et = true := by
    rw [Store.refusedBy_eq_none]
    simp
  constructor
  · rintro ⟨et, h⟩
    by_contra hno
    rw [revert, htarget, hnone.mpr hno] at h
    split at h
    · next heq => exact absurd heq (by simp)
    · next target' heq =>
      simp only at h
      split at h <;> exact absurd h (by simp)
  · intro hsome
    cases hr : s.refusedBy run.syncJobId with
    | none => exact absurd hsome (hnone.mp hr)
    | some et =>
      refine ⟨et, ?_⟩
      rw [revert, htarget]
      simp only [hr]

/-- What the guard sees: another job, or the job itself. -/
theorem supersededByNewerSync_iff (hs : s.Generated) (syncJobId : Uuid) :
    (∃ et, s.supersededByNewerSync syncJobId et = true) ↔
      s.SupersededByOther syncJobId ∨ s.SupersededByItself syncJobId := by
  have hrow : ∀ et, s.supersededByNewerSync syncJobId et = true ↔
      ∃ x ∈ (s.roster.snapshots et).rows, x.generationId = syncJobId ∧
        ∃ g job, x.supersededByGenerationId = some g ∧ s.syncJobs.lookup g = some job ∧
          job.status ≠ .revert := by
    intro et
    rw [Store.supersededByNewerSync, List.any_eq_true]
    simp only [Bool.and_eq_true, decide_eq_true_eq, Option.any_eq_true]
    refine exists_congr fun x => and_congr_right fun _ => and_congr_right fun _ => ?_
    constructor
    · rintro ⟨g, hg, job, hj, hstatus⟩
      exact ⟨g, job, hg, hj, hstatus⟩
    · rintro ⟨g, job, hg, hj, hstatus⟩
      exact ⟨g, hg, job, hj, hstatus⟩
  constructor
  · rintro ⟨et, h⟩
    obtain ⟨x, hx, hgen, g, job, hg, hj, hstatus⟩ := (hrow et).mp h
    by_cases hself : g = syncJobId
    · subst hself
      exact Or.inr ⟨et, x, hx, hgen, hg⟩
    · exact Or.inl ⟨et, x, hx, hgen, g, job, hg, hself, hj, hstatus⟩
  · rintro (⟨et, x, hx, hgen, g, job, hg, -, hj, hstatus⟩ | ⟨et, x, hx, hgen, hg⟩)
    · exact ⟨et, (hrow et).mpr ⟨x, hx, hgen, g, job, hg, hj, hstatus⟩⟩
    · -- the job has snapshots, so it is no revert
      obtain ⟨job, hj, hstatus⟩ := hs et syncJobId (Roster.mem_generations.mpr ⟨x, hx, hgen⟩)
      exact ⟨et, (hrow et).mpr ⟨x, hx, hgen, syncJobId, job, hg, hj, hstatus⟩⟩

end

/-- **The refusal is exact** precisely when the job has not superseded itself, or a
newer job stands on it anyway. -/
theorem refusal_exact (pg : Postgres) (ops : List Op) (run : RevertRun) (target : SyncJobRow) :
    let s := Runs.run (Store.exec pg) Store.empty ops
    s.syncJobs.lookup run.syncJobId = some target →
      (s.RefusesExactly pg run ↔
        (s.SupersededByItself run.syncJobId → s.SupersededByOther run.syncJobId)) := by
  intro s htarget
  have hs : s.Generated := Store.generated_run pg ops
  have hrefused : (∃ et, revert pg run s = .error (.refused run.syncJobId et)) ↔
      s.SupersededByOther run.syncJobId ∨ s.SupersededByItself run.syncJobId :=
    (revert_refused_iff htarget).trans (supersededByNewerSync_iff hs _)
  have hkeeps : ∀ et, revert pg run s = .error (.refused run.syncJobId et) →
      s.exec pg (.revert run) = s := by
    intro et h
    rw [Store.exec, h]
    rfl
  rw [Store.RefusesExactly, hrefused]
  constructor
  · rintro ⟨hiff, -⟩ hself
    exact hiff.mp (Or.inr hself)
  · intro himp
    exact ⟨⟨fun h => h.elim id himp, Or.inl⟩, hkeeps⟩

section

open Fixture

/-- A student arrives and moves up a grade on one page. -/
def twiceOnOnePage : List Op :=
  [pageOp "L1" "job-1" [event "L1" "evt_001" (student "L1" "s1" (some "04")),
    event "L1" "evt_002" (student "L1" "s1" (some "05")) .updated]]

def revertTwice : RevertRun where
  syncJobId := "job-1"
  operatorIdentity := "op"
  reason := "bad batch"
  revertGenerationId := "rev-1"
  now := 30

/-- The two events on two pages: the revert of the first is rightly refused. -/
def onceOnTwoPages : List Op :=
  [pageOp "L1" "job-1" [event "L1" "evt_001" (student "L1" "s1" (some "04"))],
    pageOp "L1" "job-2" [event "L1" "evt_002" (student "L1" "s1" (some "05")) .updated]]

theorem refusal_exact_onceOnTwoPages :
    (after onceOnTwoPages).RefusesExactly Postgres.reference revertTwice ↔
      ((after onceOnTwoPages).SupersededByItself "job-1" →
        (after onceOnTwoPages).SupersededByOther "job-1") :=
  refusal_exact Postgres.reference onceOnTwoPages revertTwice _ rfl

/-- Nothing stands on the page, and its revert is refused all the same. -/
theorem revert_refused_by_itself :
    revert Postgres.reference revertTwice (after twiceOnOnePage)
        = .error (.refused "job-1" .student) ∧
      ¬ (after twiceOnOnePage).SupersededByOther "job-1" := by
  refine ⟨rfl, ?_⟩
  rintro ⟨et, x, hx, -, g, job, hg, hne, -⟩
  -- the only marker is the job's own
  have hmarkers : ∀ et, ∀ x ∈ ((after twiceOnOnePage).roster.snapshots et).rows,
      x.supersededByGenerationId = none ∨ x.supersededByGenerationId = some "job-1" := by
    intro et
    cases et <;> decide
  rcases hmarkers et x hx with h | h
  · rw [hg] at h
    exact absurd h (by simp)
  · rw [hg] at h
    exact hne (Option.some.inj h)

end
