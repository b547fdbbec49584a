/-
What a failed job leaves.

A page, a revert and a release are one transaction each, a bulk load is a sequence
of them, and other transactions commit in between.  A `BulkSystem` runs the stages
of any number of bulk loads in any order among the other operations.  A bulk load
that raises keeps what its earlier stages committed; nothing else that fails leaves
anything, and every finished job counts the snapshots it owns.

* `bulkLoad_eq_moves` — `bulkLoad` is the run of its own stages alone;
* `failed_job_leaves_nothing` — what holds of every job of every state;
* `failed_bulk_load_keeps_students` — a bulk load that raises on an enrollment.
-/
import EdlinkRostering.Inversion

/-! ### Snapshots written and superseded -/

namespace Roster

/-- The snapshots of a generation, over the three tables. -/
def written (r : Roster) (g : Uuid) : Nat :=
  (r.generations .student).count g + (r.generations .enrollment).count g
    + (r.generations .lea).count g

/-- The jobs that superseded a row of the table. -/
def marks (r : Roster) (et : EntityType) : List Uuid :=
  (r.snapshots et).rows.filterMap (·.supersededByGenerationId)

theorem mem_marks {r : Roster} {et : EntityType} {g : Uuid} : g ∈ r.marks et ↔
    ∃ row ∈ (r.snapshots et).rows, row.supersededByGenerationId = some g :=
  List.mem_filterMap

theorem written_congr {r r' : Roster} (h : ∀ et, r'.generations et = r.generations et) (g : Uuid) :
    r'.written g = r.written g := by
  rw [written, h, h, h, written]

theorem written_insertSnapshot (r : Roster) (et : EntityType) {row : SnapshotRow} {g : Uuid}
    (hrow : row.generationId = g) : (r.insertSnapshot et row).written g = r.written g + 1 := by
  have hcount : ∀ et', ((r.insertSnapshot et row).generations et').count g
      = (r.generations et').count g + if et' = et then 1 else 0 := by
    intro et'
    rw [generations_insertSnapshot, List.count_append, hrow]
    split <;> simp
  rw [written, hcount, hcount, hcount, written]
  cases et <;> simp <;> omega

/-- Another generation keeps its snapshots. -/
theorem Grows.written {g g' : Uuid} {r r' : Roster} (h : r.Grows g r') (hne : g' ≠ g) :
    r'.written g' = r.written g' := by
  rw [Roster.written, h.count hne, h.count hne, h.count hne, Roster.written]

/-- The markers set on the way are of one job. -/
def Marks (g : Uuid) (r r' : Roster) : Prop :=
  ∀ et, ∀ g' ∈ r'.marks et, g' ∈ r.marks et ∨ g' = g

namespace Marks

variable {g : Uuid} {r r₁ r₂ : Roster}

theorem of_snapshots (h : r₁.snapshots = r.snapshots) : r.Marks g r₁ := by
  intro et g' hm
  rw [marks, h] at hm
  exact Or.inl hm

theorem trans (h : r.Marks g r₁) (h' : r₁.Marks g r₂) : r.Marks g r₂ := by
  intro et g' hm
  rcases h' et g' hm with hm | rfl
  · exact h et g' hm
  · exact Or.inr rfl

theorem supersede (r : Roster) (et : EntityType) (l : LeaId) (k : String) (i : Instant) :
    r.Marks g (r.supersede et l k g i) := by
  intro et' g' hm
  obtain ⟨row, hrow, hg⟩ := mem_marks.mp hm
  obtain ⟨old, hold, rfl⟩ := mem_supersede.mp hrow
  split at hg
  · exact Or.inr (Option.some.inj hg).symm
  · exact Or.inl (mem_marks.mpr ⟨old, hold, hg⟩)

theorem setSuperseded (r : Roster) (et : EntityType) (id : Nat) {g' : Option Uuid}
    (hg' : g' = none ∨ g' = some g) (i : Option Instant) :
    r.Marks g (r.setSuperseded et id g' i) := by
  intro et' g'' hm
  obtain ⟨row, hrow, hg⟩ := mem_marks.mp hm
  obtain ⟨old, hold, rfl⟩ := mem_setSuperseded.mp hrow
  split at hg
  · rw [show (old.mark g' i).supersededByGenerationId = g' from rfl] at hg
    rcases hg' with rfl | rfl
    · exact absurd hg (by simp)
    · exact Or.inr (Option.some.inj hg).symm
  · exact Or.inl (mem_marks.mpr ⟨old, hold, hg⟩)

theorem insertSnapshot (r : Roster) (et : EntityType) {row : SnapshotRow}
    (hlive : row.supersededByGenerationId = none) : r.Marks g (r.insertSnapshot et row) := by
  intro et' g' hm
  obtain ⟨x, hx, hg⟩ := mem_marks.mp hm
  rcases mem_insertSnapshot.mp hx with hx | ⟨rfl, rfl⟩
  · exact Or.inl (mem_marks.mpr ⟨x, hx, hg⟩)
  · rw [SnapshotRow.stored_supersededByGenerationId, hlive] at hg
    exact absurd hg (by simp)

theorem rewind (r : Roster) (run : RevertRun) (et : EntityType) (row : SnapshotRow)
    (prior : Option SnapshotRow) : r.Marks run.revertGenerationId (r.rewind run et row prior) := by
  cases prior with
  | none => exact setSuperseded r et _ (Or.inr rfl) _
  | some prior =>
    have hprior : r.Marks run.revertGenerationId (r.setSuperseded et prior.snapshotId none none) :=
      setSuperseded r et _ (Or.inl rfl) _
    exact hprior.trans (setSuperseded _ et _ (Or.inr rfl) _)

end Marks

end Roster

/-! ### What the loops count -/

section

variable {pg : Postgres} {leaId : LeaId} {syncJobId : Uuid} {now : Instant}

/-- A snapshot is pushed under the job: one more, and marked by the job alone. -/
theorem written_push (r : Roster) (et : EntityType) (leaId : LeaId) (k : String) (now : Instant)
    {row : SnapshotRow} (hg : row.generationId = syncJobId)
    (hlive : row.supersededByGenerationId = none) :
    ((r.supersede et leaId k syncJobId now).insertSnapshot et row).written syncJobId
        = r.written syncJobId + 1 ∧
      r.Marks syncJobId ((r.supersede et leaId k syncJobId now).insertSnapshot et row) := by
  constructor
  · rw [Roster.written_insertSnapshot _ et hg]
    have hsame : (r.supersede et leaId k syncJobId now).written syncJobId = r.written syncJobId :=
      Roster.written_congr (fun et' => Roster.generations_supersede r et et' leaId k _ _) _
    omega
  · exact (Roster.Marks.supersede r et leaId k now).trans (.insertSnapshot _ et hlive)

/-- An accepted event writes one snapshot, unless it is deduplicated. -/
theorem applyEvent_written {r r' : Roster} {event : NormalizedEvent} {changed : Bool}
    (h : applyEvent pg leaId syncJobId now r event = some (r', changed)) :
    r'.written syncJobId = r.written syncJobId + (if changed then 1 else 0) ∧
      r.Marks syncJobId r' := by
  rcases applyEvent_eq_some.mp h with ⟨-, rfl, rfl⟩ | ⟨-, rfl, row, -, hu⟩
  · exact ⟨rfl, .of_snapshots rfl⟩
  · obtain ⟨-, rfl⟩ := Roster.upsert_eq_some.mp hu
    obtain ⟨hw, hm⟩ := written_push r event.entityType leaId event.naturalKey now
      (show (event.snapshotRow leaId syncJobId now).generationId = syncJobId from rfl) rfl
    have hset : ∀ x : Roster, (x.setCanonical event.naturalKey row).snapshots = x.snapshots :=
      fun x => Roster.snapshots_setCanonical x _ _
    refine ⟨?_, hm.trans (.of_snapshots (hset _))⟩
    exact (Roster.written_congr (fun et => Roster.generations_congr (hset _) et) _).trans hw

/-- The event loop counts the snapshots it writes. -/
theorem processEvents_written {report : ValidationReport} {events : List NormalizedEvent}
    {s s' : Store} {counts : PageCounts}
    (h : processEvents pg leaId syncJobId now report events s = some (s', counts)) :
    s'.roster.written syncJobId = s.roster.written syncJobId + counts.applied ∧
      s.roster.Marks syncJobId s'.roster := by
  refine Runs.foldlM_invariant
    (I := fun acc : Store × PageCounts =>
      acc.1.roster.written syncJobId = s.roster.written syncJobId + acc.2.applied ∧
        s.roster.Marks syncJobId acc.1.roster)
    (fun event _ acc acc' hacc hturn => ?_) ⟨rfl, .of_snapshots rfl⟩ h
  obtain ⟨s₁, counts₁⟩ := acc
  have hw : s₁.roster.written syncJobId = s.roster.written syncJobId + counts₁.applied := hacc.1
  have hm : s.roster.Marks syncJobId s₁.roster := hacc.2
  simp only [processEvent] at hturn
  split at hturn
  · rw [← Option.some.inj hturn]
    exact ⟨hw, hm⟩
  · split at hturn
    · rw [← Option.some.inj hturn]
      exact ⟨hw, hm⟩
    · rw [Option.bind_eq_bind, Option.bind_eq_some_iff] at hturn
      obtain ⟨⟨r, changed⟩, ha, hturn⟩ := hturn
      obtain ⟨hw', hm'⟩ := applyEvent_written ha
      rw [← Option.some.inj hturn]
      refine ⟨?_, hm.trans hm'⟩
      cases changed with
      | true =>
        show r.written syncJobId = s.roster.written syncJobId + (counts₁.applied + 1)
        rw [if_pos rfl] at hw'
        omega
      | false =>
        show r.written syncJobId = s.roster.written syncJobId + counts₁.applied
        rw [if_neg Bool.false_ne_true] at hw'
        omega

/-- So does `_apply_entity_type`. -/
theorem applyEntityType_written {entries : List PartnerEntry} {r r' : Roster} {n : Nat}
    (h : applyEntityType pg leaId syncJobId now entries r = some (r', n)) :
    r'.written syncJobId = r.written syncJobId + n ∧ r.Marks syncJobId r' ∧
      r.Grows syncJobId r' ∧ (n = 0 → r' = r) := by
  refine Runs.foldlM_invariant
    (I := fun acc : Roster × Nat => acc.1.written syncJobId = r.written syncJobId + acc.2 ∧
      r.Marks syncJobId acc.1 ∧ r.Grows syncJobId acc.1 ∧ (acc.2 = 0 → acc.1 = r))
    (fun entry _ acc acc' hacc hturn => ?_)
    ⟨rfl, .of_snapshots rfl, .of_eq fun _ => rfl, fun _ => rfl⟩ h
  obtain ⟨r₁, n₁⟩ := acc
  obtain ⟨hw, hm, hgrows, hz⟩ := hacc
  replace hw : r₁.written syncJobId = r.written syncJobId + n₁ := hw
  simp only [applyEntryCounted, Option.bind_eq_bind, Option.bind_eq_some_iff] at hturn
  obtain ⟨⟨r₂, changed⟩, hentry, hturn⟩ := hturn
  rw [← Option.some.inj hturn]
  obtain ⟨k, -, ⟨-, rfl, rfl⟩ | ⟨-, rfl, row, -, hu⟩⟩ := applyEntry_eq_some.mp hentry
  · exact ⟨hw, hm, hgrows, hz⟩
  · obtain ⟨-, rfl⟩ := Roster.upsert_eq_some.mp hu
    obtain ⟨hw', hm'⟩ := written_push r₁ entry.entityType leaId k now
      (show (entry.snapshotRow leaId k syncJobId now).generationId = syncJobId from rfl) rfl
    have hset : ∀ x : Roster, (x.setCanonical k row).snapshots = x.snapshots :=
      fun x => Roster.snapshots_setCanonical x _ _
    have hpush : r.Grows syncJobId (r₁.pushEntry leaId k entry syncJobId now) :=
      (hgrows.congr fun et => Roster.generations_supersede _ _ _ _ _ _ _).insertSnapshot _ rfl
    refine ⟨?_, hm.trans (hm'.trans (.of_snapshots (hset _))),
      hpush.congr fun et => Roster.generations_congr (hset _) et, fun h => ?_⟩
    · rw [Roster.written_congr (fun et => Roster.generations_congr (hset _) et)]
      show _ = r.written syncJobId + (n₁ + 1)
      have hone : (r₁.pushEntry leaId k entry syncJobId now).written syncJobId
        = r₁.written syncJobId + 1 := hw'
      omega
    · exact absurd h (Nat.succ_ne_zero n₁)

end

/-! ### One transaction -/

/-- The job is over: `running` and `bulk_load` are the states of one at work. -/
def SyncJobRow.Terminal (job : SyncJobRow) : Prop :=
  job.status ≠ .running ∧ job.status ≠ .bulkLoad

/-- A transaction of the job `g`: no other job is touched, snapshots are inserted and
superseded under `g` only. -/
structure Store.ChangesOnly (g : Uuid) (s s' : Store) : Prop where
  others : ∀ id, id ≠ g → s'.syncJobs.lookup id = s.syncJobs.lookup id
  known : s'.Known g
  roster : s.roster.Grows g s'.roster
  marks : s.roster.Marks g s'.roster

/-- The job `g` was inserted, counts what it wrote, and has failed only if nothing but
the job changed. -/
structure Store.Finishes (g : Uuid) (s s' : Store) (job : SyncJobRow) : Prop where
  fresh : s.syncJobs.lookup g = none
  inserted : s'.syncJobs.lookup g = some job
  counted : s'.roster.written g = s.roster.written g + job.eventCount
  failed : job.status = .failed → s'.roster = s.roster ∧ s'.cursorState = s.cursorState

section

variable {pg : Postgres} {s s' : Store}

theorem finishes_page {run : PageRun} {outcome : PageOutcome}
    (h : processOnePage pg run s = some (s', outcome)) :
    s.ChangesOnly run.syncJobId s' ∧ ∃ job, s.Finishes run.syncJobId s' job := by
  have hcommits : run.Commits pg s s' := (processOnePage_eq_some h).1
  have hgrows := grows_page hcommits
  simp only [processOnePage, Option.bind_eq_bind, Option.bind_eq_some_iff] at h
  obtain ⟨s₀, hstart, h⟩ := h
  obtain ⟨-, hr₀, -, hc₀, hj₀, -, -⟩ := PageRun.start_eq_some hstart
  split at h
  · next hb =>
    have hb : run.blocked s = true := hb
    obtain ⟨rfl, -⟩ := Prod.mk.inj (Option.some.inj h)
    obtain ⟨hr, -, hc⟩ := hcommits.blocked hb
    refine ⟨⟨hgrows.others, hgrows.known.1, hgrows.roster, .of_snapshots (by rw [hr])⟩, ?_⟩
    obtain ⟨job, hj, -⟩ := hcommits.job
    refine ⟨job, hcommits.fresh, hj, ?_, fun _ => ⟨hr, hc⟩⟩
    have hcount : job.eventCount = 0 := by
      rw [PageRun.fail, Store.updateSyncJob, Table.lookup_modify, if_pos rfl, hj₀,
        Table.lookup_insert_eq, if_pos rfl] at hj
      rw [← Option.some.inj hj]
      rfl
    rw [hr]
    omega
  · next hb =>
    rw [Option.bind_eq_some_iff] at h
    obtain ⟨⟨s₁, counts⟩, h₁, h⟩ := h
    obtain ⟨rfl, -⟩ := Prod.mk.inj (Option.some.inj h)
    obtain ⟨hw, hm⟩ := processEvents_written h₁
    have hensure : (ensureLeaExists s₀ run.leaId).roster.snapshots = s.roster.snapshots := by
      show (s₀.roster.ensureLeaExists run.leaId).snapshots = s.roster.snapshots
      rw [Roster.snapshots_ensureLeaExists, hr₀]
    refine ⟨⟨hgrows.others, hgrows.known.1, hgrows.roster, Roster.Marks.trans
      (.of_snapshots hensure) hm⟩, ?_⟩
    have hj₁ : s₁.syncJobs = s.syncJobs.insert run.syncJobId (run.runningJob s) :=
      (processEvents_eq_some h₁).2.2.syncJobs.trans hj₀
    obtain ⟨job, hj, -, -, hstatus, -⟩ := hcommits.job
    refine ⟨job, hcommits.fresh, hj, ?_, fun hfailed => ?_⟩
    · have hcount : job.eventCount = counts.applied := by
        simp only [PageRun.finish, upsertCursorState, Store.updateSyncJob] at hj
        rw [Table.lookup_modify, if_pos rfl, hj₁, Table.lookup_insert_eq, if_pos rfl] at hj
        rw [← Option.some.inj hj]
      have hsame : (ensureLeaExists s₀ run.leaId).roster.written run.syncJobId
          = s.roster.written run.syncJobId :=
        Roster.written_congr (fun et => Roster.generations_congr hensure et) _
      show s₁.roster.written run.syncJobId = s.roster.written run.syncJobId + job.eventCount
      omega
    · have hb : run.blocked s = false := Bool.eq_false_iff.mpr hb
      rw [hb] at hstatus
      exact absurd (hstatus.symm.trans hfailed) (by simp)

theorem finishes_revert {run : RevertRun} {outcome : RevertOutcome}
    (h : Reverts pg run s s' outcome) :
    s.ChangesOnly run.revertGenerationId s' ∧ ∃ job, s.Finishes run.revertGenerationId s' job := by
  have hgrows := grows_revert h
  obtain ⟨target, -, hjobs⟩ := h.target
  obtain ⟨counts, htables, -⟩ := h.roster
  have hmarks : s.roster.Marks run.revertGenerationId s'.roster := by
    refine revertTables_induction
      (P := fun r _ => s.roster.Marks run.revertGenerationId r) ?_ (.of_snapshots rfl) htables
    intro et r counts r' counts' row hr _ _ _ hstep
    have hturn := (revertRow_eq_some hstep).1
    exact hr.trans ((Roster.Marks.rewind r run et row _).trans (.of_snapshots hturn))
  refine ⟨⟨hgrows.others, hgrows.known.1, hgrows.roster, hmarks⟩, run.job target, h.fresh, ?_, ?_,
    fun hfailed => ?_⟩
  · rw [hjobs, Table.lookup_insert_eq, if_pos rfl]
  · exact Roster.written_congr (fun et => revertTables_generations htables et) _
  · exact absurd hfailed (by simp [RevertRun.job])

theorem finishes_release {run : ReleaseRun} (h : Releases run s s') :
    s.ChangesOnly run.releaseGenerationId s' ∧
      ∃ job, s.Finishes run.releaseGenerationId s' job := by
  have hgrows := grows_release h
  obtain ⟨row, payload, studentId, snapshot, id, enrollment, -, -, -, -, -, -, hsnap, -, hu,
    hjobs⟩ := h.released
  obtain ⟨-, hr'⟩ := Roster.upsert_eq_some.mp hu
  have hset : s'.roster.snapshots = (s.roster.insertSnapshot .enrollment snapshot).snapshots := by
    rw [hr', Roster.snapshots_setCanonical]
  have hsnap := snapshotRow_eq_some hsnap
  refine ⟨⟨hgrows.others, hgrows.known.1, hgrows.roster, ?_⟩, run.job row.leaId, h.fresh, ?_, ?_,
    fun hfailed => ?_⟩
  · have hlive : snapshot.supersededByGenerationId = none := by
      obtain ⟨-, -, -, hlive, -⟩ := hsnap
      exact hlive
    exact (Roster.Marks.insertSnapshot _ _ hlive).trans (.of_snapshots hset)
  · rw [hjobs, Table.lookup_insert_eq, if_pos rfl]
  · rw [Roster.written_congr (fun et => Roster.generations_congr hset et)]
    exact Roster.written_insertSnapshot _ _ hsnap.2.2.1
  · exact absurd hfailed (by simp [ReleaseRun.job])

end

/-! ### Bulk loads among the other operations -/

/-- A bulk load past its job row: the stages it has left, and the snapshots its
stages wrote. -/
structure Load where
  run : BulkRun
  rest : List BulkStage
  students : Nat := 0
  enrollments : Nat := 0

/-- The next stage, a transaction of its own.  One that raises leaves nothing and
sends the load to `_mark_sync_job_failed`. -/
def Load.advance (pg : Postgres) (load : Load) (s : Store) : Store × Load :=
  match load.rest with
  | [] => (s, load)
  | .markFailed :: _ => (load.run.markFailed s, { load with rest := [] })
  | stage :: rest =>
    let failing : Store × Load := (s, { load with rest := [.markFailed] })
    if load.run.raises stage then failing
    else match load.run.stage pg
        { store := s, students := load.students, enrollments := load.enrollments } stage with
      | none => failing
      | some p => (p.store,
          { load with rest := rest, students := p.students, enrollments := p.enrollments })

/-- The database, and every bulk load that got as far as its job. -/
structure BulkSystem where
  store : Store
  loads : List Load

/-- The operations that are one transaction. -/
def Op.oneTransaction : Op → Bool
  | .bulkLoad _ => false
  | _ => true

inductive BulkMove where
  | commit (op : Op) (single : op.oneTransaction = true)
  | startLoad (run : BulkRun)
  | advanceLoad (load : Nat)

namespace BulkSystem

def start : BulkSystem := { store := Store.empty, loads := [] }

def step (pg : Postgres) (c : BulkSystem) : BulkMove → BulkSystem
  | .commit op _ => { c with store := c.store.exec pg op }
  | .startLoad run =>
    if run.raises .insertJob then c
    else match c.store.insertSyncJob run.syncJobId run.job with
      | none => c
      | some s => { store := s, loads := c.loads ++ [{ run := run, rest := bulkStages }] }
  | .advanceLoad i =>
    match c.loads[i]? with
    | none => c
    | some load =>
      let (s, load) := load.advance pg c.store
      { store := s, loads := c.loads.set i load }

/-- The jobs of the bulk loads. -/
def loadIds (c : BulkSystem) : List Uuid := c.loads.map (·.run.syncJobId)

end BulkSystem

theorem Load.advance_cons {pg : Postgres} {load : Load} {s : Store} {stage : BulkStage}
    {rest : List BulkStage} (hne : stage ≠ .markFailed) (hload : load.rest = stage :: rest) :
    load.advance pg s
      = if load.run.raises stage then (s, { load with rest := [.markFailed] })
        else match load.run.stage pg
            { store := s, students := load.students, enrollments := load.enrollments } stage with
          | none => (s, { load with rest := [.markFailed] })
          | some p => (p.store, { load with
              rest := rest, students := p.students, enrollments := p.enrollments }) := by
  rw [Load.advance, hload]
  cases stage <;> first | rfl | exact absurd rfl hne

/-- The run of one load alone, from the stages it has left. -/
theorem run_advance (pg : Postgres) (run : BulkRun) : ∀ (rest : List BulkStage) (p : BulkProgress),
    .markFailed ∉ rest →
    (Runs.run (BulkSystem.step pg)
      { store := p.store
        loads := [
          { run := run, rest := rest, students := p.students, enrollments := p.enrollments }] }
      (List.replicate (rest.length + 1) (.advanceLoad 0))).store
      = match runStages pg run rest p with
        | (p, false) => run.markFailed p.store
        | (p, true) => p.store
  | [], p, _ => rfl
  | stage :: rest, p, hrest => by
    have hne : stage ≠ .markFailed := fun h => hrest (h ▸ List.mem_cons_self)
    have hrest' : .markFailed ∉ rest := fun h => hrest (List.mem_cons_of_mem _ h)
    -- once the load has failed, one more move ends it
    have hidle : ∀ (n : Nat) (s : Store) (load : Load), load.rest = [] →
        (Runs.run (BulkSystem.step pg) { store := s, loads := [load] }
          (List.replicate n (.advanceLoad 0))).store = s := by
      intro n s load hload
      induction n with
      | zero => rfl
      | succ n ih =>
        rw [List.replicate_succ, Runs.run_cons]
        have hstep : BulkSystem.step pg { store := s, loads := [load] } (.advanceLoad 0)
            = { store := s, loads := [load] } := by
          simp [BulkSystem.step, Load.advance, hload]
        rw [hstep]
        exact ih
    have hfailing : ∀ load : Load, load.run = run → load.rest = [.markFailed] →
        (Runs.run (BulkSystem.step pg) { store := p.store, loads := [load] }
          (List.replicate (rest.length + 1) (.advanceLoad 0))).store = run.markFailed p.store := by
      intro load hrun hload
      rw [List.replicate_succ, Runs.run_cons]
      have hstep : BulkSystem.step pg { store := p.store, loads := [load] } (.advanceLoad 0)
          = { store := run.markFailed p.store, loads := [{ load with rest := [] }] } := by
        simp [BulkSystem.step, Load.advance, hload, hrun]
      rw [hstep]
      exact hidle _ _ _ rfl
    rw [List.length_cons, List.replicate_succ, Runs.run_cons, runStages]
    simp only [BulkSystem.step, List.getElem?_cons_zero, List.set_cons_zero]
    rw [Load.advance_cons hne rfl]
    split
    · exact hfailing _ rfl rfl
    · cases hstage : run.stage pg p stage with
      | none => exact hfailing _ rfl rfl
      | some p' => exact run_advance pg run rest p' hrest'

/-- **A bulk load is the run of its stages**, undisturbed. -/
theorem bulkLoad_eq_moves (pg : Postgres) (run : BulkRun) (s : Store) :
    (Runs.run (BulkSystem.step pg) { store := s, loads := [] }
      (.startLoad run :: List.replicate (bulkStages.length + 1) (.advanceLoad 0))).store
      = (bulkLoad pg run s).1 := by
  rw [Runs.run_cons, bulkLoad, BulkSystem.step]
  have hidle : ∀ n, (Runs.run (BulkSystem.step pg) { store := s, loads := [] }
      (List.replicate n (.advanceLoad 0))).store = s := by
    intro n
    induction n with
    | zero => rfl
    | succ n ih => exact ih
  split
  · exact hidle _
  · cases s.insertSyncJob run.syncJobId run.job with
    | none => exact hidle _
    | some s₀ =>
      have hrun := run_advance pg run bulkStages { store := s₀ } (by decide)
      refine hrun.trans ?_
      split <;> next h => simp only [h]

/-- What a stage of `bulkStages` may be followed by. -/
theorem bulkStages_cons {stage : BulkStage} {rest : List BulkStage}
    (h : stage :: rest <:+ bulkStages) : stage ≠ .markFailed ∧ stage ∉ rest ∧
      (stage = .markSuccess → rest = []) := by
  simp only [bulkStages, List.suffix_cons_iff, List.suffix_nil, List.cons.injEq, reduceCtorEq,
    or_false] at h
  rcases h with ⟨rfl, rfl⟩ | ⟨rfl, rfl⟩ | ⟨rfl, rfl⟩ | ⟨rfl, rfl⟩ | ⟨rfl, rfl⟩ | ⟨rfl, rfl⟩ |
    ⟨rfl, rfl⟩ <;> decide

theorem Store.lookup_updateSyncJob {s : Store} {id : Uuid} {job : SyncJobRow}
    (f : SyncJobRow → SyncJobRow) (hj : s.syncJobs.lookup id = some job) :
    (s.updateSyncJob id f).syncJobs.lookup id = some (f job) := by
  rw [updateSyncJob, Table.lookup_modify, if_pos rfl, hj, Option.map_some]

/-- What a stage does to the job of its load. -/
theorem stage_job {pg : Postgres} {run : BulkRun} {p p' : BulkProgress} {stage : BulkStage}
    (h : run.stage pg p stage = some p') {job : SyncJobRow}
    (hj : p.store.syncJobs.lookup run.syncJobId = some job) :
    ∃ job', p'.store.syncJobs.lookup run.syncJobId = some job' ∧
      ((stage ≠ .markSuccess ∧ job' = job) ∨ (stage = .markSuccess ∧ job'.status = .success ∧
        job'.eventCount = p'.students + p'.enrollments)) := by
  cases stage with
  | markSuccess =>
    obtain rfl := Option.some.inj h
    exact ⟨_, Store.lookup_updateSyncJob _ hj, Or.inr ⟨rfl, rfl, rfl⟩⟩
  | students | enrollments =>
    simp only [BulkRun.stage, Option.bind_eq_bind, Option.bind_eq_some_iff] at h
    obtain ⟨_, -, h⟩ := h
    obtain rfl := Option.some.inj h
    exact ⟨job, hj, Or.inl ⟨by simp, rfl⟩⟩
  | _ =>
    obtain rfl := Option.some.inj h
    exact ⟨job, hj, Or.inl ⟨by simp, rfl⟩⟩

/-- What a stage does to the snapshots and to the counts. -/
theorem stage_written {pg : Postgres} {run : BulkRun} {p p' : BulkProgress} {stage : BulkStage}
    (h : run.stage pg p stage = some p') (hknown : p.store.Known run.syncJobId)
    (hstudents : stage = .students → p.students = 0)
    (henrollments : stage = .enrollments → p.enrollments = 0) :
    p.store.ChangesOnly run.syncJobId p'.store ∧
      p'.store.roster.written run.syncJobId + (p.students + p.enrollments)
        = p.store.roster.written run.syncJobId + (p'.students + p'.enrollments) ∧
      (p'.students + p'.enrollments = 0 → p.students + p.enrollments = 0 ∧
        p'.store.roster.snapshots = p.store.roster.snapshots) ∧
      (stage ≠ .students → p'.students = p.students) ∧
      (stage ≠ .enrollments → p'.enrollments = p.enrollments) := by
  have hframe : run.Frame p.store p'.store := .stage h
  have hknown' : p'.store.Known run.syncJobId := by
    obtain ⟨job, hj⟩ := Option.ne_none_iff_exists'.mp hknown
    obtain ⟨job', hj', -⟩ := stage_job h hj
    rw [Store.Known, hj']
    exact Option.some_ne_none job'
  -- a stage that writes no snapshot
  have hquiet : p'.store.roster.snapshots = p.store.roster.snapshots →
      p.store.ChangesOnly run.syncJobId p'.store ∧
        p'.store.roster.written run.syncJobId = p.store.roster.written run.syncJobId := by
    intro hsnap
    have hgen : ∀ et, p'.store.roster.generations et = p.store.roster.generations et :=
      fun et => Roster.generations_congr hsnap et
    exact ⟨⟨hframe.syncJobs, hknown', .of_eq hgen, .of_snapshots hsnap⟩,
      Roster.written_congr hgen _⟩
  cases stage with
  | students =>
    simp only [BulkRun.stage, Option.bind_eq_bind, Option.bind_eq_some_iff] at h
    obtain ⟨⟨r, n⟩, ha, h⟩ := h
    obtain rfl := Option.some.inj h
    obtain ⟨hw, hm, hgrows, hz⟩ := applyEntityType_written ha
    have hzero := hstudents rfl
    refine ⟨⟨hframe.syncJobs, hknown', hgrows, hm⟩, ?_, fun hsum => ?_, fun h => absurd rfl h,
      fun _ => rfl⟩
    · show r.written run.syncJobId + (p.students + p.enrollments)
        = p.store.roster.written run.syncJobId + (n + p.enrollments)
      omega
    · have hsum : n + p.enrollments = 0 := hsum
      have hr := hz (by omega)
      exact ⟨by omega, congrArg Roster.snapshots hr⟩
  | enrollments =>
    simp only [BulkRun.stage, Option.bind_eq_bind, Option.bind_eq_some_iff] at h
    obtain ⟨⟨r, n⟩, ha, h⟩ := h
    obtain rfl := Option.some.inj h
    obtain ⟨hw, hm, hgrows, hz⟩ := applyEntityType_written ha
    have hzero := henrollments rfl
    refine ⟨⟨hframe.syncJobs, hknown', hgrows, hm⟩, ?_, fun hsum => ?_, fun _ => rfl,
      fun h => absurd rfl h⟩
    · show r.written run.syncJobId + (p.students + p.enrollments)
        = p.store.roster.written run.syncJobId + (p.students + n)
      omega
    · have hsum : p.students + n = 0 := hsum
      have hr := hz (by omega)
      exact ⟨by omega, congrArg Roster.snapshots hr⟩
  | ensureLea =>
    obtain rfl := Option.some.inj h
    have hsnap := Roster.snapshots_ensureLeaExists p.store.roster run.leaId
    obtain ⟨hchange, hw⟩ := hquiet hsnap
    exact ⟨hchange, by rw [hw], fun hsum => ⟨hsum, hsnap⟩, fun _ => rfl, fun _ => rfl⟩
  | _ =>
    obtain rfl := Option.some.inj h
    obtain ⟨hchange, hw⟩ := hquiet rfl
    exact ⟨hchange, by rw [hw], fun hsum => ⟨hsum, rfl⟩, fun _ => rfl, fun _ => rfl⟩

theorem markFailed_job {run : BulkRun} {s : Store} {job : SyncJobRow}
    (hj : s.syncJobs.lookup run.syncJobId = some job) :
    ∃ after, (run.markFailed s).syncJobs.lookup run.syncJobId = some after ∧
      (after = job ∨ after.status = .failed) := by
  rw [BulkRun.markFailed]
  split
  · exact ⟨job, hj, Or.inl rfl⟩
  · exact ⟨_, Store.lookup_updateSyncJob _ hj, Or.inr rfl⟩

/-- **A move of a bulk load**: it is over, a stage fails, a stage is committed, or the
failure is written down. -/
theorem Load.advance_cases (pg : Postgres) (load : Load) (s : Store)
    (h : load.rest <:+ bulkStages ∨ load.rest = [.markFailed]) :
    load.advance pg s = (s, load) ∨
    (load.rest ≠ [] ∧ load.advance pg s = (s, { load with rest := [.markFailed] })) ∨
    (∃ stage rest p, load.rest = stage :: rest ∧ stage :: rest <:+ bulkStages ∧
      load.run.stage pg
        { store := s, students := load.students, enrollments := load.enrollments } stage
          = some p ∧
      load.advance pg s = (p.store, { load with
        rest := rest, students := p.students, enrollments := p.enrollments })) ∨
    (load.rest = [.markFailed] ∧
      load.advance pg s = (load.run.markFailed s, { load with rest := [] })) := by
  rcases h with hsuffix | hmark
  · cases hrest : load.rest with
    | nil => exact Or.inl (by rw [Load.advance, hrest])
    | cons stage rest =>
      rw [hrest] at hsuffix
      have hne : stage :: rest ≠ [] := List.cons_ne_nil _ _
      rw [Load.advance_cons (bulkStages_cons hsuffix).1 hrest]
      split
      · exact Or.inr (Or.inl ⟨hne, rfl⟩)
      · cases hstage : load.run.stage pg
            { store := s, students := load.students, enrollments := load.enrollments } stage with
        | none => exact Or.inr (Or.inl ⟨hne, rfl⟩)
        | some p => exact Or.inr (Or.inr (Or.inl ⟨stage, rest, p, rfl, hsuffix, hstage, rfl⟩))
  · exact Or.inr (Or.inr (Or.inr ⟨hmark, by rw [Load.advance, hmark]⟩))

/-- **An operation that is one transaction** inserts the job it finishes, or leaves jobs and
roster alone. -/
theorem exec_finishes (pg : Postgres) (s : Store) {op : Op} (hop : op.oneTransaction = true) :
    (∃ g, s.ChangesOnly g (s.exec pg op) ∧ ∃ job, s.Finishes g (s.exec pg op) job) ∨
    ((s.exec pg op).syncJobs = s.syncJobs ∧ (s.exec pg op).roster = s.roster) := by
  rcases s.exec_cases pg op with he | he
  · rw [he]
    exact Or.inr ⟨rfl, rfl⟩
  cases op with
  | page run =>
    rw [Store.exec]
    cases hpage : processOnePage pg run s with
    | none => exact Or.inr ⟨rfl, rfl⟩
    | some p => exact Or.inl ⟨_, finishes_page hpage⟩
  | bulkLoad run => exact absurd hop (by simp [Op.oneTransaction])
  | revert run =>
    obtain ⟨outcome, he⟩ := he
    exact Or.inl ⟨_, finishes_revert he⟩
  | release run => exact Or.inl ⟨_, finishes_release he⟩
  | reject run =>
    obtain ⟨row, -, -, he⟩ := he
    rw [he]
    exact Or.inr ⟨rfl, rfl⟩
  | retry run =>
    obtain ⟨target, -, -, he⟩ := he
    rw [he]
    exact Or.inr ⟨rfl, rfl⟩

/-! ### What holds in every state -/

namespace BulkSystem

/-- What a finished job says of its snapshots. -/
structure Settles (c : BulkSystem) (id : Uuid) (job : SyncJobRow) : Prop where
  /-- `event_count` is right, except for a bulk load that failed. -/
  counted : (job.status = .failed → id ∉ c.loadIds) →
    job.eventCount = c.store.roster.written id
  /-- A failed job owns nothing, unless it is a bulk load. -/
  owns : job.status = .failed → id ∉ c.loadIds → c.store.roster.written id = 0
  /-- A failed job that owns nothing superseded nothing. -/
  superseded : job.status = .failed → c.store.roster.written id = 0 →
    ∀ et, id ∉ c.store.roster.marks et

/-- What holds of a bulk load between two of its transactions. -/
structure Tracks (c : BulkSystem) (load : Load) : Prop where
  job : ∃ job, c.store.syncJobs.lookup load.run.syncJobId = some job ∧
    (load.rest ≠ [] → job.status = .bulkLoad)
  written : c.store.roster.written load.run.syncJobId = load.students + load.enrollments
  marks : load.students + load.enrollments = 0 →
    ∀ et, load.run.syncJobId ∉ c.store.roster.marks et
  rest : load.rest <:+ bulkStages ∨ load.rest = [.markFailed]
  students : .students ∈ load.rest → load.students = 0
  enrollments : .enrollments ∈ load.rest → load.enrollments = 0

/-- The invariant of the system. -/
structure Accounted (c : BulkSystem) : Prop where
  generated : ∀ et, ∀ g ∈ c.store.roster.generations et, c.store.Known g
  marked : ∀ et, ∀ g ∈ c.store.roster.marks et, c.store.Known g
  settled : ∀ id job, c.store.syncJobs.lookup id = some job → job.Terminal → c.Settles id job
  loads : ∀ load ∈ c.loads, c.Tracks load
  distinct : c.loadIds.Nodup

end BulkSystem

section

variable {pg : Postgres} {c : BulkSystem} {s' : Store} {g : Uuid}

namespace Store.ChangesOnly

variable {s : Store}

theorem same (hg : s.Known g) : s.ChangesOnly g s :=
  ⟨fun _ _ => rfl, hg, .of_eq fun _ => rfl, .of_snapshots rfl⟩

theorem keepsKnown (h : s.ChangesOnly g s') {id : Uuid} (hid : s.Known id) : s'.Known id := by
  by_cases hne : id = g
  · rw [hne]
    exact h.known
  · rw [Store.Known, h.others id hne]
    exact hid

theorem generated (h : s.ChangesOnly g s')
    (hs : ∀ et, ∀ g ∈ s.roster.generations et, s.Known g) :
    ∀ et, ∀ g ∈ s'.roster.generations et, s'.Known g := by
  intro et g' hm
  rcases h.roster.mem hm with hm | rfl
  · exact h.keepsKnown (hs et g' hm)
  · exact h.known

theorem marked (h : s.ChangesOnly g s') (hs : ∀ et, ∀ g ∈ s.roster.marks et, s.Known g) :
    ∀ et, ∀ g ∈ s'.roster.marks et, s'.Known g := by
  intro et g' hm
  rcases h.marks et g' hm with hm | rfl
  · exact h.keepsKnown (hs et g' hm)
  · exact h.known

/-- Of another job everything stays true. -/
theorem settles (h : s.ChangesOnly g s') {loads loads' : List Load} {id : Uuid} {job : SyncJobRow}
    (hid : id ≠ g)
    (hloads : id ∈ BulkSystem.loadIds ⟨s, loads⟩ ↔ id ∈ BulkSystem.loadIds ⟨s', loads'⟩)
    (hs : BulkSystem.Settles ⟨s, loads⟩ id job) : BulkSystem.Settles ⟨s', loads'⟩ id job := by
  have hw : s'.roster.written id = s.roster.written id := h.roster.written hid
  refine ⟨fun hc => ?_, fun hf hn => ?_, fun hf hz et hm => ?_⟩
  · show job.eventCount = s'.roster.written id
    rw [hw]
    exact hs.counted fun hf hn => hc hf (hloads.mp hn)
  · show s'.roster.written id = 0
    rw [hw]
    exact hs.owns hf fun hn' => hn (hloads.mp hn')
  · rcases h.marks et id hm with hm | rfl
    · exact hs.superseded hf (hw ▸ hz) et hm
    · exact hid rfl

/-- Of another bulk load too. -/
theorem tracks (h : s.ChangesOnly g s') {loads loads' : List Load} {load : Load}
    (hid : load.run.syncJobId ≠ g) (hs : BulkSystem.Tracks ⟨s, loads⟩ load) :
    BulkSystem.Tracks ⟨s', loads'⟩ load := by
  obtain ⟨job, hj, hstatus⟩ := hs.job
  refine ⟨⟨job, (h.others _ hid).trans hj, hstatus⟩, (h.roster.written hid).trans hs.written,
    fun hz et hm => ?_, hs.rest, hs.students, hs.enrollments⟩
  rcases h.marks et _ hm with hm | heq
  · exact hs.marks hz et hm
  · exact hid heq

end Store.ChangesOnly

namespace BulkSystem.Accounted

theorem start : BulkSystem.start.Accounted where
  generated _ _ h := absurd h List.not_mem_nil
  marked _ _ h := absurd h List.not_mem_nil
  settled id job h := absurd (h.symm.trans (AList.lookup_empty id)) (Option.some_ne_none job)
  loads _ h := absurd h List.not_mem_nil
  distinct := List.nodup_nil

/-- A job that does not exist owns nothing and superseded nothing. -/
theorem fresh (h : c.Accounted) (hg : c.store.syncJobs.lookup g = none) :
    c.store.roster.written g = 0 ∧ (∀ et, g ∉ c.store.roster.marks et) ∧ g ∉ c.loadIds := by
  have hunknown : ¬ c.store.Known g := fun hk => hk hg
  have hzero : ∀ et, (c.store.roster.generations et).count g = 0 := by
    intro et
    exact List.count_eq_zero.mpr fun hm => hunknown (h.generated et g hm)
  refine ⟨?_, fun et hm => hunknown (h.marked et g hm), fun hm => ?_⟩
  · rw [Roster.written, hzero, hzero, hzero]
  · obtain ⟨load, hload, rfl⟩ := List.mem_map.mp hm
    obtain ⟨job, hj, -⟩ := (h.loads load hload).job
    rw [hg] at hj
    exact absurd hj (by simp)

/-- A transaction that inserts the job it finishes. -/
theorem commit (h : c.Accounted) (hchange : c.store.ChangesOnly g s') {job : SyncJobRow}
    (hjob : c.store.Finishes g s' job) : BulkSystem.Accounted ⟨s', c.loads⟩ := by
  obtain ⟨hzero, hunmarked, hnew⟩ := h.fresh hjob.fresh
  refine ⟨hchange.generated h.generated, hchange.marked h.marked, fun id job' hj ht => ?_,
    fun load hload => ?_, h.distinct⟩
  · by_cases hid : id = g
    · subst hid
      obtain rfl := Option.some.inj (hjob.inserted.symm.trans hj)
      have hcount := hjob.counted
      refine ⟨fun _ => ?_, fun hf _ => ?_, fun hf _ et hm => ?_⟩
      · show job.eventCount = s'.roster.written id
        omega
      · show s'.roster.written id = 0
        rw [(hjob.failed hf).1]
        exact hzero
      · rw [show (BulkSystem.mk s' c.loads).store.roster = s'.roster from rfl,
          (hjob.failed hf).1] at hm
        exact hunmarked et hm
    · rw [hchange.others id hid] at hj
      exact hchange.settles hid Iff.rfl (h.settled id job' hj ht)
  · have hne : load.run.syncJobId ≠ g := by
      rintro rfl
      exact hnew (List.mem_map_of_mem hload)
    exact hchange.tracks hne (h.loads load hload)

/-- A state with the same jobs and the same roster. -/
theorem congr (h : c.Accounted) (hjobs : s'.syncJobs = c.store.syncJobs)
    (hroster : s'.roster = c.store.roster) : BulkSystem.Accounted ⟨s', c.loads⟩ := by
  have hlookup : ∀ id, s'.syncJobs.lookup id = c.store.syncJobs.lookup id := by
    intro id
    rw [hjobs]
  refine ⟨?_, ?_, fun id job hj ht => ?_, fun load hload => ?_, h.distinct⟩
  · simpa only [Store.Known, hlookup, hroster] using h.generated
  · simpa only [Store.Known, hlookup, hroster] using h.marked
  · obtain ⟨hc, ho, hs⟩ := h.settled id job ((hlookup id).symm.trans hj) ht
    exact ⟨hroster ▸ hc, hroster ▸ ho, hroster ▸ hs⟩
  · obtain ⟨⟨job, hj, hstatus⟩, hw, hm, hrest, hstudents, henrollments⟩ := h.loads load hload
    exact ⟨⟨job, (hlookup _).trans hj, hstatus⟩, hroster ▸ hw, hroster ▸ hm, hrest, hstudents,
      henrollments⟩

/-- Every operation that is one transaction. -/
theorem exec (h : c.Accounted) (op : Op) (hop : op.oneTransaction = true) :
    BulkSystem.Accounted ⟨c.store.exec pg op, c.loads⟩ := by
  rcases exec_finishes pg c.store hop with ⟨g, hchange, job, hjob⟩ | ⟨hjobs, hroster⟩
  · exact h.commit hchange hjob
  · exact h.congr hjobs hroster

/-- A bulk load inserts its job. -/
theorem startLoad (h : c.Accounted) {run : BulkRun}
    (hins : c.store.insertSyncJob run.syncJobId run.job = some s') :
    BulkSystem.Accounted ⟨s', c.loads ++ [{ run := run, rest := bulkStages }]⟩ := by
  obtain ⟨hfresh, rfl⟩ := Store.insertSyncJob_eq_some.mp hins
  obtain ⟨hzero, hunmarked, hnew⟩ := h.fresh hfresh
  have hself : (c.store.syncJobs.insert run.syncJobId run.job).lookup run.syncJobId
      = some run.job := by
    rw [Table.lookup_insert_eq, if_pos rfl]
  have hchange : c.store.ChangesOnly run.syncJobId
      { c.store with syncJobs := c.store.syncJobs.insert run.syncJobId run.job } :=
    ⟨fun id hid => by rw [Table.lookup_insert_eq, if_neg hid],
      fun hnone => Option.some_ne_none _ (hself.symm.trans hnone), .of_eq fun _ => rfl,
      .of_snapshots rfl⟩
  have hids : BulkSystem.loadIds
      ⟨{ c.store with syncJobs := c.store.syncJobs.insert run.syncJobId run.job },
        c.loads ++ [{ run := run, rest := bulkStages }]⟩ = c.loadIds ++ [run.syncJobId] :=
    List.map_append
  refine ⟨hchange.generated h.generated, hchange.marked h.marked, fun id job hj ht => ?_,
    fun load hload => ?_, ?_⟩
  · by_cases hid : id = run.syncJobId
    · subst hid
      obtain rfl := Option.some.inj (hself.symm.trans hj)
      exact absurd rfl ht.2
    · rw [hchange.others id hid] at hj
      refine hchange.settles hid ?_ (h.settled id job hj ht)
      rw [hids, List.mem_append, List.mem_singleton]
      exact ⟨Or.inl, fun h => h.resolve_right hid⟩
  · rcases List.mem_append.mp hload with hload | hload
    · have hne : load.run.syncJobId ≠ run.syncJobId := fun heq =>
        hnew (heq ▸ List.mem_map_of_mem hload)
      exact hchange.tracks hne (h.loads load hload)
    · rw [List.mem_singleton.mp hload]
      exact ⟨⟨run.job, hself, fun _ => rfl⟩, hzero, fun _ => hunmarked, Or.inl List.suffix_rfl,
        fun _ => rfl, fun _ => rfl⟩
  · rw [hids]
    refine List.nodup_append.mpr ⟨h.distinct, List.nodup_singleton _, fun id hid id' hid' => ?_⟩
    rw [List.mem_singleton.mp hid']
    rintro rfl
    exact hnew hid

/-- A move of one bulk load, given what it leaves at its own job. -/
theorem replaceLoad (h : c.Accounted) {i : Nat} {load load' : Load}
    (hi : c.loads[i]? = some load) (hrun : load'.run = load.run)
    (hchange : c.store.ChangesOnly load.run.syncJobId s')
    (hsettles : ∀ job, s'.syncJobs.lookup load.run.syncJobId = some job → job.Terminal →
      (job.status = .success ∧ job.eventCount = s'.roster.written load.run.syncJobId) ∨
      (job.status = .failed ∧ (s'.roster.written load.run.syncJobId = 0 →
        ∀ et, load.run.syncJobId ∉ s'.roster.marks et)))
    (htracks : BulkSystem.Tracks ⟨s', c.loads.set i load'⟩ load') :
    BulkSystem.Accounted ⟨s', c.loads.set i load'⟩ := by
  have hids : BulkSystem.loadIds ⟨s', c.loads.set i load'⟩ = c.loadIds := by
    refine List.ext_getElem? fun j => ?_
    simp only [BulkSystem.loadIds, List.getElem?_map, List.getElem?_set]
    split
    · next hj =>
      subst hj
      have hlt : i < c.loads.length := (List.getElem?_eq_some_iff.mp hi).1
      rw [if_pos hlt, hi, Option.map_some, Option.map_some, hrun]
    · rfl
  refine ⟨hchange.generated h.generated, hchange.marked h.marked, fun id job hj ht => ?_,
    fun other hother => ?_, ?_⟩
  · by_cases hid : id = load.run.syncJobId
    · subst hid
      rcases hsettles job hj ht with ⟨hs, hcount⟩ | ⟨hf, hunmarked⟩
      · exact ⟨fun _ => hcount, fun hf => absurd (hs.symm.trans hf) (by simp),
          fun hf => absurd (hs.symm.trans hf) (by simp)⟩
      · have hin : load.run.syncJobId ∈ BulkSystem.loadIds ⟨s', c.loads.set i load'⟩ := by
          rw [hids]
          exact List.mem_map_of_mem (List.mem_of_getElem? hi)
        exact ⟨fun hc => absurd hin (hc hf), fun _ hn => absurd hin hn, fun _ => hunmarked⟩
    · rw [hchange.others id hid] at hj
      refine hchange.settles hid ?_ (h.settled id job hj ht)
      rw [hids, BulkSystem.loadIds]
  · obtain ⟨j, hj⟩ := List.mem_iff_getElem?.mp hother
    rw [List.getElem?_set] at hj
    split at hj
    · split at hj
      · rw [← Option.some.inj hj]
        exact htracks
      · exact absurd hj (by simp)
    · next hne =>
      -- the ids of two loads differ
      have hdistinct : other.run.syncJobId ≠ load.run.syncJobId := by
        intro heq
        have hjids : c.loadIds[j]? = some load.run.syncJobId := by
          rw [BulkSystem.loadIds, List.getElem?_map, hj, Option.map_some, heq]
        have hiids : c.loadIds[i]? = some load.run.syncJobId := by
          rw [BulkSystem.loadIds, List.getElem?_map, hi, Option.map_some]
        have hlt : i < c.loadIds.length := (List.getElem?_eq_some_iff.mp hiids).1
        exact hne ((List.getElem?_inj hlt h.distinct).mp (hiids.trans hjids.symm))
      exact hchange.tracks hdistinct (h.loads other (List.mem_of_getElem? hj))
  · rw [hids]
    exact h.distinct

/-- A stage of a bulk load fails. -/
theorem failLoad (h : c.Accounted) {i : Nat} {load : Load} (hi : c.loads[i]? = some load)
    (hne : load.rest ≠ []) :
    BulkSystem.Accounted ⟨c.store, c.loads.set i { load with rest := [.markFailed] }⟩ := by
  have htrack := h.loads load (List.mem_of_getElem? hi)
  obtain ⟨job, hj, hstatus⟩ := htrack.job
  refine h.replaceLoad hi rfl (.same fun hnone => Option.some_ne_none _ (hj.symm.trans hnone))
    (fun job' hj' ht => ?_)
    ⟨⟨job, hj, fun _ => hstatus hne⟩, htrack.written, htrack.marks, Or.inr rfl,
      fun hm => absurd hm (by simp), fun hm => absurd hm (by simp)⟩
  obtain rfl := Option.some.inj (hj.symm.trans hj')
  exact absurd (hstatus hne) ht.2

/-- A stage of a bulk load is committed. -/
theorem commitStage (h : c.Accounted) {i : Nat} {load : Load} (hi : c.loads[i]? = some load)
    {stage : BulkStage} {rest : List BulkStage} {p : BulkProgress}
    (hrest : load.rest = stage :: rest) (hsuffix : stage :: rest <:+ bulkStages)
    (hstage : load.run.stage pg
      { store := c.store, students := load.students, enrollments := load.enrollments } stage
        = some p) :
    BulkSystem.Accounted ⟨p.store, c.loads.set i { load with
      rest := rest, students := p.students, enrollments := p.enrollments }⟩ := by
  have htrack := h.loads load (List.mem_of_getElem? hi)
  obtain ⟨job, hj, hstatus⟩ := htrack.job
  have hworking : job.status = .bulkLoad := hstatus (by simp [hrest])
  have hin : stage ∈ load.rest := by simp [hrest]
  obtain ⟨-, honce, hlast⟩ := bulkStages_cons hsuffix
  obtain ⟨hchange, hw, hzero, hs, he⟩ := stage_written hstage
    (fun hnone => Option.some_ne_none _ (hj.symm.trans hnone))
    (fun heq => htrack.students (heq ▸ hin)) (fun heq => htrack.enrollments (heq ▸ hin))
  have hafter : p.store.roster.written load.run.syncJobId = p.students + p.enrollments := by
    have hbefore : c.store.roster.written load.run.syncJobId
        = load.students + load.enrollments := htrack.written
    simp only at hw
    omega
  obtain ⟨after, hj', hjob⟩ := stage_job hstage hj
  refine h.replaceLoad hi rfl hchange (fun job' hjob' ht => ?_)
    ⟨⟨after, hj', fun hmore => ?_⟩, hafter, fun hsum => ?_,
      Or.inl ((List.suffix_cons _ _).trans hsuffix), fun hm => ?_, fun hm => ?_⟩
  · obtain rfl := Option.some.inj (hj'.symm.trans hjob')
    rcases hjob with ⟨-, rfl⟩ | ⟨-, hs, hc⟩
    · exact absurd hworking ht.2
    · exact Or.inl ⟨hs, hc.trans hafter.symm⟩
  · rcases hjob with ⟨-, rfl⟩ | ⟨heq, -⟩
    · exact hworking
    · exact absurd (hlast heq) hmore
  · obtain ⟨hsum', hsnap⟩ := hzero hsum
    intro et hm
    refine htrack.marks hsum' et ?_
    rw [Roster.marks, ← hsnap]
    exact hm
  · show p.students = 0
    rw [hs fun heq => honce (heq ▸ hm)]
    exact htrack.students (hrest ▸ List.mem_cons_of_mem _ hm)
  · show p.enrollments = 0
    rw [he fun heq => honce (heq ▸ hm)]
    exact htrack.enrollments (hrest ▸ List.mem_cons_of_mem _ hm)

/-- A bulk load that has failed says so. -/
theorem markLoad (h : c.Accounted) {i : Nat} {load : Load} (hi : c.loads[i]? = some load)
    (hmark : load.rest = [.markFailed]) :
    BulkSystem.Accounted
      ⟨load.run.markFailed c.store, c.loads.set i { load with rest := [] }⟩ := by
  have htrack := h.loads load (List.mem_of_getElem? hi)
  obtain ⟨job, hj, hstatus⟩ := htrack.job
  have hworking : job.status = .bulkLoad := hstatus (by simp [hmark])
  obtain ⟨hframe, hroster⟩ := markFailed_frame load.run c.store
  obtain ⟨after, hj', hafter⟩ := markFailed_job hj
  refine h.replaceLoad hi rfl ⟨hframe.syncJobs, ?_, .of_eq fun et => ?_, .of_snapshots ?_⟩
    (fun job' hjob' ht => ?_) ⟨⟨after, hj', fun hmore => absurd rfl hmore⟩, ?_, ?_,
      Or.inl (List.nil_suffix), fun hm => absurd hm List.not_mem_nil,
      fun hm => absurd hm List.not_mem_nil⟩
  · exact fun hnone => Option.some_ne_none _ (hj'.symm.trans hnone)
  · rw [hroster]
  · rw [hroster]
  · obtain rfl := Option.some.inj (hj'.symm.trans hjob')
    rcases hafter with rfl | hf
    · exact absurd hworking ht.2
    · refine Or.inr ⟨hf, fun hz => ?_⟩
      rw [hroster] at hz ⊢
      exact htrack.marks (htrack.written.symm.trans hz)
  · show (load.run.markFailed c.store).roster.written _ = _
    rw [hroster]
    exact htrack.written
  · show _ → ∀ et, _ ∉ (load.run.markFailed c.store).roster.marks et
    rw [hroster]
    exact htrack.marks

/-- A move of a bulk load. -/
theorem advanceLoad (h : c.Accounted) {i : Nat} {load : Load} (hi : c.loads[i]? = some load) :
    BulkSystem.Accounted
      ⟨(load.advance pg c.store).1, c.loads.set i (load.advance pg c.store).2⟩ := by
  have htrack := h.loads load (List.mem_of_getElem? hi)
  rcases load.advance_cases pg c.store htrack.rest with
    hidle | ⟨hne, hfails⟩ | ⟨stage, rest, p, hrest, hsuffix, hstage, hcommits⟩ | ⟨hmark, hends⟩
  · -- a load that is over does nothing
    obtain ⟨hlt, hget⟩ := List.getElem?_eq_some_iff.mp hi
    have hset : c.loads.set i load = c.loads := by
      rw [← hget]
      exact List.set_getElem_self hlt
    rw [hidle]
    show BulkSystem.Accounted ⟨c.store, c.loads.set i load⟩
    rw [hset]
    exact h
  · rw [hfails]
    exact h.failLoad hi hne
  · rw [hcommits]
    exact h.commitStage hi hrest hsuffix hstage
  · rw [hends]
    exact h.markLoad hi hmark

end BulkSystem.Accounted

end

theorem BulkSystem.accounted_step {pg : Postgres} {c : BulkSystem} (h : c.Accounted)
    (move : BulkMove) : (c.step pg move).Accounted := by
  cases move with
  | commit op single => exact h.exec op single
  | startLoad run =>
    rw [step]
    split
    · exact h
    · cases hins : c.store.insertSyncJob run.syncJobId run.job with
      | none => exact h
      | some s' => exact h.startLoad hins
  | advanceLoad i =>
    rw [step]
    cases hi : c.loads[i]? with
    | none => exact h
    | some load => exact h.advanceLoad hi

theorem BulkSystem.accounted_run (pg : Postgres) (moves : List BulkMove) :
    (Runs.run (BulkSystem.step pg) BulkSystem.start moves).Accounted :=
  Runs.run_invariant (I := BulkSystem.Accounted) (fun _ move h => accounted_step h move)
    Accounted.start moves

/-- A transaction that inserts the job it finishes fails no other one. -/
theorem Store.Finishes.failed_of_new {s s' : Store} {g id : Uuid} {job job' : SyncJobRow}
    (h : s.Finishes g s' job') (hchange : s.ChangesOnly g s')
    (hj : s'.syncJobs.lookup id = some job) (hfailed : job.status = .failed)
    (hnew : s.syncJobs.lookup id ≠ some job) :
    s'.roster = s.roster ∧ s'.cursorState = s.cursorState := by
  by_cases hid : id = g
  · subst hid
    obtain rfl := Option.some.inj (h.inserted.symm.trans hj)
    exact h.failed hfailed
  · exact absurd ((hchange.others id hid).symm.trans hj) hnew

/-- No committed stage of a bulk load fails a job. -/
theorem stage_fails_nothing {pg : Postgres} {run : BulkRun} {p p' : BulkProgress}
    {stage : BulkStage} (h : run.stage pg p stage = some p') {before : SyncJobRow}
    (hbefore : p.store.syncJobs.lookup run.syncJobId = some before) {id : Uuid} {job : SyncJobRow}
    (hj : p'.store.syncJobs.lookup id = some job) (hfailed : job.status = .failed) :
    p.store.syncJobs.lookup id = some job := by
  by_cases hid : id = run.syncJobId
  · subst hid
    obtain ⟨after, hafter, hcase⟩ := stage_job h hbefore
    obtain rfl := Option.some.inj (hafter.symm.trans hj)
    rcases hcase with ⟨-, rfl⟩ | ⟨-, hs, -⟩
    · exact hbefore
    · exact absurd (hs.symm.trans hfailed) (by simp)
  · exact ((BulkRun.Frame.stage h).syncJobs id hid).symm.trans hj

theorem cursorState_markFailed (run : BulkRun) (s : Store) :
    (run.markFailed s).cursorState = s.cursorState := by
  rw [BulkRun.markFailed]
  split <;> rfl

/-- The job became what it is by this move, which otherwise changed no canonical row,
no snapshot and no cursor. -/
theorem BulkSystem.failed_step {pg : Postgres} {c : BulkSystem} (h : c.Accounted)
    {move : BulkMove} {id : Uuid} {job : SyncJobRow}
    (hj : (c.step pg move).store.syncJobs.lookup id = some job) (hfailed : job.status = .failed)
    (hnew : c.store.syncJobs.lookup id ≠ some job) :
    (c.step pg move).store.roster = c.store.roster ∧
      (c.step pg move).store.cursorState = c.store.cursorState := by
  cases move with
  | commit op single =>
    replace hj : (c.store.exec pg op).syncJobs.lookup id = some job := hj
    rcases exec_finishes pg c.store single with ⟨g, hchange, job', hjob'⟩ | ⟨hjobs, -⟩
    · exact hjob'.failed_of_new hchange hj hfailed hnew
    · rw [hjobs] at hj
      exact absurd hj hnew
  | startLoad run =>
    rw [step]
    split
    · exact ⟨rfl, rfl⟩
    · cases hins : c.store.insertSyncJob run.syncJobId run.job with
      | none => exact ⟨rfl, rfl⟩
      | some s' =>
        obtain ⟨-, rfl⟩ := Store.insertSyncJob_eq_some.mp hins
        exact ⟨rfl, rfl⟩
  | advanceLoad i =>
    rw [step] at hj ⊢
    cases hi : c.loads[i]? with
    | none => exact ⟨rfl, rfl⟩
    | some load =>
      rw [hi] at hj
      replace hj : (load.advance pg c.store).1.syncJobs.lookup id = some job := hj
      show (load.advance pg c.store).1.roster = _ ∧ (load.advance pg c.store).1.cursorState = _
      have htrack := h.loads load (List.mem_of_getElem? hi)
      obtain ⟨before, hbefore, -⟩ := htrack.job
      rcases load.advance_cases pg c.store htrack.rest with
        hidle | ⟨-, hfails⟩ | ⟨stage, rest, p, -, -, hstage, hcommits⟩ | ⟨-, hends⟩
      · rw [hidle]
        exact ⟨rfl, rfl⟩
      · rw [hfails]
        exact ⟨rfl, rfl⟩
      · rw [hcommits] at hj
        exact absurd (stage_fails_nothing hstage hbefore hj hfailed) hnew
      · rw [hends]
        exact ⟨(markFailed_frame _ _).2, cursorState_markFailed _ _⟩

/-- **What a failed job leaves**, in every state and at every move: a failed job that is
no bulk load owns no snapshot, one that owns none superseded none, the move that fails
a job changes nothing else, every other finished job counts its snapshots, and a bulk
load owns what its committed stages wrote. -/
theorem failed_job_leaves_nothing (pg : Postgres) (moves : List BulkMove) :
    let c := Runs.run (BulkSystem.step pg) BulkSystem.start moves
    (∀ id job, c.store.syncJobs.lookup id = some job → job.Terminal → c.Settles id job) ∧
    (∀ move id job, (c.step pg move).store.syncJobs.lookup id = some job →
      job.status = .failed → c.store.syncJobs.lookup id ≠ some job →
      (c.step pg move).store.roster = c.store.roster ∧
        (c.step pg move).store.cursorState = c.store.cursorState) ∧
    ∀ load ∈ c.loads, c.store.roster.written load.run.syncJobId
      = load.students + load.enrollments := by
  intro c
  have haccounted : c.Accounted := BulkSystem.accounted_run pg moves
  refine ⟨haccounted.settled, fun move id job hj hfailed hnew => ?_, fun load hload => ?_⟩
  · exact BulkSystem.failed_step haccounted hj hfailed hnew
  · exact (haccounted.loads load hload).written

section

open Fixture

/-- A partner snapshot whose one enrollment has no id. -/
def brokenLoad : BulkRun where
  leaId := "L1"
  partner := "edlink"
  syncJobId := "bulk-1"
  payload :=
    { students := [{ id := some "s1", givenName := some "Alex", familyName := some "Diaz" }]
      enrollments := [{ id := none, studentId := some "s1", classId := some "class-1"
                        beginDate := some (.date schoolYear) }] }
  latest := { value := "evt_900" }
  clock := fun _ => 40

/-- The load fails with the student written, one snapshot of its own, and an
`event_count` of zero. -/
theorem failed_bulk_load_keeps_students :
    let c := Runs.run (BulkSystem.step Postgres.reference) BulkSystem.start
      (.startLoad brokenLoad :: List.replicate 5 (.advanceLoad 0))
    ((c.store.syncJobs.lookup "bulk-1").map fun job => (job.status, job.eventCount))
        = some (.failed, 0) ∧
      c.store.roster.written "bulk-1" = 1 ∧
      (c.store.roster.canonical .student "s1").isSome = true := by
  decide

end
