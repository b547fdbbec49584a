/-
Generations: which job wrote which snapshot.

A snapshot keeps the id of the job that inserted it for good; the operations
only append snapshots, each under the job the operation itself inserts.

* `Store.exec_grows` — what one operation adds to the jobs and the generations;
* `Store.Generated.exec` — every generation is a job that is no revert.
-/
import EdlinkRostering.System

/-! ### The generations of a table -/

/-- The generations of the snapshots of a table, in the order of insertion. -/
def Roster.generations (r : Roster) (et : EntityType) : List Uuid :=
  (r.snapshots et).rows.map (·.generationId)

/-- The snapshots inserted on the way are of one generation. -/
def Roster.Grows (g : Uuid) (r r' : Roster) : Prop :=
  ∀ et, ∃ k, r'.generations et = r.generations et ++ List.replicate k g

namespace Roster

theorem mem_generations {r : Roster} {et : EntityType} {g : Uuid} :
    g ∈ r.generations et ↔ ∃ row ∈ (r.snapshots et).rows, row.generationId = g := by
  simp [generations]

theorem generations_congr {r r' : Roster} (h : r'.snapshots = r.snapshots) (et : EntityType) :
    r'.generations et = r.generations et := by
  rw [generations, h, generations]

theorem generations_mark (t : SnapshotTable) (p : SnapshotRow → Bool) (g : Option Uuid)
    (i : Option Instant) :
    (t.mark p g i).rows.map (·.generationId) = t.rows.map (·.generationId) := by
  show (t.rows.map _).map _ = _
  rw [List.map_map]
  refine List.map_congr_left fun row _ => ?_
  show (if p row then row.mark g i else row).generationId = row.generationId
  split <;> rfl

theorem generations_supersede (r : Roster) (et et' : EntityType) (l : LeaId) (k : String)
    (g : Uuid) (i : Instant) : (r.supersede et l k g i).generations et' = r.generations et' := by
  by_cases he : et' = et
  · subst he
    rw [generations, supersede, modifySnapshots_self]
    exact generations_mark _ _ _ _
  · rw [generations, supersede, modifySnapshots_ne _ _ _ _ he, generations]

theorem generations_setSuperseded (r : Roster) (et et' : EntityType) (id : Nat) (g : Option Uuid)
    (i : Option Instant) : (r.setSuperseded et id g i).generations et' = r.generations et' := by
  by_cases he : et' = et
  · subst he
    rw [generations, setSuperseded, modifySnapshots_self]
    exact generations_mark _ _ _ _
  · rw [generations, setSuperseded, modifySnapshots_ne _ _ _ _ he, generations]

theorem generations_insertSnapshot (r : Roster) (et et' : EntityType) (row : SnapshotRow) :
    (r.insertSnapshot et row).generations et'
      = r.generations et' ++ if et' = et then [row.generationId] else [] := by
  by_cases he : et' = et
  · subst he
    have hstored : (row.stored et').generationId = row.generationId := by
      rw [SnapshotRow.stored]; split <;> rfl
    rw [generations, rows_insertSnapshot, List.map_append, if_pos rfl, generations,
      List.map_singleton, hstored]
  · rw [if_neg he, List.append_nil, generations, insertSnapshot, modifySnapshots_ne _ _ _ _ he,
      generations]

namespace Grows

variable {g : Uuid} {r r₁ r₂ : Roster}

theorem of_eq (h : ∀ et, r₁.generations et = r.generations et) : r.Grows g r₁ :=
  fun et => ⟨0, by simp [h et]⟩

theorem trans (h : r.Grows g r₁) (h' : r₁.Grows g r₂) : r.Grows g r₂ := by
  intro et
  obtain ⟨k, hk⟩ := h et
  obtain ⟨k', hk'⟩ := h' et
  exact ⟨k + k', by rw [hk', hk, List.append_assoc, ← List.replicate_add]⟩

theorem insertSnapshot (h : r.Grows g r₁) (et : EntityType) {row : SnapshotRow}
    (hrow : row.generationId = g) : r.Grows g (r₁.insertSnapshot et row) := by
  refine h.trans fun et' => ⟨if et' = et then 1 else 0, ?_⟩
  rw [generations_insertSnapshot, hrow]
  split <;> rfl

theorem congr (h : r.Grows g r₁) (hs : ∀ et, r₂.generations et = r₁.generations et) :
    r.Grows g r₂ := by
  intro et
  rw [hs et]
  exact h et

/-- Another generation has as many snapshots as before. -/
theorem count (h : r.Grows g r₁) {g' : Uuid} (hne : g' ≠ g) (et : EntityType) :
    (r₁.generations et).count g' = (r.generations et).count g' := by
  obtain ⟨k, hk⟩ := h et
  rw [hk, List.count_append, List.count_replicate, if_neg (by simpa using hne.symm), Nat.add_zero]

theorem mem (h : r.Grows g r₁) {g' : Uuid} {et : EntityType} (hm : g' ∈ r₁.generations et) :
    g' ∈ r.generations et ∨ g' = g := by
  obtain ⟨k, hk⟩ := h et
  rw [hk, List.mem_append, List.mem_replicate] at hm
  exact hm.imp_right fun h => h.2

end Grows

end Roster

/-! ### The operations -/

theorem applyEvents_grows {pg : Postgres} {leaId : LeaId} {syncJobId : Uuid} {now : Instant}
    {events : List NormalizedEvent} {r r' : Roster}
    (h : applyEvents pg leaId syncJobId now events r = some r') : r.Grows syncJobId r' := by
  refine Runs.foldlM_invariant (I := fun x => r.Grows syncJobId x) (fun event _ r₁ r₂ h₁ h₂ => ?_)
    (.of_eq fun _ => rfl) h
  rcases applyEventRoster_eq_some.mp h₂ with ⟨-, rfl⟩ | ⟨-, row, -, -, rfl⟩
  · exact h₁
  · have hpush : r.Grows syncJobId (r₁.pushSnapshot leaId event syncJobId now) :=
      (h₁.congr fun et => Roster.generations_supersede _ _ _ _ _ _ _).insertSnapshot _ rfl
    exact hpush.congr fun et => Roster.generations_congr (Roster.snapshots_setCanonical _ _ _) et

theorem bulkLoad_grows (pg : Postgres) (run : BulkRun) (s : Store) :
    s.roster.Grows run.syncJobId (bulkLoad pg run s).1.roster := by
  refine bulkLoad_induction (P := fun x => s.roster.Grows run.syncJobId x) (fun r hr => ?_)
    (fun r r' n n' entry at' _ hr hstep => ?_) (.of_eq fun _ => rfl)
  · exact hr.congr fun et => Roster.generations_congr (Roster.snapshots_ensureLeaExists _ _) et
  · obtain ⟨k, -, ⟨-, rfl⟩ | ⟨-, row, -, -, rfl⟩⟩ := applyEntryCounted_eq_some hstep
    · exact hr
    · have hpush : s.roster.Grows run.syncJobId (r.pushEntry run.leaId k entry run.syncJobId at') :=
        (hr.congr fun et => Roster.generations_supersede _ _ _ _ _ _ _).insertSnapshot _ rfl
      exact hpush.congr fun et => Roster.generations_congr (Roster.snapshots_setCanonical _ _ _) et

theorem generations_rewind (r : Roster) (run : RevertRun) (et et' : EntityType)
    (row : SnapshotRow) (prior : Option SnapshotRow) :
    (r.rewind run et row prior).generations et' = r.generations et' := by
  cases prior with
  | none => exact Roster.generations_setSuperseded _ _ _ _ _ _
  | some prior =>
    exact (Roster.generations_setSuperseded _ _ _ _ _ _).trans
      (Roster.generations_setSuperseded _ _ _ _ _ _)

theorem revertTables_generations {pg : Postgres} {run : RevertRun} {r r' : Roster}
    {counts : RevertCounts} (h : revertTables pg run r = some (r', counts)) (et : EntityType) :
    r'.generations et = r.generations et := by
  refine revertTables_induction (P := fun x _ => x.generations et = r.generations et)
    (fun et' r₁ counts r₂ counts' row h₁ _ _ _ hstep => ?_) rfl h
  rw [Roster.generations_congr (revertRow_eq_some hstep).1, generations_rewind]
  exact h₁

/-- A bulk load that gets as far as its job leaves one that is its own. -/
theorem bulkLoad_job (pg : Postgres) (run : BulkRun) (s : Store) :
    (bulkLoad pg run s).1 = s ∨ (s.syncJobs.lookup run.syncJobId = none ∧
      ∃ job, (bulkLoad pg run s).1.syncJobs.lookup run.syncJobId = some job ∧
        job.leaId = run.leaId ∧ job.status ≠ .revert ∧ job.status ≠ .quarantineRelease) := by
  let P : Store → Prop := fun s => ∃ job, s.syncJobs.lookup run.syncJobId = some job ∧
    job.leaId = run.leaId ∧ job.status ≠ .revert ∧ job.status ≠ .quarantineRelease
  have hupdate : ∀ {s : Store} {f : SyncJobRow → SyncJobRow}, P s →
      (∀ job, (f job).leaId = job.leaId ∧ (f job).status ≠ .revert ∧
        (f job).status ≠ .quarantineRelease) → P (s.updateSyncJob run.syncJobId f) := by
    rintro s f ⟨job, hj, hl, -⟩ hf
    refine ⟨f job, ?_, (hf job).1.trans hl, (hf job).2⟩
    rw [Store.updateSyncJob, Table.lookup_modify, if_pos rfl, hj, Option.map_some]
  have hstage : ∀ stage p p', P p.store → run.stage pg p stage = some p' → P p'.store := by
    intro stage p p' hp h
    cases stage with
    | students | enrollments =>
      simp only [BulkRun.stage, Option.bind_eq_bind, Option.bind_eq_some_iff] at h
      obtain ⟨_, -, h⟩ := h
      rw [← Option.some.inj h]
      exact hp
    | markSuccess =>
      rw [← Option.some.inj h]
      exact hupdate hp fun job => ⟨rfl, by simp, by simp⟩
    | _ => rw [← Option.some.inj h]; exact hp
  rw [bulkLoad]
  split
  · exact Or.inl rfl
  · split
    · exact Or.inl rfl
    · -- the job is there from the first transaction on, and no stage makes it another kind
      next s₀ hins =>
      obtain ⟨hfresh, rfl⟩ := Store.insertSyncJob_eq_some.mp hins
      have hrun : P (runStages pg run bulkStages
          { store := { s with syncJobs := s.syncJobs.insert run.syncJobId run.job } }).1.store :=
        runStages_induction (P := fun p => P p.store) hstage bulkStages _
          ⟨run.job, by rw [Table.lookup_insert_eq, if_pos rfl], rfl, by simp [BulkRun.job],
            by simp [BulkRun.job]⟩
      refine Or.inr ⟨hfresh, ?_⟩
      split
      · next p hp =>
        rw [hp] at hrun
        rw [BulkRun.markFailed]
        split
        · exact hrun
        · exact hupdate hrun fun job => ⟨rfl, by simp, by simp⟩
      · next p hp =>
        rw [hp] at hrun
        exact hrun

/-- The job an operation inserts, if it gets that far. -/
def Op.generation : Op → Option Uuid
  | .page run => some run.syncJobId
  | .bulkLoad run => some run.syncJobId
  | .revert run => some run.revertGenerationId
  | .release run => some run.releaseGenerationId
  | .reject _ => none
  | .retry _ => none

/-- What the job an operation inserted looks like. -/
def Op.Inserts : Op → SyncJobRow → Prop
  | .page run, job => job.leaId = run.leaId ∧ (job.status = .success ∨ job.status = .failed)
  | .bulkLoad run, job =>
    job.leaId = run.leaId ∧ job.status ≠ .revert ∧ job.status ≠ .quarantineRelease
  | .revert _, job => job.status = .revert
  | .release run, job => ∃ leaId, job = run.job leaId
  | .reject _, _ => False
  | .retry _, _ => False

/-- The operation inserted the job `g` and wrote its snapshots under it. -/
structure Store.Grows (op : Op) (g : Uuid) (s s' : Store) : Prop where
  generation : op.generation = some g
  fresh : s.syncJobs.lookup g = none
  inserted : ∃ job, s'.syncJobs.lookup g = some job ∧ op.Inserts job
  others : ∀ id, id ≠ g → s'.syncJobs.lookup id = s.syncJobs.lookup id
  roster : s.roster.Grows g s'.roster

theorem grows_page {pg : Postgres} {run : PageRun} {s s' : Store} (h : run.Commits pg s s') :
    Store.Grows (.page run) run.syncJobId s s' := by
  refine ⟨rfl, h.fresh, ?_, h.syncJobs, ?_⟩
  · obtain ⟨job, hj, hl, -, hs, -⟩ := h.job
    refine ⟨job, hj, hl, ?_⟩
    rw [hs]
    split
    · exact Or.inr rfl
    · exact Or.inl rfl
  · cases hb : run.blocked s with
    | true => exact .of_eq fun et => by rw [(h.blocked hb).1]
    | false =>
      have hgrows := applyEvents_grows (h.roster hb)
      intro et
      rw [← Roster.generations_congr (Roster.snapshots_ensureLeaExists s.roster run.leaId) et]
      exact hgrows et

theorem grows_bulkLoad (pg : Postgres) (run : BulkRun) (s : Store) : (bulkLoad pg run s).1 = s ∨
    Store.Grows (.bulkLoad run) run.syncJobId s (bulkLoad pg run s).1 := by
  rcases bulkLoad_job pg run s with hsame | ⟨hfresh, job, hj, hjob⟩
  · exact Or.inl hsame
  · exact Or.inr ⟨rfl, hfresh, ⟨job, hj, hjob⟩, (bulkLoad_frame pg run s).syncJobs,
      bulkLoad_grows pg run s⟩

theorem grows_revert {pg : Postgres} {run : RevertRun} {s s' : Store} {outcome : RevertOutcome}
    (h : Reverts pg run s s' outcome) :
    Store.Grows (.revert run) run.revertGenerationId s s' := by
  obtain ⟨target, -, hjobs⟩ := h.target
  obtain ⟨counts, htables, -⟩ := h.roster
  refine ⟨rfl, h.fresh, ⟨run.job target, ?_, rfl⟩, fun id hid => ?_,
    .of_eq fun et => revertTables_generations htables et⟩
  · rw [hjobs, Table.lookup_insert_eq, if_pos rfl]
  · rw [hjobs, Table.lookup_insert_eq, if_neg hid]

theorem grows_release {run : ReleaseRun} {s s' : Store} (h : Releases run s s') :
    Store.Grows (.release run) run.releaseGenerationId s s' := by
  obtain ⟨row, payload, studentId, snapshot, id, enrollment, -, -, -, -, -, -, hsnap, -, hu,
    hjobs⟩ := h.released
  obtain ⟨-, hr'⟩ := Roster.upsert_eq_some.mp hu
  refine ⟨rfl, h.fresh, ⟨run.job row.leaId, ?_, _, rfl⟩, fun id hid => ?_, ?_⟩
  · rw [hjobs, Table.lookup_insert_eq, if_pos rfl]
  · rw [hjobs, Table.lookup_insert_eq, if_neg hid]
  · rw [hr']
    have hins : s.roster.Grows run.releaseGenerationId
        (s.roster.insertSnapshot .enrollment snapshot) :=
      (Roster.Grows.of_eq fun _ => rfl).insertSnapshot _ (snapshotRow_eq_some hsnap).2.2.1
    exact hins.congr fun et => Roster.generations_congr (Roster.snapshots_setCanonical _ _ _) et

/-- **What an operation adds to the jobs and the generations.** -/
theorem Store.exec_grows (pg : Postgres) (s : Store) (op : Op) :
    ((s.exec pg op).syncJobs = s.syncJobs ∧ (s.exec pg op).roster = s.roster) ∨
      ∃ g, Store.Grows op g s (s.exec pg op) := by
  rcases s.exec_cases pg op with he | he
  · exact Or.inl (by rw [he]; exact ⟨rfl, rfl⟩)
  · cases op with
    | page run => exact Or.inr ⟨_, grows_page he⟩
    | bulkLoad run =>
      rcases grows_bulkLoad pg run s with hsame | hgrows
      · exact Or.inl ⟨congrArg Store.syncJobs hsame, congrArg Store.roster hsame⟩
      · exact Or.inr ⟨_, hgrows⟩
    | revert run =>
      obtain ⟨outcome, he⟩ := he
      exact Or.inr ⟨_, grows_revert he⟩
    | release run => exact Or.inr ⟨_, grows_release he⟩
    | reject run =>
      obtain ⟨row, -, -, he⟩ := he
      exact Or.inl (by rw [he]; exact ⟨rfl, rfl⟩)
    | retry run =>
      obtain ⟨target, -, -, he⟩ := he
      exact Or.inl (by rw [he]; exact ⟨rfl, rfl⟩)

/-- A job that is there stays as it is. -/
theorem Store.lookup_exec {s : Store} (pg : Postgres) (op : Op) {id : Uuid} {job : SyncJobRow}
    (h : s.syncJobs.lookup id = some job) : (s.exec pg op).syncJobs.lookup id = some job := by
  rcases s.exec_grows pg op with ⟨hjobs, -⟩ | ⟨g, hgrows⟩
  · rw [hjobs, h]
  · have hne : id ≠ g := by
      rintro rfl
      rw [hgrows.fresh] at h
      exact absurd h (by simp)
    rw [hgrows.others id hne, h]

/-! ### Every generation is a job -/

/-- Every generation is a job, and none is a revert's. -/
def Store.Generated (s : Store) : Prop :=
  ∀ et, ∀ g ∈ s.roster.generations et, ∃ job, s.syncJobs.lookup g = some job ∧
    job.status ≠ .revert

theorem Store.Generated.empty : Store.empty.Generated :=
  fun _ _ h => absurd h List.not_mem_nil

theorem Store.Generated.grows {s s' : Store} (h : s.Generated) {op : Op} {g : Uuid}
    (hg : Store.Grows op g s s') (hop : ∀ job, op.Inserts job → job.status ≠ .revert) :
    s'.Generated := by
  intro et g' hm
  by_cases hne : g' = g
  · subst hne
    obtain ⟨job, hj, hins⟩ := hg.inserted
    exact ⟨job, hj, hop job hins⟩
  · rw [hg.others g' hne]
    exact h et g' ((hg.roster.mem hm).resolve_right hne)

theorem Store.Generated.revert {pg : Postgres} {run : RevertRun} {s s' : Store}
    {outcome : RevertOutcome} (h : s.Generated) (hr : Reverts pg run s s' outcome) :
    s'.Generated := by
  intro et g hm
  obtain ⟨counts, htables, -⟩ := hr.roster
  rw [revertTables_generations htables] at hm
  obtain ⟨job, hj, hstatus⟩ := h et g hm
  refine ⟨job, ?_, hstatus⟩
  rw [(grows_revert hr).others g ?_, hj]
  rintro rfl
  rw [hr.fresh] at hj
  exact absurd hj (by simp)

theorem Store.Generated.exec {s : Store} (h : s.Generated) (pg : Postgres) (op : Op) :
    (s.exec pg op).Generated := by
  rcases s.exec_cases pg op with he | he
  · rw [he]; exact h
  · cases op with
    | page run =>
      refine h.grows (grows_page he) ?_
      rintro job ⟨-, hs | hs⟩ <;> simp [hs]
    | bulkLoad run =>
      rcases grows_bulkLoad pg run s with hsame | hgrows
      · rw [Store.exec, hsame]; exact h
      · exact h.grows hgrows fun job hj => hj.2.1
    | revert run =>
      obtain ⟨outcome, hr⟩ := he
      exact h.revert hr
    | release run =>
      refine h.grows (grows_release he) ?_
      rintro job ⟨leaId, rfl⟩
      simp [ReleaseRun.job]
    | reject run =>
      obtain ⟨row, -, -, he⟩ := he
      rw [he]; exact h
    | retry run =>
      obtain ⟨target, -, -, he⟩ := he
      rw [he]; exact h

theorem Store.generated_run (pg : Postgres) (ops : List Op) :
    (Runs.run (Store.exec pg) Store.empty ops).Generated :=
  Runs.run_invariant (I := Store.Generated) (fun _ op h => h.exec pg op) Store.Generated.empty ops

/-- A job that does not exist yet has no snapshots. -/
theorem Store.Generated.count_fresh {s : Store} (h : s.Generated) {g : Uuid}
    (hg : s.syncJobs.lookup g = none) (et : EntityType) :
    (s.roster.generations et).count g = 0 := by
  refine List.count_eq_zero.mpr fun hm => ?_
  obtain ⟨job, hj, -⟩ := h et g hm
  rw [hg] at hj
  exact absurd hj (by simp)
