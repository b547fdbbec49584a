/-
A reverted job stays reverted.

A revert is the only operation that clears a marker, and it clears the markers that hold
the job it reverts.  An accepted revert leaves on every snapshot of the job the marker of
some revert; a revert owns no snapshots, so reverting it finds nothing live and clears
nothing.

* `keepsMarkers_exec` — an operation that is no revert leaves superseded snapshots alone;
* `revertTables_markers` — what a revert does to the markers of one job;
* `Store.Buried` — every snapshot of the job is superseded by a revert;
* `reverted_stays_reverted` — from an accepted revert on, in every run.
-/
import EdlinkRostering.DoubleRevert
import EdlinkRostering.FailedJobs

/-! ### Superseded snapshots keep their markers -/

/-- A snapshot that is not of the job `g` was there before, and if it was superseded has
the marker it had. -/
def Roster.KeepsMarkers (g : Uuid) (r r' : Roster) : Prop :=
  ∀ et, ∀ x ∈ (r'.snapshots et).rows, x.generationId = g ∨
    ∃ old ∈ (r.snapshots et).rows, old.generationId = x.generationId ∧
      (old.supersededByGenerationId ≠ none →
        x.supersededByGenerationId = old.supersededByGenerationId)

namespace Roster.KeepsMarkers

variable {g : Uuid} {r r₁ r₂ : Roster}

theorem of_snapshots (h : r₁.snapshots = r.snapshots) : r.KeepsMarkers g r₁ := by
  intro et x hx
  rw [h] at hx
  exact Or.inr ⟨x, hx, rfl, fun _ => rfl⟩

theorem trans (h : r.KeepsMarkers g r₁) (h' : r₁.KeepsMarkers g r₂) : r.KeepsMarkers g r₂ := by
  intro et x hx
  rcases h' et x hx with hg | ⟨y, hy, hyg, hym⟩
  · exact Or.inl hg
  · rcases h et y hy with hg | ⟨z, hz, hzg, hzm⟩
    · exact Or.inl (hyg.symm.trans hg)
    · refine Or.inr ⟨z, hz, hzg.trans hyg, fun hne => ?_⟩
      have hyz := hzm hne
      rw [hym (hyz ▸ hne), hyz]

/-- Only live snapshots are superseded. -/
theorem supersede (r : Roster) (et : EntityType) (l : LeaId) (k : String) (i : Instant) :
    r.KeepsMarkers g (r.supersede et l k g i) := by
  intro et' x hx
  obtain ⟨old, hold, rfl⟩ := mem_supersede.mp hx
  refine Or.inr ⟨old, hold, ?_, fun hne => ?_⟩
  · split <;> rfl
  · rw [if_neg]
    rintro ⟨-, hlive⟩
    exact hne (SnapshotRow.liveAt_iff.mp hlive).2.2

theorem insertSnapshot (r : Roster) (et : EntityType) {row : SnapshotRow}
    (hrow : row.generationId = g) : r.KeepsMarkers g (r.insertSnapshot et row) := by
  intro et' x hx
  rcases mem_insertSnapshot.mp hx with hx | ⟨-, rfl⟩
  · exact Or.inr ⟨x, hx, rfl, fun _ => rfl⟩
  · left
    rw [← hrow]
    show (row.stored et).generationId = row.generationId
    rw [SnapshotRow.stored]
    split <;> rfl

/-- The live snapshots of a key make room for a new one. -/
theorem push (r : Roster) (et : EntityType) (leaId : LeaId) (k : String) (now : Instant)
    {row : SnapshotRow} (hrow : row.generationId = g) :
    r.KeepsMarkers g ((r.supersede et leaId k g now).insertSnapshot et row) :=
  (supersede r et leaId k now).trans (insertSnapshot _ et hrow)

end Roster.KeepsMarkers

section

variable {pg : Postgres} {s s' : Store}

theorem applyEvents_keepsMarkers {leaId : LeaId} {syncJobId : Uuid} {now : Instant}
    {events : List NormalizedEvent} {r r' : Roster}
    (h : applyEvents pg leaId syncJobId now events r = some r') :
    r.KeepsMarkers syncJobId r' ∧ r.Marks syncJobId r' := by
  refine Runs.foldlM_invariant (I := fun x => r.KeepsMarkers syncJobId x ∧ r.Marks syncJobId x)
    (fun event _ r₁ r₂ h₁ h₂ => ?_) ⟨.of_snapshots rfl, .of_snapshots rfl⟩ h
  rcases applyEventRoster_eq_some.mp h₂ with ⟨-, rfl⟩ | ⟨-, row, -, -, rfl⟩
  · exact h₁
  · have hset := Roster.snapshots_setCanonical (r₁.pushSnapshot leaId event syncJobId now)
      event.naturalKey row
    have hmarks := (written_push r₁ event.entityType leaId event.naturalKey now
      (show (event.snapshotRow leaId syncJobId now).generationId = syncJobId from rfl) rfl).2
    have hkeeps : r₁.KeepsMarkers syncJobId (r₁.pushSnapshot leaId event syncJobId now) :=
      .push r₁ _ _ _ _ rfl
    exact ⟨h₁.1.trans (hkeeps.trans (.of_snapshots hset)),
      h₁.2.trans (hmarks.trans (.of_snapshots hset))⟩

theorem bulkLoad_keepsMarkers (pg : Postgres) (run : BulkRun) (s : Store) :
    s.roster.KeepsMarkers run.syncJobId (bulkLoad pg run s).1.roster ∧
      s.roster.Marks run.syncJobId (bulkLoad pg run s).1.roster := by
  refine bulkLoad_induction
    (P := fun x => s.roster.KeepsMarkers run.syncJobId x ∧ s.roster.Marks run.syncJobId x)
    (fun r hr => ?_) (fun r r' n n' entry at' _ hr hstep => ?_)
    ⟨.of_snapshots rfl, .of_snapshots rfl⟩
  · have hsame := Roster.snapshots_ensureLeaExists r run.leaId
    exact ⟨hr.1.trans (.of_snapshots hsame), hr.2.trans (.of_snapshots hsame)⟩
  · obtain ⟨k, -, ⟨-, rfl⟩ | ⟨-, row, -, -, rfl⟩⟩ := applyEntryCounted_eq_some hstep
    · exact hr
    · have hset := Roster.snapshots_setCanonical (r.pushEntry run.leaId k entry run.syncJobId at')
        k row
      have hmarks := (written_push r entry.entityType run.leaId k at'
        (show (entry.snapshotRow run.leaId k run.syncJobId at').generationId = run.syncJobId
          from rfl) rfl).2
      have hkeeps : r.KeepsMarkers run.syncJobId
          (r.pushEntry run.leaId k entry run.syncJobId at') := .push r _ _ _ _ rfl
      exact ⟨hr.1.trans (hkeeps.trans (.of_snapshots hset)),
        hr.2.trans (hmarks.trans (.of_snapshots hset))⟩

theorem page_keepsMarkers {run : PageRun} (h : run.Commits pg s s') :
    s.roster.KeepsMarkers run.syncJobId s'.roster ∧ s.roster.Marks run.syncJobId s'.roster := by
  cases hb : run.blocked s with
  | true =>
    have hsame : s'.roster.snapshots = s.roster.snapshots := by rw [(h.blocked hb).1]
    exact ⟨.of_snapshots hsame, .of_snapshots hsame⟩
  | false =>
    have hensure := Roster.snapshots_ensureLeaExists s.roster run.leaId
    obtain ⟨hkeeps, hmarks⟩ := applyEvents_keepsMarkers (h.roster hb)
    exact ⟨Roster.KeepsMarkers.trans (.of_snapshots hensure) hkeeps,
      Roster.Marks.trans (.of_snapshots hensure) hmarks⟩

theorem release_keepsMarkers {run : ReleaseRun} (h : Releases run s s') :
    s.roster.KeepsMarkers run.releaseGenerationId s'.roster := by
  obtain ⟨row, payload, studentId, snapshot, id, enrollment, -, -, -, -, -, -, hsnap, -, hu,
    -⟩ := h.released
  obtain ⟨-, hr'⟩ := Roster.upsert_eq_some.mp hu
  have hset : s'.roster.snapshots = (s.roster.insertSnapshot .enrollment snapshot).snapshots := by
    rw [hr', Roster.snapshots_setCanonical]
  exact (Roster.KeepsMarkers.insertSnapshot _ _ (snapshotRow_eq_some hsnap).2.2.1).trans
    (.of_snapshots hset)

/-- **An operation that is no revert** leaves superseded snapshots as they are. -/
theorem keepsMarkers_exec (pg : Postgres) (s : Store) (op : Op)
    (hop : ∀ run, op ≠ .revert run) :
    (s.exec pg op).roster = s.roster ∨
      ∃ g, Store.Grows op g s (s.exec pg op) ∧ s.roster.KeepsMarkers g (s.exec pg op).roster := by
  rcases s.exec_cases pg op with he | he
  · exact Or.inl (by rw [he])
  · cases op with
    | page run => exact Or.inr ⟨_, grows_page he, (page_keepsMarkers he).1⟩
    | bulkLoad run =>
      rcases grows_bulkLoad pg run s with hsame | hgrows
      · exact Or.inl (congrArg Store.roster hsame)
      · exact Or.inr ⟨_, hgrows, (bulkLoad_keepsMarkers pg run s).1⟩
    | revert run => exact absurd rfl (hop run)
    | release run => exact Or.inr ⟨_, grows_release he, release_keepsMarkers he⟩
    | reject run =>
      obtain ⟨row, -, -, he⟩ := he
      exact Or.inl (by rw [he]; rfl)
    | retry run =>
      obtain ⟨target, -, -, he⟩ := he
      exact Or.inl (by rw [he])

/-! ### Every marker is a job -/

/-- The markers are ids of jobs: the foreign key of `superseded_by_generation_id`. -/
def Store.Marked (s : Store) : Prop := ∀ et, ∀ g ∈ s.roster.marks et, s.Known g

namespace Store.Marked

theorem empty : Store.empty.Marked := fun _ _ h => absurd h List.not_mem_nil

theorem grows (h : s.Marked) {op : Op} {g : Uuid} (hg : Store.Grows op g s s')
    (hm : s.roster.Marks g s'.roster) : s'.Marked := by
  intro et g' hg'
  rcases hm et g' hg' with hg' | rfl
  · exact hg.known.2 g' (h et g' hg')
  · exact hg.known.1

theorem congr (h : s.Marked) (hjobs : s'.syncJobs = s.syncJobs) (hr : s'.roster = s.roster) :
    s'.Marked := by
  intro et g hg
  rw [hr] at hg
  rw [Store.Known, hjobs]
  exact h et g hg

theorem exec (h : s.Marked) (pg : Postgres) (op : Op) : (s.exec pg op).Marked := by
  rcases s.exec_cases pg op with he | he
  · rw [he]
    exact h
  · cases op with
    | page run => exact h.grows (grows_page he) (page_keepsMarkers he).2
    | bulkLoad run =>
      rcases grows_bulkLoad pg run s with hsame | hgrows
      · rw [Store.exec, hsame]
        exact h
      · exact h.grows hgrows (bulkLoad_keepsMarkers pg run s).2
    | revert run =>
      obtain ⟨outcome, he⟩ := he
      exact h.grows (grows_revert he) (finishes_revert he).1.marks
    | release run => exact h.grows (grows_release he) (finishes_release he).1.marks
    | reject run =>
      obtain ⟨row, -, -, he⟩ := he
      rw [he]
      exact h.congr rfl rfl
    | retry run =>
      obtain ⟨target, -, -, he⟩ := he
      rw [he]
      exact h.congr rfl rfl

end Store.Marked

theorem Store.marked_run (pg : Postgres) (ops : List Op) :
    (Runs.run (Store.exec pg) Store.empty ops).Marked :=
  Runs.run_invariant (I := Store.Marked) (fun _ op h => h.exec pg op) Store.Marked.empty ops

/-! ### A revert and the markers of one job -/

/-- The markers of a job's snapshots are as `Q` says; a revert keeps that, if `Q` holds
of the marker it sets, and of an empty one where it may clear one. -/
theorem revertTables_markers {run : RevertRun} {r r' : Roster} {counts : RevertCounts}
    {job : Uuid} {Q : Option Uuid → Prop} (hretired : Q (some run.revertGenerationId))
    (hcleared : (∃ et, run.syncJobId ∈ r.generations et) → Q (some run.syncJobId) → Q none)
    (hr : ∀ et, ∀ x ∈ (r.snapshots et).rows, x.generationId = job → Q x.supersededByGenerationId)
    (h : revertTables pg run r = some (r', counts)) :
    ∀ et, ∀ x ∈ (r'.snapshots et).rows, x.generationId = job → Q x.supersededByGenerationId := by
  refine (revertTables_induction
    (P := fun r₁ _ => (∀ et, r₁.generations et = r.generations et) ∧
      ∀ et, ∀ x ∈ (r₁.snapshots et).rows, x.generationId = job → Q x.supersededByGenerationId)
    ?_ ⟨fun _ => rfl, hr⟩ h).2
  rintro et r₁ counts₁ r₂ counts₂ row ⟨hgen, hq⟩ hrow hjob - hstep
  have hs := (revertRow_eq_some hstep).1
  refine ⟨fun et' => ?_, fun et' x hx hxg => ?_⟩
  · rw [Roster.generations_congr hs, generations_rewind]
    exact hgen et'
  · have hsome : ∃ et, run.syncJobId ∈ r.generations et :=
      ⟨et, hgen et ▸ Roster.mem_generations.mpr ⟨row, hrow, hjob⟩⟩
    rw [hs] at hx
    obtain ⟨y, hy, rfl⟩ := Roster.mem_setSuperseded.mp hx
    by_cases hyr : et' = et ∧ y.snapshotId = row.snapshotId
    · -- the snapshot being taken back gets the retiring marker
      rw [if_pos hyr]
      exact hretired
    · rw [if_neg hyr] at hxg ⊢
      cases hp : r₁.findPriorLiveSnapshot pg et row.leaId row.naturalKey run.syncJobId with
      | none =>
        rw [hp] at hy
        exact hq et' y hy hxg
      | some p =>
        rw [hp] at hy
        obtain ⟨z, hz, rfl⟩ := Roster.mem_setSuperseded.mp hy
        by_cases hzp : et' = et ∧ z.snapshotId = p.snapshotId
        · -- the snapshot whose marker is cleared was superseded by the reverted job
          rw [if_pos hzp] at hxg ⊢
          obtain ⟨rfl, hid⟩ := hzp
          obtain ⟨hpm, -, -, hps⟩ := Roster.mem_of_findPrior hp
          obtain rfl := SnapshotTable.eq_of_id hz hpm hid
          exact hcleared hsome (hps ▸ hq et' z hz hxg)
        · rw [if_neg hzp] at hxg ⊢
          exact hq et' z hz hxg

/-- Every snapshot of the job is superseded by a revert. -/
def Store.Buried (s : Store) (job : Uuid) : Prop :=
  ∀ et, ∀ x ∈ (s.roster.snapshots et).rows, x.generationId = job →
    ∃ g, x.supersededByGenerationId = some g ∧ s.Reverted g

/-- A job with snapshots is no revert. -/
theorem Store.Generated.not_reverted (hs : s.Generated) {g : Uuid} {et : EntityType}
    (hg : g ∈ s.roster.generations et) : ¬ s.Reverted g := by
  rintro ⟨job, hjob, hstatus⟩
  obtain ⟨job', hjob', hne⟩ := hs et g hg
  obtain rfl := Option.some.inj (hjob.symm.trans hjob')
  exact hne hstatus

theorem Reverts.reverted {run : RevertRun} {outcome : RevertOutcome}
    (h : Reverts pg run s s' outcome) : s'.Reverted run.revertGenerationId := by
  obtain ⟨target, -, hjobs⟩ := h.target
  refine ⟨run.job target, ?_, rfl⟩
  rw [hjobs, Table.lookup_insert_eq, if_pos rfl]

/-- **An accepted revert buries its job.** -/
theorem buried_of_reverts (hs : s.Generated) (hm : s.Marked) {run : RevertRun}
    {outcome : RevertOutcome} (h : Reverts pg run s s' outcome) : s'.Buried run.syncJobId := by
  obtain ⟨counts, htables, -⟩ := h.roster
  have hgrows := grows_revert h
  -- before the revert, a superseded snapshot of the job is superseded by a revert
  have hbefore : ∀ et, ∀ x ∈ (s.roster.snapshots et).rows, x.generationId = run.syncJobId →
      x.supersededByGenerationId = none ∨
        ∃ g, x.supersededByGenerationId = some g ∧ s'.Reverted g := by
    intro et x hx hxg
    cases hsup : x.supersededByGenerationId with
    | none => exact Or.inl rfl
    | some g =>
      obtain ⟨job, hjob⟩ := Option.ne_none_iff_exists'.mp
        (hm et g (Roster.mem_marks.mpr ⟨x, hx, hsup⟩))
      refine Or.inr ⟨g, rfl, hgrows.reverted ⟨job, hjob, ?_⟩⟩
      by_contra hstatus
      have hrefused : s.supersededByNewerSync run.syncJobId et = true := by
        refine List.any_eq_true.mpr ⟨x, hx, ?_⟩
        simp [hxg, hsup, hjob, hstatus]
      rw [h.notSuperseded et] at hrefused
      exact absurd hrefused (by simp)
  have hafter := revertTables_markers
    (Q := fun m => m = none ∨ ∃ g, m = some g ∧ s'.Reverted g)
    (Or.inr ⟨_, rfl, h.reverted⟩) (fun _ _ => Or.inl rfl) hbefore htables
  intro et x hx hxg
  rcases hafter et x hx hxg with hlive | hdead
  · have hmem : x ∈ s'.roster.liveOf pg et run.syncJobId := Roster.mem_liveOf.mpr ⟨hx, hxg, hlive⟩
    rw [liveOf_reverts hs h et] at hmem
    exact absurd hmem List.not_mem_nil
  · exact hdead

namespace Store.Buried

variable {job : Uuid}

/-- Reverts leave a buried job alone. -/
theorem revert (h : s.Buried job) (hs : s.Generated) {run : RevertRun} {outcome : RevertOutcome}
    (hr : Reverts pg run s s' outcome) : s'.Buried job := by
  obtain ⟨counts, htables, -⟩ := hr.roster
  have hgrows := grows_revert hr
  refine revertTables_markers (Q := fun m => ∃ g, m = some g ∧ s'.Reverted g)
    ⟨_, rfl, hr.reverted⟩ ?_ (fun et x hx hxg => ?_) htables
  · -- a marker is cleared only if it holds a job with snapshots
    rintro ⟨et, hg⟩ ⟨g, heq, job', hjob', hstatus⟩
    obtain rfl := Option.some.inj heq
    obtain ⟨target, htarget, hne⟩ := hs et _ hg
    have hknown : s.Known run.syncJobId := by
      rw [Store.Known, htarget]
      exact Option.some_ne_none target
    rw [hgrows.others _ (hgrows.ne_of_known hknown)] at hjob'
    exact absurd ⟨job', hjob', hstatus⟩ (hs.not_reverted hg)
  · obtain ⟨g, hg, hreverted⟩ := h et x hx hxg
    exact ⟨g, hg, hgrows.reverted hreverted⟩

theorem congr (h : s.Buried job) (hjobs : s'.syncJobs = s.syncJobs) (hr : s'.roster = s.roster) :
    s'.Buried job := by
  intro et x hx hxg
  rw [hr] at hx
  obtain ⟨g, hg, hreverted⟩ := h et x hx hxg
  exact ⟨g, hg, by rwa [Store.Reverted, hjobs]⟩

theorem exec (h : s.Buried job) (hs : s.Generated) (hknown : s.Known job) (pg : Postgres)
    (op : Op) : (s.exec pg op).Buried job := by
  by_cases hop : ∃ run, op = .revert run
  · obtain ⟨run, rfl⟩ := hop
    rcases s.exec_cases pg (.revert run) with he | ⟨outcome, he⟩
    · rw [he]
      exact h
    · exact h.revert hs he
  · rcases s.exec_grows pg op with ⟨hjobs, hroster⟩ | ⟨g, hgrows⟩
    · exact h.congr hjobs hroster
    · intro et x hx hxg
      rcases keepsMarkers_exec pg s op (fun run he => hop ⟨run, he⟩) with hsame | ⟨g', hg', hkeeps⟩
      · rw [hsame] at hx
        obtain ⟨g₁, hg₁, hreverted⟩ := h et x hx hxg
        exact ⟨g₁, hg₁, hgrows.reverted hreverted⟩
      · rcases hkeeps et x hx with heq | ⟨old, hold, hgen, hmark⟩
        · -- a new snapshot is of a job that was not there
          exact absurd (hxg.symm.trans heq) (hg'.ne_of_known hknown)
        · obtain ⟨g₁, hg₁, hreverted⟩ := h et old hold (hgen.trans hxg)
          refine ⟨g₁, ?_, hgrows.reverted hreverted⟩
          rw [hmark (by rw [hg₁]; exact Option.some_ne_none g₁), hg₁]

end Store.Buried

/-- A revert that finds nothing live does nothing to the roster. -/
theorem revertTables_nothing {run : RevertRun} {r : Roster}
    (h : ∀ et, r.liveOf pg et run.syncJobId = []) : revertTables pg run r = some (r, {}) := by
  have htable : ∀ et, revertTable pg run (r, {}) et = some (r, {}) := by
    intro et
    rw [revertTable]
    show (r.liveOf pg et run.syncJobId).foldlM _ _ = _
    rw [h et]
    rfl
  rw [revertTables, List.foldlM_cons, htable]
  show [EntityType.enrollment, .lea].foldlM (revertTable pg run) (r, {}) = _
  rw [List.foldlM_cons, htable]
  show [EntityType.lea].foldlM (revertTable pg run) (r, {}) = _
  rw [List.foldlM_cons, htable]
  rfl

theorem Store.Buried.liveOf {job : Uuid} (h : s.Buried job) (pg : Postgres) (et : EntityType) :
    s.roster.liveOf pg et job = [] := by
  refine List.eq_nil_iff_forall_not_mem.mpr fun x hx => ?_
  obtain ⟨hm, hxg, hlive⟩ := Roster.mem_liveOf.mp hx
  obtain ⟨g, hg, -⟩ := h et x hm hxg
  rw [hlive] at hg
  exact absurd hg (by simp)

end

/-- **A reverted job stays reverted.**  Once a revert of the job has been accepted, no
snapshot of the job is live again, whatever is done, and every later revert of it that is
accepted leaves the roster alone and writes its `revert_actions` row. -/
theorem reverted_stays_reverted (pg : Postgres) (ops later : List Op) (run : RevertRun)
    (s₁ : Store) (outcome : RevertOutcome)
    (h : revert pg run (Runs.run (Store.exec pg) Store.empty ops) = .ok (s₁, outcome)) :
    let s := Runs.run (Store.exec pg) s₁ later
    (∀ et, ∀ x ∈ (s.roster.snapshots et).rows, x.generationId = run.syncJobId →
      x.isLive = false) ∧
      ∀ (again : RevertRun) (s₂ : Store) (outcome₂ : RevertOutcome),
        again.syncJobId = run.syncJobId → revert pg again s = .ok (s₂, outcome₂) →
          outcome₂.snapshotsRestored = 0 ∧ outcome₂.canonicalRowsUpdated = 0 ∧
          outcome₂.canonicalRowsSoftDeleted = 0 ∧ s₂.roster = s.roster ∧
          s₂.revertActions = s.revertActions ++ [again.action 0] := by
  intro s
  have hreverts := revert_eq_ok h
  have hgenerated := Store.generated_run pg ops
  have hknown : s₁.Known run.syncJobId := by
    obtain ⟨target, htarget, -⟩ := hreverts.target
    refine (grows_revert hreverts).known.2 _ ?_
    rw [Store.Known, htarget]
    exact Option.some_ne_none target
  -- generations are jobs, and the job is there and buried, in every state reached
  obtain ⟨-, -, hburied⟩ : s.Generated ∧ s.Known run.syncJobId ∧ s.Buried run.syncJobId := by
    refine Runs.run_invariant
      (I := fun s : Store => s.Generated ∧ s.Known run.syncJobId ∧ s.Buried run.syncJobId)
      (fun s op hs => ?_) ?_ later
    · obtain ⟨hg, hk, hb⟩ := hs
      refine ⟨hg.exec pg op, ?_, hb.exec hg hk pg op⟩
      rcases s.exec_grows pg op with ⟨hjobs, -⟩ | ⟨g, hgrows⟩
      · rw [Store.Known, hjobs]
        exact hk
      · exact hgrows.known.2 _ hk
    · exact ⟨hgenerated.revert hreverts, hknown,
        buried_of_reverts hgenerated (Store.marked_run pg ops) hreverts⟩
  refine ⟨fun et x hx hxg => ?_, fun again s₂ outcome₂ hjob hagain => ?_⟩
  · obtain ⟨g, hg, -⟩ := hburied et x hx hxg
    simp [SnapshotRow.isLive, hg]
  · obtain ⟨counts, htables, hactions, hrestored, hupdated, hdeleted⟩ :=
      (revert_eq_ok hagain).roster
    rw [revertTables_nothing fun et => hjob ▸ hburied.liveOf pg et] at htables
    obtain ⟨hroster, rfl⟩ := Prod.mk.inj (Option.some.inj htables)
    exact ⟨hrestored, hupdated, hdeleted, hroster.symm, hactions⟩

section

open Fixture

/-- A student arrives and moves up a grade. -/
def movedUp : List Op :=
  [pageOp "L1" "job-1" [event "L1" "evt_001" (student "L1" "s1" (some "04"))],
    pageOp "L1" "job-2" [event "L1" "evt_002" (student "L1" "s1" (some "05")) .updated]]

def revertMove (generation : Uuid) : RevertRun where
  syncJobId := "job-2"
  operatorIdentity := "op"
  reason := "bad batch"
  revertGenerationId := generation
  now := 30

/-- A later page is reverted, and so are both reverts. -/
def chain : List Op :=
  [pageOp "L1" "job-3" [event "L1" "evt_003" (student "L1" "s1" (some "06")) .updated],
    revertOp "job-3" "rev-2", revertOp "rev-1" "rev-3", revertOp "rev-2" "rev-4"]

/-- After the chain the move is still reverted, and reverting it again does nothing. -/
theorem reverted_stays_reverted_chain :
    let s := after (movedUp ++ .revert (revertMove "rev-1") :: chain)
    (∀ et, ∀ x ∈ (s.roster.snapshots et).rows, x.generationId = "job-2" → x.isLive = false) ∧
      ∃ s₂ outcome₂, revert .reference (revertMove "rev-5") s = .ok (s₂, outcome₂) ∧
        outcome₂.snapshotsRestored = 0 ∧ s₂.roster = s.roster := by
  intro s
  have hfirst : (revert .reference (revertMove "rev-1") (after movedUp)).isOk = true := by
    decide +kernel
  have hsecond : (revert .reference (revertMove "rev-5") s).isOk = true := by decide +kernel
  cases h₁ : revert .reference (revertMove "rev-1") (after movedUp) with
  | error e =>
    rw [h₁] at hfirst
    exact absurd hfirst Bool.false_ne_true
  | ok result₁ =>
    cases h₂ : revert .reference (revertMove "rev-5") s with
    | error e =>
      rw [h₂] at hsecond
      exact absurd hsecond Bool.false_ne_true
    | ok result₂ =>
      have hs : s = Runs.run (Store.exec .reference) result₁.1 chain := by
        show after (movedUp ++ .revert (revertMove "rev-1") :: chain) = _
        rw [after, Runs.run_append, Runs.run_cons, Store.exec, ← after, h₁]
        rfl
      obtain ⟨hlive, hagain⟩ :=
        reverted_stays_reverted .reference movedUp chain (revertMove "rev-1") _ _ h₁
      rw [← hs] at hlive hagain
      obtain ⟨hrestored, -, -, hroster, -⟩ := hagain (revertMove "rev-5") _ _ rfl h₂
      exact ⟨hlive, _, _, rfl, hrestored, hroster⟩

end
