/-
Concurrent reverts of one job.

Any number of reverts of one sync job run as transactions, interleaved statement by
statement.  Every revert reads the live snapshots of the job without a lock.  If no
revert finds some while another one is at work on its own, the outcome is that of a
single revert.

* `liveOf_reverts` — an accepted revert leaves no live snapshot of the job;
* `double_click_revert` — the outcome of reverts that take turns;
* `double_click_deletes` — two reverts that read the same list.
-/
import Mathlib.Algebra.BigOperators.Group.Finset.Basic
import EdlinkRostering.Generations
import EdlinkRostering.Transactions

open ReadCommitted

/-! ### An accepted revert leaves nothing to revert -/

/-- No snapshot of the job is superseded by the job itself. -/
def Roster.Separate (r : Roster) (syncJobId : Uuid) : Prop :=
  ∀ et, ∀ x ∈ (r.snapshots et).rows, x.generationId = syncJobId →
    x.supersededByGenerationId ≠ some syncJobId

/-- A revert that is not refused finds no snapshot that the job itself superseded. -/
theorem separate_of_reverts {pg : Postgres} {run : RevertRun} {s s' : Store}
    {outcome : RevertOutcome} (hs : s.Generated) (h : Reverts pg run s s' outcome) :
    s.roster.Separate run.syncJobId := by
  intro et x hx hgen hsup
  obtain ⟨job, hjob, hstatus⟩ := hs et run.syncJobId
    (Roster.mem_generations.mpr ⟨x, hx, hgen⟩)
  have hrefused : s.supersededByNewerSync run.syncJobId et = true := by
    refine List.any_eq_true.mpr ⟨x, hx, ?_⟩
    simp [hgen, hsup, hjob, hstatus]
  rw [h.notSuperseded et] at hrefused
  exact absurd hrefused (by simp)

/-- The two facts about the job's snapshots that a revert keeps. -/
theorem separate_revertRow {pg : Postgres} {run : RevertRun} {et : EntityType} {r r' : Roster}
    {counts counts' : RevertCounts} {row : SnapshotRow}
    (hgen : run.revertGenerationId ≠ run.syncJobId)
    (h : revertRow pg run et (r, counts) row = some (r', counts')) (hr : r.Separate run.syncJobId) :
    r'.Separate run.syncJobId ∧ ∀ et', ∀ x ∈ (r'.snapshots et').rows,
      x.generationId = run.syncJobId → x.supersededByGenerationId = none →
      x ∈ (r.snapshots et').rows := by
  obtain ⟨hs, -⟩ := revertRow_eq_some h
  -- a row of the job is as it was, or has just been retired
  have hkey : ∀ et', ∀ x ∈ (r'.snapshots et').rows, x.generationId = run.syncJobId →
      x ∈ (r.snapshots et').rows ∨
        x.supersededByGenerationId = some run.revertGenerationId := by
    intro et' x hx hxg
    rw [hs] at hx
    obtain ⟨y, hy, rfl⟩ := Roster.mem_setSuperseded.mp hx
    by_cases hyr : et' = et ∧ y.snapshotId = row.snapshotId
    · rw [if_pos hyr]
      exact Or.inr rfl
    · rw [if_neg hyr] at hxg ⊢
      left
      cases hp : r.findPriorLiveSnapshot pg et row.leaId row.naturalKey run.syncJobId with
      | none => rw [hp] at hy; exact hy
      | some p =>
        rw [hp] at hy
        obtain ⟨z, hz, rfl⟩ := Roster.mem_setSuperseded.mp hy
        by_cases hzp : et' = et ∧ z.snapshotId = p.snapshotId
        · -- the prior snapshot is not one of the job's
          rw [if_pos hzp] at hxg
          obtain ⟨rfl, hzp⟩ := hzp
          obtain ⟨hpm, -, -, hps⟩ := Roster.mem_of_findPrior hp
          obtain rfl := SnapshotTable.eq_of_id hz hpm hzp
          exact absurd hps (hr et' z hz hxg)
        · rw [if_neg hzp]
          exact hz
  refine ⟨fun et' x hx hxg => ?_, fun et' x hx hxg hlive => ?_⟩
  · rcases hkey et' x hx hxg with hold | hret
    · exact hr et' x hold hxg
    · rw [hret]
      exact fun he => hgen (Option.some.inj he)
  · rcases hkey et' x hx hxg with hold | hret
    · exact hold
    · rw [hlive] at hret
      exact absurd hret (by simp)

/-- **An accepted revert leaves no live snapshot of the job.** -/
theorem liveOf_reverts {pg : Postgres} {run : RevertRun} {s s' : Store} {outcome : RevertOutcome}
    (hs : s.Generated) (h : Reverts pg run s s' outcome) (et : EntityType) :
    s'.roster.liveOf pg et run.syncJobId = [] := by
  obtain ⟨target, htarget, -⟩ := h.target
  have hgen : run.revertGenerationId ≠ run.syncJobId := by
    intro he
    have hfresh := h.fresh
    rw [he, htarget] at hfresh
    exact absurd hfresh (by simp)
  obtain ⟨counts, htables, -⟩ := h.roster
  have hinv := revertTables_induction
    (P := fun r _ => r.Separate run.syncJobId ∧ ∀ et', ∀ x ∈ (r.snapshots et').rows,
      x.generationId = run.syncJobId → x.supersededByGenerationId = none →
      x ∈ (s.roster.snapshots et').rows)
    (fun et' r counts r' counts' row hr _ _ _ hrow => by
      obtain ⟨hsep, hold⟩ := separate_revertRow hgen hrow hr.1
      exact ⟨hsep, fun et'' x hx hxg hlive => hr.2 et'' x (hold et'' x hx hxg hlive) hxg hlive⟩)
    ⟨separate_of_reverts hs h, fun _ _ hx _ _ => hx⟩ htables
  refine List.eq_nil_iff_forall_not_mem.mpr fun x hx => ?_
  obtain ⟨hm, hxg, hlive⟩ := Roster.mem_liveOf.mp hx
  have hret := revertTables_retires hgen hxg hlive (hinv.2 et x hm hxg hlive) htables x hm rfl
  rw [hlive] at hret
  exact absurd hret (by simp)

/-! ### The interleavings -/

/-- Reverts in flight. -/
abbrev RevertConfig (ι : Type) := Config ι Store RowLock RevertPc RevertOutcome RevertError

namespace RevertPc

/-- The revert has found live snapshots. -/
def AtWork : RevertPc → Bool
  | .loadSyncJob => false
  | .refuse _ _ => false
  | .selectLive _ counts => counts.restored ≠ 0
  | .commit counts => counts.restored ≠ 0
  | _ => true

/-- The tables the revert has been through had nothing live of the job. -/
def Scanned (empty : EntityType → Prop) : RevertPc → Prop
  | .selectLive tables _ => ∀ et, et ∉ tables → empty et
  | .commit _ => ∀ et, empty et
  | _ => True

variable {pg : Postgres} {run : RevertRun} {pc next : RevertPc} {s : Store}
  {locks : List RowLock} {write : Store → Store}

theorem atWork_next_of_ne {et : EntityType} {rows : List SnapshotRow} {tables : List EntityType}
    {counts : RevertCounts} (h : rows ≠ [] ∨ counts.restored ≠ 0) :
    (RevertPc.next et rows tables counts).AtWork = true := by
  cases rows with
  | nil => simpa [RevertPc.next, AtWork] using h
  | cons row rows => rfl

/-- A revert at work stays at work. -/
theorem atWork_exec (h : pc.AtWork = true)
    (hs : pc.statement pg run s = .exec locks write next) : next.AtWork = true := by
  cases pc with
  | loadSyncJob => exact absurd h (by simp [AtWork])
  | refuse target tables => exact absurd h (by simp [AtWork])
  | selectLive tables counts =>
    have hcounts : counts.restored ≠ 0 := by simpa [AtWork] using h
    cases tables with
    | nil =>
      obtain ⟨-, -, rfl⟩ := Statement.exec.inj hs
      exact h
    | cons et tables =>
      obtain ⟨-, -, rfl⟩ := Statement.exec.inj hs
      exact atWork_next_of_ne (Or.inr hcounts)
  | findPrior turn =>
    simp only [statement] at hs
    split at hs <;> (obtain ⟨-, -, rfl⟩ := Statement.exec.inj hs; rfl)
  | softDelete turn => obtain ⟨-, -, rfl⟩ := Statement.exec.inj hs; rfl
  | clearPrior turn prior => obtain ⟨-, -, rfl⟩ := Statement.exec.inj hs; rfl
  | restore turn prior =>
    simp only [statement] at hs
    split at hs
    · exact absurd hs (by simp)
    · split at hs
      · obtain ⟨-, -, rfl⟩ := Statement.exec.inj hs; rfl
      · split at hs
        · obtain ⟨-, -, rfl⟩ := Statement.exec.inj hs; rfl
        · exact absurd hs (by simp)
  | retire turn updated =>
    obtain ⟨-, -, rfl⟩ := Statement.exec.inj hs
    exact atWork_next_of_ne (Or.inr (Nat.succ_ne_zero _))
  | commit counts => exact absurd hs (by simp [statement])

/-- A revert that has found nothing touches no roster, and goes on finding nothing
or reads a list that is not empty. -/
theorem idle_exec {empty : EntityType → Prop} (h : pc.AtWork = false) (hscan : pc.Scanned empty)
    (hempty : ∀ et, s.roster.liveOf pg et run.syncJobId = [] → empty et)
    (hs : pc.statement pg run s = .exec locks write next) :
    (∀ s, (write s).roster = s.roster) ∧
      ((next.AtWork = false ∧ next.Scanned empty) ∨
        (next.AtWork = true ∧ ∃ et tables counts, pc = .selectLive (et :: tables) counts ∧
          s.roster.liveOf pg et run.syncJobId ≠ [])) := by
  cases pc with
  | loadSyncJob =>
    simp only [statement] at hs
    split at hs
    · exact absurd hs (by simp)
    · obtain ⟨-, rfl, rfl⟩ := Statement.exec.inj hs
      exact ⟨fun _ => rfl, Or.inl ⟨rfl, trivial⟩⟩
  | refuse target tables =>
    cases tables with
    | nil =>
      simp only [statement] at hs
      split at hs
      · obtain ⟨-, rfl, rfl⟩ := Statement.exec.inj hs
        refine ⟨fun _ => rfl, Or.inl ⟨rfl, fun et het => ?_⟩⟩
        exact absurd (by cases et <;> simp) het
      · exact absurd hs (by simp)
    | cons et tables =>
      simp only [statement] at hs
      split at hs
      · exact absurd hs (by simp)
      · obtain ⟨-, rfl, rfl⟩ := Statement.exec.inj hs
        exact ⟨fun _ => rfl, Or.inl ⟨rfl, trivial⟩⟩
  | selectLive tables counts =>
    cases tables with
    | nil =>
      obtain ⟨-, rfl, rfl⟩ := Statement.exec.inj hs
      exact ⟨fun _ => rfl, Or.inl ⟨h, fun et => hscan et List.not_mem_nil⟩⟩
    | cons et tables =>
      obtain ⟨-, rfl, rfl⟩ := Statement.exec.inj hs
      refine ⟨fun _ => rfl, ?_⟩
      cases hl : s.roster.liveOf pg et run.syncJobId with
      | nil =>
        refine Or.inl ⟨h, fun et' het' => ?_⟩
        by_cases he : et' = et
        · exact he ▸ hempty et hl
        · exact hscan et' fun hm => (List.mem_cons.mp hm).elim he het'
      | cons row rows =>
        exact Or.inr ⟨rfl, et, tables, counts, rfl, by rw [hl]; simp⟩
  | commit counts => exact absurd hs (by simp [statement])
  | _ => exact absurd h (by simp [AtWork])

theorem commit_statement {result : RevertOutcome} (hs : pc.statement pg run s = .commit result) :
    ∃ counts, pc = .commit counts ∧ result = run.outcome counts := by
  cases pc with
  | commit counts => exact ⟨counts, rfl, (Statement.commit.inj hs).symm⟩
  | loadSyncJob => simp only [statement] at hs; split at hs <;> exact absurd hs (by simp)
  | refuse target tables =>
    cases tables <;> simp only [statement] at hs <;> split at hs <;> exact absurd hs (by simp)
  | selectLive tables counts => cases tables <;> exact absurd hs (by simp [statement])
  | findPrior turn => simp only [statement] at hs; split at hs <;> exact absurd hs (by simp)
  | restore turn prior =>
    simp only [statement] at hs
    split at hs
    · exact absurd hs (by simp)
    · split at hs
      · exact absurd hs (by simp)
      · split at hs <;> exact absurd hs (by simp)
  | _ => exact absurd hs (by simp [statement])

end RevertPc

theorem RevertPc.Scanned.of_forall {empty : EntityType → Prop} (h : ∀ et, empty et)
    (pc : RevertPc) : pc.Scanned empty := by
  cases pc with
  | selectLive tables counts => exact fun et _ => h et
  | commit counts => exact h
  | _ => trivial

/-- The transaction is open and has found live snapshots. -/
def working : Txn Store RowLock RevertPc RevertOutcome RevertError → Bool
  | .running pc _ _ => pc.AtWork
  | _ => false

section

variable {ι : Type} [Fintype ι] [DecidableEq ι]

/-- A revert reads a list of live snapshots that is not empty only while no other
revert is at work. -/
def RevertConfig.TakesTurns (pg : Postgres) (runs : ι → RevertRun) (c : RevertConfig ι) :
    Move ι → Bool
  | .step i =>
    match c.txn i with
    | .running (.selectLive (et :: _) _) _ writes =>
      ((view c.store writes).roster.liveOf pg et (runs i).syncJobId).isEmpty ||
        decide (∀ j, j ≠ i → working (c.txn j) = false)
    | _ => true
  | .kill _ => true

/-- The reverts as transactions. -/
def revertProgram (pg : Postgres) (runs : ι → RevertRun) (i : ι) :
    RevertPc → Store → Statement Store RowLock RevertPc RevertOutcome RevertError :=
  RevertPc.statement pg (runs i)

/-- No revert has committed, and at most one has found live snapshots. -/
structure RevertConfig.Opened (pg : Postgres) (runs : ι → RevertRun) (syncJobId : Uuid)
    (s : Store) (c : RevertConfig ι) : Prop where
  pristine : c.Pristine (fun i => RevertPc.resume pg (runs i)) (fun _ => .loadSyncJob) s
  alone : ∀ i j, working (c.txn i) = true → working (c.txn j) = true → i = j
  idle : c.All fun _ pc _ writes => pc.AtWork = false →
    (∀ s, (view s writes).roster = s.roster) ∧
      pc.Scanned fun et => s.roster.liveOf pg et syncJobId = []
  atWork : c.All fun _ pc _ _ => pc.AtWork = true → ∃ et, s.roster.liveOf pg et syncJobId ≠ []

/-- The revert `i` has committed what it would have alone; nothing is left for the
others. -/
structure RevertConfig.Done (pg : Postgres) (runs : ι → RevertRun) (syncJobId : Uuid) (s : Store)
    (i : ι) (outcome : RevertOutcome) (c : RevertConfig ι) : Prop where
  committed : c.txn i = .committed outcome
  alone : ∃ s', revert pg (runs i) s = .ok (s', outcome) ∧ c.store.roster = s'.roster
  others : ∀ j outcome', c.txn j = .committed outcome' → j = i ∨ outcome'.snapshotsRestored = 0
  empty : ∀ et, c.store.roster.liveOf pg et syncJobId = []
  idle : c.All fun _ pc _ writes => pc.AtWork = false ∧ ∀ s, (view s writes).roster = s.roster

variable {pg : Postgres} {runs : ι → RevertRun} {syncJobId : Uuid} {s : Store}
  {c : RevertConfig ι}

omit [Fintype ι] [DecidableEq ι] in
theorem opened_start :
    RevertConfig.Opened pg runs syncJobId s (Config.start s fun _ => .loadSyncJob) where
  pristine := Config.pristine_start
  alone _ _ hi _ := absurd hi (by simp [Config.start, working, RevertPc.AtWork])
  idle := Config.all_start fun _ _ => ⟨fun _ => rfl, trivial⟩
  atWork := Config.all_start fun _ h => absurd h (by simp [RevertPc.AtWork])

omit [Fintype ι] in
/-- One transaction moves; if it is at work now, no other one is. -/
theorem alone_set {i : ι} {t : Txn Store RowLock RevertPc RevertOutcome RevertError}
    (h : ∀ i j, working (c.txn i) = true → working (c.txn j) = true → i = j)
    (ht : working t = true → ∀ j, j ≠ i → working (c.txn j) = false) :
    ∀ j k, working ((c.set i t).txn j) = true → working ((c.set i t).txn k) = true → j = k := by
  intro j k hj hk
  rw [Config.txn_set] at hj hk
  by_cases hji : j = i
  · by_cases hki : k = i
    · exact hji.trans hki.symm
    · rw [if_pos hji] at hj
      rw [if_neg hki, ht hj k hki] at hk
      exact absurd hk (by simp)
  · by_cases hki : k = i
    · rw [if_pos hki] at hk
      rw [if_neg hji, ht hk j hji] at hj
      exact absurd hj (by simp)
    · rw [if_neg hji] at hj
      rw [if_neg hki] at hk
      exact h j k hj hk

omit [Fintype ι] [DecidableEq ι] in
/-- What an idle revert reads while nothing is committed. -/
theorem RevertConfig.Opened.idle_exec (h : RevertConfig.Opened pg runs syncJobId s c)
    (hJ : ∀ i, (runs i).syncJobId = syncJobId) {i : ι} {pc next : RevertPc}
    {held locks : List RowLock} {writes : List (Store → Store)} {write : Store → Store}
    (running : c.txn i = .running pc held writes) (hpc : pc.AtWork = false)
    (statement : revertProgram pg runs i pc (view c.store writes) = .exec locks write next) :
    (∀ s, (write s).roster = s.roster) ∧
      ((next.AtWork = false ∧ next.Scanned fun et => s.roster.liveOf pg et syncJobId = []) ∨
        (next.AtWork = true ∧ ∃ et tables counts, pc = .selectLive (et :: tables) counts ∧
          (view c.store writes).roster.liveOf pg et syncJobId ≠ [] ∧
          s.roster.liveOf pg et syncJobId ≠ [])) := by
  obtain ⟨hwrites, hscan⟩ := h.idle i pc held writes running hpc
  have hview : (view c.store writes).roster = s.roster := by
    rw [hwrites, h.pristine.store]
  obtain ⟨hwrite, hnext⟩ := RevertPc.idle_exec hpc hscan
    (fun et he => by rw [hJ i, hview] at he; exact he) statement
  refine ⟨hwrite, hnext.imp_right fun ⟨hw, et, tables, counts, hp, hl⟩ => ?_⟩
  rw [hJ i] at hl
  exact ⟨hw, et, tables, counts, hp, hl, hview ▸ hl⟩

/-- A revert goes to work only when no other one is at work. -/
theorem RevertConfig.Opened.alone_step (h : RevertConfig.Opened pg runs syncJobId s c)
    (hJ : ∀ i, (runs i).syncJobId = syncJobId) {m : Move ι}
    (hm : RevertConfig.TakesTurns pg runs c m = true) :
    ∀ i j, working ((c.step (revertProgram pg runs) m).txn i) = true →
      working ((c.step (revertProgram pg runs) m).txn j) = true → i = j := by
  have hdoes := Config.does_step (revertProgram pg runs) c m
  generalize c.step (revertProgram pg runs) m = c' at hdoes
  cases hdoes with
  | stay => exact h.alone
  | @exec i pc held writes locks write next running statement _ =>
    refine alone_set h.alone fun hnext j hj => ?_
    by_cases hpc : pc.AtWork = true
    · -- it was at work before
      by_contra hwork
      exact hj (h.alone j i (by simpa using hwork) (by rw [running]; exact hpc))
    · have hpc : pc.AtWork = false := by simpa using hpc
      rcases (h.idle_exec hJ running hpc statement).2 with
        ⟨hn, -⟩ | ⟨-, et, tables, counts, rfl, hl, -⟩
      · rw [show working (.running next (held ++ locks) (writes ++ [write])) = next.AtWork
          from rfl, hn] at hnext
        exact absurd hnext (by simp)
      · -- the guard
        simp only [RevertConfig.TakesTurns, running, Bool.or_eq_true, List.isEmpty_iff,
          decide_eq_true_eq, hJ i] at hm
        exact hm.resolve_left hl j hj
  | commit => exact alone_set h.alone fun hw => absurd hw (by simp [working])
  | fail => exact alone_set h.alone fun hw => absurd hw (by simp [working])
  | kill => exact alone_set h.alone fun hw => absurd hw (by simp [working])

omit [Fintype ι] [DecidableEq ι] in
/-- When the first revert commits, the others are idle. -/
theorem RevertConfig.Opened.others_idle (h : RevertConfig.Opened pg runs syncJobId s c) {i : ι}
    {counts : RevertCounts} {held : List RowLock} {writes : List (Store → Store)}
    (running : c.txn i = .running (.commit counts) held writes) {j : ι} (hj : j ≠ i) :
    working (c.txn j) = false := by
  by_contra hwork
  have hwork : working (c.txn j) = true := by simpa using hwork
  by_cases hpc : (RevertPc.commit counts).AtWork = true
  · exact hj (h.alone j i hwork (by rw [running]; exact hpc))
  · -- it went through all tables and found nothing, so nobody else did
    have hscan := (h.idle i _ held writes running (by simpa using hpc)).2
    cases hj' : c.txn j with
    | running pc' held' writes' =>
      rw [hj'] at hwork
      obtain ⟨et, hne⟩ := h.atWork j pc' held' writes' hj' hwork
      exact hne (hscan et)
    | _ => rw [hj'] at hwork; exact absurd hwork (by simp [working])

omit [Fintype ι] in
/-- The first commit. -/
theorem RevertConfig.Opened.commit (h : RevertConfig.Opened pg runs syncJobId s c)
    (hJ : ∀ i, (runs i).syncJobId = syncJobId) (hs : s.Generated) {i : ι}
    {counts : RevertCounts} {held : List RowLock} {writes : List (Store → Store)}
    (running : c.txn i = .running (.commit counts) held writes)
    (alone : revert pg (runs i) s = .ok (view c.store writes, (runs i).outcome counts)) :
    RevertConfig.Done pg runs syncJobId s i ((runs i).outcome counts)
      { c.set i (.committed ((runs i).outcome counts)) with store := view c.store writes } := by
  have hempty := fun et => liveOf_reverts hs (revert_eq_ok alone) et
  refine ⟨by simp, ⟨_, alone, rfl⟩, fun j outcome' hj => ?_, fun et => hJ i ▸ hempty et,
    fun j pc' held' writes' hj => ?_⟩
  · by_contra hne
    exact h.pristine.uncommitted j outcome'
      ((Config.txn_set_of_ne c (fun hji => hne (Or.inl hji)) _).symm.trans hj)
  · have hne : j ≠ i := by
      rintro rfl
      exact absurd ((Config.txn_set_self c j _).symm.trans hj) (by simp)
    have hj' : c.txn j = .running pc' held' writes' :=
      (Config.txn_set_of_ne c hne _).symm.trans hj
    have hidle : pc'.AtWork = false := by
      have hfree := h.others_idle running hne
      rw [hj'] at hfree
      exact hfree
    exact ⟨hidle, (h.idle j pc' held' writes' hj' hidle).1⟩

theorem RevertConfig.Opened.step (h : RevertConfig.Opened pg runs syncJobId s c)
    (hJ : ∀ i, (runs i).syncJobId = syncJobId) (hs : s.Generated) {m : Move ι}
    (hm : RevertConfig.TakesTurns pg runs c m = true) :
    RevertConfig.Opened pg runs syncJobId s (c.step (revertProgram pg runs) m) ∨
      ∃ i outcome, RevertConfig.Done pg runs syncJobId s i outcome
        (c.step (revertProgram pg runs) m) := by
  have hdenotes : ∀ i, Denotes (revertProgram pg runs i) _ :=
    fun i => RevertPc.denotes pg (runs i)
  rcases h.pristine.step hdenotes m with
    hp | ⟨i, pc, held, writes, outcome, running, statement, alone, hstep⟩
  · refine Or.inl ⟨hp, h.alone_step hJ hm, h.idle.step ?_, h.atWork.step ?_⟩
    · intro i pc held writes locks write next _ running hidle statement hnext
      by_cases hpc : pc.AtWork = true
      · -- who is at work stays so
        have hwork : next.AtWork = true := RevertPc.atWork_exec hpc statement
        rw [hnext] at hwork
        exact absurd hwork (by simp)
      · have hpc : pc.AtWork = false := by simpa using hpc
        obtain ⟨hwrite, hcase⟩ := h.idle_exec hJ running hpc statement
        refine ⟨fun s => by rw [view_concat, hwrite, (hidle hpc).1], ?_⟩
        rcases hcase with ⟨-, hscan⟩ | ⟨hwork, -⟩
        · exact hscan
        · rw [hnext] at hwork
          exact absurd hwork (by simp)
    · intro i pc held writes locks write next _ running hwork statement hnext
      by_cases hpc : pc.AtWork = true
      · exact hwork hpc
      · have hpc : pc.AtWork = false := by simpa using hpc
        rcases (h.idle_exec hJ running hpc statement).2 with ⟨hn, -⟩ | ⟨-, et, _, _, -, -, hl⟩
        · rw [hnext] at hn
          exact absurd hn (by simp)
        · exact ⟨et, hl⟩
  · obtain ⟨counts, rfl, rfl⟩ := RevertPc.commit_statement statement
    rw [hstep]
    exact Or.inr ⟨i, _, h.commit hJ hs running alone⟩

theorem RevertConfig.Done.step {i : ι} {outcome : RevertOutcome}
    (h : RevertConfig.Done pg runs syncJobId s i outcome c)
    (hJ : ∀ i, (runs i).syncJobId = syncJobId) (m : Move ι) :
    RevertConfig.Done pg runs syncJobId s i outcome (c.step (revertProgram pg runs) m) := by
  have hset : ∀ {j : ι} {pc : RevertPc} {held : List RowLock} {writes : List (Store → Store)}
      {t : Txn Store RowLock RevertPc RevertOutcome RevertError},
      c.txn j = .running pc held writes →
      (∀ outcome', t = .committed outcome' → outcome'.snapshotsRestored = 0) →
      (∀ pc held writes, t = .running pc held writes →
        pc.AtWork = false ∧ ∀ s, (view s writes).roster = s.roster) →
      RevertConfig.Done pg runs syncJobId s i outcome (c.set j t) := by
    -- whoever moves now is not the one that has committed
    intro j pc held writes t hj hcommitted hrunning
    refine ⟨?_, h.alone, fun k outcome' hk => ?_, h.empty, h.idle.set hrunning⟩
    · rw [Config.txn_set_of_ne c ?_]
      · exact h.committed
      · rintro rfl
        rw [h.committed] at hj
        exact absurd hj (by simp)
    · rw [Config.txn_set] at hk
      split at hk
      · exact Or.inr (hcommitted outcome' hk)
      · exact h.others k outcome' hk
  have hdoes := Config.does_step (revertProgram pg runs) c m
  generalize c.step (revertProgram pg runs) m = c' at hdoes
  cases hdoes with
  | stay => exact h
  | @exec j pc held writes locks write next running statement _ =>
    obtain ⟨hpc, hwrites⟩ := h.idle j pc held writes running
    refine hset running (by simp) fun pc' held' writes' ht => ?_
    obtain ⟨rfl, rfl, rfl⟩ := Txn.running.inj ht
    obtain ⟨hwrite, hcase⟩ := RevertPc.idle_exec hpc
      (.of_forall (fun _ => (trivial : True)) pc) (fun _ _ => trivial) statement
    refine ⟨?_, fun s => by rw [view_concat, hwrite, hwrites]⟩
    rcases hcase with ⟨hn, -⟩ | ⟨-, et, tables, counts, -, hl⟩
    · exact hn
    · -- no snapshot of the job is live any more, so nobody goes to work
      rw [hJ j, hwrites] at hl
      exact absurd (h.empty et) hl
  | @commit j pc held writes result running statement =>
    obtain ⟨counts, rfl, rfl⟩ := RevertPc.commit_statement statement
    obtain ⟨hpc, hwrites⟩ := h.idle j _ held writes running
    -- who was idle to the end has restored nothing
    have hzero : counts.restored = 0 := by simpa [RevertPc.AtWork] using hpc
    obtain ⟨hcommitted, ⟨s', hs', hroster⟩, hothers, hempty, hidle⟩ := hset running
      (t := .committed ((runs j).outcome counts))
      (fun outcome' ht => by rw [← Txn.committed.inj ht]; exact hzero) (by simp)
    refine ⟨hcommitted, ⟨s', hs', (hwrites _).trans hroster⟩, hothers, fun et => ?_, hidle⟩
    rw [hwrites]
    exact hempty et
  | fail running => exact hset running (by simp) (by simp)
  | kill running => exact hset running (by simp) (by simp)

end

open scoped BigOperators in
/-- **A double click.**  After every run of operations and every interleaving of any
number of reverts of one job that all commit, in which a revert reads live snapshots
only while no other one is at work: the snapshots and the canonical rows are those a
single revert leaves, and the reported counts sum to its count. -/
theorem double_click_revert {ι : Type} [Fintype ι] [DecidableEq ι] [Nonempty ι] (pg : Postgres)
    (ops : List Op) (syncJobId : Uuid) (runs : ι → RevertRun)
    (hJ : ∀ i, (runs i).syncJobId = syncJobId) (moves : List (Move ι))
    (hg : Runs.Guarded (Config.step (revertProgram pg runs))
      (fun c m => RevertConfig.TakesTurns pg runs c m = true)
      (Config.start (Runs.run (Store.exec pg) Store.empty ops) fun _ => .loadSyncJob) moves)
    (outcome : ι → RevertOutcome)
    (hc : ∀ i, (Runs.run (Config.step (revertProgram pg runs))
      (Config.start (Runs.run (Store.exec pg) Store.empty ops) fun _ => .loadSyncJob)
      moves).txn i = .committed (outcome i)) :
    ∃ i s' single,
      revert pg (runs i) (Runs.run (Store.exec pg) Store.empty ops) = .ok (s', single) ∧
      (Runs.run (Config.step (revertProgram pg runs))
        (Config.start (Runs.run (Store.exec pg) Store.empty ops) fun _ => .loadSyncJob)
        moves).store.roster = s'.roster ∧
      ∑ j, (outcome j).snapshotsRestored = single.snapshotsRestored := by
  have hs : (Runs.run (Store.exec pg) Store.empty ops).Generated := (Store.generated_run pg ops)
  generalize Runs.run (Store.exec pg) Store.empty ops = s at hg hc hs ⊢
  have hinv := hg.invariant
    (I := fun c => RevertConfig.Opened pg runs syncJobId s c ∨
      ∃ i single, RevertConfig.Done pg runs syncJobId s i single c)
    (fun c m h hm => by
      rcases h with h | ⟨i, single, h⟩
      · exact h.step hJ hs hm
      · exact Or.inr ⟨i, single, h.step hJ m⟩) (Or.inl opened_start)
  rcases hinv with h | ⟨i, single, h⟩
  · obtain ⟨i⟩ := ‹Nonempty ι›
    exact absurd (hc i) (h.pristine.uncommitted i _)
  · obtain ⟨s', halone, hroster⟩ := h.alone
    refine ⟨i, s', single, halone, hroster, ?_⟩
    have hi : outcome i = single := Txn.committed.inj ((hc i).symm.trans h.committed)
    rw [Finset.sum_eq_single i]
    · rw [hi]
    · exact fun j _ hj => (h.others j _ (hc j)).resolve_left hj
    · exact fun hi => absurd (Finset.mem_univ i) hi

section

open Fixture

/-- A student is created and then promoted. -/
def promoted : List Op :=
  [pageOp "L1" "job-1" [event "L1" "evt_001" (student "L1" "s1" (some "04"))],
    pageOp "L1" "job-2" [event "L1" "evt_002" (student "L1" "s1" (some "05")) .updated]]

/-- Two clicks on the second job. -/
def twoClicks (i : Fin 2) : RevertRun where
  syncJobId := "job-2"
  operatorIdentity := "op"
  reason := "bad batch"
  revertGenerationId :=
    match i with
    | 0 => "rev-a"
    | 1 => "rev-b"
  now := 30

/-- The first revert reads its list and goes on to the end; the second one, which
has only inserted its job meanwhile, follows. -/
def oneAfterTheOther : List (Move (Fin 2)) :=
  List.replicate 5 .second ++ List.replicate 14 .first ++ List.replicate 5 .second

/-- Both reverts read their lists first. -/
def bothReadFirst : List (Move (Fin 2)) :=
  List.replicate 6 .first ++ List.replicate 6 .second ++ List.replicate 8 .first ++
    List.replicate 7 .second

/-- What they report. -/
def reported : Fin 2 → RevertOutcome
  | 0 => ⟨"job-2", "rev-a", 1, 1, 0⟩
  | 1 => ⟨"job-2", "rev-b", 0, 0, 0⟩

open scoped BigOperators in
theorem double_click_oneAfterTheOther :
    ∃ i s' single, revert Postgres.reference (twoClicks i) (after promoted) = .ok (s', single) ∧
      (Runs.run (Config.step (revertProgram Postgres.reference twoClicks))
        (Config.start (after promoted) fun _ => .loadSyncJob) oneAfterTheOther).store.roster
          = s'.roster ∧
      ∑ j, (reported j).snapshotsRestored = single.snapshotsRestored :=
  double_click_revert Postgres.reference promoted "job-2" twoClicks (fun _ => rfl)
    oneAfterTheOther (by decide) reported (Fin.forall_fin_two.mpr ⟨rfl, rfl⟩)

/-- The deletion mark of a student. -/
def Roster.studentDeletedAt (r : Roster) (studentId : StudentId) : Option (Option Instant) :=
  (r.students.lookup studentId).map (·.deletedAt)

/-- Both reverts commit and count the snapshot, and the second one soft-deletes the
student that a single revert gives back. -/
theorem double_click_deletes :
    let c : RevertConfig (Fin 2) :=
      Runs.run (Config.step (revertProgram Postgres.reference twoClicks))
        (Config.start (after promoted) fun _ => .loadSyncJob) bothReadFirst
    (∃ a b, c.txn 0 = .committed a ∧ c.txn 1 = .committed b ∧
      a.snapshotsRestored + b.snapshotsRestored = 2) ∧
    c.store.roster.studentDeletedAt "s1" = some (some 30) ∧
    ∀ i, ∃ s' single, revert Postgres.reference (twoClicks i) (after promoted) = .ok (s', single) ∧
      single.snapshotsRestored = 1 ∧ s'.roster.studentDeletedAt "s1" = some none := by
  refine ⟨⟨_, _, rfl, rfl, rfl⟩, by decide, Fin.forall_fin_two.mpr ⟨?_, ?_⟩⟩
  · exact ⟨_, _, rfl, rfl, rfl⟩
  · exact ⟨_, _, rfl, rfl, rfl⟩

end
