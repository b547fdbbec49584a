/-
The supersession invariant: one live snapshot per natural key.

A page, a bulk load and a revert all take the live snapshot of a key away before
they make another one live.  Two inserts do not: a release never supersedes, and
an LEA event is inserted under the id of its entity while the worker supersedes
under the LEA it drains.  `Op.ClearsTheWay` is the guard under which neither
finds a live snapshot, and `supersession_invariant` says that nothing else is
needed, whatever the operations and their order.

* `supersession_invariant` — guarded runs keep one live snapshot per key;
* `release_breaks_supersession` — a release over a replayed enrollment does not.
-/
import EdlinkRostering.System

/-- In every snapshot table every natural key has at most one live row. -/
def Roster.OneLive (r : Roster) : Prop := ∀ et, (r.snapshots et).AtMostOneLive

namespace Roster.OneLive

theorem iff_live {r : Roster} : r.OneLive ↔ ∀ et l k, (r.live et l k).length ≤ 1 := Iff.rfl

theorem eq {r : Roster} (h : r.OneLive) {et : EntityType} {l : LeaId} {k : String}
    {r₁ r₂ : SnapshotRow} (h₁ : r₁ ∈ r.live et l k) (h₂ : r₂ ∈ r.live et l k) : r₁ = r₂ :=
  (h et).eq h₁ h₂

theorem of_snapshots {r r' : Roster} (h : r.OneLive) (hs : r'.snapshots = r.snapshots) :
    r'.OneLive := by
  rw [OneLive, hs]; exact h

theorem empty : Roster.empty.OneLive := fun _ _ _ => Nat.zero_le 1

theorem supersede {r : Roster} (h : r.OneLive) (et : EntityType) (l : LeaId) (k : String)
    (g : Uuid) (i : Instant) : (r.supersede et l k g i).OneLive := by
  rw [iff_live]
  intro et' l' k'
  rw [live_supersede]
  split
  · exact Nat.zero_le 1
  · exact h et' l' k'

/-- A snapshot may be inserted where nothing is live. -/
theorem insertSnapshot {r : Roster} (h : r.OneLive) {et : EntityType} {row : SnapshotRow}
    (hclear : r.live et (row.stored et).leaId row.naturalKey = []) :
    (r.insertSnapshot et row).OneLive := by
  rw [iff_live]
  intro et' l' k'
  rw [live_insertSnapshot]
  split
  · next hk =>
    obtain ⟨rfl, hk⟩ := hk
    obtain ⟨rfl, rfl, -⟩ := SnapshotRow.liveAt_iff.mp hk
    rw [SnapshotRow.stored_naturalKey, hclear]
    exact Nat.le_refl 1
  · rw [List.append_nil]; exact h et' l' k'

/-- Superseding the key first makes the room. -/
theorem replace {r : Roster} (h : r.OneLive) {et : EntityType} {row : SnapshotRow}
    (hrow : (row.stored et).leaId = row.leaId) (g : Uuid) (i : Instant) :
    ((r.supersede et row.leaId row.naturalKey g i).insertSnapshot et row).OneLive := by
  refine (h.supersede et _ _ g i).insertSnapshot ?_
  rw [live_supersede, if_pos ⟨rfl, hrow, rfl⟩]

/-- A turn of the revert swaps one live snapshot for at most one other of the
same key. -/
theorem rewind (pg : Postgres) {run : RevertRun} {et : EntityType} {r : Roster} (h : r.OneLive)
    {row : SnapshotRow} (hrow : row ∈ (r.snapshots et).rows)
    (hlive : row.supersededByGenerationId = none) :
    (r.rewind run et row
      (r.findPriorLiveSnapshot pg et row.leaId row.naturalKey run.syncJobId)).OneLive := by
  generalize hp : r.findPriorLiveSnapshot pg et row.leaId row.naturalKey run.syncJobId = prior
  have hprior : ∀ p, prior = some p → p ∈ (r.snapshots et).rows ∧
      p.supersededByGenerationId ≠ none := by
    rintro p rfl
    obtain ⟨hm, -, -, hs⟩ := mem_of_findPrior hp
    exact ⟨hm, by simp [hs]⟩
  have hmem : row ∈ r.live et row.leaId row.naturalKey :=
    SnapshotTable.mem_live.mpr ⟨hrow, rfl, rfl, hlive⟩
  intro et' l k
  rw [SnapshotTable.live_length_le_one_iff]
  intro x hx y hy
  replace hx := (mem_live_rewind hrow hlive hprior).mp hx
  replace hy := (mem_live_rewind hrow hlive hprior).mp hy
  -- a live row of the prior's key is the retired row, which is no longer live
  have hmixed : ∀ x p, prior = some p → p.leaId = l → p.naturalKey = k →
      x ∈ r.live et l k → x = row := by
    rintro x p rfl rfl rfl hx
    obtain ⟨-, hl, hk, -⟩ := mem_of_findPrior hp
    rw [hl, hk] at hx
    exact h.eq hx hmem
  rcases hx with ⟨hx, hxr⟩ | ⟨rfl, p, hpp, rfl, hl, hk⟩
  · rcases hy with ⟨hy, -⟩ | ⟨rfl, p, hpp, rfl, hl, hk⟩
    · exact h.eq hx hy
    · exact absurd ⟨rfl, hmixed x p hpp hl hk hx⟩ hxr
  · rcases hy with ⟨hy, hyr⟩ | ⟨-, p', hpp', rfl, -, -⟩
    · exact absurd ⟨rfl, hmixed y p hpp hl hk hy⟩ hyr
    · rw [hpp] at hpp'
      rw [Option.some.inj hpp']

end Roster.OneLive

/-! ### The guard -/

/-- The other LEAs that some of the events are stored under. -/
def foreignLeas (leaId : LeaId) (events : List NormalizedEvent) : List LeaId :=
  (events.filter fun event => event.foreignLea leaId).map (·.naturalKey)

/-- An accepted LEA event that is stored under another LEA than the drained one
is the only one for it in its page and finds no live snapshot there. -/
def PageRun.ClearsTheWay (run : PageRun) (s : Store) : Prop :=
  run.blocked s = false → (foreignLeas run.leaId (run.accepted s)).Nodup ∧
    ∀ id ∈ foreignLeas run.leaId (run.accepted s), s.roster.live .lea id id = []

/-- A release that passes its checks finds no live snapshot for its enrollment. -/
def ReleaseRun.ClearsTheWay (run : ReleaseRun) (s : Store) : Prop :=
  match s.quarantine[run.quarantineId]? with
  | none => True
  | some row => row.resolvedAt = none →
    match checkReleasable row with
    | .error _ => True
    | .ok (payload, studentId) => s.roster.studentExists row.leaId studentId = true →
      match Dict.requiredColumn payload "id" with
      | none => True
      | some id => s.roster.live .enrollment row.leaId id = []

/-- The guard of the supersession invariant. -/
def Op.ClearsTheWay (s : Store) : Op → Prop
  | .page run => run.ClearsTheWay s
  | .release run => run.ClearsTheWay s
  | .bulkLoad _ | .revert _ | .reject _ | .retry _ => True

instance (run : PageRun) (s : Store) : Decidable (run.ClearsTheWay s) := by
  unfold PageRun.ClearsTheWay; infer_instance

instance (run : ReleaseRun) (s : Store) : Decidable (run.ClearsTheWay s) := by
  unfold ReleaseRun.ClearsTheWay
  split
  · infer_instance
  · next row _ =>
    split
    · infer_instance
    · next payload studentId _ => split <;> infer_instance

instance (s : Store) : (op : Op) → Decidable (op.ClearsTheWay s)
  | .page _ | .bulkLoad _ | .revert _ | .release _ | .reject _ | .retry _ => by
    unfold Op.ClearsTheWay; infer_instance

/-! ### Pages -/

theorem oneLive_applyEvent {pg : Postgres} {leaId : LeaId} {syncJobId : Uuid} {now : Instant}
    {r r' : Roster} {event : NormalizedEvent} (h : r.OneLive)
    (hclear : event.foreignLea leaId = true →
      r.live .lea event.naturalKey event.naturalKey = [])
    (ha : applyEventRoster pg leaId syncJobId now r event = some r') : r'.OneLive := by
  rcases applyEventRoster_eq_some.mp ha with ⟨-, rfl⟩ | ⟨-, row, -, -, rfl⟩
  · exact h
  · refine Roster.OneLive.of_snapshots ?_ (Roster.snapshots_setCanonical _ _ _)
    by_cases hf : event.foreignLea leaId = true
    · have hc := hclear hf
      have ht : event.entityType = .lea := by
        simpa using (Bool.and_eq_true_iff.mp hf).1
      refine (h.supersede _ _ _ _ _).insertSnapshot ?_
      rw [Roster.live_supersede]
      split
      · rfl
      · rw [SnapshotRow.stored_leaId, if_pos ht, ht]
        exact hc
    · have hl : ((event.snapshotRow leaId syncJobId now).stored event.entityType).leaId
          = leaId := by
        rw [SnapshotRow.stored_leaId]
        split
        · next ht =>
          show event.naturalKey = leaId
          simpa [NormalizedEvent.foreignLea, ht] using hf
        · rfl
      exact h.replace hl syncJobId now

/-- An event for another key leaves the live snapshots of an LEA alone. -/
theorem live_lea_applyEvent {pg : Postgres} {leaId : LeaId} {syncJobId : Uuid} {now : Instant}
    {r r' : Roster} {event : NormalizedEvent} {id : LeaId} (hid : id ≠ leaId)
    (hne : event.foreignLea leaId = true → event.naturalKey ≠ id)
    (ha : applyEventRoster pg leaId syncJobId now r event = some r') :
    r'.live .lea id id = r.live .lea id id := by
  rcases applyEventRoster_eq_some.mp ha with ⟨-, rfl⟩ | ⟨-, row, -, -, rfl⟩
  · rfl
  · rw [Roster.live_setCanonical, Roster.live_pushSnapshot, if_neg fun h => hid h.2.1, if_neg,
      List.append_nil]
    rintro ⟨ht, -, hk⟩
    refine hne ?_ hk.symm
    simp [NormalizedEvent.foreignLea, ← ht, ← hk, hid]

theorem foreignLeas_cons (leaId : LeaId) (event : NormalizedEvent)
    (events : List NormalizedEvent) : foreignLeas leaId (event :: events)
      = if event.foreignLea leaId then event.naturalKey :: foreignLeas leaId events
        else foreignLeas leaId events := by
  rw [foreignLeas, List.filter_cons]
  split <;> rfl

theorem ne_of_mem_foreignLeas {leaId id : LeaId} {events : List NormalizedEvent}
    (h : id ∈ foreignLeas leaId events) : id ≠ leaId := by
  obtain ⟨e, he, rfl⟩ := List.mem_map.mp h
  simpa [NormalizedEvent.foreignLea] using (Bool.and_eq_true_iff.mp (List.mem_filter.mp he).2).2

theorem oneLive_applyEvents {pg : Postgres} {leaId : LeaId} {syncJobId : Uuid} {now : Instant}
    {events : List NormalizedEvent} {r r' : Roster} (h : r.OneLive)
    (hnodup : (foreignLeas leaId events).Nodup)
    (hclear : ∀ id ∈ foreignLeas leaId events, r.live .lea id id = [])
    (ha : applyEvents pg leaId syncJobId now events r = some r') : r'.OneLive := by
  induction events generalizing r with
  | nil =>
    obtain rfl : r = r' := Option.some.inj ha
    exact h
  | cons event events ih =>
    obtain ⟨r₁, h₁, h₂⟩ := applyEvents_cons_eq_some.mp ha
    rw [foreignLeas_cons] at hnodup hclear
    by_cases hf : event.foreignLea leaId = true
    · rw [if_pos hf] at hnodup hclear
      obtain ⟨hnot, hnodup⟩ := List.nodup_cons.mp hnodup
      refine ih (oneLive_applyEvent h (fun _ => hclear _ List.mem_cons_self) h₁) hnodup
        (fun id hid => ?_) h₂
      rw [live_lea_applyEvent (ne_of_mem_foreignLeas hid) (fun _ heq => hnot (heq ▸ hid)) h₁]
      exact hclear _ (List.mem_cons_of_mem _ hid)
    · rw [if_neg hf] at hnodup hclear
      refine ih (oneLive_applyEvent h (fun hf' => absurd hf' hf) h₁) hnodup (fun id hid => ?_) h₂
      rw [live_lea_applyEvent (ne_of_mem_foreignLeas hid) (fun hf' => absurd hf' hf) h₁]
      exact hclear _ hid

/-! ### Every operation -/

theorem oneLive_page {pg : Postgres} {run : PageRun} {s s' : Store} (h : s.roster.OneLive)
    (hg : run.ClearsTheWay s) (hc : run.Commits pg s s') : s'.roster.OneLive := by
  cases hb : run.blocked s with
  | true => rw [(hc.blocked hb).1]; exact h
  | false =>
    obtain ⟨hnodup, hclear⟩ := hg hb
    refine oneLive_applyEvents (h.of_snapshots (Roster.snapshots_ensureLeaExists _ _)) hnodup
      (fun id hid => ?_) (hc.roster hb)
    rw [Roster.live, Roster.snapshots_ensureLeaExists]
    exact hclear id hid

theorem oneLive_applyEntry {pg : Postgres} {leaId : LeaId} {syncJobId : Uuid}
    {createdAt : Instant} {r r' : Roster} {entry : PartnerEntry} {n n' : Nat} (h : r.OneLive)
    (ha : applyEntryCounted pg leaId syncJobId createdAt (r, n) entry = some (r', n')) :
    r'.OneLive := by
  obtain ⟨k, -, ⟨-, rfl⟩ | ⟨-, row, -, -, rfl⟩⟩ := applyEntryCounted_eq_some ha
  · exact h
  · have hne : entry.entityType ≠ .lea := by cases entry <;> simp [PartnerEntry.entityType]
    have hl : ((entry.snapshotRow leaId k syncJobId createdAt).stored entry.entityType).leaId
        = leaId := by rw [SnapshotRow.stored_of_ne hne]; rfl
    exact (h.replace hl syncJobId createdAt).of_snapshots (Roster.snapshots_setCanonical _ _ _)

theorem oneLive_bulkLoad {pg : Postgres} {run : BulkRun} {s : Store} (h : s.roster.OneLive) :
    (bulkLoad pg run s).1.roster.OneLive :=
  bulkLoad_induction (P := Roster.OneLive)
    (fun _ hr => hr.of_snapshots (Roster.snapshots_ensureLeaExists _ _))
    (fun _ _ _ _ _ _ _ hr ha => oneLive_applyEntry hr ha) h

theorem oneLive_revert {pg : Postgres} {run : RevertRun} {s s' : Store} {outcome : RevertOutcome}
    (h : s.roster.OneLive) (hr : Reverts pg run s s' outcome) : s'.roster.OneLive := by
  obtain ⟨counts, ht, -⟩ := hr.roster
  refine revertTables_induction (P := fun r _ => r.OneLive)
    (fun et r counts r' counts' row hone hrow _ hlive hturn => ?_) h ht
  exact (hone.rewind pg hrow hlive).of_snapshots (revertRow_eq_some hturn).1

theorem oneLive_release {run : ReleaseRun} {s s' : Store} (h : s.roster.OneLive)
    (hg : run.ClearsTheWay s) (hr : Releases run s s') : s'.roster.OneLive := by
  obtain ⟨row, payload, studentId, snapshot, id, enrollment, hrow, hres, hp, ht, hst, hex, hsnap,
    hen, hu, -⟩ := hr.released
  obtain ⟨-, hr'⟩ := Roster.upsert_eq_some.mp hu
  obtain ⟨hid, hl, -⟩ := snapshotRow_eq_some hsnap
  rw [hr']
  refine (h.insertSnapshot ?_).of_snapshots (Roster.snapshots_setCanonical _ _ _)
  simp only [ReleaseRun.ClearsTheWay, hrow, checkReleasable_eq_ok.mpr ⟨hp, ht, hst⟩, hid] at hg
  rw [SnapshotRow.stored_of_ne (by simp), hl]
  exact hg hres hex

theorem oneLive_exec {pg : Postgres} {s : Store} {op : Op} (h : s.roster.OneLive)
    (hg : op.ClearsTheWay s) : (s.exec pg op).roster.OneLive := by
  rcases s.exec_cases pg op with he | he
  · rw [he]; exact h
  · cases op with
    | page run => exact oneLive_page h hg he
    | bulkLoad run => exact oneLive_bulkLoad h
    | revert run =>
      obtain ⟨_, hr⟩ := he
      exact oneLive_revert h hr
    | release run => exact oneLive_release h hg he
    | reject run =>
      obtain ⟨_, -, -, he⟩ := he
      rw [he]; exact h
    | retry run =>
      obtain ⟨_, -, -, he⟩ := he
      rw [he]; exact h

/-- **The supersession invariant.**  After every run of pages, bulk loads,
reverts, releases, rejects and retries in which no insert that does not supersede
finds a live snapshot, every natural key of every snapshot table has at most one
snapshot with `superseded_by_generation_id IS NULL`. -/
theorem supersession_invariant (pg : Postgres) (ops : List Op)
    (h : Runs.Guarded (Store.exec pg) Op.ClearsTheWay Store.empty ops) (et : EntityType)
    (leaId : LeaId) (naturalKey : String) :
    (((Runs.run (Store.exec pg) Store.empty ops).roster.snapshots et).live leaId
      naturalKey).length ≤ 1 :=
  h.invariant (I := fun s => s.roster.OneLive) (fun _ _ hs hg => oneLive_exec hs hg)
    Roster.OneLive.empty et leaId naturalKey

section

open Fixture

/-- An enrollment is quarantined, its student and a second event for it arrive, and
the operator releases the first. -/
def releaseAfterReplay : List Op :=
  [pageOp "L1" "job-1" [event "L1" "evt_001" (enrollment "L1" "e1" "s1")],
    pageOp "L1" "job-2" [event "L1" "evt_002" (student "L1" "s1"),
      event "L1" "evt_003" (enrollment "L1" "e1" "s1") .updated],
    releaseOp 0 "rel-1"]

/-- The same release before anything else is live for the enrollment, and a later
update of it that is reverted. -/
def releaseBeforeReplay : List Op :=
  [pageOp "L1" "job-1" [event "L1" "evt_001" (enrollment "L1" "e1" "s1"),
      event "L1" "evt_002" (lea "L2")],
    pageOp "L1" "job-2" [event "L1" "evt_003" (student "L1" "s1")],
    releaseOp 0 "rel-1",
    pageOp "L1" "job-3" [event "L1" "evt_004" (enrollment "L1" "e1" "s1" "class-2") .updated],
    revertOp "job-3" "rev-1"]

theorem supersession_releaseBeforeReplay :
    (((Runs.run (Store.exec Postgres.reference) Store.empty
      releaseBeforeReplay).roster.snapshots .enrollment).live "L1" "e1").length ≤ 1 :=
  supersession_invariant Postgres.reference releaseBeforeReplay (by decide) .enrollment "L1" "e1"

theorem release_breaks_supersession :
    ¬ (((after releaseAfterReplay).roster.snapshots .enrollment).live "L1" "e1").length ≤ 1 := by
  decide

end
