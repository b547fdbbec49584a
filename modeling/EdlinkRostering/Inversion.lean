/-
A revert against the page it reverts.

A page marks the snapshot it supersedes with its own job and a revert of the job
looks for that mark.  The mark stays on the one snapshot that was live before the
page, whatever pages and reverts come later, until a revert of the job clears it
and retires the job's own snapshot for good.

* `Roster.Chained` — the markers of an entity's history;
* `Roster.Remembers` — what the history keeps of the state before the page;
* `revert_inverts_page` — an accepted revert brings that state back.
-/
import EdlinkRostering.Reflection
import EdlinkRostering.DoubleRevert

/-- The live view of an entity: its canonical row, unless it is soft-deleted. -/
def Roster.liveView (r : Roster) (et : EntityType) (id : String) : Option CanonicalRow :=
  (r.canonical et id).filter fun row => row.deletedAt.isNone

/-- The markers of an entity's history are jobs that are `known`, a live snapshot has
no instant of supersession, and an entity without one is not in the live view. -/
structure Roster.Chained (known : Uuid → Prop) (et : EntityType) (leaId : LeaId) (id : String)
    (r : Roster) : Prop extends r.Faithful et leaId id where
  marked : ∀ x ∈ r.history et id, ∀ g, x.supersededByGenerationId = some g → known g
  stamped : ∀ x ∈ r.history et id, x.supersededByGenerationId = none → x.supersededAt = none
  vacant : r.live et leaId id = [] → r.liveView et id = none

section

variable {pg : Postgres} {known : Uuid → Prop} {et : EntityType} {leaId : LeaId} {id : String}
  {r r' : Roster}

theorem mark_none_none {x : SnapshotRow} (h : x.supersededByGenerationId = none)
    (hat : x.supersededAt = none) : x.mark none none = x := by
  rw [SnapshotRow.mark, ← h, ← hat]

theorem mem_live_iff_history {x : SnapshotRow} : x ∈ r.live et leaId id ↔
    x ∈ r.history et id ∧ x.leaId = leaId ∧ x.supersededByGenerationId = none := by
  rw [Roster.live, SnapshotTable.mem_live, Roster.mem_history]
  tauto

namespace Roster.Chained

theorem empty : Roster.empty.Chained known et leaId id where
  toFaithful := .empty
  marked _ h := absurd h List.not_mem_nil
  stamped _ h := absurd h List.not_mem_nil
  vacant _ := by cases et <;> rfl

theorem mono {known' : Uuid → Prop} (h : r.Chained known et leaId id)
    (hk : ∀ g, known g → known' g) : r.Chained known' et leaId id :=
  ⟨h.toFaithful, fun x hx g hg => hk g (h.marked x hx g hg), h.stamped, h.vacant⟩

theorem sameAt (h : r.Chained known et leaId id) (hs : SameAt et id r r') :
    r'.Chained known et leaId id where
  toFaithful := h.toFaithful.sameAt hs
  marked x hx := h.marked x (hs.history ▸ hx)
  stamped x hx := h.stamped x (hs.history ▸ hx)
  vacant := by rw [hs.live, liveView, hs.canonical]; exact h.vacant

theorem replace (h : r.Chained known et leaId id) (het : et ≠ .lea) {g : Uuid} {i : Instant}
    {new : SnapshotRow} {row : CanonicalRow} (hg : known g) (hkey : new.naturalKey = id)
    (hlea : new.leaId = leaId) (hlive : new.supersededByGenerationId = none)
    (hat : new.supersededAt = none) (htimed : new.sourceEventAt ≠ none)
    (hrow : row.entityType = et) (hnew : new.Reflects et row) :
    (r.replace et leaId id g i new row).Chained known et leaId id where
  toFaithful := h.toFaithful.replace het hkey hlea hlive (fun _ => htimed) hrow hnew
  marked x hx g' hg' := by
    rcases (mem_history_replace het hkey).mp hx with ⟨old, hold, rfl⟩ | rfl
    · split at hg'
      · rw [← Option.some.inj hg']
        exact hg
      · exact h.marked old hold g' hg'
    · rw [hlive] at hg'
      exact absurd hg' (by simp)
  stamped x hx hnone := by
    rcases (mem_history_replace het hkey).mp hx with ⟨old, hold, rfl⟩ | rfl
    · split at hnone
      · exact absurd hnone (by simp)
      · next hl => rw [if_neg hl]; exact h.stamped old hold hnone
    · exact hat
  vacant hnil := by
    rw [live_replace het hkey hlea hlive] at hnil
    exact absurd hnil (by simp)

end Roster.Chained

/-! ### One turn of a revert -/

section

variable {run : RevertRun} {counts counts' : RevertCounts} {row : SnapshotRow}

/-- The history of the entity after a turn on its live snapshot. -/
theorem mem_history_turn (hrow : row ∈ (r.snapshots et).rows)
    (hlive : row.supersededByGenerationId = none)
    (hstep : revertRow pg run et (r, counts) row = some (r', counts')) {x : SnapshotRow} :
    x ∈ r'.history et row.naturalKey ↔
      x = row.mark (some run.revertGenerationId) (some run.now) ∨
      (∃ p, r.findPriorLiveSnapshot pg et row.leaId row.naturalKey run.syncJobId = some p ∧
        x = p.mark none none) ∨
      (x ∈ r.history et row.naturalKey ∧ x ≠ row ∧
        r.findPriorLiveSnapshot pg et row.leaId row.naturalKey run.syncJobId ≠ some x) := by
  rw [Roster.history_congr (revertRow_eq_some hstep).1]
  refine mem_history_rewind hrow fun p hp => ?_
  obtain ⟨hpm, hps⟩ := prior_mem_history hp
  refine ⟨hpm, ?_⟩
  rintro rfl
  rw [hlive] at hps
  exact absurd hps (by simp)

/-- The row that a restored snapshot gives back is the one it reflected. -/
theorem liveView_of_payload {payload : Dict} {deletedUpstream : Bool}
    {sourceEventAt : Option Instant} {c new : CanonicalRow}
    (hc : canonicalOfPayload et leaId payload c.deletedAt = some c)
    (hdel : c.deletedAt.isSome = deletedUpstream)
    (htimed : deletedUpstream = true → sourceEventAt ≠ none)
    (hnew : canonicalOfPayload et leaId payload
      (if deletedUpstream then sourceEventAt else none) = some new) :
    (some new).filter (fun row : CanonicalRow => row.deletedAt.isNone)
      = (some c).filter fun row => row.deletedAt.isNone := by
  obtain ⟨hnewdel, -⟩ := canonicalOfPayload_deletedAt hnew
  cases deletedUpstream with
  | true =>
    have hboth : new.deletedAt ≠ none ∧ c.deletedAt ≠ none :=
      ⟨by rw [hnewdel]; exact htimed rfl, Option.isSome_iff_ne_none.mp hdel⟩
    rw [Option.filter_some, Option.filter_some]
    simp [hboth]
  | false =>
    have hnone : c.deletedAt = none := by simpa using hdel
    rw [hnone] at hc
    rw [Option.some.inj (hnew.symm.trans hc)]

/-- The live view after a turn that finds no prior snapshot. -/
theorem liveView_turn_none (hstep : revertRow pg run et (r, counts) row = some (r', counts'))
    {c : CanonicalRow} (hc : r.canonical et row.naturalKey = some c)
    (hp : r.findPriorLiveSnapshot pg et row.leaId row.naturalKey run.syncJobId = none) :
    r'.liveView et row.naturalKey = none := by
  obtain ⟨-, hrewound, -⟩ := revertRow_eq_some hstep
  rcases hrewound.canonical_self hc with ⟨-, hcan⟩ | ⟨p, -, hpp, -⟩
  · rw [Roster.liveView, hcan, Option.filter_some, CanonicalRow.deletedAt_withDeletedAt]
    rfl
  · rw [hp] at hpp
    exact absurd hpp (by simp)

theorem Roster.Chained.turn (h : r.Chained known et leaId row.naturalKey)
    (hg : known run.revertGenerationId) (hrow : row ∈ (r.snapshots et).rows)
    (hlive : row.supersededByGenerationId = none)
    (hstep : revertRow pg run et (r, counts) row = some (r', counts')) :
    r'.Chained known et leaId row.naturalKey where
  toFaithful := faithful_revertRow h.toFaithful hrow hlive hstep
  marked x hx g hxg := by
    rcases (mem_history_turn hrow hlive hstep).mp hx with rfl | ⟨p, -, rfl⟩ | ⟨hx, -⟩
    · rw [← Option.some.inj hxg]
      exact hg
    · exact absurd hxg (by simp)
    · exact h.marked x hx g hxg
  stamped x hx hnone := by
    rcases (mem_history_turn hrow hlive hstep).mp hx with rfl | ⟨p, -, rfl⟩ | ⟨hx, -⟩
    · exact absurd hnone (by simp)
    · rfl
    · exact h.stamped x hx hnone
  vacant hnil := by
    have hmem : row ∈ r.live et leaId row.naturalKey :=
      mem_live_iff_history.mpr ⟨Roster.mem_history.mpr ⟨hrow, rfl⟩,
        h.owned row (Roster.mem_history.mpr ⟨hrow, rfl⟩), hlive⟩
    obtain ⟨c, hc, -⟩ := h.reflects row hmem
    refine liveView_turn_none hstep hc ?_
    refine Option.eq_none_iff_forall_ne_some.mpr fun p hp => ?_
    have hback := (mem_live_turn h.toFaithful hrow hlive hstep).mpr ⟨p, hp, rfl⟩
    rw [hnil] at hback
    exact List.not_mem_nil hback

end

/-! ### While the page runs -/

/-- What a page that runs as `job` has done to the entity so far: the snapshot that was
live before is live still, or bears its mark. -/
structure Roster.Publishing (job : Uuid) (now : Instant) (et : EntityType) (leaId : LeaId)
    (id : String) (before r : Roster) : Prop where
  marks : ∀ z ∈ r.history et id, z.supersededByGenerationId = some job → z.generationId ≠ job →
    ∃ y ∈ before.live et leaId id, z = y.mark (some job) (some now)
  prior : ∀ y ∈ before.live et leaId id,
    (y ∈ r.history et id ∧ ∀ z ∈ r.history et id, z.generationId ≠ job) ∨
      y.mark (some job) (some now) ∈ r.history et id
  live : ∀ x ∈ r.live et leaId id, x.generationId = job ∨ x ∈ before.live et leaId id

/-- What the history keeps of the state before the page: the mark of the job is on
the snapshot that was live then, or a revert has taken it off and retired every
snapshot of the job. -/
structure Roster.Remembers (job : Uuid) (now : Instant) (reverted : Uuid → Prop)
    (et : EntityType) (leaId : LeaId) (id : String) (before r : Roster) : Prop where
  marks : ∀ z ∈ r.history et id, z.supersededByGenerationId = some job → z.generationId ≠ job →
    ∃ y ∈ before.live et leaId id, z = y.mark (some job) (some now)
  prior : ∀ y ∈ before.live et leaId id, y.mark (some job) (some now) ∈ r.history et id ∨
    ∀ z ∈ r.history et id, z.generationId = job →
      ∃ g, z.supersededByGenerationId = some g ∧ reverted g

variable {job : Uuid} {now : Instant} {reverted : Uuid → Prop} {before : Roster}

namespace Roster.Publishing

/-- Before the page nothing is marked with its job and nothing is of its generation. -/
theorem start (hmark : ∀ x ∈ before.history et id, x.supersededByGenerationId ≠ some job)
    (hgen : ∀ x ∈ before.history et id, x.generationId ≠ job) :
    before.Publishing job now et leaId id before where
  marks z hz hm := absurd hm (hmark z hz)
  prior _ hy := Or.inl ⟨(mem_live_iff_history.mp hy).1, hgen⟩
  live _ hx := Or.inr hx

theorem sameAt (h : before.Publishing job now et leaId id r) (hs : SameAt et id r r') :
    before.Publishing job now et leaId id r' where
  marks := by rw [hs.history]; exact h.marks
  prior := by rw [hs.history]; exact h.prior
  live := by rw [hs.live]; exact h.live

theorem replace (h : before.Publishing job now et leaId id r) (het : et ≠ .lea)
    {new : SnapshotRow} {row : CanonicalRow} (hkey : new.naturalKey = id)
    (hlea : new.leaId = leaId) (hgen : new.generationId = job)
    (hlive : new.supersededByGenerationId = none) :
    before.Publishing job now et leaId id (r.replace et leaId id job now new row) where
  marks z hz hm hg := by
    rcases (mem_history_replace het hkey).mp hz with ⟨old, hold, rfl⟩ | rfl
    · by_cases hl : old.liveAt leaId id = true
      · rw [if_pos hl] at hg ⊢
        have hmem : old ∈ r.live et leaId id :=
          mem_live_iff_history.mpr ⟨hold, (SnapshotRow.liveAt_iff.mp hl).1,
            (SnapshotRow.liveAt_iff.mp hl).2.2⟩
        exact ⟨old, (h.live old hmem).resolve_left hg, rfl⟩
      · rw [if_neg hl] at hm hg ⊢
        exact h.marks old hold hm hg
    · exact absurd hgen hg
  prior y hy := by
    obtain ⟨-, hyl, hynone⟩ := mem_live_iff_history.mp hy
    refine Or.inr ((mem_history_replace het hkey).mpr (Or.inl ?_))
    rcases h.prior y hy with ⟨hm, -⟩ | hm
    · refine ⟨y, hm, ?_⟩
      rw [if_pos (SnapshotRow.liveAt_iff.mpr ⟨hyl, (mem_history.mp hm).2, hynone⟩)]
    · refine ⟨_, hm, ?_⟩
      rw [if_neg]
      exact fun hl => absurd (SnapshotRow.liveAt_iff.mp hl).2.2 (by simp)
  live x hx := by
    rw [live_replace het hkey hlea hlive, List.mem_singleton] at hx
    subst hx
    exact Or.inl hgen

/-- When the page commits. -/
theorem remembers (h : before.Publishing job now et leaId id r) :
    before.Remembers job now reverted et leaId id r where
  marks := h.marks
  prior y hy := by
    rcases h.prior y hy with ⟨-, hnone⟩ | hm
    · exact Or.inr fun z hz hg => absurd hg (hnone z hz)
    · exact Or.inl hm

end Roster.Publishing

/-! ### After the page -/

namespace Roster.Remembers

theorem mono {reverted' : Uuid → Prop} (h : before.Remembers job now reverted et leaId id r)
    (hr : ∀ g, reverted g → reverted' g) : before.Remembers job now reverted' et leaId id r where
  marks := h.marks
  prior y hy := (h.prior y hy).imp_right fun hd z hz hg =>
    (hd z hz hg).imp fun g hg => ⟨hg.1, hr g hg.2⟩

theorem sameAt (h : before.Remembers job now reverted et leaId id r) (hs : SameAt et id r r') :
    before.Remembers job now reverted et leaId id r' where
  marks := by rw [hs.history]; exact h.marks
  prior := by rw [hs.history]; exact h.prior

/-- Another page leaves the marks of the job and its dead snapshots. -/
theorem replace (h : before.Remembers job now reverted et leaId id r) (het : et ≠ .lea)
    {g : Uuid} {i : Instant} {new : SnapshotRow} {row : CanonicalRow} (hg : g ≠ job)
    (hkey : new.naturalKey = id) (hgen : new.generationId = g)
    (hlive : new.supersededByGenerationId = none) :
    before.Remembers job now reverted et leaId id (r.replace et leaId id g i new row) where
  marks z hz hm hzg := by
    rcases (mem_history_replace het hkey).mp hz with ⟨old, hold, rfl⟩ | rfl
    · split at hm
      · exact absurd (Option.some.inj hm) hg
      · next hl => rw [if_neg hl] at hzg ⊢; exact h.marks old hold hm hzg
    · rw [hlive] at hm
      exact absurd hm (by simp)
  prior y hy := by
    rcases h.prior y hy with hm | hdead
    · refine Or.inl ((mem_history_replace het hkey).mpr (Or.inl ⟨_, hm, ?_⟩))
      rw [if_neg]
      exact fun hl => absurd (SnapshotRow.liveAt_iff.mp hl).2.2 (by simp)
    · refine Or.inr fun z hz hzg => ?_
      rcases (mem_history_replace het hkey).mp hz with ⟨old, hold, rfl⟩ | rfl
      · by_cases hl : old.liveAt leaId id = true
        · rw [if_pos hl] at hzg
          obtain ⟨g', hm, -⟩ := hdead old hold hzg
          rw [(SnapshotRow.liveAt_iff.mp hl).2.2] at hm
          exact absurd hm (by simp)
        · rw [if_neg hl] at hzg ⊢
          exact hdead old hold hzg
      · exact absurd (hgen.symm.trans hzg) hg

variable {run : RevertRun} {counts counts' : RevertCounts} {row : SnapshotRow}

/-- A turn of a revert of another job: its live snapshot is not of ours, and the
prior one does not bear our mark. -/
theorem turn_of_ne (h : before.Remembers job now reverted et leaId row.naturalKey r)
    (hne : run.syncJobId ≠ job) (hgen : run.revertGenerationId ≠ job)
    (hrev : ¬ reverted run.syncJobId)
    (hrow : row ∈ (r.snapshots et).rows) (hrg : row.generationId = run.syncJobId)
    (hlive : row.supersededByGenerationId = none)
    (hstep : revertRow pg run et (r, counts) row = some (r', counts')) :
    before.Remembers job now reverted et leaId row.naturalKey r' where
  marks z hz hm hzg := by
    rcases (mem_history_turn hrow hlive hstep).mp hz with rfl | ⟨p, -, rfl⟩ | ⟨hz, -⟩
    · exact absurd (Option.some.inj hm) hgen
    · exact absurd hm (by simp)
    · exact h.marks z hz hm hzg
  prior y hy := by
    rcases h.prior y hy with hm | hdead
    · refine Or.inl ((mem_history_turn hrow hlive hstep).mpr (Or.inr (Or.inr ⟨hm, ?_, ?_⟩)))
      · rintro rfl
        exact absurd hlive (by simp)
      · intro hp
        exact hne (Option.some.inj (prior_mem_history hp).2).symm
    · refine Or.inr fun z hz hzg => ?_
      rcases (mem_history_turn hrow hlive hstep).mp hz with rfl | ⟨p, hp, rfl⟩ | ⟨hz, -⟩
      · exact absurd (hrg.symm.trans hzg) hne
      · obtain ⟨hpm, hps⟩ := prior_mem_history hp
        obtain ⟨g, hg, hrg⟩ := hdead p hpm hzg
        rw [hps] at hg
        exact absurd (Option.some.inj hg ▸ hrg) hrev
      · exact hdead z hz hzg

/-- The snapshots of the job are live or reverted. -/
def Settled (job : Uuid) (reverted : Uuid → Prop) (et : EntityType) (id : String) (r : Roster) :
    Prop :=
  ∀ z ∈ r.history et id, z.generationId = job → z.supersededByGenerationId = none ∨
    ∃ g, z.supersededByGenerationId = some g ∧ reverted g

/-- A turn of a revert of the job itself: the mark goes and so does the job's live
snapshot. -/
theorem turn_of_eq (h : before.Remembers job now reverted et leaId row.naturalKey r)
    (hf : r.Faithful et leaId row.naturalKey)
    (hset : Settled job reverted et row.naturalKey r) (hrev : reverted run.revertGenerationId)
    (hgen : run.revertGenerationId ≠ job) (heq : run.syncJobId = job)
    (hnrev : ¬ reverted job)
    (hrow : row ∈ (r.snapshots et).rows)
    (hlive : row.supersededByGenerationId = none)
    (hstep : revertRow pg run et (r, counts) row = some (r', counts')) :
    before.Remembers job now reverted et leaId row.naturalKey r' ∧
      Settled job reverted et row.naturalKey r' := by
  -- after the turn every snapshot of the job at this key is reverted
  have hdead : ∀ z ∈ r'.history et row.naturalKey, z.generationId = job →
      ∃ g, z.supersededByGenerationId = some g ∧ reverted g := by
    intro z hz hzg
    rcases (mem_history_turn hrow hlive hstep).mp hz with rfl | ⟨p, hp, rfl⟩ | ⟨hz, hne, -⟩
    · exact ⟨_, rfl, hrev⟩
    · obtain ⟨hpm, hps⟩ := prior_mem_history hp
      rcases hset p hpm hzg with hnone | ⟨g, hg, hrg⟩
      · rw [hnone] at hps
        exact absurd hps (by simp)
      · rw [hps, heq] at hg
        exact absurd (Option.some.inj hg ▸ hrg) hnrev
    · refine (hset z hz hzg).resolve_left fun hnone => hne ?_
      have hlz := mem_live_iff_history.mpr ⟨hz, hf.owned z hz, hnone⟩
      have hrowh : row ∈ r.history et row.naturalKey := Roster.mem_history.mpr ⟨hrow, rfl⟩
      exact hf.oneLive z hlz row (mem_live_iff_history.mpr ⟨hrowh, hf.owned row hrowh, hlive⟩)
  refine ⟨⟨fun z hz hm hzg => ?_, fun y _ => Or.inr hdead⟩, fun z hz hzg => Or.inr (hdead z hz hzg)⟩
  rcases (mem_history_turn hrow hlive hstep).mp hz with rfl | ⟨p, -, rfl⟩ | ⟨hz, -⟩
  · exact absurd (Option.some.inj hm) hgen
  · exact absurd hm (by simp)
  · exact h.marks z hz hm hzg

end Roster.Remembers

end

/-! ### Along a run -/

section

variable {pg : Postgres} {et : EntityType} {leaId : LeaId} {id : String} {before : Roster}

/-- A page that writes the entity for its own LEA, a retry or a revert. -/
def Op.Syncs (leaId : LeaId) (et : EntityType) (id : String) : Op → Prop
  | .page run => run.OwnsKey leaId et id
  | .revert _ | .retry _ => True
  | .bulkLoad _ | .release _ | .reject _ => False

instance (leaId : LeaId) (et : EntityType) (id : String) :
    (op : Op) → Decidable (op.Syncs leaId et id)
  | .page _ | .bulkLoad _ | .revert _ | .release _ | .reject _ | .retry _ => by
    unfold Op.Syncs; infer_instance

/-- A job of that id exists. -/
def Store.Known (s : Store) (g : Uuid) : Prop := s.syncJobs.lookup g ≠ none

/-- The id is a revert's. -/
def Store.Reverted (s : Store) (g : Uuid) : Prop :=
  ∃ job, s.syncJobs.lookup g = some job ∧ job.status = .revert

namespace Store.Grows

variable {s s' : Store} {op : Op} {g : Uuid}

theorem ne_of_known (h : Store.Grows op g s s') {g' : Uuid} (hk : s.Known g') : g' ≠ g := by
  rintro rfl
  exact hk h.fresh

theorem known (h : Store.Grows op g s s') : s'.Known g ∧ ∀ g', s.Known g' → s'.Known g' := by
  refine ⟨?_, fun g' hk => ?_⟩
  · obtain ⟨job, hj, -⟩ := h.inserted
    rw [Store.Known, hj]
    exact Option.some_ne_none job
  · rw [Store.Known, h.others g' (h.ne_of_known hk)]
    exact hk

theorem reverted (h : Store.Grows op g s s') {g' : Uuid} (hr : s.Reverted g') : s'.Reverted g' := by
  obtain ⟨job, hj, hstatus⟩ := hr
  have hk : s.Known g' := by rw [Store.Known, hj]; exact Option.some_ne_none job
  exact ⟨job, (h.others g' (h.ne_of_known hk)).trans hj, hstatus⟩

end Store.Grows

theorem chained_exec {s : Store} {op : Op} (het : et ≠ .lea)
    (h : s.roster.Chained s.Known et leaId id) (hop : op.Syncs leaId et id) :
    (s.exec pg op).roster.Chained (s.exec pg op).Known et leaId id := by
  rcases s.exec_cases pg op with he | he
  · rw [he]
    exact h
  · cases op with
    | page run =>
      obtain ⟨hnew, hmono⟩ := (grows_page he).known
      refine he.induction_at het hop (fun r r' hr hs => hr.sameAt hs) ?_ (h.mono hmono)
      intro r new row hr hk hl _ hlive hat htimed hrow hreflects
      exact hr.replace het hnew hk hl hlive hat htimed hrow hreflects
    | revert run =>
      obtain ⟨outcome, he⟩ := he
      obtain ⟨hnew, hmono⟩ := (grows_revert he).known
      obtain ⟨counts, htables, -⟩ := he.roster
      refine revertTables_induction_at et id (fun r r' hr hs => hr.sameAt hs) ?_
        (h.mono hmono) htables
      rintro r counts r' counts' row hr hrow rfl - hlive hstep
      exact hr.turn hnew hrow hlive hstep
    | retry run =>
      obtain ⟨target, -, -, he⟩ := he
      rw [he]
      exact h
    | bulkLoad run => exact hop.elim
    | release run => exact hop.elim
    | reject run => exact hop.elim

theorem chained_run (het : et ≠ .lea) {ops : List Op} (h : ∀ op ∈ ops, op.Syncs leaId et id) :
    (Runs.run (Store.exec pg) Store.empty ops).roster.Chained
      (Runs.run (Store.exec pg) Store.empty ops).Known et leaId id := by
  have hguard : Runs.Guarded (Store.exec pg) (fun _ op => op.Syncs leaId et id) Store.empty ops :=
    Runs.Guarded.of_forall h
  exact hguard.invariant (I := fun s : Store => s.roster.Chained s.Known et leaId id)
    (fun _ _ hs hop => chained_exec het hs hop) .empty

/-- A state that has come about from the commit of the page by pages, retries and
reverts. -/
structure Store.Follows (run : PageRun) (et : EntityType) (leaId : LeaId) (id : String)
    (before : Roster) (s : Store) : Prop where
  chained : s.roster.Chained s.Known et leaId id
  remembers : before.Remembers run.syncJobId run.now s.Reverted et leaId id s.roster
  job : ∃ job, s.syncJobs.lookup run.syncJobId = some job ∧ job.status ≠ .revert
  generated : s.Generated

namespace Store.Follows

variable {run : PageRun} {s s' : Store}

theorem known (h : s.Follows run et leaId id before) : s.Known run.syncJobId := by
  obtain ⟨job, hj, -⟩ := h.job
  rw [Store.Known, hj]
  exact Option.some_ne_none job

theorem not_reverted (h : s.Follows run et leaId id before) : ¬ s.Reverted run.syncJobId := by
  rintro ⟨job', hj', hr⟩
  obtain ⟨job, hj, hn⟩ := h.job
  rw [hj] at hj'
  exact hn (Option.some.inj hj' ▸ hr)

/-- The snapshots that are there are of no revert. -/
theorem generation (h : s.Follows run et leaId id before) {z : SnapshotRow}
    (hz : z ∈ s.roster.history et id) : ¬ s.Reverted z.generationId := by
  rintro ⟨job', hj', hr⟩
  obtain ⟨job, hj, hn⟩ := h.generated et z.generationId
    (Roster.mem_generations.mpr ⟨z, (Roster.mem_history.mp hz).1, rfl⟩)
  rw [hj] at hj'
  exact hn (Option.some.inj hj' ▸ hr)

/-- A snapshot of the job is live or reverted when a revert of it goes through. -/
theorem settled (h : s.Follows run et leaId id before) {rrun : RevertRun}
    {outcome : RevertOutcome} (hJ : rrun.syncJobId = run.syncJobId)
    (hr : Reverts pg rrun s s' outcome) :
    Roster.Remembers.Settled run.syncJobId s.Reverted et id s.roster := by
  intro z hz hzg
  cases hm : z.supersededByGenerationId with
  | none => exact Or.inl rfl
  | some g =>
    refine Or.inr ⟨g, rfl, ?_⟩
    obtain ⟨job, hj⟩ := Option.ne_none_iff_exists'.mp (h.chained.marked z hz g hm)
    refine ⟨job, hj, ?_⟩
    by_contra hstatus
    have hrefused : s.supersededByNewerSync rrun.syncJobId et = true := by
      refine List.any_eq_true.mpr ⟨z, (Roster.mem_history.mp hz).1, ?_⟩
      simp [hJ, hzg, hm, hj, hstatus]
    rw [hr.notSuperseded et] at hrefused
    exact absurd hrefused (by simp)

/-- The commit of the page itself. -/
theorem start (het : et ≠ .lea) (hchained : s.roster.Chained s.Known et leaId id)
    (hgenerated : s.Generated) (hkey : run.OwnsKey leaId et id) (hc : run.Commits pg s s') :
    s'.Follows run et leaId id s.roster := by
  have hexec := grows_page hc
  have hfresh : ∀ x ∈ s.roster.history et id,
      x.supersededByGenerationId ≠ some run.syncJobId ∧ x.generationId ≠ run.syncJobId := by
    intro x hx
    refine ⟨fun hm => hchained.marked x hx _ hm hc.fresh, fun hg => ?_⟩
    have hcount := hgenerated.count_fresh hc.fresh et
    refine absurd hcount (Nat.pos_iff_ne_zero.mp (List.count_pos_iff.mpr ?_))
    exact Roster.mem_generations.mpr ⟨x, (Roster.mem_history.mp hx).1, hg⟩
  have hpublishing : s.roster.Publishing run.syncJobId run.now et leaId id s'.roster := by
    refine hc.induction_at het hkey (fun r r' hr hs => hr.sameAt hs) ?_
      (.start (fun x hx => (hfresh x hx).1) fun x hx => (hfresh x hx).2)
    intro r new row hr hk hl hg hlive _ _ _ _
    exact hr.replace het hk hl hg hlive
  obtain ⟨hnew, hmono⟩ := hexec.known
  refine ⟨?_, hpublishing.remembers, ?_, ?_⟩
  · refine hc.induction_at het hkey (fun r r' hr hs => hr.sameAt hs) ?_ (hchained.mono hmono)
    intro r new row hr hk hl _ hlive hat htimed hrow hreflects
    exact hr.replace het hnew hk hl hlive hat htimed hrow hreflects
  · obtain ⟨job, hj, -, -, hstatus, -⟩ := hc.job
    refine ⟨job, hj, ?_⟩
    rw [hstatus]
    split <;> simp
  · refine hgenerated.grows hexec ?_
    rintro job ⟨-, hs | hs⟩ <;> simp [hs]

theorem revert (h : s.Follows run et leaId id before) {rrun : RevertRun} {outcome : RevertOutcome}
    (hr : Reverts pg rrun s s' outcome) :
    before.Remembers run.syncJobId run.now s'.Reverted et leaId id s'.roster := by
  have hexec := grows_revert hr
  obtain ⟨hnew, hmono⟩ := hexec.known
  have hgen : rrun.revertGenerationId ≠ run.syncJobId := (hexec.ne_of_known h.known).symm
  have hrev : s'.Reverted rrun.revertGenerationId := by
    obtain ⟨job, hj, hins⟩ := hexec.inserted
    exact ⟨job, hj, hins⟩
  -- a job that is no revert does not become one
  have hback : ∀ g, s.Known g → s'.Reverted g → s.Reverted g := by
    rintro g hk ⟨job, hj, hs⟩
    exact ⟨job, (hexec.others g (hexec.ne_of_known hk)).symm.trans hj, hs⟩
  have hnrev : ¬ s'.Reverted run.syncJobId := fun hj => h.not_reverted (hback _ h.known hj)
  obtain ⟨counts, htables, -⟩ := hr.roster
  let P (r : Roster) : Prop := r.Chained s'.Known et leaId id ∧
    before.Remembers run.syncJobId run.now s'.Reverted et leaId id r ∧
    (rrun.syncJobId = run.syncJobId →
      Roster.Remembers.Settled run.syncJobId s'.Reverted et id r) ∧
    ∀ z ∈ r.history et id, ¬ s'.Reverted z.generationId
  have hstart : P s.roster := by
    refine ⟨h.chained.mono hmono, h.remembers.mono fun _ => hexec.reverted, fun hJ z hz hzg => ?_,
      fun z hz hz' => ?_⟩
    · exact (h.settled hJ hr z hz hzg).imp_right fun ⟨g, hg, hr⟩ => ⟨g, hg, hexec.reverted hr⟩
    · obtain ⟨job, hj, -⟩ := h.generated et z.generationId
        (Roster.mem_generations.mpr ⟨z, (Roster.mem_history.mp hz).1, rfl⟩)
      have hk : s.Known z.generationId := by rw [Store.Known, hj]; exact Option.some_ne_none job
      exact h.generation hz (hback _ hk hz')
  refine (revertTables_induction_at et id (P := P) ?_ ?_ hstart htables).2.1
  · rintro r r' ⟨hc, hm, hs, hg⟩ hsame
    refine ⟨hc.sameAt hsame, hm.sameAt hsame, fun hJ => ?_, ?_⟩
    · rw [Roster.Remembers.Settled, hsame.history]
      exact hs hJ
    · rw [hsame.history]
      exact hg
  · rintro r counts r' counts' row ⟨hc, hm, hs, hg⟩ hrow rfl hrg hlive hstep
    have hg' : ∀ z ∈ r'.history et row.naturalKey, ¬ s'.Reverted z.generationId := by
      intro z hz
      rcases (mem_history_turn hrow hlive hstep).mp hz with rfl | ⟨p, hp, rfl⟩ | ⟨hz, -⟩
      · exact hg row (Roster.mem_history.mpr ⟨hrow, rfl⟩)
      · exact hg p (prior_mem_history hp).1
      · exact hg z hz
    refine ⟨hc.turn hnew hrow hlive hstep, ?_⟩
    by_cases hJ : rrun.syncJobId = run.syncJobId
    · obtain ⟨hm', hs'⟩ := hm.turn_of_eq hc.toFaithful (hs hJ) hrev hgen hJ hnrev hrow hlive hstep
      exact ⟨hm', fun _ => hs', hg'⟩
    · have hT : ¬ s'.Reverted rrun.syncJobId := by
        rw [← hrg]
        exact hg row (Roster.mem_history.mpr ⟨hrow, rfl⟩)
      exact ⟨hm.turn_of_ne hJ hgen hT hrow hrg hlive hstep, fun h => absurd h hJ, hg'⟩

theorem exec (h : s.Follows run et leaId id before) (het : et ≠ .lea) {op : Op}
    (hop : op.Syncs leaId et id) : (s.exec pg op).Follows run et leaId id before := by
  have hchained : (s.exec pg op).roster.Chained (s.exec pg op).Known et leaId id :=
    chained_exec het h.chained hop
  have hgenerated := h.generated.exec pg op
  rcases s.exec_cases pg op with he | he
  · rw [he]
    exact h
  · cases op with
    | page run' =>
      have hexec := grows_page he
      have hne : run'.syncJobId ≠ run.syncJobId := (hexec.ne_of_known h.known).symm
      refine ⟨hchained, ?_, ?_, hgenerated⟩
      · refine he.induction_at het hop (fun r r' hr hs => hr.sameAt hs) ?_
          (h.remembers.mono fun _ => hexec.reverted)
        intro r new row hr hk _ hg hlive _ _ _ _
        exact hr.replace het hne hk hg hlive
      · rw [hexec.others run.syncJobId hne.symm]
        exact h.job
    | revert rrun =>
      obtain ⟨outcome, he⟩ := he
      have hexec := grows_revert he
      refine ⟨hchained, h.revert he, ?_, hgenerated⟩
      rw [hexec.others run.syncJobId (hexec.ne_of_known h.known)]
      exact h.job
    | retry rrun =>
      obtain ⟨target, -, -, he⟩ := he
      rw [he]
      exact ⟨h.chained, h.remembers, h.job, h.generated⟩
    | bulkLoad run => exact hop.elim
    | release run => exact hop.elim
    | reject run => exact hop.elim

end Store.Follows

/-! ### The revert of the page -/

/-- Live rows are known by their members where there is at most one. -/
theorem live_eq_of_mem_iff {r r' : Roster} (hr : ∀ x ∈ r.live et leaId id,
    ∀ y ∈ r.live et leaId id, x = y)
    (h : ∀ x, x ∈ r'.live et leaId id ↔ x ∈ r.live et leaId id) :
    r'.live et leaId id = r.live et leaId id := by
  have hperm : (r'.live et leaId id).Perm (r.live et leaId id) :=
    (List.perm_ext_iff_of_nodup ((r'.snapshots et).live_nodup leaId id)
      ((r.snapshots et).live_nodup leaId id)).mpr h
  have hlen : (r.live et leaId id).length ≤ 1 := SnapshotTable.live_length_le_one_iff.mpr hr
  revert hperm hlen
  generalize r.live et leaId id = l
  intro hperm hlen
  match l, hlen with
  | [], _ => exact List.perm_nil.mp hperm
  | [x], _ => exact List.perm_singleton.mp hperm

section

variable {run : PageRun} {rrun : RevertRun} {s₀ s s' : Store} {outcome : RevertOutcome}

/-- The state of the key after the turn on the page's live snapshot. -/
structure Roster.GivenBack (before : Roster) (job : Uuid) (et : EntityType) (leaId : LeaId)
    (id : String) (r : Roster) : Prop where
  live : r.live et leaId id = before.live et leaId id
  view : r.liveView et id = before.liveView et id
  retired : ∀ z ∈ r.history et id, z.generationId = job → z.supersededByGenerationId ≠ none

namespace Roster.Remembers

variable {job : Uuid} {now : Instant} {reverted : Uuid → Prop} {row : SnapshotRow} {r : Roster}

/-- The prior snapshot is the one that was live before the page. -/
theorem of_prior (h : before.Remembers job now reverted et leaId row.naturalKey r)
    (hset : Settled job reverted et row.naturalKey r) (hjob : ¬ reverted job) {p : SnapshotRow}
    (hp : r.findPriorLiveSnapshot pg et row.leaId row.naturalKey job = some p) :
    ∃ y ∈ before.live et leaId row.naturalKey, p = y.mark (some job) (some now) := by
  obtain ⟨hpm, hps⟩ := prior_mem_history hp
  refine h.marks p hpm hps fun hpg => ?_
  rcases hset p hpm hpg with hnone | ⟨g, hg, hrev⟩
  · rw [hps] at hnone
    exact absurd hnone (by simp)
  · rw [hps] at hg
    exact hjob (Option.some.inj hg ▸ hrev)

/-- And there is one when something was live. -/
theorem exists_prior {known : Uuid → Prop}
    (h : before.Remembers job now reverted et leaId row.naturalKey r)
    (hbefore : before.Chained known et leaId row.naturalKey)
    (hset : Settled job reverted et row.naturalKey r) (hjob : ¬ reverted job)
    (hrow : row ∈ r.history et row.naturalKey) (hown : row.leaId = leaId)
    (hrg : row.generationId = job) (hlive : row.supersededByGenerationId = none)
    {y : SnapshotRow} (hy : y ∈ before.live et leaId row.naturalKey) :
    ∃ p, r.findPriorLiveSnapshot pg et row.leaId row.naturalKey job = some p ∧
      y = p.mark none none := by
  obtain ⟨hyh, hyl, hynone⟩ := mem_live_iff_history.mp hy
  have hmarked : y.mark (some job) (some now) ∈ r.history et row.naturalKey := by
    refine (h.prior y hy).resolve_right fun hdead => ?_
    obtain ⟨g, hg, -⟩ := hdead row hrow hrg
    rw [hlive] at hg
    exact absurd hg (by simp)
  cases hp : r.findPriorLiveSnapshot pg et row.leaId row.naturalKey job with
  | none =>
    obtain ⟨hin, hkey⟩ := Roster.mem_history.mp hmarked
    exact absurd rfl (Roster.findPrior_eq_none.mp hp _ hin (hyl.trans hown.symm) hkey)
  | some p =>
    refine ⟨p, rfl, ?_⟩
    obtain ⟨y', hy', rfl⟩ := h.of_prior hset hjob hp
    rw [hbefore.oneLive y hy y' hy']
    obtain ⟨hyh', -, hynone'⟩ := mem_live_iff_history.mp hy'
    exact (mark_none_none hynone' (hbefore.stamped y' hyh' hynone')).symm

end Roster.Remembers

/-- **The turn on the page's live snapshot undoes the page.** -/
theorem givenBack_turn {known : Uuid → Prop} {row : SnapshotRow} {r r' : Roster}
    {counts counts' : RevertCounts}
    (hbefore : before.Chained known et leaId row.naturalKey)
    (h : s.Follows run et leaId row.naturalKey before)
    (hJ : rrun.syncJobId = run.syncJobId) (hr : Reverts pg rrun s s' outcome)
    (hsame : Roster.SameAt et row.naturalKey s.roster r)
    (hrow : row ∈ (r.snapshots et).rows) (hrg : row.generationId = rrun.syncJobId)
    (hlive : row.supersededByGenerationId = none)
    (hstep : revertRow pg rrun et (r, counts) row = some (r', counts')) :
    before.GivenBack run.syncJobId et leaId row.naturalKey r' := by
  have hc := h.chained.sameAt hsame
  have hm := h.remembers.sameAt hsame
  have hset : Roster.Remembers.Settled run.syncJobId s.Reverted et row.naturalKey r := by
    rw [Roster.Remembers.Settled, hsame.history]
    exact h.settled hJ hr
  have hrowh : row ∈ r.history et row.naturalKey := Roster.mem_history.mpr ⟨hrow, rfl⟩
  have hown : row.leaId = leaId := hc.owned row hrowh
  have hmem : row ∈ r.live et leaId row.naturalKey := mem_live_iff_history.mpr ⟨hrowh, hown, hlive⟩
  have hprior : ∀ p,
      r.findPriorLiveSnapshot pg et row.leaId row.naturalKey rrun.syncJobId = some p →
        ∃ y ∈ before.live et leaId row.naturalKey,
          p = y.mark (some run.syncJobId) (some run.now) := by
    rw [hJ]
    exact fun p hp => hm.of_prior hset h.not_reverted hp
  have hfound : ∀ y ∈ before.live et leaId row.naturalKey,
      ∃ p, r.findPriorLiveSnapshot pg et row.leaId row.naturalKey rrun.syncJobId = some p ∧
        y = p.mark none none := by
    rw [hJ]
    exact fun y hy =>
      hm.exists_prior hbefore hset h.not_reverted hrowh hown (hrg.trans hJ) hlive hy
  refine ⟨live_eq_of_mem_iff hbefore.oneLive fun x => ?_, ?_, fun z hz hzg => ?_⟩
  · rw [mem_live_turn hc.toFaithful hrow hlive hstep]
    refine ⟨fun ⟨p, hp, hx⟩ => ?_, hfound x⟩
    obtain ⟨y, hy, rfl⟩ := hprior p hp
    obtain ⟨hyh, -, hynone⟩ := mem_live_iff_history.mp hy
    rw [hx]
    exact (mark_none_none hynone (hbefore.stamped y hyh hynone)).symm ▸ hy
  · obtain ⟨c, hcan, -⟩ := hc.reflects row hmem
    cases hp : r.findPriorLiveSnapshot pg et row.leaId row.naturalKey rrun.syncJobId with
    | none =>
      -- the page created the entity, and the row is soft-deleted
      have hnil : before.live et leaId row.naturalKey = [] := by
        refine List.eq_nil_iff_forall_not_mem.mpr fun y hy => ?_
        obtain ⟨p, hpp, -⟩ := hfound y hy
        rw [hp] at hpp
        exact absurd hpp (by simp)
      rw [liveView_turn_none hstep hcan hp, hbefore.vacant hnil]
    | some p =>
      -- the row is written from the payload that was live
      obtain ⟨y, hy, rfl⟩ := hprior p hp
      obtain ⟨c₀, hc₀, hpayload, hdeleted⟩ := hbefore.reflects y hy
      obtain ⟨hyh, hyl, -⟩ := mem_live_iff_history.mp hy
      obtain ⟨-, hrewound, -⟩ := revertRow_eq_some hstep
      rw [hp] at hrewound
      rcases hrewound.canonical_self hcan with ⟨hn, -⟩ | ⟨_, new, hpp, hnew, hcan'⟩
      · exact absurd hn (by simp)
      · obtain rfl := Option.some.inj hpp
        rw [Roster.liveView, hcan', Roster.liveView, hc₀]
        rw [hyl, ← hown] at hpayload
        exact liveView_of_payload hpayload hdeleted (hbefore.timed y hyh) hnew
  · rcases (mem_history_turn hrow hlive hstep).mp hz with rfl | ⟨p, hp, rfl⟩ | ⟨hz, hne, -⟩
    · exact Option.some_ne_none _
    · -- the prior snapshot is not of the job
      obtain ⟨hpm, hps⟩ := prior_mem_history hp
      rcases hset p hpm hzg with hnone | ⟨g, hg, hrev⟩
      · rw [hnone] at hps
        exact absurd hps (by simp)
      · rw [hps, hJ] at hg
        exact absurd (Option.some.inj hg ▸ hrev) h.not_reverted
    · intro hnone
      exact hne (hc.oneLive z (mem_live_iff_history.mpr ⟨hz, hc.owned z hz, hnone⟩) row hmem)

/-- **A revert is the inverse of a page.**  After pages, retries and reverts, an
accepted revert of the page gives every student and enrollment whose live snapshot
the page wrote the live view and the live snapshot it had before the page, and
leaves the others as they are. -/
theorem revert_inverts_page (pg : Postgres) (leaId : LeaId) (et : EntityType) (het : et ≠ .lea)
    (id : String) (ops ops' : List Op) (run : PageRun) (rrun : RevertRun)
    (hops : ∀ op ∈ ops, op.Syncs leaId et id) (hkey : run.OwnsKey leaId et id)
    (hops' : ∀ op ∈ ops', op.Syncs leaId et id) (hJ : rrun.syncJobId = run.syncJobId) :
    let s₀ := Runs.run (Store.exec pg) Store.empty ops
    ∀ s₁ page, processOnePage pg run s₀ = some (s₁, page) → page.status = .success →
      let s₂ := Runs.run (Store.exec pg) s₁ ops'
      ∀ s₃ outcome, revert pg rrun s₂ = .ok (s₃, outcome) →
        (∀ x ∈ s₂.roster.live et leaId id, x.generationId = run.syncJobId →
          s₃.roster.liveView et id = s₀.roster.liveView et id ∧
          s₃.roster.live et leaId id = s₀.roster.live et leaId id) ∧
        ((∀ x ∈ s₂.roster.live et leaId id, x.generationId ≠ run.syncJobId) →
          s₃.roster.canonical et id = s₂.roster.canonical et id ∧
          s₃.roster.live et leaId id = s₂.roster.live et leaId id) := by
  intro s₀ s₁ page hpage _ s₂ s₃ outcome hrevert
  have hchained : s₀.roster.Chained s₀.Known et leaId id := chained_run het hops
  have hr : Reverts pg rrun s₂ s₃ outcome := revert_eq_ok hrevert
  have hfollows : s₂.Follows run et leaId id s₀.roster := by
    refine Runs.Guarded.invariant (I := fun s : Store => s.Follows run et leaId id s₀.roster)
      (fun _ _ hs hop => hs.exec het hop) ?_ (Runs.Guarded.of_forall hops')
    exact .start het hchained (Store.generated_run pg ops) hkey (processOnePage_eq_some hpage).1
  obtain ⟨counts, htables, -⟩ := hr.roster
  -- what a turn finds live of the key was live before the revert
  have hown : ∀ r, Roster.SameAt et id s₂.roster r → ∀ row ∈ (r.snapshots et).rows,
      row.naturalKey = id → row.supersededByGenerationId = none →
      row ∈ s₂.roster.live et leaId id := by
    intro r hsame row hrow hid hlive
    have hh : row ∈ s₂.roster.history et id := by
      rw [← hsame.history]
      exact Roster.mem_history.mpr ⟨hrow, hid⟩
    exact mem_live_iff_history.mpr ⟨hh, hfollows.chained.owned row hh, hlive⟩
  refine ⟨fun x hx hxg => ?_, fun hnone => ?_⟩
  · let P (r : Roster) : Prop := Roster.SameAt et id s₂.roster r ∨
      s₀.roster.GivenBack run.syncJobId et leaId id r
    have hP : P s₃.roster := by
      refine revertTables_induction_at et id (P := P) ?_ ?_ (Or.inl (.refl _)) htables
      · -- the turns on other entities
        rintro r r' (hs | hq) hsame
        · exact Or.inl (hs.trans hsame)
        · exact Or.inr ⟨(hsame.live leaId).trans hq.live,
            by rw [Roster.liveView, hsame.canonical]; exact hq.view,
            by rw [hsame.history]; exact hq.retired⟩
      · -- the turn on the snapshot of the page, and no second one
        rintro r counts r' counts' row (hs | hq) hrow rfl hrg hlive hstep
        · exact Or.inr (givenBack_turn hchained hfollows hJ hr hs hrow hrg hlive hstep)
        · exact absurd hlive (hq.retired row (Roster.mem_history.mpr ⟨hrow, rfl⟩) (hrg.trans hJ))
    rcases hP with hs | hq
    · -- an accepted revert leaves no live snapshot of the job
      have hx' : x ∈ s₃.roster.live et leaId id := by
        rw [hs.live]
        exact hx
      obtain ⟨hin, -, -, hl⟩ := SnapshotTable.mem_live.mp hx'
      have hlist : x ∈ s₃.roster.liveOf pg et rrun.syncJobId :=
        Roster.mem_liveOf.mpr ⟨hin, hxg.trans hJ.symm, hl⟩
      rw [liveOf_reverts hfollows.generated hr et] at hlist
      exact absurd hlist List.not_mem_nil
    · -- the turn has been made
      exact ⟨hq.view, hq.live⟩
  · have hsame : Roster.SameAt et id s₂.roster s₃.roster := by
      -- no turn comes to the key
      refine revertTables_induction_at et id (P := fun r => Roster.SameAt et id s₂.roster r)
        (fun r r' hs hsame => hs.trans hsame) ?_ (.refl _) htables
      intro r counts r' counts' row hs hrow hid hrg hlive _
      exact absurd (hrg.trans hJ) (hnone row (hown r hs row hrow hid hlive))
    exact ⟨hsame.canonical, hsame.live leaId⟩

end

end

section

open Fixture

/-- A student arrives with an external id. -/
def arrival : List Op :=
  [pageOp "L1" "job-1" [event "L1" "evt_001" (student "L1" "s1" (some "04") [("sis", .str "A7")])]]

/-- The page to revert: the student moves up a grade. -/
def promotion : PageRun where
  leaId := "L1"
  partner := "edlink"
  page := page [event "L1" "evt_002" (student "L1" "s1" (some "05")) .updated]
  syncJobId := "job-2"
  now := 10

/-- A later page deletes the student and is reverted. -/
def deletion : List Op :=
  [pageOp "L1" "job-3" [event "L1" "evt_003" (student "L1" "s1" (some "05")) .deleted],
    revertOp "job-3" "rev-1"]

def demotion : RevertRun where
  syncJobId := "job-2"
  operatorIdentity := "op"
  reason := "bad batch"
  revertGenerationId := "rev-2"
  now := 30

/-- The revert of the promotion: grade and external id are what they were. -/
theorem revert_inverts_promotion :
    let s₀ := after arrival
    ∃ s₁ page, processOnePage Postgres.reference promotion s₀ = some (s₁, page) ∧
      let s₂ := Runs.run (Store.exec Postgres.reference) s₁ deletion
      ∃ s₃ outcome, revert Postgres.reference demotion s₂ = .ok (s₃, outcome) ∧
        (∃ x ∈ s₂.roster.live .student "L1" "s1", x.generationId = "job-2") ∧
        (∀ x ∈ s₂.roster.live .student "L1" "s1", x.generationId = "job-2" →
          s₃.roster.liveView .student "s1" = s₀.roster.liveView .student "s1" ∧
          s₃.roster.live .student "L1" "s1" = s₀.roster.live .student "L1" "s1") ∧
        ((∀ x ∈ s₂.roster.live .student "L1" "s1", x.generationId ≠ "job-2") →
          s₃.roster.canonical .student "s1" = s₂.roster.canonical .student "s1" ∧
          s₃.roster.live .student "L1" "s1" = s₂.roster.live .student "L1" "s1") :=
  ⟨_, _, rfl, _, _, rfl, by decide,
    revert_inverts_page Postgres.reference "L1" .student (by decide) "s1" arrival deletion
      promotion demotion (by decide) (by decide) (by decide) rfl _ _ rfl rfl _ _ rfl⟩

end
