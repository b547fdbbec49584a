/-
The history of one entity: its snapshots, oldest first, and its canonical row.

Every write of the services goes to the history and the row of one entity.  What
it does to them, and that it leaves every other entity alone, is said here once.

* `Roster.SameAt` — the entity is as it was;
* `Roster.replace` — the write of an event and of a bulk load;
* `rewind_sameAt` — a turn of a revert is a write to one entity.
-/
import EdlinkRostering.Generations

namespace Roster

/-- The snapshots of an entity, oldest first. -/
def history (r : Roster) (et : EntityType) (id : String) : List SnapshotRow :=
  (r.snapshots et).rows.filter fun x => x.naturalKey = id

/-- The history and the canonical row of the entity are as they were. -/
structure SameAt (et : EntityType) (id : String) (r r' : Roster) : Prop where
  history : r'.history et id = r.history et id
  canonical : r'.canonical et id = r.canonical et id

theorem mem_history {r : Roster} {et : EntityType} {id : String} {x : SnapshotRow} :
    x ∈ r.history et id ↔ x ∈ (r.snapshots et).rows ∧ x.naturalKey = id := by
  rw [history, List.mem_filter, decide_eq_true_eq]

theorem live_eq_history (r : Roster) (et : EntityType) (l : LeaId) (id : String) :
    r.live et l id = (r.history et id).filter fun x => x.leaId = l && x.isLive := by
  rw [live, SnapshotTable.live, history, List.filter_filter]
  refine List.filter_congr fun x _ => ?_
  rw [SnapshotRow.liveAt, SnapshotRow.hasKey]
  cases decide (x.leaId = l) <;> cases decide (x.naturalKey = id) <;> cases x.isLive <;> rfl

namespace SameAt

variable {et : EntityType} {id : String} {r r₁ r₂ : Roster}

theorem refl (r : Roster) : SameAt et id r r := ⟨rfl, rfl⟩

theorem trans (h : SameAt et id r r₁) (h' : SameAt et id r₁ r₂) : SameAt et id r r₂ :=
  ⟨h'.history.trans h.history, h'.canonical.trans h.canonical⟩

theorem live (h : SameAt et id r r₁) (l : LeaId) : r₁.live et l id = r.live et l id := by
  rw [live_eq_history, h.history, live_eq_history]

end SameAt

/-! ### The statements -/

theorem history_congr {r r' : Roster} (h : r'.snapshots = r.snapshots) (et : EntityType)
    (id : String) : r'.history et id = r.history et id := by
  rw [history, h, history]

@[simp] theorem history_setCanonical (r : Roster) (id' : String) (row : CanonicalRow)
    (et : EntityType) (id : String) : (r.setCanonical id' row).history et id = r.history et id :=
  history_congr (snapshots_setCanonical _ _ _) et id

theorem history_mark (t : SnapshotTable) (p : SnapshotRow → Bool) (g : Option Uuid)
    (i : Option Instant) (id : String) :
    (t.mark p g i).rows.filter (fun x => x.naturalKey = id)
      = (t.rows.filter fun x => x.naturalKey = id).map fun x => if p x then x.mark g i else x := by
  show (t.rows.map fun x => if p x then x.mark g i else x).filter _ = _
  rw [List.filter_map]
  congr 1
  refine List.filter_congr fun x _ => ?_
  simp only [Function.comp_apply]
  split <;> rfl

/-- A mark on rows of other entities. -/
theorem map_mark_eq_self {rows : List SnapshotRow} {p : SnapshotRow → Bool} {g : Option Uuid}
    {i : Option Instant} (h : ∀ x ∈ rows, p x = false) :
    (rows.map fun x => if p x then x.mark g i else x) = rows := by
  refine (List.map_congr_left fun x hx => ?_).trans (List.map_id _)
  rw [h x hx]
  rfl

theorem history_supersede (r : Roster) (et et' : EntityType) (l : LeaId) (k id : String)
    (g : Uuid) (i : Instant) : (r.supersede et l k g i).history et' id =
      if et' = et ∧ id = k then (r.history et id).map fun x =>
        if x.liveAt l k then x.mark (some g) (some i) else x
      else r.history et' id := by
  by_cases he : et' = et
  · subst he
    rw [history, supersede, modifySnapshots_self, history_mark]
    by_cases hk : id = k
    · rw [if_pos ⟨rfl, hk⟩, history]
    · rw [if_neg fun h => hk h.2]
      refine map_mark_eq_self fun x hx => ?_
      have hid : x.naturalKey = id := by simpa using (List.mem_filter.mp hx).2
      refine Bool.eq_false_iff.mpr fun hl => hk ?_
      rw [← hid, (SnapshotRow.liveAt_iff.mp hl).2.1]
  · rw [if_neg fun h => he h.1, history, supersede, modifySnapshots_ne _ _ _ _ he, history]

theorem history_insertSnapshot (r : Roster) (et et' : EntityType) (id : String)
    (new : SnapshotRow) : (r.insertSnapshot et new).history et' id = r.history et' id ++
      if et' = et ∧ id = new.naturalKey then
        [{ new.stored et with snapshotId := (r.snapshots et).rows.length }] else [] := by
  by_cases he : et' = et
  · subst he
    rw [history, rows_insertSnapshot, List.filter_append, history, List.filter_singleton]
    congr 1
    by_cases hk : id = new.naturalKey
    · rw [if_pos ⟨rfl, hk⟩]
      simp [hk]
    · rw [if_neg fun h => hk h.2]
      simp [Ne.symm hk]
  · rw [if_neg fun h => he h.1, List.append_nil, history, insertSnapshot,
      modifySnapshots_ne _ _ _ _ he, history]

theorem history_setSuperseded (r : Roster) (et et' : EntityType) (n : Nat) (g : Option Uuid)
    (i : Option Instant) (id : String) : (r.setSuperseded et n g i).history et' id =
      if et' = et then (r.history et id).map fun x =>
        if x.snapshotId = n then x.mark g i else x
      else r.history et' id := by
  by_cases he : et' = et
  · subst he
    rw [if_pos rfl, history, setSuperseded, modifySnapshots_self, history_mark, history]
    simp only [decide_eq_true_eq]
  · rw [if_neg he, history, setSuperseded, modifySnapshots_ne _ _ _ _ he, history]

/-- A statement by `snapshot_id` on a row of another entity. -/
theorem history_setSuperseded_ne {r : Roster} {et et' : EntityType} {row : SnapshotRow}
    {id : String} (hrow : row ∈ (r.snapshots et).rows)
    (hne : ¬ (et' = et ∧ id = row.naturalKey)) (g : Option Uuid) (i : Option Instant) :
    (r.setSuperseded et row.snapshotId g i).history et' id = r.history et' id := by
  rw [history_setSuperseded]
  split
  · next he =>
    subst he
    have hmap := @map_mark_eq_self (r.history et' id)
      (fun x => decide (x.snapshotId = row.snapshotId)) g i fun x hx => by
        obtain ⟨hx, hid⟩ := mem_history.mp hx
        refine decide_eq_false fun h => hne ⟨rfl, ?_⟩
        rw [← hid, SnapshotTable.eq_of_id hx hrow h]
    simpa only [decide_eq_true_eq] using hmap
  · rfl

theorem ensureLeaExists_sameAt (r : Roster) (leaId : LeaId) {et : EntityType} (het : et ≠ .lea)
    (id : String) : SameAt et id r (r.ensureLeaExists leaId) :=
  ⟨history_congr (snapshots_ensureLeaExists _ _) et id, by
    rw [canonical_ensureLeaExists, if_neg fun h => het h.1]⟩

/-! ### Replacing the live snapshot -/

/-- Supersede what is live for the entity, insert the new snapshot and write the
canonical row. -/
def replace (r : Roster) (et : EntityType) (leaId : LeaId) (id : String) (g : Uuid)
    (i : Instant) (new : SnapshotRow) (row : CanonicalRow) : Roster :=
  ((r.supersede et leaId id g i).insertSnapshot et new).setCanonical id row

section

variable {r : Roster} {et : EntityType} {leaId : LeaId} {id : String} {g : Uuid} {i : Instant}
  {new : SnapshotRow} {row : CanonicalRow}

theorem replace_sameAt (hnew : new.naturalKey = id) (hrow : row.entityType = et)
    {et' : EntityType} {id' : String} (hne : ¬ (et' = et ∧ id' = id)) :
    SameAt et' id' r (r.replace et leaId id g i new row) := by
  refine ⟨?_, ?_⟩
  · rw [replace, history_setCanonical, history_insertSnapshot, history_supersede, if_neg hne,
      if_neg (by rw [hnew]; exact hne), List.append_nil]
  · rw [replace, canonical_setCanonical, hrow, if_neg hne, canonical_insertSnapshot,
      canonical_supersede]

theorem canonical_replace (hrow : row.entityType = et) :
    (r.replace et leaId id g i new row).canonical et id = some row := by
  rw [replace, canonical_setCanonical, if_pos ⟨hrow.symm, rfl⟩]

theorem history_replace (het : et ≠ .lea) (hnew : new.naturalKey = id) :
    (r.replace et leaId id g i new row).history et id
      = ((r.history et id).map fun x => if x.liveAt leaId id then x.mark (some g) (some i) else x)
        ++ [{ new with snapshotId := (r.snapshots et).rows.length }] := by
  have hlen : ((r.supersede et leaId id g i).snapshots et).rows.length
      = (r.snapshots et).rows.length := by
    rw [rows_supersede, List.length_map]
  rw [replace, history_setCanonical, history_insertSnapshot, history_supersede, if_pos ⟨rfl, rfl⟩,
    if_pos ⟨rfl, hnew.symm⟩, SnapshotRow.stored_of_ne het, hlen]

theorem mem_history_replace (het : et ≠ .lea) (hnew : new.naturalKey = id) {x : SnapshotRow} :
    x ∈ (r.replace et leaId id g i new row).history et id ↔
      (∃ old ∈ r.history et id,
        x = if old.liveAt leaId id then old.mark (some g) (some i) else old) ∨
      x = { new with snapshotId := (r.snapshots et).rows.length } := by
  rw [history_replace het hnew, List.mem_append, List.mem_map, List.mem_singleton]
  exact or_congr_left (exists_congr fun old => and_congr_right fun _ => eq_comm)

theorem live_replace (het : et ≠ .lea) (hnew : new.naturalKey = id) (hlea : new.leaId = leaId)
    (hlive : new.supersededByGenerationId = none) :
    (r.replace et leaId id g i new row).live et leaId id
      = [{ new with snapshotId := (r.snapshots et).rows.length }] := by
  have hlen : ((r.supersede et leaId id g i).snapshots et).rows.length
      = (r.snapshots et).rows.length := by
    rw [rows_supersede, List.length_map]
  rw [replace, live_setCanonical, live_insertSnapshot, live_supersede, if_pos ⟨rfl, rfl, rfl⟩,
    SnapshotRow.stored_of_ne het, if_pos ⟨rfl, SnapshotRow.liveAt_iff.mpr ⟨hlea, hnew, hlive⟩⟩,
    List.nil_append, hlen]

end

end Roster

/-- An event that is applied replaces the live snapshot of its entity. -/
theorem applyEventRoster_eq_replace {pg : Postgres} {leaId : LeaId} {syncJobId : Uuid}
    {now : Instant} {r r' : Roster} {event : NormalizedEvent}
    (h : applyEventRoster pg leaId syncJobId now r event = some r') :
    (r.dedups pg leaId event = true ∧ r' = r) ∨
      (r.dedups pg leaId event = false ∧ ∃ row, event.canonicalRow pg now = some row ∧
        r' = r.replace event.entityType leaId event.naturalKey syncJobId now
          (event.snapshotRow leaId syncJobId now) row) := by
  rcases applyEventRoster_eq_some.mp h with ⟨hd, rfl⟩ | ⟨hd, row, hrow, -, hr⟩
  · exact Or.inl ⟨hd, rfl⟩
  · exact Or.inr ⟨hd, row, hrow, by rw [hr, Roster.pushSnapshot, Roster.replace]⟩

/-- The events of other entities leave an entity alone. -/
theorem applyEvents_sameAt {pg : Postgres} {leaId : LeaId} {syncJobId : Uuid} {now : Instant}
    {events : List NormalizedEvent} {r r' : Roster} {et : EntityType} {id : String}
    (h : applyEvents pg leaId syncJobId now events r = some r')
    (hne : ∀ event ∈ events, ¬ (et = event.entityType ∧ id = event.naturalKey)) :
    Roster.SameAt et id r r' := by
  refine Runs.foldlM_invariant (I := fun x => Roster.SameAt et id r x) ?_ (.refl r) h
  intro event he r₁ r₂ h₁ h₂
  rcases applyEventRoster_eq_replace h₂ with ⟨-, rfl⟩ | ⟨-, row, hrow, rfl⟩
  · exact h₁
  · refine h₁.trans (Roster.replace_sameAt ?_ (canonicalRow_entityType hrow) (hne event he))
    rfl

/-- An entry that is written replaces the live snapshot of its entity. -/
theorem applyEntryCounted_eq_replace {pg : Postgres} {leaId : LeaId} {syncJobId : Uuid}
    {createdAt : Instant} {r r' : Roster} {entry : PartnerEntry} {n n' : Nat}
    (h : applyEntryCounted pg leaId syncJobId createdAt (r, n) entry = some (r', n')) :
    ∃ id, entry.id = some id ∧ ((r.skips leaId id entry = true ∧ r' = r) ∨
      (r.skips leaId id entry = false ∧ ∃ row,
        entry.canonicalRow pg leaId (r.canonical entry.entityType id) = some row ∧
        r' = r.replace entry.entityType leaId id syncJobId createdAt
          (entry.snapshotRow leaId id syncJobId createdAt) row)) := by
  obtain ⟨id, hid, ⟨hs, rfl⟩ | ⟨hs, row, hrow, -, hr⟩⟩ := applyEntryCounted_eq_some h
  · exact ⟨id, hid, Or.inl ⟨hs, rfl⟩⟩
  · exact ⟨id, hid, Or.inr ⟨hs, row, hrow, by rw [hr, Roster.pushEntry, Roster.replace]⟩⟩

/-- A turn of a revert writes to the entity of its snapshot alone. -/
theorem rewind_sameAt {pg : Postgres} {run : RevertRun} {et et' : EntityType} {r r' : Roster}
    {counts counts' : RevertCounts} {row : SnapshotRow} {id : String}
    (hrow : row ∈ (r.snapshots et).rows)
    (h : revertRow pg run et (r, counts) row = some (r', counts'))
    (hne : ¬ (et' = et ∧ id = row.naturalKey)) : Roster.SameAt et' id r r' := by
  obtain ⟨hs, hc, -⟩ := revertRow_eq_some h
  refine ⟨?_, hc.canonical_ne hne⟩
  rw [Roster.history_congr hs]
  cases hp : r.findPriorLiveSnapshot pg et row.leaId row.naturalKey run.syncJobId with
  | none => exact Roster.history_setSuperseded_ne hrow hne _ _
  | some p =>
    obtain ⟨hpm, -, hpk, hps⟩ := Roster.mem_of_findPrior hp
    have hprior : (r.setSuperseded et p.snapshotId none none).history et' id
        = r.history et' id := Roster.history_setSuperseded_ne hpm (by rw [hpk]; exact hne) _ _
    show ((r.setSuperseded et p.snapshotId none none).setSuperseded et row.snapshotId _ _).history
      et' id = _
    rw [← hprior]
    -- the retired row may be the prior one only in name: it is still of this entity
    have hmem : ∃ row' ∈ ((r.setSuperseded et p.snapshotId none none).snapshots et).rows,
        row'.snapshotId = row.snapshotId ∧ row'.naturalKey = row.naturalKey := by
      refine ⟨_, Roster.mem_setSuperseded.mpr ⟨row, hrow, rfl⟩, ?_⟩
      split <;> exact ⟨rfl, rfl⟩
    obtain ⟨row', hrow', hid, hkey⟩ := hmem
    rw [← hid]
    exact Roster.history_setSuperseded_ne hrow' (by rw [hkey]; exact hne) _ _

/-- The history of an entity after a turn on one of its snapshots: the snapshot is
retired, the prior one is live again and the others are as they were. -/
theorem mem_history_rewind {r : Roster} {run : RevertRun} {et : EntityType} {row : SnapshotRow}
    {prior : Option SnapshotRow} (hrow : row ∈ (r.snapshots et).rows)
    (hprior : ∀ p, prior = some p → p ∈ r.history et row.naturalKey ∧ p ≠ row) {x : SnapshotRow} :
    x ∈ (r.rewind run et row prior).history et row.naturalKey ↔
      x = row.mark (some run.revertGenerationId) (some run.now) ∨
      (∃ p, prior = some p ∧ x = p.mark none none) ∨
      (x ∈ r.history et row.naturalKey ∧ x ≠ row ∧ prior ≠ some x) := by
  have hid : ∀ y ∈ (r.snapshots et).rows, ∀ z ∈ (r.snapshots et).rows,
      (y.snapshotId = z.snapshotId ↔ y = z) :=
    fun y hy z hz => ⟨SnapshotTable.eq_of_id hy hz, fun h => h ▸ rfl⟩
  rw [Roster.mem_history]
  cases prior with
  | none =>
    -- only the row of the turn is marked
    simp only [Roster.rewind, Roster.mem_setSuperseded, true_and, reduceCtorEq, false_and,
      exists_false, false_or, ne_eq, not_false_eq_true, and_true]
    constructor
    · rintro ⟨⟨y, hy, rfl⟩, hk⟩
      by_cases hyr : y = row
      · subst hyr
        exact Or.inl (if_pos rfl)
      · rw [if_neg (mt (hid y hy row hrow).mp hyr)] at hk ⊢
        exact Or.inr ⟨Roster.mem_history.mpr ⟨hy, hk⟩, hyr⟩
    · rintro (rfl | ⟨hx, hne⟩)
      · exact ⟨⟨row, hrow, by rw [if_pos rfl]⟩, rfl⟩
      · obtain ⟨hx, hk⟩ := Roster.mem_history.mp hx
        exact ⟨⟨x, hx, by rw [if_neg (mt (hid x hx row hrow).mp hne)]⟩, hk⟩
  | some p =>
    obtain ⟨hp, hpr⟩ := hprior p rfl
    obtain ⟨hp, hpk⟩ := Roster.mem_history.mp hp
    -- two rows are marked, and they are not the same
    have hpid : p.snapshotId ≠ row.snapshotId := mt (hid p hp row hrow).mp hpr
    simp only [Roster.rewind, Roster.mem_setSuperseded, true_and, Option.some.injEq,
      exists_eq_left', ne_eq]
    constructor
    · rintro ⟨⟨_, ⟨y, hy, rfl⟩, rfl⟩, hk⟩
      by_cases hyp : y = p
      · subst hyp
        rw [if_pos rfl, if_neg (by simpa using hpid)]
        exact Or.inr (Or.inl rfl)
      · rw [if_neg (mt (hid y hy p hp).mp hyp)] at hk ⊢
        by_cases hyr : y = row
        · subst hyr
          exact Or.inl (if_pos rfl)
        · rw [if_neg (mt (hid y hy row hrow).mp hyr)] at hk ⊢
          exact Or.inr (Or.inr ⟨Roster.mem_history.mpr ⟨hy, hk⟩, hyr, fun h => hyp h.symm⟩)
    · rintro (rfl | rfl | ⟨hx, hne, hnp⟩)
      · refine ⟨⟨row, ⟨row, hrow, ?_⟩, by rw [if_pos rfl]⟩, rfl⟩
        rw [if_neg (mt (hid row hrow p hp).mp (Ne.symm hpr))]
      · exact ⟨⟨p.mark none none, ⟨p, hp, by rw [if_pos rfl]⟩,
          by rw [if_neg (by simpa using hpid)]⟩, hpk⟩
      · obtain ⟨hx, hk⟩ := Roster.mem_history.mp hx
        refine ⟨⟨x, ⟨x, hx, ?_⟩, ?_⟩, hk⟩
        · rw [if_neg (mt (hid x hx p hp).mp fun h => hnp h.symm)]
        · rw [if_neg (mt (hid x hx row hrow).mp hne)]

/-- What every write to another entity and every turn on a snapshot of the entity
keep survives a revert. -/
theorem revertTables_induction_at {pg : Postgres} {run : RevertRun} (et : EntityType)
    (id : String) {P : Roster → Prop} (hsame : ∀ r r', P r → Roster.SameAt et id r r' → P r')
    (hturn : ∀ r counts r' counts' row, P r → row ∈ (r.snapshots et).rows → row.naturalKey = id →
      row.generationId = run.syncJobId → row.supersededByGenerationId = none →
      revertRow pg run et (r, counts) row = some (r', counts') → P r')
    {r r' : Roster} {counts' : RevertCounts} (hr : P r)
    (h : revertTables pg run r = some (r', counts')) : P r' := by
  refine revertTables_induction (P := fun r _ => P r) ?_ hr h
  intro et' r counts r' counts' row hr hrow hgen hlive hstep
  by_cases hat : et = et' ∧ id = row.naturalKey
  · obtain ⟨rfl, rfl⟩ := hat
    exact hturn r counts r' counts' row hr hrow rfl hgen hlive hstep
  · exact hsame r r' hr (rewind_sameAt hrow hstep hat)
