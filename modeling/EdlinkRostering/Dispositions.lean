/-
One disposition for each event.

An event of the log ends as a snapshot or in quarantine.  The high-water mark keeps
a replayed event from a second snapshot, whatever the order of the log: the mark of a
key only rises.  Nothing does the same for quarantine.  A page that redelivers an
event while its quarantine row is unresolved quarantines it again, or applies it
although the row still stands.

* `EventLog` — what the connector hands out for an LEA;
* `Roster.Logged.apply` — what one accepted event adds to the tables;
* `one_disposition` — pages that leave the awaiting events alone, and retries;
* `replay_quarantines_twice` — the same orphan enrollment, polled again.
-/
import EdlinkRostering.System

/-! ### The log -/

/-- The event log of one LEA, as the connector normalizes it: it stamps the LEA and
uses the partner's event id for both ids. -/
structure EventLog (leaId : LeaId) where
  events : List NormalizedEvent
  ids : (events.map (·.eventId)).Nodup
  source : ∀ event ∈ events, event.sourceEventId = event.eventId
  stamped : ∀ event ∈ events, event.leaId = leaId

namespace EventLog

variable {leaId : LeaId}

/-- An event is known by its source event id. -/
theorem eq_of_source (log : EventLog leaId) {e e' : NormalizedEvent} (he : e ∈ log.events)
    (he' : e' ∈ log.events) (h : e.sourceEventId = e'.sourceEventId) : e = e' := by
  have hid : e.eventId = e'.eventId := by rw [← log.source e he, ← log.source e' he', h]
  exact List.inj_on_of_nodup_map log.ids he he' hid

theorem nodup (log : EventLog leaId) : log.events.Nodup := log.ids.of_map

end EventLog

/-! ### Where an event is recorded -/

/-- `raw_payload ->> 'source_event_id'`. -/
def QuarantineRow.sourceEventId (row : QuarantineRow) : Option EventId :=
  match row.rawPayload with
  | .obj payload =>
    match Dict.get? payload "source_event_id" with
    | some (.str id) => some id
    | _ => none
  | _ => none

/-- The unresolved quarantine rows of an event. -/
def Store.awaiting (s : Store) (id : EventId) : List QuarantineRow :=
  s.quarantine.filter fun row => row.resolvedAt.isNone && row.sourceEventId = some id

/-- The source event ids of a snapshot table, in the order of insertion. -/
def Roster.sourceIds (r : Roster) (et : EntityType) : List (Option EventId) :=
  (r.snapshots et).rows.map (·.sourceEventId)

/-- At most one snapshot of each key, at most one unresolved quarantine row, and never
both. -/
structure Store.OneDisposition (s : Store) (id : EventId) : Prop where
  snapshots : ∀ et leaId naturalKey, ((s.roster.snapshots et).rows.countP fun x =>
    x.hasKey leaId naturalKey && x.sourceEventId = some id) ≤ 1
  quarantined : (s.awaiting id).length ≤ 1
  exclusive : s.awaiting id ≠ [] → ∀ et, some id ∉ s.roster.sourceIds et

theorem sourceEventId_quarantineRow (leaId : LeaId) (syncJobId : Uuid) (now : Instant)
    (e : NormalizedEvent) :
    (quarantineRow leaId syncJobId now e).sourceEventId = some e.sourceEventId := by
  have hget : Dict.get? (e.entityPayload ++ [("source_event_id", .str e.sourceEventId)])
      "source_event_id" = some (.str e.sourceEventId) := by
    rw [NormalizedEvent.entityPayload]
    cases e.entity <;> rfl
  rw [QuarantineRow.sourceEventId, quarantineRow]
  simp only [hget]

namespace Roster

variable {pg : Postgres} {leaId : LeaId} {r : Roster}

theorem sourceIds_congr {r' : Roster} (h : r'.snapshots = r.snapshots) (et : EntityType) :
    r'.sourceIds et = r.sourceIds et := by
  rw [sourceIds, h, sourceIds]

theorem sourceIds_supersede (r : Roster) (et et' : EntityType) (l : LeaId) (k : String)
    (g : Uuid) (i : Instant) : (r.supersede et l k g i).sourceIds et' = r.sourceIds et' := by
  by_cases he : et' = et
  · subst he
    rw [sourceIds, rows_supersede, List.map_map]
    refine List.map_congr_left fun x _ => ?_
    show (if x.liveAt l k then x.mark (some g) (some i) else x).sourceEventId = x.sourceEventId
    split <;> rfl
  · rw [sourceIds, supersede, modifySnapshots_ne _ _ _ _ he, sourceIds]

theorem sourceIds_pushSnapshot (r : Roster) (leaId : LeaId) (e : NormalizedEvent)
    (syncJobId : Uuid) (now : Instant) (et : EntityType) :
    (r.pushSnapshot leaId e syncJobId now).sourceIds et
      = r.sourceIds et ++ if et = e.entityType then [some e.sourceEventId] else [] := by
  by_cases he : et = e.entityType
  · subst he
    have hstored : ((e.snapshotRow leaId syncJobId now).stored e.entityType).sourceEventId
        = some e.sourceEventId := by
      rw [SnapshotRow.stored]
      split <;> rfl
    rw [pushSnapshot, sourceIds, rows_insertSnapshot, List.map_append, if_pos rfl,
      ← sourceIds, sourceIds_supersede, List.map_singleton, hstored]
  · rw [if_neg he, List.append_nil, pushSnapshot, sourceIds, insertSnapshot,
      modifySnapshots_ne _ _ _ _ he, ← sourceIds, sourceIds_supersede]

/-- The high-water mark of a key of the drained LEA. -/
theorem mark_pushSnapshot (r : Roster) (e : NormalizedEvent) (syncJobId : Uuid) (now : Instant)
    (et : EntityType) (k : String) :
    (r.pushSnapshot leaId e syncJobId now).latestLiveSourceEventId pg et leaId k
      = if et = e.entityType ∧ k = e.naturalKey ∧ e.foreignLea leaId = false
        then some e.sourceEventId else r.latestLiveSourceEventId pg et leaId k := by
  have hstored : ((e.snapshotRow leaId syncJobId now).stored e.entityType).sourceEventId
      = some e.sourceEventId := by
    rw [SnapshotRow.stored]
    split <;> rfl
  rw [latestLiveSourceEventId, live_pushSnapshot]
  by_cases hkey : et = e.entityType ∧ k = e.naturalKey
  · obtain ⟨rfl, rfl⟩ := hkey
    rw [if_pos ⟨rfl, rfl, rfl⟩, List.nil_append]
    cases hf : e.foreignLea leaId with
    | false =>
      have hunder : leaId = e.storedUnder leaId := by
        rw [NormalizedEvent.storedUnder]
        split
        · next ht =>
          simp only [NormalizedEvent.foreignLea, ht, decide_true, Bool.true_and,
            decide_eq_false_iff_not, ne_eq, not_not] at hf
          exact hf.symm
        · rfl
      rw [if_pos ⟨rfl, hunder, rfl⟩, if_pos ⟨rfl, rfl, rfl⟩, Postgres.top_singleton]
      exact hstored
    | true =>
      -- a snapshot table of LEAs has no row of the drained LEA under another key
      simp only [NormalizedEvent.foreignLea, Bool.and_eq_true, decide_eq_true_eq] at hf
      obtain ⟨ht, hne⟩ := hf
      have hunder : leaId ≠ e.storedUnder leaId := by
        rw [NormalizedEvent.storedUnder, if_pos ht]
        exact fun h => hne h.symm
      have hempty : r.live e.entityType leaId e.naturalKey = [] := by
        refine List.eq_nil_iff_forall_not_mem.mpr fun x hx => ?_
        obtain ⟨hm, hl, hk, -⟩ := SnapshotTable.mem_live.mp hx
        rw [ht] at hm
        exact hne (by rw [← hk, ← r.leaKeyed x hm, hl])
      rw [if_neg fun h => hunder h.2.1, if_neg fun h => absurd h.2.2 (by simp),
        latestLiveSourceEventId, hempty]
  · rw [if_neg fun h => hkey ⟨h.1, h.2.2⟩, if_neg fun h => hkey ⟨h.1, h.2.2⟩, List.append_nil,
      if_neg fun h => hkey ⟨h.1, h.2.1⟩, latestLiveSourceEventId]

/-- The rows of a pushed roster are those of before and the event's. -/
theorem mem_pushSnapshot {r : Roster} {e : NormalizedEvent} {syncJobId : Uuid} {now : Instant}
    {et : EntityType} {x : SnapshotRow}
    (hx : x ∈ ((r.pushSnapshot leaId e syncJobId now).snapshots et).rows) :
    (∃ old ∈ (r.snapshots et).rows, x.leaId = old.leaId ∧ x.naturalKey = old.naturalKey ∧
      x.sourceEventId = old.sourceEventId) ∨
    (et = e.entityType ∧ x.leaId = e.storedUnder leaId ∧ x.naturalKey = e.naturalKey ∧
      x.sourceEventId = some e.sourceEventId) := by
  rcases Roster.mem_insertSnapshot.mp hx with hx | ⟨rfl, rfl⟩
  · obtain ⟨old, hold, rfl⟩ := Roster.mem_supersede.mp hx
    refine Or.inl ⟨old, hold, ?_⟩
    split <;> exact ⟨rfl, rfl, rfl⟩
  · refine Or.inr ⟨rfl, ?_, ?_, ?_⟩
    · exact SnapshotRow.stored_leaId _ _
    · exact SnapshotRow.stored_naturalKey _ _
    · show ((e.snapshotRow leaId syncJobId now).stored e.entityType).sourceEventId = _
      rw [SnapshotRow.stored]
      split <;> rfl

/-! An event that is applied pushes its snapshot and writes its row. -/

theorem mem_sourceIds_applied {r : Roster} {e : NormalizedEvent} {syncJobId : Uuid} {now : Instant}
    {row : CanonicalRow} {et : EntityType} {i : EventId} :
    some i ∈ ((r.pushSnapshot leaId e syncJobId now).setCanonical e.naturalKey row).sourceIds et ↔
      some i ∈ r.sourceIds et ∨ (et = e.entityType ∧ i = e.sourceEventId) := by
  rw [sourceIds_congr (snapshots_setCanonical _ _ _), sourceIds_pushSnapshot, List.mem_append]
  by_cases ht : et = e.entityType
  · simp [ht]
  · simp [ht]

theorem mark_applied (r : Roster) (e : NormalizedEvent) (syncJobId : Uuid) (now : Instant)
    (row : CanonicalRow) (et : EntityType) (k : String) :
    ((r.pushSnapshot leaId e syncJobId now).setCanonical e.naturalKey row).latestLiveSourceEventId
        pg et leaId k
      = if et = e.entityType ∧ k = e.naturalKey ∧ e.foreignLea leaId = false
        then some e.sourceEventId else r.latestLiveSourceEventId pg et leaId k := by
  rw [latestLiveSourceEventId, live_setCanonical, ← latestLiveSourceEventId, mark_pushSnapshot]

theorem dedups_ensureLeaExists (r : Roster) (e : NormalizedEvent) :
    (r.ensureLeaExists leaId).dedups pg leaId e = r.dedups pg leaId e := by
  rw [dedups, latestLiveSourceEventId, live, snapshots_ensureLeaExists, ← live,
    ← latestLiveSourceEventId, dedups]

/-- Where the event has its turn among these, it gets no snapshot: it is at or below the
mark, or behind an event of its key that raises the mark to it. -/
def Bars (pg : Postgres) (leaId : LeaId) (events : List NormalizedEvent) (r : Roster)
    (e : NormalizedEvent) : Prop :=
  r.dedups pg leaId e = true ∨ ∃ e', [e', e].Sublist events ∧ e'.entityType = e.entityType ∧
    e'.naturalKey = e.naturalKey ∧ e.sourceEventId ≤ e'.sourceEventId

end Roster

/-! ### The snapshot tables -/

/-- Every snapshot is an event of the log, no event has two, and the mark of a key is
at or above all its snapshots. -/
structure Roster.Logged {leaId : LeaId} (pg : Postgres) (log : EventLog leaId) (r : Roster) :
    Prop where
  traced : ∀ et, ∀ x ∈ (r.snapshots et).rows, ∃ e ∈ log.events, e.entityType = et ∧
    x.leaId = e.storedUnder leaId ∧ x.naturalKey = e.naturalKey ∧
    x.sourceEventId = some e.sourceEventId ∧
    (et = .enrollment → r.studentExists leaId e.entity.studentId = true)
  distinct : ∀ et, (r.sourceIds et).Nodup
  marked : ∀ et, ∀ x ∈ (r.snapshots et).rows, x.leaId = leaId →
    ∀ i, x.sourceEventId = some i →
      ∃ m, r.latestLiveSourceEventId pg et leaId x.naturalKey = some m ∧ i ≤ m

section

variable {pg : Postgres} {leaId : LeaId} {log : EventLog leaId} {r r' : Roster}
  {syncJobId : Uuid} {now : Instant} {e : NormalizedEvent} {row : CanonicalRow}

theorem dedups_iff : r.dedups pg leaId e = true ↔
    ∃ m, r.latestLiveSourceEventId pg e.entityType leaId e.naturalKey = some m ∧
      e.sourceEventId ≤ m := by
  rw [Roster.dedups, Option.any_eq_true]
  simp only [decide_eq_true_eq]

/-- An event that is not deduplicated is above the mark. -/
theorem mark_le_of_dedups {m : EventId} (hd : r.dedups pg leaId e = false)
    (hm : r.latestLiveSourceEventId pg e.entityType leaId e.naturalKey = some m) :
    m ≤ e.sourceEventId := by
  refine (String.le_total m _).resolve_right fun hle => ?_
  rw [dedups_iff.mpr ⟨m, hm, hle⟩] at hd
  cases hd

/-- An event that is stored under the drained LEA. -/
theorem storedUnder_eq_of_not_foreign (h : e.foreignLea leaId = false) :
    e.storedUnder leaId = leaId := by
  rw [NormalizedEvent.storedUnder]
  split
  · next ht => simpa [NormalizedEvent.foreignLea, ht] using h
  · rfl

/-- A student of the LEA stays one when a row of the LEA is written. -/
theorem studentExists_setCanonical (k : String) {id : StudentId}
    (hrow : row.entityType ≠ .lea → ∀ id, row.owner id = leaId)
    (h : r.studentExists leaId id = true) :
    (r.setCanonical k row).studentExists leaId id = true := by
  rw [Roster.studentExists_iff] at h ⊢
  cases row with
  | student row =>
    have hlea : row.leaId = leaId := hrow (by simp [CanonicalRow.entityType]) k
    obtain ⟨old, hold, hl⟩ := h
    show ∃ x, (r.students.insert k row).lookup id = some x ∧ x.leaId = leaId
    rw [Table.lookup_insert_eq]
    split
    · exact ⟨row, rfl, hlea⟩
    · exact ⟨old, hold, hl⟩
  | enrollment row => exact h
  | lea row => exact h

/-- The foreign key of an enrollment vouches for its student. -/
theorem studentExists_of_admits (hc : e.Cleared) (ht : e.entityType = .enrollment)
    (hlea : e.leaId = leaId) (hrow : e.canonicalRow pg now = some row)
    (hadmits : r.admits e.naturalKey row = true) :
    r.studentExists leaId e.entity.studentId = true := by
  obtain ⟨enrollment, _, _, hentity, hl, -⟩ := cleared_enrollment hc ht
  rw [NormalizedEvent.canonicalRow, ht, hentity] at hrow
  simp only [Option.bind_eq_bind, Option.bind_eq_some_iff] at hrow
  obtain ⟨_, -, _, -, hrow⟩ := hrow
  rw [← Option.some.inj hrow, Roster.admits, Bool.and_eq_true, hl, hlea] at hadmits
  rw [hentity]
  exact hadmits.2

namespace Roster.Bars

variable {x : NormalizedEvent} {events : List NormalizedEvent}

/-- A deduplicated event bars what it stood before. -/
theorem of_dedups (h : r.Bars pg leaId (e :: events) x) (hd : r.dedups pg leaId e = true) :
    r.Bars pg leaId events x := by
  rcases h with hx | ⟨e', hsub, htype, hkey, hle⟩
  · exact Or.inl hx
  rcases List.sublist_cons_iff.mp hsub with hsub | ⟨tail, heq, -⟩
  · exact Or.inr ⟨e', hsub, htype, hkey, hle⟩
  · obtain ⟨rfl, -⟩ := List.cons.inj heq
    obtain ⟨m, hm, hle'⟩ := dedups_iff.mp hd
    rw [htype, hkey] at hm
    exact Or.inl (dedups_iff.mpr ⟨m, hm, String.le_trans hle hle'⟩)

/-- The first event stands behind no other. -/
theorem dedups_head (h : r.Bars pg leaId (e :: events) e) (hnew : e ∉ events) :
    r.dedups pg leaId e = true := by
  rcases h with hd | ⟨e', hsub, -⟩
  · exact hd
  rcases List.sublist_cons_iff.mp hsub with hsub | ⟨tail, heq, htail⟩
  · exact absurd (hsub.subset (by simp)) hnew
  · obtain ⟨-, rfl⟩ := List.cons.inj heq
    exact absurd (htail.subset (by simp)) hnew

/-- An applied event raises the mark of its key, and leaves the other marks. -/
theorem of_applied (h : r.Bars pg leaId (e :: events) x) (ht : x.entityType ≠ .lea)
    (hd : r.dedups pg leaId e = false) :
    ((r.pushSnapshot leaId e syncJobId now).setCanonical e.naturalKey row).Bars pg leaId
      events x := by
  have hraise : x.entityType = e.entityType → x.naturalKey = e.naturalKey →
      x.sourceEventId ≤ e.sourceEventId →
      ((r.pushSnapshot leaId e syncJobId now).setCanonical e.naturalKey row).dedups pg leaId x
        = true := by
    intro htype hkey hle
    have hf : e.foreignLea leaId = false := by
      rw [NormalizedEvent.foreignLea, ← htype]
      simp [ht]
    refine dedups_iff.mpr ⟨e.sourceEventId, ?_, hle⟩
    rw [mark_applied, if_pos ⟨htype, hkey, hf⟩]
  rcases h with hdx | ⟨e', hsub, htype, hkey, hle⟩
  · left
    obtain ⟨m, hm, hle⟩ := dedups_iff.mp hdx
    by_cases hkey : x.entityType = e.entityType ∧ x.naturalKey = e.naturalKey ∧
        e.foreignLea leaId = false
    · obtain ⟨htype, hkey, -⟩ := hkey
      rw [htype, hkey] at hm
      exact hraise htype hkey (String.le_trans hle (mark_le_of_dedups hd hm))
    · exact dedups_iff.mpr ⟨m, by rw [mark_applied, if_neg hkey]; exact hm, hle⟩
  · rcases List.sublist_cons_iff.mp hsub with hsub | ⟨tail, heq, -⟩
    · exact Or.inr ⟨e', hsub, htype, hkey, hle⟩
    · obtain ⟨rfl, -⟩ := List.cons.inj heq
      exact Or.inl (hraise htype.symm hkey.symm hle)

end Roster.Bars

namespace Roster.Logged

theorem empty : Roster.empty.Logged pg log where
  traced _ _ h := absurd h List.not_mem_nil
  distinct _ := List.nodup_nil
  marked _ _ h := absurd h List.not_mem_nil

theorem congr (h : r.Logged pg log) (hs : r'.snapshots = r.snapshots)
    (hstudents : ∀ id, r.studentExists leaId id = true → r'.studentExists leaId id = true) :
    r'.Logged pg log := by
  refine ⟨fun et x hx => ?_, fun et => ?_, fun et x hx hl i hi => ?_⟩
  · rw [hs] at hx
    obtain ⟨e, he, ht, hl, hk, hi, hstudent⟩ := h.traced et x hx
    exact ⟨e, he, ht, hl, hk, hi, fun h => hstudents _ (hstudent h)⟩
  · rw [Roster.sourceIds_congr hs]
    exact h.distinct et
  · rw [hs] at hx
    obtain ⟨m, hm, hle⟩ := h.marked et x hx hl i hi
    refine ⟨m, ?_, hle⟩
    rw [latestLiveSourceEventId, live, hs, ← live, ← latestLiveSourceEventId]
    exact hm

theorem ensureLeaExists (h : r.Logged pg log) : (r.ensureLeaExists leaId).Logged pg log :=
  h.congr (Roster.snapshots_ensureLeaExists _ _) fun id hid => by
    rw [Roster.ensureLeaExists]
    split <;> exact hid

/-- An event that is not deduplicated has no snapshot yet. -/
theorem fresh (h : r.Logged pg log) (he : e ∈ log.events) (hd : r.dedups pg leaId e = false)
    (hforeign : e.foreignLea leaId = true → some e.sourceEventId ∉ r.sourceIds .lea) :
    some e.sourceEventId ∉ r.sourceIds e.entityType := by
  intro hm
  cases hf : e.foreignLea leaId with
  | true =>
    have ht : e.entityType = .lea := by
      simp only [NormalizedEvent.foreignLea, Bool.and_eq_true, decide_eq_true_eq] at hf
      exact hf.1
    rw [ht] at hm
    exact hforeign hf hm
  | false =>
    obtain ⟨x, hx, hi⟩ := List.mem_map.mp hm
    obtain ⟨e', he', -, hl, hk, hi', -⟩ := h.traced _ x hx
    obtain rfl : e' = e := log.eq_of_source he' he (Option.some.inj (hi'.symm.trans hi))
    have hl : x.leaId = leaId := hl.trans (storedUnder_eq_of_not_foreign hf)
    obtain ⟨m, hm, hle⟩ := h.marked _ x hx hl _ hi
    have hdedup : r.dedups pg leaId e' = true := dedups_iff.mpr ⟨m, hk ▸ hm, hle⟩
    rw [hd] at hdedup
    exact absurd hdedup (by simp)

/-- The snapshot of an event that is not deduplicated, and whose enrollment has its
student. -/
theorem pushSnapshot (h : r.Logged pg log) (he : e ∈ log.events)
    (hd : r.dedups pg leaId e = false)
    (hforeign : e.foreignLea leaId = true → some e.sourceEventId ∉ r.sourceIds .lea)
    (hstudent : e.entityType = .enrollment →
      (r.pushSnapshot leaId e syncJobId now).studentExists leaId e.entity.studentId = true) :
    (r.pushSnapshot leaId e syncJobId now).Logged pg log := by
  refine ⟨fun et x hx => ?_, fun et => ?_, fun et x hx hl i hi => ?_⟩
  · rcases mem_pushSnapshot hx with ⟨old, hold, hl, hk, hi⟩ | ⟨rfl, hl, hk, hi⟩
    · obtain ⟨e', he', ht', hl', hk', hi', hvouches⟩ := h.traced et old hold
      exact ⟨e', he', ht', hl.trans hl', hk.trans hk', hi.trans hi', hvouches⟩
    · exact ⟨e, he, rfl, hl, hk, hi, hstudent⟩
  · rw [Roster.sourceIds_pushSnapshot]
    split
    · next het =>
      rw [het]
      refine List.nodup_append.mpr ⟨h.distinct _, List.nodup_singleton _, ?_⟩
      intro i hi j hj heq
      rw [List.mem_singleton.mp hj] at heq
      exact h.fresh he hd hforeign (heq ▸ hi)
    · rw [List.append_nil]
      exact h.distinct et
  · rw [Roster.mark_pushSnapshot]
    rcases mem_pushSnapshot hx with ⟨old, hold, hl', hk', hi'⟩ | ⟨rfl, hl', hk', hi'⟩
    · obtain ⟨m, hm, hle⟩ := h.marked et old hold (hl'.symm.trans hl) i (hi'.symm.trans hi)
      rw [← hk'] at hm
      split
      · next hkey =>
        obtain ⟨rfl, hkey, -⟩ := hkey
        exact ⟨e.sourceEventId, rfl, String.le_trans hle (mark_le_of_dedups hd (hkey ▸ hm))⟩
      · exact ⟨m, hm, hle⟩
    · have hf : e.foreignLea leaId = false := by
        by_contra hf
        simp only [NormalizedEvent.foreignLea, Bool.not_eq_false, Bool.and_eq_true,
          decide_eq_true_eq] at hf
        rw [NormalizedEvent.storedUnder, if_pos hf.1] at hl'
        exact hf.2 (hl'.symm.trans hl)
      rw [if_pos ⟨rfl, hk', hf⟩]
      refine ⟨_, rfl, ?_⟩
      rw [Option.some.inj (hi.symm.trans hi')]

/-- **One accepted event** that is not deduplicated. -/
theorem apply (h : r.Logged pg log) (he : e ∈ log.events) (hc : e.Cleared)
    (hd : r.dedups pg leaId e = false)
    (hforeign : e.foreignLea leaId = true → some e.sourceEventId ∉ r.sourceIds .lea)
    (hrow : e.canonicalRow pg now = some row)
    (hadmits : (r.pushSnapshot leaId e syncJobId now).admits e.naturalKey row = true) :
    ((r.pushSnapshot leaId e syncJobId now).setCanonical e.naturalKey row).Logged pg log := by
  have howner : row.entityType ≠ .lea → ∀ id, row.owner id = leaId := by
    intro ht id
    rw [canonicalRow_entityType hrow] at ht
    rw [owner_of_cleared hc ht hrow id, log.stamped e he]
  have hpushed : (r.pushSnapshot leaId e syncJobId now).Logged pg log :=
    h.pushSnapshot he hd hforeign fun ht =>
      studentExists_of_admits hc ht (log.stamped e he) hrow hadmits
  exact hpushed.congr (Roster.snapshots_setCanonical _ _ _) fun id hid =>
    studentExists_setCanonical _ howner hid

/-- The accepted events of a page, in page order.  Of the ids in `P` none must get
a snapshot. -/
theorem applyEvents {P : EventId → Prop} {events : List NormalizedEvent}
    (h : r.Logged pg log) (hlog : events.Sublist log.events) (hc : ∀ e ∈ events, e.Cleared)
    (hforeign : ∀ e ∈ events, e.foreignLea leaId = true →
      some e.sourceEventId ∉ r.sourceIds .lea)
    (hbarred : ∀ e ∈ events, P e.sourceEventId →
      e.entityType ≠ .lea ∧ r.Bars pg leaId events e)
    (happly : applyEvents pg leaId syncJobId now events r = some r') :
    r'.Logged pg log ∧ ∀ et i, some i ∈ r'.sourceIds et →
      some i ∈ r.sourceIds et ∨ (¬ P i ∧ ∃ e ∈ events, e.sourceEventId = i) := by
  induction events generalizing r with
  | nil =>
    obtain rfl : r = r' := Option.some.inj happly
    exact ⟨h, fun et i hi => Or.inl hi⟩
  | cons e events ih =>
    obtain ⟨r₁, h₁, h₂⟩ := applyEvents_cons_eq_some.mp happly
    have he : e ∈ log.events := hlog.subset List.mem_cons_self
    have hrest : events.Sublist log.events := (List.sublist_cons_self e events).trans hlog
    have hnew : e ∉ events := (List.nodup_cons.mp (log.nodup.sublist hlog)).1
    have hlater : ∀ x ∈ events, x ∈ e :: events := fun x hx => List.mem_cons_of_mem _ hx
    rcases applyEventRoster_eq_some.mp h₁ with ⟨hd, rfl⟩ | ⟨hd, row, hrow, hadmits, rfl⟩
    · -- the event is deduplicated, and so is what it stood before
      obtain ⟨hlogged, hids⟩ := ih h hrest (fun x hx => hc x (hlater x hx))
        (fun x hx => hforeign x (hlater x hx))
        (fun x hx hb => (hbarred x (hlater x hx) hb).imp_right fun hx => hx.of_dedups hd) h₂
      refine ⟨hlogged, fun et i hi => (hids et i hi).imp_right ?_⟩
      rintro ⟨hfree, e', he', hid⟩
      exact ⟨hfree, e', hlater e' he', hid⟩
    · -- the event is applied, so it is not barred
      have hfree : ¬ P e.sourceEventId := by
        intro hb
        rw [(hbarred e List.mem_cons_self hb).2.dedups_head hnew] at hd
        cases hd
      have hone := h.apply he (hc e List.mem_cons_self) hd (hforeign e List.mem_cons_self) hrow
        hadmits
      have hforeign' : ∀ x ∈ events, x.foreignLea leaId = true →
          some x.sourceEventId ∉ ((r.pushSnapshot leaId e syncJobId now).setCanonical
            e.naturalKey row).sourceIds .lea := by
        intro x hx hf hm
        rcases mem_sourceIds_applied.mp hm with hm | ⟨-, hi⟩
        · exact hforeign x (hlater x hx) hf hm
        · exact hnew (log.eq_of_source (hrest.subset hx) he hi ▸ hx)
      have hbarred' : ∀ x ∈ events, P x.sourceEventId → x.entityType ≠ .lea ∧
          ((r.pushSnapshot leaId e syncJobId now).setCanonical e.naturalKey row).Bars pg leaId
            events x := by
        intro x hx hb
        obtain ⟨ht, hbars⟩ := hbarred x (hlater x hx) hb
        exact ⟨ht, hbars.of_applied ht hd⟩
      obtain ⟨hlogged, hids⟩ := ih hone hrest (fun x hx => hc x (hlater x hx)) hforeign'
        hbarred' h₂
      refine ⟨hlogged, fun et i hi => ?_⟩
      rcases hids et i hi with hi | ⟨hb, e', he', hid⟩
      · rcases mem_sourceIds_applied.mp hi with hi | ⟨-, rfl⟩
        · exact Or.inl hi
        · exact Or.inr ⟨hfree, e, List.mem_cons_self, rfl⟩
      · exact Or.inr ⟨hb, e', hlater e' he', hid⟩

end Roster.Logged

end

/-! ### Runs -/

/-- The page leaves the awaiting events alone.  An event it redelivers while a
quarantine row of the event is unresolved is not quarantined again, and the live
snapshot of its key is already at or past it, if need be after an earlier event of the
page; an event for another LEA than the drained one is not redelivered once it has a
snapshot. -/
def PageRun.LeavesAwaiting (pg : Postgres) (run : PageRun) (s : Store) : Prop :=
  run.blocked s = false →
    (∀ e ∈ run.page.events, s.awaiting e.sourceEventId ≠ [] → e ∉ run.quarantined s ∧
      (s.roster.dedups pg run.leaId e = true ∨
        ∃ e' ∈ run.accepted s, [e', e].Sublist (run.accepted s) ∧
          e'.entityType = e.entityType ∧ e'.naturalKey = e.naturalKey ∧
          e.sourceEventId ≤ e'.sourceEventId)) ∧
    ∀ e ∈ run.page.events, e.foreignLea run.leaId = true →
      some e.sourceEventId ∉ s.roster.sourceIds .lea

/-- A page of the log that leaves the awaiting events alone, or a retry. -/
def Op.Redelivers {leaId : LeaId} (pg : Postgres) (log : EventLog leaId) (s : Store) : Op → Prop
  | .page run => run.leaId = leaId ∧ run.page.events.Sublist log.events ∧ run.LeavesAwaiting pg s
  | .retry _ => True
  | _ => False

instance {pg : Postgres} {run : PageRun} {s : Store} : Decidable (run.LeavesAwaiting pg s) := by
  unfold PageRun.LeavesAwaiting; exact instDecidableForall

instance {leaId : LeaId} {pg : Postgres} {log : EventLog leaId} {s : Store} :
    {op : Op} → Decidable (op.Redelivers pg log s)
  | .page _ | .bulkLoad _ | .revert _ | .release _ | .reject _ | .retry _ => by
    unfold Op.Redelivers; infer_instance

/-- The invariant of such a run. -/
structure Store.Disposed {leaId : LeaId} (pg : Postgres) (log : EventLog leaId) (s : Store) :
    Prop where
  logged : s.roster.Logged pg log
  written : ∀ row ∈ s.quarantine, ∃ e ∈ log.events, e.entityType = .enrollment ∧
    row.sourceEventId = some e.sourceEventId
  once : ∀ id, (s.awaiting id).length ≤ 1
  exclusive : ∀ id, s.awaiting id ≠ [] → ∀ et, some id ∉ s.roster.sourceIds et

/-- Layer 4 quarantines an enrollment whose student is not known. -/
theorem mem_checkReferential_orphan {events : List NormalizedEvent} {known : List StudentId}
    {id : EventId} (h : id ∈ (checkReferential events known).2) :
    ∃ e ∈ events, e.eventId = id ∧ e.entityType = .enrollment ∧ e.entity.studentId ∉ known := by
  induction events generalizing known with
  | nil => exact absurd h List.not_mem_nil
  | cons event events ih =>
    rw [checkReferential] at h
    split at h
    · obtain ⟨e, he, hid, ht, hk⟩ := ih h
      exact ⟨e, List.mem_cons_of_mem _ he, hid, ht, fun hm => hk (List.mem_cons_of_mem _ hm)⟩
    · obtain ⟨e, he, hid, ht, hk⟩ := ih h
      exact ⟨e, List.mem_cons_of_mem _ he, hid, ht, hk⟩
    · next ht =>
      split at h
      · obtain ⟨e, he, hid, ht, hk⟩ := ih h
        exact ⟨e, List.mem_cons_of_mem _ he, hid, ht, hk⟩
      · next hk =>
        rcases List.mem_cons.mp h with rfl | h
        · exact ⟨event, List.mem_cons_self, rfl, ht, hk⟩
        · obtain ⟨e, he, hid, ht, hk⟩ := ih h
          exact ⟨e, List.mem_cons_of_mem _ he, hid, ht, hk⟩

section

variable {pg : Postgres} {leaId : LeaId} {log : EventLog leaId} {s s' : Store} {run : PageRun}

/-- A quarantined event of a page of the log is an enrollment of a student the LEA does
not have. -/
theorem PageRun.orphan_of_quarantined (hsub : run.page.events.Sublist log.events)
    (hb : run.blocked s = false) {e : NormalizedEvent} (he : e ∈ run.quarantined s) :
    e ∈ run.page.events ∧ e.entityType = .enrollment ∧ e ∉ run.accepted s ∧
      s.roster.studentExists run.leaId e.entity.studentId = false := by
  obtain ⟨hmem, hq⟩ := List.mem_filter.mp he
  replace hq : e.eventId ∈ (run.report s).quarantinedEventIds := by
    simpa only [ValidationReport.quarantines, decide_eq_true_eq] using hq
  have hok := layer1_ok_of_not_blocked hb
  have horphan : e.eventId ∈ (checkReferential (surviving run.page)
      (s.leaState run.leaId run.partner).knownStudentIds).2 := by
    have hq' := hq
    rw [PageRun.report, runPipeline, if_pos hok] at hq'
    simpa only [List.mem_insertionSort, List.mem_dedup] using hq'
  obtain ⟨e', he', hid, ht, hk⟩ := mem_checkReferential_orphan horphan
  have hmem' : e' ∈ run.page.events := (List.mem_filter.mp he').1
  obtain rfl : e' = e :=
    List.inj_on_of_nodup_map log.ids (hsub.subset hmem') (hsub.subset hmem) hid
  refine ⟨hmem, ht, fun hacc => ?_, ?_⟩
  · have hacc := (List.mem_filter.mp hacc).2
    simp [ValidationReport.accepts, hq] at hacc
  · by_contra hexists
    exact hk (Store.mem_readKnownStudentIds.mpr (by simpa using hexists))

/-- The unresolved rows of an event after a page: what the page quarantined comes on
top. -/
theorem awaiting_page (hsub : run.page.events.Sublist log.events)
    (hq : s'.quarantine = s.quarantine ++
      (run.quarantined s).map (quarantineRow run.leaId run.syncJobId run.now)) (id : EventId) :
    (s'.awaiting id = s.awaiting id ∧ ∀ e ∈ run.quarantined s, e.sourceEventId ≠ id) ∨
      ∃ e ∈ run.quarantined s, e.sourceEventId = id ∧
        s'.awaiting id = s.awaiting id ++ [quarantineRow run.leaId run.syncJobId run.now e] := by
  have hfilter : s'.awaiting id = s.awaiting id ++
      ((run.quarantined s).filter fun e => e.sourceEventId = id).map
        (quarantineRow run.leaId run.syncJobId run.now) := by
    rw [Store.awaiting, hq, List.filter_append, List.filter_map, Store.awaiting]
    congr 2
    refine List.filter_congr fun e _ => ?_
    have hnew : (quarantineRow run.leaId run.syncJobId run.now e).resolvedAt = none := rfl
    simp [hnew, sourceEventId_quarantineRow]
  have hquarantined : (run.quarantined s).Sublist log.events :=
    List.filter_sublist.trans hsub
  -- one event of the log has the id
  have hone : ∀ e ∈ run.quarantined s, e.sourceEventId = id →
      (run.quarantined s).filter (fun e => e.sourceEventId = id) = [e] := by
    intro e he hid
    have hmem : ∀ x ∈ (run.quarantined s).filter (fun e => e.sourceEventId = id), x = e := by
      intro x hx
      obtain ⟨hx, hxid⟩ := List.mem_filter.mp hx
      exact log.eq_of_source (hquarantined.subset hx) (hquarantined.subset he)
        ((of_decide_eq_true hxid).trans hid.symm)
    have hnodup : ((run.quarantined s).filter (fun e => e.sourceEventId = id)).Nodup :=
      (log.nodup.sublist hquarantined).filter _
    have hin : e ∈ (run.quarantined s).filter (fun e => e.sourceEventId = id) :=
      List.mem_filter.mpr ⟨he, decide_eq_true hid⟩
    have hrep := List.eq_replicate_of_mem hmem
    have hpos := List.length_pos_of_mem hin
    have hle := List.nodup_replicate.mp (hrep ▸ hnodup)
    rw [hrep, show List.length _ = 1 by omega]
    rfl
  by_cases hex : ∃ e ∈ run.quarantined s, e.sourceEventId = id
  · obtain ⟨e, he, hid⟩ := hex
    refine Or.inr ⟨e, he, hid, ?_⟩
    rw [hfilter, hone e he hid, List.map_singleton]
  · have hnone : ∀ e ∈ run.quarantined s, e.sourceEventId ≠ id := fun e he hid =>
      hex ⟨e, he, hid⟩
    refine Or.inl ⟨?_, hnone⟩
    rw [hfilter, List.filter_eq_nil_iff.mpr fun e he => by simpa using hnone e he]
    simp

end

section

variable {pg : Postgres} {leaId : LeaId} {log : EventLog leaId} {s s' : Store}

namespace Store.Disposed

theorem empty : Store.empty.Disposed pg log where
  logged := .empty
  written _ h := absurd h List.not_mem_nil
  once _ := Nat.zero_le 1
  exclusive _ h := absurd rfl h

/-- A state with the same roster and the same quarantine. -/
theorem congr (h : s.Disposed pg log) (hr : s'.roster = s.roster)
    (hq : s'.quarantine = s.quarantine) : s'.Disposed pg log := by
  have hawait : ∀ id, s'.awaiting id = s.awaiting id := by
    intro id
    rw [awaiting, hq, awaiting]
  refine ⟨hr ▸ h.logged, hq ▸ h.written, fun id => ?_, fun id hne => ?_⟩
  · rw [hawait]
    exact h.once id
  · rw [hawait] at hne
    rw [hr]
    exact h.exclusive id hne

/-- An awaiting event is an enrollment. -/
theorem enrollment (h : s.Disposed pg log) {e : NormalizedEvent} (he : e ∈ log.events)
    (hne : s.awaiting e.sourceEventId ≠ []) : e.entityType = .enrollment := by
  obtain ⟨row, hrow⟩ := List.exists_mem_of_ne_nil _ hne
  obtain ⟨hm, hrow⟩ := List.mem_filter.mp hrow
  simp only [Bool.and_eq_true, decide_eq_true_eq] at hrow
  obtain ⟨e', he', ht, hi⟩ := h.written row hm
  obtain rfl : e' = e := log.eq_of_source he' he (Option.some.inj (hi.symm.trans hrow.2))
  exact ht

/-- **A page that leaves the awaiting events alone.** -/
theorem page (h : s.Disposed pg log) {run : PageRun} (hlea : run.leaId = leaId)
    (hsub : run.page.events.Sublist log.events) (hleaves : run.LeavesAwaiting pg s)
    (hcommits : run.Commits pg s s') : s'.Disposed pg log := by
  subst hlea
  cases hb : run.blocked s with
  | true =>
    obtain ⟨hr, hq, -⟩ := hcommits.blocked hb
    exact h.congr hr hq
  | false =>
    obtain ⟨hawaits, hforeign⟩ := hleaves hb
    have hq := hcommits.quarantine hb
    have haccepted : (run.accepted s).Sublist log.events := List.filter_sublist.trans hsub
    have hids : ∀ et, (s.roster.ensureLeaExists run.leaId).sourceIds et = s.roster.sourceIds et :=
      Roster.sourceIds_congr (Roster.snapshots_ensureLeaExists _ _)
    obtain ⟨hlogged, hnew⟩ := h.logged.ensureLeaExists.applyEvents
      (P := fun id => s.awaiting id ≠ []) haccepted (fun e he => (PageRun.cleared_of_mem_accepted hb he).2)
      (fun e he hf => by
        rw [hids]
        exact hforeign e (List.mem_filter.mp he).1 hf)
      (fun e he hne => by
        refine ⟨by simp [h.enrollment (haccepted.subset he) hne], ?_⟩
        rw [Roster.Bars, Roster.dedups_ensureLeaExists]
        refine (hawaits e (List.mem_filter.mp he).1 hne).2.imp_right ?_
        rintro ⟨x, -, hx⟩
        exact ⟨x, hx⟩)
      (hcommits.roster hb)
    simp only [hids] at hnew
    refine ⟨hlogged, fun row hm => ?_, fun id => ?_, fun id hne et hi => ?_⟩
    · rw [hq, List.mem_append] at hm
      rcases hm with hm | hm
      · exact h.written row hm
      · obtain ⟨e, he, rfl⟩ := List.mem_map.mp hm
        obtain ⟨hmem, ht, -⟩ := PageRun.orphan_of_quarantined hsub hb he
        exact ⟨e, hsub.subset hmem, ht, sourceEventId_quarantineRow _ _ _ e⟩
    · rcases awaiting_page hsub hq id with ⟨hsame, -⟩ | ⟨e, he, hid, hmore⟩
      · rw [hsame]
        exact h.once id
      · have hnone : s.awaiting id = [] := by
          by_contra hne
          rw [← hid] at hne
          exact (hawaits e (PageRun.orphan_of_quarantined hsub hb he).1 hne).1 he
        rw [hmore, hnone]
        exact Nat.le_refl 1
    · rcases awaiting_page hsub hq id with ⟨hsame, -⟩ | ⟨e, he, rfl, -⟩
      · rw [hsame] at hne
        rcases hnew et id hi with hi | ⟨hfree, -⟩
        · exact h.exclusive id hne et hi
        · exact hfree hne
      · obtain ⟨hmem, ht, hrejected, hmissing⟩ := PageRun.orphan_of_quarantined hsub hb he
        rcases hnew et _ hi with hi | ⟨-, e', he', hid⟩
        · -- a snapshot of an enrollment vouches for its student
          obtain ⟨x, hx, hi⟩ := List.mem_map.mp hi
          obtain ⟨e', he', ht', -, -, hi', hstudent⟩ := h.logged.traced et x hx
          obtain rfl : e' = e := log.eq_of_source he' (hsub.subset hmem)
            (Option.some.inj (hi'.symm.trans hi))
          rw [hstudent (ht'.symm.trans ht)] at hmissing
          exact absurd hmissing (by simp)
        · obtain rfl : e' = e := log.eq_of_source (haccepted.subset he') (hsub.subset hmem) hid
          exact hrejected he'

theorem exec (h : s.Disposed pg log) (op : Op) (hop : op.Redelivers pg log s) :
    (s.exec pg op).Disposed pg log := by
  rcases s.exec_cases pg op with he | he
  · rw [he]
    exact h
  · cases op with
    | page run => exact h.page hop.1 hop.2.1 hop.2.2 he
    | retry run =>
      obtain ⟨target, -, -, he⟩ := he
      exact h.congr (by rw [he]) (by rw [he])
    | bulkLoad run => exact hop.elim
    | revert run => exact hop.elim
    | release run => exact hop.elim
    | reject run => exact hop.elim

theorem oneDisposition (h : s.Disposed pg log) (id : EventId) : s.OneDisposition id where
  snapshots et l k := by
    have hcount : (s.roster.sourceIds et).count (some id) ≤ 1 :=
      List.nodup_iff_count_le_one.mp (h.logged.distinct et) (some id)
    have hle : (s.roster.snapshots et).rows.countP
        (fun x => x.hasKey l k && x.sourceEventId = some id)
          ≤ (s.roster.sourceIds et).count (some id) := by
      rw [Roster.sourceIds, List.count_eq_countP, List.countP_map]
      refine List.countP_mono_left fun x _ hx => ?_
      simp only [Bool.and_eq_true, decide_eq_true_eq] at hx
      simp [hx.2]
    omega
  quarantined := h.once id
  exclusive := h.exclusive id

end Store.Disposed

/-- **One disposition for each event** in every run of pages of the log that leave the
awaiting events alone, and of retries. -/
theorem one_disposition (pg : Postgres) (log : EventLog leaId) (ops : List Op)
    (hops : Runs.Guarded (Store.exec pg) (fun s op => op.Redelivers pg log s) Store.empty ops) :
    ∀ e ∈ log.events,
      (Runs.run (Store.exec pg) Store.empty ops).OneDisposition e.sourceEventId := by
  intro e _
  have hdisposed : (Runs.run (Store.exec pg) Store.empty ops).Disposed pg log :=
    hops.invariant (I := fun s : Store => s.Disposed pg log) (fun s op h hop => h.exec op hop)
      .empty
  exact hdisposed.oneDisposition e.sourceEventId

end

section

open Fixture

/-- An enrollment ahead of its student, the student, and a correction of the enrollment. -/
def lateStudent : List NormalizedEvent :=
  [event "L1" "evt_001" (enrollment "L1" "e1" "s1"), event "L1" "evt_002" (student "L1" "s1"),
    event "L1" "evt_003" (enrollment "L1" "e1" "s1" "class-2") .updated]

def lateStudentLog : EventLog "L1" where
  events := lateStudent
  ids := by decide
  source := by decide
  stamped := by decide

def retryOp (syncJobId : Uuid) : Op :=
  .retry
    { syncJobId := syncJobId, operatorIdentity := "op", reason := "replay", forced := true
      now := 50 }

/-- The whole log twice: the first event stays in quarantine, behind the third. -/
def replayAll : List Op :=
  [pageOp "L1" "job-1" lateStudent, retryOp "job-1", pageOp "L1" "job-2" lateStudent]

theorem one_disposition_replayAll : (after replayAll).OneDisposition "evt_001" :=
  one_disposition Postgres.reference lateStudentLog replayAll (by decide) _ List.mem_cons_self

/-- The orphan alone, polled again before its student is there. -/
def replayOrphan : List Op :=
  [pageOp "L1" "job-1" (lateStudent.take 1), retryOp "job-1",
    pageOp "L1" "job-2" (lateStudent.take 1)]

/-- The orphan polled again once its student is there. -/
def replayStudent : List Op :=
  [pageOp "L1" "job-1" (lateStudent.take 1), pageOp "L1" "job-2" ((lateStudent.take 2).drop 1),
    retryOp "job-1", pageOp "L1" "job-3" (lateStudent.take 1)]

/-- The orphan is quarantined twice; or it is applied, and still stands in quarantine. -/
theorem replay_quarantines_twice :
    ¬ (after replayOrphan).OneDisposition "evt_001" ∧
      ¬ (after replayStudent).OneDisposition "evt_001" := by
  constructor
  · intro h
    exact absurd h.quarantined (by decide)
  · intro h
    exact h.exclusive (by decide) .enrollment (by decide)

end
