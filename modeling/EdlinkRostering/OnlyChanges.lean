/-
Which entries a bulk load writes.

The shortcut of `_apply_entity_type` compares the live snapshot's payload with the one it
would write, as dicts, and looks at nothing else.  A payload an event left behind has the
fields of the entity, one of a bulk load the columns of `_ENTITY_PLAN`, one of a release
the fields and `source_event_id`; and the snapshot of a deletion has the payload of what
was deleted.

* `Dict.sameDict_iff` — two dicts are equal if they agree on the keys of either;
* `Store.keyed_run` — payloads have distinct keys in every reachable state;
* `bulkLoad_at` — what a load does to one entity;
* `wrote_iff_needs` — when it writes what has changed.
-/
import EdlinkRostering.Reloads

/-! ### Dicts -/

namespace Dict

variable {d e : Dict} {key : String} {v : Json}

def fieldNames (d : Dict) : List String := d.map Prod.fst

/-- The keys of the dict are these columns. -/
def HasKeys (d : Dict) (columns : List String) : Prop :=
  (∀ key ∈ d.fieldNames, key ∈ columns) ∧ ∀ key ∈ columns, key ∈ d.fieldNames

instance (d : Dict) (columns : List String) : Decidable (d.HasKeys columns) := by
  unfold HasKeys; infer_instance

/-- `payload.get(column)` is the same for every column. -/
def Agrees (d e : Dict) (columns : List String) : Prop :=
  ∀ key ∈ columns, (d.get? key).getD .null = (e.get? key).getD .null

instance (d e : Dict) (columns : List String) : Decidable (d.Agrees e columns) := by
  unfold Agrees; infer_instance

theorem get?_eq_some_of_mem (hd : d.fieldNames.Nodup) (h : (key, v) ∈ d) : d.get? key = some v := by
  induction d with
  | nil => exact absurd h List.not_mem_nil
  | cons kv d ih =>
    obtain ⟨k, w⟩ := kv
    obtain ⟨hk, hd⟩ := List.nodup_cons.mp hd
    rw [get?_cons]
    rcases List.mem_cons.mp h with heq | hmem
    · obtain ⟨rfl, rfl⟩ := Prod.mk.inj heq
      rw [if_pos rfl]
    · have hne : key ≠ k := by
        rintro rfl
        exact hk (List.mem_map.mpr ⟨(key, v), hmem, rfl⟩)
      rw [if_neg hne, ih hd hmem]

theorem exists_get? (hd : d.fieldNames.Nodup) (h : key ∈ d.fieldNames) :
    ∃ v, (key, v) ∈ d ∧ d.get? key = some v := by
  obtain ⟨⟨k, v⟩, hv, rfl⟩ := List.mem_map.mp h
  exact ⟨v, hv, get?_eq_some_of_mem hd hv⟩

/-- **Equal dicts** have the same keys and agree on them. -/
theorem sameDict_iff (hd : d.fieldNames.Nodup) (he : e.fieldNames.Nodup) :
    d.sameDict e = true ↔ d.Agrees e e.fieldNames ∧ d.HasKeys e.fieldNames := by
  rw [sameDict, Bool.and_eq_true, beq_iff_eq, List.all_eq_true]
  simp only [decide_eq_true_eq]
  constructor
  · rintro ⟨hlen, hall⟩
    have hsub : ∀ key ∈ d.fieldNames, key ∈ e.fieldNames := by
      intro key hkey
      obtain ⟨v, hv, -⟩ := exists_get? hd hkey
      obtain ⟨l₁, l₂, hsplit, -⟩ := List.lookup_eq_some_iff.mp (hall _ hv)
      exact List.mem_map.mpr ⟨(key, v), by rw [hsplit]; simp, rfl⟩
    have hperm : d.fieldNames.Perm e.fieldNames := by
      refine (List.subperm_of_subset hd hsub).perm_of_length_le ?_
      rw [fieldNames, fieldNames, List.length_map, List.length_map, hlen]
    refine ⟨fun key hkey => ?_, hsub, fun key hkey => hperm.mem_iff.mpr hkey⟩
    obtain ⟨v, hv, hget⟩ := exists_get? hd (hperm.mem_iff.mpr hkey)
    rw [hget, hall _ hv]
  · rintro ⟨hagrees, hsub, hsup⟩
    have hperm : d.fieldNames.Perm e.fieldNames := (List.perm_ext_iff_of_nodup hd he).mpr fun key =>
      ⟨hsub key, hsup key⟩
    refine ⟨by simpa [fieldNames] using hperm.length_eq, ?_⟩
    rintro ⟨key, v⟩ hv
    have hkey : key ∈ e.fieldNames := hsub key (List.mem_map_of_mem hv)
    obtain ⟨w, -, hw⟩ := exists_get? he hkey
    have h := hagrees key hkey
    rw [get?_eq_some_of_mem hd hv, hw] at h
    rw [hw]
    exact congrArg some h.symm

end Dict

/-! ### The payloads in the store -/

/-- Every payload is a dict: no key comes twice. -/
structure Store.Keyed (s : Store) : Prop where
  snapshots : ∀ et, ∀ x ∈ (s.roster.snapshots et).rows, x.payload.fieldNames.Nodup
  quarantine : ∀ row ∈ s.quarantine, ∀ payload, row.rawPayload = .obj payload →
    (Dict.fieldNames payload).Nodup

/-- No key comes twice in a payload of the roster. -/
def Roster.Keyed (r : Roster) : Prop :=
  ∀ et, ∀ x ∈ (r.snapshots et).rows, x.payload.fieldNames.Nodup

/-- The fields of an entity and, in quarantine, the source event id. -/
theorem fieldNames_quarantined (entity : CanonicalEntity) (id : String) :
    (Dict.fieldNames (entity.payload ++ [("source_event_id", Json.str id)])).Nodup := by
  cases entity <;> simp [Dict.fieldNames, CanonicalEntity.payload]

theorem fieldNames_payload (entity : CanonicalEntity) : entity.payload.fieldNames.Nodup := by
  cases entity <;> simp [Dict.fieldNames, CanonicalEntity.payload]

theorem PartnerEntry.fieldNames_payload (leaId : LeaId) (entry : PartnerEntry) :
    (entry.payload leaId).fieldNames.Nodup := by
  cases entry <;> simp [Dict.fieldNames, PartnerEntry.payload]

namespace Roster.Keyed

variable {r : Roster}

theorem congr {r' : Roster} (h : r.Keyed) (hs : r'.snapshots = r.snapshots) : r'.Keyed := by
  intro et x hx
  rw [hs] at hx
  exact h et x hx

theorem insertSnapshot (h : r.Keyed) (et : EntityType) {new : SnapshotRow}
    (hnew : new.payload.fieldNames.Nodup) : (r.insertSnapshot et new).Keyed := by
  intro et' x hx
  rcases Roster.mem_insertSnapshot.mp hx with hx | ⟨-, rfl⟩
  · exact h et' x hx
  · have hstored : (new.stored et).payload = new.payload := by
      rw [SnapshotRow.stored]; split <;> rfl
    show (new.stored et).payload.fieldNames.Nodup
    rw [hstored]
    exact hnew

theorem supersede (h : r.Keyed) (et : EntityType) (l : LeaId) (k : String) (g : Uuid)
    (i : Instant) : (r.supersede et l k g i).Keyed := by
  intro et' x hx
  obtain ⟨old, hold, rfl⟩ := Roster.mem_supersede.mp hx
  split
  · exact h et' old hold
  · exact h et' old hold

theorem setSuperseded (h : r.Keyed) (et : EntityType) (n : Nat) (g : Option Uuid)
    (i : Option Instant) : (r.setSuperseded et n g i).Keyed := by
  intro et' x hx
  obtain ⟨old, hold, rfl⟩ := Roster.mem_setSuperseded.mp hx
  split
  · exact h et' old hold
  · exact h et' old hold

theorem replace (h : r.Keyed) {et : EntityType} {l : LeaId} {k : String} {g : Uuid} {i : Instant}
    {new : SnapshotRow} {row : CanonicalRow} (hnew : new.payload.fieldNames.Nodup) :
    (r.replace et l k g i new row).Keyed :=
  ((h.supersede et l k g i).insertSnapshot et hnew).congr (Roster.snapshots_setCanonical _ _ _)

theorem rewind (h : r.Keyed) (run : RevertRun) (et : EntityType) (row : SnapshotRow)
    (prior : Option SnapshotRow) : (r.rewind run et row prior).Keyed := by
  cases prior with
  | none => exact h.setSuperseded _ _ _ _
  | some prior => exact (h.setSuperseded _ _ _ _).setSuperseded _ _ _ _

end Roster.Keyed

namespace Store.Keyed

variable {pg : Postgres} {s s' : Store}

theorem empty : Store.empty.Keyed :=
  ⟨fun _ _ h => absurd h List.not_mem_nil, fun _ h => absurd h List.not_mem_nil⟩

theorem page {run : PageRun} (h : s.Keyed) (hc : run.Commits pg s s') : s'.Keyed := by
  cases hb : run.blocked s with
  | true =>
    obtain ⟨hr, hq, -⟩ := hc.blocked hb
    refine ⟨?_, ?_⟩
    · rw [hr]; exact h.snapshots
    · rw [hq]; exact h.quarantine
  | false =>
    refine ⟨?_, fun row hrow payload hp => ?_⟩
    · have hstart : (s.roster.ensureLeaExists run.leaId).Keyed :=
        Roster.Keyed.congr h.snapshots (Roster.snapshots_ensureLeaExists _ _)
      refine Runs.foldlM_invariant (I := Roster.Keyed) ?_ hstart (hc.roster hb)
      intro event _ r r' hr hstep
      rcases applyEventRoster_eq_replace hstep with ⟨-, rfl⟩ | ⟨-, row, -, rfl⟩
      · exact hr
      · exact hr.replace (fieldNames_payload event.entity)
    · rw [hc.quarantine hb, List.mem_append, List.mem_map] at hrow
      rcases hrow with hrow | ⟨event, -, rfl⟩
      · exact h.quarantine row hrow payload hp
      · rw [← Json.obj.inj hp]
        exact fieldNames_quarantined event.entity event.sourceEventId

theorem bulkLoad {run : BulkRun} (h : s.Keyed) : (s.exec pg (.bulkLoad run)).Keyed := by
  refine ⟨?_, ?_⟩
  · refine bulkLoad_induction (P := Roster.Keyed) (fun r hr => ?_) ?_ h.snapshots
    · exact hr.congr (Roster.snapshots_ensureLeaExists _ _)
    · intro r r' n n' entry at' _ hr hstep
      obtain ⟨k, -, ⟨-, rfl, -⟩ | ⟨-, -, row, -, -, rfl⟩⟩ := applyEntryCounted_iff.mp hstep
      · exact hr
      · exact hr.replace (entry.fieldNames_payload run.leaId)
  · rw [Store.exec, (bulkLoad_frame pg run s).quarantine]
    exact h.quarantine

theorem revert {run : RevertRun} {outcome : RevertOutcome} (h : s.Keyed)
    (hr : Reverts pg run s s' outcome) : s'.Keyed := by
  obtain ⟨counts, htables, -⟩ := hr.roster
  refine ⟨?_, ?_⟩
  · refine revertTables_induction (P := fun r _ => r.Keyed) ?_ h.snapshots htables
    intro et r counts r' counts' row hr _ _ _ hstep
    exact (hr.rewind run et row _).congr (revertRow_eq_some hstep).1
  · rw [hr.quarantine]
    exact h.quarantine

/-- Resolving a row keeps its payload. -/
theorem markResolved (h : s.Keyed) (q : Nat) (now : Instant) (status operator : String)
    (reason : Option String) :
    ∀ row ∈ (s.markResolved q now status operator reason).quarantine,
      ∀ payload, row.rawPayload = .obj payload → (Dict.fieldNames payload).Nodup := by
  intro row hrow payload hp
  obtain ⟨n, hn⟩ := List.mem_iff_getElem?.mp hrow
  rw [Store.markResolved, List.getElem?_modify, Option.map_eq_map, Option.map_eq_some_iff] at hn
  obtain ⟨old, hold, rfl⟩ := hn
  refine h.quarantine old (List.mem_of_getElem? hold) payload ?_
  rw [← hp]
  split <;> rfl

theorem release {run : ReleaseRun} (h : s.Keyed) (hr : Releases run s s') : s'.Keyed := by
  refine ⟨?_, ?_⟩
  · obtain ⟨row, payload, _, snapshot, _, _, hrow, -, hp, -, -, -, hsnap, -, hu, -⟩ := hr.released
    have hpayload : snapshot.payload = payload := (snapshotRow_eq_some hsnap).2.2.2.2.2.2
    have hkeys := h.quarantine row (List.mem_of_getElem? hrow) payload hp
    rw [← hpayload] at hkeys
    rw [(Roster.upsert_eq_some.mp hu).2]
    exact (Roster.Keyed.insertSnapshot h.snapshots _ hkeys).congr
      (Roster.snapshots_setCanonical _ _ _)
  · rw [hr.quarantine]
    exact h.markResolved _ _ _ _ _

theorem exec (h : s.Keyed) (pg : Postgres) (op : Op) : (s.exec pg op).Keyed := by
  rcases s.exec_cases pg op with he | he
  · rw [he]
    exact h
  · cases op with
    | page run => exact h.page he
    | bulkLoad run => exact h.bulkLoad
    | revert run =>
      obtain ⟨outcome, he⟩ := he
      exact h.revert he
    | release run => exact h.release he
    | reject run =>
      obtain ⟨row, -, -, he⟩ := he
      rw [he]
      exact ⟨h.snapshots, h.markResolved _ _ _ _ _⟩
    | retry run =>
      obtain ⟨target, -, -, he⟩ := he
      rw [he]
      exact ⟨h.snapshots, h.quarantine⟩

end Store.Keyed

/-- **Payloads have distinct keys** in every reachable state. -/
theorem Store.keyed_run (pg : Postgres) (ops : List Op) :
    (Runs.run (Store.exec pg) Store.empty ops).Keyed :=
  Runs.run_invariant (I := Store.Keyed) (fun _ op h => h.exec pg op) Store.Keyed.empty ops

/-! ### One entity through a load -/

section

variable {pg : Postgres} {leaId : LeaId} {job : Uuid} {now : Instant} {r r' : Roster}
  {n n' : Nat} {entry other : PartnerEntry} {entries : List PartnerEntry} {et : EntityType}
  {k : String}

/-- The entries of other keys. -/
theorem sameAt_applyEntries
    (hothers : ∀ other ∈ entries, other.entityType ≠ et ∨ other.id ≠ some k)
    (h : entries.foldlM (applyEntryCounted pg leaId job now) (r, n) = some (r', n')) :
    Roster.SameAt et k r r' := by
  refine Runs.foldlM_invariant (I := fun x : Roster × Nat => Roster.SameAt et k r x.1) ?_
    (.refl r) h
  rintro other ho ⟨x, m⟩ ⟨x', m'⟩ hx hstep
  exact hx.trans (sameAt_applyEntryCounted (hothers other ho) hstep)

/-- **One entry of a type**: its own turn is the only one that touches its entity. -/
theorem applyEntityType_at (hids : (entries.map (·.id)).Nodup) (he : entry ∈ entries)
    (hk : entry.id = some k)
    (h : applyEntityType pg leaId job now entries r = some (r', n)) :
    ∃ r₁ n₁ r₂ n₂, Roster.SameAt entry.entityType k r r₁ ∧
      applyEntryCounted pg leaId job now (r₁, n₁) entry = some (r₂, n₂) ∧
      Roster.SameAt entry.entityType k r₂ r' := by
  obtain ⟨before, after, rfl⟩ := List.append_of_mem he
  rw [applyEntityType] at h
  obtain ⟨⟨r₁, n₁⟩, hbefore, hrest⟩ := Runs.foldlM_append_eq_some.mp h
  obtain ⟨⟨r₂, n₂⟩, hstep, hafter⟩ := Runs.foldlM_cons_eq_some.mp hrest
  rw [List.map_append, List.map_cons] at hids
  have hnodup := List.nodup_append.mp hids
  have hself := List.nodup_cons.mp hnodup.2.1
  refine ⟨r₁, n₁, r₂, n₂, sameAt_applyEntries (fun other ho => Or.inr ?_) hbefore, hstep,
    sameAt_applyEntries (fun other ho => Or.inr ?_) hafter⟩
  · rw [← hk]
    exact hnodup.2.2 _ (List.mem_map_of_mem ho) _ List.mem_cons_self
  · rw [← hk]
    exact fun heq => hself.1 (heq ▸ List.mem_map_of_mem ho)

end

section

variable {pg : Postgres} {run : BulkRun} {s s' : Store} {report : BulkLoadReport}
  {entry : PartnerEntry} {k : String}

/-- **One entity through a load that succeeds.** -/
theorem bulkLoad_at (hd : run.payload.Distinct) (he : entry ∈ run.payload.entries)
    (hk : entry.id = some k) (hb : bulkLoad pg run s = (s', some report)) :
    ∃ now r₁ n₁ r₂ n₂, Roster.SameAt entry.entityType k s.roster r₁ ∧
      applyEntryCounted pg run.leaId run.syncJobId now (r₁, n₁) entry = some (r₂, n₂) ∧
      Roster.SameAt entry.entityType k r₂ s'.roster := by
  obtain ⟨-, -, r₁, w₁, r₂, w₂, hs, hen, rfl, -⟩ := bulkLoad_eq_some_iff.mp hb
  have hlea : Roster.SameAt entry.entityType k s.roster (s.roster.ensureLeaExists run.leaId) :=
    Roster.ensureLeaExists_sameAt _ _ entry.entityType_ne_lea k
  rcases List.mem_append.mp he with he | he
  · obtain ⟨a, n, b, m, hbefore, hstep, hafter⟩ :=
      applyEntityType_at (by rw [List.map_map]; exact hd.1) he hk hs
    obtain ⟨student, -, rfl⟩ := List.mem_map.mp he
    refine ⟨_, a, n, b, m, hlea.trans hbefore, hstep, hafter.trans ?_⟩
    -- the enrollments come after it
    refine sameAt_applyEntries (fun other ho => Or.inl ?_) hen
    obtain ⟨_, -, rfl⟩ := List.mem_map.mp ho
    exact nofun
  · obtain ⟨a, n, b, m, hbefore, hstep, hafter⟩ :=
      applyEntityType_at (by rw [List.map_map]; exact hd.2) he hk hen
    obtain ⟨enrollment, -, rfl⟩ := List.mem_map.mp he
    refine ⟨_, a, n, b, m, (hlea.trans ?_).trans hbefore, hstep, hafter⟩
    refine sameAt_applyEntries (fun other ho => Or.inl ?_) hs
    obtain ⟨_, -, rfl⟩ := List.mem_map.mp ho
    exact nofun

/-! ### What is written -/

/-- A snapshot of the entity is of this job. -/
def Roster.Wrote (r : Roster) (job : Uuid) (et : EntityType) (leaId : LeaId) (k : String) : Prop :=
  ∃ x ∈ r.history et k, x.leaId = leaId ∧ x.generationId = job

instance (r : Roster) (job : Uuid) (et : EntityType) (leaId : LeaId) (k : String) :
    Decidable (r.Wrote job et leaId k) := by
  unfold Roster.Wrote; infer_instance

/-- A load writes an entry it does not pass over. -/
theorem wrote_iff_not_skips (hs : s.Generated) (hd : run.payload.Distinct)
    (he : entry ∈ run.payload.entries) (hk : entry.id = some k)
    (hb : bulkLoad pg run s = (s', some report)) :
    s'.roster.Wrote run.syncJobId entry.entityType run.leaId k ↔
      s.roster.skips run.leaId k entry = false := by
  obtain ⟨now, r₁, n₁, r₂, n₂, hbefore, hstep, hafter⟩ := bulkLoad_at hd he hk hb
  obtain ⟨k', hk', hcases⟩ := applyEntryCounted_iff.mp hstep
  obtain rfl := Option.some.inj (hk'.symm.trans hk)
  rw [Roster.Wrote, hafter.history, ← hbefore.skips]
  rcases hcases with ⟨hskips, rfl, -⟩ | ⟨hskips, -, row, hrow, -, rfl⟩
  · -- nothing of the job was there before
    rw [hskips, hbefore.history]
    refine iff_of_false ?_ (by simp)
    rintro ⟨x, hx, -, hgen⟩
    have hfresh := (bulkLoad_eq_some_iff.mp hb).1
    obtain ⟨job, hjob, -⟩ := hs entry.entityType run.syncJobId
      (Roster.mem_generations.mpr ⟨x, (Roster.mem_history.mp hx).1, hgen⟩)
    rw [hfresh] at hjob
    exact nomatch hjob
  · have hkey : (entry.snapshotRow run.leaId k' run.syncJobId now).naturalKey = k' := rfl
    have hmem : { entry.snapshotRow run.leaId k' run.syncJobId now with
          snapshotId := (r₁.snapshots entry.entityType).rows.length } ∈
        (r₁.replace entry.entityType run.leaId k' run.syncJobId now
          (entry.snapshotRow run.leaId k' run.syncJobId now) row).history entry.entityType k' :=
      (Roster.mem_history_replace entry.entityType_ne_lea hkey).mpr (Or.inr rfl)
    exact iff_of_true ⟨_, hmem, rfl, rfl⟩ hskips

/-- The columns of `_ENTITY_PLAN`. -/
def entityPlan : EntityType → List String
  | .student =>
    ["id", "lea_id", "given_name", "family_name", "grade", "preferred_first_name",
      "primary_school_id"]
  | .enrollment => ["id", "lea_id", "student_id", "class_id", "begin_date", "end_date"]
  | .lea => []

theorem PartnerEntry.fieldNames_eq_plan (leaId : LeaId) (entry : PartnerEntry) :
    (entry.payload leaId).fieldNames = entityPlan entry.entityType := by
  cases entry <;> rfl

/-- The entity has changed: it has no live snapshot, its live snapshot is a deletion, or
it differs from the partner's row on the columns of the plan. -/
def Roster.Needs (r : Roster) (leaId : LeaId) (k : String) (entry : PartnerEntry) : Prop :=
  ∀ x ∈ (r.live entry.entityType leaId k).head?, x.deletedUpstream = true ∨
    ¬ x.payload.Agrees (entry.payload leaId) (entityPlan entry.entityType)

instance (r : Roster) (leaId : LeaId) (k : String) (entry : PartnerEntry) :
    Decidable (r.Needs leaId k entry) := by
  unfold Roster.Needs; infer_instance

/-- Where the shortcut is right: a live snapshot that agrees on the columns has no other
key, and is no deletion, or has one, and is. -/
def Roster.Comparable (r : Roster) (leaId : LeaId) (k : String) (entry : PartnerEntry) : Prop :=
  ∀ x ∈ (r.live entry.entityType leaId k).head?,
    x.payload.Agrees (entry.payload leaId) (entityPlan entry.entityType) →
      (x.deletedUpstream = true ↔ ¬ x.payload.HasKeys (entityPlan entry.entityType))

instance (r : Roster) (leaId : LeaId) (k : String) (entry : PartnerEntry) :
    Decidable (r.Comparable leaId k entry) := by
  unfold Roster.Comparable; infer_instance

/-- **When a bulk load writes what has changed.** -/
theorem wrote_iff_needs (pg : Postgres) (ops : List Op) (run : BulkRun)
    (hd : run.payload.Distinct) (entry : PartnerEntry) (he : entry ∈ run.payload.entries)
    (k : String) (hk : entry.id = some k) (s' : Store) (report : BulkLoadReport)
    (hb : bulkLoad pg run (Runs.run (Store.exec pg) Store.empty ops) = (s', some report)) :
    let s := Runs.run (Store.exec pg) Store.empty ops
    (s'.roster.Wrote run.syncJobId entry.entityType run.leaId k ↔
      s.roster.Needs run.leaId k entry) ↔ s.roster.Comparable run.leaId k entry := by
  intro s
  rw [wrote_iff_not_skips (Store.generated_run pg ops) hd he hk hb, Roster.skips,
    Roster.currentPayload, Roster.Needs, Roster.Comparable]
  show ((((s.roster.live entry.entityType run.leaId k).head?).map _).any _ = false ↔ _) ↔ _
  cases hlive : (s.roster.live entry.entityType run.leaId k).head? with
  | none => simp
  | some x =>
    have hmem : x ∈ (s.roster.snapshots entry.entityType).rows :=
      (List.mem_filter.mp (List.mem_of_head? hlive)).1
    have hsame : Dict.sameDict x.payload (entry.payload run.leaId) = true ↔ _ :=
      Dict.sameDict_iff ((Store.keyed_run pg ops).snapshots _ x hmem)
        (entry.fieldNames_payload run.leaId)
    rw [entry.fieldNames_eq_plan] at hsame
    simp only [Option.map_some, Option.any_some, Option.mem_def, Option.some.injEq, forall_eq',
      ← Bool.not_eq_true (Dict.sameDict _ _), hsame]
    tauto

end

/-! ### A needless snapshot and a missing one -/

namespace OnlyChanges

open Fixture

def alex (grade : Option String) : StudentEntry :=
  { id := some "s1", givenName := some "Alex", familyName := some "Diaz", grade := grade }

def inClass : EnrollmentEntry where
  id := some "e1"
  studentId := some "s1"
  classId := some "class-1"
  beginDate := some (.text schoolYear.isoformat)

/-- The partner lists the student and the enrollment. -/
def listing (syncJobId : Uuid) (grade : Option String) : BulkRun where
  leaId := "L1"
  partner := "edlink"
  syncJobId := syncJobId
  payload := { students := [alex grade], enrollments := [inClass] }
  latest := { value := "evt_900" }
  clock _ := 40

/-- A student is enrolled and the enrollment is deleted again. -/
def enrolledAndDeleted : List Op :=
  [pageOp "L1" "job-1"
    [event "L1" "evt_001" (student "L1" "s1" (some "04")),
      event "L1" "evt_002" (enrollment "L1" "e1" "s1"),
      event "L1" "evt_003" (enrollment "L1" "e1" "s1") .deleted]]

def loadedOnce : List Op := [.bulkLoad (listing "job-1" (some "04"))]

end OnlyChanges

section

open Fixture OnlyChanges

/-- A new grade for a student that a bulk load has written. -/
theorem wrote_iff_needs_newGrade :
    (bulkLoad .reference (listing "job-2" (some "05")) (after loadedOnce)).1.roster.Wrote "job-2"
        .student "L1" "s1" ↔
      (after loadedOnce).roster.Needs "L1" "s1" (.student (alex (some "05"))) := by
  have hdone : (bulkLoad .reference (listing "job-2" (some "05")) (after loadedOnce)).2.isSome
      = true := by decide +kernel
  obtain ⟨report, hreport⟩ := Option.isSome_iff_exists.mp hdone
  exact (wrote_iff_needs .reference loadedOnce (listing "job-2" (some "05")) (by decide)
    (.student (alex (some "05"))) (by decide) "s1" rfl _ report (Prod.ext rfl hreport)).mpr
    (by decide +kernel)

/-- After events, the partner's unchanged student is written and its enrollment, which
the events have deleted, is not. -/
theorem bulk_load_misses_changes :
    let s := after enrolledAndDeleted
    let s' := (bulkLoad .reference (listing "job-2" (some "04")) s).1
    ¬ (s'.roster.Wrote "job-2" .student "L1" "s1" ↔
        s.roster.Needs "L1" "s1" (.student (alex (some "04")))) ∧
      ¬ (s'.roster.Wrote "job-2" .enrollment "L1" "e1" ↔
        s.roster.Needs "L1" "e1" (.enrollment inClass)) := by
  decide +kernel

end
