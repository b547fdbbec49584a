/-
The revert service.

`revert` follows `RevertService.revert` statement by statement on one database
state, the case of an operator who is alone.  The statements are functions of
their own, so that a revert can also be run next to another one.  The id of the
synthetic job is drawn by the service and is an argument, as is the clock.

* `revertRow_eq_some` — what one turn of the inner loop is;
* `revertTables_induction` — what the loops preserve;
* `Reverts` — what an accepted revert wrote.
-/
import EdlinkRostering.Store
import EdlinkRostering.Runs

inductive RevertError where
  | syncJobNotFound (syncJobId : Uuid)
  | refused (syncJobId : Uuid) (entityType : EntityType)
  /-- A statement raised. -/
  | database
deriving DecidableEq

def snapshotTable : EntityType → String
  | .lea => "lea_snapshots"
  | .student => "student_snapshots"
  | .enrollment => "enrollment_snapshots"

def RevertError.message : RevertError → Option String
  | .syncJobNotFound syncJobId => some ("sync_job_id " ++ syncJobId ++ " not found")
  | .refused syncJobId entityType =>
    some ("sync_job_id " ++ syncJobId ++ " has snapshots superseded by a later sync_job (table "
      ++ snapshotTable entityType ++ "). Roll back the newer sync first.")
  | .database => none

/-! ### Payloads -/

/-- A JSON value bound to a text column; the outer `none` is a value the driver
does not send as text. -/
def Json.bindText : Json → Option (Option String)
  | .null => some none
  | .str s => some (some s)
  | _ => none

/-- `payload.get(key, default)` in a nullable text column. -/
def Dict.textColumn (payload : Dict) (key : String) (default : Option String := none) :
    Option (Option String) :=
  match Dict.get? payload key with
  | none => some default
  | some value => value.bindText

/-- The same in a NOT NULL column. -/
def Dict.requiredColumn (payload : Dict) (key : String) (default : Option String := none) :
    Option String :=
  (Dict.textColumn payload key default).bind id

/-- `_parse_iso_date`; the outer `none` is a `ValueError`. -/
def parseIsoDate : Option Json → Option (Option Date)
  | none | some .null => some none
  | some value => (Date.fromisoformat value.pyStr).map some

/-- A date field that holds a date survives the payload. -/
theorem parseIsoDate_jsonSafe (d : Option Date) :
    parseIsoDate (some (((d.map DateField.date).map DateField.jsonSafe).getD .null)) = some d := by
  cases d with
  | none => rfl
  | some d =>
    show (Date.fromisoformat d.isoformat).map some = some (some d)
    rw [Date.fromisoformat_isoformat]
    rfl

/-- `payload.get("external_ids") or {}`. -/
def Dict.externalIds (payload : Dict) : Json :=
  match Dict.get? payload "external_ids" with
  | none => .obj []
  | some value => if value.truthy then value else .obj []

/-- The columns `_restore_canonical_from_payload` sets. -/
def canonicalOfPayload (entityType : EntityType) (leaId : LeaId) (payload : Dict)
    (deletedAt : Option Instant) : Option CanonicalRow :=
  match entityType with
  | .student => do
    let leaId ← Dict.requiredColumn payload "lea_id" (some leaId)
    let givenName ← Dict.requiredColumn payload "given_name" (some "")
    let familyName ← Dict.requiredColumn payload "family_name" (some "")
    let grade ← Dict.textColumn payload "grade"
    let preferredFirstName ← Dict.textColumn payload "preferred_first_name"
    let primarySchoolId ← Dict.textColumn payload "primary_school_id"
    some (.student
      { leaId := leaId, givenName := givenName, familyName := familyName, grade := grade
        preferredFirstName := preferredFirstName, primarySchoolId := primarySchoolId
        externalIds := Dict.externalIds payload, deletedAt := deletedAt })
  | .enrollment => do
    let leaId ← Dict.requiredColumn payload "lea_id" (some leaId)
    let studentId ← Dict.requiredColumn payload "student_id"
    let classId ← Dict.requiredColumn payload "class_id"
    let beginDate ← (parseIsoDate (Dict.get? payload "begin_date")).bind id
    let endDate ← parseIsoDate (Dict.get? payload "end_date")
    some (.enrollment
      { leaId := leaId, studentId := studentId, classId := classId, beginDate := beginDate
        endDate := endDate, deletedAt := deletedAt })
  | .lea => do
    let name ← Dict.requiredColumn payload "name" (some "")
    let leaType ← Dict.requiredColumn payload "lea_type" (some "traditional_district")
    let state ← Dict.requiredColumn payload "state" (some "XX")
    let ncesLeaId ← Dict.textColumn payload "nces_lea_id"
    some (.lea
      { name := name, leaType := leaType, state := state, ncesLeaId := ncesLeaId
        deletedAt := deletedAt })

/-! ### The statements -/

/-- `_refuse_if_superseded_by_newer_sync` on one table: a snapshot of the job is
superseded by a job that is not a revert. -/
def Store.supersededByNewerSync (s : Store) (syncJobId : Uuid) (entityType : EntityType) : Bool :=
  (s.roster.snapshots entityType).rows.any fun row => row.generationId = syncJobId &&
    row.supersededByGenerationId.any fun generation =>
      (s.syncJobs.lookup generation).any fun job => job.status ≠ .revert

/-- `_refuse_if_superseded_by_newer_sync`: the first table that refuses. -/
def Store.refusedBy (s : Store) (syncJobId : Uuid) : Option EntityType :=
  [EntityType.student, .enrollment, .lea].find? (s.supersededByNewerSync syncJobId)

namespace Roster

/-- The live snapshots of the job in one table. -/
def liveOf (r : Roster) (pg : Postgres) (entityType : EntityType) (syncJobId : Uuid) :
    List SnapshotRow :=
  pg.orderAsc ((r.snapshots entityType).rows.filter fun row =>
    row.generationId = syncJobId && row.isLive)

/-- `_find_prior_live_snapshot`: the snapshot the job superseded. -/
def findPriorLiveSnapshot (r : Roster) (pg : Postgres) (entityType : EntityType)
    (leaId : LeaId) (naturalKey : String) (supersededBy : Uuid) : Option SnapshotRow :=
  pg.top ((r.snapshots entityType).rows.filter fun row => row.hasKey leaId naturalKey &&
    row.supersededByGenerationId = some supersededBy)

/-- `UPDATE … SET superseded_by_generation_id, superseded_at WHERE snapshot_id`. -/
def setSuperseded (r : Roster) (entityType : EntityType) (snapshotId : Nat)
    (generation : Option Uuid) (instant : Option Instant) : Roster :=
  r.modifySnapshots entityType
    (fun t => t.mark (fun row => row.snapshotId = snapshotId) generation instant)
    fun _ _ h => h.mark _ _ _

/-- `_restore_canonical_from_payload`. -/
def restoreCanonicalFromPayload (r : Roster) (entityType : EntityType) (naturalKey : String)
    (leaId : LeaId) (prior : SnapshotRow) : Option Roster := do
  let deletedAt := if prior.deletedUpstream then prior.sourceEventAt else none
  let row ← canonicalOfPayload entityType leaId prior.payload deletedAt
  r.update naturalKey row

end Roster

structure RevertCounts where
  restored : Nat := 0
  updated : Nat := 0
  softDeleted : Nat := 0
deriving DecidableEq

/-- What a revert is called with and draws. -/
structure RevertRun where
  syncJobId : Uuid
  operatorIdentity : String
  reason : String
  revertGenerationId : Uuid
  now : Instant

/-- `_insert_revert_sync_job_row`. -/
def RevertRun.job (run : RevertRun) (target : SyncJobRow) : SyncJobRow where
  leaId := target.leaId
  partner := target.partner
  status := .revert
  startedAt := run.now
  completedAt := some run.now
  errorSummary := some ("revert of sync_job " ++ run.syncJobId)

/-- `_insert_revert_action`. -/
def RevertRun.action (run : RevertRun) (restored : Nat) : RevertActionRow where
  syncJobId := run.syncJobId
  revertGenerationId := run.revertGenerationId
  operatorIdentity := run.operatorIdentity
  reason := run.reason
  revertedAt := run.now
  snapshotsRestored := restored

/-! ### The loops -/

/-- Give the key back to the prior snapshot and rewind its canonical row, or
soft-delete the row when the job introduced the entity; the flag tells which. -/
def giveBack (pg : Postgres) (run : RevertRun) (entityType : EntityType) (r : Roster)
    (row : SnapshotRow) : Option (Roster × Bool) :=
  match r.findPriorLiveSnapshot pg entityType row.leaId row.naturalKey run.syncJobId with
  | none => some (r.softDelete entityType row.naturalKey run.now, false)
  | some prior =>
    ((r.setSuperseded entityType prior.snapshotId none none).restoreCanonicalFromPayload
      entityType row.naturalKey row.leaId prior).map fun r => (r, true)

def RevertCounts.count (counts : RevertCounts) (updated : Bool) : RevertCounts where
  restored := counts.restored + 1
  updated := if updated then counts.updated + 1 else counts.updated
  softDeleted := if updated then counts.softDeleted else counts.softDeleted + 1

/-- One turn of the inner loop: give the key back and retire the job's snapshot. -/
def revertRow (pg : Postgres) (run : RevertRun) (entityType : EntityType)
    (acc : Roster × RevertCounts) (row : SnapshotRow) : Option (Roster × RevertCounts) := do
  let (r, updated) ← giveBack pg run entityType acc.1 row
  some (r.setSuperseded entityType row.snapshotId (some run.revertGenerationId) (some run.now),
    acc.2.count updated)

/-- One turn of the outer loop. -/
def revertTable (pg : Postgres) (run : RevertRun) (acc : Roster × RevertCounts)
    (entityType : EntityType) : Option (Roster × RevertCounts) :=
  (acc.1.liveOf pg entityType run.syncJobId).foldlM (revertRow pg run entityType) acc

def revertTables (pg : Postgres) (run : RevertRun) (r : Roster) :
    Option (Roster × RevertCounts) :=
  [EntityType.student, .enrollment, .lea].foldlM (revertTable pg run) (r, {})

structure RevertOutcome where
  syncJobId : Uuid
  revertGenerationId : Uuid
  snapshotsRestored : Nat
  canonicalRowsUpdated : Nat
  canonicalRowsSoftDeleted : Nat
deriving DecidableEq

def RevertRun.outcome (run : RevertRun) (counts : RevertCounts) : RevertOutcome where
  syncJobId := run.syncJobId
  revertGenerationId := run.revertGenerationId
  snapshotsRestored := counts.restored
  canonicalRowsUpdated := counts.updated
  canonicalRowsSoftDeleted := counts.softDeleted

/-- The body of a revert that is not refused. -/
def revertAccepted (pg : Postgres) (run : RevertRun) (target : SyncJobRow) (s : Store) :
    Option (Store × RevertOutcome) := do
  let s ← s.insertSyncJob run.revertGenerationId (run.job target)
  let (r, counts) ← revertTables pg run s.roster
  some ({ s with roster := r, revertActions := s.revertActions ++ [run.action counts.restored] },
    run.outcome counts)

/-- `RevertService.revert`. -/
def revert (pg : Postgres) (run : RevertRun) (s : Store) :
    Except RevertError (Store × RevertOutcome) :=
  match s.syncJobs.lookup run.syncJobId with
  | none => .error (.syncJobNotFound run.syncJobId)
  | some target =>
    match s.refusedBy run.syncJobId with
    | some entityType => .error (.refused run.syncJobId entityType)
    | none =>
      match revertAccepted pg run target s with
      | none => .error .database
      | some result => .ok result

/-! ### What the statements do -/

namespace Roster

@[simp] theorem canonical_setSuperseded (r : Roster) (et : EntityType) (id : Nat)
    (g : Option Uuid) (i : Option Instant) : (r.setSuperseded et id g i).canonical = r.canonical :=
  canonical_modifySnapshots _ _ _ _

@[simp] theorem admits_setSuperseded (r : Roster) (et : EntityType) (id : Nat)
    (g : Option Uuid) (i : Option Instant) : (r.setSuperseded et id g i).admits = r.admits :=
  admits_modifySnapshots _ _ _ _

theorem mem_setSuperseded {r : Roster} {et et' : EntityType} {id : Nat} {g : Option Uuid}
    {i : Option Instant} {row : SnapshotRow} :
    row ∈ ((r.setSuperseded et id g i).snapshots et').rows ↔
      ∃ old ∈ (r.snapshots et').rows,
        row = if et' = et ∧ old.snapshotId = id then old.mark g i else old := by
  by_cases he : et' = et
  · subst he
    simp only [setSuperseded, modifySnapshots_self, SnapshotTable.mem_mark, true_and,
      decide_eq_true_eq]
  · rw [setSuperseded, modifySnapshots_ne _ _ _ _ he]
    simp [he]

theorem mem_liveOf {r : Roster} {pg : Postgres} {et : EntityType} {syncJobId : Uuid}
    {row : SnapshotRow} : row ∈ r.liveOf pg et syncJobId ↔ row ∈ (r.snapshots et).rows ∧
      row.generationId = syncJobId ∧ row.supersededByGenerationId = none := by
  rw [liveOf, Postgres.mem_orderAsc, List.mem_filter]
  simp [SnapshotRow.isLive]

theorem liveOf_nodup (r : Roster) (pg : Postgres) (et : EntityType) (syncJobId : Uuid) :
    (r.liveOf pg et syncJobId).Nodup :=
  (Postgres.orderAsc_perm _ _).nodup_iff.mpr ((r.snapshots et).rows_nodup.filter _)

theorem mem_of_findPrior {r : Roster} {pg : Postgres} {et : EntityType} {leaId : LeaId}
    {naturalKey : String} {supersededBy : Uuid} {prior : SnapshotRow}
    (h : r.findPriorLiveSnapshot pg et leaId naturalKey supersededBy = some prior) :
    prior ∈ (r.snapshots et).rows ∧ prior.leaId = leaId ∧ prior.naturalKey = naturalKey ∧
      prior.supersededByGenerationId = some supersededBy := by
  obtain ⟨hm, hp⟩ := List.mem_filter.mp (Postgres.mem_of_top h)
  simp only [Bool.and_eq_true, SnapshotRow.hasKey_iff, decide_eq_true_eq] at hp
  exact ⟨hm, hp.1.1, hp.1.2, hp.2⟩

theorem findPrior_eq_none {r : Roster} {pg : Postgres} {et : EntityType} {leaId : LeaId}
    {naturalKey : String} {supersededBy : Uuid} :
    r.findPriorLiveSnapshot pg et leaId naturalKey supersededBy = none ↔
      ∀ row ∈ (r.snapshots et).rows, row.leaId = leaId → row.naturalKey = naturalKey →
        row.supersededByGenerationId ≠ some supersededBy := by
  rw [findPriorLiveSnapshot, Postgres.top_eq_none, List.filter_eq_nil_iff]
  simp [SnapshotRow.hasKey_iff]

/-- What one turn of the inner loop does to the snapshot tables. -/
def rewind (r : Roster) (run : RevertRun) (entityType : EntityType) (row : SnapshotRow)
    (prior : Option SnapshotRow) : Roster :=
  let r := match prior with
    | none => r
    | some prior => r.setSuperseded entityType prior.snapshotId none none
  r.setSuperseded entityType row.snapshotId (some run.revertGenerationId) (some run.now)

/-- What one turn of the inner loop does to the canonical row. -/
def Rewound (r r' : Roster) (run : RevertRun) (entityType : EntityType) (row : SnapshotRow) :
    Option SnapshotRow → Prop
  | none => r'.canonical = (r.softDelete entityType row.naturalKey run.now).canonical
  | some prior => ∃ new, canonicalOfPayload entityType row.leaId prior.payload
      (if prior.deletedUpstream then prior.sourceEventAt else none) = some new ∧
      (r.canonical entityType row.naturalKey ≠ none → r.admits row.naturalKey new = true) ∧
      ∀ et id, r'.canonical et id
        = if et = entityType ∧ id = row.naturalKey then (r.canonical et id).map fun _ => new
          else r.canonical et id

end Roster

theorem canonicalOfPayload_entityType {et : EntityType} {leaId : LeaId} {payload : Dict}
    {deletedAt : Option Instant} {row : CanonicalRow}
    (h : canonicalOfPayload et leaId payload deletedAt = some row) : row.entityType = et := by
  cases et with
  | student =>
    simp only [canonicalOfPayload, Option.bind_eq_bind, Option.bind_eq_some_iff] at h
    obtain ⟨_, -, _, -, _, -, _, -, _, -, _, -, h⟩ := h
    rw [← Option.some.inj h]; rfl
  | enrollment =>
    simp only [canonicalOfPayload, Option.bind_eq_bind, Option.bind_eq_some_iff] at h
    obtain ⟨_, -, _, -, _, -, _, -, _, -, h⟩ := h
    rw [← Option.some.inj h]; rfl
  | lea =>
    simp only [canonicalOfPayload, Option.bind_eq_bind, Option.bind_eq_some_iff] at h
    obtain ⟨_, -, _, -, _, -, _, -, h⟩ := h
    rw [← Option.some.inj h]; rfl

theorem Roster.update_spec {r r' : Roster} {id : String} {row : CanonicalRow}
    (h : r.update id row = some r') : r'.snapshots = r.snapshots ∧
      (r.canonical row.entityType id ≠ none → r.admits id row = true) ∧
      ∀ et id', r'.canonical et id'
        = if et = row.entityType ∧ id' = id then (r.canonical et id').map fun _ => row
          else r.canonical et id' := by
  rcases update_eq_some.mp h with ⟨hn, rfl⟩ | ⟨hn, hu⟩
  · refine ⟨rfl, fun h => absurd hn h, fun et id' => ?_⟩
    by_cases hk : et = row.entityType ∧ id' = id
    · rw [if_pos hk, hk.1, hk.2, hn]; rfl
    · rw [if_neg hk]
  · obtain ⟨ha, rfl⟩ := upsert_eq_some.mp hu
    refine ⟨snapshots_setCanonical _ _ _, fun _ => ha, fun et id' => ?_⟩
    rw [canonical_setCanonical]
    by_cases hk : et = row.entityType ∧ id' = id
    · rw [if_pos hk, if_pos hk, hk.1, hk.2]
      obtain ⟨old, hold⟩ := Option.ne_none_iff_exists'.mp hn
      rw [hold]; rfl
    · rw [if_neg hk, if_neg hk]

/-- The snapshot part of `setSuperseded` does not look at the canonical tables. -/
theorem Roster.snapshots_setSuperseded_congr {r₁ r₂ : Roster} (h : r₁.snapshots = r₂.snapshots)
    (et : EntityType) (id : Nat) (g : Option Uuid) (i : Option Instant) :
    (r₁.setSuperseded et id g i).snapshots = (r₂.setSuperseded et id g i).snapshots := by
  simp only [setSuperseded, modifySnapshots, h]

/-- One turn of the inner loop. -/
theorem revertRow_eq_some {pg : Postgres} {run : RevertRun} {et : EntityType} {r r' : Roster}
    {counts counts' : RevertCounts} {row : SnapshotRow}
    (h : revertRow pg run et (r, counts) row = some (r', counts')) :
    r'.snapshots = (r.rewind run et row
        (r.findPriorLiveSnapshot pg et row.leaId row.naturalKey run.syncJobId)).snapshots ∧
      r.Rewound r' run et row
        (r.findPriorLiveSnapshot pg et row.leaId row.naturalKey run.syncJobId) ∧
      counts'.restored = counts.restored + 1 := by
  simp only [revertRow, Option.bind_eq_bind, Option.bind_eq_some_iff] at h
  obtain ⟨⟨r₁, updated⟩, h₁, h⟩ := h
  obtain ⟨rfl, rfl⟩ := Prod.mk.inj (Option.some.inj h)
  rw [giveBack] at h₁
  cases hp : r.findPriorLiveSnapshot pg et row.leaId row.naturalKey run.syncJobId with
  | none =>
    simp only [hp, Option.some.injEq, Prod.mk.injEq] at h₁
    obtain ⟨rfl, rfl⟩ := h₁
    refine ⟨?_, ?_, rfl⟩
    · exact Roster.snapshots_setSuperseded_congr (Roster.snapshots_softDelete _ _ _ _) _ _ _ _
    · exact Roster.canonical_setSuperseded _ _ _ _ _
  | some prior =>
    simp only [hp, Option.map_eq_some_iff, Prod.mk.injEq] at h₁
    obtain ⟨r₂, hr, rfl, rfl⟩ := h₁
    simp only [Roster.restoreCanonicalFromPayload, Option.bind_eq_bind,
      Option.bind_eq_some_iff] at hr
    obtain ⟨new, hnew, hu⟩ := hr
    obtain ⟨hs, ha, hc⟩ := Roster.update_spec hu
    refine ⟨?_, ⟨new, hnew, ?_, fun et' id => ?_⟩, rfl⟩
    · exact Roster.snapshots_setSuperseded_congr hs _ _ _ _
    · rw [canonicalOfPayload_entityType hnew] at ha
      simpa using ha
    · rw [Roster.canonical_setSuperseded, hc, canonicalOfPayload_entityType hnew,
        Roster.canonical_setSuperseded]

/-! ### What the loops preserve -/

/-- A property that one turn on a live snapshot of the job keeps survives the
inner loop; the snapshots that are still to come stay live meanwhile. -/
theorem revertTable_induction {pg : Postgres} {run : RevertRun} {et : EntityType}
    {P : Roster → RevertCounts → Prop}
    (hstep : ∀ r counts r' counts' row, P r counts →
      row ∈ (r.snapshots et).rows → row.generationId = run.syncJobId →
      row.supersededByGenerationId = none →
      revertRow pg run et (r, counts) row = some (r', counts') → P r' counts')
    {r r' : Roster} {counts counts' : RevertCounts} (hp : P r counts)
    (h : revertTable pg run (r, counts) et = some (r', counts')) : P r' counts' := by
  rw [revertTable] at h
  have hl : ∀ row ∈ r.liveOf pg et run.syncJobId, row ∈ (r.snapshots et).rows ∧
      row.generationId = run.syncJobId ∧ row.supersededByGenerationId = none :=
    fun row hrow => Roster.mem_liveOf.mp hrow
  have hn := r.liveOf_nodup pg et run.syncJobId
  generalize r.liveOf pg et run.syncJobId = rows at h hl hn
  induction rows generalizing r counts with
  | nil =>
    obtain ⟨rfl, rfl⟩ := Prod.mk.inj (Option.some.inj h)
    exact hp
  | cons row rows ih =>
    obtain ⟨⟨r₁, counts₁⟩, h₁, h₂⟩ := Runs.foldlM_cons_eq_some.mp h
    obtain ⟨hm, hg, hlive⟩ := hl row List.mem_cons_self
    refine ih (hstep _ _ _ _ _ hp hm hg hlive h₁) h₂ (fun x hx => ?_) hn.of_cons
    obtain ⟨hxm, hxg, hxl⟩ := hl x (List.mem_cons_of_mem _ hx)
    refine ⟨?_, hxg, hxl⟩
    -- neither the retired snapshot nor the prior one is `x`
    have hne : x.snapshotId ≠ row.snapshotId := fun hid =>
      (List.nodup_cons.mp hn).1 (SnapshotTable.eq_of_id hxm hm hid ▸ hx)
    rw [(revertRow_eq_some h₁).1]
    cases hpr : r.findPriorLiveSnapshot pg et row.leaId row.naturalKey run.syncJobId with
    | none => exact Roster.mem_setSuperseded.mpr ⟨x, hxm, by simp [hne]⟩
    | some prior =>
      obtain ⟨hpm, -, -, hps⟩ := Roster.mem_of_findPrior hpr
      have hne' : x.snapshotId ≠ prior.snapshotId := fun hid => by
        rw [SnapshotTable.eq_of_id hxm hpm hid, hps] at hxl
        exact absurd hxl (by simp)
      refine Roster.mem_setSuperseded.mpr ⟨x, ?_, by simp [hne]⟩
      exact Roster.mem_setSuperseded.mpr ⟨x, hxm, by simp [hne']⟩

/-- The same over the three tables. -/
theorem revertTables_induction {pg : Postgres} {run : RevertRun}
    {P : Roster → RevertCounts → Prop}
    (hstep : ∀ et r counts r' counts' row, P r counts →
      row ∈ (r.snapshots et).rows → row.generationId = run.syncJobId →
      row.supersededByGenerationId = none →
      revertRow pg run et (r, counts) row = some (r', counts') → P r' counts')
    {r r' : Roster} {counts' : RevertCounts} (hp : P r {})
    (h : revertTables pg run r = some (r', counts')) : P r' counts' := by
  exact Runs.foldlM_invariant (I := fun acc => P acc.1 acc.2)
    (fun et _ _ _ hacc hturn => revertTable_induction (hstep et) hacc hturn) hp h

/-! ### What an accepted revert is -/

/-- What an accepted revert wrote. -/
structure Reverts (pg : Postgres) (run : RevertRun) (s s' : Store)
    (outcome : RevertOutcome) : Prop where
  target : ∃ job, s.syncJobs.lookup run.syncJobId = some job ∧
    s'.syncJobs = s.syncJobs.insert run.revertGenerationId (run.job job)
  notSuperseded : ∀ et, s.supersededByNewerSync run.syncJobId et = false
  fresh : s.syncJobs.lookup run.revertGenerationId = none
  roster : ∃ counts, revertTables pg run s.roster = some (s'.roster, counts) ∧
    s'.revertActions = s.revertActions ++ [run.action counts.restored] ∧
    outcome.snapshotsRestored = counts.restored ∧
    outcome.canonicalRowsUpdated = counts.updated ∧
    outcome.canonicalRowsSoftDeleted = counts.softDeleted
  quarantine : s'.quarantine = s.quarantine
  cursorState : s'.cursorState = s.cursorState
  retryActions : s'.retryActions = s.retryActions

theorem Store.refusedBy_eq_none {s : Store} {syncJobId : Uuid} :
    s.refusedBy syncJobId = none ↔ ∀ et, s.supersededByNewerSync syncJobId et = false := by
  rw [refusedBy, List.find?_eq_none]
  simp only [List.mem_cons, List.not_mem_nil, or_false, Bool.not_eq_true]
  constructor
  · intro h et
    cases et with
    | lea => exact h _ (by simp)
    | student => exact h _ (by simp)
    | enrollment => exact h _ (by simp)
  · exact fun h et _ => h et

theorem revert_eq_ok {pg : Postgres} {run : RevertRun} {s s' : Store} {outcome : RevertOutcome}
    (h : revert pg run s = .ok (s', outcome)) : Reverts pg run s s' outcome := by
  rw [revert] at h
  split at h
  · exact absurd h (by simp)
  · next target htarget =>
    split at h
    · exact absurd h (by simp)
    · next href =>
      split at h
      · exact absurd h (by simp)
      · next result hacc =>
        rw [Except.ok.injEq] at h
        subst h
        simp only [revertAccepted, Option.bind_eq_bind, Option.bind_eq_some_iff,
          Store.insertSyncJob_eq_some] at hacc
        obtain ⟨_, ⟨hfresh, rfl⟩, ⟨r, counts⟩, hr, h⟩ := hacc
        obtain ⟨rfl, rfl⟩ := Prod.mk.inj (Option.some.inj h)
        exact ⟨⟨target, htarget, rfl⟩, Store.refusedBy_eq_none.mp href, hfresh,
          ⟨counts, hr, rfl, rfl, rfl, rfl⟩, rfl, rfl, rfl⟩

/-! ### The live snapshots after one turn -/

/-- The retired snapshot is gone from the live rows and the prior one, if there
is one, is back. -/
theorem Roster.mem_live_rewind {r : Roster} {run : RevertRun} {et : EntityType}
    {row : SnapshotRow} {prior : Option SnapshotRow} (hrow : row ∈ (r.snapshots et).rows)
    (hlive : row.supersededByGenerationId = none)
    (hprior : ∀ p, prior = some p → p ∈ (r.snapshots et).rows ∧
      p.supersededByGenerationId ≠ none)
    {et' : EntityType} {l : LeaId} {k : String} {x : SnapshotRow} :
    x ∈ (r.rewind run et row prior).live et' l k ↔
      (x ∈ r.live et' l k ∧ ¬ (et' = et ∧ x = row)) ∨
      (et' = et ∧ ∃ p, prior = some p ∧ x = p.mark none none ∧ p.leaId = l ∧
        p.naturalKey = k) := by
  have hid : ∀ y ∈ (r.snapshots et).rows, (y.snapshotId = row.snapshotId ↔ y = row) :=
    fun y hy => ⟨SnapshotTable.eq_of_id hy hrow, fun h => h ▸ rfl⟩
  by_cases he : et' = et
  · subst he
    -- without a prior snapshot the turn only retires
    cases prior with
    | none =>
      rw [live, rewind, SnapshotTable.mem_live, live, SnapshotTable.mem_live, mem_setSuperseded]
      simp only [true_and, reduceCtorEq, false_and, exists_false, or_false]
      constructor
      · rintro ⟨⟨y, hy, rfl⟩, hl, hk, hs⟩
        by_cases hyr : y = row
        · rw [if_pos ((hid y hy).mpr hyr)] at hs
          exact absurd hs (by simp)
        · rw [if_neg (mt (hid y hy).mp hyr)] at hl hk hs ⊢
          exact ⟨⟨hy, hl, hk, hs⟩, hyr⟩
      · rintro ⟨⟨hx, hl, hk, hs⟩, hne⟩
        exact ⟨⟨x, hx, by rw [if_neg (mt (hid x hx).mp hne)]⟩, hl, hk, hs⟩
    | some p =>
      -- with one it also clears the mark of that snapshot
      obtain ⟨hp, hps⟩ := hprior p rfl
      have hpr : p.snapshotId ≠ row.snapshotId := fun h =>
        hps (SnapshotTable.eq_of_id hp hrow h ▸ hlive)
      rw [live, rewind, SnapshotTable.mem_live, live, SnapshotTable.mem_live, mem_setSuperseded]
      simp only [true_and, mem_setSuperseded, Option.some.injEq]
      constructor
      · rintro ⟨⟨_, ⟨y, hy, rfl⟩, rfl⟩, hl, hk, hs⟩
        -- the two writes meet different rows
        by_cases hyp : y.snapshotId = p.snapshotId
        · obtain rfl := SnapshotTable.eq_of_id hy hp hyp
          rw [if_pos rfl, if_neg (by simpa using hpr)] at hl hk hs ⊢
          exact Or.inr ⟨y, rfl, rfl, hl, hk⟩
        · rw [if_neg hyp] at hl hk hs ⊢
          by_cases hyr : y = row
          · rw [if_pos ((hid y hy).mpr hyr)] at hs
            exact absurd hs (by simp)
          · rw [if_neg (mt (hid y hy).mp hyr)] at hl hk hs ⊢
            exact Or.inl ⟨⟨hy, hl, hk, hs⟩, hyr⟩
      · rintro (⟨⟨hx, hl, hk, hs⟩, hne⟩ | ⟨_, rfl, rfl, hl, hk⟩)
        · have hxp : x.snapshotId ≠ p.snapshotId := fun h =>
            hps (SnapshotTable.eq_of_id hx hp h ▸ hs)
          exact ⟨⟨x, ⟨x, hx, by rw [if_neg hxp]⟩, by rw [if_neg (mt (hid x hx).mp hne)]⟩,
            hl, hk, hs⟩
        · exact ⟨⟨p.mark none none, ⟨p, hp, by rw [if_pos rfl]⟩,
            by rw [if_neg (by simpa using hpr)]⟩, hl, hk, rfl⟩
  · -- the other snapshot tables are not written
    have hsnap : (r.rewind run et row prior).snapshots et' = r.snapshots et' := by
      cases prior <;> simp only [rewind, setSuperseded, modifySnapshots_ne _ _ _ _ he]
    rw [live, live, hsnap]
    simp [he]

/-- A snapshot of another key survives one turn. -/
theorem Roster.mem_rewind_of_key {r : Roster} {run : RevertRun} {et et' : EntityType}
    {row x : SnapshotRow} {prior : Option SnapshotRow} (hrow : row ∈ (r.snapshots et).rows)
    (hprior : ∀ p, prior = some p → p ∈ (r.snapshots et).rows ∧ p.leaId = row.leaId ∧
      p.naturalKey = row.naturalKey)
    (hx : x ∈ (r.snapshots et').rows)
    (hne : ¬ (et' = et ∧ x.leaId = row.leaId ∧ x.naturalKey = row.naturalKey)) :
    x ∈ ((r.rewind run et row prior).snapshots et').rows := by
  have hkeep : ∀ y ∈ (r.snapshots et).rows, y.leaId = row.leaId → y.naturalKey = row.naturalKey →
      ¬ (et' = et ∧ x.snapshotId = y.snapshotId) := by
    rintro y hy hl hk ⟨rfl, hid⟩
    obtain rfl := SnapshotTable.eq_of_id hx hy hid
    exact hne ⟨rfl, hl, hk⟩
  have hself := hkeep row hrow rfl rfl
  cases prior with
  | none => exact mem_setSuperseded.mpr ⟨x, hx, by rw [if_neg hself]⟩
  | some p =>
    obtain ⟨hp, hl, hk⟩ := hprior p rfl
    refine mem_setSuperseded.mpr ⟨x, ?_, by rw [if_neg hself]⟩
    exact mem_setSuperseded.mpr ⟨x, hx, by rw [if_neg (hkeep p hp hl hk)]⟩

/-- The prior snapshot is a superseded row of the same key. -/
theorem Roster.prior_spec {r : Roster} {pg : Postgres} {et : EntityType} {row : SnapshotRow}
    {supersededBy : Uuid} {p : SnapshotRow}
    (h : r.findPriorLiveSnapshot pg et row.leaId row.naturalKey supersededBy = some p) :
    (p ∈ (r.snapshots et).rows ∧ p.supersededByGenerationId ≠ none) ∧
      p ∈ (r.snapshots et).rows ∧ p.leaId = row.leaId ∧ p.naturalKey = row.naturalKey := by
  obtain ⟨hm, hl, hk, hs⟩ := mem_of_findPrior h
  exact ⟨⟨hm, by simp [hs]⟩, hm, hl, hk⟩

/-- One turn writes no other canonical row. -/
theorem Roster.Rewound.canonical_ne {r r' : Roster} {run : RevertRun} {et et' : EntityType}
    {row : SnapshotRow} {prior : Option SnapshotRow} {id : String}
    (h : r.Rewound r' run et row prior) (hne : ¬ (et' = et ∧ id = row.naturalKey)) :
    r'.canonical et' id = r.canonical et' id := by
  cases prior with
  | none => rw [show r'.canonical = _ from h, canonical_softDelete, if_neg hne]
  | some p =>
    obtain ⟨new, -, -, hc⟩ := h
    rw [hc, if_neg hne]

/-- One turn changes the markers of snapshots and nothing else about them. -/
theorem Roster.mem_rewind_old {r : Roster} {run : RevertRun} {et et' : EntityType}
    {row x : SnapshotRow} {prior : Option SnapshotRow}
    (hx : x ∈ ((r.rewind run et row prior).snapshots et').rows) :
    ∃ old ∈ (r.snapshots et').rows, ∃ g i, x = old.mark g i := by
  have hset : ∀ (r : Roster) (id : Nat) (g : Option Uuid) (i : Option Instant),
      ∀ y ∈ ((r.setSuperseded et id g i).snapshots et').rows,
        ∃ old ∈ (r.snapshots et').rows, ∃ g i, y = old.mark g i := by
    intro r id g i y hy
    obtain ⟨old, hold, rfl⟩ := mem_setSuperseded.mp hy
    split
    · exact ⟨old, hold, g, i, rfl⟩
    · exact ⟨old, hold, old.supersededByGenerationId, old.supersededAt, rfl⟩
  cases prior with
  | none => exact hset r _ _ _ x hx
  | some p =>
    obtain ⟨y, hy, g, i, rfl⟩ := hset _ _ _ _ x hx
    obtain ⟨old, hold, g', i', rfl⟩ := hset r _ _ _ y hy
    exact ⟨old, hold, g, i, rfl⟩

/-- The canonical row of the key after one turn. -/
theorem Roster.Rewound.canonical_self {r r' : Roster} {run : RevertRun} {et : EntityType}
    {row : SnapshotRow} {prior : Option SnapshotRow} {c : CanonicalRow}
    (h : r.Rewound r' run et row prior) (hc : r.canonical et row.naturalKey = some c) :
    (prior = none ∧ r'.canonical et row.naturalKey = some (c.withDeletedAt (some run.now))) ∨
      ∃ p new, prior = some p ∧ canonicalOfPayload et row.leaId p.payload
        (if p.deletedUpstream then p.sourceEventAt else none) = some new ∧
        r'.canonical et row.naturalKey = some new := by
  cases prior with
  | none =>
    refine Or.inl ⟨rfl, ?_⟩
    rw [show r'.canonical = _ from h, canonical_softDelete, if_pos ⟨rfl, rfl⟩, hc]
    rfl
  | some p =>
    obtain ⟨new, hnew, -, hcan⟩ := h
    refine Or.inr ⟨p, new, rfl, hnew, ?_⟩
    rw [hcan, if_pos ⟨rfl, rfl⟩, hc]
    rfl

theorem owner_of_payload {et : EntityType} {leaId : LeaId} {payload : Dict}
    {deletedAt : Option Instant} {row : CanonicalRow} (het : et ≠ .lea)
    (h : canonicalOfPayload et leaId payload deletedAt = some row) (id : String) :
    Dict.requiredColumn payload "lea_id" (some leaId) = some (row.owner id) := by
  cases et with
  | lea => exact absurd rfl het
  | student =>
    simp only [canonicalOfPayload, Option.bind_eq_bind, Option.bind_eq_some_iff] at h
    obtain ⟨_, hl, _, -, _, -, _, -, _, -, _, -, h⟩ := h
    rw [hl, ← Option.some.inj h]
    rfl
  | enrollment =>
    simp only [canonicalOfPayload, Option.bind_eq_bind, Option.bind_eq_some_iff] at h
    obtain ⟨_, hl, _, -, _, -, _, -, _, -, h⟩ := h
    rw [hl, ← Option.some.inj h]
    rfl

/-! ### Every live snapshot of the job is retired -/

/-- The snapshot with this id is marked with the revert's generation. -/
def Roster.Retired (r : Roster) (run : RevertRun) (et : EntityType) (id : Nat) : Prop :=
  ∀ x ∈ (r.snapshots et).rows, x.snapshotId = id →
    x.supersededByGenerationId = some run.revertGenerationId

section

variable {pg : Postgres} {run : RevertRun} {et et' : EntityType} {acc acc' : Roster × RevertCounts}
  {b row : SnapshotRow}

theorem retired_revertRow (hgen : run.revertGenerationId ≠ run.syncJobId)
    (h : revertRow pg run et acc b = some acc')
    (hr : acc.1.Retired run et' row.snapshotId ∨
      (et = et' ∧ b.snapshotId = row.snapshotId)) :
    acc'.1.Retired run et' row.snapshotId := by
  obtain ⟨hs, -⟩ := revertRow_eq_some h
  intro x hx hid
  rw [hs] at hx
  obtain ⟨y, hy, rfl⟩ := Roster.mem_setSuperseded.mp hx
  by_cases hb : et' = et ∧ y.snapshotId = b.snapshotId
  · rw [if_pos hb]
    rfl
  · rw [if_neg hb] at hid ⊢
    have hret : acc.1.Retired run et' row.snapshotId := by
      rcases hr with hr | ⟨he, hbr⟩
      · exact hr
      · exact absurd ⟨he.symm, hid.trans hbr.symm⟩ hb
    cases hp : acc.1.findPriorLiveSnapshot pg et b.leaId b.naturalKey run.syncJobId with
    | none =>
      rw [hp] at hy
      exact hret y hy hid
    | some p =>
      rw [hp] at hy
      obtain ⟨z, hz, rfl⟩ := Roster.mem_setSuperseded.mp hy
      by_cases hzp : et' = et ∧ z.snapshotId = p.snapshotId
      · -- the prior snapshot is marked with the job, not with the revert
        rw [if_pos hzp] at hid
        obtain ⟨rfl, hzp⟩ := hzp
        obtain ⟨hpm, -, -, hps⟩ := Roster.mem_of_findPrior hp
        obtain rfl := SnapshotTable.eq_of_id hz hpm hzp
        have := (hret z hz hid).symm.trans hps
        exact absurd (Option.some.inj this) hgen
      · rw [if_neg hzp] at hid ⊢
        exact hret z hz hid

/-- Until its turn comes, a live snapshot stays as it is. -/
theorem mem_or_retired_revertRow (hgen : run.revertGenerationId ≠ run.syncJobId)
    (hlive : row.supersededByGenerationId = none)
    (h : revertRow pg run et acc b = some acc')
    (hr : row ∈ (acc.1.snapshots et').rows ∨ acc.1.Retired run et' row.snapshotId) :
    row ∈ (acc'.1.snapshots et').rows ∨ acc'.1.Retired run et' row.snapshotId := by
  rcases hr with hr | hr
  · by_cases hb : et = et' ∧ b.snapshotId = row.snapshotId
    · exact Or.inr (retired_revertRow hgen h (Or.inr hb))
    · left
      have hself : ¬ (et' = et ∧ row.snapshotId = b.snapshotId) := fun h => hb ⟨h.1.symm, h.2.symm⟩
      rw [(revertRow_eq_some h).1]
      refine Roster.mem_setSuperseded.mpr ⟨row, ?_, by rw [if_neg hself]⟩
      cases hp : acc.1.findPriorLiveSnapshot pg et b.leaId b.naturalKey run.syncJobId with
      | none => exact hr
      | some p =>
        refine Roster.mem_setSuperseded.mpr ⟨row, hr, ?_⟩
        rw [if_neg]
        rintro ⟨rfl, hid⟩
        obtain ⟨hpm, -, -, hps⟩ := Roster.mem_of_findPrior hp
        rw [SnapshotTable.eq_of_id hr hpm hid, hps] at hlive
        exact absurd hlive (by simp)
  · exact Or.inr (retired_revertRow hgen h (Or.inl hr))

theorem retired_revertTable (hgen : run.revertGenerationId ≠ run.syncJobId)
    (h : revertTable pg run acc et = some acc')
    (hr : acc.1.Retired run et' row.snapshotId) : acc'.1.Retired run et' row.snapshotId :=
  Runs.foldlM_invariant (I := fun acc => acc.1.Retired run et' row.snapshotId)
    (fun _ _ _ _ hr hstep => retired_revertRow hgen hstep (Or.inl hr)) hr h

theorem revertTable_retires (hgen : run.revertGenerationId ≠ run.syncJobId)
    (hrow : row.generationId = run.syncJobId) (hlive : row.supersededByGenerationId = none)
    (h : revertTable pg run acc et = some acc')
    (hr : row ∈ (acc.1.snapshots et).rows ∨ acc.1.Retired run et row.snapshotId) :
    acc'.1.Retired run et row.snapshotId := by
  rcases hr with hm | hr
  · exact Runs.foldlM_establishes (a := row)
      (I := fun acc => row ∈ (acc.1.snapshots et).rows ∨ acc.1.Retired run et row.snapshotId)
      (J := fun acc => acc.1.Retired run et row.snapshotId)
      (Roster.mem_liveOf.mpr ⟨hm, hrow, hlive⟩)
      (fun _ _ _ _ hr hstep => mem_or_retired_revertRow hgen hlive hstep hr)
      (fun _ _ _ _ hr hstep => retired_revertRow hgen hstep (Or.inl hr))
      (fun _ _ _ hstep => retired_revertRow hgen hstep (Or.inr ⟨rfl, rfl⟩)) (Or.inl hm) h
  · exact retired_revertTable hgen h hr

/-- After an accepted revert no snapshot that was live for the job is live. -/
theorem revertTables_retires {r r' : Roster} {counts : RevertCounts}
    (hgen : run.revertGenerationId ≠ run.syncJobId)
    (hrow : row.generationId = run.syncJobId) (hlive : row.supersededByGenerationId = none)
    (hm : row ∈ (r.snapshots et).rows) (h : revertTables pg run r = some (r', counts)) :
    r'.Retired run et row.snapshotId := by
  rw [revertTables] at h
  refine Runs.foldlM_establishes (a := et)
    (I := fun acc => row ∈ (acc.1.snapshots et).rows ∨ acc.1.Retired run et row.snapshotId)
    (J := fun acc => acc.1.Retired run et row.snapshotId) ?_ ?_ ?_ ?_ (Or.inl hm) h
  · cases et <;> simp
  · intro _ _ acc acc' hr hstep
    exact Runs.foldlM_invariant
      (I := fun acc => row ∈ (acc.1.snapshots et).rows ∨ acc.1.Retired run et row.snapshotId)
      (fun _ _ _ _ hr hstep => mem_or_retired_revertRow hgen hlive hstep hr) hr hstep
  · exact fun _ _ _ _ hr hstep => retired_revertTable hgen hstep hr
  · exact fun _ _ hr hstep => revertTable_retires hgen hrow hlive hstep hr

end
