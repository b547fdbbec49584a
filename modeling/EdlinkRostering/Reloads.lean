/-
Bulk loads of one payload, again and again.

A bulk load commits the students before it looks at the enrollments, so a load that
stops leaves any prefix of the work behind.  The next load passes over what is there:
an entry that was written has its payload live, and an entry that was passed over has
it too.  A job leaves its id and its clock in the snapshots and nowhere else, so the
rosters of two loads are compared up to those.

* `Roster.Alike` — the same canonical rows and the same live payloads;
* `applyEntityType_alike` — alike rosters take a payload alike;
* `bulkLoad_done` — a load is what its committed stages did;
* `bulkLoad_reached` — how far any number of loads has come;
* `bulkLoad_converges` — one that succeeds ends where a single load does, and is the
  last to write.
-/
import EdlinkRostering.ForeignKeys
import EdlinkRostering.Histories
import Mathlib.Data.List.Infix

/-! ### Rosters up to who wrote them -/

/-- The same canonical rows, and live snapshots with the same payloads. -/
structure Roster.Alike (r r' : Roster) : Prop where
  canonical : ∀ et id, r'.canonical et id = r.canonical et id
  live : ∀ et leaId id,
    (r'.live et leaId id).map (·.payload) = (r.live et leaId id).map (·.payload)

namespace Roster

namespace Alike

variable {r r₁ r₂ r' : Roster}

theorem refl (r : Roster) : r.Alike r := ⟨fun _ _ => rfl, fun _ _ _ => rfl⟩

theorem symm (h : r.Alike r') : r'.Alike r :=
  ⟨fun et id => (h.canonical et id).symm, fun et l id => (h.live et l id).symm⟩

theorem admits (h : r.Alike r') (id : String) (row : CanonicalRow) :
    r'.admits id row = r.admits id row :=
  admits_congr h.canonical id row

theorem ensureLeaExists (h : r.Alike r') (leaId : LeaId) :
    (r.ensureLeaExists leaId).Alike (r'.ensureLeaExists leaId) := by
  refine ⟨fun et id => ?_, fun et l id => ?_⟩
  · rw [canonical_ensureLeaExists, canonical_ensureLeaExists, h.canonical, h.canonical]
  · rw [Roster.live, Roster.live, snapshots_ensureLeaExists, snapshots_ensureLeaExists]
    exact h.live et l id

theorem skips (h : r.Alike r') (leaId : LeaId) (id : String) (entry : PartnerEntry) :
    r'.skips leaId id entry = r.skips leaId id entry := by
  rw [Roster.skips, Roster.skips, currentPayload, currentPayload, ← List.head?_map,
    ← List.head?_map, h.live]

end Alike

/-- Two writes of one payload and one row. -/
theorem Alike.replace {r r' : Roster} (h : r.Alike r') {et : EntityType} (het : et ≠ .lea)
    {leaId : LeaId} {id : String} {g g' : Uuid} {i i' : Instant} {new new' : SnapshotRow}
    {row : CanonicalRow} (hkey : new'.naturalKey = new.naturalKey) (hlea : new'.leaId = new.leaId)
    (hlive : new'.supersededByGenerationId = new.supersededByGenerationId)
    (hpayload : new'.payload = new.payload) :
    (r.replace et leaId id g i new row).Alike (r'.replace et leaId id g' i' new' row) := by
  refine ⟨fun et' id' => ?_, fun et' l k => ?_⟩
  · simp only [Roster.replace, canonical_setCanonical, canonical_insertSnapshot,
      canonical_supersede, h.canonical]
  · have hat : new'.liveAt l k = new.liveAt l k := by
      rw [Bool.eq_iff_iff, SnapshotRow.liveAt_iff, SnapshotRow.liveAt_iff, hkey, hlea, hlive]
    simp only [Roster.replace, live_setCanonical, live_insertSnapshot, live_supersede,
      SnapshotRow.stored_of_ne het, hat, List.map_append]
    congr 1
    · split
      · rfl
      · exact h.live et' l k
    · split
      · simp only [List.map_cons, List.map_nil, hpayload]
      · rfl

end Roster

/-! ### One entry -/

/-- An entry's payload is the same dict as itself: its keys are distinct. -/
theorem sameDict_payload (leaId : LeaId) (entry : PartnerEntry) :
    Dict.sameDict (entry.payload leaId) (entry.payload leaId) = true := by
  cases entry <;> simp [Dict.sameDict, PartnerEntry.payload]

section

variable {pg : Postgres} {leaId : LeaId} {job job' : Uuid} {now now' : Instant}
  {r r' r₁ : Roster} {n n' : Nat} {entry : PartnerEntry} {entries : List PartnerEntry}

/-- **One turn of the loop**: the entry is passed over, or it is written and counted. -/
theorem applyEntryCounted_iff :
    applyEntryCounted pg leaId job now (r, n) entry = some (r', n') ↔
      ∃ k, entry.id = some k ∧ ((r.skips leaId k entry = true ∧ r' = r ∧ n' = n) ∨
        (r.skips leaId k entry = false ∧ n' = n + 1 ∧
          ∃ row, entry.canonicalRow pg leaId (r.canonical entry.entityType k) = some row ∧
            r.admits k row = true ∧ r' = r.replace entry.entityType leaId k job now
              (entry.snapshotRow leaId k job now) row)) := by
  have hadmits : ∀ k, (r.pushEntry leaId k entry job now).admits = r.admits := fun k => by
    rw [Roster.pushEntry, Roster.insertSnapshot, Roster.admits_modifySnapshots, Roster.supersede,
      Roster.admits_modifySnapshots]
  simp only [applyEntryCounted, Option.bind_eq_bind, Option.bind_eq_some_iff]
  constructor
  · rintro ⟨⟨r₁, changed⟩, h, heq⟩
    obtain ⟨rfl, rfl⟩ := Prod.mk.inj (Option.some.inj heq)
    obtain ⟨k, hk, ⟨hs, rfl, rfl⟩ | ⟨hs, rfl, row, hrow, hu⟩⟩ := applyEntry_eq_some.mp h
    · exact ⟨k, hk, Or.inl ⟨hs, rfl, rfl⟩⟩
    · obtain ⟨ha, hr⟩ := Roster.upsert_eq_some.mp hu
      rw [hadmits] at ha
      exact ⟨k, hk, Or.inr ⟨hs, rfl, row, hrow, ha, hr⟩⟩
  · rintro ⟨k, hk, ⟨hs, rfl, rfl⟩ | ⟨hs, rfl, row, hrow, ha, rfl⟩⟩
    · exact ⟨(r', false), applyEntry_eq_some.mpr ⟨k, hk, Or.inl ⟨hs, rfl, rfl⟩⟩, rfl⟩
    · refine ⟨(_, true), applyEntry_eq_some.mpr ⟨k, hk, Or.inr ⟨hs, rfl, row, hrow, ?_⟩⟩, rfl⟩
      rw [← hadmits] at ha
      exact Roster.upsert_eq_some.mpr ⟨ha, rfl⟩

/-- **Alike rosters take an entry alike**, whoever loads it and when. -/
theorem applyEntryCounted_alike (h : r.Alike r')
    (hstep : applyEntryCounted pg leaId job now (r, n) entry = some (r₁, n')) :
    ∃ r₁', applyEntryCounted pg leaId job' now' (r', n) entry = some (r₁', n') ∧
      r₁.Alike r₁' := by
  obtain ⟨k, hk, ⟨hs, rfl, rfl⟩ | ⟨hs, rfl, row, hrow, ha, rfl⟩⟩ := applyEntryCounted_iff.mp hstep
  · exact ⟨r', applyEntryCounted_iff.mpr
      ⟨k, hk, Or.inl ⟨by rw [h.skips]; exact hs, rfl, rfl⟩⟩, h⟩
  · refine ⟨_, applyEntryCounted_iff.mpr ⟨k, hk, Or.inr ⟨by rw [h.skips]; exact hs, rfl, row, ?_,
      by rw [h.admits]; exact ha, rfl⟩⟩, h.replace entry.entityType_ne_lea rfl rfl rfl rfl⟩
    rw [h.canonical]
    exact hrow

end

/-! ### One type -/

/-- Every entry of the list has its payload live. -/
def Roster.Holds (r : Roster) (leaId : LeaId) (entries : List PartnerEntry) : Prop :=
  ∀ entry ∈ entries, ∃ k, entry.id = some k ∧ r.skips leaId k entry = true

theorem Roster.Holds.alike {r r' : Roster} {leaId : LeaId} {entries : List PartnerEntry}
    (h : r.Holds leaId entries) (ha : r.Alike r') : r'.Holds leaId entries := by
  intro entry he
  obtain ⟨k, hk, hs⟩ := h entry he
  exact ⟨k, hk, (ha.skips leaId k entry).trans hs⟩

theorem Roster.SameAt.skips {r r' : Roster} {entry : PartnerEntry} {id : String}
    (h : Roster.SameAt entry.entityType id r r') (leaId : LeaId) :
    r'.skips leaId id entry = r.skips leaId id entry := by
  rw [Roster.skips, Roster.skips, currentPayload, currentPayload, h.live]

section

variable {pg : Postgres} {leaId : LeaId} {job job' : Uuid} {now now' : Instant}
  {r r' : Roster} {n n' : Nat} {entry other : PartnerEntry} {entries others : List PartnerEntry}

/-- **Alike rosters take a payload alike**, with the same count. -/
theorem applyEntityType_alike (h : r.Alike r') {r₁ : Roster}
    (happly : applyEntityType pg leaId job now entries r = some (r₁, n)) :
    ∃ r₁', applyEntityType pg leaId job' now' entries r' = some (r₁', n) ∧ r₁.Alike r₁' := by
  let R : Roster × Nat → Roster × Nat → Prop := fun x y => x.1.Alike y.1 ∧ x.2 = y.2
  have hstep : ∀ entry ∈ entries, ∀ x y x', R x y →
      applyEntryCounted pg leaId job now x entry = some x' →
      ∃ y', applyEntryCounted pg leaId job' now' y entry = some y' ∧ R x' y' := by
    rintro entry - ⟨x, m⟩ ⟨y, _⟩ ⟨x', m'⟩ ⟨hxy, rfl⟩ hstep
    obtain ⟨y', hy', hxy'⟩ := applyEntryCounted_alike hxy hstep
    exact ⟨(y', m'), hy', hxy', rfl⟩
  have hstart : R (r, 0) (r', 0) := ⟨h, rfl⟩
  obtain ⟨⟨r₁', n'⟩, happly', hr, rfl⟩ := Runs.foldlM_simulates hstep hstart happly
  exact ⟨r₁', happly', hr⟩

/-- An entry is live after its turn. -/
theorem skips_after (h : applyEntryCounted pg leaId job now (r, n) entry = some (r', n')) :
    ∃ k, entry.id = some k ∧ r'.skips leaId k entry = true := by
  obtain ⟨k, hk, ⟨hs, rfl, -⟩ | ⟨-, -, row, -, -, rfl⟩⟩ := applyEntryCounted_iff.mp h
  · exact ⟨k, hk, hs⟩
  · refine ⟨k, hk, ?_⟩
    have hkey : (entry.snapshotRow leaId k job now).naturalKey = k := rfl
    have hlea : (entry.snapshotRow leaId k job now).leaId = leaId := rfl
    have hlive : (entry.snapshotRow leaId k job now).supersededByGenerationId = none := rfl
    rw [Roster.skips, Roster.currentPayload,
      Roster.live_replace entry.entityType_ne_lea hkey hlea hlive]
    exact sameDict_payload leaId entry

/-- The turn of another entry. -/
theorem sameAt_applyEntryCounted {et : EntityType} {k : String}
    (hother : other.entityType ≠ et ∨ other.id ≠ some k)
    (h : applyEntryCounted pg leaId job now (r, n) other = some (r', n')) :
    Roster.SameAt et k r r' := by
  obtain ⟨k', hk', ⟨-, rfl, -⟩ | ⟨-, -, row, hrow, -, rfl⟩⟩ := applyEntryCounted_iff.mp h
  · exact .refl _
  · have hkey : (other.snapshotRow leaId k' job now).naturalKey = k' := rfl
    refine Roster.replace_sameAt hkey (canonicalRow_entry_type hrow).1 ?_
    rintro ⟨rfl, rfl⟩
    rcases hother with hother | hother
    · exact hother rfl
    · exact hother hk'

/-- The turn of an entry of another key, or of one that is live, leaves it live. -/
theorem skips_step {k : String} (hk : entry.id = some k)
    (hother : other = entry ∨ other.entityType ≠ entry.entityType ∨ other.id ≠ entry.id)
    (hs : r.skips leaId k entry = true)
    (h : applyEntryCounted pg leaId job now (r, n) other = some (r', n')) :
    r'.skips leaId k entry = true := by
  rcases hother with rfl | hother
  · -- its own turn passes over it
    obtain ⟨k', hk', ⟨-, rfl, -⟩ | ⟨hs', -⟩⟩ := applyEntryCounted_iff.mp h
    · exact hs
    · obtain rfl := Option.some.inj (hk'.symm.trans hk)
      rw [hs] at hs'
      exact nomatch hs'
  · rw [hk] at hother
    rw [(sameAt_applyEntryCounted hother h).skips]
    exact hs

/-- **A type that was taken is held**: no entry is written over by another. -/
theorem holds_applyEntityType (hids : (entries.map (·.id)).Nodup)
    (h : applyEntityType pg leaId job now entries r = some (r', n)) :
    r'.Holds leaId entries := by
  intro entry he
  refine Runs.foldlM_establishes (I := fun _ : Roster × Nat => True)
    (J := fun x => ∃ k, entry.id = some k ∧ x.1.skips leaId k entry = true) he
    (fun _ _ _ _ _ _ => trivial) ?_ ?_ trivial h
  · rintro other ho ⟨x, m⟩ ⟨x', m'⟩ ⟨k, hk, hs⟩ hstep
    refine ⟨k, hk, skips_step hk ?_ hs hstep⟩
    by_cases hid : other.id = entry.id
    · exact Or.inl (List.inj_on_of_nodup_map hids ho he hid)
    · exact Or.inr (Or.inr hid)
  · rintro ⟨x, m⟩ ⟨x', m'⟩ - hstep
    exact skips_after hstep

/-- The entries of another type leave it so. -/
theorem holds_applyEntityType_ne (hold : r.Holds leaId entries)
    (htype : ∀ entry ∈ entries, ∀ other ∈ others, other.entityType ≠ entry.entityType)
    (h : applyEntityType pg leaId job now others r = some (r', n)) :
    r'.Holds leaId entries := by
  intro entry he
  obtain ⟨k, hk, hs⟩ := hold entry he
  refine ⟨k, hk, ?_⟩
  refine Runs.foldlM_invariant (I := fun x : Roster × Nat => x.1.skips leaId k entry = true) ?_ hs h
  rintro other ho ⟨x, m⟩ ⟨x', m'⟩ hs hstep
  exact skips_step hk (Or.inr (Or.inl (htype entry he other ho))) hs hstep

/-- **A type that is held is passed over**, and nothing is written. -/
theorem applyEntityType_of_holds (hold : r.Holds leaId entries) :
    applyEntityType pg leaId job now entries r = some (r, 0) := by
  rw [applyEntityType]
  generalize 0 = n
  induction entries with
  | nil => rfl
  | cons entry entries ih =>
    obtain ⟨k, hk, hs⟩ := hold entry List.mem_cons_self
    have hstep : applyEntryCounted pg leaId job now (r, n) entry = some (r, n) :=
      applyEntryCounted_iff.mpr ⟨k, hk, Or.inl ⟨hs, rfl, rfl⟩⟩
    exact Runs.foldlM_cons_eq_some.mpr
      ⟨_, hstep, ih fun e he => hold e (List.mem_cons_of_mem _ he)⟩

end

/-! ### What a load that succeeds is -/

namespace BulkRun

/-- `_apply_entity_type` on the students of the payload. -/
def loadStudents (pg : Postgres) (run : BulkRun) (r : Roster) : Option (Roster × Nat) :=
  applyEntityType pg run.leaId run.syncJobId (run.clock .students)
    (run.payload.students.map .student) r

/-- `_apply_entity_type` on the enrollments of the payload. -/
def loadEnrollments (pg : Postgres) (run : BulkRun) (r : Roster) : Option (Roster × Nat) :=
  applyEntityType pg run.leaId run.syncJobId (run.clock .enrollments)
    (run.payload.enrollments.map .enrollment) r

/-- Nothing outside goes wrong. -/
def Calm (run : BulkRun) : Prop := ∀ stage ∈ .insertJob :: bulkStages, run.raises stage = false

instance (run : BulkRun) : Decidable run.Calm := by
  unfold Calm; infer_instance

end BulkRun

theorem runStages_cons_iff {pg : Postgres} {run : BulkRun} {stage : BulkStage}
    {stages : List BulkStage} {p p' : BulkProgress} :
    runStages pg run (stage :: stages) p = (p', true) ↔ run.raises stage = false ∧
      ∃ p₁, run.stage pg p stage = some p₁ ∧ runStages pg run stages p₁ = (p', true) := by
  rw [runStages]
  cases run.raises stage with
  | true => simp
  | false =>
    cases run.stage pg p stage with
    | none => simp
    | some p₁ => simp

/-- The job and the cursor of a load that succeeded, over the roster it left. -/
def BulkRun.finish (run : BulkRun) (s : Store) (r : Roster) (written : Nat) : Store :=
  (run.advanceCursor (s.withRoster r)).updateSyncJob run.syncJobId fun job =>
    { job with
      status := .success, completedAt := some (run.clock .markSuccess)
      eventCount := written, cursorAfter := some run.latest.value }

theorem runStages_bulkStages_iff {pg : Postgres} {run : BulkRun} {p p' : BulkProgress} :
    runStages pg run bulkStages p = (p', true) ↔
      (∀ stage ∈ bulkStages, run.raises stage = false) ∧ ∃ r₁ w₁ r₂ w₂,
        run.loadStudents pg (p.store.roster.ensureLeaExists run.leaId) = some (r₁, w₁) ∧
        run.loadEnrollments pg r₁ = some (r₂, w₂) ∧
        p' = { store := run.finish p.store r₂ (w₁ + w₂), students := w₁, enrollments := w₂ } := by
  simp only [bulkStages, runStages_cons_iff, BulkRun.stage, Option.some.injEq, exists_eq_left',
    Option.bind_eq_bind, Option.bind_eq_some_iff, Prod.exists, List.forall_mem_cons]
  constructor
  · rintro ⟨h₁, h₂, h₃, _, ⟨r₁, w₁, hs, rfl⟩, h₄, _, ⟨r₂, w₂, he, rfl⟩, h₅, h₆, h₇, hend⟩
    obtain ⟨rfl, -⟩ := Prod.mk.inj hend
    exact ⟨⟨h₁, h₂, h₃, h₄, h₅, h₆, h₇, by simp⟩, r₁, w₁, r₂, w₂, hs, he, rfl⟩
  · rintro ⟨⟨h₁, h₂, h₃, h₄, h₅, h₆, h₇, -⟩, r₁, w₁, r₂, w₂, hs, he, rfl⟩
    exact ⟨h₁, h₂, h₃, _, ⟨r₁, w₁, hs, rfl⟩, h₄, _, ⟨r₂, w₂, he, rfl⟩, h₅, h₆, h₇, rfl⟩

/-- **A load succeeds** if its job is new, nothing outside goes wrong and no entry is
refused. -/
theorem bulkLoad_eq_some_iff {pg : Postgres} {run : BulkRun} {s s' : Store}
    {report : BulkLoadReport} : bulkLoad pg run s = (s', some report) ↔
      s.syncJobs.lookup run.syncJobId = none ∧ run.Calm ∧
      ∃ r₁ w₁ r₂ w₂, run.loadStudents pg (s.roster.ensureLeaExists run.leaId) = some (r₁, w₁) ∧
        run.loadEnrollments pg r₁ = some (r₂, w₂) ∧
        s' = run.finish { s with syncJobs := s.syncJobs.insert run.syncJobId run.job } r₂
          (w₁ + w₂) ∧
        report =
          { syncJobId := run.syncJobId, leaId := run.leaId, partner := run.partner
            rowsStudents := run.payload.students.length
            rowsEnrollments := run.payload.enrollments.length
            writtenStudents := w₁, writtenEnrollments := w₂
            cursorAfter := run.latest.value } := by
  rw [BulkRun.Calm, List.forall_mem_cons, bulkLoad]
  cases hjob : run.raises .insertJob with
  | true => simp
  | false =>
    rw [if_neg (by simp), Store.insertSyncJob]
    by_cases hfresh : s.syncJobs.lookup run.syncJobId = none
    swap
    · rw [if_neg hfresh]
      simp [hfresh]
    rw [if_pos hfresh]
    dsimp only
    constructor
    · intro h
      split at h
      · exact absurd (Prod.mk.inj h).2 (by simp)
      · next p hp =>
        obtain ⟨hcalm, r₁, w₁, r₂, w₂, hs, he, rfl⟩ := runStages_bulkStages_iff.mp hp
        obtain ⟨rfl, hreport⟩ := Prod.mk.inj h
        exact ⟨hfresh, ⟨rfl, hcalm⟩, r₁, w₁, r₂, w₂, hs, he, rfl, (Option.some.inj hreport).symm⟩
    · rintro ⟨-, ⟨-, hcalm⟩, r₁, w₁, r₂, w₂, hs, he, rfl, rfl⟩
      have hrun : runStages pg run bulkStages
          { store := { s with syncJobs := s.syncJobs.insert run.syncJobId run.job } } = _ :=
        runStages_bulkStages_iff.mpr ⟨hcalm, r₁, w₁, r₂, w₂, hs, he, rfl⟩
      rw [hrun]

/-! ### What a load leaves of the roster -/

/-- The stages that were committed. -/
def stagesDone (pg : Postgres) (run : BulkRun) : List BulkStage → BulkProgress → List BulkStage
  | [], _ => []
  | stage :: stages, p =>
    if run.raises stage then []
    else match run.stage pg p stage with
      | none => []
      | some p' => stage :: stagesDone pg run stages p'

/-- The committed stages of the load. -/
def BulkRun.done (pg : Postgres) (run : BulkRun) (s : Store) : List BulkStage :=
  if run.raises .insertJob then []
  else match s.insertSyncJob run.syncJobId run.job with
    | none => []
    | some s => stagesDone pg run bulkStages { store := s }

section

variable {pg : Postgres} {run : BulkRun} {s : Store} {stages : List BulkStage}
  {p p' : BulkProgress}

/-- The committed stages are the first ones, and what they did is what is left. -/
theorem stagesDone_spec (pg : Postgres) (run : BulkRun) (stages : List BulkStage)
    (p : BulkProgress) :
    stagesDone pg run stages p <+: stages ∧
      (stagesDone pg run stages p).foldlM (run.stage pg) p
        = some (runStages pg run stages p).1 := by
  induction stages generalizing p with
  | nil => exact ⟨List.prefix_rfl, rfl⟩
  | cons stage stages ih =>
    rw [stagesDone, runStages]
    split
    · exact ⟨List.nil_prefix, rfl⟩
    · cases h : run.stage pg p stage with
      | none => exact ⟨List.nil_prefix, rfl⟩
      | some p₁ =>
        obtain ⟨hfirst, hfold⟩ := ih p₁
        exact ⟨List.cons_prefix_cons.mpr ⟨rfl, hfirst⟩,
          Runs.foldlM_cons_eq_some.mpr ⟨p₁, h, hfold⟩⟩

/-- **A bulk load is what its committed stages did**, but for its job. -/
theorem bulkLoad_done (pg : Postgres) (run : BulkRun) (s : Store) :
    run.done pg s <+: bulkStages ∧ ∃ p p' : BulkProgress,
      (run.done pg s).foldlM (run.stage pg) p = some p' ∧
      p.store.roster = s.roster ∧ p.store.cursorState = s.cursorState ∧
      (bulkLoad pg run s).1.roster = p'.store.roster ∧
      (bulkLoad pg run s).1.cursorState = p'.store.cursorState := by
  rw [BulkRun.done, bulkLoad]
  split
  · exact ⟨List.nil_prefix, { store := s }, _, rfl, rfl, rfl, rfl, rfl⟩
  cases hins : s.insertSyncJob run.syncJobId run.job with
  | none => exact ⟨List.nil_prefix, { store := s }, _, rfl, rfl, rfl, rfl, rfl⟩
  | some s₀ =>
    obtain ⟨-, rfl⟩ := Store.insertSyncJob_eq_some.mp hins
    obtain ⟨hfirst, hfold⟩ := stagesDone_spec pg run bulkStages
      { store := { s with syncJobs := s.syncJobs.insert run.syncJobId run.job } }
    refine ⟨hfirst, _, _, hfold, rfl, rfl, ?_⟩
    have hmark : ∀ s₁ : Store, (run.markFailed s₁).roster = s₁.roster ∧
        (run.markFailed s₁).cursorState = s₁.cursorState := by
      intro s₁
      rw [BulkRun.markFailed]
      split
      · exact ⟨rfl, rfl⟩
      · exact ⟨rfl, rfl⟩
    dsimp only
    generalize runStages pg run bulkStages _ = ended
    obtain ⟨p, ok⟩ := ended
    cases ok with
    | false => exact hmark p.store
    | true => exact ⟨rfl, rfl⟩

/-- The first stages of a load, by what they write to the roster. -/
theorem stages_cases (h : stages <+: bulkStages) :
    (∀ stage ∈ stages, stage ≠ .ensureLea ∧ stage ≠ .students ∧ stage ≠ .enrollments) ∨
    stages = [.partnerSnapshot, .ensureLea] ∨
    stages = [.partnerSnapshot, .ensureLea, .students] ∨
    (stages = [.partnerSnapshot, .ensureLea, .students] ++ .enrollments :: stages.drop 4 ∧
      ∀ stage ∈ stages.drop 4, stage ≠ .ensureLea ∧ stage ≠ .students ∧ stage ≠ .enrollments) := by
  have hall : ∀ stages ∈ bulkStages.inits,
      (∀ stage ∈ stages, stage ≠ .ensureLea ∧ stage ≠ .students ∧ stage ≠ .enrollments) ∨
      stages = [.partnerSnapshot, .ensureLea] ∨
      stages = [.partnerSnapshot, .ensureLea, .students] ∨
      (stages = [.partnerSnapshot, .ensureLea, .students] ++ .enrollments :: stages.drop 4 ∧
        ∀ stage ∈ stages.drop 4, stage ≠ .ensureLea ∧ stage ≠ .students ∧
          stage ≠ .enrollments) := by
    decide
  exact hall stages ((List.mem_inits _ _).mpr h)

/-- The other stages leave the roster alone. -/
theorem stages_roster_eq
    (h : ∀ stage ∈ stages, stage ≠ .ensureLea ∧ stage ≠ .students ∧ stage ≠ .enrollments)
    (hfold : stages.foldlM (run.stage pg) p = some p') :
    p'.store.roster = p.store.roster := by
  refine Runs.foldlM_invariant
    (I := fun q : BulkProgress => q.store.roster = p.store.roster) ?_ rfl hfold
  intro stage hmem q q' hq hstage
  obtain ⟨hlea, hs, he⟩ := h stage hmem
  cases stage with
  | ensureLea => exact absurd rfl hlea
  | students => exact absurd rfl hs
  | enrollments => exact absurd rfl he
  | _ =>
    obtain rfl := Option.some.inj hstage
    exact hq

/-- The students of a load. -/
theorem students_stages
    (h : [BulkStage.partnerSnapshot, .ensureLea, .students].foldlM (run.stage pg) p = some p') :
    ∃ written, run.loadStudents pg (p.store.roster.ensureLeaExists run.leaId)
      = some (p'.store.roster, written) := by
  obtain ⟨p₁, h₁, h⟩ := Runs.foldlM_cons_eq_some.mp h
  obtain rfl := Option.some.inj h₁
  obtain ⟨p₂, h₂, h⟩ := Runs.foldlM_cons_eq_some.mp h
  obtain rfl := Option.some.inj h₂
  obtain ⟨p₃, h₃, h⟩ := Runs.foldlM_cons_eq_some.mp h
  obtain rfl := Option.some.inj h
  simp only [BulkRun.stage, Option.bind_eq_bind, Option.bind_eq_some_iff] at h₃
  obtain ⟨⟨r, written⟩, hload, h₃⟩ := h₃
  rw [← Option.some.inj h₃]
  exact ⟨written, hload⟩

/-- **A load that stops leaves a prefix of its work.** -/
theorem bulkLoad_roster_cases (pg : Postgres) (run : BulkRun) (s : Store) :
    let stages := run.done pg s
    let r := (bulkLoad pg run s).1.roster
    (.students ∉ stages ∧ .enrollments ∉ stages ∧
      (r = s.roster ∨ r = s.roster.ensureLeaExists run.leaId)) ∨
    ∃ r₁ w₁, run.loadStudents pg (s.roster.ensureLeaExists run.leaId) = some (r₁, w₁) ∧
      .students ∈ stages ∧ ((.enrollments ∉ stages ∧ r = r₁) ∨
        ∃ r₂ w₂, run.loadEnrollments pg r₁ = some (r₂, w₂) ∧ .enrollments ∈ stages ∧
          r = r₂) := by
  obtain ⟨hfirst, p, p', hfold, hp, -, hr, -⟩ := bulkLoad_done pg run s
  dsimp only
  rw [hr, ← hp]
  rcases stages_cases hfirst with hnone | hlea | hone | ⟨hboth, hrest⟩
  · exact Or.inl ⟨fun hmem => (hnone _ hmem).2.1 rfl, fun hmem => (hnone _ hmem).2.2 rfl,
      Or.inl (stages_roster_eq hnone hfold)⟩
  · rw [hlea] at hfold ⊢
    obtain rfl : _ = p' := Option.some.inj hfold
    exact Or.inl ⟨by decide, by decide, Or.inr rfl⟩
  · rw [hone] at hfold ⊢
    obtain ⟨w₁, hs⟩ := students_stages hfold
    exact Or.inr ⟨_, w₁, hs, by decide, Or.inl ⟨by decide, rfl⟩⟩
  · rw [hboth] at hfold ⊢
    obtain ⟨p₁, h₁, hfold⟩ := Runs.foldlM_append_eq_some.mp hfold
    obtain ⟨p₂, h₂, hfold⟩ := Runs.foldlM_cons_eq_some.mp hfold
    obtain ⟨w₁, hs⟩ := students_stages h₁
    simp only [BulkRun.stage, Option.bind_eq_bind, Option.bind_eq_some_iff] at h₂
    obtain ⟨⟨r₂, w₂⟩, he, h₂⟩ := h₂
    obtain rfl := Option.some.inj h₂
    exact Or.inr ⟨_, w₁, hs, by simp, Or.inr ⟨r₂, w₂, he, by simp, stages_roster_eq hrest hfold⟩⟩

end

/-! ### How far the loads have come -/

/-- No id twice in a type. -/
def PartnerPayload.Distinct (payload : PartnerPayload) : Prop :=
  (payload.students.map (·.id)).Nodup ∧ (payload.enrollments.map (·.id)).Nodup

instance (payload : PartnerPayload) : Decidable payload.Distinct := by
  unfold PartnerPayload.Distinct; infer_instance

/-- The bulk load is of this payload, for this LEA. -/
def BulkRun.Loads (run : BulkRun) (leaId : LeaId) (payload : PartnerPayload) : Prop :=
  run.leaId = leaId ∧ run.payload = payload

namespace BulkRun

/-- Where the work leads to from `r`: to the LEA, the students and the enrollments. -/
def milestone (pg : Postgres) (run : BulkRun) (r : Roster) : Nat → Option Roster
  | 0 => some r
  | 1 => some (r.ensureLeaExists run.leaId)
  | 2 => (run.loadStudents pg (r.ensureLeaExists run.leaId)).map Prod.fst
  | 3 => ((run.loadStudents pg (r.ensureLeaExists run.leaId)).bind fun x =>
      run.loadEnrollments pg x.1).map Prod.fst
  | _ => none

/-- The roster has come as far as milestone `k`, or further. -/
def Reached (pg : Postgres) (run : BulkRun) (r : Roster) (k : Nat) (x : Roster) : Prop :=
  ∃ n y, k ≤ n ∧ run.milestone pg r n = some y ∧ y.Alike x

/-- What the work up to milestone `k` leaves nothing to do about. -/
structure Settled (run : BulkRun) (k : Nat) (x : Roster) : Prop where
  lea : 1 ≤ k → (x.leas.lookup run.leaId).isSome = true
  students : 2 ≤ k → x.Holds run.leaId (run.payload.students.map .student)
  enrollments : 3 ≤ k → x.Holds run.leaId (run.payload.enrollments.map .enrollment)

end BulkRun

theorem leas_lookup_applyEntityType {pg : Postgres} {leaId l : LeaId} {job : Uuid} {now : Instant}
    {entries : List PartnerEntry} {r r' : Roster} {n : Nat}
    (h : applyEntityType pg leaId job now entries r = some (r', n))
    (hl : (r.leas.lookup l).isSome = true) : (r'.leas.lookup l).isSome = true := by
  refine Runs.foldlM_invariant (I := fun x : Roster × Nat => (x.1.leas.lookup l).isSome = true) ?_
    hl h
  rintro entry - ⟨x, m⟩ ⟨x', m'⟩ hx hstep
  obtain ⟨k, -, ⟨-, rfl, -⟩ | ⟨-, -, row, -, -, rfl⟩⟩ := applyEntryCounted_iff.mp hstep
  · exact hx
  · exact Roster.leas_lookup_setCanonical _ _ _ _ hx

namespace BulkRun

variable {pg : Postgres} {run load : BulkRun} {r x x' y : Roster} {k n w : Nat}

namespace Settled

theorem mono (h : run.Settled n x) (hk : k ≤ n) : run.Settled k x :=
  ⟨fun h' => h.lea (by omega), fun h' => h.students (by omega),
    fun h' => h.enrollments (by omega)⟩

theorem alike (h : run.Settled k x) (ha : x.Alike y) : run.Settled k y :=
  ⟨fun hk => (Roster.leas_congr (ha.canonical _ _)).trans (h.lea hk),
    fun hk => (h.students hk).alike ha, fun hk => (h.enrollments hk).alike ha⟩

theorem ensureLeaExists_eq (h : run.Settled 1 x) : x.ensureLeaExists run.leaId = x :=
  Roster.ensureLeaExists_eq_self (h.lea le_rfl)

theorem loadStudents_eq (h : run.Settled 2 x) (pg : Postgres) :
    run.loadStudents pg x = some (x, 0) :=
  applyEntityType_of_holds (h.students le_rfl)

theorem loadEnrollments_eq (h : run.Settled 3 x) (pg : Postgres) :
    run.loadEnrollments pg x = some (x, 0) :=
  applyEntityType_of_holds (h.enrollments le_rfl)

theorem loadStudents (h : run.Settled 1 x) (hd : run.payload.Distinct)
    (hs : run.loadStudents pg x = some (x', w)) : run.Settled 2 x' := by
  refine ⟨fun _ => leas_lookup_applyEntityType hs (h.lea le_rfl), fun _ => ?_, by omega⟩
  refine holds_applyEntityType ?_ hs
  rw [List.map_map]
  exact hd.1

theorem loadEnrollments (h : run.Settled 2 x) (hd : run.payload.Distinct)
    (he : run.loadEnrollments pg x = some (x', w)) : run.Settled 3 x' := by
  refine ⟨fun _ => leas_lookup_applyEntityType he (h.lea (by omega)), fun _ => ?_, fun _ => ?_⟩
  · refine holds_applyEntityType_ne (h.students le_rfl) ?_ he
    intro entry hentry other hother
    obtain ⟨_, -, rfl⟩ := List.mem_map.mp hentry
    obtain ⟨_, -, rfl⟩ := List.mem_map.mp hother
    exact nofun
  · refine holds_applyEntityType ?_ he
    rw [List.map_map]
    exact hd.2

end Settled

theorem milestone_settled (hd : run.payload.Distinct) (h : run.milestone pg r n = some x) :
    run.Settled n x := by
  have hstart : run.Settled 1 (r.ensureLeaExists run.leaId) :=
    ⟨fun _ => Roster.leas_lookup_ensureLeaExists _ _, by omega, by omega⟩
  match n, h with
  | 0, _ => exact ⟨by omega, by omega, by omega⟩
  | 1, h =>
    obtain rfl := Option.some.inj h
    exact hstart
  | 2, h =>
    obtain ⟨⟨x, w⟩, hs, rfl⟩ := Option.map_eq_some_iff.mp h
    exact hstart.loadStudents hd hs
  | 3, h =>
    obtain ⟨⟨x, w⟩, hx, rfl⟩ := Option.map_eq_some_iff.mp h
    obtain ⟨⟨x₁, w₁⟩, hs, he⟩ := Option.bind_eq_some_iff.mp hx
    exact (hstart.loadStudents hd hs).loadEnrollments hd he

namespace Reached

theorem start (pg : Postgres) (run : BulkRun) (r : Roster) : run.Reached pg r 0 r :=
  ⟨0, r, le_rfl, rfl, .refl r⟩

theorem mono (h : run.Reached pg r n x) (hk : k ≤ n) : run.Reached pg r k x := by
  obtain ⟨m, y, hm, hy⟩ := h
  exact ⟨m, y, hk.trans hm, hy⟩

theorem settled (hd : run.payload.Distinct) (h : run.Reached pg r k x) : run.Settled k x := by
  obtain ⟨n, y, hn, hy, ha⟩ := h
  exact ((milestone_settled hd hy).mono hn).alike ha

theorem lea (hd : run.payload.Distinct) (h : run.Reached pg r 0 x) :
    run.Reached pg r 1 (x.ensureLeaExists run.leaId) := by
  obtain ⟨n, y, -, hy, ha⟩ := h
  by_cases hn : 1 ≤ n
  · have hset : run.Settled 1 x := ((milestone_settled hd hy).mono hn).alike ha
    rw [hset.ensureLeaExists_eq]
    exact ⟨n, y, hn, hy, ha⟩
  · obtain rfl : n = 0 := by omega
    obtain rfl := Option.some.inj hy
    exact ⟨1, _, le_rfl, rfl, ha.ensureLeaExists _⟩

/-- **The students stage**, by any load of the payload. -/
theorem students (hd : run.payload.Distinct) (hload : load.Loads run.leaId run.payload)
    (h : run.Reached pg r 1 x) (hs : load.loadStudents pg x = some (x', w)) :
    run.Reached pg r 2 x' := by
  obtain ⟨n, y, hn, hy, ha⟩ := h
  rw [loadStudents, hload.1, hload.2] at hs
  by_cases h2 : 2 ≤ n
  · -- they are there already
    have hset : run.Settled 2 x := ((milestone_settled hd hy).mono h2).alike ha
    rw [applyEntityType_of_holds (hset.students le_rfl)] at hs
    obtain ⟨rfl, -⟩ := Prod.mk.inj (Option.some.inj hs)
    exact ⟨n, y, h2, hy, ha⟩
  · obtain rfl : n = 1 := by omega
    obtain rfl := Option.some.inj hy
    have halike : ∃ y', run.loadStudents pg (r.ensureLeaExists run.leaId) = some (y', w) ∧
        x'.Alike y' := applyEntityType_alike ha.symm hs
    obtain ⟨y', hy', ha'⟩ := halike
    refine ⟨2, y', le_rfl, ?_, ha'.symm⟩
    rw [milestone, hy']
    rfl

/-- **The enrollments stage**, by any load of the payload. -/
theorem enrollments (hd : run.payload.Distinct) (hload : load.Loads run.leaId run.payload)
    (h : run.Reached pg r 2 x) (he : load.loadEnrollments pg x = some (x', w)) :
    run.Reached pg r 3 x' := by
  obtain ⟨n, y, hn, hy, ha⟩ := h
  rw [loadEnrollments, hload.1, hload.2] at he
  by_cases h3 : 3 ≤ n
  · have hset : run.Settled 3 x := ((milestone_settled hd hy).mono h3).alike ha
    rw [applyEntityType_of_holds (hset.enrollments le_rfl)] at he
    obtain ⟨rfl, -⟩ := Prod.mk.inj (Option.some.inj he)
    exact ⟨n, y, h3, hy, ha⟩
  · obtain rfl : n = 2 := by omega
    obtain ⟨⟨y, w₁⟩, hs, rfl⟩ := Option.map_eq_some_iff.mp hy
    have halike : ∃ y', run.loadEnrollments pg y = some (y', w) ∧ x'.Alike y' :=
      applyEntityType_alike ha.symm he
    obtain ⟨y', hy', ha'⟩ := halike
    refine ⟨3, y', le_rfl, ?_, ha'.symm⟩
    rw [milestone, hs, Option.bind_some, hy']
    rfl

/-- All the way: a load that stops nowhere gets there, and no entry is refused. -/
theorem ended (h : run.Reached pg r 3 x) :
    ∃ r₁ w₁ r₂ w₂, run.loadStudents pg (r.ensureLeaExists run.leaId) = some (r₁, w₁) ∧
      run.loadEnrollments pg r₁ = some (r₂, w₂) ∧ r₂.Alike x := by
  obtain ⟨n, y, hn, hy, ha⟩ := h
  match n, hn, hy with
  | 3, _, hy =>
    obtain ⟨⟨r₂, w₂⟩, hx, rfl⟩ := Option.map_eq_some_iff.mp hy
    obtain ⟨⟨r₁, w₁⟩, hs, he⟩ := Option.bind_eq_some_iff.mp hx
    exact ⟨r₁, w₁, r₂, w₂, hs, he, ha⟩

end Reached

end BulkRun

/-! ### Many loads -/

/-- The state after some bulk loads, whatever became of them. -/
def reload (pg : Postgres) (s : Store) (loads : List BulkRun) : Store :=
  Runs.run (fun s load => (bulkLoad pg load s).1) s loads

section

variable {pg : Postgres} {run load : BulkRun} {r : Roster} {s s' : Store}

theorem bulkLoad_reached (hd : run.payload.Distinct) (hload : load.Loads run.leaId run.payload)
    (h : run.Reached pg r 0 s.roster) : run.Reached pg r 0 (bulkLoad pg load s).1.roster := by
  have hlea := h.lea hd
  rw [← hload.1] at hlea
  rcases bulkLoad_roster_cases pg load s with ⟨-, -, heq | heq⟩ | ⟨r₁, w₁, hs, -, hrest⟩
  · rw [heq]
    exact h
  · rw [heq]
    exact hlea.mono (by omega)
  · have hstudents := hlea.students hd hload hs
    rcases hrest with ⟨-, heq⟩ | ⟨r₂, w₂, he, -, heq⟩
    · rw [heq]
      exact hstudents.mono (by omega)
    · rw [heq]
      exact (hstudents.enrollments hd hload he).mono (by omega)

/-- **Any number of loads comes some way**, wherever they stop. -/
theorem reload_reached (hd : run.payload.Distinct) {loads : List BulkRun}
    (hloads : ∀ load ∈ loads, load.Loads run.leaId run.payload)
    (h : run.Reached pg r 0 s.roster) : run.Reached pg r 0 (reload pg s loads).roster := by
  have hguard : Runs.Guarded (fun s load => (bulkLoad pg load s).1)
      (fun _ load => load.Loads run.leaId run.payload) s loads := .of_forall hloads
  exact hguard.invariant (I := fun s : Store => run.Reached pg r 0 s.roster)
    (fun _ _ hs hload => bulkLoad_reached hd hload hs) h

/-- A load that succeeds comes all the way. -/
theorem bulkLoad_reached_end (hd : run.payload.Distinct)
    (hload : load.Loads run.leaId run.payload) (h : run.Reached pg r 0 s.roster)
    {report : BulkLoadReport} (hb : bulkLoad pg load s = (s', some report)) :
    run.Reached pg r 3 s'.roster := by
  obtain ⟨-, -, r₁, w₁, r₂, w₂, hs, he, rfl, -⟩ := bulkLoad_eq_some_iff.mp hb
  have hlea := h.lea hd
  rw [← hload.1] at hlea
  exact (hlea.students hd hload hs).enrollments hd hload he

theorem BulkRun.Settled.other {k : Nat} {x : Roster} (h : run.Settled k x)
    (hload : load.Loads run.leaId run.payload) : load.Settled k x := by
  refine ⟨?_, ?_, ?_⟩
  all_goals rw [hload.1]
  · exact h.lea
  · rw [hload.2]; exact h.students
  · rw [hload.2]; exact h.enrollments

/-- **There is nothing left to write.** -/
theorem bulkLoad_settled (hset : load.Settled 3 s.roster) :
    (bulkLoad pg load s).1.roster = s.roster := by
  have hlea := (hset.mono (by omega)).ensureLeaExists_eq
  have hstudents := (hset.mono (by omega)).loadStudents_eq pg
  have henrollments := hset.loadEnrollments_eq pg
  rcases bulkLoad_roster_cases pg load s with ⟨-, -, heq | heq⟩ | ⟨r₁, w₁, hs, -, hrest⟩
  · exact heq
  · rw [heq, hlea]
  · rw [hlea, hstudents] at hs
    obtain ⟨rfl, -⟩ := Prod.mk.inj (Option.some.inj hs)
    rcases hrest with ⟨-, heq⟩ | ⟨r₂, w₂, he, -, heq⟩
    · exact heq
    · rw [henrollments] at he
      obtain ⟨rfl, -⟩ := Prod.mk.inj (Option.some.inj he)
      exact heq

/-- And nothing to refuse. -/
theorem isSome_of_settled (hset : load.Settled 3 s.roster)
    (hfresh : s.syncJobs.lookup load.syncJobId = none) (hcalm : load.Calm) :
    (bulkLoad pg load s).2.isSome = true := by
  have hstudents : load.loadStudents pg (s.roster.ensureLeaExists load.leaId)
      = some (s.roster, 0) := by
    rw [(hset.mono (by omega)).ensureLeaExists_eq, (hset.mono (by omega)).loadStudents_eq pg]
  have hload : bulkLoad pg load s = (_, some _) := bulkLoad_eq_some_iff.mpr
    ⟨hfresh, hcalm, s.roster, 0, s.roster, 0, hstudents, hset.loadEnrollments_eq pg, rfl, rfl⟩
  rw [hload]
  rfl

/-- A load that succeeds then wrote no snapshot. -/
theorem report_settled (hset : load.Settled 3 s.roster) {report : BulkLoadReport}
    (hb : bulkLoad pg load s = (s', some report)) :
    report.writtenStudents = 0 ∧ report.writtenEnrollments = 0 := by
  obtain ⟨-, -, r₁, w₁, r₂, w₂, hs, he, -, rfl⟩ := bulkLoad_eq_some_iff.mp hb
  rw [(hset.mono (by omega)).ensureLeaExists_eq,
    (hset.mono (by omega)).loadStudents_eq pg] at hs
  obtain ⟨rfl, rfl⟩ := Prod.mk.inj (Option.some.inj hs)
  rw [hset.loadEnrollments_eq pg] at he
  obtain ⟨-, rfl⟩ := Prod.mk.inj (Option.some.inj he)
  exact ⟨rfl, rfl⟩

/-- The cursor of a load that succeeded. -/
theorem cursorState_bulkLoad {report : BulkLoadReport}
    (hb : bulkLoad pg load s = (s', some report)) :
    ∃ row, s'.cursorState.lookup (load.leaId, load.partner) = some row ∧
      row.lastEventId = (if load.latest.value = "" then none else some load.latest.value) ∧
      row.coldStartRequired = false := by
  obtain ⟨-, -, r₁, w₁, r₂, w₂, -, -, rfl, -⟩ := bulkLoad_eq_some_iff.mp hb
  let row : CursorStateRow :=
    { lastEventId := if load.latest.value = "" then none else some load.latest.value
      lastEventAt := load.latest.observedAt
      lastPollAt := some (load.clock .advanceCursor)
      coldStartRequired := false
      updatedAt := load.clock .advanceCursor }
  refine ⟨row, ?_, rfl, rfl⟩
  show (s.cursorState.insert (load.leaId, load.partner) row).lookup _ = some row
  rw [Table.lookup_insert_eq, if_pos rfl]

end

/-- **A bulk load converges.**  After any number of loads of a payload, wherever each of
them stopped, one that succeeds leaves what a single load from the start leaves.  Every
load after it leaves the roster as it is, and if it succeeds has written no snapshot, has
set the cursor and has cleared `cold_start_required`. -/
theorem bulkLoad_converges (pg : Postgres) (leaId : LeaId) (payload : PartnerPayload)
    (hd : payload.Distinct) (s : Store) (loads : List BulkRun) (last single : BulkRun)
    (hloads : ∀ load ∈ last :: single :: loads, load.Loads leaId payload)
    (hlast : (bulkLoad pg last (reload pg s loads)).2.isSome = true)
    (hfresh : s.syncJobs.lookup single.syncJobId = none) (hcalm : single.Calm) :
    let loaded := (bulkLoad pg last (reload pg s loads)).1
    (bulkLoad pg single s).2.isSome = true ∧ (bulkLoad pg single s).1.roster.Alike loaded.roster ∧
    ∀ (more : List BulkRun) (next : BulkRun),
      (∀ load ∈ next :: more, load.Loads leaId payload) →
      let before := reload pg loaded more
      let after := bulkLoad pg next before
      after.1.roster = loaded.roster ∧
      (before.syncJobs.lookup next.syncJobId = none → next.Calm → after.2.isSome = true) ∧
      ∀ report, after.2 = some report →
        report.writtenStudents = 0 ∧ report.writtenEnrollments = 0 ∧
        ∃ row, after.1.cursorState.lookup (leaId, next.partner) = some row ∧
          row.lastEventId = (if next.latest.value = "" then none else some next.latest.value) ∧
          row.coldStartRequired = false := by
  intro loaded
  obtain ⟨hloadLast, hloadSingle, hloads⟩ :
      last.Loads leaId payload ∧ single.Loads leaId payload ∧
        ∀ load ∈ loads, load.Loads leaId payload := by
    simpa only [List.forall_mem_cons] using hloads
  obtain ⟨rfl, rfl⟩ := hloadSingle
  obtain ⟨report, hreport⟩ := Option.isSome_iff_exists.mp hlast
  have hsuccess : bulkLoad pg last (reload pg s loads) = (loaded, some report) :=
    Prod.ext rfl hreport
  -- the last load ends where the load of the same payload alone does
  have hend : single.Reached pg s.roster 3 loaded.roster :=
    bulkLoad_reached_end hd hloadLast (reload_reached hd hloads (.start pg single s.roster))
      hsuccess
  obtain ⟨r₁, w₁, r₂, w₂, hs, he, halike⟩ := hend.ended
  have hsingle : ∃ s₁ report₁, bulkLoad pg single s = (s₁, some report₁) ∧ s₁.roster = r₂ :=
    ⟨_, _, bulkLoad_eq_some_iff.mpr ⟨hfresh, hcalm, r₁, w₁, r₂, w₂, hs, he, rfl, rfl⟩, rfl⟩
  obtain ⟨s₁, report₁, hsingle, rfl⟩ := hsingle
  refine ⟨by rw [hsingle]; rfl, by rw [hsingle]; exact halike, fun more next hmore => ?_⟩
  obtain ⟨hnext, hmore⟩ := List.forall_mem_cons.mp hmore
  intro before after
  have hset : single.Settled 3 loaded.roster := hend.settled hd
  -- later loads of the payload find everything written
  have hbefore : before.roster = loaded.roster := by
    have hguard : Runs.Guarded (fun s load => (bulkLoad pg load s).1)
        (fun _ load => load.Loads single.leaId single.payload) loaded more := .of_forall hmore
    refine hguard.invariant (I := fun t : Store => t.roster = loaded.roster) ?_ rfl
    intro t load ht hload
    rw [bulkLoad_settled (ht.symm ▸ hset.other hload), ht]
  have hsetNext : next.Settled 3 before.roster := hbefore.symm ▸ hset.other hnext
  refine ⟨(bulkLoad_settled hsetNext).trans hbefore, fun hfresh hcalm => ?_, fun report h => ?_⟩
  · exact isSome_of_settled hsetNext hfresh hcalm
  · have hafter : bulkLoad pg next before = (after.1, some report) := Prod.ext rfl h
    obtain ⟨hws, hwe⟩ := report_settled hsetNext hafter
    have hcursor := cursorState_bulkLoad hafter
    rw [hnext.1] at hcursor
    exact ⟨hws, hwe, hcursor⟩

namespace Reloads

/-- A bulk load of a student and an enrollment of the student. -/
def loadAs (syncJobId : Uuid) (raises : BulkStage → Bool) : BulkRun where
  leaId := "L1"
  partner := "edlink"
  syncJobId := syncJobId
  payload :=
    { students := [{ id := some "s1", givenName := some "Alex", familyName := some "Diaz" }]
      enrollments :=
        [ { id := some "e1", studentId := some "s1", classId := some "c1"
            beginDate := some (.text "2026-08-01") } ] }
  latest := { value := "evt_900" }
  clock _ := 40
  raises := raises

/-- A load that is killed between the students and the enrollments. -/
def killed : BulkRun := loadAs "job-1" fun stage => stage = .enrollments || stage = .markFailed

def calm (syncJobId : Uuid) : BulkRun := loadAs syncJobId fun _ => false

end Reloads

open Reloads in
theorem bulkLoad_converges_afterStudents :
    (bulkLoad .reference (calm "job-9") Store.empty).1.roster.Alike
      (bulkLoad .reference (calm "job-2") (reload .reference Store.empty [killed])).1.roster :=
  have hloads : ∀ load ∈ [calm "job-2", calm "job-9", killed], load.Loads "L1" killed.payload := by
    unfold BulkRun.Loads
    decide +kernel
  (bulkLoad_converges .reference "L1" killed.payload (by decide) Store.empty [killed]
    (calm "job-2") (calm "job-9") hloads (by decide +kernel) rfl (by decide)).2.1
