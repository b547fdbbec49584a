/-
Drains of several LEAs at once.

Workers drain LEAs side by side, and their page transactions commit in any order.
`Store.part` is what some LEAs have in the database.  Where no id is used by two LEAs, a
page steps the part of its own LEA as it would step it alone, and leaves the part of the
others where it is.

* `part_applyEvent`, `part_of_applyEvent` — an event of the part, and another event;
* `part_processOnePage`, `part_of_processOnePage` — a page of the part, and another page;
* `drains_alone` — each drain ends up as it would alone, wherever the others interleave.
-/
import EdlinkRostering.PageBoundaries
import EdlinkRostering.Noninterference

/-! ### The part of some LEAs -/

namespace SnapshotTable

/-- The rows as the column default numbers them. -/
def numbered (rows : List SnapshotRow) : List SnapshotRow :=
  rows.mapIdx fun i row => { row with snapshotId := i }

/-- The rows of some LEAs, numbered anew. -/
def part (t : SnapshotTable) (p : LeaId → Bool) : SnapshotTable where
  rows := numbered (t.rows.filter fun row => p row.leaId)
  ids := List.ext_getElem (by simp [numbered]) (fun i _ _ => by simp [numbered])

theorem rows_part (t : SnapshotTable) (p : LeaId → Bool) :
    (t.part p).rows = numbered (t.rows.filter fun row => p row.leaId) := rfl

theorem Keyed.part {t : SnapshotTable} (h : t.Keyed) (p : LeaId → Bool) : (t.part p).Keyed := by
  intro row hrow
  obtain ⟨i, hi, rfl⟩ := List.mem_mapIdx.mp hrow
  have hkey := h _ (List.mem_of_mem_filter (List.getElem_mem hi))
  exact hkey

section

variable {β : Type} {q : SnapshotRow → Bool} {g : SnapshotRow → β}

/-- What does not read the ids does not see that they are new. -/
theorem filter_map_mapIdx (hq : ∀ row n, q { row with snapshotId := n } = q row)
    (hg : ∀ row n, g { row with snapshotId := n } = g row) (rows : List SnapshotRow)
    (ids : Nat → Nat) :
    ((rows.mapIdx fun i row => { row with snapshotId := ids i }).filter q).map g
      = (rows.filter q).map g := by
  induction rows generalizing ids with
  | nil => rfl
  | cons row rows ih =>
    have hrest := ih fun i => ids (i + 1)
    rw [List.mapIdx_cons]
    cases hrow : q row with
    | true =>
      rw [List.filter_cons_of_pos ((hq row _).trans hrow), List.filter_cons_of_pos hrow,
        List.map_cons, List.map_cons, hg, hrest]
    | false =>
      rw [List.filter_cons_of_neg (by simp [hq, hrow]), List.filter_cons_of_neg (by simp [hrow]),
        hrest]

/-- A read of the rows of some of the LEAs. -/
theorem filter_map_part (t : SnapshotTable) {p : LeaId → Bool}
    (hq : ∀ row n, q { row with snapshotId := n } = q row)
    (hg : ∀ row n, g { row with snapshotId := n } = g row)
    (hp : ∀ row ∈ t.rows, q row = true → p row.leaId = true) :
    ((t.part p).rows.filter q).map g = (t.rows.filter q).map g := by
  have hread := filter_map_mapIdx hq hg (t.rows.filter fun row => p row.leaId) id
  refine hread.trans ?_
  rw [List.filter_filter]
  refine congrArg (List.map g) (List.filter_congr fun row hrow => ?_)
  cases hrow' : q row with
  | true => rw [hp row hrow hrow']; rfl
  | false => rfl

end

theorem part_insert (t : SnapshotTable) (p : LeaId → Bool) (row : SnapshotRow) :
    (t.insert row).part p = if p row.leaId then (t.part p).insert row else t.part p := by
  have hrows : ((t.insert row).part p).rows = numbered ((t.rows.filter fun row => p row.leaId)
      ++ if p row.leaId then [{ row with snapshotId := t.rows.length }] else []) := by
    rw [rows_part]
    show numbered ((t.rows ++ [_]).filter _) = _
    rw [List.filter_append, List.filter_cons]
    rfl
  refine ext_rows (hrows.trans ?_)
  cases p row.leaId with
  | true =>
    rw [if_pos rfl, if_pos rfl, numbered, List.mapIdx_concat]
    show _ = (t.part p).rows ++ [{ row with snapshotId := (t.part p).rows.length }]
    rw [rows_part, numbered, List.length_mapIdx]
  | false => rw [if_neg (by simp), if_neg (by simp), List.append_nil, rows_part]

/-- A statement that marks rows of one LEA. -/
theorem part_mark (t : SnapshotTable) (p : LeaId → Bool) {q : SnapshotRow → Bool}
    {leaId : LeaId} (hq : ∀ row n, q { row with snapshotId := n } = q row)
    (hlea : ∀ row, q row = true → row.leaId = leaId) (g : Option Uuid) (i : Option Instant) :
    (t.mark q g i).part p = if p leaId then (t.part p).mark q g i else t.part p := by
  have hkeep : ∀ row : SnapshotRow,
      p (if q row then row.mark g i else row).leaId = p row.leaId := by
    intro row
    cases q row <;> rfl
  have hfilter : (t.mark q g i).rows.filter (fun row => p row.leaId)
      = (t.rows.filter fun row => p row.leaId).map
          fun row => if q row then row.mark g i else row := by
    show (t.rows.map _).filter _ = _
    rw [List.filter_map]
    exact congrArg _ (List.filter_congr fun row _ => hkeep row)
  refine ext_rows ?_
  rw [rows_part, hfilter]
  cases hp : p leaId with
  | true =>
    rw [if_pos rfl]
    refine List.ext_getElem (by simp [mark, rows_part, numbered]) fun n _ _ => ?_
    simp only [mark, rows_part, numbered, List.getElem_mapIdx, List.getElem_map, hq]
    split <;> rfl
  | false =>
    -- no row of the part is marked
    rw [if_neg (by simp), List.map_congr_left (g := id), List.map_id]
    · rfl
    · intro row hrow
      have hrow := (List.mem_filter.mp hrow).2
      refine if_neg fun hmark => ?_
      rw [hlea row hmark, hp] at hrow
      exact absurd hrow (by simp)

end SnapshotTable

namespace Roster

/-- What some LEAs have in the roster. -/
def part (r : Roster) (p : LeaId → Bool) : Roster where
  leas := Table.restrict r.leas fun id _ => p id
  students := Table.restrict r.students fun _ row => p row.leaId
  enrollments := Table.restrict r.enrollments fun _ row => p row.leaId
  snapshots et := (r.snapshots et).part p
  leaKeyed := r.leaKeyed.part p

theorem ext_tables {r r' : Roster} (hleas : r.leas = r'.leas) (hstudents : r.students = r'.students)
    (henrollments : r.enrollments = r'.enrollments)
    (hsnapshots : ∀ et, r.snapshots et = r'.snapshots et) : r = r' := by
  obtain ⟨leas, students, enrollments, snapshots, keyed⟩ := r
  obtain rfl : snapshots = r'.snapshots := funext hsnapshots
  subst hleas hstudents henrollments
  rfl

section

variable {r : Roster} {p : LeaId → Bool} {leaId : LeaId}

/-! #### Reads -/

theorem dedups_part (hp : p leaId = true) (pg : Postgres) (event : NormalizedEvent) :
    (r.part p).dedups pg leaId event = r.dedups pg leaId event := by
  have hids := (r.snapshots event.entityType).filter_map_part (p := p)
    (q := fun row => row.liveAt leaId event.naturalKey) (g := (·.sourceEventId))
    (fun _ _ => rfl) (fun _ _ => rfl) (fun row _ hlive => by
      rw [(SnapshotRow.liveAt_iff.mp hlive).1]
      exact hp)
  have htop : (r.part p).latestLiveSourceEventId pg event.entityType leaId event.naturalKey
      = r.latestLiveSourceEventId pg event.entityType leaId event.naturalKey :=
    pg.sourceEventId_top hids
  rw [dedups, dedups, htop]

theorem studentExists_part (hp : p leaId = true) (id : StudentId) :
    (r.part p).studentExists leaId id = r.studentExists leaId id := by
  rw [studentExists, studentExists, part, Table.lookup_restrict]
  cases r.students.lookup id with
  | none => rfl
  | some row =>
    by_cases hlea : row.leaId = leaId
    · rw [Option.filter_some, hlea, hp]
      rfl
    · cases hrow : p row.leaId <;> simp [Option.filter_some, hrow, hlea]

/-! #### Writes -/

/-- A statement on one snapshot table that moves a part, or leaves it alone. -/
theorem part_modifySnapshots {et : EntityType} {f : SnapshotTable → SnapshotTable}
    {hf : et = .lea → ∀ t : SnapshotTable, t.Keyed → (f t).Keyed} {b : Bool}
    (h : (f (r.snapshots et)).part p
      = if b then f ((r.snapshots et).part p) else (r.snapshots et).part p) :
    (r.modifySnapshots et f hf).part p
      = if b then (r.part p).modifySnapshots et f hf else r.part p := by
  cases b with
  | true =>
    refine ext_tables rfl rfl rfl fun et' => ?_
    rw [if_pos rfl]
    show ((r.modifySnapshots et f hf).snapshots et').part p = _
    by_cases het : et' = et
    · rw [het, modifySnapshots_self, modifySnapshots_self, h]
      rfl
    · rw [modifySnapshots_ne _ _ _ _ het, modifySnapshots_ne _ _ _ _ het]
      rfl
  | false =>
    refine ext_tables rfl rfl rfl fun et' => ?_
    rw [if_neg (by simp)]
    show ((r.modifySnapshots et f hf).snapshots et').part p = _
    by_cases het : et' = et
    · rw [het, modifySnapshots_self, h]
      rfl
    · rw [modifySnapshots_ne _ _ _ _ het]
      rfl

theorem part_supersede (r : Roster) (p : LeaId → Bool) (et : EntityType) (leaId : LeaId)
    (key : String) (g : Uuid) (i : Instant) : (r.supersede et leaId key g i).part p
      = if p leaId then (r.part p).supersede et leaId key g i else r.part p :=
  part_modifySnapshots ((r.snapshots et).part_mark p (fun _ _ => rfl)
    (fun _ hlive => (SnapshotRow.liveAt_iff.mp hlive).1) (some g) (some i))

theorem part_insertSnapshot (r : Roster) (p : LeaId → Bool) (et : EntityType) (row : SnapshotRow) :
    (r.insertSnapshot et row).part p
      = if p (row.stored et).leaId then (r.part p).insertSnapshot et row else r.part p :=
  part_modifySnapshots ((r.snapshots et).part_insert p (row.stored et))

end

end Roster

/-! ### Ids of one LEA -/

/-- Which LEA an id belongs to. -/
structure Tenancy where
  job : Uuid → LeaId
  student : StudentId → LeaId
  enrollment : EnrollmentId → LeaId

namespace Tenancy

/-- The LEA of a natural key. -/
def entity (t : Tenancy) : EntityType → String → LeaId
  | .lea, id => id
  | .student, id => t.student id
  | .enrollment, id => t.enrollment id

/-- The event is about an entity of the LEA. -/
structure Owns (t : Tenancy) (leaId : LeaId) (event : NormalizedEvent) : Prop where
  type : event.entityType ≠ .lea
  key : t.entity event.entityType event.naturalKey = leaId
  owner : ∀ pg now row, event.canonicalRow pg now = some row → row.owner event.naturalKey = leaId

/-- The rows lie with the LEAs of their ids. -/
structure Rosters (t : Tenancy) (r : Roster) : Prop where
  canonical : ∀ et id row, r.canonical et id = some row → row.owner id = t.entity et id
  snapshots : ∀ et, ∀ row ∈ (r.snapshots et).rows, row.leaId = t.job row.generationId

namespace Rosters

variable {t : Tenancy} {r : Roster} {p : LeaId → Bool} {leaId : LeaId}

theorem student (h : t.Rosters r) {id : StudentId} {row : StudentRow}
    (hrow : r.students.lookup id = some row) : row.leaId = t.student id :=
  h.canonical .student id (.student row) (Roster.canonical_student_eq_some.mpr hrow)

theorem enrollment (h : t.Rosters r) {id : EnrollmentId} {row : EnrollmentRow}
    (hrow : r.enrollments.lookup id = some row) : row.leaId = t.enrollment id :=
  h.canonical .enrollment id (.enrollment row) (Roster.canonical_enrollment_eq_some.mpr hrow)

theorem setCanonical (h : t.Rosters r) {id : String} {row : CanonicalRow}
    (hrow : row.owner id = t.entity row.entityType id) : t.Rosters (r.setCanonical id row) := by
  refine ⟨fun et id' row' hrow' => ?_, fun et => ?_⟩
  · rw [Roster.canonical_setCanonical] at hrow'
    split at hrow'
    · next hkey =>
      obtain ⟨rfl, rfl⟩ := hkey
      rw [← Option.some.inj hrow', hrow]
    · exact h.canonical et id' row' hrow'
  · rw [Roster.snapshots_setCanonical]
    exact h.snapshots et

theorem ensureLeaExists (h : t.Rosters r) (leaId : LeaId) :
    t.Rosters (r.ensureLeaExists leaId) := by
  rw [Roster.ensureLeaExists]
  split
  · exact h
  · exact h.setCanonical rfl

theorem pushSnapshot (h : t.Rosters r) {event : NormalizedEvent} (htype : event.entityType ≠ .lea)
    {syncJobId : Uuid} (hjob : t.job syncJobId = leaId) (now : Instant) :
    t.Rosters (r.pushSnapshot leaId event syncJobId now) := by
  refine ⟨fun et id row hrow => ?_, fun et row hrow => ?_⟩
  · rw [Roster.canonical_pushSnapshot] at hrow
    exact h.canonical et id row hrow
  · rcases Roster.mem_insertSnapshot.mp hrow with hrow | ⟨-, rfl⟩
    · obtain ⟨old, hold, rfl⟩ := Roster.mem_supersede.mp hrow
      have hrow := h.snapshots et old hold
      split <;> exact hrow
    · rw [SnapshotRow.stored_of_ne htype]
      exact hjob.symm

theorem event (h : t.Rosters r) {event : NormalizedEvent} (howns : t.Owns leaId event)
    {syncJobId : Uuid} (hjob : t.job syncJobId = leaId) {pg : Postgres} {now : Instant}
    {r' : Roster} {changed : Bool}
    (happly : applyEvent pg leaId syncJobId now r event = some (r', changed)) :
    t.Rosters r' := by
  rcases applyEvent_eq_some.mp happly with ⟨-, rfl, -⟩ | ⟨-, -, row, hrow, hupsert⟩
  · exact h
  · obtain ⟨-, rfl⟩ := Roster.upsert_eq_some.mp hupsert
    refine (h.pushSnapshot howns.type hjob now).setCanonical ?_
    rw [howns.owner pg now row hrow, canonicalRow_entityType hrow, howns.key]

end Rosters

end Tenancy

namespace Roster

variable {t : Tenancy} {r : Roster} {p : LeaId → Bool} {leaId : LeaId}

theorem part_setLea (r : Roster) (p : LeaId → Bool) (id : LeaId) (row : LeaRow) :
    (r.setCanonical id (.lea row)).part p
      = if p id then (r.part p).setCanonical id (.lea row) else r.part p := by
  have hinsert := Table.restrict_insert (t := r.leas) (p := fun id _ => p id) (k := id)
    (v := row) (fun _ _ => rfl)
  cases hp : p id <;> simp [hp, setCanonical, part, hinsert]

/-- A row is written to the part of its LEA. -/
theorem part_setCanonical (h : t.Rosters r) {id : String} {row : CanonicalRow}
    (hrow : row.owner id = t.entity row.entityType id) (p : LeaId → Bool) :
    (r.setCanonical id row).part p
      = if p (row.owner id) then (r.part p).setCanonical id row else r.part p := by
  cases row with
  | lea row => exact r.part_setLea p id row
  | student row =>
    have hinsert := Table.restrict_insert (t := r.students) (p := fun _ row => p row.leaId)
      (k := id) (v := row) (fun old hold => congrArg p ((h.student hold).trans hrow.symm))
    cases hp : p row.leaId <;> simp [CanonicalRow.owner, hp, setCanonical, part, hinsert]
  | enrollment row =>
    have hinsert := Table.restrict_insert (t := r.enrollments) (p := fun _ row => p row.leaId)
      (k := id) (v := row) (fun old hold => congrArg p ((h.enrollment hold).trans hrow.symm))
    cases hp : p row.leaId <;> simp [CanonicalRow.owner, hp, setCanonical, part, hinsert]

theorem leas_part (hp : p leaId = true) : (r.part p).leas.lookup leaId = r.leas.lookup leaId := by
  rw [part, Table.lookup_restrict]
  cases r.leas.lookup leaId <;> simp [hp]

theorem part_ensureLeaExists (r : Roster) (p : LeaId → Bool) (leaId : LeaId) :
    (r.ensureLeaExists leaId).part p
      = if p leaId then (r.part p).ensureLeaExists leaId else r.part p := by
  have hset := r.part_setLea p leaId (placeholderLea leaId)
  cases hp : p leaId with
  | true =>
    rw [hp] at hset
    rw [if_pos rfl, ensureLeaExists, ensureLeaExists, leas_part hp]
    cases r.leas.lookup leaId with
    | none => exact hset
    | some row => rfl
  | false =>
    rw [hp] at hset
    rw [if_neg (by simp), ensureLeaExists]
    split
    · rfl
    · exact hset

/-- A student does not move to another LEA. -/
theorem strands_of_owner {id : StudentId} (h : ∀ old, r.students.lookup id = some old →
    old.leaId = leaId) : r.strands id leaId = false :=
  strands_eq_false.mpr fun old hold hne => absurd (h old hold) hne

/-- The constraints on a row of the part. -/
theorem admits_part (h : t.Rosters r) {id : String} {row : CanonicalRow}
    (hrow : row.owner id = t.entity row.entityType id) (hp : p (row.owner id) = true) :
    (r.part p).admits id row = r.admits id row := by
  cases row with
  | lea row => rfl
  | student row =>
    have howner : ∀ old, r.students.lookup id = some old → old.leaId = row.leaId :=
      fun old hold => (h.student hold).trans hrow.symm
    have howner' : ∀ old, (r.part p).students.lookup id = some old → old.leaId = row.leaId := by
      intro old hold
      rw [part, Table.lookup_restrict, Option.filter_eq_some_iff] at hold
      exact howner old hold.1
    have hlea : (r.part p).leas.lookup row.leaId = r.leas.lookup row.leaId := leas_part hp
    rw [admits, admits, strands_of_owner howner, strands_of_owner howner', hlea]
  | enrollment row =>
    have hlea : (r.part p).leas.lookup row.leaId = r.leas.lookup row.leaId := leas_part hp
    have hstudent := studentExists_part (r := r) hp row.studentId
    rw [admits, admits, hlea]
    exact congrArg _ hstudent

theorem part_pushSnapshot (r : Roster) (p : LeaId → Bool) (leaId : LeaId)
    {event : NormalizedEvent} (htype : event.entityType ≠ .lea) (syncJobId : Uuid)
    (now : Instant) : (r.pushSnapshot leaId event syncJobId now).part p
      = if p leaId then (r.part p).pushSnapshot leaId event syncJobId now else r.part p := by
  rw [pushSnapshot, part_insertSnapshot, SnapshotRow.stored_of_ne htype, part_supersede]
  show (if p leaId then _ else _) = _
  cases p leaId <;> rfl

end Roster

/-! ### One event -/

section

variable {t : Tenancy} {r r' : Roster} {p : LeaId → Bool} {leaId : LeaId} {event : NormalizedEvent}
  {pg : Postgres} {syncJobId : Uuid} {now : Instant}

/-- An event of the part. -/
theorem part_applyEvent (h : t.Rosters r) (howns : t.Owns leaId event)
    (hjob : t.job syncJobId = leaId) (hp : p leaId = true) (pg : Postgres) (now : Instant) :
    (applyEvent pg leaId syncJobId now r event).map (fun x => (x.1.part p, x.2))
      = applyEvent pg leaId syncJobId now (r.part p) event := by
  rw [applyEvent, applyEvent, Roster.dedups_part hp]
  cases r.dedups pg leaId event with
  | true => rfl
  | false =>
    cases hrow : event.canonicalRow pg now with
    | none => rfl
    | some row =>
      have howner := howns.owner pg now row hrow
      have hkey : row.owner event.naturalKey = t.entity row.entityType event.naturalKey := by
        rw [howner, canonicalRow_entityType hrow, howns.key]
      have hpush := h.pushSnapshot howns.type hjob now
      have hpart := r.part_pushSnapshot p leaId howns.type syncJobId now
      rw [hp, if_pos rfl] at hpart
      have hset := Roster.part_setCanonical hpush hkey p
      have hadmits := Roster.admits_part hpush hkey (howner ▸ hp)
      rw [howner, hp, if_pos rfl] at hset
      rw [hpart] at hset hadmits
      simp only [Bool.false_eq_true, if_false, Option.bind_eq_bind, Option.bind_some,
        Roster.upsert, hadmits]
      split
      · simp only [Option.bind_some, Option.map_some, hset]
      · rfl

/-- An event of the others. -/
theorem part_of_applyEvent (h : t.Rosters r) (howns : t.Owns leaId event)
    (hjob : t.job syncJobId = leaId) (hp : p leaId = false) {changed : Bool}
    (happly : applyEvent pg leaId syncJobId now r event = some (r', changed)) :
    r'.part p = r.part p := by
  rcases applyEvent_eq_some.mp happly with ⟨-, rfl, -⟩ | ⟨-, -, row, hrow, hupsert⟩
  · rfl
  · obtain ⟨-, rfl⟩ := Roster.upsert_eq_some.mp hupsert
    have howner := howns.owner pg now row hrow
    have hkey : row.owner event.naturalKey = t.entity row.entityType event.naturalKey := by
      rw [howner, canonicalRow_entityType hrow, howns.key]
    rw [Roster.part_setCanonical (h.pushSnapshot howns.type hjob now) hkey, howner, hp,
      if_neg (by simp), Roster.part_pushSnapshot _ _ _ howns.type, hp, if_neg (by simp)]

end

/-! ### The part of a store -/

namespace Store

/-- The job is one of some LEAs. -/
def jobIn (s : Store) (p : LeaId → Bool) (id : Uuid) : Bool :=
  (s.syncJobs.lookup id).any fun job => p job.leaId

/-- What some LEAs have in the database. -/
def part (s : Store) (p : LeaId → Bool) : Store where
  roster := s.roster.part p
  syncJobs := Table.restrict s.syncJobs fun _ job => p job.leaId
  syncValidationResults := s.syncValidationResults.filter fun v => s.jobIn p v.syncJobId
  quarantine := s.quarantine.filter fun q => p q.leaId
  revertActions := s.revertActions.filter fun a => s.jobIn p a.syncJobId
  retryActions := s.retryActions.filter fun a => p a.leaId
  cursorState := Table.restrict s.cursorState fun key _ => p key.1

end Store

/-- The rows lie with the LEAs of their ids, and name jobs that are there. -/
structure Tenancy.Holds (t : Tenancy) (s : Store) : Prop where
  roster : t.Rosters s.roster
  jobs : ∀ id job, s.syncJobs.lookup id = some job → job.leaId = t.job id
  results : ∀ v ∈ s.syncValidationResults, (s.syncJobs.lookup v.syncJobId).isSome = true
  reverts : ∀ a ∈ s.revertActions, (s.syncJobs.lookup a.syncJobId).isSome = true

namespace Store

variable {t : Tenancy} {s : Store} {p : LeaId → Bool} {leaId : LeaId}

/-! #### Reads -/

theorem cursorState_part (s : Store) (hp : p leaId = true) (partner : String) :
    (s.part p).cursorState.lookup (leaId, partner) = s.cursorState.lookup (leaId, partner) := by
  rw [part, Table.lookup_restrict]
  cases s.cursorState.lookup (leaId, partner) <;> simp [hp]

theorem readCursor_part (s : Store) (hp : p leaId = true) (partner : String) :
    (s.part p).readCursor leaId partner = s.readCursor leaId partner := by
  rw [readCursor, readCursor, cursorState_part s hp]

theorem deletionCount_part (h : t.Holds s) {id : Uuid} (hp : p (t.job id) = true) :
    (s.part p).deletionCount id = s.deletionCount id := by
  have hcount : ∀ et, (((s.roster.snapshots et).part p).rows.countP fun row =>
        row.generationId = id && row.deletedUpstream)
      = (s.roster.snapshots et).rows.countP fun row =>
        row.generationId = id && row.deletedUpstream := by
    intro et
    have hread := (s.roster.snapshots et).filter_map_part (p := p) (g := fun _ => ())
      (q := fun row => row.generationId = id && row.deletedUpstream) (fun _ _ => rfl)
      (fun _ _ => rfl) (fun row hrow hq => by
        rw [h.roster.snapshots et row hrow, of_decide_eq_true (Bool.and_eq_true_iff.mp hq).1]
        exact hp)
    have hlength := congrArg List.length hread
    rwa [List.length_map, List.length_map, ← List.countP_eq_length_filter,
      ← List.countP_eq_length_filter] at hlength
  simp only [deletionCount]
  rw [← hcount, ← hcount, ← hcount]
  rfl

theorem readRecentSyncHistory_part (h : t.Holds s) (hp : p leaId = true) (partner : String) :
    (s.part p).readRecentSyncHistory leaId partner = s.readRecentSyncHistory leaId partner := by
  have hjobs : (Table.rows (s.part p).syncJobs).filter (fun j =>
        j.2.leaId = leaId && j.2.partner = partner && j.2.status = .success)
      = (Table.rows s.syncJobs).filter fun j =>
        j.2.leaId = leaId && j.2.partner = partner && j.2.status = .success := by
    refine Table.filter_rows_restrict fun id job hjob => ?_
    simp only [Bool.and_eq_true, decide_eq_true_eq] at hjob
    rw [hjob.1.1]
    exact hp
  rw [readRecentSyncHistory, readRecentSyncHistory, hjobs]
  refine Prod.ext rfl (List.map_congr_left fun j hj => deletionCount_part h ?_)
  -- a job of the history is one of the LEA
  have hmem := List.mem_filter.mp ((List.mem_insertionSort _).mp (List.mem_of_mem_take hj))
  have hlea := hmem.2
  simp only [Bool.and_eq_true, decide_eq_true_eq] at hlea
  rw [← h.jobs j.1 j.2 (Table.mem_rows.mp hmem.1), hlea.1.1]
  exact hp

/-- A page of the LEA is validated against what the LEA has. -/
theorem leaState_part (h : t.Holds s) (hp : p leaId = true) (partner : String) :
    (s.part p).leaState leaId partner = s.leaState leaId partner := by
  have hknown : (s.part p).readKnownStudentIds leaId = s.readKnownStudentIds leaId := by
    refine congrArg (List.map Prod.fst) (Table.filter_rows_restrict fun id row hrow => ?_)
    rw [of_decide_eq_true hrow]
    exact hp
  have hcount : (s.part p).readLiveStudentCount leaId = s.readLiveStudentCount leaId := by
    refine Table.countP_rows_restrict fun id row hrow => ?_
    rw [of_decide_eq_true (Bool.and_eq_true_iff.mp hrow).1]
    exact hp
  rw [leaState, leaState, hknown, hcount, readRecentSyncHistory_part h hp]

/-! #### Writes -/

/-- Another job does not change whose jobs the others are. -/
theorem jobIn_insert {id id' : Uuid} {row : SyncJobRow} (hfresh : s.syncJobs.lookup id = none)
    (hother : (s.syncJobs.lookup id').isSome = true) :
    ({ s with syncJobs := s.syncJobs.insert id row } : Store).jobIn p id' = s.jobIn p id' := by
  have hne : id' ≠ id := by
    rintro rfl
    rw [hfresh] at hother
    exact absurd hother (by simp)
  rw [jobIn, jobIn, Table.lookup_insert_eq, if_neg hne]

theorem part_insertJob (h : t.Holds s) {id : Uuid} (hfresh : s.syncJobs.lookup id = none)
    (row : SyncJobRow) (p : LeaId → Bool) :
    ({ s with syncJobs := s.syncJobs.insert id row } : Store).part p
      = if p row.leaId then
          { s.part p with syncJobs := (s.part p).syncJobs.insert id row } else s.part p := by
  have hinsert := Table.restrict_insert (t := s.syncJobs) (p := fun _ job => p job.leaId) (k := id)
    (v := row) (fun old hold => by rw [hfresh] at hold; exact absurd hold (by simp))
  have hresults : s.syncValidationResults.filter (fun v =>
        ({ s with syncJobs := s.syncJobs.insert id row } : Store).jobIn p v.syncJobId)
      = s.syncValidationResults.filter fun v => s.jobIn p v.syncJobId :=
    List.filter_congr fun v hv => jobIn_insert hfresh (h.results v hv)
  have hreverts : s.revertActions.filter (fun a =>
        ({ s with syncJobs := s.syncJobs.insert id row } : Store).jobIn p a.syncJobId)
      = s.revertActions.filter fun a => s.jobIn p a.syncJobId :=
    List.filter_congr fun a ha => jobIn_insert hfresh (h.reverts a ha)
  simp only [part, hinsert, hresults, hreverts]
  split <;> rfl

/-- An update of a job that leaves it with its LEA. -/
theorem part_updateSyncJob (s : Store) (p : LeaId → Bool) (id : Uuid) {f : SyncJobRow → SyncJobRow}
    (hf : ∀ job, (f job).leaId = job.leaId) :
    (s.updateSyncJob id f).part p = (s.part p).updateSyncJob id f := by
  have hjobIn : (s.updateSyncJob id f).jobIn p = s.jobIn p := by
    funext id'
    rw [jobIn, jobIn, updateSyncJob, Table.lookup_modify]
    split
    · next heq =>
      rw [heq]
      cases s.syncJobs.lookup id with
      | none => rfl
      | some job => exact congrArg p (hf job)
    · rfl
  have hjobs := Table.restrict_modify (t := s.syncJobs) (p := fun _ job => p job.leaId) (k := id)
    (f := f) (fun job _ => congrArg p (hf job))
  simp only [part, hjobIn]
  simp only [updateSyncJob, hjobs]

/-- A job outside the part is not updated. -/
theorem updateSyncJob_part (h : t.Holds s) {id : Uuid} (hp : p (t.job id) = false)
    (f : SyncJobRow → SyncJobRow) : (s.part p).updateSyncJob id f = s.part p := by
  have hnone : (s.part p).syncJobs.lookup id = none := by
    rw [part, Table.lookup_restrict, Option.filter_eq_none_iff]
    intro job hjob
    rw [h.jobs id job hjob, hp]
    exact Bool.false_ne_true
  rw [updateSyncJob, Table.modify, hnone]

theorem part_insertResults (s : Store) (p : LeaId → Bool) {id : Uuid}
    {vs : List ValidationResultRow} (hvs : ∀ v ∈ vs, v.syncJobId = id) :
    ({ s with syncValidationResults := s.syncValidationResults ++ vs } : Store).part p
      = if s.jobIn p id then { s.part p with
          syncValidationResults := (s.part p).syncValidationResults ++ vs } else s.part p := by
  show ({ s.part p with syncValidationResults :=
    (s.syncValidationResults ++ vs).filter (fun v => s.jobIn p v.syncJobId) } : Store) = _
  rw [List.filter_append]
  cases hjob : s.jobIn p id with
  | true =>
    have hall : vs.filter (fun v => s.jobIn p v.syncJobId) = vs :=
      List.filter_eq_self.mpr fun v hv => by rw [hvs v hv]; exact hjob
    rw [hall]
    rfl
  | false =>
    have hnone : vs.filter (fun v => s.jobIn p v.syncJobId) = [] :=
      List.filter_eq_nil_iff.mpr fun v hv => by rw [hvs v hv, hjob]; exact Bool.false_ne_true
    rw [hnone, List.append_nil]
    rfl

theorem part_insertQuarantine (s : Store) (p : LeaId → Bool) (row : QuarantineRow) :
    (s.insertQuarantine row).part p
      = if p row.leaId then (s.part p).insertQuarantine row else s.part p := by
  show ({ s.part p with
    quarantine := (s.quarantine ++ [row]).filter (fun q => p q.leaId) } : Store) = _
  rw [List.filter_append, List.filter_cons, List.filter_nil]
  cases p row.leaId with
  | true => rfl
  | false =>
    rw [if_neg (by simp), if_neg (by simp), List.append_nil]
    rfl

theorem part_ensureLeaExists (s : Store) (p : LeaId → Bool) (leaId : LeaId) :
    (ensureLeaExists s leaId).part p
      = if p leaId then ensureLeaExists (s.part p) leaId else s.part p := by
  show ({ s.part p with roster := (s.roster.ensureLeaExists leaId).part p } : Store) = _
  rw [Roster.part_ensureLeaExists]
  cases p leaId <;> rfl

theorem part_insertCursor (s : Store) (p : LeaId → Bool) (key : LeaId × String)
    (row : CursorStateRow) :
    ({ s with cursorState := s.cursorState.insert key row } : Store).part p
      = if p key.1 then
          { s.part p with cursorState := (s.part p).cursorState.insert key row } else s.part p := by
  have hinsert := Table.restrict_insert (t := s.cursorState) (p := fun key _ => p key.1)
    (k := key) (v := row) (fun _ _ => rfl)
  show ({ s.part p with
    cursorState := Table.restrict (s.cursorState.insert key row) fun key _ => p key.1 } : Store) = _
  rw [hinsert]
  cases p key.1 <;> rfl

theorem part_upsertCursorState (s : Store) (p : LeaId → Bool) (leaId : LeaId) (partner : String)
    (cursor : Cursor) (now : Instant) : (upsertCursorState s leaId partner cursor now).part p
      = if p leaId then upsertCursorState (s.part p) leaId partner cursor now else s.part p := by
  rw [upsertCursorState, part_insertCursor]
  cases hp : p leaId with
  | true =>
    rw [if_pos rfl, if_pos rfl, upsertCursorState, cursorState_part s hp]
  | false => rfl

end Store

namespace Tenancy.Holds

variable {t : Tenancy} {s : Store}

theorem empty (t : Tenancy) : t.Holds Store.empty where
  roster := ⟨fun et id row hrow => by cases et <;> exact absurd hrow (by simp [Store.empty,
    Roster.empty, Roster.canonical]), fun _ _ hrow => absurd hrow List.not_mem_nil⟩
  jobs _ _ hjob := absurd hjob (by simp [Store.empty])
  results _ hv := absurd hv List.not_mem_nil
  reverts _ ha := absurd ha List.not_mem_nil

theorem withRoster (h : t.Holds s) {r : Roster} (hr : t.Rosters r) : t.Holds (s.withRoster r) :=
  ⟨hr, h.jobs, h.results, h.reverts⟩

theorem ensureLeaExists (h : t.Holds s) (leaId : LeaId) :
    t.Holds (ensureLeaExists s leaId) :=
  h.withRoster (h.roster.ensureLeaExists leaId)

theorem insertQuarantine (h : t.Holds s) (row : QuarantineRow) : t.Holds (s.insertQuarantine row) :=
  ⟨h.roster, h.jobs, h.results, h.reverts⟩

theorem cursor (h : t.Holds s) (leaId : LeaId) (partner : String) (cursor : Cursor)
    (now : Instant) : t.Holds (upsertCursorState s leaId partner cursor now) :=
  ⟨h.roster, h.jobs, h.results, h.reverts⟩

/-- The jobs that were there still are, with LEAs that fit their ids. -/
theorem jobsKept (h : t.Holds s) {jobs : Table Uuid SyncJobRow}
    (hkept : ∀ id, (s.syncJobs.lookup id).isSome = true → (jobs.lookup id).isSome = true)
    (hjobs : ∀ id job, jobs.lookup id = some job → job.leaId = t.job id) :
    t.Holds { s with syncJobs := jobs } :=
  ⟨h.roster, hjobs, fun v hv => hkept _ (h.results v hv), fun a ha => hkept _ (h.reverts a ha)⟩

theorem insertJob (h : t.Holds s) {id : Uuid} {row : SyncJobRow} (hrow : row.leaId = t.job id) :
    t.Holds { s with syncJobs := s.syncJobs.insert id row } := by
  refine h.jobsKept (fun id' hid => ?_) fun id' job hjob => ?_
  · rw [Table.lookup_insert_eq]
    split
    · rfl
    · exact hid
  · rw [Table.lookup_insert_eq] at hjob
    split at hjob
    · next heq => rw [← Option.some.inj hjob, hrow, heq]
    · exact h.jobs id' job hjob

theorem updateSyncJob (h : t.Holds s) (id : Uuid) {f : SyncJobRow → SyncJobRow}
    (hf : ∀ job, (f job).leaId = job.leaId) : t.Holds (s.updateSyncJob id f) := by
  refine h.jobsKept (fun id' hid => ?_) fun id' job hjob => ?_
  · rw [Table.lookup_modify]
    split
    · next heq =>
      rw [Option.isSome_map, ← heq]
      exact hid
    · exact hid
  · rw [Table.lookup_modify] at hjob
    split at hjob
    · next heq =>
      obtain ⟨old, hold, rfl⟩ := Option.map_eq_some_iff.mp hjob
      rw [hf, h.jobs id old hold, heq]
    · exact h.jobs id' job hjob

theorem insertResults (h : t.Holds s) {k : Uuid} (hk : (s.syncJobs.lookup k).isSome = true)
    {vs : List ValidationResultRow} (hvs : ∀ v ∈ vs, v.syncJobId = k) :
    t.Holds { s with syncValidationResults := s.syncValidationResults ++ vs } := by
  refine ⟨h.roster, h.jobs, fun v hv => ?_, h.reverts⟩
  rcases List.mem_append.mp hv with hv | hv
  · exact h.results v hv
  · rw [hvs v hv]
    exact hk

end Tenancy.Holds

/-! ### One page -/

section

variable {t : Tenancy} {s s' : Store} {p : LeaId → Bool} {leaId : LeaId} {pg : Postgres}
  {syncJobId : Uuid} {now : Instant} {report : ValidationReport}

theorem holds_processEvent {counts : PageCounts} (h : t.Holds s) {event : NormalizedEvent}
    (howns : t.Owns leaId event) (hjob : t.job syncJobId = leaId) {next : Store × PageCounts}
    (hturn : processEvent pg leaId syncJobId now report (s, counts) event = some next) :
    t.Holds next.1 := by
  rw [processEvent] at hturn
  split at hturn
  · rw [← Option.some.inj hturn]
    exact h.insertQuarantine _
  split at hturn
  · rw [← Option.some.inj hturn]
    exact h
  · rw [Option.bind_eq_bind, Option.bind_eq_some_iff] at hturn
    obtain ⟨⟨r, changed⟩, happly, hturn⟩ := hturn
    rw [← Option.some.inj hturn]
    exact h.withRoster (h.roster.event howns hjob happly)

/-- A turn of the event loop on the part. -/
theorem part_processEvent (h : t.Holds s) {event : NormalizedEvent} (howns : t.Owns leaId event)
    (hjob : t.job syncJobId = leaId) (hp : p leaId = true) (counts : PageCounts) :
    (processEvent pg leaId syncJobId now report (s, counts) event).map (fun x => (x.1.part p, x.2))
      = processEvent pg leaId syncJobId now report (s.part p, counts) event := by
  rw [processEvent, processEvent]
  split
  · -- the quarantine row is one of the LEA
    have hrow := s.part_insertQuarantine p (quarantineRow leaId syncJobId now event)
    rw [show p (quarantineRow leaId syncJobId now event).leaId = true from hp, if_pos rfl] at hrow
    rw [Option.map_some, hrow]
  split
  · rfl
  · have happly := part_applyEvent h.roster howns hjob hp pg now
    rw [show (s.part p).roster = s.roster.part p from rfl, ← happly]
    cases applyEvent pg leaId syncJobId now s.roster event with
    | none => rfl
    | some x => rfl

/-- A turn of the event loop of another LEA. -/
theorem part_of_processEvent (h : t.Holds s) {event : NormalizedEvent} (howns : t.Owns leaId event)
    (hjob : t.job syncJobId = leaId) (hp : p leaId = false) {counts : PageCounts}
    {next : Store × PageCounts}
    (hturn : processEvent pg leaId syncJobId now report (s, counts) event = some next) :
    next.1.part p = s.part p := by
  rw [processEvent] at hturn
  split at hturn
  · rw [← Option.some.inj hturn]
    have hrow := s.part_insertQuarantine p (quarantineRow leaId syncJobId now event)
    rwa [show p (quarantineRow leaId syncJobId now event).leaId = false from hp,
      if_neg (by simp)] at hrow
  split at hturn
  · rw [← Option.some.inj hturn]
  · rw [Option.bind_eq_bind, Option.bind_eq_some_iff] at hturn
    obtain ⟨⟨r, changed⟩, happly, hturn⟩ := hturn
    rw [← Option.some.inj hturn]
    show ({ s.part p with roster := r.part p } : Store) = _
    rw [part_of_applyEvent h.roster howns hjob hp happly]
    rfl

/-! #### The event loop -/

theorem holds_processEvents (h : t.Holds s) (hjob : t.job syncJobId = leaId)
    {events : List NormalizedEvent} (howns : ∀ event ∈ events, t.Owns leaId event)
    {next : Store × PageCounts}
    (hloop : processEvents pg leaId syncJobId now report events s = some next) :
    t.Holds next.1 :=
  Runs.foldlM_invariant (I := fun x : Store × PageCounts => t.Holds x.1)
    (fun event hevent _ _ hx hturn => holds_processEvent hx (howns event hevent) hjob hturn) h hloop

variable (pg now report) in
theorem part_processEvents (h : t.Holds s) (hjob : t.job syncJobId = leaId)
    {events : List NormalizedEvent} (howns : ∀ event ∈ events, t.Owns leaId event)
    (hp : p leaId = true) :
    (processEvents pg leaId syncJobId now report events s).map (fun x => (x.1.part p, x.2))
      = processEvents pg leaId syncJobId now report events (s.part p) :=
  Noninterference.foldlM_project (I := fun x : Store × PageCounts => t.Holds x.1)
    (fun event hevent _ _ hx hturn => holds_processEvent hx (howns event hevent) hjob hturn)
    (fun event hevent x hx => part_processEvent hx (howns event hevent) hjob hp x.2) h

theorem part_of_processEvents (h : t.Holds s) (hjob : t.job syncJobId = leaId)
    {events : List NormalizedEvent} (howns : ∀ event ∈ events, t.Owns leaId event)
    (hp : p leaId = false) {next : Store × PageCounts}
    (hloop : processEvents pg leaId syncJobId now report events s = some next) :
    next.1.part p = s.part p := by
  have hboth := Runs.foldlM_invariant
    (I := fun x : Store × PageCounts => t.Holds x.1 ∧ x.1.part p = s.part p)
    (fun event hevent _ _ hx hturn => ⟨holds_processEvent hx.1 (howns event hevent) hjob hturn,
      (part_of_processEvent hx.1 (howns event hevent) hjob hp hturn).trans hx.2⟩) ⟨h, rfl⟩ hloop
  exact hboth.2

end

namespace PageRun

variable {t : Tenancy} {run : PageRun} {s s' : Store} {p : LeaId → Bool}

/-- The store with the job of the page and its validation results. -/
def opened (run : PageRun) (s : Store) : Store :=
  persistValidationIssues { s with syncJobs := s.syncJobs.insert run.syncJobId (run.runningJob s) }
    run.syncJobId (run.report s) run.now

theorem start_of_fresh (hfresh : s.syncJobs.lookup run.syncJobId = none) :
    run.start s = some (run.opened s) := by
  rw [start, Store.insertSyncJob, if_pos hfresh]
  rfl

theorem report_part (h : t.Holds s) (hp : p run.leaId = true) :
    run.report (s.part p) = run.report s := by
  rw [report, report, Store.leaState_part h hp]

theorem runningJob_part (s : Store) (hp : p run.leaId = true) :
    run.runningJob (s.part p) = run.runningJob s := by
  rw [runningJob, runningJob, Store.readCursor_part s hp]

/-- What the page has to be for the ids to be those of its LEA. -/
structure Owned (t : Tenancy) (run : PageRun) : Prop where
  job : t.job run.syncJobId = run.leaId
  events : ∀ event ∈ run.page.events, t.Owns run.leaId event

theorem holds_opened (h : t.Holds s) (howned : run.Owned t) : t.Holds (run.opened s) := by
  have hjob : t.Holds { s with
      syncJobs := s.syncJobs.insert run.syncJobId (run.runningJob s) } :=
    h.insertJob howned.job.symm
  refine hjob.insertResults (k := run.syncJobId) ?_ fun v hv => ?_
  · rw [Table.lookup_insert_eq, if_pos rfl]
    rfl
  · obtain ⟨i, -, rfl⟩ := List.mem_map.mp hv
    rfl

theorem part_opened (h : t.Holds s) (hfresh : s.syncJobs.lookup run.syncJobId = none) :
    (run.opened s).part p = if p run.leaId then run.opened (s.part p) else s.part p := by
  have hinsert := Store.part_insertJob h hfresh (run.runningJob s) p
  have hin : ({ s with syncJobs := s.syncJobs.insert run.syncJobId (run.runningJob s) } :
      Store).jobIn p run.syncJobId = p run.leaId := by
    rw [Store.jobIn, Table.lookup_insert_eq, if_pos rfl]
    rfl
  have hresults : ∀ v ∈ (run.report s).issues.map (fun i =>
      ({ syncJobId := run.syncJobId, layer := i.layer, code := i.code, payloadReference := i.eventId
         detail := i.detail ++ [("severity", .text (some i.severity.value))]
         createdAt := run.now } : ValidationResultRow)), v.syncJobId = run.syncJobId := by
    intro v hv
    obtain ⟨i, -, rfl⟩ := List.mem_map.mp hv
    rfl
  rw [show (run.runningJob s).leaId = run.leaId from rfl] at hinsert
  rw [opened, persistValidationIssues, Store.part_insertResults _ _ hresults, hin, hinsert]
  cases hp : p run.leaId with
  | true =>
    rw [opened, runningJob_part s hp, report_part h hp]
    rfl
  | false => rfl

/-! #### The end of a page -/

theorem holds_fail (h : t.Holds s) (report : ValidationReport) : t.Holds (run.fail report s) :=
  h.updateSyncJob _ fun _ => rfl

theorem holds_finish (h : t.Holds s) (report : ValidationReport) (applied : Nat) :
    t.Holds (run.finish report applied s) := by
  refine Tenancy.Holds.cursor (h.updateSyncJob run.syncJobId ?_) _ _ _ _
  intro job
  rfl

theorem part_fail (run : PageRun) (report : ValidationReport) (s : Store) (p : LeaId → Bool) :
    (run.fail report s).part p = run.fail report (s.part p) :=
  Store.part_updateSyncJob _ _ _ fun _ => rfl

theorem part_finish (run : PageRun) (report : ValidationReport) (applied : Nat) (s : Store)
    (hp : p run.leaId = true) :
    (run.finish report applied s).part p = run.finish report applied (s.part p) := by
  rw [finish, finish, Store.part_upsertCursorState, hp, if_pos rfl, Store.part_updateSyncJob]
  intro job
  rfl

theorem part_of_fail (h : t.Holds s) (howned : run.Owned t) (hp : p run.leaId = false)
    (report : ValidationReport) : (run.fail report s).part p = s.part p := by
  rw [part_fail]
  exact Store.updateSyncJob_part h (by rw [howned.job]; exact hp) _

theorem part_of_finish (h : t.Holds s) (howned : run.Owned t) (hp : p run.leaId = false)
    (report : ValidationReport) (applied : Nat) :
    (run.finish report applied s).part p = s.part p := by
  rw [finish, Store.part_upsertCursorState, hp, if_neg (by simp), Store.part_updateSyncJob]
  · exact Store.updateSyncJob_part h (by rw [howned.job]; exact hp) _
  · intro job
    rfl

end PageRun

section

variable {t : Tenancy} {run : PageRun} {s s' : Store} {p : LeaId → Bool} {pg : Postgres}
  {outcome : PageOutcome}

theorem holds_processOnePage (h : t.Holds s) (howned : run.Owned t)
    (hpage : processOnePage pg run s = some (s', outcome)) : t.Holds s' := by
  simp only [processOnePage, Option.bind_eq_bind, Option.bind_eq_some_iff] at hpage
  obtain ⟨started, hstart, hpage⟩ := hpage
  rw [PageRun.start_of_fresh (PageRun.start_eq_some hstart).1] at hstart
  have hopened : t.Holds started := Option.some.inj hstart ▸ PageRun.holds_opened h howned
  split at hpage
  · obtain ⟨rfl, -⟩ := Prod.mk.inj (Option.some.inj hpage)
    exact PageRun.holds_fail hopened _
  · obtain ⟨⟨s₁, counts⟩, hloop, hpage⟩ := Option.bind_eq_some_iff.mp hpage
    obtain ⟨rfl, -⟩ := Prod.mk.inj (Option.some.inj hpage)
    have hdone : t.Holds s₁ :=
      holds_processEvents (hopened.ensureLeaExists _) howned.job howned.events hloop
    exact PageRun.holds_finish hdone _ _

/-- A page of the part. -/
theorem part_processOnePage (h : t.Holds s) (howned : run.Owned t) (hp : p run.leaId = true)
    (pg : Postgres) :
    (processOnePage pg run s).map (fun x => (x.1.part p, x.2))
      = processOnePage pg run (s.part p) := by
  have hreport := PageRun.report_part h hp
  cases hjob : s.syncJobs.lookup run.syncJobId with
  | some job =>
    -- the id of the job is taken, by a job of the part
    have hpart : (s.part p).syncJobs.lookup run.syncJobId = some job := by
      rw [Store.part, Table.lookup_restrict, hjob, Option.filter_some,
        h.jobs _ _ hjob, howned.job, hp]
      rfl
    simp [processOnePage, PageRun.start, Store.insertSyncJob, hjob, hpart]
  | none =>
    have hpart : (s.part p).syncJobs.lookup run.syncJobId = none := by
      rw [Store.part, Table.lookup_restrict, hjob]
      rfl
    have hopened := PageRun.part_opened (p := p) h hjob
    rw [hp, if_pos rfl] at hopened
    rw [processOnePage, processOnePage, PageRun.start_of_fresh hjob,
      PageRun.start_of_fresh hpart, hreport]
    simp only [Option.bind_eq_bind, Option.bind_some]
    split
    · -- a blocked page
      rw [Option.map_some, PageRun.part_fail, hopened, PageRun.failedOutcome,
        PageRun.failedOutcome, hreport, Store.readCursor_part s hp]
    · have hlea := (run.opened s).part_ensureLeaExists p run.leaId
      rw [hp, if_pos rfl, hopened] at hlea
      have hloop := part_processEvents pg run.now (run.report s)
        ((PageRun.holds_opened h howned).ensureLeaExists run.leaId) howned.job howned.events hp
      rw [hlea] at hloop
      rw [← hloop]
      cases processEvents pg run.leaId run.syncJobId run.now (run.report s) run.page.events
        (ensureLeaExists (run.opened s) run.leaId) with
      | none => rfl
      | some x =>
        simp only [Option.bind_some, Option.map_some, PageRun.part_finish run _ _ _ hp,
          PageRun.successOutcome, hreport, Store.readCursor_part s hp]

/-- A page of another LEA. -/
theorem part_of_processOnePage (h : t.Holds s) (howned : run.Owned t) (hp : p run.leaId = false)
    (hpage : processOnePage pg run s = some (s', outcome)) : s'.part p = s.part p := by
  simp only [processOnePage, Option.bind_eq_bind, Option.bind_eq_some_iff] at hpage
  obtain ⟨started, hstart, hpage⟩ := hpage
  have hfresh := (PageRun.start_eq_some hstart).1
  rw [PageRun.start_of_fresh hfresh] at hstart
  obtain rfl := Option.some.inj hstart
  have hopened := PageRun.part_opened (p := p) h hfresh
  rw [hp, if_neg (by simp)] at hopened
  have hholds := PageRun.holds_opened h howned
  split at hpage
  · obtain ⟨rfl, -⟩ := Prod.mk.inj (Option.some.inj hpage)
    exact (PageRun.part_of_fail hholds howned hp _).trans hopened
  · obtain ⟨⟨s₁, counts⟩, hloop, hpage⟩ := Option.bind_eq_some_iff.mp hpage
    obtain ⟨rfl, -⟩ := Prod.mk.inj (Option.some.inj hpage)
    have hhoused := hholds.ensureLeaExists run.leaId
    have hlea := (run.opened s).part_ensureLeaExists p run.leaId
    rw [hp, if_neg (by simp)] at hlea
    have hdone : t.Holds s₁ := holds_processEvents hhoused howned.job howned.events hloop
    have hevents : s₁.part p = _ := part_of_processEvents hhoused howned.job howned.events hp hloop
    calc _ = s₁.part p := PageRun.part_of_finish hdone howned hp _ _
      _ = _ := hevents.trans (hlea.trans hopened)

end

/-! ### One poll -/

theorem leaId_of_personToStudent {data : Dict} {leaId : LeaId} {student : Student}
    (h : personToStudent data leaId = some (some student)) : student.leaId = leaId := by
  simp only [personToStudent, Option.bind_eq_bind, Option.bind_eq_some_iff] at h
  obtain ⟨isStudent, -, h⟩ := h
  split at h
  · simp only [Option.bind_eq_some_iff, Option.some.injEq] at h
    obtain ⟨_, -, _, -, _, -, _, -, rfl⟩ := h
    rfl
  · exact absurd h (by simp)

theorem leaId_of_enrollmentToCanonical {data : Dict} {leaId : LeaId} {enrollment : Enrollment}
    (h : enrollmentToCanonical data leaId = some enrollment) : enrollment.leaId = leaId := by
  simp only [enrollmentToCanonical, Option.bind_eq_bind, Option.bind_eq_some_iff,
    Option.some.injEq] at h
  obtain ⟨_, -, _, -, _, -, _, -, _, -, rfl⟩ := h
  rfl

/-- The connector stamps the LEA it fetches for on every entity. -/
theorem owner_of_mem_mapped {leaId : LeaId} {log : List EdLinkEvent} {event : NormalizedEvent}
    (h : event ∈ mapped leaId log) {pg : Postgres} {now : Instant} {row : CanonicalRow}
    (hrow : event.canonicalRow pg now = some row) : row.owner event.naturalKey = leaId := by
  obtain ⟨raw, -, hraw⟩ := mem_mapped.mp h
  obtain ⟨_, -, ⟨-, student, hstudent, rfl⟩ | ⟨-, enrollment, henrollment, rfl⟩⟩ :=
    normalize_eq_some hraw
  · rw [← Option.some.inj hrow]
    exact leaId_of_personToStudent hstudent
  · simp only [NormalizedEvent.canonicalRow, EdLinkEvent.envelope, Option.bind_eq_bind,
      Option.bind_eq_some_iff, Option.some.injEq] at hrow
    obtain ⟨_, -, _, -, rfl⟩ := hrow
    exact leaId_of_enrollmentToCanonical henrollment

namespace Poll

/-- The job of the poll and the entities of its log are the LEA's. -/
structure Owned (t : Tenancy) (leaId : LeaId) (poll : Poll) : Prop where
  job : t.job poll.syncJobId = leaId
  events : ∀ event ∈ mapped leaId poll.log,
    t.entity event.entityType event.naturalKey = leaId

variable {t : Tenancy} {leaId : LeaId} {poll : Poll} {s : Store} {p : LeaId → Bool}

theorem Owned.pageRun (h : poll.Owned t leaId) {page : EventPage}
    (hpage : poll.page leaId s = some page) : (poll.pageRun leaId page).Owned t := by
  refine ⟨h.job, fun event hevent => ?_⟩
  have hmapped : event ∈ mapped leaId poll.log := by
    obtain ⟨-, hevents, -⟩ := fetchChanges_eq_some hpage
    rw [show (poll.pageRun leaId page).page.events = page.events from rfl, hevents] at hevent
    obtain ⟨raw, hraw, hnormal⟩ := mem_mapped.mp hevent
    exact mem_mapped.mpr ⟨raw, List.mem_of_mem_drop (List.mem_of_mem_take hraw), hnormal⟩
  exact ⟨entityType_of_mem_mapped hmapped, h.events event hmapped,
    fun _ _ _ hrow => owner_of_mem_mapped hmapped hrow⟩

theorem page_part (poll : Poll) (s : Store) (hp : p leaId = true) :
    poll.page leaId (s.part p) = poll.page leaId s := by
  rw [page, page, cursor, cursor, Store.readCursor_part s hp]

theorem holds_exec (h : t.Holds s) (howned : poll.Owned t leaId) (pg : Postgres) :
    t.Holds (poll.exec pg leaId s).1 := by
  rw [exec]
  split
  · exact h
  next page hpage =>
  split
  · split
    · exact h
    · next hcommit => exact holds_processOnePage h (howned.pageRun hpage) hcommit
  · exact h

/-- A poll for an LEA of the part. -/
theorem part_exec (h : t.Holds s) (howned : poll.Owned t leaId) (hp : p leaId = true)
    (pg : Postgres) : poll.exec pg leaId (s.part p)
      = ((poll.exec pg leaId s).1.part p, (poll.exec pg leaId s).2) := by
  rw [exec, exec, page_part poll s hp]
  cases hpage : poll.page leaId s with
  | none => rfl
  | some page =>
    have hone := part_processOnePage h (howned.pageRun hpage) hp pg
    dsimp only
    rw [← hone]
    split
    · cases processOnePage pg (poll.pageRun leaId page) s <;> rfl
    · rfl

/-- A poll for another LEA. -/
theorem part_of_exec (h : t.Holds s) (howned : poll.Owned t leaId) (hp : p leaId = false)
    (pg : Postgres) : (poll.exec pg leaId s).1.part p = s.part p := by
  rw [exec]
  split
  · rfl
  next page hpage =>
  split
  · split
    · rfl
    · next hcommit => exact part_of_processOnePage h (howned.pageRun hpage) hp hcommit
  · rfl

end Poll

/-! ### Several drains -/

/-- The drains of the LEAs: the turns each may still take, and what each has returned. -/
structure Drains where
  store : Store
  turns : LeaId → List Poll
  outcomes : LeaId → List PageOutcome

namespace Drains

/-- Drains that have not taken a turn yet. -/
def start (s : Store) (polls : LeaId → List Poll) : Drains where
  store := s
  turns := polls
  outcomes _ := []

/-- The next turn of the page loop of an LEA. -/
def turn (pg : Postgres) (d : Drains) (leaId : LeaId) : Drains :=
  match d.turns leaId with
  | [] => d
  | poll :: polls =>
    match poll.exec pg leaId d.store with
    | (s', none) => { d with store := s', turns := Function.update d.turns leaId [] }
    | (s', some outcome) =>
      { store := s'
        turns := Function.update d.turns leaId
          (if !outcome.hasMore || outcome.status ≠ .success then [] else polls)
        outcomes := Function.update d.outcomes leaId (d.outcomes leaId ++ [outcome]) }

/-- The drains of some LEAs, on what those have. -/
def part (d : Drains) (p : LeaId → Bool) : Drains where
  store := d.store.part p
  turns leaId := if p leaId then d.turns leaId else []
  outcomes leaId := if p leaId then d.outcomes leaId else []

structure Owned (t : Tenancy) (d : Drains) : Prop where
  store : t.Holds d.store
  turns : ∀ leaId, ∀ poll ∈ d.turns leaId, poll.Owned t leaId

variable {t : Tenancy} {d : Drains} {leaId : LeaId} {p : LeaId → Bool} {pg : Postgres}

theorem Owned.turn (h : d.Owned t) (pg : Postgres) (leaId : LeaId) : (d.turn pg leaId).Owned t := by
  have hrest : ∀ rest, (∀ poll ∈ rest, poll ∈ d.turns leaId) → ∀ l,
      ∀ poll ∈ Function.update d.turns leaId rest l, poll.Owned t l := by
    intro rest hrest l poll hpoll
    by_cases hl : l = leaId
    · subst hl
      rw [Function.update_self] at hpoll
      exact h.turns l poll (hrest poll hpoll)
    · rw [Function.update_of_ne hl] at hpoll
      exact h.turns l poll hpoll
  rw [Drains.turn]
  split
  · exact h
  next poll polls hturns =>
  have hpoll := Poll.holds_exec h.store (h.turns leaId poll (hturns ▸ List.mem_cons_self)) pg
  split
  · next s' hexec =>
    rw [hexec] at hpoll
    exact ⟨hpoll, hrest [] fun _ hmem => absurd hmem List.not_mem_nil⟩
  · next s' outcome hexec =>
    rw [hexec] at hpoll
    refine ⟨hpoll, hrest _ fun poll' hmem => ?_⟩
    rw [hturns]
    split at hmem
    · exact absurd hmem List.not_mem_nil
    · exact List.mem_cons_of_mem _ hmem

theorem part_update {α : Type} (f : LeaId → List α) (leaId : LeaId) (v : List α)
    (p : LeaId → Bool) : (fun l => if p l then Function.update f leaId v l else [])
      = if p leaId then Function.update (fun l => if p l then f l else []) leaId v
        else fun l => if p l then f l else [] := by
  cases hp : p leaId with
  | true =>
    rw [if_pos rfl]
    funext l
    by_cases hl : l = leaId
    · rw [hl, Function.update_self, Function.update_self, hp, if_pos rfl]
    · rw [Function.update_of_ne hl, Function.update_of_ne hl]
  | false =>
    rw [if_neg (by simp)]
    funext l
    by_cases hl : l = leaId
    · rw [hl, hp, if_neg (by simp), if_neg (by simp)]
    · rw [Function.update_of_ne hl]

/-- A turn of an LEA of the part. -/
theorem part_turn (h : d.Owned t) (hp : p leaId = true) (pg : Postgres) :
    (d.turn pg leaId).part p = (d.part p).turn pg leaId := by
  have hsame : (d.part p).turns leaId = d.turns leaId := if_pos hp
  have hturns := fun v => part_update d.turns leaId v p
  have houtcomes := fun v => part_update d.outcomes leaId v p
  simp only [hp, if_true] at hturns houtcomes
  rw [turn, turn, hsame]
  cases hpolls : d.turns leaId with
  | nil => rfl
  | cons poll polls =>
    have howned := h.turns leaId poll (hpolls ▸ List.mem_cons_self)
    have hexec := Poll.part_exec h.store howned hp pg
    dsimp only
    rw [show (d.part p).store = d.store.part p from rfl, hexec]
    cases hone : (poll.exec pg leaId d.store).2 with
    | none =>
      rw [show poll.exec pg leaId d.store = (_, none) from Prod.ext rfl hone]
      simp only [part, hturns]
    | some outcome =>
      rw [show poll.exec pg leaId d.store = (_, some outcome) from Prod.ext rfl hone]
      simp only [part, hturns, houtcomes, hp, if_true]

/-- A turn of another LEA. -/
theorem part_of_turn (h : d.Owned t) (hp : p leaId = false) (pg : Postgres) :
    (d.turn pg leaId).part p = d.part p := by
  have hturns := fun v => part_update d.turns leaId v p
  have houtcomes := fun v => part_update d.outcomes leaId v p
  simp only [hp, Bool.false_eq_true, if_false] at hturns houtcomes
  rw [turn]
  split
  · rfl
  next poll polls hpolls =>
  have hexec := Poll.part_of_exec h.store (h.turns leaId poll (hpolls ▸ List.mem_cons_self)) hp pg
  split
  · next s' hone =>
    rw [hone] at hexec
    simp only [part, hturns]
    rw [hexec]
  · next s' outcome hone =>
    rw [hone] at hexec
    simp only [part, hturns, houtcomes]
    rw [hexec]

/-- An LEA that has the store to itself. -/
theorem run_alone (pg : Postgres) (leaId : LeaId) (n : Nat) (d : Drains) :
    let alone := Runs.run (turn pg) d (List.replicate n leaId)
    let drained := drainLea pg leaId ((d.turns leaId).take n) d.store
    alone.store = drained.1 ∧ alone.outcomes leaId = d.outcomes leaId ++ drained.2 := by
  induction n generalizing d with
  | zero => exact ⟨rfl, (List.append_nil _).symm⟩
  | succ n ih =>
    obtain ⟨hstore, houtcomes⟩ := ih (d.turn pg leaId)
    have hrun : Runs.run (turn pg) d (List.replicate (n + 1) leaId)
        = Runs.run (turn pg) (d.turn pg leaId) (List.replicate n leaId) := rfl
    cases hpolls : d.turns leaId with
    | nil =>
      have hsame : d.turn pg leaId = d := by rw [turn, hpolls]
      rw [hsame, hpolls, List.take_nil] at hstore houtcomes
      dsimp only
      rw [hrun, hsame, List.take_nil]
      exact ⟨hstore, houtcomes⟩
    | cons poll polls =>
      dsimp only
      rw [hrun, hstore, houtcomes, List.take_succ_cons, drainLea, turn, hpolls]
      dsimp only
      rcases hexec : poll.exec pg leaId d.store with ⟨s', _ | outcome⟩
      · -- the poll raised
        dsimp only
        rw [Function.update_self, List.take_nil]
        exact ⟨rfl, rfl⟩
      · dsimp only
        rw [Function.update_self, Function.update_self]
        cases hstop : !outcome.hasMore || decide (outcome.status ≠ .success) with
        | true =>
          rw [if_pos rfl, if_pos rfl, List.take_nil]
          exact ⟨rfl, List.append_nil _⟩
        | false =>
          rw [if_neg (by simp), if_neg (by simp)]
          exact ⟨rfl, List.append_assoc _ _ _⟩

end Drains

/-- The drains of some LEAs take their own turns. -/
theorem Drains.part_run {t : Tenancy} {d : Drains} (h : d.Owned t) (pg : Postgres)
    (schedule : List LeaId) (p : LeaId → Bool) :
    (Runs.run (turn pg) d schedule).part p = Runs.run (turn pg) (d.part p) (schedule.filter p) :=
  Noninterference.run_project (I := fun d : Drains => d.Owned t) (π := fun d => d.part p)
    (fun _ leaId hd => hd.turn pg leaId) (fun _ _ hd hp => part_turn hd hp pg)
    (fun _ _ hd hp => part_of_turn hd hp pg) h schedule

/-- What one LEA has in the database. -/
def Store.tenant (s : Store) (leaId : LeaId) : Store := s.part fun l => l = leaId

/-- **Drains do not interfere.**  However the turns of the drains are interleaved, what an LEA
has in the database, and what its drain returned, is what the drain makes, in as many turns,
of what the LEA had at the start.  No job and no entity may be named by the drains of two
LEAs. -/
theorem drains_alone (pg : Postgres) (t : Tenancy) (start : Store) (polls : LeaId → List Poll)
    (schedule : List LeaId) (leaId : LeaId) (hstart : t.Holds start)
    (hpolls : ∀ l, ∀ poll ∈ polls l, poll.Owned t l) :
    let d := Runs.run (Drains.turn pg) (Drains.start start polls) schedule
    (d.store.tenant leaId, d.outcomes leaId)
      = drainLea pg leaId ((polls leaId).take (schedule.count leaId)) (start.tenant leaId) := by
  intro d
  have hpart : d.part (fun l => l = leaId) = Runs.run (Drains.turn pg)
      ((Drains.start start polls).part fun l => l = leaId) (schedule.filter fun l => l = leaId) :=
    Drains.part_run ⟨hstart, hpolls⟩ pg schedule _
  rw [List.filter_eq] at hpart
  obtain ⟨hstore, houtcomes⟩ := Drains.run_alone pg leaId (schedule.count leaId)
    ((Drains.start start polls).part fun l => l = leaId)
  rw [← hpart] at hstore houtcomes
  have hturns : ((Drains.start start polls).part fun l => l = leaId).turns leaId = polls leaId :=
    if_pos (decide_eq_true rfl)
  have hnone : ((Drains.start start polls).part fun l => l = leaId).outcomes leaId = [] :=
    if_pos (decide_eq_true rfl)
  have hmine : (d.part fun l => l = leaId).outcomes leaId = d.outcomes leaId :=
    if_pos (decide_eq_true rfl)
  rw [hturns] at hstore houtcomes
  rw [hnone, hmine, List.nil_append] at houtcomes
  exact Prod.ext hstore houtcomes

namespace Tenants

/-- The students and the jobs of two LEAs. -/
def twoLeas : Tenancy where
  job id := if id = "job-1" then "L1" else "L2"
  student id := if id = "s1" then "L1" else "L2"
  enrollment _ := "L2"

def onePage (syncJobId : Uuid) (studentId : StudentId) : List Poll :=
  [{ log := [PageBoundaries.person "evt_1" "person.created" studentId], pageSize := 1
     syncJobId := syncJobId, now := 1 }]

def sideBySide (leaId : LeaId) : List Poll :=
  if leaId = "L1" then onePage "job-1" "s1"
  else if leaId = "L2" then onePage "job-2" "s2" else []

end Tenants

open Tenants in
theorem drains_alone_sideBySide :
    let d := Runs.run (Drains.turn .reference) (Drains.start Store.empty sideBySide) ["L2", "L1"]
    (d.store.tenant "L1", d.outcomes "L1")
      = drainLea .reference "L1" (sideBySide "L1") (Store.empty.tenant "L1") := by
  refine drains_alone .reference twoLeas Store.empty sideBySide ["L2", "L1"] "L1"
    (Tenancy.Holds.empty twoLeas) fun l poll hpoll => ?_
  rw [sideBySide] at hpoll
  split at hpoll
  · next hl =>
    obtain rfl := List.mem_singleton.mp hpoll
    subst hl
    exact ⟨rfl, by decide +kernel⟩
  split at hpoll
  · next hl =>
    obtain rfl := List.mem_singleton.mp hpoll
    subst hl
    exact ⟨rfl, by decide +kernel⟩
  · exact absurd hpoll List.not_mem_nil
