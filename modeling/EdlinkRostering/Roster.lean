/-
The roster: the canonical tables and the snapshot tables.

`Roster` is the part of the database a revert rewinds: `leas`, `students`,
`enrollments` and their three snapshot tables.  The services address the
canonical tables by entity type and id alone, so a row of any of them is a
`CanonicalRow` and `Roster.canonical` reads all three.  A write that the schema
refuses (a foreign key, the length of `leas.state`) is `none`: the statement
raises and its transaction is rolled back.

* `Roster.upsert_eq_some` — what an accepted canonical write is;
* `Roster.canonical_setCanonical` — and what it does to every canonical row;
* `Roster.latestLiveSourceEventId` — the replay high-water mark.
-/
import EdlinkRostering.Table
import EdlinkRostering.Postgres

/-! ### Canonical rows -/

structure LeaRow where
  name : String
  leaType : String
  state : String
  ncesLeaId : Option String := none
  deletedAt : Option Instant := none
deriving DecidableEq

structure StudentRow where
  leaId : LeaId
  givenName : String
  familyName : String
  grade : Option String
  preferredFirstName : Option String
  primarySchoolId : Option String
  externalIds : Json
  deletedAt : Option Instant := none
deriving DecidableEq

structure EnrollmentRow where
  leaId : LeaId
  studentId : StudentId
  classId : String
  beginDate : Date
  endDate : Option Date
  deletedAt : Option Instant := none
deriving DecidableEq

/-- A row of the canonical table of some entity type. -/
inductive CanonicalRow where
  | lea (row : LeaRow)
  | student (row : StudentRow)
  | enrollment (row : EnrollmentRow)
deriving DecidableEq

namespace CanonicalRow

def entityType : CanonicalRow → EntityType
  | .lea _ => .lea
  | .student _ => .student
  | .enrollment _ => .enrollment

def deletedAt : CanonicalRow → Option Instant
  | .lea row => row.deletedAt
  | .student row => row.deletedAt
  | .enrollment row => row.deletedAt

/-- `SET deleted_at = …`. -/
def withDeletedAt (instant : Option Instant) : CanonicalRow → CanonicalRow
  | .lea row => .lea { row with deletedAt := instant }
  | .student row => .student { row with deletedAt := instant }
  | .enrollment row => .enrollment { row with deletedAt := instant }

/-- The LEA a canonical row belongs to: its `lea_id`, or its id in `leas`. -/
def owner (id : String) : CanonicalRow → LeaId
  | .lea _ => id
  | .student row => row.leaId
  | .enrollment row => row.leaId

@[simp] theorem entityType_withDeletedAt (row : CanonicalRow) (instant : Option Instant) :
    (row.withDeletedAt instant).entityType = row.entityType := by
  cases row <;> rfl

@[simp] theorem deletedAt_withDeletedAt (row : CanonicalRow) (instant : Option Instant) :
    (row.withDeletedAt instant).deletedAt = instant := by
  cases row <;> rfl

@[simp] theorem owner_withDeletedAt (row : CanonicalRow) (instant : Option Instant)
    (id : String) : (row.withDeletedAt instant).owner id = row.owner id := by
  cases row <;> rfl

@[simp] theorem withDeletedAt_withDeletedAt (row : CanonicalRow) (i j : Option Instant) :
    (row.withDeletedAt i).withDeletedAt j = row.withDeletedAt j := by
  cases row <;> rfl

end CanonicalRow

/-- The canonical tables and the snapshot tables. -/
structure Roster where
  leas : Table LeaId LeaRow
  students : Table StudentId StudentRow
  enrollments : Table EnrollmentId EnrollmentRow
  snapshots : EntityType → SnapshotTable
  leaKeyed : (snapshots .lea).Keyed

namespace Roster

def empty : Roster where
  leas := ∅
  students := ∅
  enrollments := ∅
  snapshots _ := SnapshotTable.empty
  leaKeyed _ h := absurd h List.not_mem_nil

/-! ### The canonical tables -/

/-- `SELECT … WHERE id` on the canonical table of an entity type. -/
def canonical (r : Roster) : EntityType → String → Option CanonicalRow
  | .lea, id => (r.leas.lookup id).map .lea
  | .student, id => (r.students.lookup id).map .student
  | .enrollment, id => (r.enrollments.lookup id).map .enrollment

/-- `SELECT 1 FROM students WHERE lea_id AND id`. -/
def studentExists (r : Roster) (leaId : LeaId) (studentId : StudentId) : Bool :=
  (r.students.lookup studentId).any fun row => row.leaId = leaId

/-- Moving the student to `leaId` would leave an enrollment without its student
(`fk_enrollments_lea_student`). -/
def strands (r : Roster) (studentId : StudentId) (leaId : LeaId) : Bool :=
  (r.students.lookup studentId).any fun old => old.leaId ≠ leaId &&
    (Table.rows r.enrollments).any fun e => e.2.leaId = old.leaId && e.2.studentId = studentId

/-- The constraints a canonical row has to meet: `leas.state` is a `VARCHAR(2)`,
the LEA of a student or enrollment exists, and an enrollment's student exists in
that LEA. -/
def admits (r : Roster) (id : String) : CanonicalRow → Bool
  | .lea row => row.state.length ≤ 2
  | .student row => (r.leas.lookup row.leaId).isSome && !r.strands id row.leaId
  | .enrollment row => (r.leas.lookup row.leaId).isSome && r.studentExists row.leaId row.studentId

@[simp] theorem admits_withDeletedAt (r : Roster) (id : String) (row : CanonicalRow)
    (instant : Option Instant) : r.admits id (row.withDeletedAt instant) = r.admits id row := by
  cases row <;> rfl

/-- The row under an id, whatever was there. -/
def setCanonical (r : Roster) (id : String) : CanonicalRow → Roster
  | .lea row => { r with leas := r.leas.insert id row }
  | .student row => { r with students := r.students.insert id row }
  | .enrollment row => { r with enrollments := r.enrollments.insert id row }

/-- `INSERT … ON CONFLICT (id) DO UPDATE` of a whole canonical row. -/
def upsert (r : Roster) (id : String) (row : CanonicalRow) : Option Roster :=
  if r.admits id row then some (r.setCanonical id row) else none

/-- `UPDATE … SET … WHERE id` of every column. -/
def update (r : Roster) (id : String) (row : CanonicalRow) : Option Roster :=
  match r.canonical row.entityType id with
  | none => some r
  | some _ => r.upsert id row

/-- `UPDATE … SET deleted_at WHERE id`. -/
def softDelete (r : Roster) (entityType : EntityType) (id : String) (deletedAt : Instant) :
    Roster :=
  match r.canonical entityType id with
  | none => r
  | some row => r.setCanonical id (row.withDeletedAt (some deletedAt))

/-- The placeholder row of an LEA nobody onboarded. -/
def placeholderLea (leaId : LeaId) : LeaRow where
  name := "LEA " ++ leaId
  leaType := LeaType.traditionalDistrict.value
  state := "XX"

/-- `INSERT INTO leas … ON CONFLICT (id) DO NOTHING`. -/
def ensureLeaExists (r : Roster) (leaId : LeaId) : Roster :=
  match r.leas.lookup leaId with
  | some _ => r
  | none => r.setCanonical leaId (.lea (placeholderLea leaId))

/-! ### The snapshot tables -/

/-- The effect of a statement on one snapshot table. -/
def modifySnapshots (r : Roster) (entityType : EntityType) (f : SnapshotTable → SnapshotTable)
    (hf : entityType = .lea → ∀ t : SnapshotTable, t.Keyed → (f t).Keyed) : Roster :=
  { r with
    snapshots := Function.update r.snapshots entityType (f (r.snapshots entityType))
    leaKeyed := by
      by_cases h : entityType = .lea
      · subst h
        simpa using hf rfl _ r.leaKeyed
      · rw [Function.update_of_ne (Ne.symm h)]
        exact r.leaKeyed }

/-- The live rows of a natural key. -/
def live (r : Roster) (entityType : EntityType) (leaId : LeaId) (naturalKey : String) :
    List SnapshotRow :=
  (r.snapshots entityType).live leaId naturalKey

/-- `UPDATE … SET superseded_by_generation_id … WHERE lea_id AND {key_col} AND
superseded_by_generation_id IS NULL`. -/
def supersede (r : Roster) (entityType : EntityType) (leaId : LeaId) (naturalKey : String)
    (generation : Uuid) (instant : Instant) : Roster :=
  r.modifySnapshots entityType
    (fun t => t.mark (fun row => row.liveAt leaId naturalKey) (some generation) (some instant))
    fun _ _ h => h.mark _ _ _

/-- `INSERT` into the snapshot table of an entity type. -/
def insertSnapshot (r : Roster) (entityType : EntityType) (row : SnapshotRow) : Roster :=
  r.modifySnapshots entityType (fun t => t.insert (row.stored entityType)) fun hlea _ h =>
    h.insert (by rw [SnapshotRow.stored_leaId, if_pos hlea, SnapshotRow.stored_naturalKey])

/-- `_latest_live_source_event_id`: the source event id of the live snapshot, if
it has one. -/
def latestLiveSourceEventId (r : Roster) (pg : Postgres) (entityType : EntityType)
    (leaId : LeaId) (naturalKey : String) : Option String :=
  (pg.top (r.live entityType leaId naturalKey)).bind (·.sourceEventId)

/-! ### What the canonical writes do -/

@[simp] theorem snapshots_setCanonical (r : Roster) (id : String) (row : CanonicalRow) :
    (r.setCanonical id row).snapshots = r.snapshots := by
  cases row <;> rfl

@[simp] theorem live_setCanonical (r : Roster) (id : String) (row : CanonicalRow) :
    (r.setCanonical id row).live = r.live := by
  funext et l k
  rw [live, snapshots_setCanonical, live]

theorem canonical_setCanonical (r : Roster) (id id' : String) (row : CanonicalRow)
    (et : EntityType) : (r.setCanonical id row).canonical et id'
      = if et = row.entityType ∧ id' = id then some row else r.canonical et id' := by
  cases row <;> cases et <;>
    simp only [setCanonical, canonical, CanonicalRow.entityType, true_and, reduceCtorEq,
      false_and, if_false, Table.lookup_insert_eq]
  all_goals by_cases h : id' = id <;> simp [h]

theorem upsert_eq_some {r r' : Roster} {id : String} {row : CanonicalRow} :
    r.upsert id row = some r' ↔ r.admits id row = true ∧ r' = r.setCanonical id row := by
  rw [upsert]
  split
  · next h => simp [h, eq_comm]
  · next h => simp [h]

theorem entityType_of_canonical {r : Roster} {et : EntityType} {id : String} {row : CanonicalRow}
    (h : r.canonical et id = some row) : row.entityType = et := by
  cases et <;> simp only [canonical, Option.map_eq_some_iff] at h <;>
    obtain ⟨_, -, rfl⟩ := h <;> rfl

theorem update_eq_some {r r' : Roster} {id : String} {row : CanonicalRow} :
    r.update id row = some r' ↔
      (r.canonical row.entityType id = none ∧ r' = r) ∨
      (r.canonical row.entityType id ≠ none ∧ r.upsert id row = some r') := by
  rw [update]
  split
  · next h => simp [h, eq_comm]
  · next h => simp [h]

@[simp] theorem snapshots_softDelete (r : Roster) (et : EntityType) (id : String) (at' : Instant) :
    (r.softDelete et id at').snapshots = r.snapshots := by
  rw [softDelete]
  split <;> simp

theorem canonical_softDelete (r : Roster) (et et' : EntityType) (id id' : String)
    (at' : Instant) : (r.softDelete et id at').canonical et' id'
      = if et' = et ∧ id' = id then (r.canonical et id).map (·.withDeletedAt (some at'))
        else r.canonical et' id' := by
  rw [softDelete]
  split
  · next h =>
    by_cases hk : et' = et ∧ id' = id
    · rw [if_pos hk, hk.1, hk.2, h]; rfl
    · rw [if_neg hk]
  · next row h =>
    rw [canonical_setCanonical, CanonicalRow.entityType_withDeletedAt, entityType_of_canonical h,
      h]
    rfl

@[simp] theorem snapshots_ensureLeaExists (r : Roster) (leaId : LeaId) :
    (r.ensureLeaExists leaId).snapshots = r.snapshots := by
  rw [ensureLeaExists]
  split <;> simp

theorem canonical_ensureLeaExists (r : Roster) (leaId : LeaId) (et : EntityType) (id : String) :
    (r.ensureLeaExists leaId).canonical et id
      = if et = .lea ∧ id = leaId ∧ r.canonical .lea leaId = none
        then some (.lea (placeholderLea leaId)) else r.canonical et id := by
  rw [ensureLeaExists]
  split
  · next h => rw [if_neg]; rintro ⟨-, -, hn⟩; simp [canonical, h] at hn
  · next h =>
    have hn : r.canonical .lea leaId = none := by rw [canonical, h]; rfl
    rw [canonical_setCanonical]
    exact if_congr (by simp only [CanonicalRow.entityType, hn, and_true]) rfl rfl

theorem studentExists_iff {r : Roster} {leaId : LeaId} {studentId : StudentId} :
    r.studentExists leaId studentId = true ↔
      ∃ row, r.students.lookup studentId = some row ∧ row.leaId = leaId := by
  rw [studentExists]
  cases r.students.lookup studentId <;> simp

/-! ### What the snapshot writes do -/

section

variable (r : Roster) (et : EntityType) (f : SnapshotTable → SnapshotTable)
  (hf : et = .lea → ∀ t : SnapshotTable, t.Keyed → (f t).Keyed)

@[simp] theorem modifySnapshots_self :
    (r.modifySnapshots et f hf).snapshots et = f (r.snapshots et) := by
  simp [modifySnapshots]

theorem modifySnapshots_ne {et' : EntityType} (h : et' ≠ et) :
    (r.modifySnapshots et f hf).snapshots et' = r.snapshots et' := by
  simp [modifySnapshots, Function.update_of_ne h]

@[simp] theorem canonical_modifySnapshots :
    (r.modifySnapshots et f hf).canonical = r.canonical := by
  funext et' id
  cases et' <;> rfl

@[simp] theorem admits_modifySnapshots :
    (r.modifySnapshots et f hf).admits = r.admits := by
  funext id row
  cases row <;> rfl

@[simp] theorem canonical_supersede (l k : String) (g : Uuid) (i : Instant) :
    (r.supersede et l k g i).canonical = r.canonical :=
  canonical_modifySnapshots _ _ _ _

@[simp] theorem canonical_insertSnapshot (row : SnapshotRow) :
    (r.insertSnapshot et row).canonical = r.canonical :=
  canonical_modifySnapshots _ _ _ _

end

theorem live_supersede (r : Roster) (et et' : EntityType) (l l' : LeaId) (k k' : String)
    (g : Uuid) (i : Instant) : (r.supersede et l k g i).live et' l' k'
      = if et' = et ∧ l' = l ∧ k' = k then [] else r.live et' l' k' := by
  by_cases he : et' = et
  · subst he
    simp only [live, supersede, modifySnapshots_self, SnapshotTable.live_mark_live, true_and]
  · rw [if_neg fun h => he h.1, live, supersede, modifySnapshots_ne _ _ _ _ he, live]

/-- The rows of another table, or of another key, stay what they were. -/
theorem mem_supersede {r : Roster} {et et' : EntityType} {l : LeaId} {k : String} {g : Uuid}
    {i : Instant} {row : SnapshotRow} : row ∈ ((r.supersede et l k g i).snapshots et').rows ↔
      ∃ old ∈ (r.snapshots et').rows,
        row = if et' = et ∧ old.liveAt l k then old.mark (some g) (some i) else old := by
  by_cases he : et' = et
  · subst he
    simp only [supersede, modifySnapshots_self, SnapshotTable.mem_mark, true_and]
  · rw [supersede, modifySnapshots_ne _ _ _ _ he]
    simp [he]

theorem live_insertSnapshot (r : Roster) (et et' : EntityType) (l : LeaId) (k : String)
    (row : SnapshotRow) : (r.insertSnapshot et row).live et' l k = r.live et' l k ++
      if et' = et ∧ (row.stored et).liveAt l k then
        [{ row.stored et with snapshotId := (r.snapshots et).rows.length }] else [] := by
  by_cases he : et' = et
  · subst he
    simp only [live, insertSnapshot, modifySnapshots_self, SnapshotTable.live_insert, true_and]
  · rw [if_neg fun h => he h.1, List.append_nil, live, insertSnapshot,
      modifySnapshots_ne _ _ _ _ he, live]

theorem rows_insertSnapshot (r : Roster) (et : EntityType) (new : SnapshotRow) :
    ((r.insertSnapshot et new).snapshots et).rows = (r.snapshots et).rows
      ++ [{ new.stored et with snapshotId := (r.snapshots et).rows.length }] := by
  rw [insertSnapshot, modifySnapshots_self]
  rfl

theorem rows_supersede (r : Roster) (et : EntityType) (l : LeaId) (k : String) (g : Uuid)
    (i : Instant) : ((r.supersede et l k g i).snapshots et).rows
      = (r.snapshots et).rows.map fun row =>
          if row.liveAt l k then row.mark (some g) (some i) else row := by
  rw [supersede, modifySnapshots_self]
  rfl

theorem mem_insertSnapshot {r : Roster} {et et' : EntityType} {row new : SnapshotRow} :
    row ∈ ((r.insertSnapshot et new).snapshots et').rows ↔ row ∈ (r.snapshots et').rows ∨
      (et' = et ∧ row = { new.stored et with snapshotId := (r.snapshots et).rows.length }) := by
  by_cases he : et' = et
  · subst he
    simp [insertSnapshot]
  · rw [insertSnapshot, modifySnapshots_ne _ _ _ _ he]
    simp [he]

end Roster
