/-
Reconciliation: the per-LEA hash tree of both sides and what a run reports.

Transcribed from `services/reconciliation.py`.  A row of either side is projected
on the hashed columns of its family and becomes a leaf, the leaves of a family
sorted by id become a mid hash, and the five mid hashes the root.  SHA-256 is a
parameter; all that is used of it is the length of its digests.  Postgres returns
the rows of a `SELECT` without `ORDER BY` in any order, so a `Scan` is some order
of the live rows.  The row that is written to `reconciliation_runs` repeats the
report and is not modelled.

* `reconcileLea` — one run;
* `rowText_inj` — a canonical row is determined by its leaf text.
-/
import EdlinkRostering.JsonText
import EdlinkRostering.Store

/-! ### The tables the event path does not write -/

structure ClassRow where
  leaId : LeaId
  title : String
  courseCode : Option String
  schoolId : Option String
  termId : Option String
  deletedAt : Option Instant := none
deriving DecidableEq

structure AcademicSessionRow where
  leaId : LeaId
  title : String
  sessionType : Option String
  schoolYear : Option String
  startDate : Option Date
  endDate : Option Date
  deletedAt : Option Instant := none
deriving DecidableEq

structure SchoolRow where
  leaId : LeaId
  name : String
  schoolCode : Option String
  parentOrgId : Option String
  deletedAt : Option Instant := none
deriving DecidableEq

/-- A committed state of the tables a reconciliation reads. -/
structure CanonicalDatabase extends Store where
  classes : Table String ClassRow
  academicSessions : Table String AcademicSessionRow
  schools : Table String SchoolRow

/-! ### `_ENTITY_TABLES` -/

/-- The keys of `_ENTITY_TABLES`. -/
inductive EntityFamily where
  | students
  | enrollments
  | classes
  | academicSessions
  | schools
deriving DecidableEq, Repr

namespace EntityFamily

def name : EntityFamily → String
  | .students => "students"
  | .enrollments => "enrollments"
  | .classes => "classes"
  | .academicSessions => "academic_sessions"
  | .schools => "schools"

/-- The columns that take part in the leaf hash. -/
def columns : EntityFamily → List String
  | .students =>
    ["id", "lea_id", "given_name", "family_name", "grade", "preferred_first_name",
      "primary_school_id"]
  | .enrollments => ["id", "lea_id", "student_id", "class_id", "begin_date", "end_date"]
  | .classes => ["id", "lea_id", "title", "course_code", "school_id", "term_id"]
  | .academicSessions =>
    ["id", "lea_id", "title", "session_type", "school_year", "start_date", "end_date"]
  | .schools => ["id", "lea_id", "name", "school_code", "parent_org_id"]

/-- `sorted(by_type)`. -/
def sorted : List EntityFamily := [.academicSessions, .classes, .enrollments, .schools, .students]

theorem sorted_eq : sorted =
    [students, enrollments, classes, academicSessions, schools].insertionSort
      fun a b => a.name ≤ b.name := by
  decide

theorem mem_sorted (family : EntityFamily) : family ∈ sorted := by
  cases family <;> decide

end EntityFamily

/-! ### The rows of the canonical side -/

/-- A nullable `date` column as `isoformat` writes it. -/
def dateJson : Option Date → Json
  | none => .null
  | some d => .str d.isoformat

/-- `getattr(row, col)` with `_json_default` applied, over the columns of `students`. -/
def StudentRow.getattr (id : StudentId) (row : StudentRow) : String → Json
  | "id" => .str id
  | "lea_id" => .str row.leaId
  | "given_name" => .str row.givenName
  | "family_name" => .str row.familyName
  | "grade" => .ofOption row.grade
  | "preferred_first_name" => .ofOption row.preferredFirstName
  | "primary_school_id" => .ofOption row.primarySchoolId
  | _ => .null

/-- The same over `enrollments`. -/
def EnrollmentRow.getattr (id : EnrollmentId) (row : EnrollmentRow) : String → Json
  | "id" => .str id
  | "lea_id" => .str row.leaId
  | "student_id" => .str row.studentId
  | "class_id" => .str row.classId
  | "begin_date" => .str row.beginDate.isoformat
  | "end_date" => dateJson row.endDate
  | _ => .null

def ClassRow.getattr (id : String) (row : ClassRow) : String → Json
  | "id" => .str id
  | "lea_id" => .str row.leaId
  | "title" => .str row.title
  | "course_code" => .ofOption row.courseCode
  | "school_id" => .ofOption row.schoolId
  | "term_id" => .ofOption row.termId
  | _ => .null

def AcademicSessionRow.getattr (id : String) (row : AcademicSessionRow) : String → Json
  | "id" => .str id
  | "lea_id" => .str row.leaId
  | "title" => .str row.title
  | "session_type" => .ofOption row.sessionType
  | "school_year" => .ofOption row.schoolYear
  | "start_date" => dateJson row.startDate
  | "end_date" => dateJson row.endDate
  | _ => .null

def SchoolRow.getattr (id : String) (row : SchoolRow) : String → Json
  | "id" => .str id
  | "lea_id" => .str row.leaId
  | "name" => .str row.name
  | "school_code" => .ofOption row.schoolCode
  | "parent_org_id" => .ofOption row.parentOrgId
  | _ => .null

/-- `{col: getattr(row, col) for col in columns}`. -/
def rowDict (columns : List String) (getattr : String → Json) : Dict :=
  columns.map fun col => (col, getattr col)

/-- The hashed columns of a row of a canonical table. -/
def CanonicalRow.hashed (id : String) : CanonicalRow → Dict
  | .lea _ => []
  | .student row => rowDict EntityFamily.students.columns (StudentRow.getattr id row)
  | .enrollment row => rowDict EntityFamily.enrollments.columns (EnrollmentRow.getattr id row)

/-- The live rows of an LEA in one table, projected on its hashed columns. -/
def Table.liveRows {ρ : Type} (t : Table String ρ) (leaId : LeaId) (columns : List String)
    (lea : ρ → LeaId) (deletedAt : ρ → Option Instant) (getattr : String → ρ → String → Json) :
    List Dict :=
  ((Table.rows t).filter fun r => lea r.2 = leaId && (deletedAt r.2).isNone).map
    fun r => rowDict columns (getattr r.1 r.2)

/-- `SELECT {columns} FROM {table} WHERE lea_id AND deleted_at IS NULL`. -/
def CanonicalDatabase.liveRows (db : CanonicalDatabase) (leaId : LeaId) (family : EntityFamily) :
    List Dict :=
  match family with
  | .students => Table.liveRows db.roster.students leaId family.columns (·.leaId) (·.deletedAt)
      StudentRow.getattr
  | .enrollments => Table.liveRows db.roster.enrollments leaId family.columns (·.leaId)
      (·.deletedAt) EnrollmentRow.getattr
  | .classes => Table.liveRows db.classes leaId family.columns (·.leaId) (·.deletedAt)
      ClassRow.getattr
  | .academicSessions => Table.liveRows db.academicSessions leaId family.columns (·.leaId)
      (·.deletedAt) AcademicSessionRow.getattr
  | .schools => Table.liveRows db.schools leaId family.columns (·.leaId) (·.deletedAt)
      SchoolRow.getattr

/-- An order in which Postgres returns the live rows. -/
structure Scan (db : CanonicalDatabase) (leaId : LeaId) where
  rows : EntityFamily → List Dict
  perm : ∀ family, (rows family).Perm (db.liveRows leaId family)

/-- The rows in the order of the tables. -/
def Scan.heap (db : CanonicalDatabase) (leaId : LeaId) : Scan db leaId :=
  ⟨db.liveRows leaId, fun _ => List.Perm.refl _⟩

/-! ### The rows of the partner side -/

/-- A value of the partner payload: what JSON can hold, or a date. -/
inductive SnapshotValue where
  | json (v : Json) (h : v.printed)
  | date (d : Date)

/-- The value as `_hash_row` writes it; `str` of a date is its ISO text too. -/
def SnapshotValue.normalised : SnapshotValue → Json
  | .json v _ => v
  | .date d => .str d.isoformat

/-- One entry of the payload. -/
abbrev SnapshotEntry := List (String × SnapshotValue)

/-- `entry.get(col)`, with `lea_id` forced to the target LEA. -/
def SnapshotEntry.getattr (leaId : LeaId) (entry : SnapshotEntry) (col : String) : Json :=
  if col = "lea_id" then .str leaId
  else match entry.lookup col with
    | none => .null
    | some v => v.normalised

/-- `dict[str, list[dict[str, Any]]]`. -/
abbrev SnapshotPayload := List (String × List SnapshotEntry)

/-- `payload.get(entity_name, [])`, each entry projected on the hashed columns. -/
def SnapshotPayload.rows (payload : SnapshotPayload) (leaId : LeaId) (family : EntityFamily) :
    List Dict :=
  ((payload.lookup family.name).getD []).map fun entry =>
    rowDict family.columns (SnapshotEntry.getattr leaId entry)

/-! ### Hashes -/

/-- `hashlib.sha256(…).hexdigest()` on a text. -/
structure Sha256 where
  hexdigest : List Char → List Char
  length_hexdigest : ∀ text, (hexdigest text).length = 64

/-- `json.dumps(values, sort_keys=True, …)`. -/
def rowText (row : Dict) : List Char := Json.dumps (.obj row)

/-- `_hash_row`. -/
def hashRow (sha : Sha256) (row : Dict) : List Char := sha.hexdigest (rowText row)

/-- `str(row_dict["id"])`. -/
def rowId (row : Dict) : String := ((row.get? "id").getD .null).pyStr

/-- What one pair adds to a mid or root hash. -/
def record (pair : String × List Char) : List Char :=
  pair.1.toList ++ '\x00' :: (pair.2 ++ ['\x01'])

structure EntityTypeHashes where
  midHash : List Char
  entityIds : List String
deriving DecidableEq

/-- `leaves.sort(key=lambda pair: pair[0])`. -/
def sortLeaves (leaves : List (String × List Char)) : List (String × List Char) :=
  leaves.insertionSort fun a b => a.1 ≤ b.1

/-- `_mid_hash`. -/
def midHash (sha : Sha256) (leaves : List (String × List Char)) : EntityTypeHashes where
  midHash := sha.hexdigest ((sortLeaves leaves).flatMap record)
  entityIds := (sortLeaves leaves).map Prod.fst

structure SideHashes where
  rootHash : List Char
  byEntityType : EntityFamily → EntityTypeHashes

/-- `_root_hash`. -/
def rootHash (sha : Sha256) (byType : EntityFamily → EntityTypeHashes) : List Char :=
  sha.hexdigest (EntityFamily.sorted.flatMap fun family =>
    record (family.name, (byType family).midHash))

/-- The leaf of each row, with its id. -/
def leavesOf (sha : Sha256) (rows : List Dict) : List (String × List Char) :=
  rows.map fun row => (rowId row, hashRow sha row)

/-- `_compute_canonical_hashes` and `_compute_partner_hashes`, which differ in where the
rows come from. -/
def computeHashes (sha : Sha256) (rows : EntityFamily → List Dict) : SideHashes :=
  let byType family := midHash sha (leavesOf sha (rows family))
  { rootHash := rootHash sha byType, byEntityType := byType }

/-! ### The run -/

structure ReconciliationDriftDetail where
  entityType : EntityFamily
  canonicalOnlyIds : List String
  partnerOnlyIds : List String
  canonicalMidHash : List Char
  partnerMidHash : List Char
deriving DecidableEq

/-- `sorted(set(a) - set(b))`. -/
def sortedDifference (a b : List String) : List String :=
  (a.dedup.filter fun id => id ∉ b).insertionSort (· ≤ ·)

/-- `_diff_sides`. -/
def diffSides (canonical partner : SideHashes) : List ReconciliationDriftDetail :=
  EntityFamily.sorted.filterMap fun family =>
    let c := canonical.byEntityType family
    let p := partner.byEntityType family
    if c.midHash = p.midHash then none
    else some
      { entityType := family
        canonicalOnlyIds := sortedDifference c.entityIds p.entityIds
        partnerOnlyIds := sortedDifference p.entityIds c.entityIds
        canonicalMidHash := c.midHash
        partnerMidHash := p.midHash }

/-- `_cursor_quiet_for`; the minutes are compared in microseconds. -/
def cursorQuietFor (s : Store) (leaId : LeaId) (partner : String) (requireQuietMinutes : Int)
    (now : Instant) : Bool :=
  if requireQuietMinutes ≤ 0 then true
  else match s.cursorState.lookup (leaId, partner) with
    | none => true
    | some row =>
      match row.lastEventAt with
      | none => true
      | some instant => decide (requireQuietMinutes * 60000000 ≤ (now : Int) - instant)

inductive ReconciliationStatus where
  | matched
  | driftDetected
  | skippedQuietWindow
deriving DecidableEq, Repr

structure ReconciliationReport where
  status : ReconciliationStatus
  canonicalRootHash : List Char
  partnerRootHash : Option (List Char)
  drift : List ReconciliationDriftDetail := []
deriving DecidableEq

/-- The comparison of `reconcile_lea`, once the quiet window is satisfied. -/
def compareSides (canonical partner : SideHashes) : ReconciliationReport :=
  let drift := diffSides canonical partner
  { status := if drift = [] then .matched else .driftDetected
    canonicalRootHash := canonical.rootHash
    partnerRootHash := some partner.rootHash
    drift := drift }

/-- `reconcile_lea`: the scan is what its first transaction reads. -/
def reconcileLea (sha : Sha256) {db : CanonicalDatabase} {leaId : LeaId} (scan : Scan db leaId)
    (partner : String) (payload : SnapshotPayload) (requireQuietMinutes : Int) (now : Instant) :
    ReconciliationReport :=
  if cursorQuietFor db.toStore leaId partner requireQuietMinutes now then
    compareSides (computeHashes sha scan.rows) (computeHashes sha (payload.rows leaId))
  else
    { status := .skippedQuietWindow, canonicalRootHash := "skipped".toList,
      partnerRootHash := none }

/-! ### The text of a row -/

/-- The columns in the order they are written. -/
def sortColumns (columns : List String) : List String := columns.insertionSort (· ≤ ·)

/-- One field of the row's text. -/
def fieldText (getattr : String → Json) (col : String) : List Char :=
  Json.quote col ++ ':' :: Json.dumps (getattr col)

theorem dumpsFields_rowDict (columns : List String) (getattr : String → Json) :
    Json.dumpsFields (rowDict columns getattr)
      = columns.map fun col => (col, fieldText getattr col) := by
  induction columns with
  | nil => rfl
  | cons col columns ih =>
    rw [rowDict, List.map_cons, Json.dumpsFields, List.map_cons]
    exact congrArg _ ih

/-- The fields are written in the order of their keys. -/
theorem rowText_rowDict (columns : List String) (getattr : String → Json) :
    rowText (rowDict columns getattr) = '\x7b' ::
      (List.intercalate [','] ((sortColumns columns).map (fieldText getattr)) ++ ['\x7d']) := by
  have hsort : Json.sortKeys (columns.map fun col => (col, fieldText getattr col))
      = (sortColumns columns).map fun col => (col, fieldText getattr col) :=
    (List.map_insertionSort (· ≤ ·) (fun a b : String × List Char => a.1 ≤ b.1)
      (fun col => (col, fieldText getattr col)) columns fun _ _ _ _ => Iff.rfl).symm
  rw [rowText, Json.dumps, dumpsFields_rowDict, hsort, List.map_map]
  rfl

/-- What a canonical column holds: a text or `NULL`. -/
def Json.Cell (v : Json) : Prop := v = .null ∨ ∃ s, v = .str s

theorem Json.Cell.printed {v : Json} (h : v.Cell) : v.printed := by
  rcases h with rfl | ⟨s, rfl⟩ <;> rfl

/-- A cell is read back from the front of a text. -/
theorem Json.Cell.dumps_append {v w : Json} {s t : List Char} (hv : v.Cell) (hw : w.printed)
    (h : v.dumps ++ s = w.dumps ++ t) : v = w ∧ s = t := by
  rcases hv with rfl | ⟨k, rfl⟩
  · obtain ⟨rfl, hst⟩ := Json.dumps_null_append hw h.symm
    exact ⟨rfl, hst.symm⟩
  · obtain ⟨rfl, hst⟩ := Json.dumps_str_append hw h.symm
    exact ⟨rfl, hst.symm⟩

/-- The fields of a row, one after the other. -/
theorem fields_inj {g h : String → Json} (hg : ∀ col, (g col).Cell)
    (hh : ∀ col, (h col).printed) : ∀ (columns : List String) (s t : List Char),
      List.intercalate [','] (columns.map (fieldText g)) ++ s
        = List.intercalate [','] (columns.map (fieldText h)) ++ t →
      ∀ col ∈ columns, g col = h col := by
  intro columns
  induction columns with
  | nil => simp
  | cons col columns ih =>
    intro s t heq
    -- the key is the same text on both sides, then the values are read
    have hfront : ∀ u v : List Char, fieldText g col ++ u = fieldText h col ++ v →
        g col = h col ∧ u = v := by
      intro u v huv
      rw [fieldText, fieldText, List.append_assoc, List.append_assoc] at huv
      have hrest := (List.cons.inj (List.append_cancel_left huv)).2
      exact (hg col).dumps_append (hh col) hrest
    cases columns with
    | nil =>
      have hcol := (hfront s t (by simpa [List.intercalate] using heq)).1
      simpa using hcol
    | cons next columns =>
      rw [List.map_cons, List.map_cons, List.map_cons, List.map_cons, List.intercalate_cons_cons,
        List.intercalate_cons_cons, ← List.map_cons, ← List.map_cons, List.append_assoc,
        List.append_assoc, List.append_assoc, List.append_assoc] at heq
      obtain ⟨hcol, hrest⟩ := hfront _ _ heq
      have htail := ih s t (List.cons.inj hrest).2
      intro c hc
      rcases List.mem_cons.mp hc with rfl | hc
      · exact hcol
      · exact htail c hc

/-- **A row of cells is determined by its text.** -/
theorem rowText_inj {columns : List String} {g h : String → Json}
    (hg : ∀ col, (g col).Cell) (hh : ∀ col, (h col).printed)
    (heq : rowText (rowDict columns g) = rowText (rowDict columns h)) :
    rowDict columns g = rowDict columns h := by
  rw [rowText_rowDict, rowText_rowDict] at heq
  have hcols := fields_inj hg hh _ _ _ (List.cons.inj heq).2
  refine List.map_congr_left fun col hcol => ?_
  rw [hcols col ((List.mem_insertionSort _).mpr hcol)]
