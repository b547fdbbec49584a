/-
What the services leave to Postgres.

The collation `ORDER BY` uses on text and the reading of a date literal are
settings of the database, so they are parameters here.  Python's driver sends a
`date` as a date and a `str` as an untyped literal, which a `date` column reads
with its input function.

* `Postgres.orderAsc`, `Postgres.top` — the two orders the services ask for;
* `Postgres.bindDate` — a date field as a `date` column stores it.
-/
import EdlinkRostering.Snapshots
import Mathlib.Data.List.Sort

/-- The parts of Postgres that decide a result: `textLe` is the order of the
database's collation, `dateIn` the input function of the type `date`. -/
structure Postgres where
  textLe : String → String → Bool
  dateIn : String → Option Date
  /-- The ISO form is read under every `DateStyle`. -/
  dateIn_isoformat : ∀ d : Date, dateIn d.isoformat = some d

namespace Postgres

/-- A database in the `C` collation that reads ISO dates. -/
def reference : Postgres where
  textLe a b := decide (a ≤ b)
  dateIn := Date.fromisoformat
  dateIn_isoformat := Date.fromisoformat_isoformat

/-- `ASC NULLS FIRST` on a nullable text column. -/
def ascNullsFirst (pg : Postgres) : Option String → Option String → Bool
  | none, _ => true
  | some _, none => false
  | some a, some b => pg.textLe a b

/-- `ORDER BY source_event_id ASC NULLS FIRST`. -/
def orderAsc (pg : Postgres) (rows : List SnapshotRow) : List SnapshotRow :=
  rows.insertionSort fun a b => pg.ascNullsFirst a.sourceEventId b.sourceEventId = true

/-- `ORDER BY source_event_id DESC NULLS LAST LIMIT 1`. -/
def top (pg : Postgres) (rows : List SnapshotRow) : Option SnapshotRow :=
  (rows.insertionSort fun a b => pg.ascNullsFirst b.sourceEventId a.sourceEventId = true).head?

/-- A field annotated `date` in a `date` column. -/
def bindDate (pg : Postgres) : DateField → Option Date
  | .date d => some d
  | .text s => pg.dateIn s

/-- The same for a nullable column; the outer `none` is the refused literal. -/
def bindDate? (pg : Postgres) : Option DateField → Option (Option Date)
  | none => some none
  | some field => (pg.bindDate field).map some

theorem mem_orderAsc {pg : Postgres} {rows : List SnapshotRow} {row : SnapshotRow} :
    row ∈ pg.orderAsc rows ↔ row ∈ rows := by
  rw [orderAsc, List.mem_insertionSort]

theorem orderAsc_perm (pg : Postgres) (rows : List SnapshotRow) :
    (pg.orderAsc rows).Perm rows :=
  List.perm_insertionSort _ _

theorem mem_of_top {pg : Postgres} {rows : List SnapshotRow} {row : SnapshotRow}
    (h : pg.top rows = some row) : row ∈ rows := by
  rw [top] at h
  exact (List.mem_insertionSort _).mp (List.mem_of_head? h)

theorem top_eq_none {pg : Postgres} {rows : List SnapshotRow} : pg.top rows = none ↔ rows = [] := by
  rw [top, List.head?_eq_none_iff]
  constructor
  · intro h
    exact List.perm_nil.mp (h ▸ (List.perm_insertionSort _ rows).symm)
  · rintro rfl; rfl

@[simp] theorem top_singleton (pg : Postgres) (row : SnapshotRow) : pg.top [row] = some row := rfl

@[simp] theorem bindDate_date (pg : Postgres) (d : Date) : pg.bindDate (.date d) = some d := rfl

@[simp] theorem bindDate?_map_date (pg : Postgres) (d : Option Date) :
    pg.bindDate? (d.map .date) = some d := by
  cases d <;> rfl

end Postgres
