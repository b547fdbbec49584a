/-
The snapshot tables.

A snapshot table is append-only: rows are inserted, and an `UPDATE` may only
change the two supersession columns, which is what the trigger
`enforce_snapshot_immutability` checks.  `SnapshotTable` has no other writes.
`snapshot_id` is a column default (`gen_random_uuid()`), modelled as the position
of the row, and the table carries the proof that it is, so that an `UPDATE … WHERE
snapshot_id = …` touches one row.  In `lea_snapshots` the natural key column is
`lea_id` itself: both fields of a row are that one column there, which
`SnapshotRow.stored` and `SnapshotTable.Keyed` say.

* `SnapshotTable.live` — the rows of a natural key that nothing supersedes;
* `SnapshotTable.live_insert`, `SnapshotTable.live_mark_live` — how the writes change it.
-/
import EdlinkRostering.Entities
import Mathlib.Data.List.Nodup
import Mathlib.Data.List.Range

structure SnapshotRow where
  snapshotId : Nat := 0
  naturalKey : String
  leaId : LeaId
  generationId : Uuid
  supersededByGenerationId : Option Uuid := none
  supersededAt : Option Instant := none
  deletedUpstream : Bool := false
  sourceEventId : Option String
  sourceEventAt : Option Instant
  createdAt : Instant
  payload : Dict
deriving DecidableEq

namespace SnapshotRow

/-- `superseded_by_generation_id IS NULL`. -/
def isLive (row : SnapshotRow) : Bool := row.supersededByGenerationId.isNone

/-- `lea_id = :lea_id AND {key_col} = :nk`. -/
def hasKey (row : SnapshotRow) (leaId : LeaId) (naturalKey : String) : Bool :=
  row.leaId = leaId && row.naturalKey = naturalKey

/-- `lea_id = :lea_id AND {key_col} = :nk AND superseded_by_generation_id IS NULL`. -/
def liveAt (row : SnapshotRow) (leaId : LeaId) (naturalKey : String) : Bool :=
  row.hasKey leaId naturalKey && row.isLive

/-- The row as the table of an entity type stores it. -/
def stored (row : SnapshotRow) (entityType : EntityType) : SnapshotRow :=
  if entityType = .lea then { row with leaId := row.naturalKey } else row

/-- Sets the two supersession columns. -/
def mark (row : SnapshotRow) (generation : Option Uuid) (instant : Option Instant) :
    SnapshotRow :=
  { row with supersededByGenerationId := generation, supersededAt := instant }

section

variable (row : SnapshotRow) (generation : Option Uuid) (instant : Option Instant)

@[simp] theorem mark_snapshotId : (row.mark generation instant).snapshotId = row.snapshotId := rfl
@[simp] theorem mark_naturalKey : (row.mark generation instant).naturalKey = row.naturalKey := rfl
@[simp] theorem mark_leaId : (row.mark generation instant).leaId = row.leaId := rfl
@[simp] theorem mark_generationId :
    (row.mark generation instant).generationId = row.generationId := rfl
@[simp] theorem mark_deletedUpstream :
    (row.mark generation instant).deletedUpstream = row.deletedUpstream := rfl
@[simp] theorem mark_sourceEventId :
    (row.mark generation instant).sourceEventId = row.sourceEventId := rfl
@[simp] theorem mark_sourceEventAt :
    (row.mark generation instant).sourceEventAt = row.sourceEventAt := rfl
@[simp] theorem mark_payload : (row.mark generation instant).payload = row.payload := rfl
@[simp] theorem mark_supersededByGenerationId :
    (row.mark generation instant).supersededByGenerationId = generation := rfl
@[simp] theorem mark_supersededAt : (row.mark generation instant).supersededAt = instant := rfl
@[simp] theorem mark_isLive : (row.mark generation instant).isLive = generation.isNone := rfl
@[simp] theorem mark_hasKey (leaId : LeaId) (naturalKey : String) :
    (row.mark generation instant).hasKey leaId naturalKey = row.hasKey leaId naturalKey := rfl

end

theorem stored_of_ne {row : SnapshotRow} {entityType : EntityType} (h : entityType ≠ .lea) :
    row.stored entityType = row :=
  if_neg h

@[simp] theorem stored_naturalKey (row : SnapshotRow) (entityType : EntityType) :
    (row.stored entityType).naturalKey = row.naturalKey := by
  unfold stored; split <;> rfl

@[simp] theorem stored_supersededByGenerationId (row : SnapshotRow) (entityType : EntityType) :
    (row.stored entityType).supersededByGenerationId = row.supersededByGenerationId := by
  unfold stored; split <;> rfl

theorem stored_leaId (row : SnapshotRow) (entityType : EntityType) :
    (row.stored entityType).leaId = if entityType = .lea then row.naturalKey else row.leaId := by
  unfold stored; split <;> rfl

theorem hasKey_iff {row : SnapshotRow} {leaId : LeaId} {naturalKey : String} :
    row.hasKey leaId naturalKey = true ↔ row.leaId = leaId ∧ row.naturalKey = naturalKey := by
  simp [hasKey]

theorem liveAt_iff {row : SnapshotRow} {leaId : LeaId} {naturalKey : String} :
    row.liveAt leaId naturalKey = true ↔
      row.leaId = leaId ∧ row.naturalKey = naturalKey ∧ row.supersededByGenerationId = none := by
  simp [liveAt, hasKey, isLive, and_assoc]

end SnapshotRow

/-- A snapshot table: `snapshot_id` is the position of the row. -/
structure SnapshotTable where
  rows : List SnapshotRow
  ids : rows.map (·.snapshotId) = List.range rows.length
deriving DecidableEq

namespace SnapshotTable

def empty : SnapshotTable := ⟨[], rfl⟩

/-- `INSERT`; the id is the column default. -/
def insert (t : SnapshotTable) (row : SnapshotRow) : SnapshotTable where
  rows := t.rows ++ [{ row with snapshotId := t.rows.length }]
  ids := by simp [t.ids, List.range_succ]

/-- `UPDATE … SET superseded_by_generation_id = …, superseded_at = … WHERE p`. -/
def mark (t : SnapshotTable) (p : SnapshotRow → Bool) (generation : Option Uuid)
    (instant : Option Instant) : SnapshotTable where
  rows := t.rows.map fun row => if p row then row.mark generation instant else row
  ids := by
    rw [List.map_map, List.length_map, ← t.ids]
    refine List.map_congr_left fun row _ => ?_
    by_cases h : p row <;> simp [h]

/-- The rows of a natural key that nothing supersedes. -/
def live (t : SnapshotTable) (leaId : LeaId) (naturalKey : String) : List SnapshotRow :=
  t.rows.filter fun row => row.liveAt leaId naturalKey

/-- The LEA of every row is its natural key. -/
def Keyed (t : SnapshotTable) : Prop := ∀ row ∈ t.rows, row.leaId = row.naturalKey

/-- No natural key has two rows that nothing supersedes. -/
def AtMostOneLive (t : SnapshotTable) : Prop :=
  ∀ leaId naturalKey, (t.live leaId naturalKey).length ≤ 1

/-! ### Rows and their ids -/

theorem ext_rows {t u : SnapshotTable} (h : t.rows = u.rows) : t = u := by
  cases t; cases u; simp only [mk.injEq]; exact h

@[simp] theorem mem_insert {t : SnapshotTable} {new row : SnapshotRow} :
    row ∈ (t.insert new).rows ↔
      row ∈ t.rows ∨ row = { new with snapshotId := t.rows.length } := by
  simp [insert]

theorem mem_mark {t : SnapshotTable} {p : SnapshotRow → Bool} {generation : Option Uuid}
    {instant : Option Instant} {row : SnapshotRow} :
    row ∈ (t.mark p generation instant).rows ↔
      ∃ old ∈ t.rows, row = if p old then old.mark generation instant else old := by
  rw [show (t.mark p generation instant).rows
    = t.rows.map fun row => if p row then row.mark generation instant else row from rfl,
    List.mem_map]
  exact exists_congr fun old => and_congr_right fun _ => eq_comm

theorem Keyed.insert {t : SnapshotTable} (h : t.Keyed) {row : SnapshotRow}
    (hrow : row.leaId = row.naturalKey) : (t.insert row).Keyed := by
  intro x hx
  rcases mem_insert.mp hx with hx | rfl
  · exact h x hx
  · exact hrow

theorem Keyed.mark {t : SnapshotTable} (h : t.Keyed) (p : SnapshotRow → Bool)
    (generation : Option Uuid) (instant : Option Instant) :
    (t.mark p generation instant).Keyed := by
  intro x hx
  obtain ⟨old, hold, rfl⟩ := mem_mark.mp hx
  split
  · exact h old hold
  · exact h old hold

theorem rows_nodup (t : SnapshotTable) : t.rows.Nodup :=
  List.Nodup.of_map _ (t.ids ▸ List.nodup_range)

/-- A row is known by its id. -/
theorem eq_of_id {t : SnapshotTable} {r₁ r₂ : SnapshotRow} (h₁ : r₁ ∈ t.rows) (h₂ : r₂ ∈ t.rows)
    (h : r₁.snapshotId = r₂.snapshotId) : r₁ = r₂ :=
  List.inj_on_of_nodup_map (t.ids ▸ List.nodup_range) h₁ h₂ h

theorem mem_live {t : SnapshotTable} {leaId : LeaId} {naturalKey : String} {row : SnapshotRow} :
    row ∈ t.live leaId naturalKey ↔ row ∈ t.rows ∧ row.leaId = leaId ∧
      row.naturalKey = naturalKey ∧ row.supersededByGenerationId = none := by
  rw [live, List.mem_filter, SnapshotRow.liveAt_iff]

theorem live_nodup (t : SnapshotTable) (leaId : LeaId) (naturalKey : String) :
    (t.live leaId naturalKey).Nodup :=
  t.rows_nodup.filter _

theorem live_length_le_one_iff {t : SnapshotTable} {leaId : LeaId} {naturalKey : String} :
    (t.live leaId naturalKey).length ≤ 1 ↔
      ∀ r₁ ∈ t.live leaId naturalKey, ∀ r₂ ∈ t.live leaId naturalKey, r₁ = r₂ := by
  have hn := t.live_nodup leaId naturalKey
  generalize t.live leaId naturalKey = l at hn ⊢
  match l with
  | [] => simp
  | [r] => simp
  | r :: r' :: l =>
    simp only [List.nodup_cons, List.mem_cons, not_or] at hn
    simp only [List.length_cons, List.mem_cons]
    exact ⟨fun h => absurd h (by omega), fun h => absurd (h r (Or.inl rfl) r' (by simp)) hn.1.1⟩

/-- Two live rows of one natural key are the same row. -/
theorem AtMostOneLive.eq {t : SnapshotTable} (h : t.AtMostOneLive) {leaId : LeaId}
    {naturalKey : String} {r₁ r₂ : SnapshotRow} (h₁ : r₁ ∈ t.live leaId naturalKey)
    (h₂ : r₂ ∈ t.live leaId naturalKey) : r₁ = r₂ :=
  live_length_le_one_iff.mp (h leaId naturalKey) r₁ h₁ r₂ h₂

/-! ### What the writes do to the live rows -/

theorem live_insert (t : SnapshotTable) (row : SnapshotRow) (leaId : LeaId)
    (naturalKey : String) :
    (t.insert row).live leaId naturalKey = t.live leaId naturalKey ++
      if row.liveAt leaId naturalKey then [{ row with snapshotId := t.rows.length }] else [] := by
  have h : SnapshotRow.liveAt { row with snapshotId := t.rows.length } leaId naturalKey
      = row.liveAt leaId naturalKey := rfl
  rw [live, insert, List.filter_append, List.filter_singleton, h]
  cases row.liveAt leaId naturalKey <;> rfl

/-- Rows outside `p` that stay live where they were; nothing else does when the
new marker is not NULL. -/
theorem live_mark_some (t : SnapshotTable) (p : SnapshotRow → Bool) (generation : Uuid)
    (instant : Option Instant) (leaId : LeaId) (naturalKey : String) :
    (t.mark p (some generation) instant).live leaId naturalKey
      = (t.live leaId naturalKey).filter fun row => !p row := by
  rw [live, mark, live, List.filter_map, List.filter_filter]
  rw [show ((fun row : SnapshotRow => row.liveAt leaId naturalKey) ∘
      fun row => if p row then row.mark (some generation) instant else row)
      = fun row => !p row && row.liveAt leaId naturalKey from ?_]
  · refine (List.map_congr_left fun row hrow => ?_).trans (List.map_id _)
    have h := (List.mem_filter.mp hrow).2
    simp only [Bool.and_eq_true, Bool.not_eq_true'] at h
    simp [h.1]
  · funext row
    by_cases h : p row <;> simp [h, SnapshotRow.liveAt]

/-- Superseding the live rows of one key leaves none there and leaves the other
keys alone. -/
theorem live_mark_live (t : SnapshotTable) (generation : Uuid) (instant : Option Instant)
    (leaId leaId' : LeaId) (naturalKey naturalKey' : String) :
    (t.mark (fun row => row.liveAt leaId naturalKey) (some generation) instant).live leaId'
        naturalKey'
      = if leaId' = leaId ∧ naturalKey' = naturalKey then [] else t.live leaId' naturalKey' := by
  rw [live_mark_some]
  by_cases h : leaId' = leaId ∧ naturalKey' = naturalKey
  · rw [if_pos h, List.filter_eq_nil_iff]
    obtain ⟨rfl, rfl⟩ := h
    intro row hrow
    simp [(List.mem_filter.mp hrow).2]
  · rw [if_neg h, List.filter_eq_self]
    intro row hrow
    obtain ⟨-, hl, hk, -⟩ := mem_live.mp hrow
    subst hl hk
    simp only [Bool.not_eq_eq_eq_not, Bool.not_true, Bool.eq_false_iff, ne_eq,
      SnapshotRow.liveAt_iff, not_and]
    exact fun h1 h2 => absurd ⟨h1, h2⟩ h

end SnapshotTable
