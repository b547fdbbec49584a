/-
The constraints of the canonical tables.

A row is checked when it is written.  Later writes do not invalidate it: an LEA is
never removed, a student never leaves an LEA it has an enrollment in, and a
soft-delete keeps every column that a constraint reads.  So every canonical row of
a reachable state could be written again as it stands.

* `Roster.Referential` — every canonical row meets the constraints;
* `Roster.Referential.setCanonical` — a row that is admitted keeps them;
* `Store.referential_run` — they hold in every reachable state.
-/
import EdlinkRostering.System

/-- Every canonical row meets the constraints of its table. -/
def Roster.Referential (r : Roster) : Prop :=
  ∀ et id row, r.canonical et id = some row → r.admits id row = true

namespace Roster

theorem canonical_student_eq_some {r : Roster} {id : String} {row : StudentRow} :
    r.canonical .student id = some (.student row) ↔ r.students.lookup id = some row := by
  rw [canonical, Option.map_eq_some_iff]
  simp

theorem canonical_enrollment_eq_some {r : Roster} {id : String} {row : EnrollmentRow} :
    r.canonical .enrollment id = some (.enrollment row) ↔ r.enrollments.lookup id = some row := by
  rw [canonical, Option.map_eq_some_iff]
  simp

theorem strands_eq_false {r : Roster} {id : String} {leaId : LeaId} :
    r.strands id leaId = false ↔ ∀ old, r.students.lookup id = some old → old.leaId ≠ leaId →
      ∀ k e, r.enrollments.lookup k = some e → e.leaId = old.leaId → e.studentId ≠ id := by
  rw [strands, Option.any_eq_false]
  refine forall_congr' fun old => imp_congr_right fun _ => ?_
  by_cases hl : old.leaId = leaId
  · simp [hl]
  · simp only [ne_eq, hl, not_false_eq_true, decide_true, Bool.true_and, List.any_eq_false,
      Prod.forall, Table.mem_rows, Bool.and_eq_true, decide_eq_true_eq, not_and, true_imp_iff]

/-- A row whose LEA does not change strands nobody. -/
theorem strands_self {r : Roster} {id : String} {row : StudentRow}
    (h : r.students.lookup id = some row) : r.strands id row.leaId = false := by
  refine strands_eq_false.mpr fun old hold hne => absurd ?_ hne
  rw [h] at hold
  rw [Option.some.inj hold]

theorem leas_lookup_setCanonical (r : Roster) (id : String) (row : CanonicalRow) (leaId : LeaId)
    (h : (r.leas.lookup leaId).isSome = true) :
    ((r.setCanonical id row).leas.lookup leaId).isSome = true := by
  cases row with
  | lea row =>
    show ((r.leas.insert id row).lookup leaId).isSome = true
    rw [Table.lookup_insert_eq]
    split
    · rfl
    · exact h
  | student row => exact h
  | enrollment row => exact h

theorem leas_lookup_ensureLeaExists (r : Roster) (leaId : LeaId) :
    ((r.ensureLeaExists leaId).leas.lookup leaId).isSome = true := by
  rw [ensureLeaExists]
  split
  · next row h => rw [h]; rfl
  · show ((r.leas.insert leaId (placeholderLea leaId)).lookup leaId).isSome = true
    rw [Table.lookup_insert_eq, if_pos rfl]
    rfl

/-- An LEA that has a row is left alone. -/
theorem ensureLeaExists_eq_self {r : Roster} {leaId : LeaId}
    (h : (r.leas.lookup leaId).isSome = true) : r.ensureLeaExists leaId = r := by
  obtain ⟨row, hrow⟩ := Option.isSome_iff_exists.mp h
  rw [ensureLeaExists, hrow]

section

variable {r r' : Roster}

theorem students_congr {id : StudentId} (h : r'.canonical .student id = r.canonical .student id) :
    r'.students.lookup id = r.students.lookup id := by
  refine Option.ext fun row => ?_
  rw [← canonical_student_eq_some, h, canonical_student_eq_some]

theorem enrollments_congr {id : EnrollmentId}
    (h : r'.canonical .enrollment id = r.canonical .enrollment id) :
    r'.enrollments.lookup id = r.enrollments.lookup id := by
  refine Option.ext fun row => ?_
  rw [← canonical_enrollment_eq_some, h, canonical_enrollment_eq_some]

theorem leas_congr {id : LeaId} (h : r'.canonical .lea id = r.canonical .lea id) :
    (r'.leas.lookup id).isSome = (r.leas.lookup id).isSome := by
  have hsome := congrArg Option.isSome h
  simpa only [canonical, Option.isSome_map] using hsome

/-- The constraints read the canonical rows and nothing else. -/
theorem admits_congr (h : ∀ et id, r'.canonical et id = r.canonical et id) (id : String)
    (row : CanonicalRow) : r'.admits id row = r.admits id row := by
  have hstrands : ∀ k l, r'.strands k l = r.strands k l := by
    intro k l
    rw [Bool.eq_iff_iff, ← not_iff_not, Bool.not_eq_true, Bool.not_eq_true, strands_eq_false,
      strands_eq_false]
    simp only [students_congr (h _ _), enrollments_congr (h _ _)]
  cases row with
  | lea row => rfl
  | student row => rw [admits, admits, leas_congr (h _ _), hstrands]
  | enrollment row =>
    rw [admits, admits, leas_congr (h _ _), studentExists, studentExists, students_congr (h _ _)]

end

end Roster

namespace Roster.Referential

variable {r : Roster}

theorem empty : Roster.empty.Referential := by
  intro et id row h
  cases et <;> exact absurd h (by simp [canonical, Roster.empty])

theorem congr {r' : Roster} (h : r.Referential) (hc : r'.canonical = r.canonical)
    (ha : r'.admits = r.admits) : r'.Referential := by
  intro et id row hrow
  rw [hc] at hrow
  rw [ha]
  exact h et id row hrow

/-- **A row that is admitted leaves the others admitted.** -/
theorem setCanonical (h : r.Referential) {id : String} {new : CanonicalRow}
    (hnew : r.admits id new = true) : (r.setCanonical id new).Referential := by
  intro et k row hrow
  rw [canonical_setCanonical] at hrow
  -- the row is the new one or an old one, and either was admitted before
  have hold : r.admits k row = true := by
    split at hrow
    · next hk =>
      obtain ⟨-, rfl⟩ := hk
      rw [← Option.some.inj hrow]
      exact hnew
    · exact h et k row hrow
  have het : et = row.entityType := by
    split at hrow
    · next hk => rw [hk.1, Option.some.inj hrow]
    · exact (entityType_of_canonical hrow).symm
  rw [← canonical_setCanonical] at hrow
  cases row with
  | lea row => exact hold
  | student row =>
    obtain rfl := het
    have hlea := (Bool.and_eq_true _ _ ▸ hold : _ ∧ _).1
    refine Bool.and_eq_true _ _ ▸ ⟨leas_lookup_setCanonical r id new _ hlea, ?_⟩
    rw [strands_self (canonical_student_eq_some.mp hrow)]
    rfl
  | enrollment row =>
    obtain rfl := het
    obtain ⟨hlea, hstudent⟩ := (Bool.and_eq_true _ _ ▸ hold : _ ∧ _)
    refine Bool.and_eq_true _ _ ▸ ⟨leas_lookup_setCanonical r id new _ hlea, ?_⟩
    cases new with
    | lea new => exact hstudent
    | enrollment new => exact hstudent
    | student new =>
      obtain ⟨student, hs, hl⟩ := studentExists_iff.mp hstudent
      refine studentExists_iff.mpr ?_
      show ∃ row', (r.students.insert id new).lookup row.studentId = some row' ∧ _
      rw [Table.lookup_insert_eq]
      by_cases hid : row.studentId = id
      · -- the enrollment's own student moves: it would be stranded
        rw [if_pos hid]
        refine ⟨new, rfl, ?_⟩
        subst hid
        have hstay : r.strands row.studentId new.leaId = false := by
          have := (Bool.and_eq_true _ _ ▸ hnew : _ ∧ _).2
          simpa using this
        by_contra hne
        have hmoved : student.leaId ≠ new.leaId := fun heq => hne (heq.symm.trans hl)
        have hrow' : r.enrollments.lookup k = some row := canonical_enrollment_eq_some.mp hrow
        exact strands_eq_false.mp hstay student hs hmoved k row hrow' hl.symm rfl
      · rw [if_neg hid]
        exact ⟨student, hs, hl⟩

theorem softDelete (h : r.Referential) (et : EntityType) (id : String) (i : Instant) :
    (r.softDelete et id i).Referential := by
  rw [Roster.softDelete]
  split
  · exact h
  · next row hrow =>
    refine h.setCanonical ?_
    rw [admits_withDeletedAt]
    exact h et id row hrow

theorem ensureLeaExists (h : r.Referential) (leaId : LeaId) :
    (r.ensureLeaExists leaId).Referential := by
  rw [Roster.ensureLeaExists]
  split
  · exact h
  · refine h.setCanonical ?_
    show decide (("XX" : String).length ≤ 2) = true
    decide

theorem modifySnapshots (h : r.Referential) (et : EntityType) (f : SnapshotTable → SnapshotTable)
    (hf : et = .lea → ∀ t : SnapshotTable, t.Keyed → (f t).Keyed) :
    (r.modifySnapshots et f hf).Referential :=
  h.congr (canonical_modifySnapshots _ _ _ _) (admits_modifySnapshots _ _ _ _)

/-- What an `upsert` into the canonical tables after writes to the snapshot tables
leaves. -/
theorem upsert (h : r.Referential) {id : String} {row : CanonicalRow} {r' : Roster}
    (hu : r.upsert id row = some r') : r'.Referential := by
  obtain ⟨ha, rfl⟩ := upsert_eq_some.mp hu
  exact h.setCanonical ha

theorem update (h : r.Referential) {id : String} {row : CanonicalRow} {r' : Roster}
    (hu : r.update id row = some r') : r'.Referential := by
  rcases update_eq_some.mp hu with ⟨-, rfl⟩ | ⟨-, hu⟩
  · exact h
  · exact h.upsert hu

end Roster.Referential

/-! ### The operations -/

theorem referential_applyEvents {pg : Postgres} {leaId : LeaId} {syncJobId : Uuid} {now : Instant}
    {events : List NormalizedEvent} {r r' : Roster} (h : r.Referential)
    (hr : applyEvents pg leaId syncJobId now events r = some r') : r'.Referential := by
  refine Runs.foldlM_invariant (I := Roster.Referential) ?_ h hr
  intro event _ r₁ r₂ h₁ h₂
  rcases applyEventRoster_eq_some.mp h₂ with ⟨-, rfl⟩ | ⟨-, row, -, ha, rfl⟩
  · exact h₁
  · have hpush : (r₁.pushSnapshot leaId event syncJobId now).Referential :=
      (h₁.modifySnapshots _ _ _).modifySnapshots _ _ _
    exact hpush.setCanonical ha

theorem referential_bulkLoad (pg : Postgres) (run : BulkRun) {s : Store}
    (h : s.roster.Referential) : (bulkLoad pg run s).1.roster.Referential := by
  refine bulkLoad_induction (P := Roster.Referential) (fun r hr => hr.ensureLeaExists _) ?_ h
  intro r r' n n' entry now _ hr hstep
  obtain ⟨id, -, ⟨-, rfl⟩ | ⟨-, row, -, ha, rfl⟩⟩ := applyEntryCounted_eq_some hstep
  · exact hr
  · have hpush : (r.pushEntry run.leaId id entry run.syncJobId now).Referential :=
      (hr.modifySnapshots _ _ _).modifySnapshots _ _ _
    exact hpush.setCanonical ha

theorem referential_revertRow {pg : Postgres} {run : RevertRun} {et : EntityType}
    {r r' : Roster} {counts counts' : RevertCounts} {row : SnapshotRow} (h : r.Referential)
    (hstep : revertRow pg run et (r, counts) row = some (r', counts')) : r'.Referential := by
  simp only [revertRow, Option.bind_eq_bind, Option.bind_eq_some_iff] at hstep
  obtain ⟨⟨r₁, updated⟩, hgive, hstep⟩ := hstep
  obtain ⟨rfl, -⟩ := Prod.mk.inj (Option.some.inj hstep)
  refine Roster.Referential.modifySnapshots ?_ _ _ _
  rw [giveBack] at hgive
  split at hgive
  · obtain ⟨rfl, -⟩ := Prod.mk.inj (Option.some.inj hgive)
    exact h.softDelete _ _ _
  · simp only [Option.map_eq_some_iff, Prod.mk.injEq, Roster.restoreCanonicalFromPayload,
      Option.bind_eq_bind, Option.bind_eq_some_iff] at hgive
    obtain ⟨r₂, ⟨new, -, hu⟩, rfl, -⟩ := hgive
    exact (h.modifySnapshots _ _ _).update hu

theorem Store.referential_exec {pg : Postgres} {s : Store} (h : s.roster.Referential) (op : Op) :
    (s.exec pg op).roster.Referential := by
  rcases s.exec_cases pg op with he | he
  · rw [he]; exact h
  · cases op with
    | page run =>
      cases hb : run.blocked s with
      | true => rw [(he.blocked hb).1]; exact h
      | false => exact referential_applyEvents (h.ensureLeaExists _) (he.roster hb)
    | bulkLoad run => exact referential_bulkLoad pg run h
    | revert run =>
      obtain ⟨outcome, he⟩ := he
      obtain ⟨counts, htables, -⟩ := he.roster
      exact revertTables_induction (P := fun r _ => r.Referential)
        (fun _ _ _ _ _ _ hr _ _ _ hstep => referential_revertRow hr hstep) h htables
    | release run =>
      obtain ⟨_, _, _, snapshot, id, _, -, -, -, -, -, -, -, -, hu, -⟩ := he.released
      exact (h.modifySnapshots _ _ _).upsert hu
    | reject run =>
      obtain ⟨row, -, -, he⟩ := he
      rw [he]; exact h
    | retry run =>
      obtain ⟨target, -, -, he⟩ := he
      rw [he]; exact h

/-- **The constraints hold in every reachable state.** -/
theorem Store.referential_run (pg : Postgres) (ops : List Op) :
    (Runs.run (Store.exec pg) Store.empty ops).roster.Referential :=
  Runs.run_invariant (I := fun s : Store => s.roster.Referential)
    (fun _ op h => Store.referential_exec h op)
    Roster.Referential.empty ops
