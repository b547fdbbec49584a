/-
The event path and the resource path of one history.

The partner's side of a reconciliation is the end state of the history, projected by
the walk; the canonical side is what the drained events left.  Each is a function from
the keys of a family to hashed rows, and a run reports matched exactly when they are
the same function.  They are not for every history: the event path writes no class,
session or school, drops the event by which a person stops being a student, and keeps
the event with the greatest id where the partner keeps the last.

* `Converges` — the histories whose two paths agree;
* `matched_iff_converges` — a run after a drain reports matched exactly on those;
* `Plain.converges` — histories as the fixtures write them, without classes, converge.
-/
import EdlinkRostering.EndState
import EdlinkRostering.System

open Reconciliation

/-! ### The condition -/

/-- **The two paths agree.**  The partner ends with no class, session or school, and
under every key the standing event and the end state have the same columns, or both
have nothing. -/
structure Converges (leaId : LeaId) (history : List EdLinkEvent) : Prop where
  students : ∀ k, eventEntry leaId history .student k = resourceEntry history .students k
  enrollments : ∀ k, eventEntry leaId history .enrollment k = resourceEntry history .enrollments k
  classes : endRows history .classes = []
  academicSessions : endRows history .academicSessions = []
  schools : ∀ org ∈ endRows history .schools, isSchool org = false

/-! ### What the drain promises the walk -/

section

variable {leaId : LeaId} {history : List EdLinkEvent} {resources : String → List Dict}
  {k : String} {raw : Dict}

/-- A person the event path can read, the walk can. -/
theorem projectStudent_isSome (h : (personToStudent raw leaId).isSome = true) :
    (projectStudent raw).isSome = true := by
  obtain ⟨student, hs⟩ := Option.isSome_iff_exists.mp h
  simp only [personToStudent, Option.bind_eq_bind, Option.bind_eq_some_iff] at hs
  obtain ⟨role, hrole, hs⟩ := hs
  rw [projectStudent, hrole]
  cases role with
  | false => rfl
  | true =>
    simp only [if_true, Option.bind_eq_some_iff] at hs
    obtain ⟨grade, hgrade, school, hschool, id, hid, -⟩ := hs
    simp [hgrade, hschool, hid]

/-- So with an enrollment. -/
theorem projectEnrollment_isSome (h : (enrollmentToCanonical raw leaId).isSome = true) :
    (projectEnrollment raw).isSome = true := by
  obtain ⟨enrollment, hs⟩ := Option.isSome_iff_exists.mp h
  simp only [enrollmentToCanonical, Option.bind_eq_bind, Option.bind_eq_some_iff] at hs
  obtain ⟨id, hid, student, ⟨user, huser, hstudent⟩, cls, ⟨ref, href, hclass⟩, -⟩ := hs
  simp [projectEnrollment, hid, huser, hstudent, href, hclass]

/-- The walk projects the students and enrollments of a history that was drained. -/
theorem projects_of_readable {family : EntityFamily}
    (hfamily : family = .students ∨ family = .enrollments) (hread : Readable leaId history)
    (hlists : ListsEndState history resources) :
    ∃ entries, projectAll family (resources family.resource) = some entries := by
  refine ⟨_, collect_eq_some.mpr ⟨fun raw hraw => ?_, rfl⟩⟩
  obtain ⟨k, hstate⟩ := mem_endRows.mp ((hlists family).mem_iff.mp hraw)
  obtain ⟨e, hmem, hchange, -, rfl⟩ := endState_eq_some hstate
  simp only [EdLinkEvent.changes, Bool.and_eq_true, decide_eq_true_eq] at hchange
  obtain ⟨operation, hop⟩ := Option.isSome_iff_exists.mp hchange.1.2
  have hnorm := hread e hmem
  rcases hfamily with rfl | rfl
  · rw [normalize_person leaId (EdLinkEvent.family?_students.mp hchange.1.1) hop,
      Option.isSome_map] at hnorm
    exact projectStudent_isSome hnorm
  · rw [normalize_enrollment leaId (EdLinkEvent.family?_enrollments.mp hchange.1.1) hop,
      Option.isSome_map] at hnorm
    exact projectEnrollment_isSome hnorm

end

/-! ### The families the event path does not write -/

section

variable {history : List EdLinkEvent} {resources : String → List Dict} {family : EntityFamily}
  {entries : List SnapshotEntry}

theorem entries_eq_nil (hlists : ListsEndState history resources)
    (hall : projectAll family (resources family.resource) = some entries) :
    entries = [] ↔ ∀ raw ∈ endRows history family, projectResource family raw = some none := by
  obtain ⟨hsome, rfl⟩ := collect_eq_some.mp hall
  rw [List.filterMap_eq_nil_iff]
  constructor
  · intro hnone raw hraw
    have hmem := (hlists family).mem_iff.mpr hraw
    obtain ⟨row, hrow⟩ := Option.isSome_iff_exists.mp (hsome raw hmem)
    have hjoin := hnone raw hmem
    rw [hrow, Option.join_some] at hjoin
    rw [hrow, hjoin]
  · intro hskip raw hraw
    rw [hskip raw ((hlists family).mem_iff.mp hraw)]
    rfl

/-- Classes and sessions are never skipped. -/
theorem skips_nothing (hfamily : family = .classes ∨ family = .academicSessions) (raw : Dict) :
    projectResource family raw ≠ some none := by
  intro h
  rcases hfamily with rfl | rfl
  · simp only [projectResource, projectClass, Option.bind_eq_bind, Option.bind_eq_some_iff] at h
    obtain ⟨_, -, _, -, _, -, h⟩ := h
    exact absurd h (by simp)
  · simp only [projectResource, projectAcademicSession, Option.bind_eq_bind,
      Option.bind_eq_some_iff] at h
    obtain ⟨_, -, h⟩ := h
    exact absurd h (by simp)

theorem entries_eq_nil_of_keeps (hfamily : family = .classes ∨ family = .academicSessions)
    (hlists : ListsEndState history resources)
    (hall : projectAll family (resources family.resource) = some entries) :
    entries = [] ↔ endRows history family = [] := by
  rw [entries_eq_nil hlists hall, List.eq_nil_iff_forall_not_mem]
  exact forall₂_congr fun raw _ => ⟨fun h => absurd h (skips_nothing hfamily raw), False.elim⟩

/-- Of the orgs the walk skips those that are not schools. -/
theorem projectSchool_eq_none {raw : Dict} :
    projectSchool raw = some none ↔ isSchool raw = false := by
  rw [projectSchool]
  cases hs : isSchool raw with
  | false => simp
  | true =>
    simp only [if_true, Option.bind_eq_bind, Option.bind_eq_some_iff, reduceCtorEq, iff_false]
    rintro ⟨_, -, _, -, h⟩
    exact absurd h (by simp)

end

/-! ### Histories that converge -/

/-- A history as the fixtures write it: event ids rise, every person is a student whose
first grade is not null, dates are in ISO form, and there is no class, session or
school. -/
structure Plain (history : List EdLinkEvent) : Prop where
  rising : history.Pairwise fun e e' => e.id < e'.id
  students : ∀ e ∈ history, e.family? = some .students →
    hasStudentRole e.data = some true ∧ firstGrade e.data ≠ some (some .null)
  dates : ∀ e ∈ history, e.family? = some .enrollments → ∀ key ∈ ["beginDate", "endDate"],
    ∀ value, optionalStr e.data key = some value → ∃ d : Date, value = d.isoformat
  rostered : ∀ e ∈ history, e.family? ≠ some .classes ∧ e.family? ≠ some .academicSessions ∧
    (e.family? = some .schools → isSchool e.data = false)

section

variable {leaId : LeaId} {history : List EdLinkEvent} {raw : Dict} {k : String}

/-- The two projections of a student differ only where the first grade is null. -/
theorem projectStudent_eq {student : Student} (h : personToStudent raw leaId = some (some student))
    (hgrade : firstGrade raw ≠ some (some .null)) :
    projectStudent raw = some (some (CanonicalEntity.student student).entry) := by
  simp only [personToStudent, Option.bind_eq_bind, Option.bind_eq_some_iff] at h
  obtain ⟨role, hrole, h⟩ := h
  split at h
  swap
  · exact absurd h (by simp)
  next hstudent =>
  simp only [Option.bind_eq_some_iff, Option.some.injEq] at h
  obtain ⟨grade, hg, school, hschool, id, hid, _, -, rfl⟩ := h
  have hcolumn : (grade.bind fun grade => if grade = .null then none else some grade.pyStr)
      = grade.map Json.pyStr := by
    cases grade with
    | none => rfl
    | some value =>
      have hvalue : value ≠ .null := fun h => hgrade (h ▸ hg)
      simp [hvalue]
  simp [projectStudent, hrole, hstudent, hg, hschool, hid, CanonicalEntity.entry, hcolumn]

/-- The two projections of an enrollment differ only where a date is not in ISO form. -/
theorem projectEnrollment_eq {enrollment : Enrollment}
    (h : enrollmentToCanonical raw leaId = some enrollment)
    (hdates : ∀ key ∈ ["beginDate", "endDate"], ∀ value, optionalStr raw key = some value →
      ∃ d : Date, value = d.isoformat) :
    projectEnrollment raw = some (some (CanonicalEntity.enrollment enrollment).entry) := by
  simp only [enrollmentToCanonical, Option.bind_eq_bind, Option.bind_eq_some_iff,
    Option.some.injEq] at h
  obtain ⟨id, hid, student, ⟨user, huser, hstudent⟩, cls, ⟨ref, href, hclass⟩, beginDate, hbegin,
    endDate, hend, rfl⟩ := h
  obtain ⟨text, htext, hparse⟩ := Option.bind_eq_some_iff.mp hbegin
  obtain ⟨d, rfl⟩ := hdates "beginDate" (by simp) text htext
  obtain rfl : d = beginDate := Option.some.inj ((Date.fromisoformat_isoformat d).symm.trans hparse)
  have hlast : optionalStr raw "endDate" = endDate.map Date.isoformat := by
    rw [parseDateOptional] at hend
    split at hend
    · next hnone =>
      rw [hnone, ← Option.some.inj hend]
      rfl
    · next value hvalue =>
      obtain ⟨d, rfl⟩ := hdates "endDate" (by simp) value hvalue
      rw [Date.fromisoformat_isoformat] at hend
      rw [hvalue, ← Option.some.inj hend]
      rfl
  simp only [projectEnrollment, hid, huser, hstudent, href, hclass, htext, hlast,
    Option.bind_eq_bind, Option.bind_some, CanonicalEntity.entry]
  cases endDate <;> rfl

/-- The last value of a partial map, where it has one. -/
theorem getLast?_filterMap {α β : Type} {f : α → Option β} {l : List α}
    (h : ∀ a ∈ l, (f a).isSome = true) : (l.filterMap f).getLast? = l.getLast?.bind f := by
  rcases List.eq_nil_or_concat l with rfl | ⟨init, a, rfl⟩
  · rfl
  · obtain ⟨b, hb⟩ := Option.isSome_iff_exists.mp
      (h a (by rw [List.concat_eq_append]; exact List.mem_append_right _ List.mem_cons_self))
    simp [List.concat_eq_append, List.filterMap_append, hb]

/-- The last change of a key, as the connector maps it, where the ids rise and no change
of the key is dropped. -/
theorem standing_of_rising {et : EntityType} {family : EntityFamily}
    (hrising : history.Pairwise fun e e' => e.id < e'.id)
    (hmapped : ∀ e ∈ history, ((e.normalize leaId).join.filter fun n => n.key = (et, k))
      = if e.changes family k then (e.normalize leaId).join else none)
    (hkept : ∀ e ∈ history, e.changes family k = true → (e.normalize leaId).join.isSome = true) :
    standing et k (mapped leaId history)
      = (lastChange history family k).bind fun e => (e.normalize leaId).join := by
  have hkey : (mapped leaId history).filter (fun n => n.key = (et, k))
      = (history.filter fun e => e.changes family k).filterMap
          fun e => (e.normalize leaId).join := by
    rw [mapped, List.filter_filterMap, List.filterMap_filter]
    exact List.filterMap_congr hmapped
  have hids : ∀ e ∈ history, ∀ n, (e.normalize leaId).join = some n → n.sourceEventId = e.id := by
    intro e _ n hn
    obtain ⟨_, -, ⟨-, _, -, rfl⟩ | ⟨-, _, -, rfl⟩⟩ :=
      normalize_eq_some (Option.join_eq_some_iff.mp hn) <;> rfl
  have hsorted : (mapped leaId history).Pairwise
      fun n n' => n.sourceEventId < n'.sourceEventId := by
    refine List.pairwise_filterMap.mpr (hrising.imp_of_mem ?_)
    intro e e' he he' hlt n hn n' hn'
    rw [hids e he n hn, hids e' he' n' hn']
    exact hlt
  rw [standing, Registers.held_eq_getLast? (hsorted.filter _), hkey]
  exact getLast?_filterMap fun e he =>
    hkept e (List.mem_filter.mp he).1 (List.mem_filter.mp he).2

theorem sourcedId_of_student {student : Student}
    (h : personToStudent raw leaId = some (some student)) : sourcedId raw = some student.id := by
  simp only [personToStudent, Option.bind_eq_bind, Option.bind_eq_some_iff] at h
  obtain ⟨role, -, h⟩ := h
  split at h
  · simp only [Option.bind_eq_some_iff, Option.some.injEq] at h
    obtain ⟨_, -, _, -, id, hid, _, -, rfl⟩ := h
    exact hid
  · exact absurd h (by simp)

theorem sourcedId_of_enrollment {enrollment : Enrollment}
    (h : enrollmentToCanonical raw leaId = some enrollment) :
    sourcedId raw = some enrollment.id := by
  simp only [enrollmentToCanonical, Option.bind_eq_bind, Option.bind_eq_some_iff,
    Option.some.injEq] at h
  obtain ⟨id, hid, _, -, _, -, _, -, _, -, rfl⟩ := h
  exact hid

/-- An event that is not dropped changes the key of what it is mapped to, and no other. -/
theorem key_iff_changes {e : EdLinkEvent} {n : NormalizedEvent}
    (h : e.normalize leaId = some (some n)) (k : String) :
    (n.key = (.student, k) ↔ e.changes .students k = true) ∧
      (n.key = (.enrollment, k) ↔ e.changes .enrollments k = true) := by
  obtain ⟨operation, hop, ⟨hword, student, hs, rfl⟩ | ⟨hword, enrollment, hs, rfl⟩⟩ :=
    normalize_eq_some h
  · have hfamily := EdLinkEvent.family?_students.mpr hword
    have hid := sourcedId_of_student hs
    constructor <;>
      simp [EdLinkEvent.changes, hfamily, hop, hid, NormalizedEvent.key, EdLinkEvent.envelope,
        NormalizedEvent.naturalKey, CanonicalEntity.id]
  · have hfamily := EdLinkEvent.family?_enrollments.mpr hword
    have hid := sourcedId_of_enrollment hs
    constructor <;>
      simp [EdLinkEvent.changes, hfamily, hop, hid, NormalizedEvent.key, EdLinkEvent.envelope,
        NormalizedEvent.naturalKey, CanonicalEntity.id]

/-- The filter of the mapped event by its key. -/
theorem filter_key {e : EdLinkEvent} {et : EntityType} {family : EntityFamily}
    (h : ∀ n, e.normalize leaId = some (some n) → (n.key = (et, k) ↔ e.changes family k = true)) :
    ((e.normalize leaId).join.filter fun n => n.key = (et, k))
      = if e.changes family k then (e.normalize leaId).join else none := by
  cases hn : (e.normalize leaId).join with
  | none => simp
  | some n =>
    have hiff := h n (Option.join_eq_some_iff.mp hn)
    by_cases hc : e.changes family k = true
    · simp [hc, hiff.mpr hc]
    · simp [hc, mt hiff.mp hc]

/-- What a change of a student key is, in a plain history. -/
theorem Plain.student_change (h : Plain history) (hread : Readable leaId history)
    {e : EdLinkEvent} (he : e ∈ history) (hc : e.changes .students k = true) :
    ∃ operation student, operationByAction e.actionWord = some operation ∧
      e.normalize leaId = some (some (e.envelope leaId operation .student (.student student))) ∧
      projectStudent e.data = some (some (CanonicalEntity.student student).entry) := by
  simp only [EdLinkEvent.changes, Bool.and_eq_true, decide_eq_true_eq] at hc
  obtain ⟨hrole, hgrade⟩ := h.students e he hc.1.1
  obtain ⟨operation, hop⟩ := Option.isSome_iff_exists.mp hc.1.2
  have hnorm := normalize_person leaId (EdLinkEvent.family?_students.mp hc.1.1) hop
  have hsome := hread e he
  rw [hnorm, Option.isSome_map] at hsome
  obtain ⟨student?, hs⟩ := Option.isSome_iff_exists.mp hsome
  cases student? with
  | none =>
    -- the person has the role
    simp only [personToStudent, hrole, Option.bind_eq_bind, Option.bind_some, if_true,
      Option.bind_eq_some_iff] at hs
    obtain ⟨_, -, _, -, _, -, _, -, hs⟩ := hs
    exact absurd hs (by simp)
  | some student =>
    rw [hs] at hnorm
    exact ⟨operation, student, hop, hnorm, projectStudent_eq hs hgrade⟩

/-- What a change of an enrollment key is. -/
theorem Plain.enrollment_change (h : Plain history) (hread : Readable leaId history)
    {e : EdLinkEvent} (he : e ∈ history) (hc : e.changes .enrollments k = true) :
    ∃ operation enrollment, operationByAction e.actionWord = some operation ∧
      e.normalize leaId
        = some (some (e.envelope leaId operation .enrollment (.enrollment enrollment))) ∧
      projectEnrollment e.data = some (some (CanonicalEntity.enrollment enrollment).entry) := by
  simp only [EdLinkEvent.changes, Bool.and_eq_true, decide_eq_true_eq] at hc
  obtain ⟨operation, hop⟩ := Option.isSome_iff_exists.mp hc.1.2
  have hnorm := normalize_enrollment leaId (EdLinkEvent.family?_enrollments.mp hc.1.1) hop
  have hsome := hread e he
  rw [hnorm, Option.isSome_map] at hsome
  obtain ⟨enrollment, hs⟩ := Option.isSome_iff_exists.mp hsome
  rw [hs] at hnorm
  exact ⟨operation, enrollment, hop, hnorm, projectEnrollment_eq hs (h.dates e he hc.1.1)⟩

/-- The two entries of a key whose changes are all mapped and projected alike. -/
theorem eventEntry_eq_resourceEntry {et : EntityType} {family : EntityFamily}
    (hrising : history.Pairwise fun e e' => e.id < e'.id)
    (hkey : ∀ (e : EdLinkEvent) n, e.normalize leaId = some (some n) →
      (n.key = (et, k) ↔ e.changes family k = true))
    (hchange : ∀ e ∈ history, e.changes family k = true → ∃ operation entity,
      operationByAction e.actionWord = some operation ∧
      e.normalize leaId = some (some (e.envelope leaId operation et entity)) ∧
      projectResource family e.data = some (some entity.entry)) :
    eventEntry leaId history et k = resourceEntry history family k := by
  have hstanding : standing et k (mapped leaId history)
      = (lastChange history family k).bind fun e => (e.normalize leaId).join := by
    refine standing_of_rising hrising (fun e _ => filter_key (hkey e)) fun e he hc => ?_
    obtain ⟨operation, entity, -, hnorm, -⟩ := hchange e he hc
    rw [hnorm]
    rfl
  rw [eventEntry, resourceEntry, endState, hstanding]
  cases hlast : lastChange history family k with
  | none => rfl
  | some e =>
    obtain ⟨he, hc⟩ := List.mem_filter.mp (List.mem_of_getLast? hlast)
    obtain ⟨operation, entity, hop, hnorm, hproj⟩ := hchange e he hc
    simp only [Option.bind_some, hnorm, Option.join_some, EdLinkEvent.deletes, hop]
    by_cases hd : operation = .deleted
    · simp [hd, EdLinkEvent.envelope, NormalizedEvent.deletedUpstream]
    · simp [hd, EdLinkEvent.envelope, NormalizedEvent.deletedUpstream, hproj]

/-- **A plain history converges.** -/
theorem Plain.converges (h : Plain history) (hread : Readable leaId history) :
    Converges leaId history := by
  have hnone : ∀ family, (∀ e ∈ history, e.family? ≠ some family) →
      endRows history family = [] := by
    intro family hfamily
    refine List.eq_nil_iff_forall_not_mem.mpr fun raw hraw => ?_
    obtain ⟨k, hstate⟩ := mem_endRows.mp hraw
    obtain ⟨e, he, hc, -⟩ := endState_eq_some hstate
    simp only [EdLinkEvent.changes, Bool.and_eq_true, decide_eq_true_eq] at hc
    exact hfamily e he hc.1.1
  refine ⟨fun k => ?_, fun k => ?_, hnone _ fun e he => (h.rostered e he).1,
    hnone _ fun e he => (h.rostered e he).2.1, fun org horg => ?_⟩
  · refine eventEntry_eq_resourceEntry h.rising (fun e n hn => (key_iff_changes hn k).1) ?_
    intro e he hc
    obtain ⟨operation, student, hop, hnorm, hproj⟩ := h.student_change hread he hc
    exact ⟨operation, _, hop, hnorm, hproj⟩
  · refine eventEntry_eq_resourceEntry h.rising (fun e n hn => (key_iff_changes hn k).2) ?_
    intro e he hc
    obtain ⟨operation, enrollment, hop, hnorm, hproj⟩ := h.enrollment_change hread he hc
    exact ⟨operation, _, hop, hnorm, hproj⟩
  · obtain ⟨k, hstate⟩ := mem_endRows.mp horg
    obtain ⟨e, he, hc, -, rfl⟩ := endState_eq_some hstate
    simp only [EdLinkEvent.changes, Bool.and_eq_true, decide_eq_true_eq] at hc
    exact (h.rostered e he).2.2 hc.1.1

end

/-! ### A database after the drain -/

namespace CanonicalDatabase

/-- The database with another store: no service writes the other tables. -/
def withStore (db : CanonicalDatabase) (s : Store) : CanonicalDatabase := { db with toStore := s }

/-- Nothing of the LEA was synced yet: no cursor, no live snapshot and no live row. -/
structure Fresh (db : CanonicalDatabase) (leaId : LeaId) : Prop where
  cursor : (Poll.cursor leaId db.toStore).value = ""
  snapshots : ∀ et, et ≠ .lea → ∀ k, db.roster.live et leaId k = []
  rows : ∀ family, db.liveRows leaId family = []

theorem Fresh.shows {db : CanonicalDatabase} {leaId : LeaId} (h : db.Fresh leaId) (pg : Postgres)
    (history : List EdLinkEvent) : db.toStore.Shows pg leaId history 0 := by
  refine ⟨?_, fun e he => absurd he (by simp), ?_⟩
  · rw [h.cursor]
    exact Delivered.start history
  · have hnone : ∀ et k, standing et k (mapped leaId (history.take 0)) = none := fun _ _ => rfl
    refine ⟨fun et het k => ?_, fun et het k _ row hrow howner => ?_, fun et _ k e he => ?_⟩
    · rw [Roster.latestLiveSourceEventId, h.snapshots et het k, hnone]
      rfl
    · intro hlive
      cases et with
      | lea => exact absurd rfl het
      | student =>
        obtain ⟨r, hr, rfl⟩ := Option.map_eq_some_iff.mp hrow
        have hmem : rowDict EntityFamily.students.columns (StudentRow.getattr k r)
            ∈ db.liveRows leaId .students := mem_liveRows.mpr ⟨k, r, hr, howner, hlive, rfl⟩
        rw [h.rows] at hmem
        exact List.not_mem_nil hmem
      | enrollment =>
        obtain ⟨r, hr, rfl⟩ := Option.map_eq_some_iff.mp hrow
        have hmem : rowDict EntityFamily.enrollments.columns (EnrollmentRow.getattr k r)
            ∈ db.liveRows leaId .enrollments := mem_liveRows.mpr ⟨k, r, hr, howner, hlive, rfl⟩
        rw [h.rows] at hmem
        exact List.not_mem_nil hmem
    · rw [hnone] at he
      exact absurd he (by simp)

end CanonicalDatabase

section

variable {pg : Postgres} {leaId : LeaId} {history : List EdLinkEvent} {db : CanonicalDatabase}
  {s : Store} {resources : String → List Dict} {payload : SnapshotPayload}

/-- The walk of a converging history does not raise. -/
theorem Converges.walks (h : Converges leaId history) (hread : Readable leaId history)
    (hlists : ListsEndState history resources) :
    ∃ payload, walkResources resources = some payload := by
  have hall : ∀ family, ∃ entries,
      projectAll family (resources (EntityFamily.resource family)) = some entries := by
    intro family
    cases family with
    | students => exact projects_of_readable (Or.inl rfl) hread hlists
    | enrollments => exact projects_of_readable (Or.inr rfl) hread hlists
    | classes =>
      have hnil := hlists .classes
      rw [h.classes, List.perm_nil] at hnil
      exact ⟨[], by rw [hnil]; rfl⟩
    | academicSessions =>
      have hnil := hlists .academicSessions
      rw [h.academicSessions, List.perm_nil] at hnil
      exact ⟨[], by rw [hnil]; rfl⟩
    | schools =>
      refine ⟨_, collect_eq_some.mpr ⟨fun raw hraw => ?_, rfl⟩⟩
      have hskip := h.schools raw ((hlists .schools).mem_iff.mp hraw)
      rw [show projectResource .schools raw = some none from projectSchool_eq_none.mpr hskip]
      rfl
  exact ⟨_, walkResources_eq_some.mpr ⟨fun family => (hall family).choose,
    fun family => (hall family).choose_spec, rfl⟩⟩

/-- **The rows of both sides are equal, family by family, exactly on a converging
history.** -/
theorem sameRows_iff_converges (hfresh : db.Fresh leaId)
    (hshows : s.roster.Shows pg leaId (mapped leaId history))
    (hlists : ListsEndState history resources) (hwalk : walkResources resources = some payload) :
    (∀ family, SameRows (db.withStore s) leaId payload family) ↔ Converges leaId history := by
  obtain ⟨entries, hall, rfl⟩ := walkResources_eq_some.mp hwalk
  have hrows : ∀ family, SameRows (db.withStore s) leaId
      (resourceWalk.map fun family => (family.name, entries family)) family ↔
      ((db.withStore s).liveRows leaId family).Perm
        ((entries family).map (SnapshotEntry.row leaId family)) := by
    intro family
    rw [SameRows, rows_walk]
  have hstudents : SameRows (db.withStore s) leaId
      (resourceWalk.map fun family => (family.name, entries family)) .students ↔
      ∀ k, eventEntry leaId history .student k = resourceEntry history .students k := by
    rw [hrows, (listsBy_students (db.withStore s) hshows).perm_iff
      (listsBy_resources (Or.inl rfl) hlists (hall .students))]
    exact forall_congr' fun k => map_row_inj (fun _ => projects_eventEntry_student)
      (fun _ => projects_resourceEntry (Or.inl rfl))
  have henrollments : SameRows (db.withStore s) leaId
      (resourceWalk.map fun family => (family.name, entries family)) .enrollments ↔
      ∀ k, eventEntry leaId history .enrollment k = resourceEntry history .enrollments k := by
    rw [hrows, (listsBy_enrollments (db.withStore s) hshows).perm_iff
      (listsBy_resources (Or.inr rfl) hlists (hall .enrollments))]
    exact forall_congr' fun k => map_row_inj (fun _ => projects_eventEntry_enrollment)
      (fun _ => projects_resourceEntry (Or.inr rfl))
  -- the canonical tables of the other families are empty
  have hempty : ∀ family, (db.withStore s).liveRows leaId family = [] →
      (SameRows (db.withStore s) leaId
        (resourceWalk.map fun family => (family.name, entries family)) family ↔
        entries family = []) := by
    intro family hnil
    rw [hrows, hnil, List.nil_perm, List.map_eq_nil_iff]
  have hclasses := (hempty .classes (hfresh.rows .classes)).trans
    (entries_eq_nil_of_keeps (Or.inl rfl) hlists (hall .classes))
  have hsessions := (hempty .academicSessions (hfresh.rows .academicSessions)).trans
    (entries_eq_nil_of_keeps (Or.inr rfl) hlists (hall .academicSessions))
  have hschools := (hempty .schools (hfresh.rows .schools)).trans
    (entries_eq_nil hlists (hall .schools))
  constructor
  · intro h
    exact ⟨hstudents.mp (h _), henrollments.mp (h _), hclasses.mp (h _), hsessions.mp (h _),
      fun org horg => projectSchool_eq_none.mp (hschools.mp (h _) org horg)⟩
  · intro h family
    cases family with
    | students => exact hstudents.mpr h.students
    | enrollments => exact henrollments.mpr h.enrollments
    | classes => exact hclasses.mpr h.classes
    | academicSessions => exact hsessions.mpr h.academicSessions
    | schools => exact hschools.mpr fun org horg => projectSchool_eq_none.mpr (h.schools org horg)

end

/-! ### A student, and what she becomes -/

namespace Convergence

def person (role : String) : Dict :=
  [("sourcedId", .str "s1"), ("givenName", .str "Alex"), ("familyName", .str "Diaz"),
    ("grades", .arr [.str "05"]), ("roles", .arr [.obj [("role", .str role)]])]

def alexEnrolls : EdLinkEvent where
  id := "evt_1"
  date := 0
  type := "person.created"
  data := person "student"

def alexTeaches : EdLinkEvent where
  id := "evt_2"
  date := 1
  type := "person.updated"
  data := person "teacher"

def mathOpens : EdLinkEvent where
  id := "evt_3"
  date := 2
  type := "class.created"
  data := [("sourcedId", .str "c1"), ("title", .str "Math")]

/-- One poll that sees the whole history. -/
def wholePoll (history : List EdLinkEvent) : Poll where
  log := history
  pageSize := 500
  syncJobId := "job-1"
  now := 3

/-- The store after that poll. -/
def drained (history : List EdLinkEvent) : Store :=
  (wholePoll history).step Postgres.reference "L1" unrostered.toStore

/-- The poll commits its page whole, with nothing more to come. -/
def drainsAtOnce (history : List EdLinkEvent) : Bool :=
  (((wholePoll history).page "L1" unrostered.toStore).all fun page =>
    ((wholePoll history).pageRun "L1" page).accepted unrostered.toStore = page.events) &&
  ((wholePoll history).exec Postgres.reference "L1" unrostered.toStore).2.any fun outcome =>
    outcome.status = .success && !outcome.hasMore

theorem drained_of_drainsAtOnce {history : List EdLinkEvent} (h : drainsAtOnce history = true) :
    Store.Drained Postgres.reference "L1" history unrostered.toStore (drained history) := by
  simp only [drainsAtOnce, Bool.and_eq_true, Option.all_eq_true, decide_eq_true_eq,
    Option.any_eq_true, Bool.not_eq_true'] at h
  obtain ⟨hclean, outcome, hout, hstatus, hmore⟩ := h
  refine ⟨[], wholePoll history, outcome, ⟨⟨List.prefix_rfl, ?_⟩, trivial⟩, rfl, ?_, hstatus, hmore⟩
  · exact hclean
  · exact Prod.ext rfl hout

theorem fresh_unrostered : unrostered.Fresh "L1" where
  cursor := rfl
  snapshots _ _ _ := rfl
  rows family := by cases family <;> rfl

/-- Endpoints that list the people and the classes. -/
def listing (people classes : List Dict) : String → List Dict
  | "people" => people
  | "classes" => classes
  | _ => []

theorem converges_alexEnrolls : Converges "L1" [alexEnrolls] := by
  have hfamily : alexEnrolls.family? = some .students := by decide
  have hplain : Plain [alexEnrolls] := by
    refine ⟨List.pairwise_singleton _ _, fun e he _ => ?_, fun e he hf => ?_, fun e he => ?_⟩ <;>
      obtain rfl := List.mem_singleton.mp he
    · exact ⟨by decide, by decide⟩
    · rw [hfamily] at hf
      exact absurd hf (by simp)
    · simp [hfamily]
  refine hplain.converges fun e he => ?_
  obtain rfl := List.mem_singleton.mp he
  decide

def mathEntry : SnapshotEntry :=
  [("id", .str "c1"), ("title", .str "Math"), ("course_code", .ofOption none),
    ("school_id", .ofOption none), ("term_id", .ofOption none)]

/-- SHA-256 on the texts of the run below. -/
def mathTable : List (List Char × Nat) :=
  let once := 0xff2ff815372b1bdd86577a9976d9fb6183b718737604e05451370f34f71e34db
  let math := 0xea365be843cd232d40c8807461f954fc0857acc81d9c95944fa687351482d7e5
  [([], noRows), (rowText (alexRow "05"), grade05), (digestRecord "s1" grade05, once),
    (rowText (SnapshotEntry.row "L1" .classes mathEntry), math),
    (digestRecord "c1" math, 0x8f6d9360c01379a8f695663ffb7a716d53bd5f54e137ecb811a823888df6e282)]

/-- Alex enrolls and becomes a teacher, and a class opens. -/
def changingYear : List EdLinkEvent := [alexEnrolls, alexTeaches, mathOpens]

/-- The end state of that year. -/
def yearEnd : String → List Dict := listing [person "teacher"] [mathOpens.data]

/-- What the walk makes of it. -/
def yearEndPayload : SnapshotPayload :=
  [("students", []), ("enrollments", []), ("classes", [mathEntry]), ("academic_sessions", []),
    ("schools", [])]

end Convergence

/-! ### The result -/

/-- **Event path and resource path.**  After the whole history of a fresh LEA was drained
with no event rejected or quarantined, whatever the pages were, and with the endpoints
listing its end state, a reconciliation that bypasses the quiet window reports matched
exactly when the history converges. -/
theorem matched_iff_converges (pg : Postgres) (sha : Sha256) (leaId : LeaId)
    (history : List EdLinkEvent) (db : CanonicalDatabase) (s : Store)
    (hfresh : db.Fresh leaId) (hdrained : Store.Drained pg leaId history db.toStore s)
    (resources : String → List Dict) (hlists : ListsEndState history resources)
    (scan : Scan (db.withStore s) leaId) (requireQuietMinutes : Int) (now : Instant)
    (hbypass : requireQuietMinutes ≤ 0)
    (hinj : ∀ payload, walkResources resources = some payload →
      Set.InjOn sha.hexdigest (hashedTexts sha scan.rows (payload.rows leaId))) :
    (∃ payload, walkResources resources = some payload ∧
      (reconcileLea sha scan connectorName payload requireQuietMinutes now).status = .matched) ↔
    Converges leaId history := by
  obtain ⟨hread, hshows⟩ := hdrained.shows (hfresh.shows pg history)
  have hquiet : cursorQuietFor (db.withStore s).toStore leaId connectorName requireQuietMinutes now
      = true := if_pos hbypass
  constructor
  · rintro ⟨payload, hwalk, hmatched⟩
    have hexact := exact_of_outline (outline_reconcileLea hquiet (hinj payload hwalk))
    exact (sameRows_iff_converges hfresh hshows hlists hwalk).mp (hexact.matched.mp hmatched)
  · intro h
    obtain ⟨payload, hwalk⟩ := h.walks hread hlists
    have hexact := exact_of_outline (outline_reconcileLea hquiet (hinj payload hwalk))
    exact ⟨payload, hwalk,
      hexact.matched.mpr ((sameRows_iff_converges hfresh hshows hlists hwalk).mpr h)⟩

namespace Convergence

theorem matched_iff_converges_alexEnrolls :
    ∃ payload, walkResources (listing [person "student"] []) = some payload ∧
      (reconcileLea alexSha (Scan.heap (unrostered.withStore (drained [alexEnrolls])) "L1")
        connectorName payload 0 0).status = .matched := by
  have hrows : (unrostered.withStore (drained [alexEnrolls])).liveRows "L1" .students
      = [alexRow "05"] := by decide +kernel
  have hmid : midText alexSha [alexRow "05"] ∈ alexTable.map Prod.fst := by
    rw [midText_singleton, leaf_grade05]
    show digestRecord "s1" grade05 ∈ alexTable.map Prod.fst
    simp [alexTable]
  refine (matched_iff_converges Postgres.reference alexSha "L1" [alexEnrolls] unrostered
    (drained [alexEnrolls]) fresh_unrostered (drained_of_drainsAtOnce (by decide +kernel))
    (listing [person "student"] []) (fun family => by cases family <;> exact List.Perm.refl _)
    (Scan.heap _ "L1") 0 0 le_rfl fun payload hwalk => ?_).mpr converges_alexEnrolls
  obtain ⟨entries, hall, rfl⟩ := walkResources_eq_some.mp hwalk
  have hentries : ∀ family, family ≠ .students → entries family = [] := by
    intro family hne
    cases family with
    | students => exact absurd rfl hne
    | enrollments => exact (Option.some.inj (hall .enrollments)).symm
    | classes => exact (Option.some.inj (hall .classes)).symm
    | academicSessions => exact (Option.some.inj (hall .academicSessions)).symm
    | schools => exact (Option.some.inj (hall .schools)).symm
  have halex : (entries .students).map (SnapshotEntry.row "L1" .students) = [alexRow "05"] := by
    rw [← Option.some.inj (hall .students)]
    rfl
  refine injOn_students (fun family hf => ⟨?_, ?_⟩) (fun row hrow => ?_) ?_ ?_
  · cases family with
    | students => exact absurd rfl hf
    | enrollments | classes | academicSessions | schools => decide +kernel
  · rw [rows_walk, hentries family hf]
    rfl
  · rw [rows_walk, halex] at hrow
    have hrow : row ∈ [alexRow "05"] ++ [alexRow "05"] := hrows ▸ hrow
    exact Or.inl ((List.mem_pair.mp hrow).elim id id)
  · show midText alexSha
      ((unrostered.withStore (drained [alexEnrolls])).liveRows "L1" .students) ∈ _
    rw [hrows]
    exact hmid
  · rw [rows_walk, halex]
    exact hmid

/-- After a drain the run reports drift: the student is still rostered, the class is
not. -/
theorem paths_diverge :
    unrostered.Fresh "L1" ∧
    Store.Drained Postgres.reference "L1" changingYear unrostered.toStore (drained changingYear) ∧
    ListsEndState changingYear yearEnd ∧ walkResources yearEnd = some yearEndPayload ∧
    Set.InjOn (ofTable mathTable).hexdigest (hashedTexts (ofTable mathTable)
      (Scan.heap (unrostered.withStore (drained changingYear)) "L1").rows
      (yearEndPayload.rows "L1")) ∧
    (reconcileLea (ofTable mathTable) (Scan.heap (unrostered.withStore (drained changingYear)) "L1")
      connectorName yearEndPayload 0 0).status = .driftDetected := by
  refine ⟨fresh_unrostered, drained_of_drainsAtOnce (by decide +kernel),
    fun family => by cases family <;> exact List.Perm.refl _, ?_, ?_, by decide +kernel⟩
  · exact walkResources_eq_some.mpr ⟨fun family => if family = .classes then [mathEntry] else [],
      fun family => by cases family <;> rfl, rfl⟩
  · refine injOn_ofTable (by decide) (by decide) (hashedTexts_subset fun family => ?_)
    cases family <;> decide +kernel

end Convergence
