/-
One dict, read by the event path and by the resource path.

The mapper turns a person or an enrollment into a canonical row, the projector turns
the same dict into a row of the snapshot, and a reconciliation compares their leaf
hashes.  They spell two things differently: the projector writes a null first grade as
`None`, where the mapper writes no grade, and it copies a date where the mapper parses
it and the row prints it back.

* `projectStudent_exact`, `projectEnrollment_exact` — when the two projections of a dict
  are the same entry;
* `leaves_agree_iff` — when the two leaves are.
-/
import EdlinkRostering.Convergence

open Reconciliation Convergence

/-! ### The spelling of a dict -/

/-- The first of the person's grades is null. -/
def NullFirstGrade (person : Dict) : Prop :=
  ∃ rest, person.get? "grades" = some (.arr (.null :: rest))

/-- The dates of the enrollment are written `YYYY-MM-DD`. -/
def IsoDates (raw : Dict) : Prop :=
  ∀ key ∈ ["beginDate", "endDate"], ∀ value, optionalStr raw key = some value →
    ∃ d : Date, value = d.isoformat

/-- Both paths spell the dict alike. -/
def SpelledAlike : EntityFamily → Dict → Prop
  | .students, person => ¬ NullFirstGrade person
  | .enrollments, raw => IsoDates raw
  | _, _ => True

section

variable {person raw : Dict} {leaId : LeaId}

theorem first_eq_null {v : Json} : v.first = some .null ↔ ∃ rest, v = .arr (.null :: rest) := by
  cases v with
  | arr elems => cases elems <;> simp [Json.first]
  | str s => cases h : s.toList <;> simp [Json.first, h]
  | null | bool _ | int _ | float _ | obj _ => simp [Json.first]

theorem firstGrade_eq_null : firstGrade person = some (some .null) ↔ NullFirstGrade person := by
  have hnone : ¬ (.arr [] : Json).truthy = true := by simp [Json.truthy]
  rw [NullFirstGrade, firstGrade, Dict.getOr]
  cases hg : person.get? "grades" with
  | none => simp [hnone]
  | some grades =>
    by_cases ht : grades.truthy = true
    · have hfirst : grades.first.map some = some (some .null) ↔ grades.first = some .null := by
        cases grades.first <;> simp
      simp only [ht, if_true, hfirst, first_eq_null, Option.some.injEq]
    · -- a list with an element is true
      have hempty : ∀ rest, grades ≠ .arr (.null :: rest) := by
        rintro rest rfl
        exact ht (by simp [Json.truthy])
      simp [ht, hnone, hempty]

/-- **The two drop the same persons**, of those the mapper accepts. -/
theorem drops_iff (h : (personToStudent person leaId).isSome = true) :
    personToStudent person leaId = some none ↔ projectStudent person = some none := by
  obtain ⟨student?, hs⟩ := Option.isSome_iff_exists.mp h
  have hs' := hs
  simp only [personToStudent, Option.bind_eq_bind, Option.bind_eq_some_iff] at hs'
  obtain ⟨role, hrole, hs'⟩ := hs'
  cases role with
  | false =>
    obtain rfl : student? = none := (Option.some.inj hs').symm
    rw [hs, projectStudent, hrole]
    simp
  | true =>
    simp only [if_true, Option.bind_eq_some_iff, Option.some.injEq] at hs'
    obtain ⟨grade, hgrade, school, hschool, id, hid, _, -, rfl⟩ := hs'
    rw [hs, projectStudent, hrole]
    simp [hgrade, hschool, hid]

/-- **The two projections of a student** are one entry unless the first grade is null. -/
theorem projectStudent_exact {student : Student}
    (h : personToStudent person leaId = some (some student)) :
    ∃ entry, projectStudent person = some (some entry) ∧ Projects .students entry ∧
      (entry = (CanonicalEntity.student student).entry ↔ ¬ NullFirstGrade person) := by
  by_cases hnull : NullFirstGrade person
  · -- the projector writes the text of `None`
    have hgrade := firstGrade_eq_null.mpr hnull
    simp only [personToStudent, Option.bind_eq_bind, Option.bind_eq_some_iff] at h
    obtain ⟨role, hrole, h⟩ := h
    split at h
    · next hstudent =>
      simp only [hgrade, Option.bind_eq_some_iff, Option.some.injEq] at h
      obtain ⟨_, rfl, school, hschool, id, hid, _, -, rfl⟩ := h
      refine ⟨[("id", .str id), ("given_name", .str (strOrEmpty person "givenName")),
        ("family_name", .str (strOrEmpty person "familyName")),
        ("grade", .ofOption (some Json.null.pyStr)),
        ("preferred_first_name", .ofOption (optionalStr person "preferredFirstName")),
        ("primary_school_id", .ofOption school)], ?_, projects_student _ _ _ _ _ _, ?_⟩
      · simp [projectStudent, hrole, hstudent, hgrade, hschool, hid]
      · refine iff_of_false (fun heq => ?_) fun hn => hn hnull
        have hcolumn := (Prod.mk.inj (List.cons.inj (List.cons.inj (List.cons.inj
          (List.cons.inj heq).2).2).2).1).2
        simp [SnapshotValue.ofOption, Json.ofOption] at hcolumn
    · exact absurd h (by simp)
  · have hgrade := mt firstGrade_eq_null.mp hnull
    exact ⟨_, projectStudent_eq h hgrade, projects_student _ _ _ _ _ _,
      iff_of_true rfl hnull⟩

/-- The text of a date that the mapper parsed. -/
theorem optionalStr_of_parse {key : String} {d? : Option Date}
    (h : (optionalStr raw key).map Date.fromisoformat = d?.map some) :
    (optionalStr raw key = d?.map Date.isoformat) ↔
      ∀ value, optionalStr raw key = some value → ∃ d : Date, value = d.isoformat := by
  cases hvalue : optionalStr raw key with
  | none =>
    obtain rfl : d? = none := by
      rw [hvalue] at h
      exact (Option.map_eq_none_iff.mp h.symm)
    simp
  | some value =>
    rw [hvalue] at h
    obtain ⟨d, rfl, hd⟩ := Option.map_eq_some_iff.mp h.symm
    rw [Option.map_some, Option.some.injEq]
    constructor
    · rintro heq _ hv
      exact ⟨d, (Option.some.inj hv).symm.trans heq⟩
    · intro hiso
      obtain ⟨d', rfl⟩ := hiso value rfl
      rw [Date.fromisoformat_isoformat] at hd
      rw [Option.some.inj hd]

/-- **The two projections of an enrollment** are one entry when its dates are in ISO
form. -/
theorem projectEnrollment_exact {enrollment : Enrollment}
    (h : enrollmentToCanonical raw leaId = some enrollment) :
    ∃ entry, projectEnrollment raw = some (some entry) ∧ Projects .enrollments entry ∧
      (entry = (CanonicalEntity.enrollment enrollment).entry ↔ IsoDates raw) := by
  simp only [enrollmentToCanonical, Option.bind_eq_bind, Option.bind_eq_some_iff,
    Option.some.injEq] at h
  obtain ⟨id, hid, student, ⟨user, huser, hstudent⟩, cls, ⟨ref, href, hclass⟩, beginDate, hbegin,
    endDate, hend, rfl⟩ := h
  have hfirst : (optionalStr raw "beginDate").map Date.fromisoformat
      = (some beginDate).map some := by
    obtain ⟨text, htext, hparse⟩ := Option.bind_eq_some_iff.mp hbegin
    rw [htext, Option.map_some, hparse, Option.map_some]
  have hlast : (optionalStr raw "endDate").map Date.fromisoformat = endDate.map some := by
    rw [parseDateOptional] at hend
    split at hend
    · next hnone => rw [hnone, ← Option.some.inj hend]; rfl
    · next value hvalue =>
      obtain ⟨d, hd, rfl⟩ := Option.map_eq_some_iff.mp hend
      rw [hvalue, Option.map_some, hd, Option.map_some]
  refine ⟨[("id", .str id), ("student_id", .str student), ("class_id", .str cls),
    ("begin_date", .ofOption (optionalStr raw "beginDate")),
    ("end_date", .ofOption (optionalStr raw "endDate"))], ?_, projects_enrollment _ _ _ _ _, ?_⟩
  · simp [projectEnrollment, hid, huser, hstudent, href, hclass]
  · have hcolumns : IsoDates raw ↔
        optionalStr raw "beginDate" = some beginDate.isoformat ∧
        optionalStr raw "endDate" = endDate.map Date.isoformat := by
      rw [optionalStr_of_parse hlast]
      refine Iff.trans ?_ (and_congr_left' (optionalStr_of_parse hfirst).symm)
      simp [IsoDates]
    rw [hcolumns]
    have hinj : ∀ v w : Option String,
        SnapshotValue.ofOption v = SnapshotValue.ofOption w ↔ v = w := by
      intro v w
      simp [SnapshotValue.ofOption, Json.ofOption_inj]
    have hiso : (endDate.map DateField.date).map DateField.iso = endDate.map Date.isoformat := by
      cases endDate <;> rfl
    simp [CanonicalEntity.entry, hinj, SnapshotValue.str, hiso, DateField.iso]

end

/-! ### The row that is written -/

section

variable {pg : Postgres} {leaId : LeaId} {event : EdLinkEvent} {n : NormalizedEvent}
  {family : EntityFamily} {now : Instant} {row : CanonicalRow}

/-- The row of a mapped event has the columns of its entry. -/
theorem hashed_canonicalRow (h : event.normalize leaId = some (some n))
    (hfamily : event.family? = some family) (hrow : n.canonicalRow pg now = some row) :
    row.hashed n.naturalKey = SnapshotEntry.row leaId family n.entity.entry := by
  obtain ⟨_, -, ⟨hword, student, hs, rfl⟩ | ⟨hword, enrollment, hs, rfl⟩⟩ := normalize_eq_some h
  · obtain rfl : family = .students :=
      Option.some.inj (hfamily.symm.trans (EdLinkEvent.family?_students.mpr hword))
    rw [← Option.some.inj hrow]
    simp only [personToStudent, Option.bind_eq_bind, Option.bind_eq_some_iff] at hs
    obtain ⟨role, -, hs⟩ := hs
    split at hs
    · simp only [Option.bind_eq_some_iff, Option.some.injEq] at hs
      obtain ⟨_, -, _, -, _, -, _, -, rfl⟩ := hs
      rfl
    · exact absurd hs (by simp)
  · obtain rfl : family = .enrollments :=
      Option.some.inj (hfamily.symm.trans (EdLinkEvent.family?_enrollments.mpr hword))
    simp only [enrollmentToCanonical, Option.bind_eq_bind, Option.bind_eq_some_iff,
      Option.some.injEq] at hs
    obtain ⟨_, -, _, -, _, -, beginDate, -, endDate, -, rfl⟩ := hs
    simp only [NormalizedEvent.canonicalRow, EdLinkEvent.envelope, Postgres.bindDate_date,
      Postgres.bindDate?_map_date, Option.bind_eq_bind, Option.bind_some,
      Option.some.injEq] at hrow
    rw [← hrow]
    cases endDate <;> rfl

/-- Every hashed column of an entry is a text or `NULL`. -/
theorem Projects.cell {entry : SnapshotEntry} (h : Projects family entry) (leaId : LeaId)
    (col : String) : (SnapshotEntry.getattr leaId entry col).Cell := by
  obtain ⟨value, rfl⟩ := h
  unfold SnapshotEntry.getattr
  split
  · exact Or.inr ⟨leaId, rfl⟩
  split
  · exact Or.inl rfl
  · next v hv =>
    obtain ⟨_, _, hsplit, -⟩ := List.lookup_eq_some_iff.mp hv
    obtain ⟨c, -, hpair⟩ := List.mem_map.mp (hsplit ▸ List.mem_append_right _ List.mem_cons_self)
    rw [← (Prod.mk.inj hpair).2]
    exact cell_ofOption (value c)

/-- What the projector makes of the dict of a mapped event. -/
theorem projectResource_exact (h : event.normalize leaId = some (some n))
    (hfamily : event.family? = some family) :
    ∃ entry, projectResource family event.data = some (some entry) ∧ Projects family entry ∧
      Projects family n.entity.entry ∧
      (entry = n.entity.entry ↔ SpelledAlike family event.data) := by
  obtain ⟨_, -, ⟨hword, student, hs, rfl⟩ | ⟨hword, enrollment, hs, rfl⟩⟩ := normalize_eq_some h
  · obtain rfl : family = .students :=
      Option.some.inj (hfamily.symm.trans (EdLinkEvent.family?_students.mpr hword))
    obtain ⟨entry, hentry, hprojects, hiff⟩ := projectStudent_exact hs
    exact ⟨entry, hentry, hprojects, projects_student _ _ _ _ _ _, hiff⟩
  · obtain rfl : family = .enrollments :=
      Option.some.inj (hfamily.symm.trans (EdLinkEvent.family?_enrollments.mpr hword))
    obtain ⟨entry, hentry, hprojects, hiff⟩ := projectEnrollment_exact hs
    exact ⟨entry, hentry, hprojects, projects_enrollment _ _ _ _ _, hiff⟩

/-- Entries whose rows have one leaf are equal, where the digest tells the texts apart. -/
theorem hashRow_eq_iff {sha : Sha256} {entry written : SnapshotEntry}
    (hentry : Projects family entry) (hwritten : Projects family written)
    (hinj : Set.InjOn sha.hexdigest {rowText (SnapshotEntry.row leaId family written),
      rowText (SnapshotEntry.row leaId family entry)}) :
    hashRow sha (SnapshotEntry.row leaId family written)
      = hashRow sha (SnapshotEntry.row leaId family entry) ↔ entry = written := by
  constructor
  · intro hhash
    have htext := hinj (Set.mem_insert _ _) (Set.mem_insert_of_mem _ rfl) hhash
    have hrow := rowText_inj (hwritten.cell leaId)
      (fun col => (hentry.cell leaId col).printed) htext
    exact hentry.row_inj hwritten hrow.symm
  · intro heq
    rw [heq]

end

/-! ### The result -/

/-- **Mapper and projector.**  Of the persons the mapper accepts, the projector drops the
same.  Of a person or an enrollment that is kept, the row the worker writes and the
projected row have the same leaf exactly when the dict is spelled alike: the first grade
of a person is not null, the dates of an enrollment are written `YYYY-MM-DD`. -/
theorem leaves_agree_iff (pg : Postgres) (sha : Sha256) (leaId : LeaId) :
    (∀ person, (personToStudent person leaId).isSome = true →
      (personToStudent person leaId = some none ↔ projectStudent person = some none)) ∧
    ∀ (event : EdLinkEvent) (family : EntityFamily) (n : NormalizedEvent),
      event.family? = some family → event.normalize leaId = some (some n) →
      ∀ (syncJobId : Uuid) (now : Instant) (r r' : Roster), r.dedups pg leaId n = false →
        applyEventRoster pg leaId syncJobId now r n = some r' →
        ∃ row entry, r'.canonical n.entityType n.naturalKey = some row ∧
          projectResource family event.data = some (some entry) ∧
          (Set.InjOn sha.hexdigest {rowText (row.hashed n.naturalKey),
              rowText (SnapshotEntry.row leaId family entry)} →
            (hashRow sha (row.hashed n.naturalKey)
                = hashRow sha (SnapshotEntry.row leaId family entry) ↔
              SpelledAlike family event.data)) := by
  refine ⟨fun person h => drops_iff h, ?_⟩
  intro event family n hfamily hnorm syncJobId now r r' hnew happly
  obtain ⟨entry, hproject, hentry, hwritten, hiff⟩ := projectResource_exact hnorm hfamily
  rcases applyEventRoster_eq_some.mp happly with ⟨hd, -⟩ | ⟨-, row, hrow, -, rfl⟩
  · rw [hnew] at hd
    exact absurd hd (by simp)
  refine ⟨row, entry, ?_, hproject, fun hinj => ?_⟩
  · rw [Roster.canonical_setCanonical, canonicalRow_entityType hrow, if_pos ⟨rfl, rfl⟩]
  · rw [hashed_canonicalRow hnorm hfamily hrow] at hinj ⊢
    exact (hashRow_eq_iff hentry hwritten hinj).trans hiff

/-! ### A null grade and a compact date -/

namespace Projection

/-- Alex, whose one grade is null. -/
def alexUngraded : EdLinkEvent :=
  { alexEnrolls with
    data := [("sourcedId", .str "s1"), ("givenName", .str "Alex"), ("familyName", .str "Diaz"),
      ("grades", .arr [.null]), ("roles", .arr [.str "student"])] }

/-- Alex's enrollment, from a date without separators. -/
def alexInMath : EdLinkEvent where
  id := "evt_4"
  date := 3
  type := "enrollment.created"
  data := [("sourcedId", .str "e1"), ("user", .str "s1"), ("class", .str "c1"),
    ("beginDate", .str "20260815")]

def studentEntry (grade : Option String) : SnapshotEntry :=
  (CanonicalEntity.student
    { id := "s1", leaId := "L1", givenName := "Alex", familyName := "Diaz", grade := grade }).entry

def enrollmentEntry (beginDate : String) : SnapshotEntry :=
  [("id", .str "e1"), ("student_id", .str "s1"), ("class_id", .str "c1"),
    ("begin_date", .str beginDate), ("end_date", .ofOption none)]

/-- SHA-256 on the texts below. -/
def spellings : List (List Char × Nat) :=
  [(rowText (SnapshotEntry.row "L1" .students (studentEntry none)),
      0xdace01ad3e9a51aa0d98f9373706f62827ba78f27b278a66dc3aa65fb50afcc1),
    (rowText (SnapshotEntry.row "L1" .students (studentEntry (some "None"))),
      0xb1f15ed2f4f7e13cd031abe1709fd9d037e66c434e7b1735fdbfe3b761c31570),
    (rowText (SnapshotEntry.row "L1" .enrollments (enrollmentEntry "2026-08-15")),
      0x8da10093a9b82e1416d2143242a48adfeff6ca76b122d74f61d0eb154b4a502e),
    (rowText (SnapshotEntry.row "L1" .enrollments (enrollmentEntry "20260815")),
      0x08cccfce65a525f2366524f9df15ca171a9d8557156e95ea8ca26c5ac55c4260)]

/-- The leaves of the row a worker writes for the event, and of its projection. -/
def leafPair (sha : Sha256) (r : Roster) (event : EdLinkEvent) (family : EntityFamily) :
    Option (List Char × List Char) := do
  let n ← (event.normalize "L1").join
  let r' ← applyEventRoster Postgres.reference "L1" "job-1" 0 r n
  let row ← r'.canonical n.entityType n.naturalKey
  let entry ← (projectResource family event.data).join
  some (hashRow sha (row.hashed n.naturalKey), hashRow sha (SnapshotEntry.row "L1" family entry))

theorem leafPair_eq_some {sha : Sha256} {r : Roster} {event : EdLinkEvent} {family : EntityFamily}
    {pair : List Char × List Char} (h : leafPair sha r event family = some pair) :
    ∃ n r' row entry, event.normalize "L1" = some (some n) ∧
      applyEventRoster Postgres.reference "L1" "job-1" 0 r n = some r' ∧
      r'.canonical n.entityType n.naturalKey = some row ∧
      projectResource family event.data = some (some entry) ∧
      hashRow sha (row.hashed n.naturalKey) = pair.1 ∧
      hashRow sha (SnapshotEntry.row "L1" family entry) = pair.2 := by
  simp only [leafPair, Option.bind_eq_bind, Option.bind_eq_some_iff, Option.join_eq_some_iff,
    Option.some.injEq] at h
  obtain ⟨n, hn, r', hr', row, hrow, entry, hentry, rfl⟩ := h
  exact ⟨n, r', row, entry, hn, hr', hrow, hentry, rfl, rfl⟩

/-- Alex's row has one leaf on both sides. -/
theorem leaves_agree_alexEnrolls :
    ∃ n r' row entry, alexEnrolls.normalize "L1" = some (some n) ∧
      applyEventRoster Postgres.reference "L1" "job-1" 0 unrostered.roster n = some r' ∧
      r'.canonical n.entityType n.naturalKey = some row ∧
      projectResource .students alexEnrolls.data = some (some entry) ∧
      hashRow alexSha (row.hashed n.naturalKey)
        = hashRow alexSha (SnapshotEntry.row "L1" .students entry) := by
  have hpair : (leafPair alexSha unrostered.roster alexEnrolls .students).isSome = true := by
    decide +kernel
  obtain ⟨pair, hpair⟩ := Option.isSome_iff_exists.mp hpair
  obtain ⟨n, r', row, entry, hnorm, happly, hrow, hentry, -⟩ := leafPair_eq_some hpair
  have hnew : ((alexEnrolls.normalize "L1").join.map fun n =>
      unrostered.roster.dedups Postgres.reference "L1" n) = some false := by decide +kernel
  rw [hnorm, Option.join_some, Option.map_some, Option.some.injEq] at hnew
  have hspelled : SpelledAlike .students alexEnrolls.data := by
    rintro ⟨rest, hgrades⟩
    have hfirst : firstGrade alexEnrolls.data = some (some (.str "05")) := by decide
    rw [firstGrade_eq_null.mpr ⟨rest, hgrades⟩] at hfirst
    exact absurd hfirst (by simp)
  -- the two texts are one
  have htexts : ((alexEnrolls.normalize "L1").join.bind fun n =>
      (applyEventRoster Postgres.reference "L1" "job-1" 0 unrostered.roster n).bind fun r' =>
        (r'.canonical n.entityType n.naturalKey).map fun row => row.hashed n.naturalKey)
      = some (alexRow "05") ∧
      (projectResource .students alexEnrolls.data).join.map (SnapshotEntry.row "L1" .students)
        = some (alexRow "05") := by
    constructor <;> decide +kernel
  simp only [hnorm, happly, hrow, hentry, Option.join_some, Option.bind_some, Option.map_some,
    Option.some.injEq] at htexts
  refine ⟨n, r', row, entry, hnorm, happly, hrow, hentry, ?_⟩
  obtain ⟨row', entry', hrow', hentry', hiff⟩ :=
    (leaves_agree_iff Postgres.reference alexSha "L1").2 alexEnrolls .students n (by decide) hnorm
      "job-1" 0 unrostered.roster r' hnew happly
  obtain rfl : row' = row := Option.some.inj (hrow'.symm.trans hrow)
  obtain rfl : entry' = entry := Option.some.inj (Option.some.inj (hentry'.symm.trans hentry))
  refine (hiff ?_).mpr hspelled
  rw [htexts.1, htexts.2]
  refine injOn_alexSha fun text ht => ?_
  rcases ht with rfl | rfl <;> simp [alexTable]

/-- Two dicts the mapper accepts and the leaves tell apart. -/
theorem leaves_differ :
    (∃ n r' row entry, alexUngraded.normalize "L1" = some (some n) ∧
      applyEventRoster Postgres.reference "L1" "job-1" 0 unrostered.roster n = some r' ∧
      r'.canonical n.entityType n.naturalKey = some row ∧
      projectResource .students alexUngraded.data = some (some entry) ∧
      hashRow (ofTable spellings) (row.hashed n.naturalKey)
        ≠ hashRow (ofTable spellings) (SnapshotEntry.row "L1" .students entry)) ∧
    ∃ n r' row entry, alexInMath.normalize "L1" = some (some n) ∧
      applyEventRoster Postgres.reference "L1" "job-1" 0 rostered.roster n = some r' ∧
      r'.canonical n.entityType n.naturalKey = some row ∧
      projectResource .enrollments alexInMath.data = some (some entry) ∧
      hashRow (ofTable spellings) (row.hashed n.naturalKey)
        ≠ hashRow (ofTable spellings) (SnapshotEntry.row "L1" .enrollments entry) := by
  have hdiffer : ∀ {r : Roster} {event : EdLinkEvent} {family : EntityFamily},
      (leafPair (ofTable spellings) r event family).any (fun pair => pair.1 ≠ pair.2) = true →
      ∃ n r' row entry, event.normalize "L1" = some (some n) ∧
        applyEventRoster Postgres.reference "L1" "job-1" 0 r n = some r' ∧
        r'.canonical n.entityType n.naturalKey = some row ∧
        projectResource family event.data = some (some entry) ∧
        hashRow (ofTable spellings) (row.hashed n.naturalKey)
          ≠ hashRow (ofTable spellings) (SnapshotEntry.row "L1" family entry) := by
    intro r event family h
    simp only [Option.any_eq_true, decide_eq_true_eq] at h
    obtain ⟨pair, hpair, hne⟩ := h
    obtain ⟨n, r', row, entry, hnorm, happly, hrow, hentry, hfirst, hsecond⟩ :=
      leafPair_eq_some hpair
    refine ⟨n, r', row, entry, hnorm, happly, hrow, hentry, ?_⟩
    rw [hfirst, hsecond]
    exact hne
  exact ⟨hdiffer (by decide +kernel), hdiffer (by decide +kernel)⟩

end Projection
