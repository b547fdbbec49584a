/-
The rows of both sides of a reconciliation, as functions of the keys.

The partner's side is the end state of a history, projected by the walk: the data of
the last change of each entity, unless that deletes it.  The canonical side is what the
standing events left.  Each side lists its rows by key, so that comparing two multisets
of rows is comparing two functions.

* `eventEntry`, `resourceEntry` — what each path has under a key;
* `listsBy_students`, `listsBy_enrollments`, `listsBy_resources` — the rows of the two
  sides;
* `Projects.row_inj` — equal rows come from equal entries.
-/
import EdlinkRostering.Standing
import EdlinkRostering.Drift

open Reconciliation

/-! ### The end state of a history -/

namespace EdLinkEvent

/-- The family of resources that the entity half of `type` names. -/
def family? (event : EdLinkEvent) : Option EntityFamily :=
  match event.entityWord with
  | "person" => some .students
  | "enrollment" => some .enrollments
  | "class" => some .classes
  | "term" => some .academicSessions
  | "org" => some .schools
  | _ => none

/-- The event creates, updates or deletes the entity `k` of the family. -/
def changes (event : EdLinkEvent) (family : EntityFamily) (k : String) : Bool :=
  event.family? = some family && (operationByAction event.actionWord).isSome &&
    sourcedId event.data = some k

theorem family?_students {event : EdLinkEvent} :
    event.family? = some .students ↔ event.entityWord = "person" := by
  rw [family?]
  split <;> simp_all

theorem family?_enrollments {event : EdLinkEvent} :
    event.family? = some .enrollments ↔ event.entityWord = "enrollment" := by
  rw [family?]
  split <;> simp_all

/-- The event deletes its entity. -/
def deletes (event : EdLinkEvent) : Bool := operationByAction event.actionWord = some .deleted

end EdLinkEvent

/-- The last change of an entity. -/
def lastChange (history : List EdLinkEvent) (family : EntityFamily) (k : String) :
    Option EdLinkEvent :=
  (history.filter fun e => e.changes family k).getLast?

/-- The entity as the partner has it after the history. -/
def endState (history : List EdLinkEvent) (family : EntityFamily) (k : String) : Option Dict :=
  (lastChange history family k).bind fun e => if e.deletes then none else some e.data

/-- The entities of a family that the history names. -/
def entityKeys (history : List EdLinkEvent) (family : EntityFamily) : List String :=
  ((history.filter fun e => e.family? = some family).filterMap fun e => sourcedId e.data).dedup

/-- The end state of a family, row by row. -/
def endRows (history : List EdLinkEvent) (family : EntityFamily) : List Dict :=
  (entityKeys history family).filterMap (endState history family)

/-- The endpoints list the end state of the history, in any order. -/
def ListsEndState (history : List EdLinkEvent) (resources : String → List Dict) : Prop :=
  ∀ family, (resources (EntityFamily.resource family)).Perm (endRows history family)

section

variable {history : List EdLinkEvent} {family : EntityFamily} {k : String} {raw : Dict}

theorem endState_eq_some (h : endState history family k = some raw) :
    ∃ e ∈ history, e.changes family k = true ∧ e.deletes = false ∧ raw = e.data := by
  obtain ⟨e, hlast, hdata⟩ := Option.bind_eq_some_iff.mp h
  have hmem := List.mem_filter.mp (List.mem_of_getLast? hlast)
  split at hdata
  · exact absurd hdata (by simp)
  · next hd =>
    exact ⟨e, hmem.1, hmem.2, Bool.eq_false_iff.mpr hd, (Option.some.inj hdata).symm⟩

theorem sourcedId_of_endState (h : endState history family k = some raw) :
    sourcedId raw = some k := by
  obtain ⟨e, -, hc, -, rfl⟩ := endState_eq_some h
  simp only [EdLinkEvent.changes, Bool.and_eq_true, decide_eq_true_eq] at hc
  exact hc.2

theorem mem_entityKeys_of_endState (h : endState history family k = some raw) :
    k ∈ entityKeys history family := by
  obtain ⟨e, hmem, hc, -, rfl⟩ := endState_eq_some h
  simp only [EdLinkEvent.changes, Bool.and_eq_true, decide_eq_true_eq] at hc
  refine List.mem_dedup.mpr (List.mem_filterMap.mpr ⟨e, ?_, hc.2⟩)
  exact List.mem_filter.mpr ⟨hmem, decide_eq_true hc.1.1⟩

theorem mem_endRows : raw ∈ endRows history family ↔ ∃ k, endState history family k = some raw := by
  rw [endRows, List.mem_filterMap]
  exact ⟨fun ⟨k, _, h⟩ => ⟨k, h⟩, fun ⟨k, h⟩ => ⟨k, mem_entityKeys_of_endState h, h⟩⟩

end

/-! ### The entries of both paths -/

/-- The text of a date field. -/
def DateField.iso : DateField → String
  | .date d => d.isoformat
  | .text s => s

/-- The hashed columns of an entity, as `_project_resource` lists them. -/
def CanonicalEntity.entry : CanonicalEntity → SnapshotEntry
  | .lea _ => []
  | .student e =>
    [("id", .str e.id), ("given_name", .str e.givenName), ("family_name", .str e.familyName),
      ("grade", .ofOption e.grade), ("preferred_first_name", .ofOption e.preferredFirstName),
      ("primary_school_id", .ofOption e.primarySchoolId)]
  | .enrollment e =>
    [("id", .str e.id), ("student_id", .str e.studentId), ("class_id", .str e.classId),
      ("begin_date", .str e.beginDate.iso), ("end_date", .ofOption (e.endDate.map DateField.iso))]

/-- What the event path keeps under a key: the standing event, unless it deletes. -/
def eventEntry (leaId : LeaId) (history : List EdLinkEvent) (et : EntityType) (k : String) :
    Option SnapshotEntry :=
  (standing et k (mapped leaId history)).bind fun e =>
    if e.deletedUpstream then none else some e.entity.entry

/-- What the resource path lists under a key. -/
def resourceEntry (history : List EdLinkEvent) (family : EntityFamily) (k : String) :
    Option SnapshotEntry :=
  (endState history family k).bind fun raw => (projectResource family raw).join

/-- The row a projected entry is hashed as. -/
def SnapshotEntry.row (leaId : LeaId) (family : EntityFamily) (entry : SnapshotEntry) : Dict :=
  rowDict family.columns (SnapshotEntry.getattr leaId entry)

/-! ### Listings by key -/

/-- The rows are the values of a function of the keys, each under its own id. -/
structure ListsBy (f : String → Option Dict) (rows : List Dict) : Prop where
  mem : ∀ row, row ∈ rows ↔ ∃ k, f k = some row
  key : ∀ k row, f k = some row → rowId row = k
  nodup : rows.Nodup

/-- Two such listings are the same rows exactly when the functions agree. -/
theorem ListsBy.perm_iff {f g : String → Option Dict} {rows rows' : List Dict}
    (hf : ListsBy f rows) (hg : ListsBy g rows') : rows.Perm rows' ↔ ∀ k, f k = g k := by
  have hsub : ∀ {f g : String → Option Dict} {rows rows' : List Dict}, ListsBy f rows →
      ListsBy g rows' → rows.Perm rows' → ∀ k row, f k = some row → g k = some row := by
    intro f g rows rows' hf hg hperm k row hk
    obtain ⟨k', hk'⟩ := (hg.mem row).mp (hperm.mem_iff.mp ((hf.mem row).mpr ⟨k, hk⟩))
    rw [← hf.key k row hk, hg.key k' row hk']
    exact hk'
  constructor
  · intro hperm k
    exact Option.ext fun row => ⟨hsub hf hg hperm k row, hsub hg hf hperm.symm k row⟩
  · intro heq
    refine (List.perm_ext_iff_of_nodup hf.nodup hg.nodup).mpr fun row => ?_
    rw [hf.mem, hg.mem]
    exact exists_congr fun k => by rw [heq k]

/-- The rows of a table have distinct ids, so a projection lists them by key. -/
theorem liveRows_nodup {ρ : Type} {t : Table String ρ} {leaId : LeaId} {columns : List String}
    {lea : ρ → LeaId} {deletedAt : ρ → Option Instant} {getattr : String → ρ → String → Json}
    (h : Hashed columns getattr) :
    (Table.liveRows t leaId columns lea deletedAt getattr).Nodup := by
  refine List.Nodup.of_map rowId ?_
  rw [Table.liveRows, List.map_map]
  have hkeys : (rowId ∘ fun r : String × ρ => rowDict columns (getattr r.1 r.2)) = Prod.fst := by
    funext r
    exact h.id_eq r.1 r.2
  rw [hkeys]
  exact (Table.keys_nodup t).sublist (List.filter_sublist.map _)

/-! ### The canonical side -/

section

variable {pg : Postgres} {leaId : LeaId} {history : List EdLinkEvent}

/-- **The live rows of a table that shows the history**, by key: a standing event that
does not delete is written with the columns of its entry. -/
theorem listsBy_table {ρ : Type} {t : Table String ρ} {lea : ρ → LeaId}
    {deletedAt : ρ → Option Instant} {getattr : String → ρ → String → Json}
    {family : EntityFamily} {et : EntityType} {r : Roster} {tag : ρ → CanonicalRow}
    (h : r.Shows pg leaId (mapped leaId history)) (het : et ≠ .lea)
    (hhashed : Hashed family.columns getattr) (htag : Function.Injective tag)
    (hcanonical : ∀ k, r.canonical et k = (t.lookup k).map tag)
    (howner : ∀ k x, (tag x).owner k = lea x) (hdeleted : ∀ x, (tag x).deletedAt = deletedAt x)
    (hwritten : ∀ k e now row, standing et k (mapped leaId history) = some e →
      e.canonicalRow pg now = some row → ∃ x, row = tag x ∧ lea x = leaId ∧
        deletedAt x = (if e.deletedUpstream then some now else none) ∧
        rowDict family.columns (getattr k x) = SnapshotEntry.row leaId family e.entity.entry) :
    ListsBy (fun k => (eventEntry leaId history et k).map (SnapshotEntry.row leaId family))
      (Table.liveRows t leaId family.columns lea deletedAt getattr) := by
  -- a row of the table under a key with a standing event
  have hshown : ∀ k e, standing et k (mapped leaId history) = some e → ∃ x now,
      t.lookup k = some x ∧ lea x = leaId ∧
      deletedAt x = (if e.deletedUpstream then some now else none) ∧
      rowDict family.columns (getattr k x) = SnapshotEntry.row leaId family e.entity.entry := by
    intro k e hs
    obtain ⟨now, row, hrow, hshow⟩ := h.present et het k e hs
    obtain ⟨x, rfl, hlea, hd, hcols⟩ := hwritten k e now row hs hrow
    rw [hcanonical] at hshow
    obtain ⟨y, hy, heq⟩ := Option.map_eq_some_iff.mp hshow
    exact ⟨x, now, htag heq ▸ hy, hlea, hd, hcols⟩
  have hentry : ∀ k row, (eventEntry leaId history et k).map (SnapshotEntry.row leaId family)
      = some row ↔ ∃ e, standing et k (mapped leaId history) = some e ∧
        e.deletedUpstream = false ∧ row = SnapshotEntry.row leaId family e.entity.entry := by
    intro k row
    rw [eventEntry, Option.map_eq_some_iff]
    constructor
    · rintro ⟨entry, hbind, rfl⟩
      obtain ⟨e, hs, hkept⟩ := Option.bind_eq_some_iff.mp hbind
      split at hkept
      · exact absurd hkept (by simp)
      · next hd => exact ⟨e, hs, Bool.eq_false_iff.mpr hd, by rw [← Option.some.inj hkept]⟩
    · rintro ⟨e, hs, hd, rfl⟩
      exact ⟨e.entity.entry, by simp [hs, hd], rfl⟩
  refine ⟨fun row => ⟨fun hmem => ?_, ?_⟩, fun k row hrow => ?_, liveRows_nodup hhashed⟩
  · obtain ⟨k, x, hx, hlea, hlive, rfl⟩ := mem_liveRows.mp hmem
    have hrow : r.canonical et k = some (tag x) := by rw [hcanonical, hx]; rfl
    cases hs : standing et k (mapped leaId history) with
    | none =>
      have hgone := h.absent et het k hs _ hrow ((howner k x).trans hlea)
      exact absurd ((hdeleted x).trans hlive) hgone
    | some e =>
      obtain ⟨y, now, hy, -, hd, hcols⟩ := hshown k e hs
      obtain rfl : y = x := Option.some.inj (hy.symm.trans hx)
      refine ⟨k, (hentry k _).mpr ⟨e, hs, ?_, hcols⟩⟩
      cases he : e.deletedUpstream with
      | false => rfl
      | true =>
        rw [he, hlive] at hd
        exact absurd hd (by simp)
  · rintro ⟨k, hk⟩
    obtain ⟨e, hs, hd, rfl⟩ := (hentry k row).mp hk
    obtain ⟨x, now, hx, hlea, hdel, hcols⟩ := hshown k e hs
    rw [hd, if_neg (by simp)] at hdel
    exact mem_liveRows.mpr ⟨k, x, hx, hlea, hdel, hcols.symm⟩
  · obtain ⟨e, hs, -, rfl⟩ := (hentry k row).mp hrow
    obtain ⟨x, -, -, -, -, hcols⟩ := hshown k e hs
    rw [← hcols]
    exact hhashed.id_eq k x

/-- A standing event of a student key. -/
theorem student_of_standing {k : String} {e : NormalizedEvent}
    (h : standing .student k (mapped leaId history) = some e) :
    ∃ student : Student, e.entity = .student student ∧ e.entityType = .student ∧ student.id = k ∧
      student.leaId = leaId := by
  obtain ⟨hmem, ht, hk⟩ := mem_of_standing h
  obtain ⟨raw, -, hraw⟩ := mem_mapped.mp hmem
  obtain ⟨_, -, ⟨-, student, hs, rfl⟩ | ⟨-, _, -, rfl⟩⟩ := normalize_eq_some hraw
  · refine ⟨student, rfl, rfl, hk, ?_⟩
    simp only [personToStudent, Option.bind_eq_bind, Option.bind_eq_some_iff] at hs
    obtain ⟨role, -, hs⟩ := hs
    split at hs
    · simp only [Option.bind_eq_some_iff, Option.some.injEq] at hs
      obtain ⟨_, -, _, -, _, -, _, -, rfl⟩ := hs
      rfl
    · exact absurd hs (by simp)
  · exact absurd ht (by simp [EdLinkEvent.envelope])

/-- A standing event of an enrollment key. -/
theorem enrollment_of_standing {k : String} {e : NormalizedEvent}
    (h : standing .enrollment k (mapped leaId history) = some e) :
    ∃ (enrollment : Enrollment) (beginDate : Date) (endDate : Option Date),
      e.entity = .enrollment enrollment ∧ e.entityType = .enrollment ∧ enrollment.id = k ∧
      enrollment.leaId = leaId ∧ enrollment.beginDate = .date beginDate ∧
      enrollment.endDate = endDate.map .date := by
  obtain ⟨hmem, ht, hk⟩ := mem_of_standing h
  obtain ⟨raw, -, hraw⟩ := mem_mapped.mp hmem
  obtain ⟨_, -, ⟨-, _, -, rfl⟩ | ⟨-, enrollment, hs, rfl⟩⟩ := normalize_eq_some hraw
  · exact absurd ht (by simp [EdLinkEvent.envelope])
  · simp only [enrollmentToCanonical, Option.bind_eq_bind, Option.bind_eq_some_iff,
      Option.some.injEq] at hs
    obtain ⟨_, -, _, -, _, -, beginDate, -, endDate, -, rfl⟩ := hs
    exact ⟨_, beginDate, endDate, rfl, rfl, hk, rfl, rfl, rfl⟩

theorem listsBy_students (db : CanonicalDatabase)
    (h : db.roster.Shows pg leaId (mapped leaId history)) :
    ListsBy (fun k => (eventEntry leaId history .student k).map
      (SnapshotEntry.row leaId .students)) (db.liveRows leaId .students) := by
  refine listsBy_table h (by simp) hashed_students (fun _ _ => CanonicalRow.student.inj)
    (fun _ => rfl) (fun _ _ => rfl) (fun _ => rfl) ?_
  intro k e now row hs hrow
  obtain ⟨student, hentity, ht, rfl, rfl⟩ := student_of_standing hs
  rw [NormalizedEvent.canonicalRow, ht, hentity] at hrow
  rw [hentity]
  exact ⟨_, (Option.some.inj hrow).symm, rfl, rfl, rfl⟩

theorem listsBy_enrollments (db : CanonicalDatabase)
    (h : db.roster.Shows pg leaId (mapped leaId history)) :
    ListsBy (fun k => (eventEntry leaId history .enrollment k).map
      (SnapshotEntry.row leaId .enrollments)) (db.liveRows leaId .enrollments) := by
  refine listsBy_table h (by simp) hashed_enrollments (fun _ _ => CanonicalRow.enrollment.inj)
    (fun _ => rfl) (fun _ _ => rfl) (fun _ => rfl) ?_
  intro k e now row hs hrow
  obtain ⟨enrollment, beginDate, endDate, hentity, ht, rfl, rfl, hbegin, hend⟩ :=
    enrollment_of_standing hs
  rw [NormalizedEvent.canonicalRow, ht, hentity] at hrow
  simp only [hbegin, hend, Postgres.bindDate_date, Postgres.bindDate?_map_date,
    Option.bind_eq_bind, Option.bind_some] at hrow
  refine ⟨_, (Option.some.inj hrow).symm, rfl, rfl, ?_⟩
  rw [hentity]
  cases endDate <;> simp only [CanonicalEntity.entry, hbegin, hend] <;> rfl

end

/-! ### The partner side -/

section

variable {leaId : LeaId} {history : List EdLinkEvent} {resources : String → List Dict}
  {payload : SnapshotPayload} {family : EntityFamily}

/-- The walk projects every listing, whole. -/
theorem walkResources_eq_some : walkResources resources = some payload ↔
    ∃ entries : EntityFamily → List SnapshotEntry,
      (∀ family, projectAll family (resources (EntityFamily.resource family))
        = some (entries family)) ∧
      payload = resourceWalk.map fun family => (family.name, entries family) := by
  have hwalk : walkResources resources = resourceWalk.mapM fun family =>
      (projectAll family (resources family.resource)).map fun rows => (family.name, rows) := by
    simp only [walkResources, walkPages_eq, List.drop_zero]
  rw [hwalk]
  constructor
  · intro h
    simp only [resourceWalk, List.mapM_cons, List.mapM_nil, Option.bind_eq_bind, Option.pure_def,
      Option.bind_eq_some_iff, Option.map_eq_some_iff, Option.some.injEq] at h
    obtain ⟨_, ⟨students, hs, rfl⟩, _, ⟨_, ⟨enrollments, he, rfl⟩, _, ⟨_, ⟨classes, hc, rfl⟩, _,
      ⟨_, ⟨sessions, ha, rfl⟩, _, ⟨_, ⟨schools, ho, rfl⟩, _, rfl, rfl⟩, rfl⟩, rfl⟩, rfl⟩, rfl⟩ := h
    refine ⟨@EntityFamily.rec _ students enrollments classes sessions schools,
      fun family => ?_, rfl⟩
    cases family
    · exact hs
    · exact he
    · exact hc
    · exact ha
    · exact ho
  · rintro ⟨entries, hall, rfl⟩
    simp [resourceWalk, hall]

/-- The rows a run hashes for a family. -/
theorem rows_walk (entries : EntityFamily → List SnapshotEntry) (family : EntityFamily) :
    SnapshotPayload.rows (resourceWalk.map fun family => (family.name, entries family)) leaId family
      = (entries family).map (SnapshotEntry.row leaId family) := by
  cases family <;> rfl

/-- A projected student or enrollment is listed under its `sourcedId`. -/
theorem rowId_of_resourceEntry (leaId : LeaId) {k : String} {entry : SnapshotEntry}
    (hfamily : family = .students ∨ family = .enrollments)
    (h : resourceEntry history family k = some entry) :
    rowId (SnapshotEntry.row leaId family entry) = k := by
  obtain ⟨raw, hstate, hproj⟩ := Option.bind_eq_some_iff.mp h
  have hid := sourcedId_of_endState hstate
  rw [Option.join_eq_some_iff] at hproj
  rcases hfamily with rfl | rfl
  · simp only [projectResource, projectStudent, Option.bind_eq_bind,
      Option.bind_eq_some_iff] at hproj
    obtain ⟨_, -, hproj⟩ := hproj
    split at hproj
    · simp only [Option.bind_eq_some_iff, Option.some.injEq] at hproj
      obtain ⟨_, -, _, -, id, hid', rfl⟩ := hproj
      rw [← Option.some.inj (hid'.symm.trans hid)]
      rfl
    · exact absurd hproj (by simp)
  · simp only [projectResource, projectEnrollment, Option.bind_eq_bind, Option.bind_eq_some_iff,
      Option.some.injEq] at hproj
    obtain ⟨id, hid', _, -, _, -, rfl⟩ := hproj
    rw [← Option.some.inj (hid'.symm.trans hid)]
    rfl

/-- **The rows of the partner side**, by key. -/
theorem listsBy_resources {entries : List SnapshotEntry}
    (hfamily : family = .students ∨ family = .enrollments)
    (hlists : ListsEndState history resources)
    (hall : projectAll family (resources family.resource) = some entries) :
    ListsBy (fun k => (resourceEntry history family k).map (SnapshotEntry.row leaId family))
      (entries.map (SnapshotEntry.row leaId family)) := by
  -- the listing, projected, in the order of the keys
  have hperm : (entries.map (SnapshotEntry.row leaId family)).Perm
      ((entityKeys history family).filterMap fun k =>
        (resourceEntry history family k).map (SnapshotEntry.row leaId family)) := by
    obtain ⟨-, rfl⟩ := collect_eq_some.mp hall
    have hproj := (hlists family).filterMap fun raw => (projectResource family raw).join
    rw [endRows, List.filterMap_filterMap] at hproj
    have hrows := hproj.map (SnapshotEntry.row leaId family)
    rwa [List.map_filterMap (l := entityKeys history family)] at hrows
  refine ⟨fun row => ?_, fun k row hrow => ?_, ?_⟩
  · rw [hperm.mem_iff, List.mem_filterMap]
    refine ⟨fun ⟨k, _, hk⟩ => ⟨k, hk⟩, fun ⟨k, hk⟩ => ⟨k, ?_, hk⟩⟩
    obtain ⟨entry, hentry, -⟩ := Option.map_eq_some_iff.mp hk
    obtain ⟨raw, hstate, -⟩ := Option.bind_eq_some_iff.mp hentry
    exact mem_entityKeys_of_endState hstate
  · obtain ⟨entry, hentry, rfl⟩ := Option.map_eq_some_iff.mp hrow
    exact rowId_of_resourceEntry leaId hfamily hentry
  · refine hperm.nodup_iff.mpr (List.Nodup.filterMap ?_ (List.nodup_dedup _))
    intro k k' row hk hk'
    obtain ⟨entry, hentry, rfl⟩ := Option.map_eq_some_iff.mp hk
    obtain ⟨entry', hentry', heq⟩ := Option.map_eq_some_iff.mp hk'
    have hid := rowId_of_resourceEntry leaId hfamily hentry
    have hid' := rowId_of_resourceEntry leaId hfamily hentry'
    rw [← hid, ← hid', heq]

end

/-! ### The columns of an entry -/

/-- The columns a projected row carries. -/
def EntityFamily.projected (family : EntityFamily) : List String :=
  family.columns.filter (· ≠ "lea_id")

/-- The entry gives every column a text or `None`. -/
def Projects (family : EntityFamily) (entry : SnapshotEntry) : Prop :=
  ∃ value : String → Option String,
    entry = family.projected.map fun col => (col, SnapshotValue.ofOption (value col))

theorem lookup_map_self {β : Type} (f : String → β) {columns : List String} {col : String}
    (h : col ∈ columns) : (columns.map fun c => (c, f c)).lookup col = some (f col) := by
  induction columns with
  | nil => exact absurd h List.not_mem_nil
  | cons c columns ih =>
    rw [List.map_cons, List.lookup_cons]
    by_cases hc : col = c
    · simp [hc]
    · have hne : (col == c) = false := by simpa using hc
      rw [hne]
      exact ih ((List.mem_cons.mp h).resolve_left hc)

/-- **Equal rows come from equal entries.** -/
theorem Projects.row_inj {leaId : LeaId} {family : EntityFamily} {entry entry' : SnapshotEntry}
    (h : Projects family entry) (h' : Projects family entry')
    (hrow : SnapshotEntry.row leaId family entry = SnapshotEntry.row leaId family entry') :
    entry = entry' := by
  obtain ⟨value, rfl⟩ := h
  obtain ⟨value', rfl⟩ := h'
  refine List.map_congr_left fun col hcol => ?_
  obtain ⟨hmem, hlea⟩ := List.mem_filter.mp hcol
  have hlea : col ≠ "lea_id" := by simpa using hlea
  have hpair := (Prod.mk.inj (List.map_inj_left.mp hrow col hmem)).2
  rw [SnapshotEntry.getattr, SnapshotEntry.getattr, if_neg hlea, if_neg hlea,
    lookup_map_self _ hcol, lookup_map_self _ hcol] at hpair
  have hvalue : value col = value' col := Json.ofOption_inj.mp hpair
  rw [hvalue]

theorem projects_student (id given name : String) (grade preferred school : Option String) :
    Projects .students
      [("id", .str id), ("given_name", .str given), ("family_name", .str name),
        ("grade", .ofOption grade), ("preferred_first_name", .ofOption preferred),
        ("primary_school_id", .ofOption school)] :=
  ⟨fun
    | "id" => some id
    | "given_name" => some given
    | "family_name" => some name
    | "grade" => grade
    | "preferred_first_name" => preferred
    | _ => school, rfl⟩

theorem projects_enrollment (id student cls : String) (beginDate endDate : Option String) :
    Projects .enrollments
      [("id", .str id), ("student_id", .str student), ("class_id", .str cls),
        ("begin_date", .ofOption beginDate), ("end_date", .ofOption endDate)] :=
  ⟨fun
    | "id" => some id
    | "student_id" => some student
    | "class_id" => some cls
    | "begin_date" => beginDate
    | _ => endDate, rfl⟩

section

variable {leaId : LeaId} {history : List EdLinkEvent} {k : String} {entry : SnapshotEntry}

theorem projects_eventEntry_student (h : eventEntry leaId history .student k = some entry) :
    Projects .students entry := by
  obtain ⟨e, hs, hkept⟩ := Option.bind_eq_some_iff.mp h
  obtain ⟨student, hentity, -⟩ := student_of_standing hs
  split at hkept
  · exact absurd hkept (by simp)
  · rw [← Option.some.inj hkept, hentity]
    exact projects_student _ _ _ _ _ _

theorem projects_eventEntry_enrollment (h : eventEntry leaId history .enrollment k = some entry) :
    Projects .enrollments entry := by
  obtain ⟨e, hs, hkept⟩ := Option.bind_eq_some_iff.mp h
  obtain ⟨enrollment, _, _, hentity, -⟩ := enrollment_of_standing hs
  split at hkept
  · exact absurd hkept (by simp)
  · rw [← Option.some.inj hkept, hentity]
    exact projects_enrollment _ _ _ _ _

theorem projects_resourceEntry {family : EntityFamily}
    (hfamily : family = .students ∨ family = .enrollments)
    (h : resourceEntry history family k = some entry) : Projects family entry := by
  obtain ⟨raw, -, hproj⟩ := Option.bind_eq_some_iff.mp h
  rw [Option.join_eq_some_iff] at hproj
  rcases hfamily with rfl | rfl
  · simp only [projectResource, projectStudent, Option.bind_eq_bind,
      Option.bind_eq_some_iff] at hproj
    obtain ⟨_, -, hproj⟩ := hproj
    split at hproj
    · simp only [Option.bind_eq_some_iff, Option.some.injEq] at hproj
      obtain ⟨_, -, _, -, _, -, rfl⟩ := hproj
      exact projects_student _ _ _ _ _ _
    · exact absurd hproj (by simp)
  · simp only [projectResource, projectEnrollment, Option.bind_eq_bind, Option.bind_eq_some_iff,
      Option.some.injEq] at hproj
    obtain ⟨_, -, _, -, _, -, rfl⟩ := hproj
    exact projects_enrollment _ _ _ _ _

/-- Two entries of one family are equal when their rows are. -/
theorem map_row_inj {family : EntityFamily} {a b : Option SnapshotEntry}
    (ha : ∀ entry, a = some entry → Projects family entry)
    (hb : ∀ entry, b = some entry → Projects family entry) :
    a.map (SnapshotEntry.row leaId family) = b.map (SnapshotEntry.row leaId family) ↔ a = b := by
  constructor
  · intro h
    cases a with
    | none => exact (Option.map_eq_none_iff.mp h.symm).symm
    | some entry =>
      obtain ⟨entry', rfl, hrow⟩ := Option.map_eq_some_iff.mp h.symm
      rw [(ha entry rfl).row_inj (hb entry' rfl) hrow.symm]
  · intro h
    rw [h]

end
