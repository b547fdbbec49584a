/-
What a bulk load leaves of an LEA, against what the partner lists.

Reconciliation compares the live rows of a table with the partner's entries on the
columns that a bulk load writes, so that both sides are functions of the keys.  A load
that succeeds leaves an entry's row as it was if the live snapshot already has the
entry's payload, and writes it otherwise; it does not look at the rows the partner does
not list.

* `listsBy_canonical`, `listsBy_snapshot` — the two sides, by key;
* `hashed_canonicalRow_iff` — the row a load writes, on the hashed columns;
* `hashed_bulkLoad_entry` — an entity the partner lists, after a load;
* `bulkLoad_reaches_iff` — when the LEA is what the partner lists.
-/
import EdlinkRostering.OnlyChanges
import EdlinkRostering.EndState

open Reconciliation

/-! ### The partner's payload, as both services read it -/

@[simp] theorem SnapshotValue.normalised_ofOption (v : Option String) :
    (ofOption v).normalised = .ofOption v := rfl

def DateField.snapshotValue : DateField → SnapshotValue
  | .date d => .date d
  | .text s => .str s

/-- A nullable date in the payload. -/
def SnapshotValue.ofDate (field : Option DateField) : SnapshotValue :=
  (field.map DateField.snapshotValue).getD (.ofOption none)

@[simp] theorem SnapshotValue.normalised_ofDate (field : Option DateField) :
    (ofDate field).normalised = (field.map DateField.jsonSafe).getD .null := by
  cases field with
  | none => rfl
  | some field => cases field <;> rfl

/-- The entry as the dict that `partner_snapshot` returns for it. -/
def PartnerEntry.dict : PartnerEntry → SnapshotEntry
  | .student entry =>
    [("id", .ofOption entry.id), ("given_name", .ofOption entry.givenName),
      ("family_name", .ofOption entry.familyName), ("grade", .ofOption entry.grade),
      ("preferred_first_name", .ofOption entry.preferredFirstName),
      ("primary_school_id", .ofOption entry.primarySchoolId)]
  | .enrollment entry =>
    [("id", .ofOption entry.id), ("student_id", .ofOption entry.studentId),
      ("class_id", .ofOption entry.classId), ("begin_date", .ofDate entry.beginDate),
      ("end_date", .ofDate entry.endDate)]

/-- What `partner_snapshot` returns. -/
def PartnerPayload.snapshot (payload : PartnerPayload) : SnapshotPayload :=
  [("students", payload.students.map fun entry => (PartnerEntry.student entry).dict),
    ("enrollments", payload.enrollments.map fun entry => (PartnerEntry.enrollment entry).dict)]

/-- `_DEPENDENCY_ORDER`: the entity type of a family that a bulk load writes. -/
def EntityFamily.entityType : EntityFamily → Option EntityType
  | .students => some .student
  | .enrollments => some .enrollment
  | .classes | .academicSessions | .schools => none

/-- Both services project an entry on the same columns. -/
theorem row_dict (leaId : LeaId) (entry : PartnerEntry) {family : EntityFamily}
    (h : family.entityType = some entry.entityType) :
    entry.dict.row leaId family = entry.payload leaId := by
  cases family with
  | students =>
    cases entry with
    | student entry =>
      simp [SnapshotEntry.row, rowDict, EntityFamily.columns, SnapshotEntry.getattr,
        PartnerEntry.dict, PartnerEntry.payload, List.lookup_cons]
    | enrollment entry => cases h
  | enrollments =>
    cases entry with
    | student entry => cases h
    | enrollment entry =>
      simp [SnapshotEntry.row, rowDict, EntityFamily.columns, SnapshotEntry.getattr,
        PartnerEntry.dict, PartnerEntry.payload, List.lookup_cons]
  | classes | academicSessions | schools => exact absurd h (Option.some_ne_none _).symm

theorem rowId_payload (leaId : LeaId) {entry : PartnerEntry} {k : String}
    (hk : entry.id = some k) : rowId (entry.payload leaId) = k := by
  cases entry with
  | student entry =>
    show (Json.ofOption entry.id).pyStr = k
    rw [show entry.id = some k from hk]
    rfl
  | enrollment entry =>
    show (Json.ofOption entry.id).pyStr = k
    rw [show entry.id = some k from hk]
    rfl

namespace PartnerPayload

/-- The entries of one entity type. -/
def entriesOf (payload : PartnerPayload) : EntityType → List PartnerEntry
  | .student => payload.students.map .student
  | .enrollment => payload.enrollments.map .enrollment
  | .lea => []

/-- What the partner lists of an entity. -/
def lists (payload : PartnerPayload) (leaId : LeaId) (et : EntityType) (k : String) :
    Option Dict :=
  ((payload.entriesOf et).find? fun entry => entry.id = some k).map (·.payload leaId)

variable {payload : PartnerPayload} {leaId : LeaId} {family : EntityFamily} {et : EntityType}
  {entry : PartnerEntry} {k : String}

theorem mem_entriesOf : entry ∈ payload.entriesOf et ↔
    entry ∈ payload.entries ∧ entry.entityType = et := by
  cases et <;> cases entry <;> simp [entriesOf, entries, PartnerEntry.entityType]

theorem Distinct.ids (h : payload.Distinct) (et : EntityType) :
    ((payload.entriesOf et).map (·.id)).Nodup := by
  cases et with
  | lea => exact List.nodup_nil
  | student => rw [entriesOf, List.map_map]; exact h.1
  | enrollment => rw [entriesOf, List.map_map]; exact h.2

/-- The entry of an id is found. -/
theorem lists_eq_some (hd : payload.Distinct) {d : Dict} :
    payload.lists leaId et k = some d ↔
      ∃ entry ∈ payload.entries, entry.entityType = et ∧ entry.id = some k ∧
        d = entry.payload leaId := by
  rw [lists, Option.map_eq_some_iff]
  constructor
  · rintro ⟨entry, hfind, rfl⟩
    obtain ⟨hmem, htype⟩ := mem_entriesOf.mp (List.mem_of_find?_eq_some hfind)
    exact ⟨entry, hmem, htype, by simpa using List.find?_some hfind, rfl⟩
  · rintro ⟨entry, hmem, htype, hid, rfl⟩
    have hentry := mem_entriesOf.mpr ⟨hmem, htype⟩
    cases hfind : (payload.entriesOf et).find? fun entry => entry.id = some k with
    | none => exact absurd hid (by simpa using List.find?_eq_none.mp hfind entry hentry)
    | some found =>
      have hfound : found.id = some k := by simpa using List.find?_some hfind
      have heq := List.inj_on_of_nodup_map (hd.ids et) (List.mem_of_find?_eq_some hfind) hentry
        (hfound.trans hid.symm)
      exact ⟨found, rfl, by rw [heq]⟩

theorem lists_eq_none : payload.lists leaId et k = none ↔
    ∀ entry ∈ payload.entries, entry.entityType ≠ et ∨ entry.id ≠ some k := by
  rw [lists, Option.map_eq_none_iff, List.find?_eq_none]
  constructor
  · intro h entry hentry
    by_cases htype : entry.entityType = et
    · exact Or.inr (by simpa using h entry (mem_entriesOf.mpr ⟨hentry, htype⟩))
    · exact Or.inl htype
  · intro h entry hentry
    obtain ⟨hmem, htype⟩ := mem_entriesOf.mp hentry
    simpa using (h entry hmem).resolve_left (not_not.mpr htype)

/-- The rows of the partner side are the payloads of its entries. -/
theorem rows_snapshot (h : family.entityType = some et) :
    payload.snapshot.rows leaId family = (payload.entriesOf et).map (·.payload leaId) := by
  have hrow : ∀ entry ∈ payload.entriesOf et, entry.dict.row leaId family
      = entry.payload leaId := fun entry hentry =>
    row_dict leaId entry ((mem_entriesOf.mp hentry).2 ▸ h)
  rw [← List.map_congr_left hrow, SnapshotPayload.rows]
  cases family with
  | students =>
    obtain rfl := Option.some.inj h
    rw [entriesOf, List.map_map]
    exact List.map_map
  | enrollments =>
    obtain rfl := Option.some.inj h
    rw [entriesOf, List.map_map]
    exact List.map_map
  | classes | academicSessions | schools => exact absurd h (Option.some_ne_none _).symm

/-- **The rows of the partner side, by key.** -/
theorem listsBy_snapshot (hd : payload.Distinct)
    (hids : ∀ entry ∈ payload.entries, ∃ k, entry.id = some k)
    (h : family.entityType = some et) :
    ListsBy (payload.lists leaId et) (payload.snapshot.rows leaId family) := by
  rw [rows_snapshot h]
  refine ⟨fun row => ?_, fun k row hrow => ?_, ?_⟩
  · rw [List.mem_map]
    constructor
    · rintro ⟨entry, hentry, rfl⟩
      obtain ⟨hmem, htype⟩ := mem_entriesOf.mp hentry
      obtain ⟨k, hk⟩ := hids entry hmem
      exact ⟨k, (lists_eq_some hd).mpr ⟨entry, hmem, htype, hk, rfl⟩⟩
    · rintro ⟨k, hk⟩
      obtain ⟨entry, hmem, htype, -, rfl⟩ := (lists_eq_some hd).mp hk
      exact ⟨entry, mem_entriesOf.mpr ⟨hmem, htype⟩, rfl⟩
  · obtain ⟨entry, -, -, hk, rfl⟩ := (lists_eq_some hd).mp hrow
    exact rowId_payload leaId hk
  · refine (List.nodup_map_iff_inj_on (hd.ids et).of_map).mpr fun a ha b hb hab => ?_
    obtain ⟨k, hk⟩ := hids a (mem_entriesOf.mp ha).1
    obtain ⟨k', hk'⟩ := hids b (mem_entriesOf.mp hb).1
    have hkk : k = k' := by rw [← rowId_payload leaId hk, hab, rowId_payload leaId hk']
    exact List.inj_on_of_nodup_map (hd.ids et) ha hb (by rw [hk, hk', hkk])

end PartnerPayload

/-! ### The canonical rows, as reconciliation reads them -/

/-- The LEA's live row of an entity, on the hashed columns. -/
def Roster.hashed (r : Roster) (leaId : LeaId) (et : EntityType) (k : String) : Option Dict :=
  ((r.canonical et k).filter fun row => row.owner k = leaId && row.deletedAt.isNone).map
    (·.hashed k)

theorem Roster.hashed_eq_some {r : Roster} {leaId : LeaId} {et : EntityType} {k : String}
    {d : Dict} : r.hashed leaId et k = some d ↔ ∃ row, r.canonical et k = some row ∧
      row.owner k = leaId ∧ row.deletedAt = none ∧ row.hashed k = d := by
  simp only [Roster.hashed, Option.map_eq_some_iff, Option.filter_eq_some_iff, Bool.and_eq_true,
    decide_eq_true_eq, Option.isNone_iff_eq_none]
  exact exists_congr fun row => by tauto

section

variable {leaId : LeaId} {family : EntityFamily} {et : EntityType} {db : CanonicalDatabase}

theorem listsBy_rows {ρ : Type} {t : Table String ρ} {lea : ρ → LeaId}
    {deletedAt : ρ → Option Instant} {getattr : String → ρ → String → Json} {r : Roster}
    {columns : List String} (tag : ρ → CanonicalRow) (hhashed : Hashed columns getattr)
    (hcanonical : ∀ k, r.canonical et k = (t.lookup k).map tag)
    (howner : ∀ k x, (tag x).owner k = lea x) (hdeleted : ∀ x, (tag x).deletedAt = deletedAt x)
    (hrow : ∀ k x, (tag x).hashed k = rowDict columns (getattr k x)) :
    ListsBy (r.hashed leaId et) (Table.liveRows t leaId columns lea deletedAt getattr) := by
  have hiff : ∀ k d, r.hashed leaId et k = some d ↔ ∃ x, t.lookup k = some x ∧ lea x = leaId ∧
      deletedAt x = none ∧ d = rowDict columns (getattr k x) := by
    intro k d
    rw [Roster.hashed_eq_some, hcanonical]
    constructor
    · rintro ⟨row, heq, hlea, hlive, rfl⟩
      obtain ⟨x, hx, rfl⟩ := Option.map_eq_some_iff.mp heq
      exact ⟨x, hx, (howner k x).symm.trans hlea, (hdeleted x).symm.trans hlive, hrow k x⟩
    · rintro ⟨x, hx, hlea, hlive, rfl⟩
      exact ⟨tag x, by rw [hx]; rfl, (howner k x).trans hlea, (hdeleted x).trans hlive, hrow k x⟩
  refine ⟨fun row => ?_, fun k row hk => ?_, liveRows_nodup hhashed⟩
  · rw [mem_liveRows]
    exact exists_congr fun k => (hiff k row).symm
  · obtain ⟨x, -, -, -, rfl⟩ := (hiff k row).mp hk
    exact hhashed.id_eq k x

/-- **The rows of the canonical side, by key.** -/
theorem listsBy_canonical (h : family.entityType = some et) :
    ListsBy (db.roster.hashed leaId et) (db.liveRows leaId family) := by
  cases family with
  | students =>
    obtain rfl := Option.some.inj h
    exact listsBy_rows .student hashed_students (fun _ => rfl) (fun _ _ => rfl)
      (fun _ => rfl) fun _ _ => rfl
  | enrollments =>
    obtain rfl := Option.some.inj h
    exact listsBy_rows .enrollment hashed_enrollments (fun _ => rfl) (fun _ _ => rfl)
      (fun _ => rfl) fun _ _ => rfl
  | classes | academicSessions | schools => exact absurd h (Option.some_ne_none _).symm

end

/-! ### The rows a load writes -/

/-- The date texts of the entry are the ISO texts of the dates Postgres reads in them. -/
def PartnerEntry.Dated (pg : Postgres) : PartnerEntry → Prop
  | .student _ => True
  | .enrollment entry => ∀ field, entry.beginDate = some field ∨ entry.endDate = some field →
      ∀ d, pg.bindDate field = some d → field.jsonSafe = .str d.isoformat

section

variable {pg : Postgres} {leaId : LeaId} {old : Option CanonicalRow} {entry : PartnerEntry}
  {row : CanonicalRow} {k : String}

theorem dateJson_bindDate? {field : Option DateField} {d : Option Date}
    (h : pg.bindDate? field = some d) :
    dateJson d = (field.map DateField.jsonSafe).getD .null ↔
      ∀ f, field = some f → ∀ d, pg.bindDate f = some d → f.jsonSafe = .str d.isoformat := by
  cases field with
  | none =>
    obtain rfl := Option.some.inj h
    exact iff_of_true rfl nofun
  | some f =>
    obtain ⟨d', hd', rfl⟩ := Option.map_eq_some_iff.mp h
    simp only [dateJson, Option.map_some, Option.getD_some, Option.some.injEq, forall_eq', hd']
    exact eq_comm

/-- **The row a load writes**, on the hashed columns: what the partner lists, if the
dates are written as Postgres prints them. -/
theorem hashed_canonicalRow_iff (hid : entry.id = some k)
    (h : entry.canonicalRow pg leaId old = some row) :
    row.hashed k = entry.payload leaId ↔ entry.Dated pg := by
  cases entry with
  | student entry =>
    simp only [PartnerEntry.canonicalRow, Option.bind_eq_bind, Option.bind_eq_some_iff] at h
    obtain ⟨given, hgiven, family, hfamily, h⟩ := h
    rw [← Option.some.inj h]
    refine iff_of_true ?_ trivial
    have hid : entry.id = some k := hid
    simp [CanonicalRow.hashed, rowDict, EntityFamily.columns, StudentRow.getattr,
      PartnerEntry.payload, hid, hgiven, hfamily, Json.ofOption]
  | enrollment entry =>
    simp only [PartnerEntry.canonicalRow, Option.bind_eq_bind, Option.bind_eq_some_iff] at h
    obtain ⟨student, hstudent, classId, hclass, begin, hbegin, fin, hfin, h⟩ := h
    rw [← Option.some.inj h]
    have hid : entry.id = some k := hid
    have hbegin : pg.bindDate? entry.beginDate = some (some begin) := by
      obtain ⟨_, hd, rfl⟩ := hbegin
      exact hd
    have hfields : ((CanonicalRow.enrollment
          { leaId := leaId, studentId := student, classId := classId, beginDate := begin
            endDate := fin }).hashed k = (PartnerEntry.enrollment entry).payload leaId) ↔
        dateJson (some begin) = (entry.beginDate.map DateField.jsonSafe).getD .null ∧
          dateJson fin = (entry.endDate.map DateField.jsonSafe).getD .null := by
      simp [CanonicalRow.hashed, rowDict, EntityFamily.columns, EnrollmentRow.getattr,
        PartnerEntry.payload, hid, hstudent, hclass, Json.ofOption, dateJson]
    rw [hfields, dateJson_bindDate? hbegin, dateJson_bindDate? hfin]
    constructor
    · rintro ⟨hb, he⟩ field (hf | hf)
      · exact hb field hf
      · exact he field hf
    · intro hdated
      exact ⟨fun field hf => hdated field (Or.inl hf), fun field hf => hdated field (Or.inr hf)⟩

end

/-! ### An entity through a load -/

section

variable {pg : Postgres} {run : BulkRun} {s s' : Store} {report : BulkLoadReport} {et : EntityType}
  {k : String}

/-- A load that succeeds leaves an entity it does not list alone. -/
theorem sameAt_bulkLoad (het : et ≠ .lea) (hb : bulkLoad pg run s = (s', some report))
    (hothers : ∀ entry ∈ run.payload.entries, entry.entityType ≠ et ∨ entry.id ≠ some k) :
    Roster.SameAt et k s.roster s'.roster := by
  obtain ⟨-, -, r₁, w₁, r₂, w₂, hs, hen, rfl, -⟩ := bulkLoad_eq_some_iff.mp hb
  have hlea : Roster.SameAt et k s.roster (s.roster.ensureLeaExists run.leaId) :=
    Roster.ensureLeaExists_sameAt _ _ het k
  refine (hlea.trans (sameAt_applyEntries (fun entry he => hothers entry ?_) hs)).trans
    (sameAt_applyEntries (fun entry he => hothers entry ?_) hen)
  · exact List.mem_append_left _ he
  · exact List.mem_append_right _ he

/-- Every entry of a load that succeeds has an id. -/
theorem exists_id_of_bulkLoad (hb : bulkLoad pg run s = (s', some report)) :
    ∀ entry ∈ run.payload.entries, ∃ k, entry.id = some k := by
  obtain ⟨-, -, r₁, w₁, r₂, w₂, hs, hen, -, -⟩ := bulkLoad_eq_some_iff.mp hb
  have hturn : ∀ {entries : List PartnerEntry} {now : Instant} {r r' : Roster} {n : Nat},
      applyEntityType pg run.leaId run.syncJobId now entries r = some (r', n) →
        ∀ entry ∈ entries, ∃ k, entry.id = some k := by
    intro entries now r r' n h entry he
    obtain ⟨before, after, rfl⟩ := List.append_of_mem he
    obtain ⟨⟨x, m⟩, -, hrest⟩ := Runs.foldlM_append_eq_some.mp h
    obtain ⟨⟨x', m'⟩, hstep, -⟩ := Runs.foldlM_cons_eq_some.mp hrest
    obtain ⟨k, hk, -⟩ := applyEntryCounted_iff.mp hstep
    exact ⟨k, hk⟩
  intro entry he
  rcases List.mem_append.mp he with he | he
  · exact hturn hs entry he
  · exact hturn hen entry he

/-- **An entity the partner lists**, after a load that succeeds. -/
theorem hashed_bulkLoad_entry {entry : PartnerEntry} (hd : run.payload.Distinct)
    (he : entry ∈ run.payload.entries) (hk : entry.id = some k)
    (hb : bulkLoad pg run s = (s', some report)) :
    s'.roster.hashed run.leaId entry.entityType k = some (entry.payload run.leaId) ↔
      if s.roster.skips run.leaId k entry then
        s.roster.hashed run.leaId entry.entityType k = some (entry.payload run.leaId)
      else entry.Dated pg := by
  obtain ⟨now, r₁, n₁, r₂, n₂, hbefore, hstep, hafter⟩ := bulkLoad_at hd he hk hb
  obtain ⟨k', hk', hcases⟩ := applyEntryCounted_iff.mp hstep
  obtain rfl := Option.some.inj (hk'.symm.trans hk)
  rw [Roster.hashed, hafter.canonical, ← hbefore.skips]
  rcases hcases with ⟨hskips, rfl, -⟩ | ⟨hskips, -, row, hrow, -, rfl⟩
  · rw [if_pos hskips, hbefore.canonical, Roster.hashed]
  · rw [if_neg (by rw [hskips]; exact Bool.false_ne_true)]
    obtain ⟨htype, hlive, howner⟩ := canonicalRow_entry_type hrow
    rw [Roster.canonical_replace htype, ← hashed_canonicalRow_iff hk hrow]
    simp [hlive, howner]

end

/-! ### When the LEA is what the partner lists -/

/-- The rows of both families are the partner's, and so are the hashes of every scan. -/
structure ReachesPartner (sha : Sha256) (db : CanonicalDatabase) (leaId : LeaId)
    (payload : SnapshotPayload) : Prop where
  rows : ∀ family et, family.entityType = some et → SameRows db leaId payload family
  hashes : ∀ (scan : Scan db leaId) family et, family.entityType = some et →
    (computeHashes sha scan.rows).byEntityType family
      = (computeHashes sha (payload.rows leaId)).byEntityType family

theorem reachesPartner_iff {sha : Sha256} {db : CanonicalDatabase} {leaId : LeaId}
    {payload : SnapshotPayload} : ReachesPartner sha db leaId payload ↔
      ∀ family et, family.entityType = some et → SameRows db leaId payload family := by
  refine ⟨fun h => h.rows, fun h => ⟨h, fun scan family et hf => ?_⟩⟩
  exact midHash_eq_of_perm (oneTextPerId_scan scan family)
    ((scan.perm family).trans (h family et hf))

/-- What a load needs to leave the LEA as the partner lists it. -/
structure BulkRun.Ready (pg : Postgres) (run : BulkRun) (r : Roster) : Prop where
  /-- Every live row of the LEA is of an entity the partner lists. -/
  listed : ∀ et k, et ≠ .lea → run.payload.lists run.leaId et k = none →
    r.hashed run.leaId et k = none
  /-- The row of an entry that is passed over shows the entry. -/
  passedOver : ∀ entry ∈ run.payload.entries, ∀ k, entry.id = some k →
    r.skips run.leaId k entry = true →
      r.hashed run.leaId entry.entityType k = some (entry.payload run.leaId)
  /-- The dates of an entry that is written are written as Postgres prints them. -/
  dated : ∀ entry ∈ run.payload.entries, ∀ k, entry.id = some k →
    r.skips run.leaId k entry = false → entry.Dated pg

/-- **When a bulk load reaches the partner's state.** -/
theorem bulkLoad_reaches_iff (pg : Postgres) (run : BulkRun) (hd : run.payload.Distinct)
    (s s' : Store) (report : BulkLoadReport) (hb : bulkLoad pg run s = (s', some report))
    (sha : Sha256) (db : CanonicalDatabase) (hdb : db.toStore = s') :
    ReachesPartner sha db run.leaId run.payload.snapshot ↔ run.Ready pg s.roster := by
  subst hdb
  have hids := exists_id_of_bulkLoad hb
  -- both sides are functions of the keys
  have hrows : ∀ family et, family.entityType = some et →
      (SameRows db run.leaId run.payload.snapshot family ↔
        ∀ k, db.roster.hashed run.leaId et k = run.payload.lists run.leaId et k) :=
    fun family et hf => (listsBy_canonical hf).perm_iff (run.payload.listsBy_snapshot hd hids hf)
  have hfamily : ∀ et, et ≠ .lea → ∃ family : EntityFamily, family.entityType = some et := by
    intro et het
    cases et with
    | lea => exact absurd rfl het
    | student => exact ⟨.students, rfl⟩
    | enrollment => exact ⟨.enrollments, rfl⟩
  have hkept : ∀ et k, et ≠ .lea → run.payload.lists run.leaId et k = none →
      db.roster.hashed run.leaId et k = s.roster.hashed run.leaId et k := by
    intro et k het hnone
    have hsame := sameAt_bulkLoad het hb (PartnerPayload.lists_eq_none.mp hnone)
    rw [Roster.hashed, hsame.canonical, Roster.hashed]
  rw [reachesPartner_iff]
  constructor
  · intro hreach
    have hall : ∀ et, et ≠ .lea → ∀ k,
        db.roster.hashed run.leaId et k = run.payload.lists run.leaId et k := by
      intro et het
      obtain ⟨family, hf⟩ := hfamily et het
      exact (hrows family et hf).mp (hreach family et hf)
    have hentry : ∀ entry ∈ run.payload.entries, ∀ k, entry.id = some k →
        if s.roster.skips run.leaId k entry then
          s.roster.hashed run.leaId entry.entityType k = some (entry.payload run.leaId)
        else entry.Dated pg := by
      intro entry he k hk
      refine (hashed_bulkLoad_entry hd he hk hb).mp ?_
      rw [hall entry.entityType entry.entityType_ne_lea k]
      exact (PartnerPayload.lists_eq_some hd).mpr ⟨entry, he, rfl, hk, rfl⟩
    refine ⟨fun et k het hnone => ?_, fun entry he k hk hskips => ?_,
      fun entry he k hk hskips => ?_⟩
    · rw [← hkept et k het hnone, hall et het k, hnone]
    · have h := hentry entry he k hk
      rwa [if_pos hskips] at h
    · have h := hentry entry he k hk
      rwa [if_neg (by rw [hskips]; exact Bool.false_ne_true)] at h
  · intro hready family et hf
    refine (hrows family et hf).mpr fun k => ?_
    have het : et ≠ .lea := by
      rintro rfl
      cases family <;> exact nomatch hf
    cases hlists : run.payload.lists run.leaId et k with
    | none => rw [hkept et k het hlists, hready.listed et k het hlists]
    | some d =>
      obtain ⟨entry, he, rfl, hk, rfl⟩ := (PartnerPayload.lists_eq_some hd).mp hlists
      refine (hashed_bulkLoad_entry hd he hk hb).mpr ?_
      cases hskips : s.roster.skips run.leaId k entry with
      | true => rw [if_pos rfl]; exact hready.passedOver entry he k hk hskips
      | false => rw [if_neg Bool.false_ne_true]; exact hready.dated entry he k hk hskips

/-! ### A first load, and two that fall short -/

namespace PartnerState

open Fixture OnlyChanges

/-- The first load of an LEA. -/
def firstLoad : BulkRun :=
  { listing "job-1" (some "04") with
    payload := { students := [OnlyChanges.alex (some "04")]
                 enrollments := [{ inClass with beginDate := some (.date schoolYear) }] } }

/-- The database with this state, and nothing in the other tables. -/
def database (s : Store) : CanonicalDatabase :=
  { s with classes := ∅, academicSessions := ∅, schools := ∅ }

/-- The partner has dropped the student with its enrollment. -/
def emptied (syncJobId : Uuid) : BulkRun :=
  { listing syncJobId none with payload := { students := [], enrollments := [] } }

end PartnerState

section

open Fixture OnlyChanges PartnerState

theorem bulkLoad_reaches_iff_firstLoad :
    ReachesPartner alexSha (database (bulkLoad .reference firstLoad Store.empty).1) "L1"
      firstLoad.payload.snapshot := by
  have hdone : (bulkLoad .reference firstLoad Store.empty).2.isSome = true := by decide +kernel
  obtain ⟨report, hreport⟩ := Option.isSome_iff_exists.mp hdone
  refine (bulkLoad_reaches_iff .reference firstLoad (by decide) Store.empty _ report
    (Prod.ext rfl hreport) alexSha (database _) rfl).mpr ⟨fun et k _ _ => ?_, ?_, ?_⟩
  · cases et <;> rfl
  · -- nothing is live in the empty state
    intro entry _ k _ hskips
    cases entry <;> exact absurd hskips Bool.false_ne_true
  · intro entry hentry k _ _
    rcases List.mem_pair.mp hentry with rfl | rfl
    · trivial
    · rintro field (hf | hf) d hd
      · obtain rfl := Option.some.inj hf
        obtain rfl := Option.some.inj hd
        rfl
      · exact nomatch hf

/-- A deleted enrollment that the partner lists again as it was stays deleted, and a
student that the partner has dropped stays. -/
theorem bulk_load_falls_short :
    (bulkLoad .reference (listing "job-2" (some "04")) (after enrolledAndDeleted)).2.isSome = true ∧
    ¬ ReachesPartner alexSha
        (database (bulkLoad .reference (listing "job-2" (some "04")) (after enrolledAndDeleted)).1)
        "L1" (listing "job-2" (some "04")).payload.snapshot ∧
    (bulkLoad .reference (emptied "job-2") (after loadedOnce)).2.isSome = true ∧
    ¬ ReachesPartner alexSha
        (database (bulkLoad .reference (emptied "job-2") (after loadedOnce)).1)
        "L1" (emptied "job-2").payload.snapshot := by
  refine ⟨by decide +kernel, fun h => ?_, by decide +kernel, fun h => ?_⟩
  · exact absurd (h.rows .enrollments .enrollment rfl).length_eq (by decide +kernel)
  · exact absurd (h.rows .students .student rfl).length_eq (by decide +kernel)

end
