/-
What a reconciliation reports, against the rows of both sides.

The mid text of a family is read from the right: its last 65 characters are a leaf
and a separator, the leaf determines the row, and the row its id.  So equal mid
hashes come from equal sorted lists, where SHA-256 has no collision on what the run
hashes.  The ids of the canonical side are distinct, and there the order of the rows
does not matter; the partner may list two rows under one id, and their order is kept.

* `reconciliation_exact` — matched exactly on equal rows, and what the drift names;
* `report_follows_partner_order` — two orders of one payload, two reports.
-/
import EdlinkRostering.Reconciliation

namespace Reconciliation

variable {sha : Sha256} {rows rows' : List Dict}

/-! ### The texts that are hashed -/

/-- The text of a mid hash. -/
def midText (sha : Sha256) (rows : List Dict) : List Char :=
  (sortLeaves (leavesOf sha rows)).flatMap record

/-- The leaf and mid texts of both sides. -/
def hashedTexts (sha : Sha256) (canonical partner : EntityFamily → List Dict) : Set (List Char) :=
  {text | ∃ family, (∃ row ∈ canonical family ++ partner family, text = rowText row) ∨
    text = midText sha (canonical family) ∨ text = midText sha (partner family)}

/-- Two rows under one id have one text. -/
def OneTextPerId (rows : List Dict) : Prop :=
  ∀ a ∈ rows, ∀ b ∈ rows, rowId a = rowId b → rowText a = rowText b

theorem midHash_midHash (sha : Sha256) (rows : List Dict) :
    (midHash sha (leavesOf sha rows)).midHash = sha.hexdigest (midText sha rows) := rfl

/-- The leaves are sorted as their rows are. -/
theorem sortLeaves_leavesOf (sha : Sha256) (rows : List Dict) :
    sortLeaves (leavesOf sha rows)
      = leavesOf sha (rows.insertionSort fun a b => rowId a ≤ rowId b) :=
  (List.map_insertionSort (fun a b => rowId a ≤ rowId b)
    (fun a b : String × List Char => a.1 ≤ b.1) (fun row => (rowId row, hashRow sha row)) rows
    fun _ _ _ _ => Iff.rfl).symm

theorem midText_eq (sha : Sha256) (rows : List Dict) :
    midText sha rows = (rows.insertionSort fun a b => rowId a ≤ rowId b).flatMap
      fun row => record (rowId row, hashRow sha row) := by
  rw [midText, sortLeaves_leavesOf, leavesOf, List.flatMap_map]

theorem mem_entityIds {id : String} :
    id ∈ (midHash sha (leavesOf sha rows)).entityIds ↔ id ∈ rows.map rowId := by
  have hperm : (midHash sha (leavesOf sha rows)).entityIds.Perm (rows.map rowId) := by
    have hsort : (sortLeaves (leavesOf sha rows)).Perm (leavesOf sha rows) :=
      List.perm_insertionSort _ _
    have hids := hsort.map Prod.fst
    rwa [leavesOf, List.map_map] at hids
  exact hperm.mem_iff

/-! ### Equal hashes come from equal rows -/

/-- **A mid hash determines the rows**, where one side has cells. -/
theorem perm_of_midHash_eq {texts : Set (List Char)} (hinj : Set.InjOn sha.hexdigest texts)
    (hrows : ∀ row ∈ rows ++ rows', rowText row ∈ texts)
    (hmid : midText sha rows ∈ texts) (hmid' : midText sha rows' ∈ texts)
    (htext : ∀ a ∈ rows, ∀ b ∈ rows', rowText a = rowText b → a = b)
    (heq : sha.hexdigest (midText sha rows) = sha.hexdigest (midText sha rows')) :
    rows.Perm rows' := by
  have hmidText := hinj hmid hmid' heq
  rw [midText_eq, midText_eq] at hmidText
  -- a record ends in its leaf and the separator
  have hlen : ∀ row, (hashRow sha row ++ ['\x01']).length = 65 := by
    intro row
    rw [List.length_append, hashRow, sha.length_hexdigest]
    rfl
  have hsuffix : ∀ row, hashRow sha row ++ ['\x01'] <:+ record (rowId row, hashRow sha row) := by
    intro row
    exact ⟨(rowId row).toList ++ ['\x00'], by simp [record]⟩
  have hleaf : ∀ a ∈ rows.insertionSort fun a b => rowId a ≤ rowId b,
      ∀ b ∈ rows'.insertionSort fun a b => rowId a ≤ rowId b,
      hashRow sha a ++ ['\x01'] = hashRow sha b ++ ['\x01'] → a = b := by
    intro a ha b hb hab
    have ha' := (List.mem_insertionSort _).mp ha
    have hb' := (List.mem_insertionSort _).mp hb
    have hhash : sha.hexdigest (rowText a) = sha.hexdigest (rowText b) :=
      List.append_cancel_right hab
    exact htext a ha' b hb' (hinj (hrows a (List.mem_append_left _ ha'))
      (hrows b (List.mem_append_right _ hb')) hhash)
  have hsorted := Codes.eq_of_flatMap_eq (by omega) hlen hsuffix hleaf hmidText
  exact (List.perm_insertionSort _ rows).symm.trans
    (hsorted ▸ List.perm_insertionSort _ rows')

/-! ### Equal rows have equal hashes -/

/-- The order of the rows does not matter where an id has one text. -/
theorem midHash_eq_of_perm (hone : OneTextPerId rows) (hperm : rows.Perm rows') :
    midHash sha (leavesOf sha rows) = midHash sha (leavesOf sha rows') := by
  have hleaves : (leavesOf sha rows).Perm (leavesOf sha rows') := hperm.map _
  -- two leaves with one id are the same leaf
  have hanti : ∀ a b, a ∈ sortLeaves (leavesOf sha rows) →
      b ∈ sortLeaves (leavesOf sha rows') → a.1 ≤ b.1 → b.1 ≤ a.1 → a = b := by
    intro a b ha hb hab hba
    obtain ⟨r, hr, rfl⟩ := List.mem_map.mp ((List.mem_insertionSort _).mp ha)
    obtain ⟨r', hr', rfl⟩ := List.mem_map.mp ((List.mem_insertionSort _).mp hb)
    have hid : rowId r = rowId r' := le_antisymm hab hba
    have htext := hone r hr r' (hperm.mem_iff.mpr hr') hid
    rw [hid, hashRow, hashRow, htext]
  have hsort : sortLeaves (leavesOf sha rows) = sortLeaves (leavesOf sha rows') := by
    refine List.Perm.eq_of_pairwise hanti (List.pairwise_insertionSort _ _)
      (List.pairwise_insertionSort _ _) ?_
    exact (List.perm_insertionSort _ _).trans (hleaves.trans (List.perm_insertionSort _ _).symm)
  rw [midHash, midHash, hsort]

/-! ### The rows of the two sides -/

theorem cell_ofOption (v : Option String) : (Json.ofOption v).Cell := by
  cases v with
  | none => exact Or.inl rfl
  | some s => exact Or.inr ⟨s, rfl⟩

theorem cell_dateJson (d : Option Date) : (dateJson d).Cell := by
  cases d with
  | none => exact Or.inl rfl
  | some d => exact Or.inr ⟨d.isoformat, rfl⟩

/-- The rows of a table have cells, and their id is the key of the table. -/
structure Hashed {ρ : Type} (columns : List String) (getattr : String → ρ → String → Json) :
    Prop where
  cell : ∀ id row col, (getattr id row col).Cell
  id_eq : ∀ id row, rowId (rowDict columns (getattr id row)) = id

theorem hashed_students : Hashed EntityFamily.students.columns StudentRow.getattr where
  cell id row col := by
    unfold StudentRow.getattr
    split <;> first | exact Or.inr ⟨_, rfl⟩ | exact cell_ofOption _ | exact Or.inl rfl
  id_eq _ _ := rfl

theorem hashed_enrollments : Hashed EntityFamily.enrollments.columns EnrollmentRow.getattr where
  cell id row col := by
    unfold EnrollmentRow.getattr
    split <;> first | exact Or.inr ⟨_, rfl⟩ | exact cell_dateJson _ | exact Or.inl rfl
  id_eq _ _ := rfl

theorem hashed_classes : Hashed EntityFamily.classes.columns ClassRow.getattr where
  cell id row col := by
    unfold ClassRow.getattr
    split <;> first | exact Or.inr ⟨_, rfl⟩ | exact cell_ofOption _ | exact Or.inl rfl
  id_eq _ _ := rfl

theorem hashed_academicSessions :
    Hashed EntityFamily.academicSessions.columns AcademicSessionRow.getattr where
  cell id row col := by
    unfold AcademicSessionRow.getattr
    split <;> first
      | exact Or.inr ⟨_, rfl⟩ | exact cell_ofOption _ | exact cell_dateJson _ | exact Or.inl rfl
  id_eq _ _ := rfl

theorem hashed_schools : Hashed EntityFamily.schools.columns SchoolRow.getattr where
  cell id row col := by
    unfold SchoolRow.getattr
    split <;> first | exact Or.inr ⟨_, rfl⟩ | exact cell_ofOption _ | exact Or.inl rfl
  id_eq _ _ := rfl

section Table

variable {ρ : Type} {t : Table String ρ} {leaId : LeaId} {columns : List String}
  {lea : ρ → LeaId} {deletedAt : ρ → Option Instant} {getattr : String → ρ → String → Json}

theorem mem_liveRows {row : Dict} :
    row ∈ Table.liveRows t leaId columns lea deletedAt getattr ↔
      ∃ id r, t.lookup id = some r ∧ lea r = leaId ∧ deletedAt r = none ∧
        row = rowDict columns (getattr id r) := by
  simp only [Table.liveRows, List.mem_map, List.mem_filter, Bool.and_eq_true, decide_eq_true_eq,
    Option.isNone_iff_eq_none, Prod.exists]
  constructor
  · rintro ⟨id, r, ⟨hm, hlea, hlive⟩, rfl⟩
    exact ⟨id, r, Table.mem_rows.mp hm, hlea, hlive, rfl⟩
  · rintro ⟨id, r, hl, hlea, hlive, rfl⟩
    exact ⟨id, r, ⟨Table.mem_rows.mpr hl, hlea, hlive⟩, rfl⟩

/-- The primary key keeps the ids of a table apart. -/
theorem oneTextPerId_liveRows (h : Hashed columns getattr) :
    OneTextPerId (Table.liveRows t leaId columns lea deletedAt getattr) := by
  intro a ha b hb hab
  obtain ⟨id, r, hr, -, -, rfl⟩ := mem_liveRows.mp ha
  obtain ⟨id', r', hr', -, -, rfl⟩ := mem_liveRows.mp hb
  rw [h.id_eq, h.id_eq] at hab
  subst hab
  rw [Option.some.inj (hr.symm.trans hr')]

end Table

variable {db : CanonicalDatabase} {leaId : LeaId} {family : EntityFamily} {row : Dict}

/-- A canonical row is a projection of cells. -/
theorem exists_cells (h : row ∈ db.liveRows leaId family) :
    ∃ g : String → Json, (∀ col, (g col).Cell) ∧ row = rowDict family.columns g := by
  cases family with
  | students =>
    obtain ⟨id, r, -, -, -, rfl⟩ := mem_liveRows.mp h
    exact ⟨_, hashed_students.cell id r, rfl⟩
  | enrollments =>
    obtain ⟨id, r, -, -, -, rfl⟩ := mem_liveRows.mp h
    exact ⟨_, hashed_enrollments.cell id r, rfl⟩
  | classes =>
    obtain ⟨id, r, -, -, -, rfl⟩ := mem_liveRows.mp h
    exact ⟨_, hashed_classes.cell id r, rfl⟩
  | academicSessions =>
    obtain ⟨id, r, -, -, -, rfl⟩ := mem_liveRows.mp h
    exact ⟨_, hashed_academicSessions.cell id r, rfl⟩
  | schools =>
    obtain ⟨id, r, -, -, -, rfl⟩ := mem_liveRows.mp h
    exact ⟨_, hashed_schools.cell id r, rfl⟩

theorem oneTextPerId_canonical (db : CanonicalDatabase) (leaId : LeaId) (family : EntityFamily) :
    OneTextPerId (db.liveRows leaId family) := by
  cases family with
  | students => exact oneTextPerId_liveRows hashed_students
  | enrollments => exact oneTextPerId_liveRows hashed_enrollments
  | classes => exact oneTextPerId_liveRows hashed_classes
  | academicSessions => exact oneTextPerId_liveRows hashed_academicSessions
  | schools => exact oneTextPerId_liveRows hashed_schools

theorem printed_normalised (v : SnapshotValue) : v.normalised.printed := by
  cases v with
  | json v h => exact h
  | date d => rfl

/-- A partner row is a projection of printed values. -/
theorem exists_printed {payload : SnapshotPayload} (h : row ∈ payload.rows leaId family) :
    ∃ g : String → Json, (∀ col, (g col).printed) ∧ row = rowDict family.columns g := by
  obtain ⟨entry, -, rfl⟩ := List.mem_map.mp h
  refine ⟨_, fun col => ?_, rfl⟩
  unfold SnapshotEntry.getattr
  split
  · rfl
  split
  · rfl
  · exact printed_normalised _

/-- A canonical and a partner row with one text are the same row. -/
theorem eq_of_rowText_eq {payload : SnapshotPayload} {a b : Dict}
    (ha : a ∈ db.liveRows leaId family) (hb : b ∈ payload.rows leaId family)
    (heq : rowText a = rowText b) : a = b := by
  obtain ⟨g, hg, rfl⟩ := exists_cells ha
  obtain ⟨h, hh, rfl⟩ := exists_printed hb
  exact rowText_inj hg hh heq

/-! ### One family -/

/-- The multisets of projected rows are equal. -/
abbrev SameRows (db : CanonicalDatabase) (leaId : LeaId) (payload : SnapshotPayload)
    (family : EntityFamily) : Prop :=
  (db.liveRows leaId family).Perm (payload.rows leaId family)

variable {scan : Scan db leaId} {payload : SnapshotPayload}

theorem oneTextPerId_scan (scan : Scan db leaId) (family : EntityFamily) :
    OneTextPerId (scan.rows family) := by
  intro a ha b hb hab
  have hmem := fun row => (scan.perm family).mem_iff (a := row)
  exact oneTextPerId_canonical db leaId family a ((hmem a).mp ha) b ((hmem b).mp hb) hab

/-- **The mid hashes of a family agree exactly on equal rows.** -/
theorem midHash_eq_iff
    (hinj : Set.InjOn sha.hexdigest (hashedTexts sha scan.rows (payload.rows leaId)))
    (family : EntityFamily) :
    (midHash sha (leavesOf sha (scan.rows family))).midHash
        = (midHash sha (leavesOf sha (payload.rows leaId family))).midHash ↔
      SameRows db leaId payload family := by
  constructor
  · intro heq
    rw [midHash_midHash, midHash_midHash] at heq
    have hperm : (scan.rows family).Perm (payload.rows leaId family) := by
      refine perm_of_midHash_eq hinj (fun row hrow => ⟨family, Or.inl ⟨row, hrow, rfl⟩⟩)
        ⟨family, Or.inr (Or.inl rfl)⟩ ⟨family, Or.inr (Or.inr rfl)⟩ ?_ heq
      intro a ha b hb hab
      exact eq_of_rowText_eq ((scan.perm family).mem_iff.mp ha) hb hab
    exact (scan.perm family).symm.trans hperm
  · intro hsame
    rw [midHash_eq_of_perm (oneTextPerId_scan scan family) ((scan.perm family).trans hsame)]

/-! ### The differences of the ids -/

theorem mem_sortedDifference {a b : List String} {id : String} :
    id ∈ sortedDifference a b ↔ id ∈ a ∧ id ∉ b := by
  rw [sortedDifference, List.mem_insertionSort, List.mem_filter, List.mem_dedup, decide_eq_true_eq]

theorem nodup_sortedDifference (a b : List String) : (sortedDifference a b).Nodup :=
  (List.perm_insertionSort _ _).nodup_iff.mpr ((List.nodup_dedup a).filter _)

/-- The sorted difference is a function of the two sets. -/
theorem sortedDifference_congr {a a' b b' : List String} (ha : ∀ id, id ∈ a ↔ id ∈ a')
    (hb : ∀ id, id ∈ b ↔ id ∈ b') : sortedDifference a b = sortedDifference a' b' := by
  refine List.Perm.eq_of_pairwise (fun _ _ _ _ => le_antisymm) (List.pairwise_insertionSort _ _)
    (List.pairwise_insertionSort _ _) ?_
  refine (List.perm_ext_iff_of_nodup (nodup_sortedDifference a b)
    (nodup_sortedDifference a' b')).mpr fun id => ?_
  have hiff : id ∈ a ∧ id ∉ b ↔ id ∈ a' ∧ id ∉ b' := by rw [ha id, hb id]
  exact mem_sortedDifference.trans (hiff.trans mem_sortedDifference.symm)

/-! ### The report -/

/-- A report without its hashes: the status, and what the drift names. -/
def outline (report : ReconciliationReport) :
    ReconciliationStatus × List (EntityFamily × List String × List String) :=
  (report.status, report.drift.map fun d => (d.entityType, d.canonicalOnlyIds, d.partnerOnlyIds))

/-- The drift entry of a family whose rows differ. -/
def difference (db : CanonicalDatabase) (leaId : LeaId) (payload : SnapshotPayload)
    (family : EntityFamily) : EntityFamily × List String × List String :=
  let canonical := (db.liveRows leaId family).map rowId
  let partner := (payload.rows leaId family).map rowId
  (family, sortedDifference canonical partner, sortedDifference partner canonical)

/-- The families whose rows differ, in the order of their names. -/
def unequal (db : CanonicalDatabase) (leaId : LeaId) (payload : SnapshotPayload) :
    List EntityFamily :=
  EntityFamily.sorted.filter fun family => ¬ SameRows db leaId payload family

/-- What a run reports about the two sides, without the hashes. -/
structure Exact (db : CanonicalDatabase) (leaId : LeaId) (payload : SnapshotPayload)
    (report : ReconciliationReport) : Prop where
  matched : report.status = .matched ↔ ∀ family, SameRows db leaId payload family
  drifted : report.status = .driftDetected ↔ ¬ ∀ family, SameRows db leaId payload family
  families : report.drift.map (·.entityType) = unequal db leaId payload
  canonicalOnly : ∀ d ∈ report.drift, d.canonicalOnlyIds.Nodup ∧ ∀ id, id ∈ d.canonicalOnlyIds ↔
    id ∈ (db.liveRows leaId d.entityType).map rowId ∧
      id ∉ (payload.rows leaId d.entityType).map rowId
  partnerOnly : ∀ d ∈ report.drift, d.partnerOnlyIds.Nodup ∧ ∀ id, id ∈ d.partnerOnlyIds ↔
    id ∈ (payload.rows leaId d.entityType).map rowId ∧
      id ∉ (db.liveRows leaId d.entityType).map rowId

theorem mem_unequal {family : EntityFamily} :
    family ∈ unequal db leaId payload ↔ ¬ SameRows db leaId payload family := by
  rw [unequal, List.mem_filter, decide_eq_true_eq]
  exact and_iff_right (EntityFamily.mem_sorted family)

theorem unequal_eq_nil : unequal db leaId payload = [] ↔
    ∀ family, SameRows db leaId payload family := by
  rw [List.eq_nil_iff_forall_not_mem]
  exact forall_congr' fun family => by rw [mem_unequal, not_not]

/-- **The drift list is the list of the unequal families with their differences.** -/
theorem outline_diffSides
    (hinj : Set.InjOn sha.hexdigest (hashedTexts sha scan.rows (payload.rows leaId))) :
    (diffSides (computeHashes sha scan.rows) (computeHashes sha (payload.rows leaId))).map
        (fun d => (d.entityType, d.canonicalOnlyIds, d.partnerOnlyIds))
      = (unequal db leaId payload).map (difference db leaId payload) := by
  have hids : ∀ family id, id ∈ (midHash sha (leavesOf sha (scan.rows family))).entityIds ↔
      id ∈ (db.liveRows leaId family).map rowId := fun family id =>
    mem_entityIds.trans ((scan.perm family).map rowId).mem_iff
  rw [diffSides, List.map_filterMap, unequal, ← List.filterMap_eq_map, ← List.filterMap_eq_filter,
    List.filterMap_filterMap]
  refine List.filterMap_congr fun family _ => ?_
  simp only [computeHashes, midHash_eq_iff hinj family]
  by_cases hsame : SameRows db leaId payload family
  · simp [Option.guard, hsame]
  · simp only [hsame, if_false, Option.map_some, difference, Option.guard, not_false_eq_true,
      decide_true, if_true, Option.bind_some, Function.comp_apply]
    rw [sortedDifference_congr (hids family) fun _ => mem_entityIds,
      sortedDifference_congr (fun _ => mem_entityIds) (hids family)]

variable {partner : String} {requireQuietMinutes : Int} {now : Instant}

theorem reconcileLea_of_quiet
    (hquiet : cursorQuietFor db.toStore leaId partner requireQuietMinutes now = true) :
    reconcileLea sha scan partner payload requireQuietMinutes now
      = compareSides (computeHashes sha scan.rows) (computeHashes sha (payload.rows leaId)) := by
  rw [reconcileLea, if_pos hquiet]

/-- The outline of a run depends on the multisets of rows alone. -/
theorem outline_reconcileLea
    (hquiet : cursorQuietFor db.toStore leaId partner requireQuietMinutes now = true)
    (hinj : Set.InjOn sha.hexdigest (hashedTexts sha scan.rows (payload.rows leaId))) :
    outline (reconcileLea sha scan partner payload requireQuietMinutes now)
      = (if unequal db leaId payload = [] then .matched else .driftDetected,
          (unequal db leaId payload).map (difference db leaId payload)) := by
  have hdrift := outline_diffSides hinj
  have hnil : diffSides (computeHashes sha scan.rows) (computeHashes sha (payload.rows leaId)) = []
      ↔ unequal db leaId payload = [] := by
    rw [← List.map_eq_nil_iff, hdrift, List.map_eq_nil_iff]
  rw [reconcileLea_of_quiet hquiet, outline, compareSides, hdrift]
  simp only [hnil]

/-- Two reports that agree give one mid hash to the partner rows of a drifted family. -/
theorem partnerMidHash_eq {scan : Scan db leaId} {payload payload' : SnapshotPayload}
    {family : EntityFamily}
    (hne : (midHash sha (leavesOf sha (scan.rows family))).midHash
      ≠ (midHash sha (leavesOf sha (payload.rows leaId family))).midHash)
    (heq : compareSides (computeHashes sha scan.rows) (computeHashes sha (payload.rows leaId))
      = compareSides (computeHashes sha scan.rows) (computeHashes sha (payload'.rows leaId))) :
    (midHash sha (leavesOf sha (payload.rows leaId family))).midHash
      = (midHash sha (leavesOf sha (payload'.rows leaId family))).midHash := by
  have hdrift : diffSides (computeHashes sha scan.rows) (computeHashes sha (payload.rows leaId))
      = diffSides (computeHashes sha scan.rows) (computeHashes sha (payload'.rows leaId)) :=
    congrArg ReconciliationReport.drift heq
  -- the entry of the family in the first drift is an entry of the second
  obtain ⟨d, hd, htype, hpartner⟩ : ∃ d ∈ diffSides (computeHashes sha scan.rows)
      (computeHashes sha (payload.rows leaId)), d.entityType = family ∧
        d.partnerMidHash = (midHash sha (leavesOf sha (payload.rows leaId family))).midHash :=
    ⟨_, List.mem_filterMap.mpr ⟨family, EntityFamily.mem_sorted family, if_neg hne⟩, rfl, rfl⟩
  rw [hdrift] at hd
  obtain ⟨family', -, hentry⟩ := List.mem_filterMap.mp hd
  by_cases hsame : (midHash sha (leavesOf sha (scan.rows family'))).midHash
      = (midHash sha (leavesOf sha (payload'.rows leaId family'))).midHash
  · exact absurd hentry (by simp [computeHashes, hsame])
  · have hd' := Option.some.inj ((if_neg hsame).symm.trans hentry)
    subst hd'
    obtain rfl : family' = family := htype
    exact hpartner.symm

theorem sameRows_congr {payload' : SnapshotPayload}
    (hperm : ∀ family, (payload'.rows leaId family).Perm (payload.rows leaId family))
    (family : EntityFamily) :
    SameRows db leaId payload' family ↔ SameRows db leaId payload family :=
  ⟨fun h => h.trans (hperm family), fun h => h.trans (hperm family).symm⟩

theorem unequal_congr {payload' : SnapshotPayload}
    (hperm : ∀ family, (payload'.rows leaId family).Perm (payload.rows leaId family)) :
    unequal db leaId payload' = unequal db leaId payload :=
  List.filter_congr fun family _ => decide_eq_decide.mpr (not_congr (sameRows_congr hperm family))

theorem difference_congr {payload' : SnapshotPayload}
    (hperm : ∀ family, (payload'.rows leaId family).Perm (payload.rows leaId family)) :
    difference db leaId payload' = difference db leaId payload := by
  funext family
  have hids := fun id => ((hperm family).map rowId).mem_iff (a := id)
  rw [difference, difference, sortedDifference_congr (fun _ => Iff.rfl) hids,
    sortedDifference_congr hids fun _ => Iff.rfl]

/-- The hashes of a side do not depend on the order of its rows, where an id has one text. -/
theorem computeHashes_congr {rows rows' : EntityFamily → List Dict}
    (hone : ∀ family, OneTextPerId (rows family))
    (hperm : ∀ family, (rows family).Perm (rows' family)) :
    computeHashes sha rows = computeHashes sha rows' := by
  have hmid : (fun family => midHash sha (leavesOf sha (rows family)))
      = fun family => midHash sha (leavesOf sha (rows' family)) :=
    funext fun family => midHash_eq_of_perm (hone family) (hperm family)
  simp only [computeHashes]
  rw [hmid]

theorem exact_of_outline {report : ReconciliationReport}
    (h : outline report = (if unequal db leaId payload = [] then .matched else .driftDetected,
      (unequal db leaId payload).map (difference db leaId payload))) :
    Exact db leaId payload report := by
  obtain ⟨hstatus, hdrift⟩ := Prod.mk.inj h
  -- every entry of the drift is the difference of its family
  have hentry : ∀ d ∈ report.drift, (d.entityType, d.canonicalOnlyIds, d.partnerOnlyIds)
      = difference db leaId payload d.entityType := by
    intro d hd
    obtain ⟨family, -, hf⟩ := List.mem_map.mp (hdrift ▸ List.mem_map_of_mem hd)
    have hfamily : family = d.entityType := (Prod.mk.inj hf).1
    rw [← hf, hfamily]
  have honly : ∀ d ∈ report.drift,
      d.canonicalOnlyIds = (difference db leaId payload d.entityType).2.1 ∧
        d.partnerOnlyIds = (difference db leaId payload d.entityType).2.2 := by
    intro d hd
    rw [← hentry d hd]
    exact ⟨rfl, rfl⟩
  refine ⟨?_, ?_, ?_, fun d hd => ?_, fun d hd => ?_⟩
  · rw [hstatus, ← unequal_eq_nil]
    split <;> simp_all
  · rw [hstatus, ← unequal_eq_nil]
    split <;> simp_all
  · have hmap := congrArg (List.map Prod.fst) hdrift
    rw [List.map_map, List.map_map] at hmap
    exact hmap.trans (List.map_id' _)
  · rw [(honly d hd).1]
    exact ⟨nodup_sortedDifference _ _, fun _ => mem_sortedDifference⟩
  · rw [(honly d hd).2]
    exact ⟨nodup_sortedDifference _ _, fun _ => mem_sortedDifference⟩

/-! ### One student, listed twice -/

/-- The last `k` hexadecimal digits of a number. -/
def hexDigits : Nat → Nat → List Char
  | 0, _ => []
  | k + 1, n => hexDigits k (n / 16) ++ [Nat.digitChar (n % 16)]

theorem length_hexDigits (k n : Nat) : (hexDigits k n).length = k := by
  induction k generalizing n with
  | zero => rfl
  | succ k ih => rw [hexDigits, List.length_append, ih, List.length_singleton]

theorem hexDigits_injective (k : Nat) : ∀ {m n : Nat}, m < 16 ^ k → n < 16 ^ k →
    hexDigits k m = hexDigits k n → m = n := by
  induction k with
  | zero => intro m n hm hn _; omega
  | succ k ih =>
    intro m n hm hn h
    rw [pow_succ] at hm hn
    obtain ⟨hhigh, hlow⟩ := List.append_inj' h rfl
    have hhigh := ih (by omega) (by omega) hhigh
    have hlow := Json.digitChar_injective _ _ (Nat.mod_lt m (by omega)) (Nat.mod_lt n (by omega))
      (List.cons.inj hlow).1
    omega

/-- A digest function given by its values on some texts. -/
def ofTable (table : List (List Char × Nat)) : Sha256 where
  hexdigest text := hexDigits 64 ((table.lookup text).getD 0)
  length_hexdigest _ := length_hexDigits _ _

/-- Different digests have no collision on the texts of the table. -/
theorem injOn_ofTable {table : List (List Char × Nat)} {texts : Set (List Char)}
    (hlt : ∀ digest ∈ table.map Prod.snd, digest < 16 ^ 64) (hnodup : (table.map Prod.snd).Nodup)
    (htexts : ∀ text ∈ texts, text ∈ table.map Prod.fst) :
    Set.InjOn (ofTable table).hexdigest texts := by
  -- each text has an entry, and its digest is the number there
  have hentry : ∀ text ∈ texts, ∃ n, (text, n) ∈ table ∧ table.lookup text = some n := by
    intro text ht
    cases hl : table.lookup text with
    | none =>
      obtain ⟨e, he, rfl⟩ := List.mem_map.mp (htexts text ht)
      have hne := List.lookup_eq_none_iff.mp hl e he
      simp at hne
    | some n =>
      obtain ⟨_, _, htable, _⟩ := List.lookup_eq_some_iff.mp hl
      exact ⟨n, htable ▸ by simp, rfl⟩
  intro a ha b hb heq
  obtain ⟨m, hm, hla⟩ := hentry a ha
  obtain ⟨n, hn, hlb⟩ := hentry b hb
  simp only [ofTable, hla, hlb, Option.getD_some] at heq
  have hmn := hexDigits_injective 64 (hlt m (List.mem_map_of_mem hm))
    (hlt n (List.mem_map_of_mem hn)) heq
  exact congrArg Prod.fst (List.inj_on_of_nodup_map hnodup hm hn hmn)

/-- A text of the payload. -/
def text (s : String) : SnapshotValue := .json (.str s) rfl

def alex (grade : String) : SnapshotEntry :=
  [("id", text "s1"), ("given_name", text "Alex"), ("family_name", text "Diaz"),
    ("grade", text grade)]

/-- The student's row, projected. -/
def alexRow (grade : String) : Dict :=
  rowDict EntityFamily.students.columns (SnapshotEntry.getattr "L1" (alex grade))

example : rowText (alexRow "05") = (
    "\x7b\"family_name\":\"Diaz\",\"given_name\":\"Alex\",\"grade\":\"05\"," ++
    "\"id\":\"s1\",\"lea_id\":\"L1\",\"preferred_first_name\":null," ++
    "\"primary_school_id\":null\x7d").toList := by
  decide +kernel

def noRows : Nat :=
  0xe3b0c44298fc1c149afbf4c8996fb92427ae41e4649b934ca495991b7852b855

def grade05 : Nat :=
  0xb09dbe0608e71c64a4a493353de8baa609fe5b861aa8670f319a00ec6d355a3e

def grade06 : Nat :=
  0x369093d2934be0db4c093dbca7f5ce05cdd85479a5e195d3962e1032dce982a9

/-- What one pair with a digest adds to a mid or root hash. -/
def digestRecord (name : String) (digest : Nat) : List Char := record (name, hexDigits 64 digest)

/-- The text of a root hash, where only students are listed. -/
def studentsOnly (students : Nat) : List Char :=
  digestRecord "academic_sessions" noRows ++ digestRecord "classes" noRows ++
    digestRecord "enrollments" noRows ++ digestRecord "schools" noRows ++
    digestRecord "students" students

/-- SHA-256 on the texts of the runs below. -/
def alexTable : List (List Char × Nat) :=
  let once := 0xff2ff815372b1bdd86577a9976d9fb6183b718737604e05451370f34f71e34db
  let inOrder := 0x7241b7116ae0c89d958e12db5ec571b164dfa0a8f91a7331aec4d5ee26c9b6f4
  let reversed := 0xd9e5750c6d29fbae47393066e93a6409d8be84bb365d8c3931de9698ba252afe
  [([], noRows), (rowText (alexRow "05"), grade05), (rowText (alexRow "06"), grade06),
    (digestRecord "s1" grade05, once),
    (digestRecord "s1" grade05 ++ digestRecord "s1" grade06, inOrder),
    (digestRecord "s1" grade06 ++ digestRecord "s1" grade05, reversed),
    (studentsOnly noRows,
      0x4925d1d6848d3286b3a23a3775faa9024367d4426a90ad547bb7ffa912cc8f25),
    (studentsOnly once,
      0x9d2027db29fc18e187985109dabbaa1f59b96cb892b478d46287619a505eaeeb),
    (studentsOnly inOrder,
      0xac5aa2a0d9ede28c3a74fd545007c141a74a9a9fe1daad8839f5142a9dd6cfa6),
    (studentsOnly reversed,
      0x0e57ac6976f8a0f6272551b3d984ca461d048614c80a6f73e207107adbe5d1cb)]

def alexSha : Sha256 := ofTable alexTable

/-- A database with an LEA and no rows of its families. -/
def unrostered : CanonicalDatabase where
  toStore := Store.empty.withRoster
    { Roster.empty with
      leas := AList.insert "L1" { name := "Unified", leaType := "charter_lea", state := "CA" } ∅ }
  classes := ∅
  academicSessions := ∅
  schools := ∅

/-- The same database with the student in grade 05. -/
def rostered : CanonicalDatabase :=
  { unrostered with
    roster := { unrostered.roster with
      students := AList.insert "s1"
        { leaId := "L1", givenName := "Alex", familyName := "Diaz", grade := some "05",
          preferredFirstName := none, primarySchoolId := none, externalIds := .obj [] } ∅ } }

/-- The two orders of the payload. -/
def inOrder : SnapshotPayload := [("students", [alex "05", alex "06"])]

def reversed : SnapshotPayload := [("students", [alex "06", alex "05"])]

/-- The texts of a run are found family by family. -/
theorem hashedTexts_subset {sha : Sha256} {canonical partner : EntityFamily → List Dict}
    {texts : List (List Char)} (h : ∀ family,
      (∀ row ∈ canonical family ++ partner family, rowText row ∈ texts) ∧
        midText sha (canonical family) ∈ texts ∧ midText sha (partner family) ∈ texts) :
    ∀ text ∈ hashedTexts sha canonical partner, text ∈ texts := by
  rintro text ⟨family, ⟨row, hrow, rfl⟩ | rfl | rfl⟩
  · exact (h family).1 row hrow
  · exact (h family).2.1
  · exact (h family).2.2

theorem injOn_alexSha {texts : Set (List Char)}
    (htexts : ∀ text ∈ texts, text ∈ alexTable.map Prod.fst) :
    Set.InjOn alexSha.hexdigest texts :=
  injOn_ofTable (by decide) (by decide) htexts

theorem rowText_alexRow_ne : rowText (alexRow "06") ≠ rowText (alexRow "05") := by decide

theorem leaf_grade05 : hashRow alexSha (alexRow "05") = hexDigits 64 grade05 := by
  have hne : (rowText (alexRow "05")).isEmpty = false := rfl
  simp [hashRow, alexSha, ofTable, alexTable, List.lookup_cons, hne]

theorem leaf_grade06 : hashRow alexSha (alexRow "06") = hexDigits 64 grade06 := by
  have hne : (rowText (alexRow "06")).isEmpty = false := rfl
  simp [hashRow, alexSha, ofTable, alexTable, List.lookup_cons, hne,
    beq_eq_false_iff_ne.mpr rowText_alexRow_ne]

theorem midText_singleton (sha : Sha256) (a : Dict) :
    midText sha [a] = record (rowId a, hashRow sha a) := by
  simp [midText, sortLeaves, leavesOf]

theorem midText_pair {sha : Sha256} {a b : Dict} (h : rowId a ≤ rowId b) :
    midText sha [a, b] = record (rowId a, hashRow sha a) ++ record (rowId b, hashRow sha b) := by
  simp [midText, sortLeaves, leavesOf, h]

theorem midText_inOrder : midText alexSha (inOrder.rows "L1" .students)
    = digestRecord "s1" grade05 ++ digestRecord "s1" grade06 := by
  have h : midText alexSha [alexRow "05", alexRow "06"] = _ := midText_pair le_rfl
  rw [leaf_grade05, leaf_grade06] at h
  exact h

theorem midText_reversed : midText alexSha (reversed.rows "L1" .students)
    = digestRecord "s1" grade06 ++ digestRecord "s1" grade05 := by
  have h : midText alexSha [alexRow "06", alexRow "05"] = _ := midText_pair le_rfl
  rw [leaf_grade05, leaf_grade06] at h
  exact h

/-- The families the fixtures leave empty add the text of an empty list. -/
theorem injOn_students {scan : Scan db leaId} {payload : SnapshotPayload}
    (hempty : ∀ family, family ≠ .students →
      scan.rows family = [] ∧ payload.rows leaId family = [])
    (hrows : ∀ row ∈ scan.rows .students ++ payload.rows leaId .students,
      row = alexRow "05" ∨ row = alexRow "06")
    (hmid : midText alexSha (scan.rows .students) ∈ alexTable.map Prod.fst)
    (hmid' : midText alexSha (payload.rows leaId .students) ∈ alexTable.map Prod.fst) :
    Set.InjOn alexSha.hexdigest (hashedTexts alexSha scan.rows (payload.rows leaId)) := by
  refine injOn_alexSha (hashedTexts_subset fun family => ?_)
  by_cases hf : family = .students
  · subst hf
    refine ⟨fun row hrow => ?_, hmid, hmid'⟩
    rcases hrows row hrow with rfl | rfl <;> simp [alexTable]
  · rw [(hempty family hf).1, (hempty family hf).2]
    exact ⟨fun row hrow => absurd hrow List.not_mem_nil, List.mem_cons_self, List.mem_cons_self⟩

theorem injOn_inOrder : Set.InjOn alexSha.hexdigest
    (hashedTexts alexSha (Scan.heap unrostered "L1").rows (inOrder.rows "L1")) := by
  refine injOn_students (fun family hf => ?_) (fun row hrow => ?_) List.mem_cons_self ?_
  · cases family <;> first | exact absurd rfl hf | exact ⟨rfl, rfl⟩
  · have hrow : row ∈ [alexRow "05", alexRow "06"] := hrow
    exact List.mem_pair.mp hrow
  · rw [midText_inOrder]
    simp [alexTable]

theorem injOn_reversed : Set.InjOn alexSha.hexdigest
    (hashedTexts alexSha (Scan.heap unrostered "L1").rows (reversed.rows "L1")) := by
  refine injOn_students (fun family hf => ?_) (fun row hrow => ?_) List.mem_cons_self ?_
  · cases family <;> first | exact absurd rfl hf | exact ⟨rfl, rfl⟩
  · have hrow : row ∈ [alexRow "06", alexRow "05"] := hrow
    exact (List.mem_pair.mp hrow).symm
  · rw [midText_reversed]
    simp [alexTable]

/-- The two mid texts differ in the first digit of their first leaf. -/
theorem midText_reversed_ne : midText alexSha (reversed.rows "L1" .students)
    ≠ midText alexSha (inOrder.rows "L1" .students) := by
  rw [midText_reversed, midText_inOrder]
  decide

/-! ### The result -/

/-- **Reconciliation is sound and complete.**  With the quiet window satisfied and no
collision among the texts it hashes, a run reports matched exactly when the five
families have equal multisets of rows, and the drift names the unequal ones with their
ids.  The order of the canonical rows never matters; the order of the partner rows does
not for the outline, nor for the hashes unless two rows share an id and differ. -/
theorem reconciliation_exact (sha : Sha256) (db : CanonicalDatabase) (leaId : LeaId)
    (scan : Scan db leaId) (partner : String) (payload : SnapshotPayload)
    (requireQuietMinutes : Int) (now : Instant)
    (hquiet : cursorQuietFor db.toStore leaId partner requireQuietMinutes now = true)
    (hinj : Set.InjOn sha.hexdigest (hashedTexts sha scan.rows (payload.rows leaId))) :
    Exact db leaId payload (reconcileLea sha scan partner payload requireQuietMinutes now) ∧
    ∀ (scan' : Scan db leaId) (payload' : SnapshotPayload),
      (∀ family, (payload'.rows leaId family).Perm (payload.rows leaId family)) →
      (Set.InjOn sha.hexdigest (hashedTexts sha scan'.rows (payload'.rows leaId)) →
        outline (reconcileLea sha scan' partner payload' requireQuietMinutes now)
          = outline (reconcileLea sha scan partner payload requireQuietMinutes now)) ∧
      (payload' = payload ∨ (∀ family, OneTextPerId (payload.rows leaId family)) →
        reconcileLea sha scan' partner payload' requireQuietMinutes now
          = reconcileLea sha scan partner payload requireQuietMinutes now) := by
  have houtline := outline_reconcileLea hquiet hinj
  refine ⟨exact_of_outline houtline, fun scan' payload' hperm => ⟨fun hinj' => ?_, fun h => ?_⟩⟩
  · rw [houtline, outline_reconcileLea hquiet hinj', unequal_congr hperm, difference_congr hperm]
  · have hscan : computeHashes sha scan'.rows = computeHashes sha scan.rows :=
      computeHashes_congr (oneTextPerId_scan scan') fun family =>
        (scan'.perm family).trans (scan.perm family).symm
    have hpartner : computeHashes sha (payload'.rows leaId)
        = computeHashes sha (payload.rows leaId) := by
      rcases h with rfl | hone
      · rfl
      · exact (computeHashes_congr hone fun family => (hperm family).symm).symm
    rw [reconcileLea_of_quiet hquiet, reconcileLea_of_quiet hquiet, hscan, hpartner]

theorem reconciliation_exact_rostered :
    Exact rostered "L1" [("students", [alex "05"])]
      (reconcileLea alexSha (Scan.heap rostered "L1") "edlink"
        [("students", [alex "05"])] 60 0) := by
  have hmid : midText alexSha [alexRow "05"] ∈ alexTable.map Prod.fst := by
    rw [midText_singleton, leaf_grade05]
    show digestRecord "s1" grade05 ∈ alexTable.map Prod.fst
    simp [alexTable]
  refine (reconciliation_exact alexSha rostered "L1" (Scan.heap rostered "L1") "edlink"
    [("students", [alex "05"])] 60 0 rfl ?_).1
  refine injOn_students (fun family hf => ?_) (fun row hrow => ?_) hmid hmid
  · cases family <;> first | exact absurd rfl hf | exact ⟨rfl, rfl⟩
  · have hrow : row ∈ [alexRow "05", alexRow "05"] := hrow
    exact Or.inl ((List.mem_pair.mp hrow).elim id id)

/-- The report of an unchanged database and payload depends on the order in which the
partner lists the two rows of one id. -/
theorem report_follows_partner_order :
    Set.InjOn alexSha.hexdigest
      (hashedTexts alexSha (Scan.heap unrostered "L1").rows (inOrder.rows "L1")) ∧
    Set.InjOn alexSha.hexdigest
      (hashedTexts alexSha (Scan.heap unrostered "L1").rows (reversed.rows "L1")) ∧
    (∀ family, (reversed.rows "L1" family).Perm (inOrder.rows "L1" family)) ∧
    reconcileLea alexSha (Scan.heap unrostered "L1") "edlink" reversed 0 0
      ≠ reconcileLea alexSha (Scan.heap unrostered "L1") "edlink" inOrder 0 0 := by
  refine ⟨injOn_inOrder, injOn_reversed, ?_, ?_⟩
  · intro family
    cases family with
    | students => exact List.Perm.swap _ _ _
    | enrollments | classes | academicSessions | schools => exact List.Perm.refl _
  · intro heq
    rw [reconcileLea_of_quiet rfl, reconcileLea_of_quiet rfl] at heq
    have hdrifted : ¬ SameRows unrostered "L1" reversed .students :=
      fun hsame => absurd hsame.length_eq (by decide)
    have hhash := partnerMidHash_eq (mt (midHash_eq_iff injOn_reversed _).mp hdrifted) heq
    have htexts : ∀ text ∈ ({midText alexSha (reversed.rows "L1" .students),
        midText alexSha (inOrder.rows "L1" .students)} : Set (List Char)),
        text ∈ alexTable.map Prod.fst := by
      rintro text (rfl | rfl)
      · rw [midText_reversed]
        simp [alexTable]
      · rw [midText_inOrder]
        simp [alexTable]
    rw [midHash_midHash, midHash_midHash] at hhash
    exact midText_reversed_ne (injOn_alexSha htexts (Or.inl rfl) (Or.inr rfl) hhash)

end Reconciliation
