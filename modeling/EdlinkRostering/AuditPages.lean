/-
The audit explorer returns every matching entry.

The pages are those of keyset pagination over the listing of the matching entries, with
`(occurred_at, id)` as the key.  Ids are pairwise distinct and text has one total order,
so the listing is strict and the library's walk returns it, whatever the timestamps share
and wherever the pages end.

* `audit_pagination_complete` — the pages, one after the other.
-/
import EdlinkRostering.Timeline

namespace Admin

variable (pg : AdminPostgres) (db : AdminDatabase)

/-! ### The order of the entries -/

/-- The key of an entry. -/
def TimelineEntry.cursor (entry : TimelineEntry) : AuditCursor where
  occurredAt := entry.occurredAt
  id := entry.id

/-- `(b.occurred_at, b.id) < (a.occurred_at, a.id)`. -/
def newer (a b : AuditCursor) : Prop :=
  b.occurredAt < a.occurredAt
    ∨ (b.occurredAt = a.occurredAt ∧ textLt pg.toPostgres b.id a.id = true)

instance : DecidableRel (newer pg) := fun a b => by
  unfold newer
  infer_instance

theorem newer_irrefl (a : AuditCursor) : ¬newer pg a a := by
  rintro (h | ⟨-, h⟩)
  · exact lt_irrefl _ h
  · rw [textLt_irrefl] at h
    exact Bool.noConfusion h

variable {pg}

theorem newer_trans (horder : TextOrdered pg.toPostgres) {a b c : AuditCursor}
    (hab : newer pg a b) (hbc : newer pg b c) : newer pg a c := by
  rcases hab with hab | ⟨heq, hab⟩
  · rcases hbc with hbc | ⟨heq', -⟩
    · exact Or.inl (hbc.trans hab)
    · exact Or.inl (heq' ▸ hab)
  · rcases hbc with hbc | ⟨heq', hbc⟩
    · exact Or.inl (heq ▸ hbc)
    · exact Or.inr ⟨heq'.trans heq, horder.textLt_trans hbc hab⟩

theorem newestFirst_total (horder : TextOrdered pg.toPostgres) (a b : TimelineEntry) :
    newestFirst pg a b ∨ newestFirst pg b a := by
  rcases lt_trichotomy a.occurredAt b.occurredAt with hlt | heq | hlt
  · exact Or.inr (Or.inl hlt)
  · rcases horder.total b.id a.id with hle | hle
    · exact Or.inl (Or.inr ⟨heq, hle⟩)
    · exact Or.inr (Or.inr ⟨heq.symm, hle⟩)
  · exact Or.inl (Or.inl hlt)

theorem newestFirst_trans (horder : TextOrdered pg.toPostgres) {a b c : TimelineEntry}
    (hab : newestFirst pg a b) (hbc : newestFirst pg b c) : newestFirst pg a c := by
  rcases hab with hab | ⟨heq, hab⟩
  · rcases hbc with hbc | ⟨heq', -⟩
    · exact Or.inl (hbc.trans hab)
    · exact Or.inl (heq' ▸ hab)
  · rcases hbc with hbc | ⟨heq', hbc⟩
    · exact Or.inl (heq ▸ hbc)
    · exact Or.inr ⟨heq.trans heq', horder.trans _ _ _ hbc hab⟩

/-- Entries with different ids are never tied. -/
theorem newer_of_newestFirst {a b : TimelineEntry} (hab : newestFirst pg a b)
    (hid : a.id ≠ b.id) : newer pg a.cursor b.cursor := by
  rcases hab with hlt | ⟨heq, hle⟩
  · exact Or.inl hlt
  · refine Or.inr ⟨heq.symm, ?_⟩
    show textLt pg.toPostgres b.id a.id = true
    simp [textLt, hle, Ne.symm hid]

/-! ### The listing -/

variable (pg)

/-- The filter a request of the explorer makes. -/
def AuditFilter.timelineFilter (filter : AuditFilter) (op : Operator) (cursor : Option AuditCursor)
    (limit : Nat) : TimelineFilter where
  leaIds := op.scope
  operatorId := filter.operatorId
  actionPrefix := filter.actionPrefix
  since := filter.since
  till := filter.till
  cursorOccurredAt := cursor.map AuditCursor.occurredAt
  cursorId := cursor.map AuditCursor.id
  limit := limit

/-- The entries that match, in no particular order. -/
def matchingEntries (op : Operator) (filter : AuditFilter) : List TimelineEntry :=
  ((timelineRows pg db op.scope).filter
    (outerWhere pg (filter.timelineFilter op none 50))).map TimelineRow.toTimelineEntry

/-- The same entries, newest first. -/
def listing (op : Operator) (filter : AuditFilter) : List TimelineEntry :=
  (matchingEntries pg db op filter).insertionSort (newestFirst pg)

/-- Request one page after a cursor. -/
def fetchPage (op : Operator) (filter : AuditFilter) (limit : Nat) (cursor : Option AuditCursor) :
    List TimelineEntry × Option AuditCursor :=
  let page := listAuditEntries pg db op filter (cursor.map AuditCursor.occurredAt)
    (cursor.map AuditCursor.id) limit
  (page.entries, page.nextCursor)

/-- The pages from the first one on, `next_cursor` after `next_cursor`. -/
def followCursors (op : Operator) (filter : AuditFilter) (limit fuel : Nat) :
    Option (List (List TimelineEntry)) :=
  Keyset.walk (fetchPage pg db op filter limit) fuel none

/-- The seven selects of an empty scope are empty. -/
theorem timelineRows_no_leas : timelineRows pg db (some []) = [] := by
  have hscope : ∀ leaId, inScope (some []) leaId = false := fun _ => rfl
  simp only [timelineRows, auditBranch, syncsBranch, revertsBranch, retriesBranch,
    quarantineCreatedBranch, quarantineResolvedBranch, reconciliationsBranch, hscope,
    Bool.false_eq_true, if_false, List.append_eq_nil_iff, List.filterMap_eq_nil_iff]
  refine ⟨⟨⟨⟨⟨⟨?_, fun _ _ => trivial⟩, ?_⟩, fun _ _ => trivial⟩, fun _ _ => trivial⟩, ?_⟩,
    fun _ _ => trivial⟩
  · intro row _
    split <;> rfl
  · intro row _
    split <;> rfl
  · intro row _
    split <;> rfl

variable {db} {op : Operator} {filter : AuditFilter} {limit : Nat}

/-- The cursor clause keeps what the listing has after the cursor. -/
theorem outerWhere_cursor (cursor : AuditCursor) (row : TimelineRow) :
    outerWhere pg (filter.timelineFilter op (some cursor) limit) row
      = (decide (newer pg cursor row.toTimelineEntry.cursor)
          && outerWhere pg (filter.timelineFilter op none 50) row) := by
  have hclause : cursorClause pg (filter.timelineFilter op (some cursor) limit)
      row.toTimelineEntry = decide (newer pg cursor row.toTimelineEntry.cursor) := by
    rw [Bool.eq_iff_iff, decide_eq_true_eq]
    simp [cursorClause, AuditFilter.timelineFilter, newer, TimelineEntry.cursor]
  have hnone : cursorClause pg (filter.timelineFilter op none 50) row.toTimelineEntry = true := rfl
  rw [outerWhere, hclause, Bool.and_comm]
  rw [outerWhere, hnone, Bool.and_true]
  rfl

/-- A page is cut from what the listing has after the cursor. -/
theorem listTimeline_eq_take (horder : TextOrdered pg.toPostgres) (cursor : Option AuditCursor) :
    listTimeline pg db (filter.timelineFilter op cursor limit)
      = (Keyset.remaining (newer pg) TimelineEntry.cursor (listing pg db op filter) cursor).take
          limit := by
  have : Std.Total (newestFirst pg) := ⟨newestFirst_total horder⟩
  have : IsTrans TimelineEntry (newestFirst pg) := ⟨fun _ _ _ => newestFirst_trans horder⟩
  cases cursor with
  | none => rfl
  | some cursor =>
    have hwhere : outerWhere pg (filter.timelineFilter op (some cursor) limit)
        = fun row => decide (newer pg cursor row.toTimelineEntry.cursor)
            && outerWhere pg (filter.timelineFilter op none 50) row :=
      funext (outerWhere_cursor pg cursor)
    have hleas : (filter.timelineFilter op (some cursor) limit).leaIds = op.scope := rfl
    have hlimit : (filter.timelineFilter op (some cursor) limit).limit = limit := rfl
    rw [Keyset.remaining, listing, List.filter_insertionSort, matchingEntries, List.filter_map,
      List.filter_filter, listTimeline, hwhere, hleas, hlimit]
    rfl

/-- What the explorer answers is a page of the listing and the cursor after it. -/
theorem fetchPage_eq (horder : TextOrdered pg.toPostgres) (hlimit : 1 ≤ limit)
    (cursor : Option AuditCursor) :
    fetchPage pg db op filter limit cursor
      = ((Keyset.remaining (newer pg) TimelineEntry.cursor (listing pg db op filter) cursor).take
            limit,
          Keyset.nextCursor TimelineEntry.cursor limit
            ((Keyset.remaining (newer pg) TimelineEntry.cursor
              (listing pg db op filter) cursor).take limit)) := by
  rw [← listTimeline_eq_take pg horder cursor]
  by_cases hempty : op.role = .operator ∧ op.authorizedLeas = []
  · -- nothing is granted: the page is empty, and so is the timeline
    have hscope : op.scope = some [] := by rw [Operator.scope, if_pos hempty.1, hempty.2]
    have hleas : (filter.timelineFilter op cursor limit).leaIds = op.scope := rfl
    have hnil : listTimeline pg db (filter.timelineFilter op cursor limit) = [] := by
      rw [listTimeline, hleas, hscope, timelineRows_no_leas]
      exact List.take_nil
    have hnext : Keyset.nextCursor TimelineEntry.cursor limit [] = none := if_pos hlimit
    rw [hnil, hnext, fetchPage, listAuditEntries, if_pos hempty]
  · rw [fetchPage, listAuditEntries, if_neg hempty]
    rfl

theorem listing_nodup (hids : ((timelineRows pg db op.scope).map fun row => row.id).Nodup) :
    ((listing pg db op filter).map TimelineEntry.id).Nodup := by
  have hmatching : ((matchingEntries pg db op filter).map TimelineEntry.id).Nodup := by
    rw [matchingEntries, List.map_map]
    exact hids.sublist (List.filter_sublist.map _)
  have hperm := List.perm_insertionSort (newestFirst pg) (matchingEntries pg db op filter)
  exact (hperm.map _).nodup_iff.mpr hmatching

/-- Distinct ids make the listing strict. -/
theorem listing_strict (horder : TextOrdered pg.toPostgres)
    (hids : ((timelineRows pg db op.scope).map fun row => row.id).Nodup) :
    (listing pg db op filter).Pairwise fun a b => newer pg a.cursor b.cursor := by
  have : Std.Total (newestFirst pg) := ⟨newestFirst_total horder⟩
  have : IsTrans TimelineEntry (newestFirst pg) := ⟨fun _ _ _ => newestFirst_trans horder⟩
  have hsorted : (listing pg db op filter).Pairwise (newestFirst pg) :=
    List.pairwise_insertionSort _ _
  have hdistinct : (listing pg db op filter).Pairwise fun a b => a.id ≠ b.id :=
    List.pairwise_map.mp (listing_nodup pg hids)
  exact (hsorted.and hdistinct).imp fun h => newer_of_newestFirst h.1 h.2

/-- **The pages hold the matching entries, each once, newest first.** -/
theorem audit_pagination_complete (pg : AdminPostgres) (horder : TextOrdered pg.toPostgres)
    (db : AdminDatabase) (op : Operator) (filter : AuditFilter) (limit fuel : Nat)
    (hids : ((timelineRows pg db op.scope).map fun row => row.id).Nodup) (hlimit : 1 ≤ limit)
    (hfuel : (matchingEntries pg db op filter).length / limit < fuel) :
    ∃ pages, followCursors pg db op filter limit fuel = some pages
      ∧ pages.flatten.Perm (matchingEntries pg db op filter)
      ∧ (pages.flatten.map TimelineEntry.id).Nodup
      ∧ pages.flatten.Pairwise (fun a b => newer pg a.cursor b.cursor)
      ∧ pages.length = (matchingEntries pg db op filter).length / limit + 1 := by
  have : IsTrans AuditCursor (newer pg) := ⟨fun _ _ _ => newer_trans horder⟩
  have : Std.Irrefl (newer pg) := ⟨newer_irrefl pg⟩
  have hstrict : (listing pg db op filter).Pairwise fun a b => newer pg a.cursor b.cursor :=
    listing_strict pg horder hids
  have hlength : (listing pg db op filter).length = (matchingEntries pg db op filter).length :=
    List.length_insertionSort _ _
  obtain ⟨pages, hwalk, hflatten, hcount⟩ :=
    Keyset.walk_eq_listing (fetchPage_eq pg horder hlimit) hstrict hlimit (hlength ▸ hfuel)
  refine ⟨pages, hwalk, ?_, ?_, ?_, hlength ▸ hcount⟩
  · rw [hflatten]
    exact List.perm_insertionSort _ _
  · rw [hflatten]
    exact listing_nodup pg hids
  · rw [hflatten]
    exact hstrict

/-- A job at noon; the walk below meets three timestamps that are the same. -/
def noonJob : SyncJobRow where
  leaId := "lea-test-001"
  partner := "edlink"
  status := .success
  startedAt := 43200000000

/-- Two jobs, and a row quarantined at the same instant and resolved a second later. -/
def tiedDatabase : AdminDatabase where
  syncJobs := (AList.singleton "job-1" noonJob).insert "job-2" noonJob
  quarantine := AList.singleton "row-1"
    { syncJobId := "job-1", leaId := "lea-test-001", entityType := "enrollment"
      entityId := "enr-1", reason := "student missing", rawPayload := .null
      createdAt := 43200000000, resolvedAt := some 43201000000
      resolutionStatus := some "rejected", resolutionOperator := some "qa" }

def auditor : Operator where
  id := "op-1"
  subject := "auditor"
  email := "auditor@edlink.test"
  displayName := "auditor"
  role := .auditor
  authorizedLeas := ["lea-test-001"]

/-- Four matches in pages of two: the third page is empty. -/
example : (followCursors .reference tiedDatabase auditor {} 2 3).map
    (fun pages => pages.map fun page => page.map TimelineEntry.id)
      = some [["row-1#resolved", "row-1#created"], ["job-2", "job-1"], []] := by
  decide +kernel

theorem audit_pagination_complete_tied :
    ∃ pages, followCursors .reference tiedDatabase auditor {} 2 3 = some pages
      ∧ pages.flatten.Perm (matchingEntries .reference tiedDatabase auditor {})
      ∧ (pages.flatten.map TimelineEntry.id).Nodup
      ∧ pages.flatten.Pairwise (fun a b => newer .reference a.cursor b.cursor)
      ∧ pages.length = (matchingEntries .reference tiedDatabase auditor {}).length / 2 + 1 :=
  audit_pagination_complete .reference textOrdered_reference tiedDatabase auditor {} 2 3
    (by decide +kernel) (by decide) (by decide +kernel)

end Admin
