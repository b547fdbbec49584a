/-
Paging through the audit explorer while everybody goes on.

An operator follows the cursors from page to page, and between two requests anything may
commit: operations, stages of bulk loads, and rows of the tables that others write.  The
filter and the scope of the operator stay.

* `AuditSystem.trail` — the entries that the accepted calls of a run owe;
* `LivePages` — what the pages of such a walk hold;
* `live_timeline_complete` — once the commits stop, the walk ends with such pages.
-/
import EdlinkRostering.TimelineGrowth
import EdlinkRostering.Resolution
import EdlinkRostering.LiveKeyset

open Admin (AdminDatabase AdminPostgres TimelineEntry TimelineRow Operator AuditFilter AuditCursor
  timelineRows)

/-! ### The listing of a later state -/

section

open Admin

variable {pg : AdminPostgres} {ids : AuditIds} {c c' : AuditSystem} {op : Operator}
  {filter : AuditFilter}

theorem mem_listing {db : AdminDatabase} {entry : TimelineEntry} :
    entry ∈ listing pg db op filter ↔ ∃ row ∈ timelineRows pg db op.scope,
      outerWhere pg (filter.timelineFilter op none 50) row = true ∧
        row.toTimelineEntry = entry := by
  rw [listing, List.mem_insertionSort, matchingEntries, List.mem_map]
  simp only [List.mem_filter, and_assoc]

/-- The listing of a later state has every entry, perhaps with another reason, but for those of
bulk loads that were at work. -/
theorem listing_grow (h : c.Extends c') {entry : TimelineEntry}
    (hentry : entry ∈ listing pg (c.view ids) op filter)
    (hwork : ¬ entry.AtWork c.services.inFlight) :
    ∃ reason, { entry with reason := reason } ∈ listing pg (c'.view ids) op filter := by
  obtain ⟨row, hrow, hwhere, rfl⟩ := mem_listing.mp hentry
  obtain ⟨row', hrow', hrestates⟩ := (timelineRows_grow h op.scope).restated row hrow
  obtain ⟨reason, rfl⟩ := hrestates.same hwork
  exact ⟨reason, mem_listing.mpr ⟨_, hrow', hwhere, rfl⟩⟩

/-- Entries of a listing are told apart by their ids. -/
theorem eq_of_mem_listing {db : AdminDatabase} {entry entry' : TimelineEntry}
    (hids : ((timelineRows pg db op.scope).map fun row => row.id).Nodup)
    (hentry : entry ∈ listing pg db op filter) (hentry' : entry' ∈ listing pg db op filter)
    (hsame : entry.cursor = entry'.cursor) : entry = entry' :=
  List.inj_on_of_nodup_map (listing_nodup pg hids) hentry hentry'
    (congrArg AuditCursor.id hsame)

end

/-! ### The actions of a run -/

namespace AuditSystem

/-- The LEA and the entry of a call, if the service accepts it. -/
def entry? (pg : Postgres) (ids : AuditIds) (c : AuditSystem) :
    AuditMove → Option (LeaId × TimelineRow)
  | .service (.commit op _) => c.services.store.entry? pg ids op
  | _ => none

/-- The entries of a run, in the order of the calls. -/
def trail (pg : Postgres) (ids : AuditIds) :
    AuditSystem → List AuditMove → List (LeaId × TimelineRow)
  | _, [] => []
  | c, move :: moves => (c.entry? pg ids move).toList ++ (c.step pg move).trail pg ids moves

theorem trail_append (pg : Postgres) (ids : AuditIds) (c : AuditSystem)
    (moves moves' : List AuditMove) :
    c.trail pg ids (moves ++ moves')
      = c.trail pg ids moves ++ (Runs.run (step pg) c moves).trail pg ids moves' := by
  induction moves generalizing c with
  | nil => rfl
  | cons move moves ih =>
    rw [List.cons_append, trail, ih, trail, List.append_assoc]
    rfl

variable {pg : Postgres} {ids : AuditIds} {c : AuditSystem} {scope : Option (List LeaId)}

/-- A stage of a bulk load adds no action. -/
theorem actionRows_stage (h : c.Sound) (base : AdminDatabase) {move : BulkMove}
    (hstage : ∀ op single, move ≠ .commit op single) :
    Admin.actionRows ((c.services.step pg move).store.adminView ids base) scope
      = Admin.actionRows (c.services.store.adminView ids base) scope := by
  cases move with
  | commit op single => exact absurd rfl (hstage op single)
  | startLoad run =>
    rw [BulkSystem.step]
    split
    · rfl
    · cases hins : c.services.store.insertSyncJob run.syncJobId run.job with
      | none => rfl
      | some s =>
        have hkept := keepsJobs_insertSyncJob hins
        obtain ⟨-, rfl⟩ := Store.insertSyncJob_eq_some.mp hins
        have hframe : run.Frame c.services.store { c.services.store with
            syncJobs := c.services.store.syncJobs.insert run.syncJobId run.job } :=
          ⟨rfl, rfl, rfl, fun _ _ => rfl, fun id hid => by rw [Table.lookup_insert_eq, if_neg hid]⟩
        exact actionRows_frame h.reverts hkept hframe
  | advanceLoad i =>
    rw [BulkSystem.step]
    cases hi : c.services.loads[i]? with
    | none => rfl
    | some load =>
      have hrest := (h.services.loads load (List.mem_of_getElem? hi)).rest
      show Admin.actionRows ((load.advance pg c.services.store).1.adminView ids base) scope = _
      rcases load.advance_proceeds pg c.services.store hrest with hidle | ⟨-, -, hproceeds⟩
      · rw [hidle]
      · exact actionRows_frame h.reverts hproceeds.keepsJobs hproceeds.frame

/-- What a commit adds to the actions: the entry it owes. -/
theorem actionRows_step (h : c.Sound) (move : AuditMove) :
    (Admin.actionRows ((c.step pg move).view ids) scope).Perm
      (Admin.actionRows (c.view ids) scope ++ shown scope (c.entry? pg ids move).toList) := by
  -- a commit that owes nothing
  have hsilent : c.entry? pg ids move = none →
      Admin.actionRows ((c.step pg move).view ids) scope = Admin.actionRows (c.view ids) scope →
      (Admin.actionRows ((c.step pg move).view ids) scope).Perm
        (Admin.actionRows (c.view ids) scope ++ shown scope (c.entry? pg ids move).toList) := by
    intro he hsame
    rw [he, hsame]
    exact List.Perm.of_eq (List.append_nil _).symm
  cases move with
  | service move =>
    cases move with
    | commit op single => exact actionRows_exec h.reverts op
    | startLoad run => exact hsilent rfl (actionRows_stage h c.base fun _ _ => by simp)
    | advanceLoad i => exact hsilent rfl (actionRows_stage h c.base fun _ _ => by simp)
  | insertOperator id row =>
    refine hsilent rfl ?_
    rw [step]
    split <;> rfl
  | insertAuditLog id row =>
    refine hsilent rfl ?_
    rw [step]
    split <;> rfl
  | insertReconciliationRun id row =>
    refine hsilent rfl ?_
    rw [step]
    split <;> rfl
  | administer directory => exact hsilent rfl rfl

theorem actionRows_run (h : c.Sound) (moves : List AuditMove) :
    (Admin.actionRows ((Runs.run (step pg) c moves).view ids) scope).Perm
      (Admin.actionRows (c.view ids) scope ++ shown scope (c.trail pg ids moves)) := by
  induction moves generalizing c with
  | nil => exact List.Perm.of_eq (List.append_nil _).symm
  | cons move moves ih =>
    have hsound : (c.step pg move).Sound := sound_step h move
    rw [trail, shown_append, ← List.append_assoc]
    exact (ih hsound).trans ((actionRows_step h move).append_right _)

/-- The state that commits lead to. -/
def reached (pg : Postgres) (moves : List AuditMove) : AuditSystem :=
  Runs.run (step pg) start moves

/-- The actions of a state are the entries that its run owes. -/
theorem mem_timelineRows_reached {pg : AdminPostgres} {moves : List AuditMove} {row : TimelineRow} :
    (row ∈ timelineRows pg ((reached pg.toPostgres moves).view ids) scope ∧ row.isAction = true)
      ↔ row ∈ shown scope (start.trail pg.toPostgres ids moves) := by
  have hperm : (Admin.actionRows ((reached pg.toPostgres moves).view ids) scope).Perm
      (shown scope (start.trail pg.toPostgres ids moves)) := actionRows_run sound_start moves
  rw [Admin.actionRows_eq_filter] at hperm
  rw [← hperm.mem_iff, List.mem_filter]

/-! ### The walk -/

/-- The states of the requests of a walk but the last, where `between` holds what commits
after each of them. -/
def seen (pg : Postgres) : AuditSystem → List (List AuditMove) → List AuditSystem
  | _, [] => []
  | c, moves :: between => c :: (Runs.run (step pg) c moves).seen pg between

/-- The states of all requests of a walk; after the last commit they stay the same. -/
def states (pg : Postgres) (c : AuditSystem) (between : List (List AuditMove)) :
    List AuditSystem :=
  c.seen pg between ++ [Runs.run (step pg) c between.flatten]

/-- Every state of a walk has run a part of the commits. -/
theorem mem_states {pg : Postgres} {c c' : AuditSystem} {between : List (List AuditMove)}
    (h : c' ∈ c.states pg between) :
    ∃ first rest, first ++ rest = between.flatten ∧ c' = Runs.run (step pg) c first := by
  rw [states] at h
  induction between generalizing c with
  | nil =>
    obtain rfl := List.mem_singleton.mp h
    exact ⟨[], [], rfl, rfl⟩
  | cons moves between ih =>
    rcases List.mem_cons.mp h with rfl | h
    · exact ⟨[], _, rfl, rfl⟩
    · rw [List.flatten_cons, Runs.run_append] at h
      obtain ⟨first, rest, hrest, rfl⟩ := ih h
      refine ⟨moves ++ first, rest, ?_, (Runs.run_append ..).symm⟩
      rw [List.append_assoc, hrest, List.flatten_cons]

end AuditSystem

section

open Admin

/-- The pages that an operator reads from a state on, where `between` holds what commits
after each request; after the last of these nothing does, for `fuel` requests. -/
def followLive (pg : AdminPostgres) (ids : AuditIds) (op : Operator) (filter : AuditFilter)
    (limit fuel : Nat) (c : AuditSystem) (between : List (List AuditMove)) :
    Option (List (List TimelineEntry)) :=
  Keyset.walkAlong (fun c => fetchPage pg (c.view ids) op filter limit)
    (Runs.run (AuditSystem.step pg.toPostgres) c between.flatten) fuel
    (c.seen pg.toPostgres between) none

/-- What the pages of a walk hold that begins after the commits `before`. -/
structure LivePages (pg : AdminPostgres) (ids : AuditIds) (op : Operator) (filter : AuditFilter)
    (before : List AuditMove) (between : List (List AuditMove))
    (pages : List (List TimelineEntry)) : Prop where
  strict : pages.flatten.Pairwise fun a b => newer pg a.cursor b.cursor
  /-- An entry that was there when the walk began, and was not of a bulk load at work. -/
  found : let begun := AuditSystem.reached pg.toPostgres before
    ∀ entry ∈ matchingEntries pg (begun.view ids) op filter,
      ¬ entry.AtWork begun.services.inFlight →
        ∃ reason, { entry with reason := reason } ∈ pages.flatten
  /-- An entry that matches at every request, whatever becomes of it, is shown as one of the
  requests sees it. -/
  lasting : let begun := AuditSystem.reached pg.toPostgres before
    ∀ cursor, (∀ c ∈ begun.states pg.toPostgres between,
      ∃ entry ∈ matchingEntries pg (c.view ids) op filter, entry.cursor = cursor) →
        ∃ entry ∈ pages.flatten, entry.cursor = cursor
  matched : ∀ entry ∈ pages.flatten,
    ∃ c ∈ (AuditSystem.reached pg.toPostgres before).states pg.toPostgres between,
      entry ∈ matchingEntries pg (c.view ids) op filter
  /-- An action accepted before the walk began is as the call owes it. -/
  recorded : ∀ row ∈ shown op.scope (AuditSystem.start.trail pg.toPostgres ids before),
    outerWhere pg (filter.timelineFilter op none 50) row = true →
      row.toTimelineEntry ∈ pages.flatten
  /-- An action on a page was accepted by the end. -/
  accepted : ∀ entry ∈ pages.flatten, entry.isAction = true →
    ∃ row ∈ shown op.scope (AuditSystem.start.trail pg.toPostgres ids (before ++ between.flatten)),
      row.toTimelineEntry = entry

variable {pg : AdminPostgres} {ids : AuditIds} {op : Operator} {filter : AuditFilter}
  {before : List AuditMove} {between : List (List AuditMove)} {pages : List (List TimelineEntry)}

/-- A state of a walk lies between the one it begins with and the one it ends with. -/
theorem extends_of_mem_states {c : AuditSystem}
    (hc : c ∈ (AuditSystem.reached pg.toPostgres before).states pg.toPostgres between) :
    ∃ first rest, first ++ rest = between.flatten ∧
      c = AuditSystem.reached pg.toPostgres (before ++ first) ∧
      (AuditSystem.reached pg.toPostgres before).Extends c ∧
      c.Extends (AuditSystem.reached pg.toPostgres (before ++ between.flatten)) := by
  obtain ⟨first, rest, hrest, rfl⟩ := AuditSystem.mem_states hc
  have hsound : (AuditSystem.reached pg.toPostgres before).Sound :=
    AuditSystem.sound_run AuditSystem.sound_start before
  refine ⟨first, rest, hrest, ?_, AuditSystem.extends_run hsound first, ?_⟩
  · rw [AuditSystem.reached, AuditSystem.reached, Runs.run_append]
  · rw [← hrest, AuditSystem.reached, AuditSystem.reached, Runs.run_append, Runs.run_append]
    exact AuditSystem.extends_run (AuditSystem.sound_run hsound first) rest

/-- What is there at every request, in one place and each time with some property, is on a page
with the property. -/
theorem mem_pages_of_lasting
    (hdistinct : ∀ c ∈ (AuditSystem.reached pg.toPostgres before).states pg.toPostgres between,
      ((timelineRows pg (c.view ids) op.scope).map fun row => row.id).Nodup)
    (hwalked : Keyset.Walked (newer pg) TimelineEntry.cursor
      (((AuditSystem.reached pg.toPostgres before).states pg.toPostgres between).map
        fun c => listing pg (c.view ids) op filter) none pages.flatten)
    {P : TimelineEntry → Prop} {k : AuditCursor}
    (h : ∀ c ∈ (AuditSystem.reached pg.toPostgres before).states pg.toPostgres between,
      ∃ entry ∈ listing pg (c.view ids) op filter, entry.cursor = k ∧ P entry) :
    ∃ entry ∈ pages.flatten, entry.cursor = k ∧ P entry := by
  obtain ⟨entry, hentry, hcursor⟩ := hwalked.found k (by
    intro l hl
    obtain ⟨c, hc, rfl⟩ := List.mem_map.mp hl
    obtain ⟨entry, hentry, hcursor, -⟩ := h c hc
    exact ⟨entry, hentry, hcursor⟩) (by simp)
  obtain ⟨l, hl, hmem⟩ := hwalked.seen entry hentry
  obtain ⟨c, hc, rfl⟩ := List.mem_map.mp hl
  obtain ⟨entry', hentry', hcursor', hP⟩ := h c hc
  -- the page shows it as the state of its request has it
  obtain rfl := eq_of_mem_listing (hdistinct c hc) hmem hentry' (hcursor.trans hcursor'.symm)
  exact ⟨entry, hentry, hcursor, hP⟩

/-- The pages of a walk, from what keyset pagination makes of the listings. -/
theorem livePages_of_walked
    (hdistinct : ∀ c ∈ (AuditSystem.reached pg.toPostgres before).states pg.toPostgres between,
      ((timelineRows pg (c.view ids) op.scope).map fun row => row.id).Nodup)
    (hwalked : Keyset.Walked (newer pg) TimelineEntry.cursor
      (((AuditSystem.reached pg.toPostgres before).states pg.toPostgres between).map
        fun c => listing pg (c.view ids) op filter) none pages.flatten) :
    LivePages pg ids op filter before between pages where
  strict := hwalked.strict
  found := by
    intro begun entry hentry hwork
    have hentry : entry ∈ listing pg (begun.view ids) op filter :=
      (List.mem_insertionSort _).mpr hentry
    obtain ⟨entry', hentry', -, reason, rfl⟩ := mem_pages_of_lasting hdistinct hwalked
      (P := fun entry' => ∃ reason, entry' = { entry with reason := reason })
      (k := entry.cursor) (by
        intro c hc
        obtain ⟨-, -, -, -, hextends, -⟩ := extends_of_mem_states hc
        obtain ⟨reason, hlater⟩ := listing_grow hextends hentry hwork
        exact ⟨_, hlater, rfl, reason, rfl⟩)
    exact ⟨reason, hentry'⟩
  lasting := by
    intro begun cursor h
    obtain ⟨entry, hentry, hcursor, -⟩ := mem_pages_of_lasting hdistinct hwalked
      (P := fun _ => True) (by
        intro c hc
        obtain ⟨entry, hentry, hcursor⟩ := h c hc
        exact ⟨entry, (List.mem_insertionSort _).mpr hentry, hcursor, trivial⟩)
    exact ⟨entry, hentry, hcursor⟩
  matched entry hentry := by
    obtain ⟨l, hl, hmem⟩ := hwalked.seen entry hentry
    obtain ⟨c, hc, rfl⟩ := List.mem_map.mp hl
    exact ⟨c, hc, (List.mem_insertionSort _).mp hmem⟩
  recorded row hrow hwhere := by
    obtain ⟨entry, hentry, -, rfl⟩ := mem_pages_of_lasting hdistinct hwalked
      (P := fun entry => entry = row.toTimelineEntry) (k := row.cursor) (by
        intro c hc
        obtain ⟨first, -, -, rfl, -⟩ := extends_of_mem_states hc
        -- the run goes on, and still owes the entry
        have hlater : row ∈ timelineRows pg
            ((AuditSystem.reached pg.toPostgres (before ++ first)).view ids) op.scope := by
          refine (AuditSystem.mem_timelineRows_reached.mpr ?_).1
          rw [AuditSystem.trail_append, shown_append]
          exact List.mem_append_left _ hrow
        exact ⟨_, mem_listing.mpr ⟨row, hlater, hwhere, rfl⟩, rfl, rfl⟩)
    exact hentry
  accepted entry hentry haction := by
    obtain ⟨l, hl, hmem⟩ := hwalked.seen entry hentry
    obtain ⟨c, hc, rfl⟩ := List.mem_map.mp hl
    obtain ⟨row, hrow, -, rfl⟩ := mem_listing.mp hmem
    obtain ⟨first, rest, hrest, rfl, -⟩ := extends_of_mem_states hc
    refine ⟨row, ?_, rfl⟩
    rw [← hrest, ← List.append_assoc, AuditSystem.trail_append, shown_append]
    exact List.mem_append_left _ (AuditSystem.mem_timelineRows_reached.mp ⟨hrow, haction⟩)

end

open Admin in
/-- **Paging while everybody goes on.**  Where the rows' ids differ and the commits stop, the walk
ends: with the entries strictly newest first; with every entry that was there when it began, if
perhaps with another reason, but for the jobs of bulk loads at work; with every entry that
matched at each of the requests; with no entry that matched at none; with every action accepted
before it began, exactly as the call owes it; and with no action that was not accepted by the
end. -/
theorem live_timeline_complete (pg : AdminPostgres) (horder : TextOrdered pg.toPostgres)
    (ids : AuditIds) (op : Operator) (filter : AuditFilter) (limit fuel : Nat) (hlimit : 1 ≤ limit)
    (before : List AuditMove) (between : List (List AuditMove)) :
    let begun := AuditSystem.reached pg.toPostgres before
    let ended := AuditSystem.reached pg.toPostgres (before ++ between.flatten)
    ((timelineRows pg (ended.view ids) op.scope).map fun row => row.id).Nodup →
    (matchingEntries pg (ended.view ids) op filter).length / limit < fuel →
    ∃ pages, followLive pg ids op filter limit fuel begun between = some pages ∧
      LivePages pg ids op filter before between pages := by
  intro begun ended hids hfuel
  have : IsTrans AuditCursor (newer pg) := ⟨fun _ _ _ => newer_trans horder⟩
  have : Std.Irrefl (newer pg) := ⟨newer_irrefl pg⟩
  have hended : Runs.run (AuditSystem.step pg.toPostgres) begun between.flatten = ended :=
    (Runs.run_append ..).symm
  have hdistinct : ∀ c ∈ begun.states pg.toPostgres between,
      ((timelineRows pg (c.view ids) op.scope).map fun row => row.id).Nodup := by
    intro c hc
    obtain ⟨-, -, -, -, -, hextends⟩ := extends_of_mem_states hc
    exact ids_nodup_of_extends hextends hids
  have hlength : (listing pg (ended.view ids) op filter).length / limit < fuel := by
    rw [listing, List.length_insertionSort]
    exact hfuel
  obtain ⟨pages, hwalk, hwalked⟩ := Keyset.walkAlong_complete
    (fun c => fetchPage_eq pg horder hlimit) hlimit (hended ▸ hlength)
    (begun.seen pg.toPostgres between) none
    (fun c hc => listing_strict pg horder (hdistinct c hc))
  exact ⟨pages, hwalk, livePages_of_walked hdistinct hwalked⟩

/-! ### A bulk load and a reject between two pages -/

namespace Paging

/-- The rows of a table, numbered. -/
def numbered (table : String) : Nat ↪ Uuid where
  toFun i := table ++ toString i
  inj' a b h := by
    have htext := congrArg String.toList h
    simp only [String.toList_append] at htext
    exact toString_injective (String.toList_injective (List.append_cancel_left htext))

def ids : AuditIds where
  quarantine := numbered "quarantine-"
  revertActions := numbered "revert-"
  retryActions := numbered "retry-"

def load : BulkRun where
  leaId := "L1"
  partner := "edlink"
  syncJobId := "bulk-1"
  payload := { students := [], enrollments := [] }
  latest := { value := "evt_9" }
  clock := fun stage => if stage = .insertJob then 5 else 40

/-- A page quarantines an enrollment, its job is retried, a connector is revoked, and a bulk load
begins. -/
def before : List AuditMove :=
  [.service (.commit (Fixture.pageOp "L1" "job-1"
      [Fixture.event "L1" "evt_1" (Fixture.student "L1" "stu-1"),
        Fixture.event "L1" "evt_2" (Fixture.enrollment "L1" "enr-1" "stu-2")]) rfl),
    .service (.commit (.retry
      { syncJobId := "job-1", operatorIdentity := "qa", reason := "stalled", forced := true
        now := 20 }) rfl),
    .insertOperator "op-1"
      { subject := "alex", displayName := "Alex", email := "alex@example.org" },
    .insertAuditLog "audit-1"
      { operatorId := "op-1", action := "connector.revoked", targetKind := "connector_authorization"
        targetId := "auth-1", leaId := some "L1", reason := "holidays", detail := []
        createdAt := 25 },
    .service (.startLoad load)]

/-- After the first page the row is rejected and the bulk load goes on; after the second it ends,
and so does a reconciliation. -/
def between : List (List AuditMove) :=
  [[.service (.commit (.reject
      { quarantineId := 0, operatorIdentity := "qa", reason := "left", now := 30 }) rfl),
    .service (.advanceLoad 0)],
    List.replicate 6 (.service (.advanceLoad 0)) ++
      [.insertReconciliationRun "run-1"
        { leaId := "L1", partner := "edlink", startedAt := 4, completedAt := some 41
          status := .matched, canonicalRootHash := "h" }]]

end Paging

open Paging in
/-- The reject is newer than the first page, and its reason is on the second; the bulk load is
shown as it ended. -/
example : (followLive .reference ids Admin.auditor {} 2 5
      (AuditSystem.reached AdminPostgres.reference.toPostgres before) between).map
    (fun pages => pages.map fun page => page.map fun entry => (entry.id, entry.action))
      = some [[("audit-1", "connector.revoked"), ("retry-0", "sync.retry_requested")],
          [("quarantine-0#created", "quarantine.created"), ("job-1", "sync.success")],
          [("bulk-1", "sync.success"), ("run-1", "reconciliation.matched")], []] := by
  decide +kernel

open Admin Paging in
theorem live_timeline_complete_loading :
    ∃ pages, followLive .reference ids auditor {} 2 5
        (AuditSystem.reached AdminPostgres.reference.toPostgres before) between = some pages ∧
      LivePages .reference ids auditor {} before between pages :=
  live_timeline_complete .reference textOrdered_reference ids auditor {} 2 5 (by decide) before
    between (by decide +kernel) (by decide +kernel)
