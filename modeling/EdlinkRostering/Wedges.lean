/-
A malformed event, and the page it comes with.

`_normalize` indexes the partner's object and parses its dates before any layer of the
pipeline runs, and no layer looks for a text that Postgres refuses.  Layers 2 and 3 turn down
one event at a time and the worker skips it; what the mapper raises, or the driver, goes
through `_process_one_page` to the caller.  No job row is written, the cursor stays, and the
next poll fetches the same page.

* `Poll.NeverWedges` — what a poll would do if one event could not hold up a page;
* `run_stuck` — a page with an event the mapper raises on, or with a value that Postgres
  refuses, stays where it is;
* `neverWedges_iff` — the polls that do not.
-/
import EdlinkRostering.Orphans
import EdlinkRostering.Standing
import EdlinkRostering.Statements

namespace Poll

/-- The page without the events the mapper raises on. -/
def readablePage (poll : Poll) (leaId : LeaId) (s : Store) : EventPage :=
  let response := getEvents poll.log (cursor leaId s).value poll.pageSize
  { events := mapped leaId response.events
    nextCursor :=
      { value := tokenOr response.nextToken (cursor leaId s).value
        observedAt := match response.events.getLast? with
          | none => (cursor leaId s).observedAt
          | some event => some event.date }
    hasMore := response.hasMore
    layer1Check := response.layer1 }

/-- A page that does not get stuck on an event. -/
structure NeverWedges (storage : Storage) (pg : Postgres) (leaId : LeaId) (poll : Poll)
    (s : Store) : Prop where
  /-- The poll ends with a job in a terminal status. -/
  terminal : ∃ job, (poll.stepStored storage pg leaId s).syncJobs.lookup poll.syncJobId
      = some job ∧ job.leaId = leaId ∧ (job.status = .success ∨ job.status = .failed)
  /-- The events that convert are processed as if the others were absent. -/
  processed : ∃ s' outcome,
    storeOnePage storage pg (poll.pageRun leaId (poll.readablePage leaId s)) s
        = some (s', outcome) ∧
      (poll.stepStored storage pg leaId s).roster = s'.roster ∧
      (poll.stepStored storage pg leaId s).quarantine = s'.quarantine
  /-- An event of a handled type that does not convert is an issue of the job. -/
  recorded : ∀ event ∈ poll.raw leaId s, event.entityWord ∈ handledEntities →
    event.normalize leaId = none →
    ∃ row ∈ (poll.stepStored storage pg leaId s).syncValidationResults,
      row.syncJobId = poll.syncJobId ∧ row.payloadReference = some event.id
  /-- The next poll starts after the page. -/
  advanced : sliceStart poll.log (cursor leaId s).value + (poll.raw leaId s).length ≤
    sliceStart poll.log (cursor leaId (poll.stepStored storage pg leaId s)).value

end Poll

/-- A constraint of its canonical table turns the event down. -/
def Roster.refuses (r : Roster) (pg : Postgres) (leaId : LeaId) (syncJobId : Uuid) (now : Instant)
    (event : NormalizedEvent) : Bool :=
  !r.dedups pg leaId event &&
    !(event.canonicalRow pg now).any fun row =>
      (r.pushSnapshot leaId event syncJobId now).admits event.naturalKey row

namespace Poll

/-- Postgres takes every value the page sends. -/
def Stored (storage : Storage) (pg : Postgres) (leaId : LeaId) (poll : Poll) (s : Store) : Prop :=
  ∀ statement ∈ (poll.pageRun leaId (poll.readablePage leaId s)).statements pg s,
    storage.accepts statement = true

/-- No accepted event is turned down when its turn comes. -/
def Admitted (pg : Postgres) (leaId : LeaId) (poll : Poll) (s : Store) : Prop :=
  ∀ before event after r,
    (poll.pageRun leaId (poll.readablePage leaId s)).accepted s = before ++ event :: after →
    applyEvents pg leaId poll.syncJobId poll.now before (s.roster.ensureLeaExists leaId)
      = some r →
    r.refuses pg leaId poll.syncJobId poll.now event = false

/-- The last event of the page has an id, and no event before it has the same. -/
def EndsAnew (poll : Poll) (leaId : LeaId) (s : Store) : Prop :=
  ∀ last ∈ (poll.raw leaId s).getLast?, last.id ≠ "" ∧
    ∀ event ∈ poll.log.take
        (sliceStart poll.log (cursor leaId s).value + (poll.raw leaId s).length - 1),
      event.id ≠ last.id

end Poll

/-! ### The page that is fetched -/

section

variable {leaId : LeaId} {poll : Poll} {s : Store}

namespace Poll

theorem page_of_readable (h : Readable leaId (poll.raw leaId s)) :
    poll.page leaId s = some (poll.readablePage leaId s) := by
  have hall : normalizeAll leaId (poll.raw leaId s) = some (mapped leaId (poll.raw leaId s)) :=
    normalizeAll_eq_some.mpr ⟨h, rfl⟩
  rw [raw] at hall
  rw [page, fetchChanges, hall]
  rfl

theorem readable_of_page {page : EventPage} (h : poll.page leaId s = some page) :
    Readable leaId (poll.raw leaId s) ∧ page = poll.readablePage leaId s := by
  have hread : Readable leaId (poll.raw leaId s) := (fetchChanges_eq_some h).1
  refine ⟨hread, Option.some.inj ?_⟩
  rw [← h, page_of_readable hread]

/-- **A page with an event the mapper raises on, or with a value that is refused, leaves
everything as it is.** -/
theorem stepStored_of_stuck (storage : Storage) (pg : Postgres)
    (h : ¬ (Readable leaId (poll.raw leaId s) ∧ poll.Stored storage pg leaId s)) :
    poll.stepStored storage pg leaId s = s := by
  rw [stepStored, execStored]
  cases hpage : poll.page leaId s with
  | none => rfl
  | some page =>
    obtain ⟨hread, rfl⟩ := readable_of_page hpage
    have hrefused : (poll.pageRun leaId (poll.readablePage leaId s)).stored storage pg s
        = false := by
      rw [Bool.eq_false_iff]
      intro hstored
      exact h ⟨hread, List.all_eq_true.mp hstored⟩
    have hnone : storeOnePage storage pg (poll.pageRun leaId (poll.readablePage leaId s)) s
        = none := by
      rw [storeOnePage, hrefused, if_neg (by simp)]
    simp only [hnone]
    split <;> rfl

end Poll

/-- **It stays where it is**: however often the LEA is polled, with whatever page
sizes and events that are added to the log, as long as the event is on the page. -/
theorem run_stuck (storage : Storage) (pg : Postgres) {polls : List Poll}
    (h : ∀ poll ∈ polls, ¬ (Readable leaId (poll.raw leaId s) ∧ poll.Stored storage pg leaId s)) :
    Runs.run (Poll.stepStored storage pg leaId) s polls = s := by
  induction polls with
  | nil => rfl
  | cons poll polls ih =>
    rw [Runs.run_cons, Poll.stepStored_of_stuck storage pg (h poll List.mem_cons_self)]
    exact ih fun p hp => h p (List.mem_cons_of_mem _ hp)

end

/-! ### The transaction of a page -/

section

variable {pg : Postgres} {leaId : LeaId} {syncJobId : Uuid} {now : Instant}

/-- An event is applied unless a constraint turns it down. -/
theorem isSome_applyEventRoster {r : Roster} {event : NormalizedEvent} :
    (applyEventRoster pg leaId syncJobId now r event).isSome = true ↔
      r.refuses pg leaId syncJobId now event = false := by
  rw [applyEventRoster, Option.isSome_map, applyEvent, Roster.refuses]
  cases r.dedups pg leaId event with
  | true => simp
  | false =>
    cases event.canonicalRow pg now with
    | none => simp
    | some row =>
      simp only [Bool.false_eq_true, if_false, Option.bind_eq_bind, Option.bind_some,
        Roster.upsert, Bool.not_false, Bool.true_and, Option.any_some, Bool.not_eq_false']
      split
      · next h => simp [h]
      · next h => simp [h]

/-- The event loop completes if the accepted events go through. -/
theorem isSome_processEvents {report : ValidationReport} {events : List NormalizedEvent}
    {s : Store} :
    (processEvents pg leaId syncJobId now report events s).isSome = true ↔
      (applyEvents pg leaId syncJobId now (events.filter report.accepts) s.roster).isSome
        = true := by
  constructor
  · intro h
    obtain ⟨⟨s', counts⟩, h⟩ := Option.isSome_iff_exists.mp h
    rw [(processEvents_eq_some h).1]
    rfl
  · rw [processEvents]
    generalize ({} : PageCounts) = counts
    induction events generalizing s counts with
    | nil => intro _; rfl
    | cons event events ih =>
      intro h
      rw [List.foldlM_cons, processEvent]
      by_cases hq : event.eventId ∈ report.quarantinedEventIds
      · rw [List.filter_cons_of_neg (by simp [ValidationReport.accepts, hq])] at h
        rw [if_pos hq]
        exact ih _ h
      rw [if_neg hq]
      by_cases ho : event.eventId ∈ report.okEventIds
      · rw [List.filter_cons_of_pos (by simp [ValidationReport.accepts, hq, ho])] at h
        obtain ⟨r', h⟩ := Option.isSome_iff_exists.mp h
        obtain ⟨r₁, hone, hrest⟩ := applyEvents_cons_eq_some.mp h
        obtain ⟨⟨r₂, changed⟩, happly, rfl⟩ := Option.map_eq_some_iff.mp hone
        rw [if_neg (by simpa using ho), happly]
        exact @ih (s.withRoster r₂) _ (by rw [Option.isSome_iff_exists]; exact ⟨r', hrest⟩)
      · rw [List.filter_cons_of_neg (by simp [ValidationReport.accepts, ho])] at h
        rw [if_pos ho]
        exact ih _ h

/-- A page that passed Layer 1 commits if its accepted events go through. -/
theorem isSome_processOnePage {run : PageRun} {s : Store}
    (hfresh : s.syncJobs.lookup run.syncJobId = none) (hok : run.page.layer1Check.ok = true) :
    (processOnePage pg run s).isSome = true ↔
      (applyEvents pg run.leaId run.syncJobId run.now (run.accepted s)
        (s.roster.ensureLeaExists run.leaId)).isSome = true := by
  have hb : (run.report s).pageBlocked = false := pageBlocked_runPipeline hok
  obtain ⟨started, hstart⟩ : ∃ started, run.start s = some started := by
    rw [PageRun.start, Option.bind_eq_bind, Store.insertSyncJob_eq_some.mpr ⟨hfresh, rfl⟩]
    exact ⟨_, rfl⟩
  have hroster : (ensureLeaExists started run.leaId).roster
      = s.roster.ensureLeaExists run.leaId := by
    rw [ensureLeaExists, (PageRun.start_eq_some hstart).2.1]
    rfl
  have hevents : (processOnePage pg run s).isSome = (processEvents pg run.leaId run.syncJobId
      run.now (run.report s) run.page.events (ensureLeaExists started run.leaId)).isSome := by
    rw [processOnePage, hstart]
    simp only [Option.bind_eq_bind, Option.bind_some, hb, Bool.false_eq_true, if_false]
    cases processEvents pg run.leaId run.syncJobId run.now (run.report s) run.page.events
      (ensureLeaExists started run.leaId) <;> rfl
  rw [hevents, isSome_processEvents, hroster]
  rfl

end

/-! ### Where the next poll starts -/

section

variable {log : List EdLinkEvent} {start n : Nat} {last : EdLinkEvent}

/-- The event with an id is found at the place of the first event that has it. -/
theorem le_sliceStart_iff (hlast : ((log.drop start).take n).getLast? = some last)
    (hid : last.id ≠ "") :
    start + ((log.drop start).take n).length ≤ sliceStart log last.id ↔
      ∀ event ∈ log.take (start + ((log.drop start).take n).length - 1), event.id ≠ last.id := by
  have hpos : 0 < ((log.drop start).take n).length := by
    refine List.length_pos_iff.mpr fun hnil => ?_
    rw [hnil] at hlast
    exact nomatch hlast
  have hlen : ((log.drop start).take n).length = min n (log.length - start) := by
    rw [List.length_take, List.length_drop]
  -- where the last event of the page stands in the log
  generalize hm : ((log.drop start).take n).length = m at hpos hlen ⊢
  have hget : log[start + m - 1]? = some last := by
    rw [List.getLast?_eq_getElem?, hm, List.getElem?_take_of_lt (by omega), List.getElem?_drop]
      at hlast
    rw [← hlast]
    congr 1
    omega
  obtain ⟨hlt, hat⟩ := List.getElem?_eq_some_iff.mp hget
  obtain ⟨i, hi⟩ : ∃ i, log.findIdx? (fun evt => evt.id = last.id) = some i := by
    refine Option.ne_none_iff_exists'.mp fun hnone => ?_
    have hno := List.findIdx?_eq_none_iff.mp hnone _ (List.getElem_mem hlt)
    rw [hat] at hno
    simp at hno
  obtain ⟨hilt, hmatch, hbefore⟩ := List.findIdx?_eq_some_iff_getElem.mp hi
  have hslice : sliceStart log last.id = i + 1 := by
    rw [sliceStart, if_neg hid, hi]
  rw [hslice]
  constructor
  · intro hle event hevent heq
    obtain ⟨j, hj, rfl⟩ := List.mem_take_iff_getElem.mp hevent
    exact hbefore j (by omega) (decide_eq_true heq)
  · intro hnew
    by_contra hlt'
    refine hnew log[i] (List.mem_take_iff_getElem.mpr ⟨i, by omega, rfl⟩) ?_
    simpa using hmatch

end

/-! ### The polls that do not wedge -/

section

variable {pg : Postgres} {leaId : LeaId} {poll : Poll} {s : Store}

namespace Poll

theorem admitted_iff : poll.Admitted pg leaId s ↔
    (applyEvents pg leaId poll.syncJobId poll.now
      ((poll.pageRun leaId (poll.readablePage leaId s)).accepted s)
      (s.roster.ensureLeaExists leaId)).isSome = true := by
  rw [applyEvents, Runs.foldlM_isSome_iff]
  simp only [isSome_applyEventRoster]
  rfl

theorem stepStored_of_storeOnePage {storage : Storage} {page : EventPage} {s' : Store}
    {outcome : PageOutcome} (hpage : poll.page leaId s = some page)
    (hcommits : poll.commits = true)
    (h : storeOnePage storage pg (poll.pageRun leaId page) s = some (s', outcome)) :
    poll.stepStored storage pg leaId s = s' := by
  rw [stepStored, execStored, hpage]
  simp only [hcommits, if_true, h]

/-- A page that committed hands its last id on, or the old cursor if that is empty. -/
theorem advanced_iff {s' : Store}
    (hcursor : (cursor leaId s').value = (poll.readablePage leaId s).nextCursor.value) :
    sliceStart poll.log (cursor leaId s).value + (poll.raw leaId s).length ≤
      sliceStart poll.log (cursor leaId s').value ↔ poll.EndsAnew leaId s := by
  have hraw : poll.raw leaId s
      = (poll.log.drop (sliceStart poll.log (cursor leaId s).value)).take poll.pageSize := rfl
  have hnext : (poll.readablePage leaId s).nextCursor.value
      = tokenOr ((poll.raw leaId s).getLast?.map (·.id)) (cursor leaId s).value := rfl
  rw [hcursor, hnext, EndsAnew]
  cases hlast : (poll.raw leaId s).getLast? with
  | none =>
    rw [List.getLast?_eq_none_iff.mp hlast]
    simp [tokenOr]
  | some last =>
    simp only [Option.map_some, Option.mem_def, Option.some.injEq, forall_eq', tokenOr]
    by_cases hid : last.id = ""
    · -- the cursor stays, and the page is not empty
      have hpos : (poll.raw leaId s).length ≠ 0 := by
        intro h
        rw [List.length_eq_zero_iff.mp h] at hlast
        cases hlast
      rw [if_pos hid]
      simp only [hid, ne_eq, not_true_eq_false, false_and, iff_false]
      omega
    · rw [if_neg hid, and_iff_right hid]
      rw [hraw] at hlast ⊢
      exact le_sliceStart_iff hlast hid

end Poll

/-! ### Students of one LEA -/

/-- An event keeps its id and carries the LEA it was fetched for. -/
theorem eventId_of_normalize {raw : EdLinkEvent} {e : NormalizedEvent}
    (h : raw.normalize leaId = some (some e)) : e.eventId = raw.id ∧ e.leaId = leaId := by
  obtain ⟨_, -, ⟨-, _, -, rfl⟩ | ⟨-, _, -, rfl⟩⟩ := normalize_eq_some h
  · exact ⟨rfl, rfl⟩
  · exact ⟨rfl, rfl⟩

theorem eventIds_mapped_sublist (leaId : LeaId) (log : List EdLinkEvent) :
    ((mapped leaId log).map (·.eventId)).Sublist (log.map (·.id)) := by
  induction log with
  | nil => exact List.Sublist.slnil
  | cons raw log ih =>
    rw [mapped, List.filterMap_cons, List.map_cons]
    cases hraw : (raw.normalize leaId).join with
    | none => exact ih.cons _
    | some e =>
      rw [List.map_cons, (eventId_of_normalize (Option.join_eq_some_iff.mp hraw)).1]
      exact ih.cons_cons _

/-- A page with distinct ids whose students no other LEA has. -/
theorem Poll.housed (hids : ((poll.raw leaId s).map (·.id)).Nodup)
    (hhouses : ∀ e ∈ mapped leaId (poll.raw leaId s), e.entityType = .student →
      s.roster.Houses leaId e.naturalKey) :
    (poll.pageRun leaId (poll.readablePage leaId s)).Housed s := by
  refine ⟨rfl, hids.sublist (eventIds_mapped_sublist leaId _), fun e he => ?_, hhouses⟩
  obtain ⟨raw, -, hraw⟩ := mem_mapped.mp he
  exact (eventId_of_normalize hraw).2

/-- **The constraints take every accepted event** of a page with distinct ids whose
students no other LEA has. -/
theorem admitted_of_houses (hids : ((poll.raw leaId s).map (·.id)).Nodup)
    (hhouses : ∀ e ∈ mapped leaId (poll.raw leaId s), e.entityType = .student →
      s.roster.Houses leaId e.naturalKey) : poll.Admitted pg leaId s := by
  let run := poll.pageRun leaId (poll.readablePage leaId s)
  have hhoused : run.Housed s := Poll.housed hids hhouses
  intro before event after r hsplit hr
  -- where the event stands on the page
  obtain ⟨l₁, l₂, hpage, rfl, hrest⟩ := List.filter_eq_append_iff.mp hsplit
  obtain ⟨m₁, m₂, rfl, hskipped, hacc, -⟩ := List.filter_eq_cons_iff.mp hrest
  have hplace : run.page.events = (l₁ ++ m₁) ++ event :: m₂ := by
    rw [List.append_assoc]
    exact hpage
  have hnone : m₁.filter (run.report s).accepts = [] := List.filter_eq_nil_iff.mpr hskipped
  have hr' : applyEvents pg run.leaId run.syncJobId run.now
      ((l₁ ++ m₁).filter (run.report s).accepts) (s.roster.ensureLeaExists run.leaId) = some r := by
    rw [List.filter_append, hnone, List.append_nil]
    exact hr
  have hadmits : ∃ row, event.canonicalRow pg poll.now = some row ∧
      r.admits event.naturalKey row = true := by
    cases ht : event.entityType with
    | student => exact hhoused.admits_student hplace ht hacc hr'
    | enrollment => exact hhoused.admits_enrollment hplace ht hacc hr'
    | lea =>
      have hmem : event ∈ run.page.events := by
        rw [hplace]
        exact List.mem_append_right _ List.mem_cons_self
      exact absurd ht (entityType_of_mem_mapped (hmem : event ∈ mapped leaId _))
  obtain ⟨row, hrow, hadmits⟩ := hadmits
  rw [Roster.refuses, hrow, Option.any_some, Roster.admits_pushSnapshot, hadmits]
  simp

/-- **Postgres takes every value** of a page whose events hold texts that can be stored. -/
theorem stored_of_storable (hlea : storesText leaId = true)
    (hbefore : storesText (Poll.cursor leaId s).value = true)
    (hids : ∀ event ∈ poll.raw leaId s, storesText event.id = true)
    (hevents : ∀ e ∈ mapped leaId (poll.raw leaId s), e.storable = true) :
    poll.Stored .reference pg leaId s := by
  let run := poll.pageRun leaId (poll.readablePage leaId s)
  have hpartner : storesText run.partner = true := (by decide : storesText connectorName = true)
  have hnext : run.page.nextCursor.value
      = tokenOr ((poll.raw leaId s).getLast?.map (·.id)) (Poll.cursor leaId s).value := rfl
  have hafter : storesText run.page.nextCursor.value = true := by
    rw [hnext]
    cases hlast : (poll.raw leaId s).getLast? with
    | none => exact hbefore
    | some last =>
      rw [Option.map_some, tokenOr]
      split
      · exact hbefore
      · exact hids last (List.mem_of_getLast? hlast)
  intro statement h
  have hstorable : statement.storable = true :=
    @PageRun.storable_of_mem_statements run s pg statement rfl hlea hpartner hbefore hafter
      hevents h
  rw [Storage.accepts, hstorable, Bool.true_and, Storage.reference]

/-- **When a malformed event does not wedge its page**: there is none on it, Postgres takes
every value, the constraints take every accepted event, and the last event has an id of its
own. -/
theorem neverWedges_iff (storage : Storage) (pg : Postgres) (leaId : LeaId) (poll : Poll)
    (s : Store) (hfresh : s.syncJobs.lookup poll.syncJobId = none)
    (hcommits : poll.commits = true) :
    poll.NeverWedges storage pg leaId s ↔
      Readable leaId (poll.raw leaId s) ∧ poll.Stored storage pg leaId s ∧
        poll.Admitted pg leaId s ∧ poll.EndsAnew leaId s := by
  have hsome : (processOnePage pg (poll.pageRun leaId (poll.readablePage leaId s)) s).isSome = true
      ↔ poll.Admitted pg leaId s := by
    rw [Poll.admitted_iff]
    exact isSome_processOnePage hfresh rfl
  have hcursor : ∀ {s' outcome},
      processOnePage pg (poll.pageRun leaId (poll.readablePage leaId s)) s = some (s', outcome) →
      (Poll.cursor leaId s').value = (poll.readablePage leaId s).nextCursor.value := by
    intro s' outcome h
    have hb : (poll.pageRun leaId (poll.readablePage leaId s)).blocked s = false :=
      pageBlocked_runPipeline rfl
    exact readCursor_upsertCursorState _ _ _ _ _ _ ((processOnePage_eq_some h).1.cursorState hb)
  constructor
  · intro h
    obtain ⟨s', outcome, hstore, -⟩ := h.processed
    obtain ⟨-, hprocess⟩ := storeOnePage_eq_some.mp hstore
    -- a page that is stuck leaves no job behind
    have hmoves : Readable leaId (poll.raw leaId s) ∧ poll.Stored storage pg leaId s := by
      by_contra hno
      obtain ⟨job, hjob, -⟩ := h.terminal
      rw [Poll.stepStored_of_stuck storage pg hno, hfresh] at hjob
      exact nomatch hjob
    have hstep := Poll.stepStored_of_storeOnePage (Poll.page_of_readable hmoves.1) hcommits hstore
    refine ⟨hmoves.1, hmoves.2, hsome.mp (by rw [hprocess]; rfl),
      (Poll.advanced_iff (hcursor hprocess)).mp ?_⟩
    rw [← hstep]
    exact h.advanced
  · rintro ⟨hread, hstored, hadmitted, hanew⟩
    -- the page is processed, and its job ends
    obtain ⟨⟨s', outcome⟩, hprocess⟩ := Option.isSome_iff_exists.mp (hsome.mpr hadmitted)
    have hstore := storeOnePage_eq_some.mpr ⟨List.all_eq_true.mpr hstored, hprocess⟩
    have hstep := Poll.stepStored_of_storeOnePage (Poll.page_of_readable hread) hcommits hstore
    obtain ⟨job, hjob, hlea, -, hstatus, -⟩ := (processOnePage_eq_some hprocess).1.job
    constructor
    · rw [hstep]
      refine ⟨job, hjob, hlea, ?_⟩
      rw [hstatus]
      split
      · exact Or.inr rfl
      · exact Or.inl rfl
    · exact ⟨s', outcome, hstore, by rw [hstep], by rw [hstep]⟩
    · intro event hevent _ hnone
      have hsome := hread event hevent
      rw [hnone] at hsome
      exact nomatch hsome
    · rw [hstep]
      exact (Poll.advanced_iff (hcursor hprocess)).mpr hanew

end

/-! ### A page that is stuck -/

namespace Wedges

/-- A student with a family name, and an enrollment of the student with these fields beside
the references. -/
def enrolling (familyName : String) (fields : Dict) : Poll where
  log :=
    [ { id := "evt_1", date := 0, type := "person.created"
        data :=
          [("sourcedId", .str "s1"), ("givenName", .str "Alex"), ("familyName", .str familyName),
            ("roles", .arr [.str "student"])] },
      { id := "evt_2", date := 1, type := "enrollment.created"
        data :=
          [("sourcedId", .str "e1"), ("user", .str "s1"), ("class", .str "c1")] ++ fields } ]
  pageSize := 2
  syncJobId := "job-1"
  now := 3

def dated : Poll := enrolling "Diaz" [("beginDate", .str "2026-08-01")]

def undated : Poll := enrolling "Diaz" []

/-- The family name holds U+0000. -/
def nulName : Poll := enrolling "Di\x00az" [("beginDate", .str "2026-08-01")]

end Wedges

open Wedges in
theorem neverWedges_iff_dated : dated.NeverWedges .reference .reference "L1" Store.empty := by
  have hread : Readable "L1" (dated.raw "L1" Store.empty) := by
    unfold Readable
    decide +kernel
  have hstored : dated.Stored .reference .reference "L1" Store.empty :=
    stored_of_storable (by decide) (by decide) (by decide +kernel) (by decide +kernel)
  have hadmitted : dated.Admitted .reference "L1" Store.empty :=
    admitted_of_houses (by decide +kernel) fun _ _ _ => .empty
  have hanew : dated.EndsAnew "L1" Store.empty := by
    unfold Poll.EndsAnew
    decide +kernel
  exact (neverWedges_iff .reference .reference "L1" dated Store.empty rfl rfl).mpr
    ⟨hread, hstored, hadmitted, hanew⟩

open Wedges in
/-- Without a begin date nothing of the page is committed, the student included. -/
theorem undated_enrollment_wedges :
    ¬ undated.NeverWedges .reference .reference "L1" Store.empty := by
  intro h
  obtain ⟨job, hjob, -⟩ := h.terminal
  have hunreadable : ¬ Readable "L1" (undated.raw "L1" Store.empty) := by
    unfold Readable
    decide +kernel
  rw [Poll.stepStored_of_stuck .reference .reference fun hno => hunreadable hno.1] at hjob
  exact nomatch hjob

open Wedges in
/-- Nor with U+0000 in a name, which the mapper and every layer let through. -/
example : ¬ nulName.NeverWedges .reference .reference "L1" Store.empty := by
  intro h
  obtain ⟨job, hjob, -⟩ := h.terminal
  have hrefused : ¬ nulName.Stored .reference .reference "L1" Store.empty := by
    unfold Poll.Stored
    decide +kernel
  rw [Poll.stepStored_of_stuck .reference .reference fun hno => hrefused hno.2] at hjob
  exact nomatch hjob
