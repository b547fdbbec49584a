/-
The population-shift warning, and what the page does.

Layer 5 projects the live students of the LEA from the kinds of the page's events:
every student creation adds one and every student deletion removes one, whether or
not the event is applied.  The commit rejects, deduplicates, revives and deletes again,
so what the page does to the live students is told turn by turn, from the student of
the event before and after it.

* `emits_iff` — the warning compares deletions less creations with the live students;
* `liveStudents_applyEvents` — the commit changes the live students by those its turns
  bring back less those they take away;
* `population_shift_iff` — the warning and the commit agree on a page whose student
  events take effect as their kinds say.
-/
import EdlinkRostering.Severities

/-! ### The live students of a roster -/

namespace Roster

/-- The student is in the LEA and not deleted. -/
def isLive (r : Roster) (leaId : LeaId) (id : StudentId) : Bool :=
  (r.students.lookup id).any fun row => row.leaId = leaId && row.deletedAt.isNone

/-- The number of live students of the LEA. -/
def liveStudents (r : Roster) (leaId : LeaId) : Nat :=
  (Table.rows r.students).countP fun row => row.2.leaId = leaId && row.2.deletedAt.isNone

theorem readLiveStudentCount_eq (s : Store) (leaId : LeaId) :
    s.readLiveStudentCount leaId = s.roster.liveStudents leaId := rfl

@[simp] theorem students_ensureLeaExists (r : Roster) (leaId : LeaId) :
    (r.ensureLeaExists leaId).students = r.students := by
  rw [ensureLeaExists]
  split <;> rfl

theorem liveStudents_congr {r r' : Roster} (h : r'.students = r.students) (leaId : LeaId) :
    r'.liveStudents leaId = r.liveStudents leaId := by
  rw [liveStudents, h, liveStudents]

theorem isLive_congr {r r' : Roster} (h : r'.students = r.students) (leaId : LeaId)
    (id : StudentId) : r'.isLive leaId id = r.isLive leaId id := by
  rw [isLive, h, isLive]

end Roster

/-- The event is about a student of the LEA. -/
def NormalizedEvent.isStudentOf (event : NormalizedEvent) (leaId : LeaId) : Bool :=
  match event.entity with
  | .student student => student.leaId = leaId
  | _ => false

/-! ### One turn of the event loop -/

section

variable {pg : Postgres} {leaId : LeaId} {syncJobId : Uuid} {now : Instant} {r r' : Roster}
  {event : NormalizedEvent}

/-- A turn moves the count by what becomes of the student of its event. -/
theorem liveStudents_turn (h : applyEventRoster pg leaId syncJobId now r event = some r') :
    r'.liveStudents leaId + (r.isLive leaId event.naturalKey).toNat
      = r.liveStudents leaId + (r'.isLive leaId event.naturalKey).toNat := by
  rcases applyEventRoster_eq_some.mp h with ⟨-, rfl⟩ | ⟨-, row, -, -, rfl⟩
  · rfl
  · cases row with
    | student row =>
      have hcount := Table.countP_insert r.students event.naturalKey row
        fun row => row.2.leaId = leaId && row.2.deletedAt.isNone
      have hafter : (((r.pushSnapshot leaId event syncJobId now).setCanonical event.naturalKey
          (.student row)).isLive leaId event.naturalKey)
          = (decide (row.leaId = leaId) && row.deletedAt.isNone) := by
        show (AList.lookup event.naturalKey
          (AList.insert event.naturalKey row r.students)).any _ = _
        rw [AList.lookup_insert, Option.any_some]
      rw [hafter]
      exact hcount
    | enrollment row => rfl
    | lea row => rfl

/-- An event that is not about a student leaves all of them as they are. -/
theorem students_turn (h : applyEventRoster pg leaId syncJobId now r event = some r')
    (hother : event.entityType ≠ .student) : r'.students = r.students := by
  rcases applyEventRoster_eq_some.mp h with ⟨-, rfl⟩ | ⟨-, row, hrow, -, rfl⟩
  · rfl
  · cases row with
    | student row =>
      have htype := canonicalRow_entityType hrow
      exact absurd htype.symm hother
    | enrollment row => rfl
    | lea row => rfl

/-- The student of an event that is applied is live if it is a student of the LEA that was
not deleted. -/
theorem isLive_turn (h : applyEventRoster pg leaId syncJobId now r event = some r')
    (hnew : r.dedups pg leaId event = false) (htype : event.entityType = .student) :
    r'.isLive leaId event.naturalKey = (event.isStudentOf leaId && !event.deletedUpstream) := by
  rcases applyEventRoster_eq_some.mp h with ⟨hold, -⟩ | ⟨-, row, hrow, -, rfl⟩
  · exact absurd (hold.symm.trans hnew) (by decide)
  · rw [NormalizedEvent.isStudentOf]
    cases hentity : event.entity with
    | student student =>
      simp only [NormalizedEvent.canonicalRow, htype, hentity, Option.some.injEq] at hrow
      subst hrow
      show (AList.lookup event.naturalKey (AList.insert event.naturalKey _ r.students)).any _ = _
      rw [AList.lookup_insert, Option.any_some]
      cases event.deletedUpstream <;> rfl
    | enrollment entity => simp [NormalizedEvent.canonicalRow, htype, hentity] at hrow
    | lea entity => simp [NormalizedEvent.canonicalRow, htype, hentity] at hrow

end

/-! ### What a page does to the live students -/

section

variable (pg : Postgres) (leaId : LeaId) (syncJobId : Uuid) (now : Instant)

/-- How many turns bring a student back, or in, and how many take one away. -/
def studentShifts : List NormalizedEvent → Roster → Nat × Nat
  | [], _ => (0, 0)
  | event :: events, r =>
    match applyEventRoster pg leaId syncJobId now r event with
    | none => (0, 0)
    | some r' =>
      let rest := studentShifts events r'
      let before := r.isLive leaId event.naturalKey
      let after := r'.isLive leaId event.naturalKey
      (rest.1 + (!before && after).toNat, rest.2 + (before && !after).toNat)

/-- At its turn the event does what its kind says: a creation brings in a student who is not
live, a deletion takes away one who is, an update leaves one who is live live. -/
def Roster.takes (r : Roster) (event : NormalizedEvent) : Bool :=
  match event.entityType, event.operation with
  | .student, .created =>
    !r.dedups pg leaId event && event.isStudentOf leaId && !r.isLive leaId event.naturalKey
  | .student, .deleted => !r.dedups pg leaId event && r.isLive leaId event.naturalKey
  | .student, .updated =>
    r.dedups pg leaId event || (event.isStudentOf leaId && r.isLive leaId event.naturalKey)
  | _, _ => true

/-- So do all the events, one after another. -/
def takeEffect : List NormalizedEvent → Roster → Bool
  | [], _ => true
  | event :: events, r =>
    r.takes pg leaId event &&
      match applyEventRoster pg leaId syncJobId now r event with
      | none => false
      | some r' => takeEffect events r'

variable {pg leaId syncJobId now}

theorem liveStudents_applyEvents {events : List NormalizedEvent} {r r' : Roster}
    (h : applyEvents pg leaId syncJobId now events r = some r') :
    r'.liveStudents leaId + (studentShifts pg leaId syncJobId now events r).2
      = r.liveStudents leaId + (studentShifts pg leaId syncJobId now events r).1 := by
  induction events generalizing r with
  | nil =>
    obtain rfl : r = r' := Option.some.inj h
    rfl
  | cons event events ih =>
    obtain ⟨r₁, h₁, hrest⟩ := applyEvents_cons_eq_some.mp h
    have hturn := liveStudents_turn h₁
    have hlater := ih hrest
    rw [studentShifts, h₁]
    show r'.liveStudents leaId + ((studentShifts pg leaId syncJobId now events r₁).2
        + (r.isLive leaId event.naturalKey && !r₁.isLive leaId event.naturalKey).toNat)
      = r.liveStudents leaId + ((studentShifts pg leaId syncJobId now events r₁).1
        + (!r.isLive leaId event.naturalKey && r₁.isLive leaId event.naturalKey).toNat)
    cases hbefore : r.isLive leaId event.naturalKey <;>
      cases hafter : r₁.isLive leaId event.naturalKey <;>
      rw [hbefore, hafter] at hturn <;>
      simp only [Bool.toNat_false, Bool.toNat_true, Bool.not_false, Bool.not_true,
        Bool.and_self, Bool.and_false, Bool.and_true] at hturn ⊢ <;>
      omega

/-- The event counts as a student creation. -/
def NormalizedEvent.isStudentCreation (event : NormalizedEvent) : Bool :=
  event.entityType = .student && event.operation = .created

/-- The event counts as a student deletion. -/
def NormalizedEvent.isStudentDeletion (event : NormalizedEvent) : Bool :=
  event.entityType = .student && event.operation = .deleted

/-- What one turn adds to the two counts, when the event does what its kind says. -/
theorem turn_of_takes {r r' : Roster} {event : NormalizedEvent}
    (h : applyEventRoster pg leaId syncJobId now r event = some r')
    (htakes : r.takes pg leaId event = true) :
    (!r.isLive leaId event.naturalKey && r'.isLive leaId event.naturalKey)
        = event.isStudentCreation ∧
      (r.isLive leaId event.naturalKey && !r'.isLive leaId event.naturalKey)
        = event.isStudentDeletion := by
  by_cases htype : event.entityType = .student
  · rw [NormalizedEvent.isStudentCreation, NormalizedEvent.isStudentDeletion]
    cases hop : event.operation with
    | created =>
      simp only [Roster.takes, htype, hop, Bool.and_eq_true, Bool.not_eq_true'] at htakes
      obtain ⟨⟨hnew, hstudent⟩, hlive⟩ := htakes
      rw [isLive_turn h hnew htype, hstudent, hlive, NormalizedEvent.deletedUpstream, hop, htype]
      decide
    | updated =>
      simp only [Roster.takes, htype, hop, Bool.or_eq_true, Bool.and_eq_true] at htakes
      -- an update that takes effect rewrites a live student, in place
      have hsame : r'.isLive leaId event.naturalKey = r.isLive leaId event.naturalKey := by
        cases hd : r.dedups pg leaId event with
        | true =>
          rcases applyEventRoster_eq_some.mp h with ⟨-, rfl⟩ | ⟨hnew, -⟩
          · rfl
          · exact absurd (hd.symm.trans hnew) (by decide)
        | false =>
          obtain ⟨hstudent, hlive⟩ := htakes.resolve_left (by rw [hd]; decide)
          rw [isLive_turn h hd htype, hstudent, hlive, NormalizedEvent.deletedUpstream, hop]
          rfl
      rw [hsame, htype]
      cases r.isLive leaId event.naturalKey <;> decide
    | deleted =>
      simp only [Roster.takes, htype, hop, Bool.and_eq_true, Bool.not_eq_true'] at htakes
      obtain ⟨hnew, hlive⟩ := htakes
      rw [isLive_turn h hnew htype, hlive, NormalizedEvent.deletedUpstream, hop, htype]
      cases event.isStudentOf leaId <;> decide
  · rw [Roster.isLive_congr (students_turn h htype), NormalizedEvent.isStudentCreation,
      NormalizedEvent.isStudentDeletion, decide_eq_false htype]
    cases r.isLive leaId event.naturalKey <;> exact ⟨rfl, rfl⟩

/-- Events that take effect shift the live students by their kinds. -/
theorem studentShifts_of_takeEffect {events : List NormalizedEvent} {r : Roster}
    (h : takeEffect pg leaId syncJobId now events r = true) :
    studentShifts pg leaId syncJobId now events r
      = (events.countP (·.isStudentCreation), events.countP (·.isStudentDeletion)) := by
  induction events generalizing r with
  | nil => rfl
  | cons event events ih =>
    rw [takeEffect, Bool.and_eq_true] at h
    obtain ⟨htakes, hrest⟩ := h
    cases hturn : applyEventRoster pg leaId syncJobId now r event with
    | none =>
      rw [hturn] at hrest
      exact nomatch hrest
    | some r₁ =>
      rw [hturn] at hrest
      obtain ⟨hcreated, hdeleted⟩ := turn_of_takes hturn htakes
      rw [studentShifts, hturn, List.countP_cons, List.countP_cons]
      simp only [ih hrest, hcreated, hdeleted]
      cases event.isStudentCreation <;> cases event.isStudentDeletion <;> rfl

end

/-! ### The warning -/

section

variable {page : EventPage} {state : LEAState} {config : ThresholdConfig}

/-- The student creations of a page, whatever becomes of them. -/
def EventPage.studentCreations (page : EventPage) : Nat := page.events.countP (·.isStudentCreation)

/-- The student deletions of a page, whatever becomes of them. -/
def EventPage.studentDeletions (page : EventPage) : Nat := page.events.countP (·.isStudentDeletion)

/-- The issues warn of a population shift. -/
def WarnsOfShift (issues : List ValidationIssue) : Prop :=
  ∃ i ∈ issues, i.eventId = none ∧ i.code = "THRESHOLD_POPULATION_SHIFT"

theorem exists_mem_yieldIf {condition : Bool} {issue : ValidationIssue}
    {p : ValidationIssue → Prop} :
    (∃ i ∈ yieldIf condition issue, p i) ↔ condition = true ∧ p issue := by
  cases condition with
  | true => simp [yieldIf]
  | false => simp [yieldIf]

/-- **What the warning compares**: deletions less creations, with the live students. -/
theorem emits_iff (hhistory : config.minHistoryForThresholds ≤ state.recentEventCounts.length)
    (hlive : 0 < state.liveStudentCount) :
    WarnsOfShift (checkThresholds page state config) ↔
      config.populationShiftThreshold * state.liveStudentCount
        ≤ (page.studentDeletions : ℚ) - page.studentCreations := by
  have hpos : (0 : ℚ) < state.liveStudentCount := by exact_mod_cast hlive
  rw [WarnsOfShift, checkThresholds, if_neg (Nat.not_lt.mpr hhistory)]
  -- the other issues of the layer have other codes
  simp only [List.mem_append, List.mem_singleton, or_assoc, exists_or, or_and_right,
    exists_mem_yieldIf, exists_eq_left, thresholdIssue, String.reduceEq, and_false, and_true,
    false_or]
  rw [Bool.and_eq_true, decide_eq_true_eq, decide_eq_true_eq, le_div_iff₀ hpos,
    and_iff_right hlive]
  have hdrop : ∀ live creations deletions : ℚ,
      live - (live + creations - deletions) = deletions - creations := by
    intro live creations deletions
    rw [add_sub_assoc, sub_add_cancel_left, neg_sub]
  rw [hdrop]
  exact Iff.rfl

end

/-! ### A page -/

/-- The successful jobs of the LEA with the partner. -/
def Store.successfulJobs (s : Store) (leaId : LeaId) (partner : String) : Nat :=
  (Table.rows s.syncJobs).countP fun j =>
    j.2.leaId = leaId && j.2.partner = partner && j.2.status = .success

namespace PageRun

/-- How many students the turns of the page bring back, or in, and how many they take away. -/
def shifts (pg : Postgres) (run : PageRun) (s : Store) : Nat × Nat :=
  studentShifts pg run.leaId run.syncJobId run.now (run.accepted s)
    (s.roster.ensureLeaExists run.leaId)

/-- No student creation or deletion of the page is dropped, and every accepted event does at
its turn what its kind says. -/
def takesEffect (pg : Postgres) (run : PageRun) (s : Store) : Bool :=
  (run.page.events.all fun event => (run.report s).accepts event ||
    !(event.isStudentCreation || event.isStudentDeletion)) &&
  takeEffect pg run.leaId run.syncJobId run.now (run.accepted s)
    (s.roster.ensureLeaExists run.leaId)

end PageRun

section

variable {pg : Postgres} {run : PageRun} {s s' : Store} {outcome : PageOutcome}

/-- The history the worker reads is that of the last thirty successful jobs. -/
theorem length_recentEventCounts (s : Store) (leaId : LeaId) (partner : String) :
    (s.leaState leaId partner).recentEventCounts.length
      = min 30 (s.successfulJobs leaId partner) := by
  show (s.readRecentSyncHistory leaId partner).1.length = _
  rw [Store.readRecentSyncHistory, List.length_map, List.length_take, List.length_insertionSort,
    Store.successfulJobs, List.countP_eq_length_filter]

/-- Only Layer 5 speaks of the page, so the report of a page that passed Layer 1 warns when
Layer 5 does. -/
theorem warnsOfShift_report (hopen : run.blocked s = false) :
    WarnsOfShift (run.report s).issues ↔
      WarnsOfShift (checkThresholds run.page (s.leaState run.leaId run.partner)) := by
  have hok : run.page.layer1Check.ok = true := by
    by_contra hno
    rw [PageRun.blocked, PageRun.report, runPipeline, if_neg hno] at hopen
    cases hopen
  rw [PageRun.report, runPipeline, if_pos hok]
  constructor
  · rintro ⟨i, hi, hpage, hcode⟩
    simp only [List.mem_append] at hi
    rcases hi with (hi | hi) | hi
    · -- Layers 2 and 3 name their event
      exfalso
      rcases exists_of_mem_layer3_issues hi with hi | ⟨e, -, hi⟩
      · rcases mem_layer2_issues.mp hi with hi | ⟨e, -, hi⟩
        · exact List.not_mem_nil hi
        · cases hpage.symm.trans (checkSchema_issue hi).2
      · cases hpage.symm.trans (checkParse_issue hi).1
    · obtain ⟨-, id, -, hid⟩ := checkReferential_issues.1 i hi
      cases hpage.symm.trans hid
    · exact ⟨i, hi, hpage, hcode⟩
  · rintro ⟨i, hi, hpage, hcode⟩
    exact ⟨i, List.mem_append_right _ hi, hpage, hcode⟩

/-- The live students after the commit of a page. -/
theorem liveStudentCount_commit (h : processOnePage pg run s = some (s', outcome))
    (hopen : run.blocked s = false) :
    s'.readLiveStudentCount run.leaId + (run.shifts pg s).2
      = s.readLiveStudentCount run.leaId + (run.shifts pg s).1 := by
  have hroster := (processOnePage_eq_some h).1.roster hopen
  have hcount := liveStudents_applyEvents hroster
  rw [Roster.liveStudents_congr (Roster.students_ensureLeaExists s.roster run.leaId)] at hcount
  exact hcount

/-- On a page that takes effect the shifts are the kinds of its events. -/
theorem shifts_eq_kinds (h : run.takesEffect pg s = true) :
    run.shifts pg s = (run.page.studentCreations, run.page.studentDeletions) := by
  rw [PageRun.takesEffect, Bool.and_eq_true, List.all_eq_true] at h
  obtain ⟨hall, htake⟩ := h
  have hkept : ∀ q : NormalizedEvent → Bool,
      (∀ event, q event = true → (event.isStudentCreation || event.isStudentDeletion) = true) →
      (run.accepted s).countP q = run.page.events.countP q := by
    intro q hq
    rw [PageRun.accepted, List.countP_filter]
    refine List.countP_congr fun event hevent => ?_
    have hone := hall event hevent
    constructor
    · intro hboth
      exact (Bool.and_eq_true _ _ ▸ hboth).1
    · intro hkind
      rw [hq event hkind, Bool.not_true, Bool.or_false] at hone
      rw [hkind, hone]
      rfl
  rw [PageRun.shifts, studentShifts_of_takeEffect htake, EventPage.studentCreations,
    EventPage.studentDeletions]
  refine Prod.ext (hkept _ fun event h => ?_) (hkept _ fun event h => ?_)
  · rw [h, Bool.true_or]
  · rw [h, Bool.or_true]

end

/-- What the warning says of a page and what its commit does. -/
structure PageRun.ReportsShift (pg : Postgres) (run : PageRun) (config : ThresholdConfig)
    (s s' : Store) : Prop where
  /-- The warning compares the kinds of all the page's events with the live students. -/
  warned : WarnsOfShift (checkThresholds run.page (s.leaState run.leaId run.partner) config) ↔
    config.populationShiftThreshold * s.readLiveStudentCount run.leaId
      ≤ (run.page.studentDeletions : ℚ) - run.page.studentCreations
  /-- The commit counts the students its turns bring in and take away. -/
  committed : s'.readLiveStudentCount run.leaId + (run.shifts pg s).2
    = s.readLiveStudentCount run.leaId + (run.shifts pg s).1
  /-- They agree when the page's student events take effect. -/
  agrees : run.takesEffect pg s = true →
    (WarnsOfShift (checkThresholds run.page (s.leaState run.leaId run.partner) config) ↔
      config.populationShiftThreshold * s.readLiveStudentCount run.leaId
        ≤ (s.readLiveStudentCount run.leaId : ℚ) - s'.readLiveStudentCount run.leaId)
  /-- What the worker persists is the warning at the default thresholds. -/
  reported : WarnsOfShift (run.report s).issues ↔
    WarnsOfShift (checkThresholds run.page (s.leaState run.leaId run.partner))

/-- **The population-shift warning and the page.**  In every state with the history the
thresholds ask for and a live student, and for every page that is committed: the warning
counts the kinds of the page's events, the commit counts what became of their students, and
the two agree on a page whose student events take effect. -/
theorem population_shift_iff {pg : Postgres} {run : PageRun} {s s' : Store}
    {outcome : PageOutcome} (config : ThresholdConfig)
    (h : processOnePage pg run s = some (s', outcome)) (hopen : run.blocked s = false)
    (hhistory : config.minHistoryForThresholds ≤ min 30 (s.successfulJobs run.leaId run.partner))
    (hlive : 0 < s.readLiveStudentCount run.leaId) : run.ReportsShift pg config s s' := by
  have hwarned : WarnsOfShift (checkThresholds run.page (s.leaState run.leaId run.partner) config) ↔
      config.populationShiftThreshold * s.readLiveStudentCount run.leaId
        ≤ (run.page.studentDeletions : ℚ) - run.page.studentCreations :=
    emits_iff (by rw [length_recentEventCounts]; exact hhistory) hlive
  have hcommitted := liveStudentCount_commit h hopen
  refine ⟨hwarned, hcommitted, fun htakes => hwarned.trans ?_, warnsOfShift_report hopen⟩
  rw [shifts_eq_kinds htakes] at hcommitted
  -- both sides compare the threshold with the same difference
  have hdiff : (run.page.studentDeletions : ℚ) - run.page.studentCreations
      = s.readLiveStudentCount run.leaId - s'.readLiveStudentCount run.leaId := by
    have hcast : (s'.readLiveStudentCount run.leaId : ℚ) + run.page.studentDeletions
        = s.readLiveStudentCount run.leaId + run.page.studentCreations := by
      exact_mod_cast hcommitted
    rw [sub_eq_sub_iff_add_eq_add, add_comm, hcast]
  rw [hdiff]

section

open Fixture

/-- Two students, one of them deleted, in three jobs. -/
def oneDeleted : List Op :=
  [pageOp "L1" "job-1" [event "L1" "evt_001" (student "L1" "s1"),
      event "L1" "evt_002" (student "L1" "s2")],
    pageOp "L1" "job-2" [event "L1" "evt_003" (student "L1" "s2" (some "05")) .updated],
    pageOp "L1" "job-3" [event "L1" "evt_004" (student "L1" "s1") .deleted]]

/-- A page of the LEA, in a fourth job. -/
def fourthPage (events : List NormalizedEvent) : PageRun where
  leaId := "L1"
  partner := "edlink"
  page := page events
  syncJobId := "job-4"
  now := 10

/-- The other student is deleted. -/
def lastDeleted : PageRun := fourthPage [event "L1" "evt_005" (student "L1" "s2") .deleted]

theorem population_shift_iff_lastDeleted :
    ∃ s' outcome, processOnePage Postgres.reference lastDeleted (after oneDeleted)
        = some (s', outcome) ∧
      lastDeleted.takesEffect Postgres.reference (after oneDeleted) = true ∧
      lastDeleted.ReportsShift Postgres.reference {} (after oneDeleted) s' := by
  obtain ⟨⟨s', outcome⟩, h⟩ := Option.isSome_iff_exists.mp
    (show (processOnePage Postgres.reference lastDeleted (after oneDeleted)).isSome = true by
      decide +kernel)
  exact ⟨s', outcome, h, by decide +kernel,
    population_shift_iff {} h (by decide +kernel) (by decide +kernel) (by decide +kernel)⟩

/-- The deletion of the first student is delivered again. -/
def deletedAgain : PageRun := fourthPage [event "L1" "evt_004" (student "L1" "s1") .deleted]

/-- The replayed deletion is passed over, and yet warned of. -/
theorem replay_warns_of_shift :
    deletedAgain.blocked (after oneDeleted) = false ∧
      3 ≤ (after oneDeleted).successfulJobs "L1" "edlink" ∧
      (after oneDeleted).readLiveStudentCount "L1" = 1 ∧
      ((after oneDeleted).exec Postgres.reference (.page deletedAgain)).readLiveStudentCount "L1"
        = 1 ∧
      WarnsOfShift (deletedAgain.report (after oneDeleted)).issues := by
  have hopen : deletedAgain.blocked (after oneDeleted) = false := by decide +kernel
  refine ⟨hopen, by decide +kernel, by decide +kernel, by decide +kernel, ?_⟩
  rw [warnsOfShift_report hopen, emits_iff (by decide +kernel) (by decide +kernel)]
  decide +kernel

end
