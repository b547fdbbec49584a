/-
The five-layer validation pipeline.

`runPipeline` follows `services/validation/pipeline.py`: Layer 1 is read off the
page and blocks it; Layers 2 and 3 look at one event at a time and put the
events they find an issue with into the rejected set; Layer 4 walks the events
that survive, in page order, and sends the enrollments of unknown students to
quarantine; Layer 5 counts.  A `set` is a list used for membership only.  The
thresholds of Layer 5 are exact rationals.

* `mem_rejectedIds` — an event is rejected on account of its own issues, or of
  those of another event with its id;
* `cleared_of_accepts`, `cleared_of_quarantined` — what the worker writes anything
  for cleared Layers 2 and 3;
* `cleared_student`, `cleared_enrollment` — and what that says about its entity.
-/
import EdlinkRostering.Entities
import Mathlib.Data.List.Sort
import Mathlib.Data.List.Dedup
import Mathlib.Data.Rat.Defs
import Mathlib.Algebra.Order.Ring.Unbundled.Rat

/-! ### Issues -/

inductive Severity where
  | error
  | warning
  | quarantine
deriving DecidableEq, Repr

def Severity.value : Severity → String
  | .error => "error"
  | .warning => "warning"
  | .quarantine => "quarantine"

/-- A value in the `detail` dict of an issue. -/
inductive DetailValue where
  | text (value : Option String)
  | flag (value : Bool)
  | number (value : Rat)
deriving DecidableEq

structure ValidationIssue where
  layer : Nat
  code : String
  severity : Severity
  detail : List (String × DetailValue)
  eventId : Option EventId := none
deriving DecidableEq

/-- An issue that names one event. -/
def NormalizedEvent.issue (event : NormalizedEvent) (layer : Nat) (code : String)
    (severity : Severity) (detail : List (String × DetailValue)) : ValidationIssue :=
  { layer := layer, code := code, severity := severity, detail := detail,
    eventId := some event.eventId }

/-- `if condition: yield issue`. -/
def yieldIf (condition : Bool) (issue : ValidationIssue) : List ValidationIssue :=
  if condition then [issue] else []

@[simp] theorem yieldIf_eq_nil {condition : Bool} {issue : ValidationIssue} :
    yieldIf condition issue = [] ↔ condition = false := by
  cases condition <;> simp [yieldIf]

/-! ### Layer 2: schema -/

/-- The `ENTITY_TYPE_MISMATCH` error of one event. -/
def entityTypeMismatch (event : NormalizedEvent) (expected : String) : ValidationIssue :=
  event.issue 2 "ENTITY_TYPE_MISMATCH" .error
    [("expected", .text (some expected)), ("actual", .text (some event.entity.typeName))]

/-- The error for an entity whose tenant is not the envelope's. -/
def leaIdMismatch (event : NormalizedEvent) (code idName id entityLeaId : String) :
    ValidationIssue :=
  event.issue 2 code .error
    [(idName, .text (some id)), ("entity_lea_id", .text (some entityLeaId)),
      ("envelope_lea_id", .text (some event.leaId))]

def checkStudent (event : NormalizedEvent) (student : Student) : List ValidationIssue :=
  yieldIf (student.id = "") (event.issue 2 "STUDENT_MISSING_ID" .error []) ++
  yieldIf (student.givenName = "") (event.issue 2 "STUDENT_MISSING_GIVEN_NAME" .error
    [("student_id", .text (some student.id))]) ++
  yieldIf (student.familyName = "") (event.issue 2 "STUDENT_MISSING_FAMILY_NAME" .error
    [("student_id", .text (some student.id))]) ++
  yieldIf (student.leaId ≠ event.leaId)
    (leaIdMismatch event "STUDENT_LEA_ID_MISMATCH" "student_id" student.id student.leaId)

def checkEnrollment (event : NormalizedEvent) (enrollment : Enrollment) :
    List ValidationIssue :=
  yieldIf (enrollment.id = "") (event.issue 2 "ENROLLMENT_MISSING_ID" .error []) ++
  yieldIf (enrollment.studentId = "") (event.issue 2 "ENROLLMENT_MISSING_STUDENT_ID" .error
    [("enrollment_id", .text (some enrollment.id))]) ++
  yieldIf (enrollment.classId = "") (event.issue 2 "ENROLLMENT_MISSING_CLASS_ID" .error
    [("enrollment_id", .text (some enrollment.id))]) ++
  yieldIf (enrollment.leaId ≠ event.leaId)
    (leaIdMismatch event "ENROLLMENT_LEA_ID_MISMATCH" "enrollment_id" enrollment.id
      enrollment.leaId)

/-- The checks of the envelope itself. -/
def checkEnvelope (event : NormalizedEvent) : List ValidationIssue :=
  yieldIf (event.leaId = "") (event.issue 2 "MISSING_LEA_ID" .error []) ++
  yieldIf (event.sourceEventId = "") (event.issue 2 "MISSING_SOURCE_EVENT_ID" .error [])

/-- `check_schema`.  A student or enrollment event with the wrong entity returns
early; an LEA event goes on to the envelope checks either way. -/
def checkSchema (event : NormalizedEvent) : List ValidationIssue :=
  match event.entityType, event.entity with
  | .student, .student student => checkStudent event student ++ checkEnvelope event
  | .student, _ => [entityTypeMismatch event "Student"]
  | .enrollment, .enrollment enrollment =>
    checkEnrollment event enrollment ++ checkEnvelope event
  | .enrollment, _ => [entityTypeMismatch event "Enrollment"]
  | .lea, .lea _ => checkEnvelope event
  | .lea, _ => entityTypeMismatch event "Lea" :: checkEnvelope event

/-! ### Layer 3: parse -/

/-- `_ONEROSTER_GRADES`. -/
def onerosterGrades : List String :=
  ["IT", "PR", "PK", "TK", "KG", "01", "02", "03", "04", "05", "06", "07", "08", "09", "10",
    "11", "12", "13", "PS", "UG", "Other"]

def checkStudentParse (event : NormalizedEvent) (student : Student) : List ValidationIssue :=
  match student.grade with
  | none => []
  | some grade =>
    yieldIf (grade ∉ onerosterGrades) (event.issue 3 "STUDENT_GRADE_NOT_ONEROSTER" .warning
      [("student_id", .text (some student.id)), ("grade", .text (some grade)),
        ("expected", .text (some "OneRoster 1.2 grade enum"))])

def checkEnrollmentParse (event : NormalizedEvent) (enrollment : Enrollment) :
    List ValidationIssue :=
  match enrollment.beginDate, enrollment.endDate with
  | .text _, _ =>
    [event.issue 3 "ENROLLMENT_BEGIN_DATE_NOT_DATE" .error
      [("enrollment_id", .text (some enrollment.id))]]
  | .date _, none => []
  | .date _, some (.text _) =>
    [event.issue 3 "ENROLLMENT_END_DATE_NOT_DATE" .error
      [("enrollment_id", .text (some enrollment.id))]]
  | .date beginDate, some (.date endDate) =>
    yieldIf (endDate.before beginDate) (event.issue 3 "ENROLLMENT_END_BEFORE_BEGIN" .error
      [("enrollment_id", .text (some enrollment.id)),
        ("begin_date", .text (some beginDate.isoformat)),
        ("end_date", .text (some endDate.isoformat))])

/-- `check_parse`. -/
def checkParse (event : NormalizedEvent) : List ValidationIssue :=
  match event.entityType, event.entity with
  | .student, .student student => checkStudentParse event student
  | .enrollment, .enrollment enrollment => checkEnrollmentParse event enrollment
  | _, _ => []

/-! ### Layer 4: referential -/

/-- The LEA-scoped view of the store that Layers 4 and 5 read. -/
structure LEAState where
  leaId : LeaId
  knownStudentIds : List StudentId := []
  liveStudentCount : Nat := 0
  recentEventCounts : List Nat := []
  recentDeletionCounts : List Nat := []
deriving DecidableEq

/-- `getattr(entity, "student_id")`, for the enrollment that Layer 2 vouches for. -/
def CanonicalEntity.studentId : CanonicalEntity → StudentId
  | .enrollment e => e.studentId
  | _ => ""

/-- `check_referential`: the known set grows along the page, whatever the
operation of the student event is. -/
def checkReferential : List NormalizedEvent → List StudentId →
    List ValidationIssue × List EventId
  | [], _ => ([], [])
  | event :: events, known =>
    match event.entityType with
    | .student => checkReferential events (event.entity.id :: known)
    | .lea => checkReferential events known
    | .enrollment =>
      let rest := checkReferential events known
      if event.entity.studentId ∈ known then rest
      else
        (event.issue 4 "ENROLLMENT_ORPHAN_STUDENT" .quarantine
            [("enrollment_id", .text (some event.entity.id)),
              ("student_id", .text (some event.entity.studentId)),
              ("lea_id", .text (some event.leaId))] :: rest.1,
          event.eventId :: rest.2)

/-! ### Layer 5: thresholds -/

structure ThresholdConfig where
  volumeSpikeMultiplier : Rat := 3
  deletionShareThreshold : Rat := 3 / 10
  deletionBurstMultiplier : Rat := 2
  populationShiftThreshold : Rat := 1 / 4
  minHistoryForThresholds : Nat := 3

/-- `statistics.median` of a non-empty sequence. -/
def median (counts : List Nat) : Rat :=
  let sorted := counts.insertionSort (· ≤ ·)
  let n := sorted.length
  if n % 2 = 1 then sorted.getD (n / 2) 0
  else (sorted.getD (n / 2 - 1) 0 + sorted.getD (n / 2) 0 : Rat) / 2

/-- A Layer 5 issue: about the page, never about one event, and a warning. -/
def thresholdIssue (code : String) (detail : List (String × DetailValue)) : ValidationIssue :=
  { layer := 5, code := code, severity := .warning, detail := detail }

/-- `check_thresholds`. -/
def checkThresholds (page : EventPage) (state : LEAState) (config : ThresholdConfig := {}) :
    List ValidationIssue :=
  let count (p : NormalizedEvent → Bool) : Nat := page.events.countP p
  let pageSize := page.events.length
  let deletionEvents := count (·.operation = .deleted)
  let studentCreations := count fun e => e.entityType = .student && e.operation = .created
  let studentDeletions := count fun e => e.entityType = .student && e.operation = .deleted
  let historySize := state.recentEventCounts.length
  let observation := thresholdIssue "THRESHOLD_PAGE_OBSERVATION"
    [("lea_id", .text (some state.leaId)), ("page_event_count", .number pageSize),
      ("student_events", .number (count (·.entityType = .student))),
      ("enrollment_events", .number (count (·.entityType = .enrollment))),
      ("deletion_events", .number deletionEvents),
      ("known_students_in_lea", .number state.knownStudentIds.length),
      ("live_student_count", .number state.liveStudentCount),
      ("history_size", .number historySize)]
  if historySize < config.minHistoryForThresholds then
    [observation, thresholdIssue "THRESHOLD_BASELINE_INSUFFICIENT"
      [("lea_id", .text (some state.leaId)), ("history_size", .number historySize),
        ("min_required", .number config.minHistoryForThresholds),
        ("note", .text (some
          "Spike thresholds suppressed until enough history is available."))]]
  else
    let baselineEvents := max 1 (median state.recentEventCounts)
    let spikeLimit := baselineEvents * config.volumeSpikeMultiplier
    let deletionShare : Rat := if pageSize > 0 then deletionEvents / pageSize else 0
    let baselineDeletions :=
      if state.recentDeletionCounts.isEmpty then 1 else max 1 (median state.recentDeletionCounts)
    let deletionSpikeLimit := baselineDeletions * config.deletionBurstMultiplier
    let live : Rat := state.liveStudentCount
    let projected : Rat := live + studentCreations - studentDeletions
    let dropFraction : Rat := (live - projected) / live
    [observation] ++
    yieldIf (decide (spikeLimit < pageSize)) (thresholdIssue "THRESHOLD_EVENT_VOLUME_SPIKE"
      [("lea_id", .text (some state.leaId)), ("page_event_count", .number pageSize),
        ("baseline_median", .number baselineEvents),
        ("multiplier_applied", .number config.volumeSpikeMultiplier),
        ("spike_limit", .number spikeLimit)]) ++
    yieldIf (decide (config.deletionShareThreshold ≤ deletionShare) &&
        decide (deletionSpikeLimit < deletionEvents))
      (thresholdIssue "THRESHOLD_DELETION_BURST"
        [("lea_id", .text (some state.leaId)), ("deletion_events", .number deletionEvents),
          ("deletion_share", .number deletionShare),
          ("deletion_share_threshold", .number config.deletionShareThreshold),
          ("baseline_median_deletions", .number baselineDeletions),
          ("multiplier_applied", .number config.deletionBurstMultiplier),
          ("deletion_spike_limit", .number deletionSpikeLimit)]) ++
    yieldIf (decide (0 < state.liveStudentCount) &&
        decide (config.populationShiftThreshold ≤ dropFraction))
      (thresholdIssue "THRESHOLD_POPULATION_SHIFT"
        [("lea_id", .text (some state.leaId)),
          ("live_student_count", .number state.liveStudentCount),
          ("projected_live_student_count", .number projected),
          ("drop_fraction", .number dropFraction),
          ("population_shift_threshold", .number config.populationShiftThreshold)])

/-! ### The pipeline -/

structure ValidationReport where
  issues : List ValidationIssue
  okEventIds : List EventId
  quarantinedEventIds : List EventId
  pageBlocked : Bool
deriving DecidableEq

def ValidationReport.errorCount (report : ValidationReport) : Nat :=
  report.issues.countP (·.severity = .error)

def ValidationReport.warningCount (report : ValidationReport) : Nat :=
  report.issues.countP (·.severity = .warning)

/-- The issues found so far and the rejected set. -/
abbrev Findings := List ValidationIssue × List EventId

/-- One event's issues go on the report, and the event is rejected when there is
one of any severity. -/
def Findings.record (acc : Findings) (event : NormalizedEvent) (found : List ValidationIssue) :
    Findings :=
  (acc.1 ++ found, if found.isEmpty then acc.2 else event.eventId :: acc.2)

def layer2 (events : List NormalizedEvent) (acc : Findings) : Findings :=
  events.foldl (fun acc event => acc.record event (checkSchema event)) acc

/-- Layer 3 skips the events that are rejected by the time it gets to them. -/
def layer3 (events : List NormalizedEvent) (acc : Findings) : Findings :=
  events.foldl (fun acc event =>
    if event.eventId ∈ acc.2 then acc else acc.record event (checkParse event)) acc

def httpIntegrityFailed (check : Layer1Result) : ValidationIssue :=
  { layer := 1, code := "HTTP_INTEGRITY_FAILED", severity := .error,
    detail :=
      [("http_status", .number check.httpStatus), ("content_type", .text (some check.contentType)),
        ("body_well_formed", .flag check.bodyWellFormed), ("error", .text check.error)] }

/-- The rejected set of a page that passed Layer 1. -/
def rejectedIds (page : EventPage) : Findings := layer3 page.events (layer2 page.events ([], []))

/-- The events Layers 2 and 3 let through. -/
def surviving (page : EventPage) : List NormalizedEvent :=
  page.events.filter fun e => e.eventId ∉ (rejectedIds page).2

/-- `run_pipeline`. -/
def runPipeline (page : EventPage) (state : LEAState) : ValidationReport :=
  if page.layer1Check.ok then
    let findings := rejectedIds page
    let layer4 := checkReferential (surviving page) state.knownStudentIds
    let issues := findings.1 ++ layer4.1 ++ checkThresholds page state
    { issues := issues
      okEventIds := (page.events.map (·.eventId)).filter fun id =>
        id ∉ findings.2 && id ∉ layer4.2
      quarantinedEventIds := layer4.2.dedup.insertionSort (· ≤ ·)
      pageBlocked := issues.any fun i => i.severity = .error && i.eventId = none }
  else
    { issues := [httpIntegrityFailed page.layer1Check]
      okEventIds := page.events.map (·.eventId)
      quarantinedEventIds := []
      pageBlocked := true }

/-! ### What the report says about one event -/

theorem layer2_rejected {events : List NormalizedEvent} {acc : Findings} {id : EventId} :
    id ∈ (layer2 events acc).2 ↔
      id ∈ acc.2 ∨ ∃ e ∈ events, e.eventId = id ∧ checkSchema e ≠ [] := by
  induction events generalizing acc with
  | nil => simp [layer2]
  | cons event events ih =>
    rw [show layer2 (event :: events) acc
      = layer2 events (acc.record event (checkSchema event)) from rfl, ih]
    by_cases h : checkSchema event = []
    · simp [Findings.record, h]
    · simp only [Findings.record, List.isEmpty_iff, h, if_false, List.mem_cons, ne_eq,
        exists_eq_or_imp, not_false_eq_true, and_true, eq_comm (a := id)]
      tauto

theorem layer3_rejected {events : List NormalizedEvent} {acc : Findings} {id : EventId} :
    id ∈ (layer3 events acc).2 ↔
      id ∈ acc.2 ∨ ∃ e ∈ events, e.eventId = id ∧ checkParse e ≠ [] := by
  induction events generalizing acc with
  | nil => simp [layer3]
  | cons event events ih =>
    by_cases hr : event.eventId ∈ acc.2
    · rw [show layer3 (event :: events) acc = layer3 events acc by
        simp only [layer3, List.foldl_cons, if_pos hr], ih]
      simp only [List.mem_cons, exists_eq_or_imp]
      constructor
      · tauto
      · rintro (h | ⟨rfl, -⟩ | h)
        · exact Or.inl h
        · exact Or.inl hr
        · exact Or.inr h
    · rw [show layer3 (event :: events) acc
        = layer3 events (acc.record event (checkParse event)) by
          simp only [layer3, List.foldl_cons, if_neg hr], ih]
      by_cases h : checkParse event = []
      · simp [Findings.record, h]
      · simp only [Findings.record, List.isEmpty_iff, h, if_false, List.mem_cons, ne_eq,
          exists_eq_or_imp, not_false_eq_true, and_true, eq_comm (a := id)]
        tauto

/-- An event clears Layers 2 and 3 on its own account. -/
def NormalizedEvent.Cleared (event : NormalizedEvent) : Prop :=
  checkSchema event = [] ∧ checkParse event = []

instance (event : NormalizedEvent) : Decidable event.Cleared := by
  unfold NormalizedEvent.Cleared; infer_instance

/-- The rejected set is the ids of the events that do not clear. -/
theorem mem_rejectedIds {page : EventPage} {id : EventId} :
    id ∈ (rejectedIds page).2 ↔ ∃ e ∈ page.events, e.eventId = id ∧ ¬ e.Cleared := by
  rw [rejectedIds, layer3_rejected, layer2_rejected]
  simp only [List.not_mem_nil, false_or, NormalizedEvent.Cleared, not_and_or, ← ne_eq]
  constructor
  · rintro (⟨e, he, hid, h⟩ | ⟨e, he, hid, h⟩)
    · exact ⟨e, he, hid, Or.inl h⟩
    · exact ⟨e, he, hid, Or.inr h⟩
  · rintro ⟨e, he, hid, h | h⟩
    · exact Or.inl ⟨e, he, hid, h⟩
    · exact Or.inr ⟨e, he, hid, h⟩

/-- `event.event_id in report.ok_event_ids`, the worker's test before it writes. -/
def ValidationReport.accepts (report : ValidationReport) (event : NormalizedEvent) : Bool :=
  event.eventId ∉ report.quarantinedEventIds && event.eventId ∈ report.okEventIds

/-- A page that is not blocked passed Layer 1: the other layers only report
errors that name an event. -/
theorem layer1_ok_of_not_blocked {page : EventPage} {state : LEAState}
    (h : (runPipeline page state).pageBlocked = false) : page.layer1Check.ok = true := by
  by_contra hok
  rw [runPipeline, if_neg hok] at h
  exact absurd h (by simp)

theorem cleared_of_accepts {page : EventPage} {state : LEAState} {event : NormalizedEvent}
    (hpage : page.layer1Check.ok = true) (hmem : event ∈ page.events)
    (h : (runPipeline page state).accepts event = true) : event.Cleared := by
  by_contra hc
  simp only [runPipeline, if_pos hpage, ValidationReport.accepts, Bool.and_eq_true,
    decide_eq_true_eq, List.mem_filter] at h
  exact h.2.2.1 (mem_rejectedIds.mpr ⟨event, hmem, rfl, hc⟩)

theorem cleared_student {event : NormalizedEvent} (h : event.Cleared)
    (ht : event.entityType = .student) :
    ∃ student, event.entity = .student student ∧ student.leaId = event.leaId := by
  obtain ⟨hs, -⟩ := h
  rw [checkSchema, ht] at hs
  cases he : event.entity with
  | student student =>
    refine ⟨student, rfl, ?_⟩
    rw [he] at hs
    simp only [List.append_eq_nil_iff, checkStudent, yieldIf_eq_nil] at hs
    simpa using hs.1.2
  | lea _ | enrollment _ =>
    rw [he] at hs
    exact absurd hs (by simp)

/-- What a cleared enrollment event is known to carry: Layer 2 gives the tenant,
Layer 3 the dates. -/
theorem cleared_enrollment {event : NormalizedEvent} (h : event.Cleared)
    (ht : event.entityType = .enrollment) :
    ∃ enrollment beginDate endDate, event.entity = .enrollment enrollment ∧
      enrollment.leaId = event.leaId ∧ enrollment.beginDate = .date beginDate ∧
      enrollment.endDate = Option.map DateField.date endDate := by
  obtain ⟨hs, hp⟩ := h
  rw [checkSchema, ht] at hs
  cases he : event.entity with
  | enrollment enrollment =>
    rw [he] at hs
    replace hp : checkEnrollmentParse event enrollment = [] := by
      simpa only [checkParse, ht, he] using hp
    simp only [List.append_eq_nil_iff, checkEnrollment, yieldIf_eq_nil] at hs
    have hlea : enrollment.leaId = event.leaId := by simpa using hs.1.2
    unfold checkEnrollmentParse at hp
    split at hp
    · exact absurd hp (by simp)
    · next hb hn => exact ⟨enrollment, _, none, rfl, hlea, hb, hn⟩
    · exact absurd hp (by simp)
    · next hb hn => exact ⟨enrollment, _, some _, rfl, hlea, hb, hn⟩
  | lea _ | student _ =>
    rw [he] at hs
    exact absurd hs (by simp)

theorem mem_checkReferential {events : List NormalizedEvent} {known : List StudentId}
    {id : EventId} (h : id ∈ (checkReferential events known).2) :
    ∃ e ∈ events, e.eventId = id := by
  induction events generalizing known with
  | nil => exact absurd h List.not_mem_nil
  | cons event events ih =>
    have hrest : ∀ known, id ∈ (checkReferential events known).2 →
        ∃ e ∈ event :: events, e.eventId = id := by
      intro known h
      obtain ⟨e, he, hid⟩ := ih h
      exact ⟨e, List.mem_cons_of_mem _ he, hid⟩
    rw [checkReferential] at h
    split at h
    · exact hrest _ h
    · exact hrest _ h
    · split at h
      · exact hrest _ h
      · rcases List.mem_cons.mp h with rfl | h
        · exact ⟨event, List.mem_cons_self, rfl⟩
        · exact hrest _ h

/-- Layer 4 quarantines events that the other layers let through. -/
theorem cleared_of_quarantined {page : EventPage} {state : LEAState} {event : NormalizedEvent}
    (hpage : page.layer1Check.ok = true) (hmem : event ∈ page.events)
    (h : event.eventId ∈ (runPipeline page state).quarantinedEventIds) : event.Cleared := by
  by_contra hc
  simp only [runPipeline, if_pos hpage, List.mem_insertionSort, List.mem_dedup] at h
  obtain ⟨e, he, hid⟩ := mem_checkReferential h
  have hkept : e.eventId ∉ (rejectedIds page).2 := by
    simpa using (List.mem_filter.mp he).2
  exact hkept (mem_rejectedIds.mpr ⟨event, hmem, hid.symm, hc⟩)
