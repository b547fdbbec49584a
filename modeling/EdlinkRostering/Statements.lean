/-
What Postgres and its driver refuse of a page.

A text column does not hold U+0000, and neither does a text inside JSONB; JSON has no NaN
and no infinity, though `json.loads` reads them and `json.dumps` writes them.  A statement
that is sent such a value raises, and the transaction of its page is lost.  A lone surrogate
is refused in the same places, but no text here holds one.  A `Storage` is what the database
refuses beyond that: an index entry that is too large, a document that is too deep.

* `PageRun.statements` — what the transaction of a page sends;
* `storeOnePage` — the transaction where something of it may be refused;
* `Poll.run_stepStored` — a refused page is a transaction that is lost;
* `PageRun.storable_of_mem_statements` — nothing is refused of a page whose events hold
  texts and documents that can be stored.
-/
import EdlinkRostering.Polls
import EdlinkRostering.Severities

/-! ### Values that can be stored -/

/-- The text can be sent as a text. -/
def storesText (text : String) : Bool := !text.toList.contains '\x00'

namespace Json

mutual

/-- The document can be cast to JSONB. -/
def storable : Json → Bool
  | .null | .bool _ | .int _ => true
  | .float r => r ≠ "nan" && r ≠ "inf" && r ≠ "-inf"
  | .str s => storesText s
  | .arr elems => storableList elems
  | .obj fields => storableFields fields

def storableList : List Json → Bool
  | [] => true
  | v :: vs => storable v && storableList vs

def storableFields : List (String × Json) → Bool
  | [] => true
  | (k, v) :: rest => storesText k && storable v && storableFields rest

end

theorem storableFields_append (a b : Dict) :
    storableFields (a ++ b) = (storableFields a && storableFields b) := by
  induction a with
  | nil => rfl
  | cons field a ih =>
    obtain ⟨k, v⟩ := field
    rw [List.cons_append, storableFields, storableFields, ih]
    simp only [Bool.and_assoc]

end Json

/-- A value bound to a statement.  Numbers, flags, instants, the ids of jobs and the literals
of the source can always be stored and are left out. -/
inductive Bound where
  | text (value : Option String)
  | date (value : Option DateField)
  | json (value : Json)
  | detail (fields : List (String × DetailValue))

namespace Bound

def storable : Bound → Bool
  | .text value => value.all storesText
  | .date (some (.text s)) => storesText s
  | .date _ => true
  | .json value => value.storable
  | .detail fields => fields.all fun field =>
      match field.2 with
      | .text value => value.all storesText
      | .flag _ | .number _ => true

@[simp] theorem storable_text (value : Option String) :
    (Bound.text value).storable = value.all storesText := rfl

@[simp] theorem storable_json (value : Json) : (Bound.json value).storable = value.storable := rfl

end Bound

/-- A statement, under the name of the function that sends it. -/
structure Statement where
  helper : String
  bound : List (String × Bound)

/-- Every value of the statement can be stored. -/
def Statement.storable (statement : Statement) : Bool := statement.bound.all (·.2.storable)

/-- What else the database makes of a statement. -/
structure Storage where
  takes : Statement → Bool

namespace Storage

/-- A database without further limits. -/
def reference : Storage where
  takes _ := true

/-- The statement does not raise on account of what it is sent. -/
def accepts (storage : Storage) (statement : Statement) : Bool :=
  statement.storable && storage.takes statement

end Storage

/-! ### The statements of a page -/

namespace Statement

def readCursor (leaId : LeaId) (partner : String) : Statement :=
  ⟨"_read_cursor", [("lea_id", .text leaId), ("partner", .text partner)]⟩

def readKnownStudentIds (leaId : LeaId) : Statement :=
  ⟨"_read_known_student_ids", [("lea_id", .text leaId)]⟩

def readLiveStudentCount (leaId : LeaId) : Statement :=
  ⟨"_read_live_student_count", [("lea_id", .text leaId)]⟩

/-- The second query of the function is sent ids alone. -/
def readRecentSyncHistory (leaId : LeaId) (partner : String) : Statement :=
  ⟨"_read_recent_sync_history", [("lea_id", .text leaId), ("partner", .text partner)]⟩

def insertSyncJobRunning (leaId : LeaId) (partner cursorBefore : String) : Statement :=
  ⟨"_insert_sync_job_running",
    [("lea_id", .text leaId), ("partner", .text partner), ("cursor_before", .text cursorBefore)]⟩

/-- One row of the list `_persist_validation_issues` sends. -/
def persistValidationIssue (i : ValidationIssue) : Statement :=
  ⟨"_persist_validation_issues",
    [("payload_reference", .text i.eventId), ("detail", .detail i.detail)]⟩

def markSyncJobFailed (errorSummary : String) : Statement :=
  ⟨"_mark_sync_job_failed", [("error_summary", .text errorSummary)]⟩

def ensureLeaExists (leaId : LeaId) : Statement :=
  ⟨"_ensure_lea_exists",
    [("id", .text leaId), ("name", .text ("LEA " ++ leaId))]⟩

def writeQuarantineRow (leaId : LeaId) (event : NormalizedEvent) : Statement :=
  ⟨"_write_quarantine_row",
    [("lea_id", .text leaId), ("entity_id", .text event.naturalKey),
      ("raw_payload", .json
        (.obj (event.entityPayload ++ [("source_event_id", .str event.sourceEventId)])))]⟩

def latestLiveSourceEventId (leaId : LeaId) (event : NormalizedEvent) : Statement :=
  ⟨"_latest_live_source_event_id", [("lea_id", .text leaId), ("nk", .text event.naturalKey)]⟩

def markPriorSnapshotSuperseded (leaId : LeaId) (event : NormalizedEvent) : Statement :=
  ⟨"_mark_prior_snapshot_superseded", [("lea_id", .text leaId), ("nk", .text event.naturalKey)]⟩

/-- The snapshot of an LEA has no column for the LEA beside its key. -/
def insertSnapshot (leaId : LeaId) (event : NormalizedEvent) : Statement :=
  ⟨"_insert_snapshot",
    ("nk", .text event.naturalKey) ::
      (if event.entityType = .lea then [] else [("lea_id", .text leaId)]) ++
      [("source_event_id", .text event.sourceEventId),
        ("payload", .json (.obj event.entityPayload))]⟩

def upsertStudent (entity : Student) : Statement :=
  ⟨"_upsert_student",
    [("id", .text entity.id), ("lea_id", .text entity.leaId),
      ("given_name", .text entity.givenName), ("family_name", .text entity.familyName),
      ("grade", .text entity.grade),
      ("preferred_first_name", .text entity.preferredFirstName),
      ("primary_school_id", .text entity.primarySchoolId),
      ("external_ids", .json (.obj entity.externalIds))]⟩

def upsertEnrollment (entity : Enrollment) : Statement :=
  ⟨"_upsert_enrollment",
    [("id", .text entity.id), ("lea_id", .text entity.leaId),
      ("student_id", .text entity.studentId), ("class_id", .text entity.classId),
      ("begin_date", .date entity.beginDate), ("end_date", .date entity.endDate)]⟩

def upsertLeaEntity (entity : Lea) : Statement :=
  ⟨"_upsert_lea_entity",
    [("id", .text entity.id), ("name", .text entity.name), ("state", .text entity.state),
      ("nces_lea_id", .text entity.ncesLeaId)]⟩

/-- `_upsert_canonical`; where the `assert` fails nothing is sent. -/
def upsertCanonical (event : NormalizedEvent) : List Statement :=
  match event.entityType, event.entity with
  | .student, .student entity => [upsertStudent entity]
  | .enrollment, .enrollment entity => [upsertEnrollment entity]
  | .lea, .lea entity => [upsertLeaEntity entity]
  | _, _ => []

/-- `_apply_event`: an event that was applied before is only looked up. -/
def applyEvent (pg : Postgres) (leaId : LeaId) (r : Roster) (event : NormalizedEvent) :
    List Statement :=
  latestLiveSourceEventId leaId event ::
    if r.dedups pg leaId event then []
    else markPriorSnapshotSuperseded leaId event :: insertSnapshot leaId event ::
      upsertCanonical event

def markSyncJobSuccess (cursorAfter : String) : Statement :=
  ⟨"_mark_sync_job_success", [("cursor_after", .text cursorAfter)]⟩

/-- An empty cursor is sent as NULL. -/
def upsertCursorState (leaId : LeaId) (partner : String) (cursor : Cursor) : Statement :=
  ⟨"_upsert_cursor_state",
    [("lea_id", .text leaId), ("partner", .text partner),
      ("last_event_id", .text (if cursor.value = "" then none else some cursor.value))]⟩

end Statement

/-- The event loop, as far as the constraints let it get. -/
def eventStatements (pg : Postgres) (leaId : LeaId) (syncJobId : Uuid) (now : Instant)
    (report : ValidationReport) : List NormalizedEvent → Roster → List Statement
  | [], _ => []
  | event :: events, r =>
    if event.eventId ∈ report.quarantinedEventIds then
      .writeQuarantineRow leaId event :: eventStatements pg leaId syncJobId now report events r
    else if event.eventId ∉ report.okEventIds then
      eventStatements pg leaId syncJobId now report events r
    else
      Statement.applyEvent pg leaId r event ++
        match applyEvent pg leaId syncJobId now r event with
        | none => []
        | some (r', _) => eventStatements pg leaId syncJobId now report events r'

namespace PageRun

/-- What is read before the report, and what records it. -/
def openingStatements (run : PageRun) (s : Store) : List Statement :=
  [.readCursor run.leaId run.partner, .readKnownStudentIds run.leaId,
    .readLiveStudentCount run.leaId, .readRecentSyncHistory run.leaId run.partner,
    .insertSyncJobRunning run.leaId run.partner (s.readCursor run.leaId run.partner).value] ++
  (run.report s).issues.map .persistValidationIssue

/-- Every statement of the transaction, in order. -/
def statements (pg : Postgres) (run : PageRun) (s : Store) : List Statement :=
  run.openingStatements s ++
  if (run.report s).pageBlocked then
    [.markSyncJobFailed (summarizeBlockingErrors (run.report s))]
  else
    .ensureLeaExists run.leaId ::
      eventStatements pg run.leaId run.syncJobId run.now (run.report s) run.page.events
        (s.roster.ensureLeaExists run.leaId) ++
      [.markSyncJobSuccess run.page.nextCursor.value,
        .upsertCursorState run.leaId run.partner run.page.nextCursor]

/-- Nothing the transaction sends is refused. -/
def stored (storage : Storage) (pg : Postgres) (run : PageRun) (s : Store) : Bool :=
  (run.statements pg s).all storage.accepts

end PageRun

/-- `_process_one_page` where a statement that is refused raises. -/
def storeOnePage (storage : Storage) (pg : Postgres) (run : PageRun) (s : Store) :
    Option (Store × PageOutcome) :=
  if run.stored storage pg s then processOnePage pg run s else none

theorem storeOnePage_eq_some {storage : Storage} {pg : Postgres} {run : PageRun} {s : Store}
    {result : Store × PageOutcome} : storeOnePage storage pg run s = some result ↔
      run.stored storage pg s = true ∧ processOnePage pg run s = some result := by
  rw [storeOnePage]
  cases run.stored storage pg s <;> simp

namespace Poll

/-- `Poll.exec` where a statement that is refused raises. -/
def execStored (storage : Storage) (pg : Postgres) (leaId : LeaId) (poll : Poll) (s : Store) :
    Store × Option PageOutcome :=
  match poll.page leaId s with
  | none => (s, none)
  | some page =>
    if poll.commits then
      match storeOnePage storage pg (poll.pageRun leaId page) s with
      | none => (s, none)
      | some (s', outcome) => (s', some outcome)
    else (s, none)

/-- The state after the poll. -/
def stepStored (storage : Storage) (pg : Postgres) (leaId : LeaId) (s : Store) (poll : Poll) :
    Store :=
  (poll.execStored storage pg leaId s).1

/-- The poll as it turns out: it loses its transaction if something is refused. -/
def afterStorage (storage : Storage) (pg : Postgres) (leaId : LeaId) (s : Store) (poll : Poll) :
    Poll :=
  { poll with
    commits := poll.commits &&
      (poll.page leaId s).all fun page => (poll.pageRun leaId page).stored storage pg s }

/-- A page that is refused is a transaction that is lost. -/
theorem execStored_eq (storage : Storage) (pg : Postgres) (leaId : LeaId) (poll : Poll)
    (s : Store) : poll.execStored storage pg leaId s
      = (poll.afterStorage storage pg leaId s).exec pg leaId s := by
  have hpage : (poll.afterStorage storage pg leaId s).page leaId s = poll.page leaId s := rfl
  have hrun : ∀ page, (poll.afterStorage storage pg leaId s).pageRun leaId page
      = poll.pageRun leaId page := fun _ => rfl
  rw [execStored, exec, hpage]
  cases h : poll.page leaId s with
  | none => rfl
  | some page =>
    have hcommits : (poll.afterStorage storage pg leaId s).commits
        = (poll.commits && (poll.pageRun leaId page).stored storage pg s) := by
      rw [afterStorage, h]
      rfl
    simp only [hrun, hcommits, storeOnePage]
    cases poll.commits with
    | false => rfl
    | true => cases (poll.pageRun leaId page).stored storage pg s <;> rfl

/-- **Polls of a database that refuses pages are polls that lose transactions**: what is
proved of every run of polls, whichever of them commit, is true of it. -/
theorem run_stepStored (storage : Storage) (pg : Postgres) (leaId : LeaId) (polls : List Poll)
    (s : Store) : ∃ polls', List.Forall₂ (fun poll poll' => ∃ commits,
        poll' = { poll with commits := commits }) polls polls' ∧
      Runs.run (stepStored storage pg leaId) s polls = Runs.run (step pg leaId) s polls' := by
  induction polls generalizing s with
  | nil => exact ⟨[], List.Forall₂.nil, rfl⟩
  | cons poll polls ih =>
    obtain ⟨polls', hpolls, hrun⟩ := ih (poll.stepStored storage pg leaId s)
    refine ⟨poll.afterStorage storage pg leaId s :: polls', List.Forall₂.cons ⟨_, rfl⟩ hpolls, ?_⟩
    have hstep : poll.stepStored storage pg leaId s
        = (poll.afterStorage storage pg leaId s).step pg leaId s :=
      congrArg Prod.fst (execStored_eq storage pg leaId poll s)
    rw [Runs.run_cons, Runs.run_cons, hrun, hstep]

end Poll

/-! ### Pages that can be stored -/

section

variable {event : NormalizedEvent} {leaId : LeaId} {i : ValidationIssue}

/-- The ids of the event and the document of its entity can be stored. -/
def NormalizedEvent.storable (event : NormalizedEvent) : Bool :=
  storesText event.eventId && storesText event.sourceEventId && storesText event.leaId &&
    (Json.obj event.entityPayload).storable

theorem storable_ofOption (value : Option String) :
    (Json.ofOption value).storable = value.all storesText := by
  cases value <;> rfl

@[simp] theorem Statement.storable_persistValidationIssue :
    (Statement.persistValidationIssue i).storable = true ↔
      i.eventId.all storesText = true ∧ (Bound.detail i.detail).storable = true := by
  simp [Statement.storable, Statement.persistValidationIssue]

/-- A document that can be stored is one whose columns can be. -/
theorem storable_student {entity : Student}
    (h : (Json.obj (CanonicalEntity.student entity).payload).storable = true) :
    storesText entity.id = true ∧ storesText entity.leaId = true ∧
      entity.grade.all storesText = true ∧ (Statement.upsertStudent entity).storable = true := by
  simp only [CanonicalEntity.payload, Json.storable, Json.storableFields, storable_ofOption,
    Bool.and_eq_true] at h
  simp [Statement.storable, Statement.upsertStudent, Json.storable, h]

theorem storable_lea {entity : Lea}
    (h : (Json.obj (CanonicalEntity.lea entity).payload).storable = true) :
    storesText entity.id = true ∧ (Statement.upsertLeaEntity entity).storable = true := by
  simp only [CanonicalEntity.payload, Json.storable, Json.storableFields, storable_ofOption,
    Bool.and_eq_true] at h
  simp [Statement.storable, Statement.upsertLeaEntity, h]

theorem storable_enrollment {entity : Enrollment}
    (h : (Json.obj (CanonicalEntity.enrollment entity).payload).storable = true) :
    storesText entity.id = true ∧ storesText entity.leaId = true ∧
      storesText entity.studentId = true ∧ entity.beginDate.jsonSafe.storable = true ∧
      (∀ d ∈ entity.endDate, d.jsonSafe.storable = true) ∧
      (Statement.upsertEnrollment entity).storable = true := by
  simp only [CanonicalEntity.payload, Json.storable, Json.storableFields, Bool.and_eq_true] at h
  obtain ⟨⟨-, hid⟩, ⟨-, hlea⟩, ⟨-, hstudent⟩, ⟨-, hclass⟩, ⟨-, hbegin⟩, ⟨-, hend⟩, -⟩ := h
  have hends : ∀ d ∈ entity.endDate, d.jsonSafe.storable = true := by
    intro d hd
    rw [hd] at hend
    exact hend
  have hdate : ∀ d : DateField, d.jsonSafe.storable = true →
      (Bound.date (some d)).storable = true := by
    intro d hd
    cases d with
    | date d => rfl
    | text s => exact hd
  refine ⟨hid, hlea, hstudent, hbegin, hends, ?_⟩
  have hnone : (Bound.date entity.endDate).storable = true := by
    cases he : entity.endDate with
    | none => rfl
    | some d => exact hdate d (hends d he)
  simp [Statement.storable, Statement.upsertEnrollment, hid, hlea, hstudent, hclass,
    hdate _ hbegin, hnone]

/-- Layer 2 prints ids. -/
theorem storable_issue_of_checkSchema (he : event.storable = true) (hi : i ∈ checkSchema event) :
    (Statement.persistValidationIssue i).storable = true := by
  simp only [NormalizedEvent.storable, Bool.and_eq_true] at he
  obtain ⟨⟨⟨hid, -⟩, hlea⟩, hpayload⟩ := he
  have henvelope : i ∈ checkEnvelope event →
      (Statement.persistValidationIssue i).storable = true := by
    intro hi
    rcases List.mem_append.mp hi with hi | hi
    all_goals
      rw [mem_yieldIf hi]
      simp [NormalizedEvent.issue, Bound.storable, hid]
  have hmismatch : ∀ expected, storesText expected = true → i = entityTypeMismatch event expected →
      (Statement.persistValidationIssue i).storable = true := by
    intro expected hexpected hi
    have hactual : storesText event.entity.typeName = true := by
      cases event.entity with
      | lea _ => exact (by decide : storesText "Lea" = true)
      | student _ => exact (by decide : storesText "Student" = true)
      | enrollment _ => exact (by decide : storesText "Enrollment" = true)
    rw [hi]
    simp [entityTypeMismatch, NormalizedEvent.issue, Bound.storable, hid, hexpected, hactual]
  rw [checkSchema] at hi
  split at hi
  · next student ht hs =>
    rw [NormalizedEvent.entityPayload, hs] at hpayload
    obtain ⟨hstudent, htenant, -⟩ := storable_student hpayload
    rcases List.mem_append.mp hi with hi | hi
    · simp only [checkStudent, List.mem_append, or_assoc] at hi
      rcases hi with hi | hi | hi | hi
      all_goals
        rw [mem_yieldIf hi]
        simp [leaIdMismatch, NormalizedEvent.issue, Bound.storable, hid, hstudent, htenant, hlea]
    · exact henvelope hi
  · exact hmismatch "Student" (by decide) (List.mem_singleton.mp hi)
  · next enrollment ht hs =>
    rw [NormalizedEvent.entityPayload, hs] at hpayload
    obtain ⟨henrollment, htenant, -⟩ := storable_enrollment hpayload
    rcases List.mem_append.mp hi with hi | hi
    · simp only [checkEnrollment, List.mem_append, or_assoc] at hi
      rcases hi with hi | hi | hi | hi
      all_goals
        rw [mem_yieldIf hi]
        simp [leaIdMismatch, NormalizedEvent.issue, Bound.storable, hid, henrollment, htenant,
          hlea]
    · exact henvelope hi
  · exact hmismatch "Enrollment" (by decide) (List.mem_singleton.mp hi)
  · exact henvelope hi
  · rcases List.mem_cons.mp hi with hi | hi
    · exact hmismatch "Lea" (by decide) hi
    · exact henvelope hi

/-- Layer 3 prints ids, the grade and the dates. -/
theorem storable_issue_of_checkParse (he : event.storable = true) (hi : i ∈ checkParse event) :
    (Statement.persistValidationIssue i).storable = true := by
  simp only [NormalizedEvent.storable, Bool.and_eq_true] at he
  obtain ⟨⟨⟨hid, -⟩, -⟩, hpayload⟩ := he
  rw [checkParse] at hi
  split at hi
  · next student ht hs =>
    rw [NormalizedEvent.entityPayload, hs] at hpayload
    obtain ⟨hstudent, -, hgrade, -⟩ := storable_student hpayload
    rw [checkStudentParse] at hi
    split at hi
    · exact absurd hi List.not_mem_nil
    · next grade hg =>
      rw [hg, Option.all_some] at hgrade
      have hconst : storesText "OneRoster 1.2 grade enum" = true := by decide
      rw [mem_yieldIf hi]
      simp [NormalizedEvent.issue, Bound.storable, hid, hstudent, hgrade, hconst]
  · next enrollment ht hs =>
    rw [NormalizedEvent.entityPayload, hs] at hpayload
    obtain ⟨henrollment, -, -, hbegin, hend, -⟩ := storable_enrollment hpayload
    unfold checkEnrollmentParse at hi
    split at hi
    · rw [List.mem_singleton.mp hi]
      simp [NormalizedEvent.issue, Bound.storable, hid, henrollment]
    · exact absurd hi List.not_mem_nil
    · rw [List.mem_singleton.mp hi]
      simp [NormalizedEvent.issue, Bound.storable, hid, henrollment]
    · next b e hb hn =>
      rw [hb] at hbegin
      replace hbegin : storesText b.isoformat = true := hbegin
      have hends : storesText e.isoformat = true := hend _ hn
      rw [mem_yieldIf hi]
      simp [NormalizedEvent.issue, Bound.storable, hid, henrollment, hbegin, hends]
  · exact absurd hi List.not_mem_nil

/-- Layer 4 prints ids. -/
theorem storable_issue_of_checkReferential {events : List NormalizedEvent}
    {known : List StudentId} (hcleared : ∀ e ∈ events, e.Cleared)
    (hevents : ∀ e ∈ events, e.storable = true) (hi : i ∈ (checkReferential events known).1) :
    (Statement.persistValidationIssue i).storable = true := by
  induction events generalizing known with
  | nil => exact absurd hi List.not_mem_nil
  | cons event events ih =>
    have hrest : ∀ known, i ∈ (checkReferential events known).1 →
        (Statement.persistValidationIssue i).storable = true := by
      intro known hi
      exact ih (fun e he => hcleared e (List.mem_cons_of_mem _ he))
        (fun e he => hevents e (List.mem_cons_of_mem _ he)) hi
    rw [checkReferential] at hi
    split at hi
    · exact hrest _ hi
    · exact hrest _ hi
    · next ht =>
      split at hi
      · exact hrest _ hi
      · rcases List.mem_cons.mp hi with rfl | hi
        · -- Layer 2 vouches for the enrollment
          obtain ⟨enrollment, _, _, hs, -⟩ :=
            cleared_enrollment (hcleared event List.mem_cons_self) ht
          have he := hevents event List.mem_cons_self
          simp only [NormalizedEvent.storable, Bool.and_eq_true] at he
          obtain ⟨⟨⟨hid, -⟩, hlea⟩, hpayload⟩ := he
          rw [NormalizedEvent.entityPayload, hs] at hpayload
          obtain ⟨henrollment, -, hstudent, -⟩ := storable_enrollment hpayload
          simp [NormalizedEvent.issue, Bound.storable, hs, CanonicalEntity.id,
            CanonicalEntity.studentId, hid, hlea, henrollment, hstudent]
        · exact hrest _ hi

/-- Layer 5 prints the LEA and numbers. -/
theorem storable_issue_of_checkThresholds {page : EventPage} {state : LEAState}
    (hlea : storesText state.leaId = true) (hi : i ∈ checkThresholds page state) :
    (Statement.persistValidationIssue i).storable = true := by
  have hnote : storesText "Spike thresholds suppressed until enough history is available."
      = true := by decide
  rw [checkThresholds] at hi
  split at hi
  · rcases List.mem_cons.mp hi with rfl | hi
    · simp [thresholdIssue, Bound.storable, hlea]
    · rw [List.mem_singleton.mp hi]
      simp [thresholdIssue, Bound.storable, hlea, hnote]
  · simp only [List.mem_append, List.mem_singleton, or_assoc] at hi
    rcases hi with rfl | hi | hi | hi
    · simp [thresholdIssue, Bound.storable, hlea]
    all_goals
      rw [mem_yieldIf hi]
      simp [thresholdIssue, Bound.storable, hlea]

/-- What an event that can be stored is known to hold. -/
theorem storable_event (he : event.storable = true) :
    storesText event.sourceEventId = true ∧ storesText event.naturalKey = true ∧
      (Json.obj event.entityPayload).storable = true ∧
      ∀ statement ∈ Statement.upsertCanonical event, statement.storable = true := by
  simp only [NormalizedEvent.storable, Bool.and_eq_true] at he
  obtain ⟨⟨⟨-, hsource⟩, -⟩, hpayload⟩ := he
  refine ⟨hsource, ?_, hpayload, fun statement h => ?_⟩
  · rw [NormalizedEvent.naturalKey]
    rw [NormalizedEvent.entityPayload] at hpayload
    cases hs : event.entity with
    | lea entity => exact (storable_lea (hs ▸ hpayload)).1
    | student entity => exact (storable_student (hs ▸ hpayload)).1
    | enrollment entity => exact (storable_enrollment (hs ▸ hpayload)).1
  · rw [NormalizedEvent.entityPayload] at hpayload
    rw [Statement.upsertCanonical] at h
    split at h
    · next hs => rw [List.mem_singleton.mp h]; exact (storable_student (hs ▸ hpayload)).2.2.2
    · next hs =>
      rw [List.mem_singleton.mp h]
      exact (storable_enrollment (hs ▸ hpayload)).2.2.2.2.2
    · next hs => rw [List.mem_singleton.mp h]; exact (storable_lea (hs ▸ hpayload)).2
    · exact absurd h List.not_mem_nil

/-- Nothing an event sends is refused. -/
theorem storable_of_mem_applyEvent {pg : Postgres} {r : Roster} {statement : Statement}
    (hlea : storesText leaId = true) (he : event.storable = true)
    (h : statement ∈ Statement.applyEvent pg leaId r event) : statement.storable = true := by
  obtain ⟨hsource, hkey, hpayload, hcanonical⟩ := storable_event he
  rcases List.mem_cons.mp h with rfl | h
  · simp [Statement.storable, Statement.latestLiveSourceEventId, hlea, hkey]
  split at h
  · exact absurd h List.not_mem_nil
  rcases List.mem_cons.mp h with rfl | h
  · simp [Statement.storable, Statement.markPriorSnapshotSuperseded, hlea, hkey]
  rcases List.mem_cons.mp h with rfl | h
  · rw [Statement.storable, Statement.insertSnapshot]
    split
    · simp [hkey, hsource, hpayload]
    · simp [hlea, hkey, hsource, hpayload]
  · exact hcanonical statement h

theorem storable_of_mem_eventStatements {pg : Postgres} {syncJobId : Uuid} {now : Instant}
    {report : ValidationReport} {events : List NormalizedEvent} {r : Roster}
    {statement : Statement} (hlea : storesText leaId = true)
    (hevents : ∀ e ∈ events, e.storable = true)
    (h : statement ∈ eventStatements pg leaId syncJobId now report events r) :
    statement.storable = true := by
  induction events generalizing r with
  | nil => exact absurd h List.not_mem_nil
  | cons event events ih =>
    have he := hevents event List.mem_cons_self
    have hrest : ∀ {r}, statement ∈ eventStatements pg leaId syncJobId now report events r →
        statement.storable = true :=
      fun h => ih (fun e he => hevents e (List.mem_cons_of_mem _ he)) h
    rw [eventStatements] at h
    split at h
    · rcases List.mem_cons.mp h with rfl | h
      · obtain ⟨hsource, hkey, hpayload, -⟩ := storable_event he
        have hfield : storesText "source_event_id" = true := by decide
        rw [Json.storable] at hpayload
        simp [Statement.storable, Statement.writeQuarantineRow, Json.storable,
          Json.storableFields_append, Json.storableFields, hlea, hkey, hpayload, hsource, hfield]
      · exact hrest h
    split at h
    · exact hrest h
    rcases List.mem_append.mp h with h | h
    · exact storable_of_mem_applyEvent hlea he h
    split at h
    · exact absurd h List.not_mem_nil
    · exact hrest h

end

section

variable {run : PageRun} {s : Store}

/-- Every row of the report can be stored. -/
theorem storable_issue {i : ValidationIssue} (hok : run.page.layer1Check.ok = true)
    (hlea : storesText run.leaId = true) (hevents : ∀ e ∈ run.page.events, e.storable = true)
    (hi : i ∈ (run.report s).issues) : (Statement.persistValidationIssue i).storable = true := by
  have hissues : (run.report s).issues = (rejectedIds run.page).1 ++
      (checkReferential (surviving run.page)
        (s.leaState run.leaId run.partner).knownStudentIds).1 ++
      checkThresholds run.page (s.leaState run.leaId run.partner) := by
    rw [PageRun.report, runPipeline, if_pos hok]
  rw [hissues, List.mem_append, List.mem_append] at hi
  rcases hi with (hi | hi) | hi
  · rcases exists_of_mem_layer3_issues hi with hi | ⟨e, he, hi⟩
    · rcases mem_layer2_issues.mp hi with hi | ⟨e, he, hi⟩
      · exact absurd hi List.not_mem_nil
      · exact storable_issue_of_checkSchema (hevents e he) hi
    · exact storable_issue_of_checkParse (hevents e he) hi
  · refine storable_issue_of_checkReferential (fun e he => ?_) (fun e he => ?_) hi
    · -- the events that survive cleared Layers 2 and 3
      obtain ⟨hmem, hkept⟩ := List.mem_filter.mp he
      by_contra hno
      exact (of_decide_eq_true hkept) (mem_rejectedIds.mpr ⟨e, hmem, rfl, hno⟩)
    · exact hevents e (List.mem_filter.mp he).1
  · exact storable_issue_of_checkThresholds hlea hi

/-- **A page whose texts can be stored is not refused**, as far as they decide it. -/
theorem PageRun.storable_of_mem_statements {pg : Postgres} {statement : Statement}
    (hok : run.page.layer1Check.ok = true) (hlea : storesText run.leaId = true)
    (hpartner : storesText run.partner = true)
    (hbefore : storesText (s.readCursor run.leaId run.partner).value = true)
    (hafter : storesText run.page.nextCursor.value = true)
    (hevents : ∀ e ∈ run.page.events, e.storable = true)
    (h : statement ∈ run.statements pg s) : statement.storable = true := by
  have hb : (run.report s).pageBlocked = false := pageBlocked_runPipeline hok
  rw [statements, hb, if_neg (by simp)] at h
  rcases List.mem_append.mp h with h | h
  · rcases List.mem_append.mp h with h | h
    · simp only [List.mem_cons, List.not_mem_nil, or_false] at h
      rcases h with rfl | rfl | rfl | rfl | rfl
      · simp [Statement.storable, Statement.readCursor, hlea, hpartner]
      · simp [Statement.storable, Statement.readKnownStudentIds, hlea]
      · simp [Statement.storable, Statement.readLiveStudentCount, hlea]
      · simp [Statement.storable, Statement.readRecentSyncHistory, hlea, hpartner]
      · simp [Statement.storable, Statement.insertSyncJobRunning, hlea, hpartner, hbefore]
    · obtain ⟨i, hi, rfl⟩ := List.mem_map.mp h
      exact storable_issue hok hlea hevents hi
  rcases List.mem_append.mp h with h | h
  · rcases List.mem_cons.mp h with rfl | h
    · have hname : storesText ("LEA " ++ run.leaId) = true := by
        have hprefix : ("LEA " : String).toList.contains '\x00' = false := by decide
        rw [storesText, String.toList_append, List.contains_append, hprefix, Bool.false_or]
        exact hlea
      simp [Statement.storable, Statement.ensureLeaExists, hlea, hname]
    · exact storable_of_mem_eventStatements hlea hevents h
  · simp only [List.mem_cons, List.not_mem_nil, or_false] at h
    rcases h with rfl | rfl
    · simp [Statement.storable, Statement.markSyncJobSuccess, hafter]
    · by_cases hempty : run.page.nextCursor.value = ""
      · simp [Statement.storable, Statement.upsertCursorState, hlea, hpartner, hempty]
      · simp [Statement.storable, Statement.upsertCursorState, hlea, hpartner, hempty, hafter]

end
