/-
The EdLink connector: pages of events, and the walk over the resource endpoints.

Transcribed from `connectors/edlink/client.py` and `connectors/edlink/connector.py`.
The client serves a page of the partner's event log and a page of one of the five
resource listings; both are arguments here.  A `none` is an exception of Python: a
missing key, an index into the wrong kind of value, a date that does not parse.
Logging is not modelled.

* `fetchChanges` — one page after the cursor, normalized;
* `walkResources` — the partner's side of a reconciliation, in canonical columns;
* `walkPages_eq` — the page loop of the walk projects the whole listing.
-/
import EdlinkRostering.Reconciliation

/-! ### Reading JSON -/

namespace Json

/-- Iterating over a value; a number or a constant is not iterable. -/
def iterate : Json → Option (List Json)
  | .arr elems => some elems
  | .obj fields => some (fields.map fun f => .str f.1)
  | .str s => some (s.toList.map fun c => .str (String.ofList [c]))
  | _ => none

/-- `value[0]`; the keys of a dict are texts. -/
def first : Json → Option Json
  | .arr (v :: _) => some v
  | .str s => s.toList.head?.map fun c => .str (String.ofList [c])
  | _ => none

/-- The text under which `json.dumps` writes a dict key; `none` is unhashable. -/
def keyText : Json → Option String
  | .str s => some s
  | .null => some "null"
  | .bool b => some (if b then "true" else "false")
  | .int n => some (toString n)
  | .float r => some r
  | .arr _ | .obj _ => none

end Json

namespace Dict

/-- `data.get(key) or default`. -/
def getOr (d : Dict) (key : String) (default : Json) : Json :=
  match d.get? key with
  | some v => if v.truthy then v else default
  | none => default

/-- `d[key] = value`. -/
def set (d : Dict) (key : String) (value : Json) : Dict :=
  if (d.get? key).isSome then d.map fun kv => if kv.1 = key then (key, value) else kv
  else d ++ [(key, value)]

/-- `dict(value)`: a dict, or the pairs of an iterable. -/
def ofValue : Json → Option Dict
  | .obj fields => some fields
  | value => do
    let items ← value.iterate
    items.foldlM (fun d item => do
      let [k, v] ← item.iterate | none
      let key ← k.keyText
      some (d.set key v)) []

end Dict

/-! ### The client -/

/-- One event from the Events API. -/
structure EdLinkEvent where
  id : String
  date : Instant
  type : String
  data : Dict
deriving DecidableEq

structure EdLinkEventsResponse where
  events : List EdLinkEvent
  hasMore : Bool
  layer1 : Layer1Result
  nextToken : Option String

/-- `_slice_start`: an unknown cursor is past the end. -/
def sliceStart (events : List EdLinkEvent) (after : String) : Nat :=
  if after = "" then 0
  else match events.findIdx? fun evt => evt.id = after with
    | some i => i + 1
    | none => events.length

/-- `get_events` on the LEA's log; `after = None` is the empty text. -/
def getEvents (log : List EdLinkEvent) (after : String) (limit : Nat) : EdLinkEventsResponse :=
  let start := sliceStart log after
  let page := (log.drop start).take limit
  { events := page
    hasMore := start + limit < log.length
    layer1 := { ok := true, httpStatus := 200, contentType := "application/json"
                bodyWellFormed := true }
    nextToken := page.getLast?.map (·.id) }

structure EdLinkResourcesResponse where
  resources : List Dict
  hasMore : Bool
  nextToken : Option Nat

/-- `get_resources` on the listing of one endpoint.  A token is an offset, written in
digits; no token is the offset 0. -/
def getResources (entries : List Dict) (first : Nat) (nextToken : Nat) :
    EdLinkResourcesResponse :=
  let page := (entries.drop nextToken).take first
  let stop := nextToken + page.length
  let hasMore := decide (stop < entries.length)
  { resources := page, hasMore := hasMore, nextToken := if hasMore then some stop else none }

/-! ### Event mapping -/

/-- `_OPERATION_BY_ACTION.get`. -/
def operationByAction : String → Option Operation
  | "created" => some .created
  | "updated" => some .updated
  | "deleted" => some .deleted
  | _ => none

def handledEntities : List String := ["person", "enrollment"]

def knownUnmappedEntities : List String := ["class", "term", "org"]

namespace EdLinkEvent

/-- The text of `type` before the first dot. -/
def entityWord (event : EdLinkEvent) : String :=
  String.ofList (event.type.toList.takeWhile (· ≠ '.'))

/-- The text of `type` after the first dot. -/
def actionWord (event : EdLinkEvent) : String :=
  String.ofList (event.type.toList.dropWhile (· ≠ '.')).tail

end EdLinkEvent

/-- `_is_student_role`. -/
def isStudentRole : Json → Bool
  | .obj role => Dict.get? role "role" = some (.str "student")
  | role => role = .str "student"

/-- `_extract_ref_id`. -/
def extractRefId : Json → Option String
  | .obj ref => (Dict.get? ref "sourcedId").map Json.pyStr
  | ref => some ref.pyStr

/-- `_extract_primary_org_id(data.get(key))`. -/
def extractPrimaryOrgId (data : Dict) (key : String) : Option (Option String) :=
  match data.get? key with
  | none | some .null => some none
  | some ref => (extractRefId ref).map some

/-- `_optional_str(data.get(key))`, and `_optional_iso_date`, which does the same. -/
def optionalStr (data : Dict) (key : String) : Option String :=
  match data.get? key with
  | none | some .null => none
  | some value => some value.pyStr

/-- `str(data.get(key, ""))`. -/
def strOrEmpty (data : Dict) (key : String) : String := ((data.get? key).map Json.pyStr).getD ""

/-- `str(data["sourcedId"])`. -/
def sourcedId (data : Dict) : Option String := (data.get? "sourcedId").map Json.pyStr

/-- `_parse_date(data.get(key))`. -/
def parseDate (data : Dict) (key : String) : Option Date :=
  (optionalStr data key).bind Date.fromisoformat

/-- `_parse_date_optional(data.get(key))`. -/
def parseDateOptional (data : Dict) (key : String) : Option (Option Date) :=
  match optionalStr data key with
  | none => some none
  | some value => (Date.fromisoformat value).map some

/-- `any(_is_student_role(r) for r in data.get("roles") or [])`. -/
def hasStudentRole (data : Dict) : Option Bool :=
  ((data.getOr "roles" (.arr [])).iterate).map fun roles => roles.any isStudentRole

/-- `grades[0] if grades else None` with `grades = data.get("grades") or []`. -/
def firstGrade (data : Dict) : Option (Option Json) :=
  let grades := data.getOr "grades" (.arr [])
  if grades.truthy then grades.first.map some else some none

/-- `_person_to_student`; the inner `none` is a person who is not a student. -/
def personToStudent (data : Dict) (leaId : LeaId) : Option (Option Student) := do
  if ← hasStudentRole data then
    let grade ← firstGrade data
    let primarySchoolId ← extractPrimaryOrgId data "primaryOrg"
    let id ← sourcedId data
    let externalIds ← Dict.ofValue (data.getOr "userIds" (.obj []))
    some (some
      { id := id
        leaId := leaId
        givenName := strOrEmpty data "givenName"
        familyName := strOrEmpty data "familyName"
        grade := grade.bind fun grade => if grade = .null then none else some grade.pyStr
        preferredFirstName := optionalStr data "preferredFirstName"
        primarySchoolId := primarySchoolId
        externalIds := externalIds })
  else some none

/-- `_enrollment_to_canonical`. -/
def enrollmentToCanonical (data : Dict) (leaId : LeaId) : Option Enrollment := do
  let id ← sourcedId data
  let studentId ← (data.get? "user").bind extractRefId
  let classId ← (data.get? "class").bind extractRefId
  let beginDate ← parseDate data "beginDate"
  let endDate ← parseDateOptional data "endDate"
  some
    { id := id, leaId := leaId, studentId := studentId, classId := classId
      beginDate := .date beginDate, endDate := endDate.map .date }

/-- The envelope `_normalize` puts around an entity. -/
def EdLinkEvent.envelope (event : EdLinkEvent) (leaId : LeaId) (operation : Operation)
    (entityType : EntityType) (entity : CanonicalEntity) : NormalizedEvent where
  eventId := event.id
  leaId := leaId
  entityType := entityType
  operation := operation
  entity := entity
  sourceEventId := event.id
  occurredAt := event.date

/-- `_normalize`; the inner `none` is an event that is dropped. -/
def EdLinkEvent.normalize (event : EdLinkEvent) (leaId : LeaId) :
    Option (Option NormalizedEvent) :=
  if event.entityWord ∉ handledEntities ∧ event.entityWord ∉ knownUnmappedEntities then some none
  else match operationByAction event.actionWord with
    | none => some none
    | some operation =>
      if event.entityWord = "person" then
        (personToStudent event.data leaId).map fun entity =>
          entity.map fun student => event.envelope leaId operation .student (.student student)
      else if event.entityWord = "enrollment" then
        (enrollmentToCanonical event.data leaId).map fun entity =>
          some (event.envelope leaId operation .enrollment (.enrollment entity))
      else some none

/-- A loop that appends what its body returns, unless that is `None`. -/
def collect {α β : Type} (f : α → Option (Option β)) : List α → Option (List β)
  | [] => some []
  | a :: rest => do
    let b ← f a
    let collected ← collect f rest
    some (b.toList ++ collected)

/-- The loop of `fetch_changes`: the events that are not dropped, in order. -/
def normalizeAll (leaId : LeaId) (events : List EdLinkEvent) : Option (List NormalizedEvent) :=
  collect (fun event => event.normalize leaId) events

/-- `response.next_token or since.value`. -/
def tokenOr (nextToken : Option String) (value : String) : String :=
  match nextToken with
  | none => value
  | some token => if token = "" then value else token

/-- `fetch_changes`. -/
def fetchChanges (log : List EdLinkEvent) (leaId : LeaId) (since : Cursor) (pageSize : Nat) :
    Option EventPage := do
  let response := getEvents log since.value pageSize
  let normalized ← normalizeAll leaId response.events
  some
    { events := normalized
      nextCursor :=
        { value := tokenOr response.nextToken since.value
          observedAt := match response.events.getLast? with
            | none => since.observedAt
            | some event => some event.date }
      hasMore := response.hasMore
      layer1Check := response.layer1 }

/-! ### The walk -/

/-- A text or `None` in a projected row. -/
def SnapshotValue.ofOption (v : Option String) : SnapshotValue :=
  .json (.ofOption v) (by cases v <;> rfl)

/-- A text in a projected row. -/
def SnapshotValue.str (s : String) : SnapshotValue := .ofOption (some s)

/-- `_project_student`; the inner `none` is a person who is not a student. -/
def projectStudent (person : Dict) : Option (Option SnapshotEntry) := do
  if ← hasStudentRole person then
    let grade ← firstGrade person
    let primarySchoolId ← extractPrimaryOrgId person "primaryOrg"
    let id ← sourcedId person
    some (some
      [("id", .str id), ("given_name", .str (strOrEmpty person "givenName")),
        ("family_name", .str (strOrEmpty person "familyName")),
        ("grade", .ofOption (grade.map Json.pyStr)),
        ("preferred_first_name", .ofOption (optionalStr person "preferredFirstName")),
        ("primary_school_id", .ofOption primarySchoolId)])
  else some none

/-- `_project_enrollment`. -/
def projectEnrollment (raw : Dict) : Option (Option SnapshotEntry) := do
  let id ← sourcedId raw
  let studentId ← (raw.get? "user").bind extractRefId
  let classId ← (raw.get? "class").bind extractRefId
  some (some
    [("id", .str id), ("student_id", .str studentId), ("class_id", .str classId),
      ("begin_date", .ofOption (optionalStr raw "beginDate")),
      ("end_date", .ofOption (optionalStr raw "endDate"))])

/-- `_project_class`. -/
def projectClass (raw : Dict) : Option (Option SnapshotEntry) := do
  let id ← sourcedId raw
  let schoolId ← extractPrimaryOrgId raw "school"
  let termId ← extractPrimaryOrgId raw "term"
  some (some
    [("id", .str id), ("title", .str (strOrEmpty raw "title")),
      ("course_code", .ofOption (optionalStr raw "classCode")), ("school_id", .ofOption schoolId),
      ("term_id", .ofOption termId)])

/-- `_project_academic_session`. -/
def projectAcademicSession (raw : Dict) : Option (Option SnapshotEntry) := do
  let id ← sourcedId raw
  some (some
    [("id", .str id), ("title", .str (strOrEmpty raw "title")),
      ("session_type", .ofOption (optionalStr raw "type")),
      ("school_year", .ofOption (optionalStr raw "schoolYear")),
      ("start_date", .ofOption (optionalStr raw "startDate")),
      ("end_date", .ofOption (optionalStr raw "endDate"))])

/-- `org_type is None or str(org_type) == "school"`. -/
def isSchool (org : Dict) : Bool := (optionalStr org "type").all (· = "school")

/-- `_project_school`; the inner `none` is an org that is not a school. -/
def projectSchool (raw : Dict) : Option (Option SnapshotEntry) := do
  if isSchool raw then
    let id ← sourcedId raw
    let parentOrgId ← extractPrimaryOrgId raw "parent"
    some (some
      [("id", .str id), ("name", .str (strOrEmpty raw "name")),
        ("school_code", .ofOption (optionalStr raw "identifier")),
        ("parent_org_id", .ofOption parentOrgId)])
  else some none

/-- `_project_resource`. -/
def projectResource : EntityFamily → Dict → Option (Option SnapshotEntry)
  | .students => projectStudent
  | .enrollments => projectEnrollment
  | .classes => projectClass
  | .academicSessions => projectAcademicSession
  | .schools => projectSchool

/-- The endpoint a family is listed at. -/
def EntityFamily.resource : EntityFamily → String
  | .students => "people"
  | .enrollments => "enrollments"
  | .classes => "classes"
  | .academicSessions => "academic_sessions"
  | .schools => "orgs"

/-- `_RESOURCE_WALK`. -/
def resourceWalk : List EntityFamily :=
  [.students, .enrollments, .classes, .academicSessions, .schools]

def resourcePageSize : Nat := 100

/-- The rows of one page that belong in the canonical table. -/
def projectAll (family : EntityFamily) (rows : List Dict) : Option (List SnapshotEntry) :=
  collect (projectResource family) rows

/-- The page loop over one endpoint, from a token on. -/
def walkPages (family : EntityFamily) (entries : List Dict) (nextToken : Nat) :
    Option (List SnapshotEntry) := do
  let response := getResources entries resourcePageSize nextToken
  let collected ← projectAll family response.resources
  if _h : response.hasMore then
    let rest ← walkPages family entries (response.nextToken.getD 0)
    some (collected ++ rest)
  else some collected
termination_by entries.length - nextToken
decreasing_by
  -- a page that is not the last one is not empty
  have hmore : nextToken + ((entries.drop nextToken).take resourcePageSize).length
      < entries.length := by
    simpa [response, getResources] using _h
  have htoken : response.nextToken
      = some (nextToken + ((entries.drop nextToken).take resourcePageSize).length) := by
    simp only [response, getResources]
    rw [if_pos (decide_eq_true hmore)]
  have hlen : ((entries.drop nextToken).take resourcePageSize).length
      = min resourcePageSize (entries.length - nextToken) := by simp
  rw [htoken, Option.getD_some]
  rw [hlen, resourcePageSize] at hmore ⊢
  omega

/-- `walk_resources`, over what the endpoints list. -/
def walkResources (resources : String → List Dict) : Option SnapshotPayload :=
  resourceWalk.mapM fun family =>
    (walkPages family (resources family.resource) 0).map fun rows => (family.name, rows)

/-! ### Loops that skip -/

section

variable {α β : Type} {f : α → Option (Option β)} {l l' : List α} {collected : List β}

theorem collect_eq_some : collect f l = some collected ↔
    (∀ a ∈ l, (f a).isSome = true) ∧ collected = l.filterMap fun a => (f a).join := by
  induction l generalizing collected with
  | nil =>
    constructor
    · intro h
      exact ⟨fun a ha => absurd ha List.not_mem_nil, (Option.some.inj h).symm⟩
    · rintro ⟨-, rfl⟩
      rfl
  | cons a l ih =>
    simp only [collect, Option.bind_eq_bind, Option.bind_eq_some_iff, Option.some.injEq]
    constructor
    · rintro ⟨b, hb, rest, hrest, rfl⟩
      obtain ⟨hsome, rfl⟩ := ih.mp hrest
      refine ⟨fun x hx => ?_, ?_⟩
      · rcases List.mem_cons.mp hx with rfl | hx
        · rw [hb]; rfl
        · exact hsome x hx
      · cases b <;> simp [hb]
    · rintro ⟨hsome, rfl⟩
      obtain ⟨b, hb⟩ := Option.isSome_iff_exists.mp (hsome a List.mem_cons_self)
      have hrest := ih.mpr ⟨fun x hx => hsome x (List.mem_cons_of_mem _ hx), rfl⟩
      refine ⟨b, hb, _, hrest, ?_⟩
      cases b <;> simp [hb]

theorem collect_append (f : α → Option (Option β)) (l l' : List α) :
    collect f (l ++ l') = (do
      let first ← collect f l
      let second ← collect f l'
      some (first ++ second)) := by
  induction l with
  | nil =>
    show collect f l' = (collect f l').bind fun second => some ([] ++ second)
    simp
  | cons a l ih =>
    rw [List.cons_append, collect, collect, ih]
    simp only [Option.bind_eq_bind, Option.bind_assoc, Option.bind_some, List.append_assoc]

end

/-! ### What a page is -/

section

variable {log events : List EdLinkEvent} {leaId : LeaId} {since : Cursor} {pageSize : Nat}
  {page : EventPage} {normalized : List NormalizedEvent}

/-- The events the connector makes of a log. -/
def mapped (leaId : LeaId) (log : List EdLinkEvent) : List NormalizedEvent :=
  log.filterMap fun event => (event.normalize leaId).join

/-- No event of the log makes the connector raise. -/
def Readable (leaId : LeaId) (log : List EdLinkEvent) : Prop :=
  ∀ event ∈ log, (event.normalize leaId).isSome = true

theorem normalizeAll_eq_some :
    normalizeAll leaId events = some normalized ↔
      Readable leaId events ∧ normalized = mapped leaId events :=
  collect_eq_some

/-- **What `fetch_changes` returns**: the events after the cursor, as many as fit. -/
theorem fetchChanges_eq_some (h : fetchChanges log leaId since pageSize = some page) :
    let raw := (log.drop (sliceStart log since.value)).take pageSize
    Readable leaId raw ∧ page.events = mapped leaId raw ∧
      page.nextCursor.value = tokenOr (raw.getLast?.map (·.id)) since.value ∧
      page.hasMore = decide (sliceStart log since.value + pageSize < log.length) ∧
      page.layer1Check.ok = true := by
  simp only [fetchChanges, Option.bind_eq_bind, Option.bind_eq_some_iff] at h
  obtain ⟨normalized, hall, h⟩ := h
  obtain ⟨hread, rfl⟩ := normalizeAll_eq_some.mp hall
  rw [← Option.some.inj h]
  exact ⟨hread, rfl, rfl, rfl, rfl⟩

theorem mapped_append (leaId : LeaId) (log log' : List EdLinkEvent) :
    mapped leaId (log ++ log') = mapped leaId log ++ mapped leaId log' :=
  List.filterMap_append

end

/-! ### What the walk is -/

/-- **The page loop loses nothing**: it projects the whole listing. -/
theorem walkPages_eq (family : EntityFamily) (entries : List Dict) (nextToken : Nat) :
    walkPages family entries nextToken = projectAll family (entries.drop nextToken) := by
  induction nextToken using walkPages.induct entries with
  | case1 nextToken response ih =>
    have hpage : response.resources = (entries.drop nextToken).take resourcePageSize := rfl
    have hlen : response.resources.length
        = min resourcePageSize (entries.length - nextToken) := by
      rw [hpage, List.length_take, List.length_drop]
    rw [walkPages]
    by_cases hmore : nextToken + response.resources.length < entries.length
    · have h : response.hasMore = true := decide_eq_true hmore
      have htoken : response.nextToken.getD 0 = nextToken + resourcePageSize := by
        have hstop : response.nextToken = some (nextToken + response.resources.length) := if_pos h
        rw [hstop, Option.getD_some]
        omega
      have hsplit : entries.drop nextToken
          = response.resources ++ entries.drop (nextToken + resourcePageSize) := by
        rw [← List.drop_drop]
        exact (List.take_append_drop _ _).symm
      have hrest := ih h
      rw [htoken] at hrest
      simp only [show getResources entries resourcePageSize nextToken = response from rfl, h,
        dif_pos, htoken, hrest]
      rw [hsplit, projectAll, projectAll, projectAll, collect_append]
    · have h : response.hasMore = false := decide_eq_false hmore
      have hlast : response.resources = entries.drop nextToken := by
        refine hpage.trans (List.take_of_length_le ?_)
        rw [List.length_drop]
        have hpos : 0 < resourcePageSize := by decide
        omega
      simp only [show getResources entries resourcePageSize nextToken = response from rfl, h,
        Bool.false_eq_true, dif_neg, not_false_eq_true, hlast]
      cases projectAll family (entries.drop nextToken) <;> rfl
