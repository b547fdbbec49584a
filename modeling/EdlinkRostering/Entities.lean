/-
The canonical entities, the event envelope and the page.

The types of `canonical/entities.py`, `core/types.py`, `events/envelope.py` and
`connectors/protocol.py`.  Identifiers are `NewType`s over `str` in the source
and are plain strings here.  `entityType` and `entity` are separate fields of an
event, as in the source: nothing but Layer 2 makes them agree.  Python does not
check the annotation of a dataclass field, so a date field holds a `DateField`,
and Layer 3 is what makes it a date.

* `NormalizedEvent.entityPayload` — the JSON record of an entity that its
  snapshot keeps (`_entity_payload`).
-/
import EdlinkRostering.Json
import EdlinkRostering.Date
import Mathlib.Data.String.Basic

abbrev LeaId := String
abbrev StudentId := String
abbrev EnrollmentId := String
abbrev EventId := String

/-- The text of a `uuid.UUID`. -/
abbrev Uuid := String

/-- A `datetime` in UTC, in microseconds. -/
abbrev Instant := Nat

inductive EntityType where
  | lea
  | student
  | enrollment
deriving DecidableEq, Repr

def EntityType.value : EntityType → String
  | .lea => "lea"
  | .student => "student"
  | .enrollment => "enrollment"

inductive LeaType where
  | traditionalDistrict
  | charterLea
  | charterCmo
  | boces
  | stateAgency
deriving DecidableEq, Repr

def LeaType.value : LeaType → String
  | .traditionalDistrict => "traditional_district"
  | .charterLea => "charter_lea"
  | .charterCmo => "charter_cmo"
  | .boces => "boces"
  | .stateAgency => "state_agency"

/-- What stands in a field annotated `date`. -/
inductive DateField where
  | date (d : Date)
  | text (s : String)
deriving DecidableEq

namespace DateField

/-- `_json_safe` on the field: a date becomes its ISO text. -/
def jsonSafe : DateField → Json
  | .date d => .str d.isoformat
  | .text s => .str s

end DateField

structure Lea where
  id : LeaId
  name : String
  leaType : LeaType
  state : String
  ncesLeaId : Option String := none
deriving DecidableEq

structure Student where
  id : StudentId
  leaId : LeaId
  givenName : String
  familyName : String
  grade : Option String := none
  preferredFirstName : Option String := none
  primarySchoolId : Option String := none
  externalIds : Dict := []
deriving DecidableEq

structure Enrollment where
  id : EnrollmentId
  leaId : LeaId
  studentId : StudentId
  classId : String
  beginDate : DateField
  endDate : Option DateField := none
deriving DecidableEq

/-- `CanonicalEntity = Lea | Student | Enrollment`. -/
inductive CanonicalEntity where
  | lea (entity : Lea)
  | student (entity : Student)
  | enrollment (entity : Enrollment)
deriving DecidableEq

namespace CanonicalEntity

/-- `entity.id`, the natural key of every entity. -/
def id : CanonicalEntity → String
  | .lea e => e.id
  | .student e => e.id
  | .enrollment e => e.id

/-- `type(entity).__name__`. -/
def typeName : CanonicalEntity → String
  | .lea _ => "Lea"
  | .student _ => "Student"
  | .enrollment _ => "Enrollment"

/-- `_json_safe(asdict(entity))`. -/
def payload : CanonicalEntity → Dict
  | .lea e =>
    [("id", .str e.id), ("name", .str e.name), ("lea_type", .str e.leaType.value),
      ("state", .str e.state), ("nces_lea_id", .ofOption e.ncesLeaId)]
  | .student e =>
    [("id", .str e.id), ("lea_id", .str e.leaId), ("given_name", .str e.givenName),
      ("family_name", .str e.familyName), ("grade", .ofOption e.grade),
      ("preferred_first_name", .ofOption e.preferredFirstName),
      ("primary_school_id", .ofOption e.primarySchoolId),
      ("external_ids", .obj e.externalIds)]
  | .enrollment e =>
    [("id", .str e.id), ("lea_id", .str e.leaId), ("student_id", .str e.studentId),
      ("class_id", .str e.classId), ("begin_date", e.beginDate.jsonSafe),
      ("end_date", (e.endDate.map DateField.jsonSafe).getD .null)]

end CanonicalEntity

inductive Operation where
  | created
  | updated
  | deleted
deriving DecidableEq, Repr

structure NormalizedEvent where
  eventId : EventId
  leaId : LeaId
  entityType : EntityType
  operation : Operation
  entity : CanonicalEntity
  sourceEventId : String
  occurredAt : Instant
deriving DecidableEq

namespace NormalizedEvent

/-- `_natural_key`. -/
def naturalKey (event : NormalizedEvent) : String := event.entity.id

/-- `_entity_payload`. -/
def entityPayload (event : NormalizedEvent) : Dict := event.entity.payload

/-- `event.operation == Operation.DELETED`. -/
def deletedUpstream (event : NormalizedEvent) : Bool := event.operation = .deleted

end NormalizedEvent

/-- The cursor: the partner's token, empty before the first page. -/
structure Cursor where
  value : String
  observedAt : Option Instant := none
deriving DecidableEq

/-- HTTP response integrity, checked at the connector boundary. -/
structure Layer1Result where
  ok : Bool
  httpStatus : Nat
  contentType : String
  bodyWellFormed : Bool
  error : Option String := none
deriving DecidableEq

structure EventPage where
  events : List NormalizedEvent
  nextCursor : Cursor
  hasMore : Bool
  layer1Check : Layer1Result
deriving DecidableEq

/-- Every event of the page carries the LEA it was fetched for, as the connector
stamps it. -/
def EventPage.ScopedTo (page : EventPage) (leaId : LeaId) : Prop :=
  ∀ event ∈ page.events, event.leaId = leaId

instance (page : EventPage) (leaId : LeaId) : Decidable (page.ScopedTo leaId) := by
  unfold EventPage.ScopedTo; infer_instance
