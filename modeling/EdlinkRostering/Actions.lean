/-
The action endpoints: retry, revert, release and reject.

Transcribed from `api/routers/actions.py`, the two `POST` routes of
`api/routers/quarantine.py`, `api/_lookups.py`, and the parts of `api/auth.py` and
`api/errors.py` they rest on.  A request is a chain of transactions of its own: the queries
of `current_operator`, the lookup of the LEA it acts on, the transactions of
`with_idempotency`, and the service's.  Each query and each service is one step here, and
between them any other request, operation or change of the operators may commit.  The
problem's title and the headers are left out, and so is a token the validator refuses.

* `Server.step` — one step of a request, or of somebody else;
* `Server.does_step` — what it can do;
* `Server.advance_alone` — the queries of a request, undisturbed, are `current_operator`;
* `Server.answer?` — what the client has got.
-/
import EdlinkRostering.System
import EdlinkRostering.AdminReads
import EdlinkRostering.Idempotency

namespace Actions

open Admin (Claims Problem Operator AdminDatabase Role)

/-! ### Requests -/

/-- A `POST`, with its path parameter and its body. -/
inductive Request where
  | retrySync (syncJobId : Uuid) (reason : String) (forced : Bool)
  | revertSync (syncJobId : Uuid) (reason : String)
  | releaseQuarantine (quarantineId : Nat)
  | rejectQuarantine (quarantineId : Nat) (reason : String)
deriving DecidableEq

inductive Route where
  | retrySync
  | revertSync
  | releaseQuarantine
  | rejectQuarantine
deriving DecidableEq

structure RetryResponse where
  syncJobId : Uuid
  leaId : LeaId
  partner : String
  cursorRewoundTo : Option String
  forced : Bool
deriving DecidableEq

structure RevertResponse where
  syncJobId : Uuid
  revertGenerationId : Uuid
  snapshotsRestored : Nat
  canonicalRowsUpdated : Nat
  canonicalRowsSoftDeleted : Nat
deriving DecidableEq

structure QuarantineReleaseResponse where
  quarantineId : Nat
  releaseGenerationId : Uuid
  entityType : String
  entityId : String
deriving DecidableEq

structure QuarantineRejectResponse where
  quarantineId : Nat
  rejectedAt : Instant
deriving DecidableEq

/-- `response_model`. -/
def Route.Response : Route → Type
  | .retrySync => RetryResponse
  | .revertSync => RevertResponse
  | .releaseQuarantine => QuarantineReleaseResponse
  | .rejectQuarantine => QuarantineRejectResponse

/-- `uuid.uuid4()` and the time, where a step draws them. -/
structure Draw where
  uuid : Uuid := ""
  now : Instant := 0

namespace Request

def route : Request → Route
  | .retrySync _ _ _ => .retrySync
  | .revertSync _ _ => .revertSync
  | .releaseQuarantine _ => .releaseQuarantine
  | .rejectQuarantine _ _ => .rejectQuarantine

/-- `request.url.path`. -/
def path : Request → String
  | .retrySync syncJobId _ _ => "/api/v1/syncs/" ++ syncJobId ++ "/retry"
  | .revertSync syncJobId _ => "/api/v1/syncs/" ++ syncJobId ++ "/revert"
  | .releaseQuarantine quarantineId => "/api/v1/quarantine/" ++ toString quarantineId ++ "/release"
  | .rejectQuarantine quarantineId _ => "/api/v1/quarantine/" ++ toString quarantineId ++ "/reject"

/-- `body.model_dump(mode="json")`. -/
def body : Request → Option Dict
  | .retrySync _ reason forced => some [("reason", .str reason), ("forced", .bool forced)]
  | .revertSync _ reason => some [("reason", .str reason)]
  | .releaseQuarantine _ => none
  | .rejectQuarantine _ reason => some [("reason", .str reason)]

/-- `Field(min_length=1)` on the reason. -/
def bodyProblem (request : Request) : Option Problem :=
  if (request.body.bind fun body => body.get? "reason") = some (.str "") then some
    { status := 422
      detail := "[\x7b'type': 'string_too_short', 'loc': ('body', 'reason'), "
        ++ "'msg': 'String should have at least 1 character', 'input': '', "
        ++ "'ctx': \x7b'min_length': 1\x7d\x7d]" }
  else none

/-- `load_sync_job_lea`, `load_quarantine_lea`. -/
def loadLea (s : Store) : Request → Option LeaId
  | .retrySync syncJobId _ _ => (s.syncJobs.lookup syncJobId).map (·.leaId)
  | .revertSync syncJobId _ => (s.syncJobs.lookup syncJobId).map (·.leaId)
  | .releaseQuarantine quarantineId => s.quarantine[quarantineId]?.map (·.leaId)
  | .rejectQuarantine quarantineId _ => s.quarantine[quarantineId]?.map (·.leaId)

def notFound : Request → Problem
  | .retrySync syncJobId _ _ =>
    { status := 404, detail := "sync_job " ++ syncJobId ++ " not found." }
  | .revertSync syncJobId _ =>
    { status := 404, detail := "sync_job " ++ syncJobId ++ " not found." }
  | .releaseQuarantine quarantineId =>
    { status := 404, detail := "quarantine row " ++ toString quarantineId ++ " not found." }
  | .rejectQuarantine quarantineId _ =>
    { status := 404, detail := "quarantine row " ++ toString quarantineId ++ " not found." }

/-- The call of the service, on behalf of an operator. -/
def op (operatorIdentity : String) (draw : Draw) : Request → Op
  | .retrySync syncJobId reason forced =>
    .retry
      { syncJobId := syncJobId, operatorIdentity := operatorIdentity, reason := reason
        forced := forced, now := draw.now }
  | .revertSync syncJobId reason =>
    .revert
      { syncJobId := syncJobId, operatorIdentity := operatorIdentity, reason := reason
        revertGenerationId := draw.uuid, now := draw.now }
  | .releaseQuarantine quarantineId =>
    .release
      { quarantineId := quarantineId, operatorIdentity := operatorIdentity
        releaseGenerationId := draw.uuid, now := draw.now }
  | .rejectQuarantine quarantineId reason =>
    .reject
      { quarantineId := quarantineId, operatorIdentity := operatorIdentity, reason := reason
        now := draw.now }

end Request

/-! ### Problems -/

/-- `_unhandled_exception_handler`. -/
def unexpected : Problem where
  status := 500
  detail := "An unexpected error occurred."

/-- `assert_authorized`. -/
def assertAuthorized (opAuthorized : List LeaId) (target : LeaId) : Option Problem :=
  if target ∈ opAuthorized then none
  else some
    { status := 403
      detail := "Operator is not authorized for LEA " ++ Json.reprStr target ++ "." }

def retryProblem (e : RetryError) : Problem where
  status := match e with
    | .syncJobNotFound _ => 404
    | .refusedRevert _ | .refusedSuccess _ => 409
  detail := e.message

def revertProblem (e : RevertError) : Problem :=
  match e.message with
  | none => unexpected
  | some message =>
    { status := match e with
        | .syncJobNotFound _ => 404
        | .refused _ _ | .database => 409
      detail := message }

def quarantineProblem (e : QuarantineError) : Problem :=
  match e.message with
  | none => unexpected
  | some message =>
    { status := match e with
        | .notFound _ => 404
        | .alreadyResolved _ | .refused _ | .database => 409
      detail := message }

/-- `IdempotencyConflict`. -/
def keyConflict (key : String) : Problem where
  status := 422
  detail := "Idempotency-Key " ++ Json.reprStr key
    ++ " was previously used on this route with a different request body."

/-- `IdempotencyInFlight`. -/
def keyInFlight (key : String) : Problem where
  status := 409
  detail := "An earlier request with Idempotency-Key " ++ Json.reprStr key
    ++ " is still running on this route. Retry shortly."

/-! ### The handler -/

/-- `_work`: the service's transaction and the response made of its outcome. -/
def work (pg : Postgres) (operatorIdentity : String) (draw : Draw) (s : Store) :
    (request : Request) → Except Problem (Store × request.route.Response)
  | .retrySync syncJobId reason forced =>
    let run : RetryRun :=
      { syncJobId := syncJobId, operatorIdentity := operatorIdentity, reason := reason
        forced := forced, now := draw.now }
    match retry run s with
    | .error e => .error (retryProblem e)
    | .ok (s', outcome) => .ok (s',
      ({ syncJobId := outcome.syncJobId, leaId := outcome.leaId, partner := outcome.partner
         cursorRewoundTo := outcome.cursorRewoundTo, forced := outcome.forced } : RetryResponse))
  | .revertSync syncJobId reason =>
    let run : RevertRun :=
      { syncJobId := syncJobId, operatorIdentity := operatorIdentity, reason := reason
        revertGenerationId := draw.uuid, now := draw.now }
    match revert pg run s with
    | .error e => .error (revertProblem e)
    | .ok (s', outcome) => .ok (s',
      ({ syncJobId := outcome.syncJobId, revertGenerationId := outcome.revertGenerationId
         snapshotsRestored := outcome.snapshotsRestored
         canonicalRowsUpdated := outcome.canonicalRowsUpdated
         canonicalRowsSoftDeleted := outcome.canonicalRowsSoftDeleted } : RevertResponse))
  | .releaseQuarantine quarantineId =>
    let run : ReleaseRun :=
      { quarantineId := quarantineId, operatorIdentity := operatorIdentity
        releaseGenerationId := draw.uuid, now := draw.now }
    match release run s with
    | .error e => .error (quarantineProblem e)
    | .ok (s', outcome) => .ok (s',
      ({ quarantineId := outcome.quarantineId, releaseGenerationId := outcome.releaseGenerationId
         entityType := outcome.entityType
         entityId := outcome.entityId } : QuarantineReleaseResponse))
  | .rejectQuarantine quarantineId reason =>
    let run : RejectRun :=
      { quarantineId := quarantineId, operatorIdentity := operatorIdentity, reason := reason
        now := draw.now }
    match reject run s with
    | .error e => .error (quarantineProblem e)
    | .ok (s', outcome) => .ok (s',
      ({ quarantineId := outcome.quarantineId
         rejectedAt := outcome.rejectedAt } : QuarantineRejectResponse))

/-- The handler that returns has carried out its operation. -/
theorem exec_of_work {pg : Postgres} {who : String} {draw : Draw} {s s' : Store}
    {request : Request} {response : request.route.Response}
    (h : work pg who draw s request = .ok (s', response)) :
    s.exec pg (request.op who draw) = s' := by
  cases request with
  | retrySync syncJobId reason forced =>
    simp only [work] at h
    split at h
    · cases h
    · next s₁ outcome hretry =>
      obtain ⟨rfl, -⟩ := Prod.mk.inj (Except.ok.inj h)
      simp only [Request.op, Store.exec, hretry, commit]
  | revertSync syncJobId reason =>
    simp only [work] at h
    split at h
    · cases h
    · next s₁ outcome hrevert =>
      obtain ⟨rfl, -⟩ := Prod.mk.inj (Except.ok.inj h)
      simp only [Request.op, Store.exec, hrevert, commit]
  | releaseQuarantine quarantineId =>
    simp only [work] at h
    split at h
    · cases h
    · next s₁ outcome hrelease =>
      obtain ⟨rfl, -⟩ := Prod.mk.inj (Except.ok.inj h)
      simp only [Request.op, Store.exec, hrelease, commit]
  | rejectQuarantine quarantineId reason =>
    simp only [work] at h
    split at h
    · cases h
    · next s₁ outcome hreject =>
      obtain ⟨rfl, -⟩ := Prod.mk.inj (Except.ok.inj h)
      simp only [Request.op, Store.exec, hreject, commit]

/-! ### The server -/

/-- A request as it arrives, with the claims of its token. -/
structure Call where
  claims : Claims
  request : Request
  idempotencyKey : Option String := none

/-- The primary key of `idempotency_keys`. -/
structure Key where
  operatorId : Uuid
  route : Route
  key : String
deriving DecidableEq

/-- Where a request stands, with the local variables it will still use. -/
inductive Phase (ρ : Type) where
  | waiting
  | loadingRole (operatorId : Uuid)
  | loadingLeas (operatorId : Uuid) (role : Role)
  | locating (op : Operator)
  | working (op : Operator) (target : LeaId)
  /-- Inside `with_idempotency`; `failure` is what the handler raised. -/
  | keyed (op : Operator) (target : LeaId) (failure : Option Problem)
  | answered (answer : Except Problem ρ)
  | died

/-- Not answered yet, and not inside `with_idempotency`. -/
def Phase.early {ρ : Type} : Phase ρ → Bool
  | .keyed _ _ _ | .answered _ | .died => false
  | _ => true

variable {ι : Type} (calls : ι → Call)

/-- A service transaction that a request has committed. -/
structure Commit where
  call : ι
  operator : Operator
  target : LeaId
  draw : Draw
  response : (calls call).request.route.Response
  before : Store
  after : Store

/-- The database, the requests, and beside it, newest first, what they have committed.
`directory` is read for the operators, their roles and grants, and the LEAs. -/
structure Server where
  store : Store
  directory : AdminDatabase
  phase : (i : ι) → Phase (calls i).request.route.Response
  idempotency : (k : Key) → Idempotency.Config ι k.route.Response
  commits : List (Commit calls)

/-- The key of a request of this operator. -/
abbrev keyOf (i : ι) (op : Operator) (key : String) : Key where
  operatorId := op.id
  route := (calls i).request.route
  key := key

/-- `_compute_request_hash`; `digest` is SHA-256 of the JSON text of the two. -/
def requestHash (digest : String → Option Dict → String) (i : ι) : String :=
  digest (calls i).request.path (calls i).request.body

inductive Move (ι : Type) where
  | step (i : ι) (draw : Draw)
  /-- The transaction the request is at raises, and is not committed. -/
  | raise (i : ι)
  | die (i : ι)
  | sweep (olderThan : Nat)
  | tick
  /-- The worker, a bulk load or the command line. -/
  | operation (op : Op)
  /-- A commit that changes the operators, their roles and grants, or the LEAs. -/
  | administer (directory : AdminDatabase)

variable {calls}

namespace Server

/-- No request has arrived. -/
def start (calls : ι → Call) (store : Store) (directory : AdminDatabase) : Server calls where
  store := store
  directory := directory
  phase _ := .waiting
  idempotency _ := .start
  commits := []

variable [DecidableEq ι]

def goto (c : Server calls) (i : ι) (phase : Phase (calls i).request.route.Response) :
    Server calls :=
  { c with phase := Function.update c.phase i phase }

theorem phase_goto_self (c : Server calls) (i : ι)
    (phase : Phase (calls i).request.route.Response) : (c.goto i phase).phase i = phase := by
  rw [goto]
  exact Function.update_self i phase c.phase

theorem phase_goto_of_ne {i j : ι} (h : j ≠ i) (c : Server calls)
    (phase : Phase (calls i).request.route.Response) :
    (c.goto i phase).phase j = c.phase j := by
  rw [goto]
  exact Function.update_of_ne h phase c.phase

def problem (c : Server calls) (i : ι) (problem : Problem) : Server calls :=
  c.goto i (.answered (.error problem))

/-- The `INSERT INTO operator` of a first-time subject; `none` where its primary key or
`uq_operator_email_ci` refuses it. -/
def createOperator (directory : AdminDatabase) (claims : Claims) (id : Uuid) :
    Option AdminDatabase :=
  let taken := (Table.rows directory.operators).any fun r =>
    r.1 = id ∨ r.2.email.toLower = claims.email.toLower
  if taken then none
  else some
    { directory with
      operators := directory.operators.insert id
        { subject := claims.sub, displayName := claims.name, email := claims.email } }

/-- `_load_or_create_operator` and the checks around it.  The operator it creates has no
role yet. -/
def authenticate (c : Server calls) (i : ι) (draw : Draw) : Server calls :=
  let claims := (calls i).claims
  if claims.sub = "" then c.problem i { status := 401, detail := "Token missing sub claim." }
  else match Admin.ownRow c.directory claims.sub with
    | none =>
      match createOperator c.directory claims draw.uuid with
      | none => c.problem i unexpected
      | some directory =>
        ({ c with directory := directory } : Server calls).problem i Admin.noActiveRole
    | some (id, row) =>
      if row.status ≠ .active then
        c.problem i { status := 401, detail := "Operator " ++ row.status.value ++ "." }
      else c.goto i (.loadingRole id)

/-- `_load_active_role`. -/
def loadRole (c : Server calls) (i : ι) (operatorId : Uuid) : Server calls :=
  match Admin.loadActiveRole c.directory operatorId with
  | none => c.problem i Admin.noActiveRole
  | some role => c.goto i (.loadingLeas operatorId role)

/-- The operator that `current_operator` returns when the LEAs are loaded now. -/
def operatorOf (c : Server calls) (i : ι) (operatorId : Uuid) (role : Role) : Operator where
  id := operatorId
  subject := (calls i).claims.sub
  email := (calls i).claims.email
  displayName := (calls i).claims.name
  role := role
  authorizedLeas := Admin.loadAuthorizedLeas c.directory role operatorId

/-- `_load_authorized_leas`, `require("operator")` and the validation of the body. -/
def loadLeas (c : Server calls) (i : ι) (operatorId : Uuid) (role : Role) : Server calls :=
  let op := c.operatorOf i operatorId role
  match Admin.requireProblem op .operator with
  | some problem => c.problem i problem
  | none =>
    match (calls i).request.bodyProblem with
    | some problem => c.problem i problem
    | none => c.goto i (.locating op)

variable (pg : Postgres) (digest : String → Option Dict → String)
  (models : (r : Route) → Idempotency.ResponseModel r.Response)

/-- A move of the calls that share a key. -/
def protocol (c : Server calls) (k : Key) (m : Idempotency.Move ι k.route.Response) :
    Server calls :=
  { c with
    idempotency := Function.update c.idempotency k
      ((c.idempotency k).step (models k.route) (requestHash calls digest) m) }

/-- The lookup of the target, and on to `with_idempotency`. -/
def locate (c : Server calls) (i : ι) (op : Operator) : Server calls :=
  match (calls i).request.loadLea c.store with
  | none => c.problem i (calls i).request.notFound
  | some target =>
    match assertAuthorized op.authorizedLeas target with
    | some problem => c.problem i problem
    | none =>
      match (calls i).idempotencyKey with
      | none => c.goto i (.working op target)
      | some key => (c.protocol digest models (keyOf calls i op key) (.start i)).goto i
          (.keyed op target none)

/-- The handler commits. -/
def commit (c : Server calls) (entry : Commit calls) : Server calls :=
  { c with store := entry.after, commits := entry :: c.commits }

/-- The handler of a request without a key. -/
def handle (c : Server calls) (i : ι) (op : Operator) (target : LeaId) (draw : Draw) :
    Server calls :=
  match work pg op.subject draw c.store (calls i).request with
  | .error problem => c.problem i problem
  | .ok (s', response) =>
    (c.commit
      { call := i, operator := op, target := target, draw := draw, response := response
        before := c.store, after := s' }).goto i (.answered (.ok response))

/-- The next transaction of `with_idempotency`. -/
def withIdempotency (c : Server calls) (i : ι) (op : Operator) (target : LeaId) (key : String)
    (draw : Draw) : Server calls :=
  match (c.idempotency (keyOf calls i op key)).phase i with
  | .handling =>
    match work pg op.subject draw c.store (calls i).request with
    | .error problem => (c.protocol digest models (keyOf calls i op key) (.fail i)).goto i
        (.keyed op target (some problem))
    | .ok (s', response) =>
      (c.commit
        { call := i, operator := op, target := target, draw := draw, response := response
          before := c.store, after := s' }).protocol digest models (keyOf calls i op key)
            (.succeed i response)
  | _ => c.protocol digest models (keyOf calls i op key) (.step i)

/-- The next step of a request. -/
def advance (c : Server calls) (i : ι) (draw : Draw) : Server calls :=
  match c.phase i with
  | .waiting => c.authenticate i draw
  | .loadingRole operatorId => c.loadRole i operatorId
  | .loadingLeas operatorId role => c.loadLeas i operatorId role
  | .locating op => c.locate digest models i op
  | .working op target => c.handle pg i op target draw
  | .keyed op target _ =>
    match (calls i).idempotencyKey with
    | none => c
    | some key => c.withIdempotency pg digest models i op target key draw
  | .answered _ | .died => c

/-- A call of `with_idempotency` ends where it is. -/
def breakOff (c : Server calls) (i : ι) (op : Operator) (target : LeaId) (key : String)
    (failure : Option Problem) : Server calls :=
  if ((c.idempotency (keyOf calls i op key)).phase i).running then
    (c.protocol digest models (keyOf calls i op key) (.die i)).goto i (.keyed op target failure)
  else c

/-- An exception from outside.  `with_idempotency` catches the one of its handler; what
`get_or_register`, `discard` and `store_response` raise goes straight to the client. -/
def raise (c : Server calls) (i : ι) : Server calls :=
  match c.phase i with
  | .keyed op target _ =>
    match (calls i).idempotencyKey with
    | none => c
    | some key =>
      match (c.idempotency (keyOf calls i op key)).phase i with
      | .handling => (c.protocol digest models (keyOf calls i op key) (.fail i)).goto i
          (.keyed op target (some unexpected))
      | _ => c.breakOff digest models i op target key (some unexpected)
  | phase => if phase.early then c.problem i unexpected else c

/-- The process of a request dies. -/
def die (c : Server calls) (i : ι) : Server calls :=
  match c.phase i with
  | .keyed op target _ =>
    match (calls i).idempotencyKey with
    | none => c
    | some key => c.breakOff digest models i op target key none
  | phase => if phase.early then c.goto i .died else c

/-- A move of the calls of every key. -/
def everyKey (c : Server calls) (m : (ρ : Type) → Idempotency.Move ι ρ) : Server calls :=
  { c with
    idempotency := fun k =>
      (c.idempotency k).step (models k.route) (requestHash calls digest) (m k.route.Response) }

/-- One step of somebody. -/
def step (c : Server calls) : Move ι → Server calls
  | .step i draw => c.advance pg digest models i draw
  | .raise i => c.raise digest models i
  | .die i => c.die digest models i
  | .sweep olderThan => c.everyKey digest models fun _ => .sweep olderThan
  | .tick => c.everyKey digest models fun _ => .tick
  | .operation op => { c with store := c.store.exec pg op }
  | .administer directory => { c with directory := directory }

/-! ### What a step can do -/

/-- What one step can do. -/
inductive Does (c : Server calls) : Move ι → Server calls → Prop where
  | stay {m} : Does c m c
  | refuse {m i problem} (h : (c.phase i).early = true) : Does c m (c.problem i problem)
  | create {i draw directory} (h : c.phase i = .waiting) :
      Does c (.step i draw)
        (({ c with directory := directory } : Server calls).problem i Admin.noActiveRole)
  | arrive {i draw id row} (h : c.phase i = .waiting)
      (hown : Admin.ownRow c.directory (calls i).claims.sub = some (id, row))
      (hactive : row.status = .active) : Does c (.step i draw) (c.goto i (.loadingRole id))
  | loadRole {i draw id role} (h : c.phase i = .loadingRole id)
      (hrole : Admin.loadActiveRole c.directory id = some role) :
      Does c (.step i draw) (c.goto i (.loadingLeas id role))
  | loadLeas {i draw id role} (h : c.phase i = .loadingLeas id role)
      (hrequire : Admin.requireProblem (c.operatorOf i id role) .operator = none) :
      Does c (.step i draw) (c.goto i (.locating (c.operatorOf i id role)))
  | locate {i draw op target} (h : c.phase i = .locating op)
      (hlea : (calls i).request.loadLea c.store = some target) (hin : target ∈ op.authorizedLeas)
      (hkey : (calls i).idempotencyKey = none) :
      Does c (.step i draw) (c.goto i (.working op target))
  | enter {i draw op target key} (h : c.phase i = .locating op)
      (hlea : (calls i).request.loadLea c.store = some target) (hin : target ∈ op.authorizedLeas)
      (hkey : (calls i).idempotencyKey = some key) :
      Does c (.step i draw) ((c.protocol digest models (keyOf calls i op key) (.start i)).goto i
        (.keyed op target none))
  | handle {i draw op target s' response} (h : c.phase i = .working op target)
      (hwork : work pg op.subject draw c.store (calls i).request = .ok (s', response)) :
      Does c (.step i draw)
        ((c.commit
          { call := i, operator := op, target := target, draw := draw, response := response
            before := c.store, after := s' }).goto i (.answered (.ok response)))
  | fail {m i op target failure key problem} (h : c.phase i = .keyed op target failure)
      (hkey : (calls i).idempotencyKey = some key)
      (hphase : (c.idempotency (keyOf calls i op key)).phase i = .handling) :
      Does c m ((c.protocol digest models (keyOf calls i op key) (.fail i)).goto i
        (.keyed op target (some problem)))
  | succeed {i draw op target failure key s' response} (h : c.phase i = .keyed op target failure)
      (hkey : (calls i).idempotencyKey = some key)
      (hphase : (c.idempotency (keyOf calls i op key)).phase i = .handling)
      (hwork : work pg op.subject draw c.store (calls i).request = .ok (s', response)) :
      Does c (.step i draw)
        ((c.commit
          { call := i, operator := op, target := target, draw := draw, response := response
            before := c.store, after := s' }).protocol digest models (keyOf calls i op key)
              (.succeed i response))
  | turn {i draw op target failure key} (h : c.phase i = .keyed op target failure)
      (hkey : (calls i).idempotencyKey = some key)
      (hphase : (c.idempotency (keyOf calls i op key)).phase i ≠ .handling) :
      Does c (.step i draw) (c.protocol digest models (keyOf calls i op key) (.step i))
  | die {i} (h : (c.phase i).early = true) : Does c (.die i) (c.goto i .died)
  | breakOff {m i op target failure key} (h : c.phase i = .keyed op target failure)
      (hkey : (calls i).idempotencyKey = some key) (failure' : Option Problem) :
      Does c m ((c.protocol digest models (keyOf calls i op key) (.die i)).goto i
        (.keyed op target failure'))
  | sweep {olderThan} :
      Does c (.sweep olderThan) (c.everyKey digest models fun _ => .sweep olderThan)
  | tick : Does c .tick (c.everyKey digest models fun _ => .tick)
  | operation {op} : Does c (.operation op) { c with store := c.store.exec pg op }
  | administer {directory} : Does c (.administer directory) { c with directory := directory }

variable {pg digest models}

theorem does_breakOff {c : Server calls} {m : Move ι} {i : ι} {op : Operator} {target : LeaId}
    {failure : Option Problem} {key : String} (h : c.phase i = .keyed op target failure)
    (hkey : (calls i).idempotencyKey = some key) (failure' : Option Problem) :
    Does pg digest models c m (c.breakOff digest models i op target key failure') := by
  rw [Server.breakOff]
  split
  · exact .breakOff h hkey failure'
  · exact .stay

theorem does_advance (c : Server calls) (i : ι) (draw : Draw) :
    Does pg digest models c (.step i draw) (c.advance pg digest models i draw) := by
  have hrefuse : ∀ {p}, c.phase i = p → p.early = true → ∀ problem,
      Does pg digest models c (.step i draw) (c.problem i problem) :=
    fun hp hearly problem => .refuse (hp ▸ hearly)
  rw [advance]
  split
  · next h =>
    have hrefuse := hrefuse h rfl
    rw [authenticate]
    split
    · exact hrefuse _
    split
    · split
      · exact hrefuse _
      · exact .create h
    · next id row hown =>
      split
      · exact hrefuse _
      · next hactive => exact .arrive h hown (not_not.mp hactive)
  · next id h =>
    rw [loadRole]
    split
    · exact hrefuse h rfl _
    · next role hrole => exact .loadRole h hrole
  · next id role h =>
    have hrefuse := hrefuse h rfl
    rw [loadLeas]
    split
    · exact hrefuse _
    next hrequire =>
    split
    · exact hrefuse _
    · exact .loadLeas h hrequire
  · next op h =>
    have hrefuse := hrefuse h rfl
    rw [locate]
    split
    · exact hrefuse _
    next target hlea =>
    rw [assertAuthorized]
    split
    · exact hrefuse _
    next hassert =>
    have hin : target ∈ op.authorizedLeas := by
      by_contra hout
      rw [if_neg hout] at hassert
      exact absurd hassert (by simp)
    split
    · next hkey => exact .locate h hlea hin hkey
    · next key hkey => exact .enter h hlea hin hkey
  · next op target h =>
    rw [handle]
    split
    · exact hrefuse h rfl _
    · next s' response hwork => exact .handle h hwork
  · next op target failure h =>
    split
    · exact .stay
    next key hkey =>
    rw [withIdempotency]
    split
    · next hphase =>
      split
      · exact .fail h hkey hphase
      · next s' response hwork => exact .succeed h hkey hphase hwork
    · next hphase => exact .turn h hkey hphase
  · exact .stay
  · exact .stay

theorem does_raise (c : Server calls) (i : ι) :
    Does pg digest models c (.raise i) (c.raise digest models i) := by
  rw [Server.raise]
  split
  · next op target failure h =>
    split
    · exact .stay
    next key hkey =>
    split
    · next hphase => exact .fail h hkey hphase
    · exact does_breakOff h hkey _
  · split
    · next hearly => exact .refuse hearly
    · exact .stay

theorem does_die (c : Server calls) (i : ι) :
    Does pg digest models c (.die i) (c.die digest models i) := by
  rw [Server.die]
  split
  · next op target failure h =>
    split
    · exact .stay
    · next key hkey => exact does_breakOff h hkey _
  · split
    · next hearly => exact .die hearly
    · exact .stay

theorem does_step (c : Server calls) (m : Move ι) :
    Does pg digest models c m (c.step pg digest models m) := by
  cases m with
  | step i draw => exact does_advance c i draw
  | raise i => exact does_raise c i
  | die i => exact does_die c i
  | sweep olderThan => exact .sweep
  | tick => exact .tick
  | operation op => exact .operation
  | administer directory => exact .administer

theorem advance_answered {c : Server calls} {i : ι}
    {answer : Except Problem (calls i).request.route.Response} (h : c.phase i = .answered answer)
    (draw : Draw) : c.advance pg digest models i draw = c := by
  rw [advance, h]

/-- The first query answers at once with the problem of `current_operator`, or has found the
subject's active operator. -/
theorem authenticate_cases (c : Server calls) (i : ι) (draw : Draw)
    (hcreate : createOperator c.directory (calls i).claims draw.uuid ≠ none) :
    (∃ problem, (c.authenticate i draw).phase i = .answered (.error problem) ∧
      Admin.currentOperator c.directory (calls i).claims = .error problem) ∨
    ∃ id row, (calls i).claims.sub ≠ "" ∧
      Admin.ownRow c.directory (calls i).claims.sub = some (id, row) ∧ row.status = .active ∧
      c.authenticate i draw = c.goto i (.loadingRole id) := by
  rw [authenticate, Admin.currentOperator]
  by_cases hsub : (calls i).claims.sub = ""
  · rw [if_pos hsub, if_pos hsub]
    exact Or.inl ⟨_, phase_goto_self _ _ _, rfl⟩
  rw [if_neg hsub, if_neg hsub]
  cases hown : Admin.ownRow c.directory (calls i).claims.sub with
  | none =>
    obtain ⟨directory, hdirectory⟩ := Option.ne_none_iff_exists'.mp hcreate
    dsimp only
    rw [hdirectory]
    exact Or.inl ⟨_, phase_goto_self _ _ _, rfl⟩
  | some found =>
    obtain ⟨id, row⟩ := found
    dsimp only
    by_cases hactive : row.status = .active
    · rw [if_neg (not_not.mpr hactive)]
      exact Or.inr ⟨id, row, hsub, rfl, hactive, rfl⟩
    · rw [if_pos hactive, if_pos hactive]
      exact Or.inl ⟨_, phase_goto_self _ _ _, rfl⟩

omit [DecidableEq ι] in
/-- `current_operator` for a subject with an active operator. -/
theorem currentOperator_of_active {c : Server calls} {i : ι} {id : Uuid} {row : Admin.OperatorRow}
    (hsub : (calls i).claims.sub ≠ "")
    (hown : Admin.ownRow c.directory (calls i).claims.sub = some (id, row))
    (hactive : row.status = .active) :
    Admin.currentOperator c.directory (calls i).claims
      = match Admin.loadActiveRole c.directory id with
        | none => .error Admin.noActiveRole
        | some role => .ok (c.operatorOf i id role) := by
  rw [Admin.currentOperator, if_neg hsub, hown]
  dsimp only
  rw [if_neg (not_not.mpr hactive)]
  cases Admin.loadActiveRole c.directory id with
  | none => rfl
  | some role => rfl

/-- The last query, with the checks that follow it. -/
theorem phase_loadLeas (c : Server calls) (i : ι) (id : Uuid) (role : Role) :
    (c.loadLeas i id role).phase i
      = match (Admin.requireProblem (c.operatorOf i id role) .operator).or
          (calls i).request.bodyProblem with
        | some problem => .answered (.error problem)
        | none => .locating (c.operatorOf i id role) := by
  rw [loadLeas]
  cases Admin.requireProblem (c.operatorOf i id role) .operator with
  | some problem => exact phase_goto_self _ i _
  | none =>
    cases (calls i).request.bodyProblem with
    | some problem => exact phase_goto_self _ i _
    | none => exact phase_goto_self _ i _

/-- **The queries of a request that is alone are `current_operator`.** -/
theorem advance_alone (c : Server calls) {i : ι} (h : c.phase i = .waiting) (draw : Draw)
    (hcreate : createOperator c.directory (calls i).claims draw.uuid ≠ none) :
    (Runs.run (step pg digest models) c (List.replicate 3 (.step i draw))).phase i
      = match Admin.currentOperator c.directory (calls i).claims with
        | .error problem => .answered (.error problem)
        | .ok op =>
          match (Admin.requireProblem op .operator).or (calls i).request.bodyProblem with
          | some problem => .answered (.error problem)
          | none => .locating op := by
  show (((c.advance pg digest models i draw).advance pg digest models i draw).advance pg digest
    models i draw).phase i = _
  have hfirst : c.advance pg digest models i draw = c.authenticate i draw := by
    rw [advance, h]
  rw [hfirst]
  rcases authenticate_cases c i draw hcreate with
    ⟨problem, hphase, hcurrent⟩ | ⟨id, row, hsub, hown, hactive, hauthenticate⟩
  · rw [advance_answered hphase, advance_answered hphase, hphase, hcurrent]
  have hsecond : (c.goto i (.loadingRole id)).advance pg digest models i draw
      = (c.goto i (.loadingRole id)).loadRole i id := by
    rw [advance, phase_goto_self]
  rw [hauthenticate, hsecond, loadRole, currentOperator_of_active hsub hown hactive,
    show (c.goto i (.loadingRole id)).directory = c.directory from rfl]
  cases Admin.loadActiveRole c.directory id with
  | none =>
    dsimp only
    rw [problem, advance_answered (phase_goto_self _ _ _), phase_goto_self]
  | some role =>
    dsimp only
    rw [advance, phase_goto_self]
    -- the LEAs are those of the same directory
    exact phase_loadLeas ((c.goto i (.loadingRole id)).goto i (.loadingLeas id role)) i id role

/-! ### What a client has got -/

/-- The answer of a request, once it has one. -/
def answer? (c : Server calls) (i : ι) : Option (Except Problem (calls i).request.route.Response) :=
  match c.phase i with
  | .answered answer => some answer
  | .keyed op _ failure =>
    match (calls i).idempotencyKey with
    | none => none
    | some key =>
      match (c.idempotency (keyOf calls i op key)).phase i with
      | .done (.returned response) => some (.ok response)
      | .done (.replayed response) => some (.ok response)
      | .done .conflict => some (.error (keyConflict key))
      | .done .inFlight => some (.error (keyInFlight key))
      | .done .invalid => some (.error unexpected)
      | .done .raised => failure.map .error
      -- broken off by an exception, or by the end of the process
      | .done .died => failure.map fun _ => .error unexpected
      | _ => none
  | _ => none

end Server

end Actions
