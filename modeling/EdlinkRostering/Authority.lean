/-
What a request changes it was authorized to change.

The checks of a request and the transaction they guard are transactions of their own, and
anything may commit between them.  The operator, the role and the LEAs are therefore those
of earlier states, each read after the one before it and none before the request arrived;
the LEA of a job or a quarantine row never changes, so the one looked up is still the one
the service finds.

* `loadLea_exec` — whose a job or a row is stays;
* `writes_authorized` — the operator of a change was authorized for its LEA.
-/
import EdlinkRostering.Actions
import EdlinkRostering.Generations
import EdlinkRostering.Isolation

namespace Actions

open Admin (Operator Role)

/-! ### The target of a request -/

section

variable {pg : Postgres} {s : Store} {op : Op} {request : Request} {target : LeaId}

theorem getElem?_markResolved_leaId {id i : Nat} {resolvedAt : Instant} {status operator : String}
    {reason : Option String} :
    ((s.markResolved id resolvedAt status operator reason).quarantine[i]?).map (·.leaId)
      = (s.quarantine[i]?).map (·.leaId) := by
  show (((s.quarantine.modify id _)[i]?).map (·.leaId)) = _
  rw [List.getElem?_modify]
  cases s.quarantine[i]? with
  | none => simp
  | some row =>
    by_cases hi : id = i
    · simp [hi]
    · simp [hi]

/-- A quarantine row that is there stays, and stays the LEA's. -/
theorem quarantine_exec {i : Nat} (h : (s.quarantine[i]?).map (·.leaId) = some target) :
    ((s.exec pg op).quarantine[i]?).map (·.leaId) = some target := by
  rcases s.exec_cases pg op with he | he
  · rw [he, h]
  · cases op with
    | page run =>
      cases hb : run.blocked s with
      | true => rw [(he.blocked hb).2.1, h]
      | false =>
        obtain ⟨row, hrow, hl⟩ := Option.map_eq_some_iff.mp h
        have hlt : i < s.quarantine.length := (List.getElem?_eq_some_iff.mp hrow).1
        rw [he.quarantine hb, List.getElem?_append_left hlt, h]
    | bulkLoad run =>
      rw [show (s.exec pg (.bulkLoad run)).quarantine = s.quarantine from
        (bulkLoad_frame pg run s).quarantine, h]
    | revert run =>
      obtain ⟨outcome, hreverts⟩ := he
      rw [hreverts.quarantine, h]
    | release run => rw [he.quarantine, getElem?_markResolved_leaId, h]
    | reject run =>
      obtain ⟨row, -, -, heq⟩ := he
      rw [heq, getElem?_markResolved_leaId, h]
    | retry run =>
      obtain ⟨job, -, -, heq⟩ := he
      rw [heq]
      exact h

/-- **Whose a job or a row is stays.** -/
theorem loadLea_exec (h : request.loadLea s = some target) :
    request.loadLea (s.exec pg op) = some target := by
  cases request with
  | retrySync | revertSync =>
    obtain ⟨job, hjob, hl⟩ := Option.map_eq_some_iff.mp h
    rw [Request.loadLea, Store.lookup_exec pg op hjob, Option.map_some, hl]
  | releaseQuarantine | rejectQuarantine => exact quarantine_exec h

/-- The service works for the LEA that was looked up. -/
theorem for_of_loadLea {who : String} {draw : Draw} (h : request.loadLea s = some target) :
    (request.op who draw).For target s := by
  cases request with
  | retrySync | revertSync | releaseQuarantine | rejectQuarantine =>
    obtain ⟨row, hrow, hl⟩ := Option.map_eq_some_iff.mp h
    exact ⟨row, hrow, hl⟩

end

namespace Server

variable {ι : Type} [DecidableEq ι] {calls : ι → Call} {pg : Postgres}
  {digest : String → Option Dict → String}
  {models : (r : Route) → Idempotency.ResponseModel r.Response}

/-! ### What the checks have seen -/

/-- The request has just arrived, and its subject is an active operator. -/
def Arrives (i : ι) (operatorId : Uuid) (c : Server calls) : Prop :=
  c.phase i = .waiting ∧ ∃ row,
    Admin.ownRow c.directory (calls i).claims.sub = some (operatorId, row) ∧ row.status = .active

def HoldsRole (operatorId : Uuid) (role : Role) (c : Server calls) : Prop :=
  Admin.loadActiveRole c.directory operatorId = some role

/-- The operator is scoped to exactly these LEAs. -/
def Scoped (op : Operator) (c : Server calls) : Prop :=
  op.authorizedLeas = Admin.loadAuthorizedLeas c.directory op.role op.id

variable (pg digest models)

/-- The operator of a request, as the run has shown them to `current_operator` and
`require("operator")`. -/
structure Vouched (start : Server calls) (moves : List (Move ι)) (i : ι) (op : Operator) :
    Prop where
  subject : op.subject = (calls i).claims.sub
  role : op.role.satisfies .operator = true
  passed : Runs.Passed (step pg digest models) start
    [Scoped op, HoldsRole op.id op.role, Arrives i op.id] moves

/-- What stands behind a phase of a request. -/
def Backed (start : Server calls) (moves : List (Move ι)) (i : ι) (store : Store) :
    Phase (calls i).request.route.Response → Prop
  | .loadingRole id => Runs.Passed (step pg digest models) start [Arrives i id] moves
  | .loadingLeas id role =>
    Runs.Passed (step pg digest models) start [HoldsRole id role, Arrives i id] moves
  | .locating op => Vouched pg digest models start moves i op
  | .working op target | .keyed op target _ =>
    Vouched pg digest models start moves i op ∧ target ∈ op.authorizedLeas ∧
      (calls i).request.loadLea store = some target
  | .waiting | .answered _ | .died => True

variable {pg digest models} {start : Server calls} {moves moves' : List (Move ι)} {i : ι}
  {op : Operator} {store : Store}

theorem Vouched.mono (h : Vouched pg digest models start moves i op)
    (hbefore : moves <+: moves') : Vouched pg digest models start moves' i op where
  subject := h.subject
  role := h.role
  passed := h.passed.mono hbefore

theorem Backed.mono {phase : Phase (calls i).request.route.Response}
    (h : Backed pg digest models start moves i store phase) (hbefore : moves <+: moves') :
    Backed pg digest models start moves' i store phase := by
  cases phase with
  | loadingRole | loadingLeas => exact Runs.Passed.mono h hbefore
  | locating => exact Vouched.mono h hbefore
  | working | keyed => exact ⟨h.1.mono hbefore, h.2⟩
  | waiting | answered | died => exact trivial

/-- An operation of anybody. -/
theorem Backed.exec {phase : Phase (calls i).request.route.Response}
    (h : Backed pg digest models start moves i store phase) (op : Op) :
    Backed pg digest models start moves i (store.exec pg op) phase := by
  cases phase with
  | working | keyed => exact ⟨h.1, h.2.1, loadLea_exec h.2.2⟩
  | loadingRole | loadingLeas | locating | waiting | answered | died => exact h

theorem backed_goto {c : Server calls} {p : Phase (calls i).request.route.Response}
    (h : ∀ j, Backed pg digest models start moves j store (c.phase j))
    (hp : Backed pg digest models start moves i store p) (j : ι) :
    Backed pg digest models start moves j store ((c.goto i p).phase j) := by
  by_cases hj : j = i
  · subst hj
    rw [phase_goto_self]
    exact hp
  · rw [phase_goto_of_ne hj]
    exact h j

/-- The step lemma: the phases stay backed. -/
theorem backed_step {m : Move ι} {c c' : Server calls}
    (hc : Runs.run (step pg digest models) start moves = c)
    (h : ∀ j, Backed pg digest models start moves j c.store (c.phase j))
    (hdoes : Does pg digest models c m c') (j : ι) :
    Backed pg digest models start (moves ++ [m]) j c'.store (c'.phase j) := by
  have hlonger : moves <+: moves ++ [m] := List.prefix_append moves [m]
  have hkeep : ∀ j, Backed pg digest models start (moves ++ [m]) j c.store (c.phase j) :=
    fun j => (h j).mono hlonger
  cases hdoes with
  | stay | turn | sweep | tick | administer => exact hkeep j
  | refuse | create => exact backed_goto (p := .answered _) hkeep trivial j
  | die => exact backed_goto (p := .died) hkeep trivial j
  | @arrive i draw id row hwaiting hown hactive =>
    refine backed_goto hkeep ?_ j
    have harrives : Arrives i id (Runs.run (step pg digest models) start moves) :=
      hc ▸ ⟨hwaiting, row, hown, hactive⟩
    have hpassed : Runs.Passed (step pg digest models) start [Arrives i id] moves :=
      Runs.Passed.now trivial harrives
    exact hpassed.mono hlonger
  | @loadRole i draw id role hphase hrole =>
    refine backed_goto hkeep ?_ j
    have hback := h i
    rw [hphase] at hback
    have hpassed : Runs.Passed (step pg digest models) start
        [HoldsRole id role, Arrives i id] moves :=
      Runs.Passed.now hback (hc ▸ hrole)
    exact hpassed.mono hlonger
  | @loadLeas i draw id role hphase hrequire =>
    refine backed_goto hkeep ?_ j
    have hback := h i
    rw [hphase] at hback
    have hrole : (c.operatorOf i id role).role.satisfies .operator = true := by
      by_contra hnot
      rw [Admin.requireProblem, if_neg hnot] at hrequire
      exact absurd hrequire (by simp)
    have hpassed : Runs.Passed (step pg digest models) start
        [Scoped (c.operatorOf i id role), HoldsRole id role, Arrives i id] moves :=
      Runs.Passed.now hback (hc ▸ rfl)
    exact ⟨rfl, hrole, hpassed.mono hlonger⟩
  | @locate i draw op target hphase hlea hin hkey =>
    refine backed_goto hkeep ?_ j
    have hback := hkeep i
    rw [hphase] at hback
    exact ⟨hback, hin, hlea⟩
  | @enter i draw op target key hphase hlea hin hkey =>
    refine backed_goto (c := c.protocol digest models _ _) hkeep ?_ j
    have hback := hkeep i
    rw [hphase] at hback
    exact ⟨hback, hin, hlea⟩
  | @handle i draw op target s' response hphase hwork =>
    refine backed_goto (c := c.commit _) (p := .answered _) (fun j => ?_) trivial j
    show Backed pg digest models start _ j s' (c.phase j)
    rw [← exec_of_work hwork]
    exact (hkeep j).exec _
  | @fail m i op target failure key problem hphase hkey hhandling =>
    refine backed_goto (c := c.protocol digest models _ _) hkeep ?_ j
    have hback := hkeep i
    rw [hphase] at hback
    exact hback
  | @breakOff m i op target failure key hphase hkey failure' =>
    refine backed_goto (c := c.protocol digest models _ _) hkeep ?_ j
    have hback := hkeep i
    rw [hphase] at hback
    exact hback
  | @succeed i draw op target failure key s' response hphase hkey hhandling hwork =>
    show Backed pg digest models start _ j s' (c.phase j)
    rw [← exec_of_work hwork]
    exact (hkeep j).exec _
  | operation => exact (hkeep j).exec _

/-- The run lemma. -/
theorem backed_run (store : Store) (directory : Admin.AdminDatabase) (moves : List (Move ι)) :
    let c := Runs.run (step pg digest models) (Server.start calls store directory) moves
    ∀ j, Backed pg digest models (Server.start calls store directory) moves j c.store
      (c.phase j) := by
  induction moves using List.reverseRecOn with
  | nil => exact fun _ => trivial
  | append_singleton moves m ih =>
    intro c j
    have hlast : c = (Runs.run (step pg digest models) (Server.start calls store directory)
        moves).step pg digest models m := by
      simp only [c, Runs.run_append, Runs.run_cons, Runs.run_nil]
    rw [hlast]
    exact backed_step rfl ih (does_step _ m) j

/-- A request changes the store as an operator who was authorized for the LEA it acts on. -/
def Authorized (pg : Postgres) (digest : String → Option Dict → String)
    (models : (r : Route) → Idempotency.ResponseModel r.Response) (start : Server calls)
    (moves : List (Move ι)) (i : ι) (draw : Draw) (s s' : Store) : Prop :=
  ∃ op target, Vouched pg digest models start moves i op ∧ target ∈ op.authorizedLeas ∧
    let operation := (calls i).request.op op.subject draw
    operation.For target s ∧ s' = s.exec pg operation ∧
      (operation.KeepsOff pg target s → s.Isolated target s')

/-- What is backed makes the change an authorized one. -/
theorem authorized_of_backed {draw : Draw} {s s' : Store} {op : Operator} {target : LeaId}
    {response : (calls i).request.route.Response}
    (h : Vouched pg digest models start moves i op ∧ target ∈ op.authorizedLeas ∧
      (calls i).request.loadLea s = some target)
    (hwork : work pg op.subject draw s (calls i).request = .ok (s', response)) :
    Authorized pg digest models start moves i draw s s' := by
  obtain ⟨hvouched, hin, hlea⟩ := h
  have hexec := exec_of_work hwork
  have hfor : ((calls i).request.op op.subject draw).For target s := for_of_loadLea hlea
  refine ⟨op, target, hvouched, hin, hfor, hexec.symm, fun hkeeps => ?_⟩
  rw [← hexec]
  exact exec_isolated hfor hkeeps

end Server

/-- **No request writes without authority.**  Whatever commits between the checks of a request
and its transaction: a step that changes the store is an operation of somebody else, or a
request whose subject was an active operator when it arrived, then had a role that may act,
and then was scoped to the LEA whose job or row the service changes; the change is recorded as
that subject's, and spares every other LEA where the operation keeps off them. -/
theorem writes_authorized {ι : Type} [DecidableEq ι] (pg : Postgres)
    (digest : String → Option Dict → String)
    (models : (r : Route) → Idempotency.ResponseModel r.Response) (calls : ι → Call)
    (store : Store) (directory : Admin.AdminDatabase) (moves : List (Move ι)) (m : Move ι) :
    let start := Server.start calls store directory
    let c := Runs.run (Server.step pg digest models) start moves
    let c' := c.step pg digest models m
    c'.store = c.store ∨ (∃ op, m = .operation op ∧ c'.store = c.store.exec pg op) ∨
      ∃ i draw, m = .step i draw ∧
        Server.Authorized pg digest models start moves i draw c.store c'.store := by
  intro start c c'
  have hbacked : ∀ j, Server.Backed pg digest models start moves j c.store (c.phase j) :=
    Server.backed_run store directory moves
  have hdoes : Server.Does pg digest models c m c' := Server.does_step c m
  generalize c' = c' at hdoes
  cases hdoes with
  | @handle i draw op target s' response hphase hwork =>
    have hback := hbacked i
    rw [hphase] at hback
    exact Or.inr (Or.inr ⟨i, draw, rfl, Server.authorized_of_backed hback hwork⟩)
  | @succeed i draw op target failure key s' response hphase hkey hhandling hwork =>
    have hback := hbacked i
    rw [hphase] at hback
    exact Or.inr (Or.inr ⟨i, draw, rfl, Server.authorized_of_backed hback hwork⟩)
  | @operation op => exact Or.inr (Or.inl ⟨op, rfl, rfl⟩)
  | stay | refuse | create | arrive | loadRole | loadLeas | locate | enter | fail | turn | die
  | breakOff | sweep | tick | administer => exact Or.inl rfl

end Actions
