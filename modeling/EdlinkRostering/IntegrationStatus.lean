/-
The status of an integration, and the drains it stops.

Transcribed from `services/integration_status.py`, `get_integration_status` of the
connector and the start of `drain_lea`.  Before its page loop a worker with a poller asks
the partner for the status of the integration and writes it on the live authorization
row; the record it gets back decides whether the loop is entered.  Telemetry and alerts
are not modelled.

* `drainLeaPolled` — a drain with its status poll;
* `degraded_drain_skips_iff` — when a degraded integration is not polled.
-/
import EdlinkRostering.Polls
import EdlinkRostering.Authorizations

namespace Integration

open Authorizations

/-! ### The status -/

/-- `DEGRADED_STATUSES`. -/
def degradedStatuses : List String := ["inactive", "disabled", "destroyed"]

/-- `get_integration_status`, on the partner's file for the LEA if it has one. -/
def getIntegrationStatus (file : Option Dict) (now : Instant) : IntegrationSnapshot :=
  match file with
  | none => { status := "active", sharingScope := "full", observedAt := now }
  | some raw =>
    { status := ((raw.get? "status").map Json.pyStr).getD "active"
      sharingScope := tokenOr (optionalStr raw "sharing_scope") "full"
      observedAt := now }

/-- `IntegrationStatusRecord`; the LEA and the partner are the caller's. -/
structure IntegrationStatusRecord where
  status : String
  sharingScope : String
  observedAt : Instant
deriving DecidableEq

def IntegrationStatusRecord.isDegraded (record : IntegrationStatusRecord) : Bool :=
  degradedStatuses.contains record.status

/-- How many statements may follow the one a verb is at. -/
def rank : AuthzPc → Nat
  | .assertLea => 5
  | .load => 4
  | .awaitIndex _ => 3
  | .insert _ | .activate _ _ | .update _ => 2
  | .poll | .audit _ _ => 1
  | .commit _ | .fail _ => 0

theorem rank_loaded (verb : Verb) (current : Option LiveRow) : rank (verb.loaded current) < 4 := by
  cases verb with
  | authorize call given notes newId =>
    cases current with
    | none =>
      simp only [Verb.loaded]
      split <;> simp [rank]
    | some row =>
      simp only [Verb.loaded]
      split
      · split <;> simp [rank]
      · simp [authorizedPc, rank]
  | revoke | adjustPollInterval | pollAndPersist => cases current <;> simp [Verb.loaded, rank]

theorem rank_authorizeStatement {call : Call} {given : Option Int} {notes : Option String}
    {newId : Uuid} {pc next : AuthzPc} {s : AuthzStore} {locks : List AuthzLock}
    {write : AuthzStore → AuthzStore}
    (h : (Verb.authorize call given notes newId).authorizeStatement s pc = .exec locks write next) :
    rank next < rank pc := by
  cases pc with
  | assertLea =>
    simp only [Verb.authorizeStatement] at h
    split at h
    · obtain ⟨-, -, rfl⟩ := ReadCommitted.Statement.exec.inj h
      simp [rank]
    · exact nomatch h
  | awaitIndex interval =>
    obtain ⟨-, -, rfl⟩ := ReadCommitted.Statement.exec.inj h
    simp [rank]
  | insert interval =>
    simp only [Verb.authorizeStatement] at h
    split at h
    · exact nomatch h
    · obtain ⟨-, -, rfl⟩ := ReadCommitted.Statement.exec.inj h
      simp [authorizedPc, rank]
  | activate current interval =>
    obtain ⟨-, -, rfl⟩ := ReadCommitted.Statement.exec.inj h
    simp [authorizedPc, rank]
  | load | update | poll | audit | commit | fail => exact nomatch h

theorem rank_statement (verb : Verb) (pc : AuthzPc) (s : AuthzStore) (locks : List AuthzLock)
    (write : AuthzStore → AuthzStore) (next : AuthzPc)
    (h : verb.statement pc s = .exec locks write next) : rank next < rank pc := by
  have hauthorize :
      verb.authorizeStatement s pc = .exec locks write next → rank next < rank pc := by
    intro h
    cases verb with
    | authorize => exact rank_authorizeStatement h
    | revoke | adjustPollInterval | pollAndPersist => exact nomatch h
  cases pc with
  | load =>
    obtain ⟨-, -, rfl⟩ := ReadCommitted.Statement.exec.inj h
    exact rank_loaded verb _
  | update current =>
    cases verb with
    | revoke | adjustPollInterval =>
      obtain ⟨-, -, rfl⟩ := ReadCommitted.Statement.exec.inj h
      simp [rank]
    | authorize | pollAndPersist => exact nomatch h
  | poll =>
    cases verb with
    | pollAndPersist leaId partner snapshot =>
      simp only [Verb.statement, Verb.pollStatement] at h
      split at h
      · obtain ⟨-, -, rfl⟩ := ReadCommitted.Statement.exec.inj h
        simp [rank]
      split at h
      · exact nomatch h
      · obtain ⟨-, -, rfl⟩ := ReadCommitted.Statement.exec.inj h
        simp [rank]
    | authorize | revoke | adjustPollInterval => exact nomatch h
  | audit row outcome =>
    obtain ⟨-, -, rfl⟩ := ReadCommitted.Statement.exec.inj h
    simp [rank]
  | commit | fail => exact nomatch h
  | assertLea | awaitIndex | insert | activate => exact hauthorize h

/-- Six statements are enough for every verb. -/
theorem alone_verb (verb : Verb) (s : AuthzStore) :
    (ReadCommitted.alone verb.statement 6 verb.begin s).isSome = true := by
  refine ReadCommitted.alone_isSome (rank_statement verb) 6 verb.begin s ?_
  cases verb with
  | authorize | revoke | pollAndPersist => simp [Verb.begin, rank]
  | adjustPollInterval call new =>
    simp only [Verb.begin]
    split <;> simp [rank]

/-- A verb, run to its end with nobody else about. -/
def serially (verb : Verb) (s : AuthzStore) : Except AuthzError (AuthzStore × Outcome) :=
  (ReadCommitted.alone verb.statement 6 verb.begin s).get (alone_verb verb s)

/-- `poll_and_persist`: the tables and the record; `none` where the `UPDATE` is refused. -/
def pollAndPersist (leaId : LeaId) (snapshot : IntegrationSnapshot) (s : AuthzStore) :
    Option (AuthzStore × Option IntegrationStatusRecord) :=
  match serially (.pollAndPersist leaId connectorName snapshot) s with
  | .ok (s', .polled record) => some (s', record.map fun r => ⟨r.1, r.2.1, r.2.2⟩)
  | _ => none

/-- The record is there exactly when there is a live row to write it on. -/
theorem pollAndPersist_eq (leaId : LeaId) (snapshot : IntegrationSnapshot) (s : AuthzStore) :
    pollAndPersist leaId snapshot s =
      if s.liveRows leaId connectorName = [] then some (s, none)
      else if snapshot.status ∉ integrationStatuses then none
      else some
        ((s.liveRows leaId connectorName).foldl (fun s r => s.modifyRow r.1 (observe snapshot)) s,
          some ⟨snapshot.status, snapshot.sharingScope, snapshot.observedAt⟩) := by
  simp only [pollAndPersist, serially, Verb.begin, ReadCommitted.alone, Verb.statement,
    Verb.pollStatement]
  by_cases hrows : s.liveRows leaId connectorName = []
  · simp [hrows]
  · by_cases hstatus : snapshot.status ∈ integrationStatuses
    · simp [hrows, hstatus]
    · simp [hrows, hstatus]

/-! ### A drain -/

/-- The pages the page loop of `drain_lea` fetches. -/
def pagesFetched (pg : Postgres) (leaId : LeaId) : List Poll → Store → Nat
  | [], _ => 0
  | poll :: polls, s =>
    match poll.exec pg leaId s with
    | (_, none) => 1
    | (s', some outcome) =>
      if !outcome.hasMore || outcome.status ≠ .success then 1
      else pagesFetched pg leaId polls s' + 1

theorem pagesFetched_eq_zero {pg : Postgres} {leaId : LeaId} {polls : List Poll} {s : Store} :
    pagesFetched pg leaId polls s = 0 ↔ polls = [] := by
  cases polls with
  | nil => simp [pagesFetched]
  | cons poll polls =>
    simp only [pagesFetched, reduceCtorEq, iff_false]
    split
    · simp
    · split <;> simp

/-- The tables of both services, and the partner's status files. -/
structure World where
  authz : AuthzStore
  sync : Store
  integration : LeaId → Option Dict

/-- One call of `drain_lea`, with the polls its loop may make. -/
structure Drain where
  leaId : LeaId
  polls : List Poll
  observedAt : Instant
  poller : Bool := true

/-- What the connector reports at the start of the drain. -/
def Drain.snapshot (d : Drain) (w : World) : IntegrationSnapshot :=
  getIntegrationStatus (w.integration d.leaId) d.observedAt

/-- The state after a drain, the pages it fetched and the outcomes it returns. -/
structure Drained where
  world : World
  fetched : Nat
  outcomes : List PageOutcome

/-- The page loop. -/
def drainPages (pg : Postgres) (d : Drain) (w : World) : Drained where
  world := { w with sync := (drainLea pg d.leaId d.polls w.sync).1 }
  fetched := pagesFetched pg d.leaId d.polls w.sync
  outcomes := (drainLea pg d.leaId d.polls w.sync).2

/-- `drain_lea`. -/
def drainLeaPolled (pg : Postgres) (d : Drain) (w : World) : Drained :=
  if d.poller then
    match pollAndPersist d.leaId (d.snapshot w) w.authz with
    | none => { world := w, fetched := 0, outcomes := [] }
    | some (authz, record) =>
      let w' := { w with authz := authz }
      if record.any (·.isDegraded) then { world := w', fetched := 0, outcomes := [] }
      else drainPages pg d w'
  else drainPages pg d w

/-- The drain fetches no page and commits none. -/
def SkipsDrain (pg : Postgres) (d : Drain) (w : World) : Prop :=
  (drainLeaPolled pg d w).fetched = 0 ∧ (drainLeaPolled pg d w).world.sync = w.sync

/-- A degraded status is one the column admits. -/
theorem admitted_of_degraded {status : String} (h : degradedStatuses.contains status = true) :
    status ∈ integrationStatuses := by
  have hmem : status ∈ degradedStatuses := List.contains_iff_mem.mp h
  simp only [degradedStatuses, List.mem_cons, List.not_mem_nil, or_false] at hmem
  rcases hmem with rfl | rfl | rfl <;> decide

/-- A degraded integration is skipped exactly where its record can be written. -/
theorem skipsDrain_iff {pg : Postgres} {d : Drain} {w : World} (hpoller : d.poller = true)
    (hpolls : d.polls ≠ []) (hdegraded : degradedStatuses.contains (d.snapshot w).status = true) :
    SkipsDrain pg d w ↔ w.authz.liveRows d.leaId connectorName ≠ [] := by
  rw [SkipsDrain, drainLeaPolled, if_pos hpoller, pollAndPersist_eq]
  by_cases hrows : w.authz.liveRows d.leaId connectorName = []
  · rw [if_pos hrows]
    have hfetched : pagesFetched pg d.leaId d.polls w.sync ≠ 0 := mt pagesFetched_eq_zero.mp hpolls
    refine iff_of_false (fun h => hfetched ?_) fun h => h hrows
    exact h.1
  · rw [if_neg hrows, if_neg (not_not.mpr (admitted_of_degraded hdegraded))]
    have hrecord : (some (⟨(d.snapshot w).status, (d.snapshot w).sharingScope,
        (d.snapshot w).observedAt⟩ : IntegrationStatusRecord)).any (·.isDegraded) = true :=
      hdegraded
    refine iff_of_true ?_ hrows
    simp only [hrecord, if_true, and_self]

/-! ### Runs -/

/-- What can happen: a verb of the authorization service, a change of the partner's status
file, a drain. -/
inductive Step where
  | verb (verb : Verb)
  | changeStatus (leaId : LeaId) (file : Option Dict)
  | drain (d : Drain)

/-- The state after a step; a verb that raises changes nothing. -/
def step (pg : Postgres) (w : World) : Step → World
  | .verb verb =>
    match serially verb w.authz with
    | .ok (authz, _) => { w with authz := authz }
    | .error _ => w
  | .changeStatus leaId file => { w with integration := Function.update w.integration leaId file }
  | .drain d => (drainLeaPolled pg d w).world

/-- **No polling of a degraded integration.**  After every run, a drain with a poller that
finds the integration degraded fetches no page and commits none exactly when the LEA has a
live authorization row at its start. -/
theorem degraded_drain_skips_iff (pg : Postgres) (start : World) (steps : List Step) (d : Drain)
    (hpoller : d.poller = true) (hpolls : d.polls ≠ [])
    (hdegraded : degradedStatuses.contains
      (d.snapshot (Runs.run (step pg) start steps)).status = true) :
    SkipsDrain pg d (Runs.run (step pg) start steps) ↔
      (Runs.run (step pg) start steps).authz.liveRows d.leaId connectorName ≠ [] :=
  skipsDrain_iff hpoller hpolls hdegraded

/-! ### A revoked token -/

/-- One poll of one person. -/
def onePoll : Poll where
  log := [
    { id := "evt_1", date := 0, type := "person.created"
      data := [("sourcedId", .str "s1"), ("roles", .arr [.str "student"])] }]
  pageSize := 500
  syncJobId := "job-1"
  now := 3

def oneDrain : Drain where
  leaId := "L1"
  polls := [onePoll]
  observedAt := 3

/-- An LEA that was onboarded, and nothing else. -/
def onboarded : World where
  authz := { leas := AList.singleton "L1" none, authorizations := ∅, auditLog := [] }
  sync := Store.empty
  integration _ := none

def operatorCall (now : Instant) : Call where
  leaId := "L1"
  partner := connectorName
  operatorId := "op-1"
  reason := "onboarding"
  now := now

/-- The LEA is authorized, and the district disables the integration. -/
def disabled : List Step :=
  [.verb (.authorize (operatorCall 1) none none "authz-1"),
    .changeStatus "L1" (some [("status", .str "disabled")])]

/-- The same, and the authorization is revoked. -/
def disabledAndRevoked : List Step := disabled ++ [.verb (.revoke (operatorCall 2))]

theorem degraded_drain_skips_disabled :
    SkipsDrain .reference oneDrain (Runs.run (step .reference) onboarded disabled) :=
  (degraded_drain_skips_iff .reference onboarded disabled oneDrain rfl (by decide)
    (by decide +kernel)).mpr (by decide +kernel)

/-- The integration is disabled and the authorization revoked, and a page is fetched and
committed. -/
theorem revoked_drain_polls :
    let w := Runs.run (step .reference) onboarded disabledAndRevoked
    degradedStatuses.contains (oneDrain.snapshot w).status = true ∧ oneDrain.poller = true ∧
      (drainLeaPolled .reference oneDrain w).fetched = 1 ∧
      (drainLeaPolled .reference oneDrain w).outcomes.map (·.status) = [.success] ∧
      ¬ SkipsDrain .reference oneDrain w := by
  intro w
  have hdegraded : degradedStatuses.contains (oneDrain.snapshot w).status = true := by
    decide +kernel
  refine ⟨hdegraded, rfl, by decide +kernel, by decide +kernel, fun h => ?_⟩
  have hfetched : (drainLeaPolled .reference oneDrain w).fetched = 1 := by decide +kernel
  rw [h.1] at hfetched
  exact absurd hfetched (by decide)

end Integration
