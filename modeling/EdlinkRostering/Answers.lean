/-
What a client is told is what was committed.

The idempotency protocol is about handlers that succeed; here a handler is the transaction
of a service, and what its success is, is a change of the database.  The log of a key and
the commits of the server are kept side by side.

* `Idempotency.Config.Traced` — a replay is of a request with the same hash;
* `Server.Kept` — the commits, the phases and the logs of the keys tell one story;
* `Server.kept_run` — over every run whose sweeps spare the running requests;
* `answers_accounted` — a 200 has its commit, a key has one, and an error has none, unless it
  is the 500 of a request whose response could not be stored.
-/
import EdlinkRostering.Actions
import EdlinkRostering.Resolution

namespace Idempotency

variable {ι ρ : Type*}

/-- Every success but the first has a sweep before it. -/
theorem Once.countP_le {log : List (Event ι ρ)} (h : Once log) :
    log.countP Event.isExecuted ≤ 1 + log.countP Event.isSwept := by
  -- what stands before the log does not matter
  suffices hgeneral : ∀ (part log : List (Event ι ρ)), .swept ∉ part → Once (part ++ log) →
      (part ++ log).countP Event.isExecuted ≤ 1 + log.countP Event.isSwept from
    hgeneral [] log List.not_mem_nil h
  intro part log
  induction log generalizing part with
  | nil =>
    intro hpart h
    have hcount := h [] part [] (by simp) hpart
    rw [List.append_nil]
    omega
  | cons e log ih =>
    intro hpart h
    cases he : e.isSwept with
    | false =>
      have hmore : Event.swept ∉ part ++ [e] := by
        intro hmem
        rcases List.mem_append.mp hmem with hmem | hmem
        · exact hpart hmem
        · rw [← List.mem_singleton.mp hmem] at he
          exact Bool.noConfusion he
      have hrest := ih (part ++ [e]) hmore (by rwa [List.append_assoc, List.singleton_append])
      rw [List.append_assoc, List.singleton_append] at hrest
      rw [List.countP_cons_of_neg (by rw [he]; exact Bool.false_ne_true)]
      exact hrest
    | true =>
      have hnone : e.isExecuted = false := by
        cases e with
        | swept => rfl
        | began | executed | replayed => exact Bool.noConfusion he
      have hhead := h [] part (e :: log) (by simp) hpart
      have honce : Once log := by
        intro later part' earlier heq hpart'
        exact h (part ++ e :: later) part' earlier (by simp [heq]) hpart'
      have hrest := ih [] List.not_mem_nil honce
      rw [List.nil_append] at hrest
      rw [List.countP_append, List.countP_cons_of_neg (by rw [hnone]; exact Bool.false_ne_true),
        List.countP_cons_of_pos he]
      omega

namespace Config

/-- What is stored and what is replayed was returned to a request with the same hash. -/
structure Traced (model : ResponseModel ρ) (hash : ι → String) (c : Config ι ρ) : Prop where
  stored : ∀ row status, c.row = some row → row.responseStatus = some status →
    ∃ i result, row.responseBody = some (model.modelDump result) ∧ .executed i result ∈ c.log ∧
      hash i = row.requestHash
  replays : ∀ i result, .replayed i result ∈ c.log →
    ∃ j, .executed j result ∈ c.log ∧ hash j = hash i

variable {model : ResponseModel ρ} {hash : ι → String} {c c' : Config ι ρ}

theorem traced_start : (start : Config ι ρ).Traced model hash where
  stored _ _ h := absurd h (by simp [start])
  replays _ _ h := absurd h List.not_mem_nil

theorem mem_of_mem_epoch {e : Event ι ρ} {log : List (Event ι ρ)} (h : e ∈ epoch log) : e ∈ log :=
  (List.takeWhile_sublist _).subset h

/-- A longer log, and no response that was not there before. -/
theorem Traced.frame (h : c.Traced model hash) (hlog : ∀ e ∈ c.log, e ∈ c'.log)
    (hreplayed : ∀ i result, .replayed i result ∈ c'.log → .replayed i result ∈ c.log)
    (hrow : ∀ row status, c'.row = some row → row.responseStatus = some status →
      c.row = some row) : c'.Traced model hash where
  stored row status hr hs := by
    obtain ⟨i, result, hbody, hex, hhash⟩ := h.stored row status (hrow row status hr hs) hs
    exact ⟨i, result, hbody, hlog _ hex, hhash⟩
  replays i result hmem := by
    obtain ⟨j, hex, hhash⟩ := h.replays i result (hreplayed i result hmem)
    exact ⟨j, hlog _ hex, hhash⟩

/-- Every move keeps the responses traced. -/
theorem Traced.step [DecidableEq ι] (h : c.Traced model hash) (hc : c.Coherent model hash)
    (m : Move ι ρ) : (c.step model hash m).Traced model hash := by
  have hdoes := does_step model hash c m
  generalize c.step model hash m = c' at hdoes
  cases hdoes with
  | stay => exact h
  | start | taken | gone | refuse | fail | die | tick =>
    exact h.frame (fun _ he => he) (fun _ _ he => he) (fun _ _ hr _ => hr)
  | register =>
    refine h.frame (fun _ he => List.mem_cons_of_mem _ he) (fun i result he => ?_) ?_
    · exact (List.mem_cons.mp he).resolve_left (by simp)
    · intro row status hr hs
      obtain rfl := Option.some.inj hr
      exact absurd hs (by simp)
  | succeed =>
    refine h.frame (fun _ he => List.mem_cons_of_mem _ he) (fun i result he => ?_)
      (fun _ _ hr _ => hr)
    exact (List.mem_cons.mp he).resolve_left (by simp)
  | sweep =>
    refine h.frame (fun _ he => List.mem_cons_of_mem _ he) (fun i result he => ?_) ?_
    · exact (List.mem_cons.mp he).resolve_left (by simp)
    · exact fun _ _ hr => absurd hr (by simp [record, withRow])
  | discard =>
    refine h.frame (fun _ he => he) (fun _ _ he => he) fun row status hr hs => ?_
    exact (Option.filter_eq_some_iff.mp hr).1
  | @replay i row status result hi hrow hhash hstatus hresult =>
    obtain ⟨j, result', hbody, hex, hj⟩ := h.stored row status hrow hstatus
    rw [hbody, Option.getD_some, model.validate_dump] at hresult
    obtain rfl := Option.some.inj hresult
    refine ⟨fun row' status' hr hs => ?_, fun i' result'' he => ?_⟩
    · obtain ⟨i', result'', hbody', hex', hi'⟩ := h.stored row' status' hr hs
      exact ⟨i', result'', hbody', List.mem_cons_of_mem _ hex', hi'⟩
    · rcases List.mem_cons.mp he with heq | he
      · obtain ⟨rfl, rfl⟩ := Event.replayed.inj heq
        exact ⟨j, List.mem_cons_of_mem _ hex, hj.trans hhash⟩
      · obtain ⟨j', hex', hj'⟩ := h.replays i' result'' he
        exact ⟨j', List.mem_cons_of_mem _ hex', hj'⟩
  | @store i result hi =>
    obtain ⟨row, hrow, hhash, -, -⟩ := hc.owned i (by rw [hi]; rfl)
    refine ⟨fun row' status hr hs => ?_, h.replays⟩
    have hr : c.row.map (fun row => { row with
        responseStatus := some 200, responseBody := some (model.modelDump result) }) = some row' :=
      hr
    rw [hrow, Option.map_some] at hr
    obtain rfl := Option.some.inj hr
    exact ⟨i, result, rfl, mem_of_mem_epoch (hc.handled i result hi), hhash.symm⟩

end Config

/-- The call a move is made by. -/
def Move.caller : Move ι ρ → Option ι
  | .start i | .step i | .succeed i _ | .fail i | .die i => some i
  | .sweep _ | .tick => none

/-- The handler of the call has returned the result. -/
def Phase.Over (result : ρ) (phase : Phase ρ) : Prop :=
  phase = .handled result ∨ phase = .done (.returned result) ∨ phase = .done .died

namespace Config

variable [DecidableEq ι] {model : ResponseModel ρ} {hash : ι → String} {c c' : Config ι ρ}

/-- A call leaves the others where they stand. -/
theorem phase_step_of_ne {m : Move ι ρ} {i j : ι} (hm : m.caller = some i) (hj : j ≠ i) :
    (c.step model hash m).phase j = c.phase j := by
  have hdoes := does_step model hash c m
  generalize c.step model hash m = c' at hdoes
  cases hdoes with
  | stay | sweep | tick => rfl
  | start | register | taken | gone | refuse | replay | discard | store | succeed | fail | die =>
    obtain rfl := Option.some.inj hm
    simp [record, withRow, Config.discard, storeResponse, hj]

/-- A sweep or a tick leaves every call where it stands. -/
theorem phase_step_of_none {m : Move ι ρ} (hm : m.caller = none) (i : ι) :
    (c.step model hash m).phase i = c.phase i := by
  have hdoes := does_step model hash c m
  generalize c.step model hash m = c' at hdoes
  cases hdoes with
  | stay | sweep | tick => rfl
  | start | register | taken | gone | refuse | replay | discard | store | succeed | fail | die =>
    exact absurd hm (by simp [Move.caller])

/-- What is over stays over. -/
theorem over_step {i : ι} {result : ρ} (h : (c.phase i).Over result) (m : Move ι ρ) :
    ((c.step model hash m).phase i).Over result := by
  have hdoes := does_step model hash c m
  generalize c.step model hash m = c' at hdoes
  -- a call that was not over is another one
  have hgoto : ∀ {j : ι} {p : Phase ρ}, (j = i → p.Over result) →
      ((c.goto j p).phase i).Over result := by
    intro j p hp
    rw [phase_goto]
    split
    · next hji => exact hp hji.symm
    · exact h
  have hother : ∀ {j : ι} {p : Phase ρ}, c.phase j = p → ¬ p.Over result → j ≠ i := by
    rintro j p hp hnot rfl
    exact hnot (hp ▸ h)
  cases hdoes with
  | stay | sweep | tick => exact h
  | start hi => exact hgoto fun hji => absurd hji (hother hi (by simp [Phase.Over]))
  | register hi => exact hgoto fun hji => absurd hji (hother hi (by simp [Phase.Over]))
  | taken hi => exact hgoto fun hji => absurd hji (hother hi (by simp [Phase.Over]))
  | gone hi => exact hgoto fun hji => absurd hji (hother hi (by simp [Phase.Over]))
  | refuse hi => exact hgoto fun hji => absurd hji (hother hi (by simp [Phase.Over]))
  | replay hi => exact hgoto fun hji => absurd hji (hother hi (by simp [Phase.Over]))
  | discard hi => exact hgoto fun hji => absurd hji (hother hi (by simp [Phase.Over]))
  | succeed hi => exact hgoto fun hji => absurd hji (hother hi (by simp [Phase.Over]))
  | fail hi => exact hgoto fun hji => absurd hji (hother hi (by simp [Phase.Over]))
  | @store j result' hj =>
    refine hgoto fun hji => ?_
    subst hji
    rw [hj] at h
    rcases h with h | h | h
    · exact Or.inr (Or.inl (by rw [Phase.handled.inj h]))
    · cases h
    · cases h
  | die => exact hgoto fun _ => Or.inr (Or.inr rfl)

end Config

end Idempotency

namespace Actions

open Admin (Operator Problem)
open Idempotency (Event Once)

variable {ι : Type} {calls : ι → Call}

/-! ### The commits against the logs -/

namespace Commit

/-- The key of the request. -/
def key? (entry : Commit calls) : Option Key :=
  (calls entry.call).idempotencyKey.map (keyOf calls entry.call entry.operator)

/-- The response, with the route it is of. -/
def reply (entry : Commit calls) : (r : Route) × r.Response := ⟨_, entry.response⟩

/-- What the log of a key says of it. -/
def execution (k : Key) (entry : Commit calls) : Option (ι × (r : Route) × r.Response) :=
  if entry.key? = some k then some (entry.call, entry.reply) else none

/-- The transaction did what the response says. -/
def Performed (pg : Postgres) (entry : Commit calls) : Prop :=
  work pg entry.operator.subject entry.draw entry.before (calls entry.call).request
    = .ok (entry.after, entry.response)

end Commit

/-- The success an event of the log of a key is. -/
def executionOf (k : Key) : Event ι k.route.Response → Option (ι × (r : Route) × r.Response)
  | .executed i response => some (i, ⟨k.route, response⟩)
  | _ => none

theorem filterMap_executionOf_length (k : Key) (log : List (Event ι k.route.Response)) :
    (log.filterMap (executionOf k)).length = log.countP Event.isExecuted := by
  induction log with
  | nil => rfl
  | cons e log ih =>
    cases e with
    | executed i response =>
      rw [List.filterMap_cons, List.countP_cons_of_pos rfl, ← ih]
      rfl
    | began | replayed | swept =>
      rw [List.filterMap_cons, List.countP_cons_of_neg (by simp [Event.isExecuted]), ← ih]
      rfl

/-- A move that is no success. -/
theorem executions_step [DecidableEq ι] {k : Key}
    {model : Idempotency.ResponseModel k.route.Response} {hash : ι → String}
    (c : Idempotency.Config ι k.route.Response)
    (m : Idempotency.Move ι k.route.Response) (hquiet : ∀ i response, m ≠ .succeed i response) :
    (c.step model hash m).log.filterMap (executionOf k) = c.log.filterMap (executionOf k) := by
  have hdoes := Idempotency.Config.does_step model hash c m
  generalize c.step model hash m = c' at hdoes
  cases hdoes with
  | stay | start | taken | gone | refuse | discard | store | fail | die | tick => rfl
  | register | replay | sweep => rfl
  | succeed => exact absurd rfl (hquiet _ _)

namespace Server

variable [DecidableEq ι]

/-- Where the request of a commit stands. -/
def Settled (c : Server calls) (entry : Commit calls) : Prop :=
  match (calls entry.call).idempotencyKey with
  | none => c.phase entry.call = .answered (.ok entry.response)
  | some key => (∃ target failure, c.phase entry.call = .keyed entry.operator target failure) ∧
      ((c.idempotency (keyOf calls entry.call entry.operator key)).phase entry.call).Over
        entry.response

/-- A sweep spares what running calls may own. -/
def SweepsOld (c : Server calls) : Move ι → Prop
  | .sweep olderThan => ∀ k, (c.idempotency k).SweepsOld (.sweep olderThan)
  | _ => True

variable (pg : Postgres) (digest : String → Option Dict → String)
  (models : (r : Route) → Idempotency.ResponseModel r.Response)

/-- The logs of the keys are those of the protocol. -/
structure Protocol (c : Server calls) (k : Key) : Prop where
  coherent : (c.idempotency k).Coherent (models k.route) (requestHash calls digest)
  once : Once (c.idempotency k).log
  told : (c.idempotency k).Told
  traced : (c.idempotency k).Traced (models k.route) (requestHash calls digest)

/-- A call of the protocol of a key is a request inside `with_idempotency`, under that key. -/
def Enrolled (c : Server calls) : Prop :=
  ∀ i k, (c.idempotency k).phase i ≠ .waiting → ∃ op target failure key,
    c.phase i = .keyed op target failure ∧ (calls i).idempotencyKey = some key ∧
      k = keyOf calls i op key

/-- The phases, the logs of the keys and the commits tell one story. -/
structure Kept (c : Server calls) : Prop where
  protocol : ∀ k, c.Protocol digest models k
  enrolled : c.Enrolled
  unkeyed : ∀ i op target, c.phase i = .working op target → (calls i).idempotencyKey = none
  recorded : ∀ k, c.commits.filterMap (Commit.execution k)
    = (c.idempotency k).log.filterMap (executionOf k)
  settled : ∀ entry ∈ c.commits, c.Settled entry
  once : (c.commits.map Commit.call).Nodup
  plain : ∀ i response, c.phase i = .answered (.ok response) →
    ∃ entry ∈ c.commits, entry.call = i ∧ entry.reply = ⟨_, response⟩
  performed : ∀ entry ∈ c.commits, entry.Performed pg

variable {pg digest models} {c c' : Server calls}

omit [DecidableEq ι] in
theorem kept_start (calls : ι → Call) (store : Store) (directory : Admin.AdminDatabase) :
    (start calls store directory).Kept pg digest models where
  protocol _ :=
    { coherent := Idempotency.Config.coherent_start
      once := .nil
      told := fun _ e he => absurd he (by simp [start, Idempotency.Config.start,
        Idempotency.Phase.told])
      traced := Idempotency.Config.traced_start }
  enrolled _ _ h := absurd rfl h
  unkeyed _ _ _ h := absurd h (by simp [start])
  recorded _ := rfl
  settled _ h := absurd h List.not_mem_nil
  once := List.nodup_nil
  plain _ _ h := absurd h (by simp [start])
  performed _ h := absurd h List.not_mem_nil

/-! ### One step -/

/-- One move of the protocol of a key. -/
theorem Protocol.step {k : Key} {m : Idempotency.Move ι k.route.Response}
    (h : c.Protocol digest models k) (hm : (c.idempotency k).SweepsOld m)
    (hc : c'.idempotency k
      = (c.idempotency k).step (models k.route) (requestHash calls digest) m) :
    c'.Protocol digest models k where
  coherent := hc ▸ h.coherent.step hm
  once := hc ▸ h.coherent.once h.once m
  told := hc ▸ h.told.step m
  traced := hc ▸ h.traced.step h.coherent m

omit [DecidableEq ι] in
theorem Protocol.congr {k : Key} (h : c.Protocol digest models k)
    (hc : c'.idempotency k = c.idempotency k) : c'.Protocol digest models k where
  coherent := hc ▸ h.coherent
  once := hc ▸ h.once
  told := hc ▸ h.told
  traced := hc ▸ h.traced

omit [DecidableEq ι] in
/-- A commit is about a request that is not early any more. -/
theorem Settled.not_early {entry : Commit calls} (h : c.Settled entry) :
    (c.phase entry.call).early = false := by
  rw [Settled] at h
  split at h
  · rw [h]
    rfl
  · obtain ⟨⟨target, failure, hphase⟩, -⟩ := h
    rw [hphase]
    rfl

/-- An early request goes where nothing is answered with success. -/
theorem Kept.goto (h : c.Kept pg digest models) {i : ι} (hi : (c.phase i).early = true)
    {p : Phase (calls i).request.route.Response}
    (hworking : ∀ op target, p = .working op target → (calls i).idempotencyKey = none)
    (hanswer : ∀ response, p ≠ .answered (.ok response)) :
    (c.goto i p).Kept pg digest models := by
  have hself : (c.goto i p).phase i = p := c.phase_goto_self i p
  have hother : ∀ j, j ≠ i → (c.goto i p).phase j = c.phase j :=
    fun j hj => phase_goto_of_ne hj c p
  refine ⟨fun k => (h.protocol k).congr rfl, fun j k hj => ?_, fun j op target hj => ?_,
    h.recorded, fun entry hentry => ?_, h.once, fun j response hj => ?_, h.performed⟩
  · obtain ⟨op, target, failure, key, hphase, hrest⟩ := h.enrolled j k hj
    by_cases hji : j = i
    · subst hji
      rw [hphase] at hi
      exact Bool.noConfusion hi
    · exact ⟨op, target, failure, key, (hother j hji).trans hphase, hrest⟩
  · by_cases hji : j = i
    · subst hji
      exact hworking op target (hself.symm.trans hj)
    · exact h.unkeyed j op target ((hother j hji).symm.trans hj)
  · have hsettled := h.settled entry hentry
    have hne : entry.call ≠ i := by
      rintro rfl
      rw [hsettled.not_early] at hi
      exact Bool.noConfusion hi
    rw [Settled, hother entry.call hne]
    exact hsettled
  · by_cases hji : j = i
    · subst hji
      exact absurd (hself.symm.trans hj) (hanswer response)
    · exact h.plain j response ((hother j hji).symm.trans hj)

theorem idempotency_protocol_self {k : Key} {m : Idempotency.Move ι k.route.Response} :
    (c.protocol digest models k m).idempotency k
      = (c.idempotency k).step (models k.route) (requestHash calls digest) m :=
  Function.update_self k _ c.idempotency

theorem idempotency_protocol_of_ne {k k' : Key} {m : Idempotency.Move ι k.route.Response}
    (hk : k' ≠ k) : (c.protocol digest models k m).idempotency k' = c.idempotency k' :=
  Function.update_of_ne hk _ c.idempotency

/-- What is settled stays so while the protocols go on. -/
theorem Settled.protocol {entry : Commit calls} (h : c.Settled entry) (k : Key)
    (m : Idempotency.Move ι k.route.Response) :
    (c.protocol digest models k m).Settled entry := by
  rw [Settled] at h ⊢
  split
  · next hkey =>
    rw [hkey] at h
    exact h
  · next key hkey =>
    rw [hkey] at h
    refine ⟨h.1, ?_⟩
    by_cases hk : keyOf calls entry.call entry.operator key = k
    · subst hk
      rw [idempotency_protocol_self]
      exact Idempotency.Config.over_step h.2 m
    · rw [idempotency_protocol_of_ne hk]
      exact h.2

/-- The protocol of a key of its own. -/
theorem Enrolled.protocol (h : c.Enrolled) {i : ι} {op : Operator} {target : LeaId}
    {failure : Option Problem} {key : String} (hphase : c.phase i = .keyed op target failure)
    (hkey : (calls i).idempotencyKey = some key)
    {m : Idempotency.Move ι (keyOf calls i op key).route.Response} (hcaller : m.caller = some i) :
    (c.protocol digest models (keyOf calls i op key) m).Enrolled := by
  intro j k hj
  by_cases hk : k = keyOf calls i op key
  · by_cases hji : j = i
    · subst hji
      exact ⟨op, target, failure, key, hphase, hkey, hk⟩
    · subst hk
      rw [idempotency_protocol_self, Idempotency.Config.phase_step_of_ne hcaller hji] at hj
      exact h j _ hj
  · rw [idempotency_protocol_of_ne hk] at hj
    exact h j k hj

theorem protocol_protocol (h : ∀ k, c.Protocol digest models k) {i : ι} {k : Key}
    {m : Idempotency.Move ι k.route.Response} (hcaller : m.caller = some i) (k' : Key) :
    (c.protocol digest models k m).Protocol digest models k' := by
  by_cases hk : k' = k
  · subst hk
    refine (h k').step ?_ idempotency_protocol_self
    cases m with
    | start | step | succeed | fail | die | tick => exact trivial
    | sweep => exact absurd hcaller (by simp [Idempotency.Move.caller])
  · exact (h k').congr (idempotency_protocol_of_ne hk)

/-- A transaction of `with_idempotency`. -/
theorem Kept.turn (h : c.Kept pg digest models) {i : ι} {op : Operator} {target : LeaId}
    {failure : Option Problem} {key : String} (hphase : c.phase i = .keyed op target failure)
    (hkey : (calls i).idempotencyKey = some key)
    {m : Idempotency.Move ι (keyOf calls i op key).route.Response} (hcaller : m.caller = some i)
    (hquiet : ∀ j response, m ≠ .succeed j response) :
    (c.protocol digest models (keyOf calls i op key) m).Kept pg digest models where
  protocol := protocol_protocol h.protocol hcaller
  enrolled := h.enrolled.protocol hphase hkey hcaller
  unkeyed := h.unkeyed
  recorded k := by
    rw [show (c.protocol digest models (keyOf calls i op key) m).commits = c.commits from rfl,
      h.recorded k]
    by_cases hk : k = keyOf calls i op key
    · subst hk
      rw [idempotency_protocol_self, executions_step _ _ hquiet]
    · rw [idempotency_protocol_of_ne hk]
  settled entry hentry := (h.settled entry hentry).protocol _ m
  once := h.once
  plain := h.plain
  performed := h.performed

/-- The handler of a keyed request raises. -/
theorem Kept.rekey (h : c.Kept pg digest models) {i : ι} {op : Operator} {target : LeaId}
    {failure : Option Problem} (hphase : c.phase i = .keyed op target failure)
    (failure' : Option Problem) : (c.goto i (.keyed op target failure')).Kept pg digest models := by
  have hself : (c.goto i (.keyed op target failure')).phase i = .keyed op target failure' :=
    c.phase_goto_self i _
  have hother : ∀ j, j ≠ i → (c.goto i (.keyed op target failure')).phase j = c.phase j :=
    fun j hj => phase_goto_of_ne hj c _
  refine ⟨fun k => (h.protocol k).congr rfl, fun j k hj => ?_, fun j op' target' hj => ?_,
    h.recorded, fun entry hentry => ?_, h.once, fun j response hj => ?_, h.performed⟩
  · obtain ⟨op', target', f, key, hphase', hrest⟩ := h.enrolled j k hj
    by_cases hji : j = i
    · subst hji
      obtain ⟨rfl, rfl, rfl⟩ := Phase.keyed.inj (hphase.symm.trans hphase')
      exact ⟨_, _, _, key, hself, hrest⟩
    · exact ⟨op', target', f, key, (hother j hji).trans hphase', hrest⟩
  · by_cases hji : j = i
    · subst hji
      rw [hself] at hj
      cases hj
    · exact h.unkeyed j op' target' ((hother j hji).symm.trans hj)
  · have hsettled := h.settled entry hentry
    by_cases hji : entry.call = i
    · subst hji
      rw [Settled] at hsettled ⊢
      split
      · next hkey =>
        rw [hkey] at hsettled
        exact absurd (hphase.symm.trans hsettled) (by simp)
      · next key hkey =>
        rw [hkey] at hsettled
        obtain ⟨⟨target', f, hphase'⟩, hover⟩ := hsettled
        obtain ⟨rfl, rfl, rfl⟩ := Phase.keyed.inj (hphase.symm.trans hphase')
        exact ⟨⟨target, failure', hself⟩, hover⟩
    · rw [Settled, hother entry.call hji]
      exact hsettled
  · by_cases hji : j = i
    · subst hji
      rw [hself] at hj
      cases hj
    · exact h.plain j response ((hother j hji).symm.trans hj)

omit [DecidableEq ι] in
/-- The commit of a request that has none yet. -/
theorem once_commit (h : c.Kept pg digest models) {entry : Commit calls}
    (hnone : ∀ old ∈ c.commits, old.call ≠ entry.call) :
    ((entry :: c.commits).map Commit.call).Nodup := by
  rw [List.map_cons, List.nodup_cons]
  refine ⟨fun hmem => ?_, h.once⟩
  obtain ⟨old, hold, heq⟩ := List.mem_map.mp hmem
  exact hnone old hold heq

/-- The handler of a request without a key. -/
theorem Kept.handle (h : c.Kept pg digest models) (entry : Commit calls)
    (hphase : c.phase entry.call = .working entry.operator entry.target)
    (hperformed : entry.Performed pg) :
    ((c.commit entry).goto entry.call (.answered (.ok entry.response))).Kept pg digest models := by
  have hkey : (calls entry.call).idempotencyKey = none := h.unkeyed _ _ _ hphase
  have hself : ((c.commit entry).goto entry.call (.answered (.ok entry.response))).phase entry.call
      = .answered (.ok entry.response) := phase_goto_self _ _ _
  have hother : ∀ j, j ≠ entry.call →
      ((c.commit entry).goto entry.call (.answered (.ok entry.response))).phase j = c.phase j :=
    fun j hj => phase_goto_of_ne hj _ _
  have hnone : ∀ old ∈ c.commits, old.call ≠ entry.call := by
    intro old hold heq
    have hearly := (h.settled old hold).not_early
    rw [heq, hphase] at hearly
    exact Bool.noConfusion hearly
  refine ⟨fun k => (h.protocol k).congr rfl, fun j k hj => ?_, fun j op target hj => ?_,
    fun k => ?_, fun old hold => ?_, once_commit h hnone, fun j response hj => ?_,
    List.forall_mem_cons.mpr ⟨hperformed, h.performed⟩⟩
  · obtain ⟨op, target, failure, key, hphase', hrest⟩ := h.enrolled j k hj
    by_cases hji : j = entry.call
    · subst hji
      exact absurd (hphase.symm.trans hphase') (by simp)
    · exact ⟨op, target, failure, key, (hother j hji).trans hphase', hrest⟩
  · by_cases hji : j = entry.call
    · subst hji
      exact hkey
    · exact h.unkeyed j op target ((hother j hji).symm.trans hj)
  · have hexecution : Commit.execution k entry = none := by
      rw [Commit.execution, Commit.key?, hkey]
      exact if_neg (by simp)
    show (entry :: c.commits).filterMap (Commit.execution k) = _
    rw [List.filterMap_cons, hexecution]
    exact h.recorded k
  · rcases List.mem_cons.mp hold with rfl | hold
    · rw [Settled, hkey]
      exact hself
    · rw [Settled, hother old.call (hnone old hold)]
      exact h.settled old hold
  · by_cases hji : j = entry.call
    · subst hji
      obtain rfl := Except.ok.inj (Phase.answered.inj (hself.symm.trans hj))
      exact ⟨entry, List.mem_cons_self, rfl, rfl⟩
    · obtain ⟨old, hold, hrest⟩ := h.plain j response ((hother j hji).symm.trans hj)
      exact ⟨old, List.mem_cons_of_mem _ hold, hrest⟩

/-- The handler of a request with a key. -/
theorem Kept.succeed (h : c.Kept pg digest models) (entry : Commit calls)
    {failure : Option Problem} {key : String}
    (hphase : c.phase entry.call = .keyed entry.operator entry.target failure)
    (hkey : (calls entry.call).idempotencyKey = some key)
    (hhandling : (c.idempotency (keyOf calls entry.call entry.operator key)).phase entry.call
      = .handling) (hperformed : entry.Performed pg) :
    ((c.commit entry).protocol digest models (keyOf calls entry.call entry.operator key)
      (.succeed entry.call entry.response)).Kept pg digest models := by
  have hnone : ∀ old ∈ c.commits, old.call ≠ entry.call := by
    intro old hold heq
    obtain ⟨i, op, target, draw, response, before, after⟩ := old
    obtain rfl : i = entry.call := heq
    have hsettled := h.settled _ hold
    rw [Settled] at hsettled
    dsimp only at hsettled
    rw [hkey] at hsettled
    obtain ⟨⟨target', f, hphase'⟩, hover⟩ := hsettled
    obtain ⟨rfl, rfl, rfl⟩ := Phase.keyed.inj (hphase.symm.trans hphase')
    rw [hhandling] at hover
    rcases hover with hover | hover | hover <;> cases hover
  have hkeyed : entry.key? = some (keyOf calls entry.call entry.operator key) := by
    rw [Commit.key?, hkey, Option.map_some]
  have hprotocol : ∀ k, (c.commit entry).Protocol digest models k :=
    fun k => (h.protocol k).congr rfl
  have henrolled : (c.commit entry).Enrolled := h.enrolled
  refine ⟨protocol_protocol hprotocol rfl, henrolled.protocol hphase hkey rfl, h.unkeyed,
    fun k => ?_, fun old hold => ?_, once_commit h hnone, fun j response hj => ?_,
    List.forall_mem_cons.mpr ⟨hperformed, h.performed⟩⟩
  · show (entry :: c.commits).filterMap (Commit.execution k) = _
    by_cases hk : k = keyOf calls entry.call entry.operator key
    · subst hk
      rw [idempotency_protocol_self]
      have hlog : ((c.idempotency (keyOf calls entry.call entry.operator key)).step
          (models (keyOf calls entry.call entry.operator key).route) (requestHash calls digest)
          (.succeed entry.call entry.response)).log
          = .executed entry.call entry.response ::
            (c.idempotency (keyOf calls entry.call entry.operator key)).log := by
        simp only [Idempotency.Config.step, hhandling]
        rfl
      show _ = ((c.idempotency
        (keyOf calls entry.call entry.operator key)).step _ _ _).log.filterMap _
      rw [hlog, List.filterMap_cons, List.filterMap_cons, h.recorded, Commit.execution,
        if_pos hkeyed]
      rfl
    · rw [idempotency_protocol_of_ne hk]
      have hexecution : Commit.execution k entry = none := by
        rw [Commit.execution, hkeyed]
        exact if_neg fun heq => hk (Option.some.inj heq).symm
      rw [List.filterMap_cons, hexecution]
      exact h.recorded k
  · rcases List.mem_cons.mp hold with rfl | hold
    · rw [Settled, hkey]
      refine ⟨⟨old.target, failure, hphase⟩, ?_⟩
      dsimp only
      rw [idempotency_protocol_self]
      have hself : ((c.idempotency (keyOf calls old.call old.operator key)).step
          (models (keyOf calls old.call old.operator key).route) (requestHash calls digest)
          (.succeed old.call old.response)).phase old.call = .handled old.response := by
        simp only [Idempotency.Config.step, hhandling]
        simp [Idempotency.Config.record]
      exact Or.inl hself
    · exact Settled.protocol (c := c.commit entry) (h.settled old hold) _ _
  · obtain ⟨old, hold, hrest⟩ := h.plain j response hj
    exact ⟨old, List.mem_cons_of_mem _ hold, hrest⟩

/-- A sweep, or time goes by. -/
theorem Kept.everyKey (h : c.Kept pg digest models) {m : (ρ : Type) → Idempotency.Move ι ρ}
    (hm : ∀ k, (c.idempotency k).SweepsOld (m k.route.Response))
    (hcaller : ∀ ρ, (m ρ).caller = none) : (c.everyKey digest models m).Kept pg digest models where
  protocol k := (h.protocol k).step (hm k) rfl
  enrolled i k hi := by
    refine h.enrolled i k ?_
    have hphase : ((c.idempotency k).step (models k.route) (requestHash calls digest)
        (m k.route.Response)).phase i = (c.idempotency k).phase i :=
      Idempotency.Config.phase_step_of_none (hcaller _) i
    rw [← hphase]
    exact hi
  unkeyed := h.unkeyed
  recorded k := by
    rw [show (c.everyKey digest models m).commits = c.commits from rfl, h.recorded k]
    refine (executions_step _ _ fun i response heq => ?_).symm
    have hnone := hcaller k.route.Response
    rw [heq] at hnone
    cases hnone
  settled entry hentry := by
    have hsettled := h.settled entry hentry
    rw [Settled] at hsettled ⊢
    split
    · next hkey =>
      rw [hkey] at hsettled
      exact hsettled
    · next key hkey =>
      rw [hkey] at hsettled
      exact ⟨hsettled.1, Idempotency.Config.over_step hsettled.2 _⟩
  once := h.once
  plain := h.plain
  performed := h.performed

omit [DecidableEq ι] in
/-- A commit that no request makes. -/
theorem Kept.elsewhere (h : c.Kept pg digest models) (hphase : c'.phase = c.phase)
    (hidempotency : c'.idempotency = c.idempotency) (hcommits : c'.commits = c.commits) :
    c'.Kept pg digest models where
  protocol k := (h.protocol k).congr (by rw [hidempotency])
  enrolled := by rw [Enrolled, hphase, hidempotency]; exact h.enrolled
  unkeyed := by rw [hphase]; exact h.unkeyed
  recorded := by rw [hcommits, hidempotency]; exact h.recorded
  settled entry hentry := by
    rw [hcommits] at hentry
    rw [Settled, hphase, hidempotency]
    exact h.settled entry hentry
  once := by rw [hcommits]; exact h.once
  plain := by rw [hphase, hcommits]; exact h.plain
  performed := by rw [hcommits]; exact h.performed

/-- The step lemma. -/
theorem Kept.step (h : c.Kept pg digest models) {m : Move ι} (hm : c.SweepsOld m) :
    (c.step pg digest models m).Kept pg digest models := by
  have hdoes : Does pg digest models c m (c.step pg digest models m) := does_step c m
  generalize c.step pg digest models m = c' at hdoes
  have hearly : ∀ {i : ι} {p : Phase (calls i).request.route.Response}, c.phase i = p →
      p.early = true → (c.phase i).early = true := by
    intro i p hp hpearly
    rw [hp]
    exact hpearly
  cases hdoes with
  | stay => exact h
  | refuse hi => exact h.goto hi (p := .answered (.error _)) (by simp) (by simp)
  | create hi =>
    have hmoved := h.goto (hearly hi rfl) (p := .answered (.error Admin.noActiveRole)) (by simp)
      (by simp)
    exact hmoved.elsewhere rfl rfl rfl
  | arrive hi => exact h.goto (hearly hi rfl) (by simp) (by simp)
  | loadRole hi => exact h.goto (hearly hi rfl) (by simp) (by simp)
  | loadLeas hi => exact h.goto (hearly hi rfl) (by simp) (by simp)
  | locate hi _ _ hkey => exact h.goto (hearly hi rfl) (fun _ _ _ => hkey) (by simp)
  | @enter i draw op target key hi _ _ hkey =>
    have hmoved := h.goto (hearly hi rfl) (p := .keyed op target none) (by simp) (by simp)
    exact hmoved.turn (c.phase_goto_self i _) hkey (m := .start i) rfl (by simp)
  | @handle i draw op target s' response hi hwork =>
    exact h.handle
      { call := i, operator := op, target := target, draw := draw, response := response
        before := c.store, after := s' } hi hwork
  | @fail m i op target failure key problem hi hkey =>
    exact (h.turn hi hkey (m := .fail i) rfl (by simp)).rekey hi (some problem)
  | @succeed i draw op target failure key s' response hi hkey hhandling hwork =>
    exact h.succeed
      { call := i, operator := op, target := target, draw := draw, response := response
        before := c.store, after := s' } hi hkey hhandling hwork
  | @turn i draw op target failure key hi hkey =>
    exact h.turn hi hkey (m := .step i) rfl (by simp)
  | die hi => exact h.goto hi (by simp) (by simp)
  | @breakOff m i op target failure key hi hkey failure' =>
    exact (h.turn hi hkey (m := .die i) rfl (by simp)).rekey hi failure'
  | sweep => exact h.everyKey hm fun _ => rfl
  | tick => exact h.everyKey (fun _ => trivial) fun _ => rfl
  | operation => exact h.elsewhere rfl rfl rfl
  | administer => exact h.elsewhere rfl rfl rfl

/-- The run lemma. -/
theorem kept_run {store : Store} {directory : Admin.AdminDatabase} {moves : List (Move ι)}
    (h : Runs.Guarded (step pg digest models) SweepsOld (start calls store directory) moves) :
    (Runs.run (step pg digest models) (start calls store directory) moves).Kept pg digest
      models := by
  refine h.invariant (I := fun c => c.Kept pg digest models) (fun c m hc hm => ?_)
    (kept_start calls store directory)
  exact hc.step hm

/-! ### What a client may conclude -/

/-- The key of a request, once it has registered one. -/
def key? (c : Server calls) (i : ι) : Option Key :=
  match c.phase i with
  | .keyed op _ _ => (calls i).idempotencyKey.map (keyOf calls i op)
  | _ => none

omit [DecidableEq ι] in
theorem key?_of_keyed {i : ι} {op : Operator} {target : LeaId} {failure : Option Problem}
    {key : String} (h : c.phase i = .keyed op target failure)
    (hkey : (calls i).idempotencyKey = some key) : c.key? i = some (keyOf calls i op key) := by
  rw [key?, h]
  dsimp only
  rw [hkey, Option.map_some]

/-- Inside `with_idempotency`. -/
def busy (c : Server calls) (i : ι) : Bool :=
  (c.key? i).any fun k => ((c.idempotency k).phase i).running

/-- An exception or the end of the process broke `with_idempotency` off. -/
def BrokenOff (c : Server calls) (i : ι) : Prop :=
  ∃ k, c.key? i = some k ∧ (c.idempotency k).phase i = .done .died

omit [DecidableEq ι] in
/-- While no request is inside `with_idempotency`, a sweep spares them all. -/
theorem Enrolled.sweepsOld (h : c.Enrolled) (hidle : ∀ i, c.busy i = false) (olderThan : Nat) :
    c.SweepsOld (.sweep olderThan) := by
  intro k row hrow hexpired i hrunning
  have hbegun : (c.idempotency k).phase i ≠ .waiting := by
    intro hwaiting
    rw [hwaiting] at hrunning
    exact Bool.noConfusion hrunning
  obtain ⟨op, target, failure, key, hphase, hkey, hk⟩ := h i k hbegun
  have hbusy : c.busy i = true := by
    rw [busy, key?_of_keyed hphase hkey, ← hk]
    exact hrunning
  rw [hidle i] at hbusy
  exact Bool.noConfusion hbusy

variable (pg) in
/-- What the answers say was done was done, and nothing else. -/
structure Accounted (c : Server calls) : Prop where
  /-- A commit is the transaction its response tells of. -/
  performed : ∀ entry ∈ c.commits, entry.Performed pg
  once : (c.commits.map Commit.call).Nodup
  perKey : ∀ k, c.commits.countP (fun entry => decide (entry.key? = some k))
    ≤ 1 + (c.idempotency k).log.countP Event.isSwept
  /-- A 200 is the response of the request's own commit, or of one with its key. -/
  success : ∀ i response, c.answer? i = some (.ok response) → ∃ entry ∈ c.commits,
    entry.reply = ⟨_, response⟩ ∧ (entry.call = i ∨ ∃ k, entry.key? = some k ∧
      c.key? i = some k ∧ (calls entry.call).request = (calls i).request)
  /-- An error is of a request without a commit, or the 500 of one that was broken off. -/
  error : ∀ i problem, c.answer? i = some (.error problem) →
    (∀ entry ∈ c.commits, entry.call ≠ i) ∨ problem = unexpected ∧ c.BrokenOff i

omit [DecidableEq ι] in
/-- A success in the log of a key is a commit under it. -/
theorem Kept.entry_of_executed (h : c.Kept pg digest models) {k : Key} {i : ι}
    {response : k.route.Response} (hlog : .executed i response ∈ (c.idempotency k).log) :
    ∃ entry ∈ c.commits, entry.key? = some k ∧ entry.call = i ∧
      entry.reply = ⟨k.route, response⟩ := by
  have hmem : (i, (⟨k.route, response⟩ : (r : Route) × r.Response))
      ∈ (c.idempotency k).log.filterMap (executionOf k) :=
    List.mem_filterMap.mpr ⟨_, hlog, rfl⟩
  rw [← h.recorded k] at hmem
  obtain ⟨entry, hentry, hexecution⟩ := List.mem_filterMap.mp hmem
  rw [Commit.execution] at hexecution
  split at hexecution
  · next hkey =>
    obtain ⟨hcall, hreply⟩ := Prod.mk.inj (Option.some.inj hexecution)
    exact ⟨entry, hentry, hkey, hcall, hreply⟩
  · cases hexecution

omit [DecidableEq ι] in
/-- A key has one commit, and one more for every sweep of its row. -/
theorem Kept.perKey (h : c.Kept pg digest models) (k : Key) :
    c.commits.countP (fun entry => decide (entry.key? = some k))
      ≤ 1 + (c.idempotency k).log.countP Event.isSwept := by
  have hcount : ∀ commits : List (Commit calls),
      commits.countP (fun entry => decide (entry.key? = some k))
        = (commits.filterMap (Commit.execution k)).length := by
    intro commits
    induction commits with
    | nil => rfl
    | cons entry commits ih =>
      rw [List.filterMap_cons, Commit.execution, List.countP_cons, ih]
      by_cases hkey : entry.key? = some k
      · simp [hkey]
      · simp [hkey]
  rw [hcount, h.recorded k, filterMap_executionOf_length]
  exact (h.protocol k).once.countP_le

end Server

/-- A request is known by its route, its path and its body. -/
theorem request_of_path {r r' : Request} (hroute : r.route = r'.route) (hpath : r.path = r'.path)
    (hbody : r.body = r'.body) : r = r' := by
  have hmiddle : ∀ {a b b' d : String}, a ++ b ++ d = a ++ b' ++ d → b = b' := by
    intro a b b' d heq
    have hlist := congrArg String.toList heq
    simp only [String.toList_append] at hlist
    exact String.toList_injective
      (List.append_cancel_left (List.append_cancel_right hlist))
  cases r with
  | retrySync id reason forced =>
    cases r' with
    | retrySync id' reason' forced' =>
      obtain rfl := hmiddle hpath
      simp only [Request.body, Option.some.injEq, List.cons.injEq, Prod.mk.injEq,
        Json.str.injEq, Json.bool.injEq, true_and, and_true] at hbody
      rw [hbody.1, hbody.2]
    | revertSync | releaseQuarantine | rejectQuarantine => cases hroute
  | revertSync id reason =>
    cases r' with
    | revertSync id' reason' =>
      obtain rfl := hmiddle hpath
      simp only [Request.body, Option.some.injEq, List.cons.injEq, Prod.mk.injEq,
        Json.str.injEq, true_and, and_true] at hbody
      rw [hbody]
    | retrySync | releaseQuarantine | rejectQuarantine => cases hroute
  | releaseQuarantine id =>
    cases r' with
    | releaseQuarantine id' => rw [toString_injective (hmiddle hpath)]
    | retrySync | revertSync | rejectQuarantine => cases hroute
  | rejectQuarantine id reason =>
    cases r' with
    | rejectQuarantine id' reason' =>
      obtain rfl := toString_injective (hmiddle hpath)
      simp only [Request.body, Option.some.injEq, List.cons.injEq, Prod.mk.injEq,
        Json.str.injEq, true_and, and_true] at hbody
      rw [hbody]
    | retrySync | revertSync | releaseQuarantine => cases hroute

/-- The digest tells the requests apart. -/
def TellsApart (calls : ι → Call) (digest : String → Option Dict → String) : Prop :=
  ∀ i j, requestHash calls digest i = requestHash calls digest j →
    (calls i).request.path = (calls j).request.path ∧
      (calls i).request.body = (calls j).request.body

namespace Server

variable [DecidableEq ι] {pg : Postgres} {digest : String → Option Dict → String}
  {models : (r : Route) → Idempotency.ResponseModel r.Response} {c : Server calls}

omit [DecidableEq ι] in
theorem Kept.success (h : c.Kept pg digest models) (hdigest : TellsApart calls digest) {i : ι}
    {response : (calls i).request.route.Response} (hanswer : c.answer? i = some (.ok response)) :
    ∃ entry ∈ c.commits, entry.reply = ⟨_, response⟩ ∧ (entry.call = i ∨ ∃ k,
      entry.key? = some k ∧ c.key? i = some k ∧
        (calls entry.call).request = (calls i).request) := by
  rw [answer?] at hanswer
  split at hanswer
  · next answer hphase =>
    obtain rfl := Option.some.inj hanswer
    obtain ⟨entry, hentry, hcall, hreply⟩ := h.plain i response hphase
    exact ⟨entry, hentry, hreply, Or.inl hcall⟩
  · next op target failure hphase =>
    split at hanswer
    · cases hanswer
    next key hkey =>
    have htold := (h.protocol (keyOf calls i op key)).told i
    split at hanswer
    · next result hdone =>
      -- its own handler
      obtain rfl := Except.ok.inj (Option.some.inj hanswer)
      rw [hdone] at htold
      obtain ⟨entry, hentry, -, hcall, hreply⟩ := h.entry_of_executed (htold _ rfl)
      exact ⟨entry, hentry, hreply, Or.inl hcall⟩
    · next result hdone =>
      -- a replay
      obtain rfl := Except.ok.inj (Option.some.inj hanswer)
      rw [hdone] at htold
      obtain ⟨j, hex, hhash⟩ := (h.protocol _).traced.replays i result (htold _ rfl)
      obtain ⟨entry, hentry, hentryKey, rfl, hreply⟩ := h.entry_of_executed hex
      obtain ⟨hpath, hbody⟩ := hdigest _ _ hhash
      have hroute : (calls entry.call).request.route = (calls i).request.route :=
        congrArg Sigma.fst hreply
      exact ⟨entry, hentry, hreply, Or.inr ⟨_, hentryKey, key?_of_keyed hphase hkey,
        request_of_path hroute hpath hbody⟩⟩
    · cases Option.some.inj hanswer
    · cases Option.some.inj hanswer
    · cases Option.some.inj hanswer
    · cases failure <;> cases hanswer
    · cases failure <;> cases hanswer
    · cases hanswer
  · cases hanswer

omit [DecidableEq ι] in
theorem Kept.error (h : c.Kept pg digest models) {i : ι} {problem : Problem}
    (hanswer : c.answer? i = some (.error problem)) :
    (∀ entry ∈ c.commits, entry.call ≠ i) ∨ problem = unexpected ∧ c.BrokenOff i := by
  by_cases hcommitted : ∃ entry ∈ c.commits, entry.call = i
  swap
  · exact Or.inl fun entry hentry hcall => hcommitted ⟨entry, hentry, hcall⟩
  right
  obtain ⟨entry, hentry, rfl⟩ := hcommitted
  have hsettled := h.settled entry hentry
  rw [Settled] at hsettled
  rw [answer?] at hanswer
  split at hsettled
  · rw [hsettled] at hanswer
    cases Option.some.inj hanswer
  · next key hkey =>
    obtain ⟨⟨target, failure, hphase⟩, hover⟩ := hsettled
    rw [hphase] at hanswer
    dsimp only at hanswer
    rw [hkey] at hanswer
    dsimp only at hanswer
    -- the handler is over: it has answered 200, or has not answered, or was broken off
    rcases hover with hover | hover | hover
    · rw [hover] at hanswer
      cases hanswer
    · rw [hover] at hanswer
      cases hanswer
    · rw [hover] at hanswer
      obtain ⟨raised, -, hproblem⟩ := Option.map_eq_some_iff.mp hanswer
      exact ⟨(Except.error.inj hproblem).symm, _, key?_of_keyed hphase hkey, hover⟩

end Server

/-- **The answers can be trusted.**  Whatever the order of the steps of the requests, of their
crashes and of the transactions that raise, of other commits, and of sweeps that spare the
running requests: every commit is the transaction its response tells of; a request commits at
most once, and so do all requests with one key, up to one more for each sweep of it; a 200 is
the response of the request's own commit or of that of the same request under the same key;
and an error means that the request has committed nothing, unless it is the 500 of a request
that was broken off inside `with_idempotency`. -/
theorem answers_accounted [DecidableEq ι] (pg : Postgres) (digest : String → Option Dict → String)
    (models : (r : Route) → Idempotency.ResponseModel r.Response) (calls : ι → Call)
    (store : Store) (directory : Admin.AdminDatabase) (moves : List (Move ι))
    (hdigest : TellsApart calls digest)
    (hsweeps : Runs.Guarded (Server.step pg digest models) Server.SweepsOld
      (Server.start calls store directory) moves) :
    (Runs.run (Server.step pg digest models) (Server.start calls store directory)
      moves).Accounted pg := by
  have hkept := Server.kept_run hsweeps
  exact ⟨hkept.performed, hkept.once, hkept.perKey, fun _ _ h => hkept.success hdigest h,
    fun _ _ h => hkept.error h⟩

/-! ### A retry that is sent again -/

namespace SentAgain

/-- The response models, for a quarantine id that is a number. -/
def models : (r : Route) → Idempotency.ResponseModel r.Response
  | .retrySync =>
    { modelDump := fun (r : RetryResponse) =>
        [("sync_job_id", .str r.syncJobId), ("lea_id", .str r.leaId), ("partner", .str r.partner),
          ("cursor_rewound_to", r.cursorRewoundTo.elim .null .str), ("forced", .bool r.forced)]
      modelValidate := fun body =>
        match body.get? "sync_job_id", body.get? "lea_id", body.get? "partner",
          body.get? "cursor_rewound_to", body.get? "forced" with
        | some (.str id), some (.str leaId), some (.str partner), some .null,
          some (.bool forced) => some (⟨id, leaId, partner, none, forced⟩ : RetryResponse)
        | some (.str id), some (.str leaId), some (.str partner), some (.str cursor),
          some (.bool forced) => some (⟨id, leaId, partner, some cursor, forced⟩ : RetryResponse)
        | _, _, _, _, _ => none
      validate_dump := by
        rintro ⟨id, leaId, partner, _ | cursor, forced⟩ <;> rfl }
  | .revertSync =>
    { modelDump := fun (r : RevertResponse) =>
        [("sync_job_id", .str r.syncJobId), ("revert_generation_id", .str r.revertGenerationId),
          ("snapshots_restored", .int r.snapshotsRestored),
          ("canonical_rows_updated", .int r.canonicalRowsUpdated),
          ("canonical_rows_soft_deleted", .int r.canonicalRowsSoftDeleted)]
      modelValidate := fun body =>
        match body.get? "sync_job_id", body.get? "revert_generation_id",
          body.get? "snapshots_restored", body.get? "canonical_rows_updated",
          body.get? "canonical_rows_soft_deleted" with
        | some (.str id), some (.str g), some (.int restored), some (.int updated),
          some (.int deleted) =>
          some (⟨id, g, restored.toNat, updated.toNat, deleted.toNat⟩ : RevertResponse)
        | _, _, _, _, _ => none
      validate_dump := fun _ => rfl }
  | .releaseQuarantine =>
    { modelDump := fun (r : QuarantineReleaseResponse) =>
        [("quarantine_id", .int r.quarantineId),
          ("release_generation_id", .str r.releaseGenerationId),
          ("entity_type", .str r.entityType), ("entity_id", .str r.entityId)]
      modelValidate := fun body =>
        match body.get? "quarantine_id", body.get? "release_generation_id",
          body.get? "entity_type", body.get? "entity_id" with
        | some (.int id), some (.str g), some (.str entityType), some (.str entityId) =>
          some (⟨id.toNat, g, entityType, entityId⟩ : QuarantineReleaseResponse)
        | _, _, _, _ => none
      validate_dump := fun _ => rfl }
  | .rejectQuarantine =>
    { modelDump := fun (r : QuarantineRejectResponse) =>
        [("quarantine_id", .int r.quarantineId), ("rejected_at", .int r.rejectedAt)]
      modelValidate := fun body =>
        match body.get? "quarantine_id", body.get? "rejected_at" with
        | some (.int id), some (.int rejectedAt) =>
          some (⟨id.toNat, rejectedAt.toNat⟩ : QuarantineRejectResponse)
        | _, _ => none
      validate_dump := fun _ => rfl }

inductive Sender where
  | first
  | again
  | other
deriving DecidableEq

/-- All of the same job and under one key, but one gives another reason. -/
def requests (sender : Sender) : Call where
  claims := { sub := "alex" }
  request := .retrySync "job-1" (if sender = .other then "still stalled" else "stalled") false
  idempotencyKey := some "key-1"

/-- The text itself. -/
def digest (path : String) (body : Option Dict) : String :=
  path ++ Json.pyStr (.obj (body.getD []))

theorem tellsApart : TellsApart requests digest := by
  intro i j heq
  refine ⟨rfl, ?_⟩
  cases i <;> cases j <;> first | rfl | exact absurd heq (by decide +kernel)

/-- A failed job of LEA L1, and an admin. -/
def store : Store :=
  { Store.empty with
    syncJobs := Store.empty.syncJobs.insert "job-1"
      { leaId := "L1", partner := "edlink", status := .failed, startedAt := 1
        cursorBefore := some "evt_7" } }

def directory : Admin.AdminDatabase :=
  let empty : Admin.AdminDatabase := {}
  { empty with
    leas := empty.leas.insert "L1"
      { name := "Unified", leaType := "traditional_district", state := "CA" }
    operators := empty.operators.insert "op-1"
      { subject := "alex", displayName := "Alex", email := "alex@example.org" }
    operatorRoles := empty.operatorRoles.insert "role-1" { operatorId := "op-1", role := .admin } }

/-- The first request runs to its end. -/
def before : List (Move Sender) := List.replicate 7 (.step .first { now := 9 }) ++ [.tick]

/-- The same again, whose response cannot be stored, and then the other. -/
def after : List (Move Sender) :=
  List.replicate 6 (.step .again { now := 11 }) ++ [.raise .again]
    ++ List.replicate 6 (.step .other { now := 12 })

/-- Between them a sweep takes the row of the key. -/
def moves : List (Move Sender) := before ++ .sweep 0 :: after

end SentAgain

open SentAgain in
theorem answers_accounted_sentAgain :
    (Runs.run (Server.step .reference digest models) (Server.start requests store directory)
      moves).Accounted .reference := by
  refine answers_accounted .reference digest models requests store directory moves tellsApart ?_
  have hbefore : Runs.Guarded (Server.step .reference digest models) Server.SweepsOld
      (Server.start requests store directory) before := by
    simp only [before, List.replicate, List.cons_append, List.nil_append, Runs.Guarded,
      Server.SweepsOld, and_self]
  refine Runs.Guarded.append.mpr ⟨hbefore, ?_, ?_⟩
  · -- the first request has been answered, and the others have not arrived
    refine (Server.kept_run hbefore).enrolled.sweepsOld ?_ 0
    intro i
    cases i <;> decide +kernel
  · simp only [after, List.replicate, List.cons_append, List.nil_append, Runs.Guarded,
      Server.SweepsOld, and_self]

open SentAgain in
/-- Two retries, the second of which answers 500, and a key that is taken. -/
example :
    let c := Runs.run (Server.step .reference digest models)
      (Server.start requests store directory) moves
    let status (i : Sender) := (c.answer? i).map fun answer =>
      match answer with
      | .ok _ => 200
      | .error problem => problem.status
    c.store.retryActions.length = 2 ∧
      (status .first, status .again, status .other) = (some 200, some 500, some 422) := by
  decide +kernel

end Actions
