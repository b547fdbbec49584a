/-
The Idempotency-Key protocol.

Transcribed from `services/idempotency.py`, for the calls of one (operator, route,
key).  A call is a chain of transactions of its own: the insert that registers the
key, with the read that follows a conflict; the delete of `discard`; the update of
`store_response`.  Each runs on the one row of the key, so each is one step here, and
between them any other call, sweep or crash may come.  `response_model` is pydantic's:
what it dumps it validates to the same value.

The log of a configuration is kept beside the database, newest first: which handlers
ran, what was replayed, and when a sweep took the row.

* `Config.does_step` — what one move can do;
* `Config.Coherent.step` — a call in its handler owns the row;
* `idempotency_protocol` — one success for each life of the row, and replays of it.
-/
import Mathlib.Data.Fintype.Basic
import EdlinkRostering.Json
import EdlinkRostering.Entities
import EdlinkRostering.Runs

namespace Idempotency

/-- `response_model`, with `model_dump(mode="json")` and `model_validate`. -/
structure ResponseModel (ρ : Type*) where
  modelDump : ρ → Dict
  modelValidate : Dict → Option ρ
  validate_dump : ∀ result, modelValidate (modelDump result) = some result

/-- The row of the key in `idempotency_keys`. -/
structure KeyRow where
  requestHash : String
  responseStatus : Option Nat := none
  responseBody : Option Dict := none
  createdAt : Instant
deriving DecidableEq

/-- How a call ended. -/
inductive Outcome (ρ : Type*) where
  | returned (result : ρ)
  | replayed (result : ρ)
  | conflict
  | inFlight
  | invalid
  | raised
  | died
deriving DecidableEq

/-- Where a call of `with_idempotency` stands; `now` is the start of its transaction. -/
inductive Phase (ρ : Type*) where
  | waiting
  | inserting (now : Instant)
  | selecting
  | handling
  | raised
  | handled (result : ρ)
  | done (outcome : Outcome ρ)
deriving DecidableEq

namespace Phase

variable {ρ : Type*}

/-- The call has begun and has not ended. -/
def running : Phase ρ → Bool
  | .waiting => false
  | .done _ => false
  | _ => true

/-- The call has registered the key and has neither stored nor discarded it. -/
def owns : Phase ρ → Bool
  | .handling => true
  | .raised => true
  | .handled _ => true
  | _ => false

end Phase

inductive Event (ι ρ : Type*) where
  | began (i : ι)
  | executed (i : ι) (result : ρ)
  | replayed (i : ι) (result : ρ)
  | swept
deriving DecidableEq

namespace Event

variable {ι ρ : Type*}

/-- The call whose handler or response an event is about. -/
def caller : Event ι ρ → Option ι
  | .began i => some i
  | .executed i _ => some i
  | .replayed i _ => some i
  | .swept => none

def isExecuted : Event ι ρ → Bool
  | .executed _ _ => true
  | _ => false

def isSwept : Event ι ρ → Bool
  | .swept => true
  | _ => false

end Event

/-! ### Logs -/

section

variable {ι ρ : Type*}

/-- What has happened since the last sweep of the row. -/
def epoch (log : List (Event ι ρ)) : List (Event ι ρ) := log.takeWhile fun e => !e.isSwept

/-- Between two sweeps at most one handler succeeds. -/
def Once (log : List (Event ι ρ)) : Prop :=
  ∀ later part earlier, log = later ++ part ++ earlier → .swept ∉ part →
    part.countP Event.isExecuted ≤ 1

/-- A replay is of the result that a handler of the same epoch returned. -/
def Replays (log : List (Event ι ρ)) : Prop :=
  ∀ later i result earlier, log = later ++ .replayed i result :: earlier →
    ∃ j, .executed j result ∈ epoch earlier

theorem epoch_cons {e : Event ι ρ} (he : e.isSwept = false) (log : List (Event ι ρ)) :
    epoch (e :: log) = e :: epoch log := by
  rw [epoch, List.takeWhile_cons_of_pos (by rw [he]; rfl), epoch]

/-- A part without a sweep at the head of a log belongs to its epoch. -/
theorem subset_epoch {part earlier : List (Event ι ρ)} (hpart : .swept ∉ part) :
    ∀ e ∈ part, e ∈ epoch (part ++ earlier) := by
  induction part with
  | nil => exact fun e he => absurd he List.not_mem_nil
  | cons x part ih =>
    have hx : x.isSwept = false := by
      cases x with
      | swept => exact absurd List.mem_cons_self hpart
      | began | executed | replayed => rfl
    have hrest := ih fun h => hpart (List.mem_cons_of_mem _ h)
    intro e he
    rw [List.cons_append, epoch_cons hx]
    rcases List.mem_cons.mp he with rfl | he
    · exact List.mem_cons_self
    · exact List.mem_cons_of_mem _ (hrest e he)

theorem Once.nil : Once ([] : List (Event ι ρ)) := by
  intro later part earlier h _
  obtain ⟨h, -⟩ := List.append_eq_nil_iff.mp h.symm
  obtain ⟨-, rfl⟩ := List.append_eq_nil_iff.mp h
  exact Nat.zero_le 1

/-- A success may follow an epoch without one. -/
theorem Once.cons {log : List (Event ι ρ)} {e : Event ι ρ} (h : Once log)
    (he : e.isExecuted = true → ∀ x ∈ epoch log, x.isExecuted = false) : Once (e :: log) := by
  intro later part earlier heq hpart
  cases later with
  | cons x later =>
    exact h later part earlier (List.cons.inj heq).2 hpart
  | nil =>
    cases part with
    | nil => exact Nat.zero_le 1
    | cons x part =>
      obtain ⟨rfl, hlog⟩ := List.cons.inj heq
      have hrest : .swept ∉ part := fun hs => hpart (List.mem_cons_of_mem _ hs)
      have hcount : part.countP Event.isExecuted ≤ 1 := h [] part earlier hlog hrest
      by_cases hx : e.isExecuted = true
      · have hnone : part.countP Event.isExecuted = 0 := by
          refine List.countP_eq_zero.mpr fun y hy => ?_
          have hepoch : y ∈ epoch log := hlog ▸ subset_epoch hrest y hy
          rw [he hx y hepoch]
          exact Bool.false_ne_true
        rw [List.countP_cons_of_pos hx]
        omega
      · rw [List.countP_cons_of_neg hx]
        exact hcount

theorem Replays.nil : Replays ([] : List (Event ι ρ)) :=
  fun _ _ _ _ h => absurd h (by simp)

theorem Replays.cons {log : List (Event ι ρ)} {e : Event ι ρ} (h : Replays log)
    (he : ∀ i result, e = .replayed i result → ∃ j, .executed j result ∈ epoch log) :
    Replays (e :: log) := by
  intro later i result earlier heq
  cases later with
  | nil =>
    obtain ⟨rfl, rfl⟩ := List.cons.inj heq
    exact he i result rfl
  | cons x later => exact h later i result earlier (List.cons.inj heq).2

end

/-- The row of the key, the calls, the clock of the database and the log. -/
structure Config (ι ρ : Type*) where
  row : Option KeyRow
  phase : ι → Phase ρ
  startedAt : ι → Instant
  clock : Instant
  log : List (Event ι ρ)

inductive Move (ι ρ : Type*) where
  | start (i : ι)
  | step (i : ι)
  | succeed (i : ι) (result : ρ)
  | fail (i : ι)
  | die (i : ι)
  | sweep (olderThan : Nat)
  | tick

variable {ι ρ : Type*}

/-- What the log holds of a call in this phase. -/
def Phase.told (i : ι) : Phase ρ → Option (Event ι ρ)
  | .handled result => some (.executed i result)
  | .done (.returned result) => some (.executed i result)
  | .done (.replayed result) => some (.replayed i result)
  | _ => none

namespace Config

/-- No row, and no call has begun. -/
def start : Config ι ρ where
  row := none
  phase _ := .waiting
  startedAt _ := 0
  clock := 0
  log := []

variable [DecidableEq ι]

/-- A call in a new phase. -/
def goto (c : Config ι ρ) (i : ι) (p : Phase ρ) : Config ι ρ :=
  { c with phase := Function.update c.phase i p }

def withRow (c : Config ι ρ) (row : Option KeyRow) : Config ι ρ := { c with row := row }

def record (c : Config ι ρ) (e : Event ι ρ) : Config ι ρ := { c with log := e :: c.log }

/-- `INSERT … ON CONFLICT DO NOTHING` of `get_or_register`; a conflict leads on to the
`SELECT`.  The insert is one step with its commit: before that other inserts of the key wait
for it, and no read sees it. -/
def insert (hash : ι → String) (c : Config ι ρ) (i : ι) (now : Instant) : Config ι ρ :=
  match c.row with
  | none => ((c.withRow (some { requestHash := hash i, createdAt := now })).goto i .handling).record
      (.began i)
  | some _ => c.goto i .selecting

/-- `SELECT request_hash, response_status, response_body`: a row that is gone means another
round. -/
def select (model : ResponseModel ρ) (hash : ι → String) (c : Config ι ρ) (i : ι) : Config ι ρ :=
  match c.row with
  | none => c.goto i (.inserting c.clock)
  | some row =>
    if row.requestHash ≠ hash i then c.goto i (.done .conflict)
    else match row.responseStatus with
      | none => c.goto i (.done .inFlight)
      | some _ =>
        match model.modelValidate (row.responseBody.getD []) with
        | none => c.goto i (.done .invalid)
        | some result => (c.goto i (.done (.replayed result))).record (.replayed i result)

/-- `DELETE … WHERE response_status IS NULL`. -/
def discard (c : Config ι ρ) : Config ι ρ :=
  c.withRow (c.row.filter fun row => row.responseStatus.isSome)

/-- `UPDATE … SET response_status, response_body`. -/
def storeResponse (c : Config ι ρ) (status : Nat) (body : Dict) : Config ι ρ :=
  c.withRow (c.row.map fun row =>
    { row with responseStatus := some status, responseBody := some body })

/-- `DELETE … WHERE created_at < NOW() - older_than`. -/
def sweepStale (c : Config ι ρ) (olderThan : Nat) : Config ι ρ :=
  match c.row with
  | none => c
  | some row =>
    if row.createdAt + olderThan < c.clock then (c.withRow none).record .swept else c

/-- One move; a move that is not the call's turn changes nothing.  `die` is a crash, or an
exception outside the handler or not an `Exception`. -/
def step (model : ResponseModel ρ) (hash : ι → String) (c : Config ι ρ) : Move ι ρ → Config ι ρ
  | .start i =>
    match c.phase i with
    | .waiting => { c.goto i (.inserting c.clock) with
        startedAt := Function.update c.startedAt i c.clock }
    | _ => c
  | .step i =>
    match c.phase i with
    | .inserting now => c.insert hash i now
    | .selecting => c.select model hash i
    | .raised => (c.discard).goto i (.done .raised)
    | .handled result =>
      (c.storeResponse 200 (model.modelDump result)).goto i (.done (.returned result))
    | _ => c
  | .succeed i result =>
    match c.phase i with
    | .handling => (c.goto i (.handled result)).record (.executed i result)
    | _ => c
  | .fail i =>
    match c.phase i with
    | .handling => c.goto i .raised
    | _ => c
  | .die i => if (c.phase i).running then c.goto i (.done .died) else c
  | .sweep olderThan => c.sweepStale olderThan
  | .tick => { c with clock := c.clock + 1 }

/-- A sweep removes the row only when it is older than every call still running. -/
def SweepsOld (c : Config ι ρ) : Move ι ρ → Prop
  | .sweep olderThan => ∀ row ∈ c.row, row.createdAt + olderThan < c.clock →
      ∀ i, (c.phase i).running → row.createdAt < c.startedAt i
  | _ => True

instance [Fintype ι] (c : Config ι ρ) : (m : Move ι ρ) → Decidable (c.SweepsOld m)
  | .sweep olderThan =>
    decidable_of_iff ((c.row.all fun row => decide (row.createdAt + olderThan < c.clock →
      ∀ i, (c.phase i).running → row.createdAt < c.startedAt i)) = true) (by
        simp only [Option.all_eq_true, decide_eq_true_eq, Option.mem_def, SweepsOld])
  | .start _ | .step _ | .succeed _ _ | .fail _ | .die _ | .tick => .isTrue trivial

/-! ### The effect of a move on the fields -/

@[simp] theorem phase_goto (c : Config ι ρ) (i j : ι) (p : Phase ρ) :
    (c.goto i p).phase j = if j = i then p else c.phase j := by
  simp only [goto, Function.update_apply]

@[simp] theorem row_goto (c : Config ι ρ) (i : ι) (p : Phase ρ) : (c.goto i p).row = c.row := rfl
@[simp] theorem log_goto (c : Config ι ρ) (i : ι) (p : Phase ρ) : (c.goto i p).log = c.log := rfl
@[simp] theorem startedAt_goto (c : Config ι ρ) (i : ι) (p : Phase ρ) :
    (c.goto i p).startedAt = c.startedAt := rfl
@[simp] theorem clock_goto (c : Config ι ρ) (i : ι) (p : Phase ρ) :
    (c.goto i p).clock = c.clock := rfl

/-- What one move can do. -/
inductive Does (model : ResponseModel ρ) (hash : ι → String) (c : Config ι ρ) :
    Move ι ρ → Config ι ρ → Prop where
  | stay {m} : Does model hash c m c
  | start {i} (h : c.phase i = .waiting) : Does model hash c (.start i)
      { c.goto i (.inserting c.clock) with startedAt := Function.update c.startedAt i c.clock }
  | register {i now} (h : c.phase i = .inserting now) (hrow : c.row = none) :
      Does model hash c (.step i)
        (((c.withRow (some { requestHash := hash i, createdAt := now })).goto i .handling).record
          (.began i))
  | taken {i now row} (h : c.phase i = .inserting now) (hrow : c.row = some row) :
      Does model hash c (.step i) (c.goto i .selecting)
  | gone {i} (h : c.phase i = .selecting) (hrow : c.row = none) :
      Does model hash c (.step i) (c.goto i (.inserting c.clock))
  | refuse {i row outcome} (h : c.phase i = .selecting) (hrow : c.row = some row)
      (ho : outcome = .conflict ∨ outcome = .inFlight ∨ outcome = .invalid) :
      Does model hash c (.step i) (c.goto i (.done outcome))
  | replay {i row status result} (h : c.phase i = .selecting) (hrow : c.row = some row)
      (hhash : row.requestHash = hash i) (hstatus : row.responseStatus = some status)
      (hresult : model.modelValidate (row.responseBody.getD []) = some result) :
      Does model hash c (.step i)
        ((c.goto i (.done (.replayed result))).record (.replayed i result))
  | discard {i} (h : c.phase i = .raised) :
      Does model hash c (.step i) (c.discard.goto i (.done .raised))
  | store {i result} (h : c.phase i = .handled result) : Does model hash c (.step i)
      ((c.storeResponse 200 (model.modelDump result)).goto i (.done (.returned result)))
  | succeed {i result} (h : c.phase i = .handling) : Does model hash c (.succeed i result)
      ((c.goto i (.handled result)).record (.executed i result))
  | fail {i} (h : c.phase i = .handling) : Does model hash c (.fail i) (c.goto i .raised)
  | die {i} (h : (c.phase i).running = true) : Does model hash c (.die i) (c.goto i (.done .died))
  | sweep {olderThan row} (hrow : c.row = some row)
      (hold : row.createdAt + olderThan < c.clock) :
      Does model hash c (.sweep olderThan) ((c.withRow none).record .swept)
  | tick : Does model hash c .tick { c with clock := c.clock + 1 }

theorem does_step (model : ResponseModel ρ) (hash : ι → String) (c : Config ι ρ) (m : Move ι ρ) :
    Does model hash c m (c.step model hash m) := by
  cases m with
  | start i =>
    simp only [step]
    split
    · next h => exact .start h
    · exact .stay
  | step i =>
    simp only [step]
    split
    · next now h =>
      cases hrow : c.row with
      | none =>
        simp only [insert, hrow]
        exact .register h hrow
      | some row =>
        simp only [insert, hrow]
        exact .taken h hrow
    · next h =>
      -- the key is taken, and what its row says decides
      cases hrow : c.row with
      | none =>
        simp only [select, hrow]
        exact .gone h hrow
      | some row =>
        simp only [select, hrow]
        split
        · exact .refuse h hrow (Or.inl rfl)
        · next hhash =>
          split
          · exact .refuse h hrow (Or.inr (Or.inl rfl))
          · next status hstatus =>
            split
            · exact .refuse h hrow (Or.inr (Or.inr rfl))
            · next result hresult => exact .replay h hrow (not_not.mp hhash) hstatus hresult
    · next h => exact .discard h
    · next result h => exact .store h
    · exact .stay
  | succeed i result =>
    simp only [step]
    split
    · next h => exact .succeed h
    · exact .stay
  | fail i =>
    simp only [step]
    split
    · next h => exact .fail h
    · exact .stay
  | die i =>
    simp only [step]
    split
    · next h => exact .die h
    · exact .stay
  | sweep olderThan =>
    simp only [step, sweepStale]
    split
    · exact .stay
    · next row hrow =>
      split
      · next hold => exact .sweep hrow hold
      · exact .stay
  | tick => exact .tick

/-! ### The invariant -/

/-- The row against the calls and the log: a call in its handler has registered the row
and nothing has been stored in it, and what is stored was returned since the last sweep. -/
structure Coherent (model : ResponseModel ρ) (hash : ι → String) (c : Config ι ρ) : Prop where
  owned : ∀ i, (c.phase i).owns = true → ∃ row, c.row = some row ∧ row.requestHash = hash i ∧
    row.responseStatus = none ∧ c.startedAt i ≤ row.createdAt
  single : ∀ i j, (c.phase i).owns = true → (c.phase j).owns = true → i = j
  fresh : (c.row = none ∨ ∃ i, c.phase i = .handling ∨ c.phase i = .raised) →
    ∀ e ∈ epoch c.log, e.isExecuted = false
  handled : ∀ i result, c.phase i = .handled result → .executed i result ∈ epoch c.log
  complete : ∀ row status, c.row = some row → row.responseStatus = some status →
    ∃ i result, row.responseBody = some (model.modelDump result) ∧
      .executed i result ∈ epoch c.log
  began : ∀ i now, c.phase i = .inserting now → c.startedAt i ≤ now
  clocked : ∀ i, c.startedAt i ≤ c.clock

variable {model : ResponseModel ρ} {hash : ι → String} {c c' : Config ι ρ}

omit [DecidableEq ι] in
theorem coherent_start : (start : Config ι ρ).Coherent model hash where
  owned _ h := absurd h (by simp [start, Phase.owns])
  single _ _ h := absurd h (by simp [start, Phase.owns])
  fresh _ e he := absurd he (by simp [start, epoch])
  handled _ _ h := absurd h (by simp [start])
  complete _ _ h := absurd h (by simp [start])
  began _ _ h := absurd h (by simp [start])
  clocked _ := le_rfl

omit [DecidableEq ι] in
/-- A move that leaves the row, and makes no call an owner. -/
theorem Coherent.frame (h : c.Coherent model hash) (hrow : c'.row = c.row)
    (hlog : ∀ e, e.isExecuted = true → (e ∈ epoch c'.log ↔ e ∈ epoch c.log))
    (howns : ∀ i, (c'.phase i).owns = true →
      (c.phase i).owns = true ∧ c'.startedAt i = c.startedAt i)
    (hhandling : ∀ i, c'.phase i = .handling ∨ c'.phase i = .raised →
      c.phase i = .handling ∨ c.phase i = .raised)
    (hhandled : ∀ i result, c'.phase i = .handled result → c.phase i = .handled result)
    (hbegan : ∀ i now, c'.phase i = .inserting now → c'.startedAt i ≤ now)
    (hclocked : ∀ i, c'.startedAt i ≤ c'.clock) : c'.Coherent model hash where
  owned i hi := by
    obtain ⟨hown, hstarted⟩ := howns i hi
    rw [hrow, hstarted]
    exact h.owned i hown
  single i j hi hj := h.single i j (howns i hi).1 (howns j hj).1
  fresh hfree e he := by
    have hfree' : c.row = none ∨ ∃ i, c.phase i = .handling ∨ c.phase i = .raised := by
      rcases hfree with hnone | ⟨i, hi⟩
      · exact Or.inl (hrow ▸ hnone)
      · exact Or.inr ⟨i, hhandling i hi⟩
    by_contra hex
    have hex : e.isExecuted = true := by simpa using hex
    exact absurd hex (by simp [h.fresh hfree' e ((hlog e hex).mp he)])
  handled i result hi := (hlog _ rfl).mpr (h.handled i result (hhandled i result hi))
  complete row status hr hs := by
    obtain ⟨i, result, hbody, hex⟩ := h.complete row status (hrow ▸ hr) hs
    exact ⟨i, result, hbody, (hlog _ rfl).mpr hex⟩
  began := hbegan
  clocked := hclocked

/-- A call goes to a phase in which it owns nothing. -/
theorem Coherent.goto (h : c.Coherent model hash) {i : ι} {p : Phase ρ} (hp : p.owns = false)
    (hbegan : ∀ now, p = .inserting now → c.startedAt i ≤ now) :
    (c.goto i p).Coherent model hash := by
  have hcase : ∀ {j : ι} {q : Phase ρ}, (c.goto i p).phase j = q → q.owns = true →
      c.phase j = q := by
    intro j q hj hq
    rw [phase_goto] at hj
    split at hj
    · exact absurd hq (by simp [← hj, hp])
    · exact hj
  refine h.frame rfl (fun _ _ => Iff.rfl) ?_ ?_ ?_ ?_ h.clocked
  · intro j hj
    exact ⟨(hcase rfl hj).symm ▸ hj, rfl⟩
  · rintro j (hj | hj)
    · exact Or.inl (hcase hj rfl)
    · exact Or.inr (hcase hj rfl)
  · exact fun j result hj => hcase hj rfl
  · intro j now hj
    rw [phase_goto] at hj
    split at hj
    · next hji => exact hji ▸ hbegan now hj
    · exact h.began j now hj

omit [DecidableEq ι] in
/-- Nobody owns a row that is not there. -/
theorem Coherent.not_owns (h : c.Coherent model hash) (hrow : c.row = none) (i : ι) :
    (c.phase i).owns = false := by
  by_contra hi
  obtain ⟨row, hr, -⟩ := h.owned i (by simpa using hi)
  exact absurd (hrow.symm.trans hr) (by simp)

omit [DecidableEq ι] in
/-- A second owner is the first. -/
theorem Coherent.not_owns_of_ne (h : c.Coherent model hash) {i j : ι}
    (hi : (c.phase i).owns = true) (hne : j ≠ i) : (c.phase j).owns = false := by
  by_contra hj
  exact hne (h.single j i (by simpa using hj) hi)

omit [DecidableEq ι] in
/-- A configuration with one owner. -/
theorem Coherent.of_owner (h : c.Coherent model hash) {i : ι} (hown : (c'.phase i).owns = true)
    (hother : ∀ j, j ≠ i → c'.phase j = c.phase j ∧ (c.phase j).owns = false)
    (hstarted : c'.startedAt = c.startedAt) (hclock : c'.clock = c.clock) {row : KeyRow}
    (hrow : c'.row = some row) (hhash : row.requestHash = hash i)
    (hstatus : row.responseStatus = none) (hcreated : c.startedAt i ≤ row.createdAt)
    (hfresh : c'.phase i = .handling ∨ c'.phase i = .raised →
      ∀ e ∈ epoch c'.log, e.isExecuted = false)
    (hhandled : ∀ result, c'.phase i = .handled result → .executed i result ∈ epoch c'.log) :
    c'.Coherent model hash := by
  -- the owner of the row is the one call that moves
  have howner : ∀ j, (c'.phase j).owns = true → j = i := by
    intro j hj
    by_contra hne
    rw [(hother j hne).1, (hother j hne).2] at hj
    exact Bool.false_ne_true hj
  refine ⟨?_, ?_, ?_, ?_, ?_, ?_, ?_⟩
  · intro j hj
    obtain rfl := howner j hj
    exact ⟨row, hrow, hhash, hstatus, hstarted ▸ hcreated⟩
  · exact fun j k hj hk => (howner j hj).trans (howner k hk).symm
  · -- whoever is handling the call is its owner
    rintro (hnone | ⟨j, hj⟩)
    · exact absurd (hrow.symm.trans hnone) (by simp)
    · obtain rfl := howner j (by rcases hj with hj | hj <;> rw [hj] <;> rfl)
      exact hfresh hj
  · intro j result hj
    obtain rfl := howner j (by rw [hj]; rfl)
    exact hhandled result hj
  · intro row' status hr hs
    obtain rfl := Option.some.inj (hrow.symm.trans hr)
    exact absurd (hstatus.symm.trans hs) (by simp)
  · -- a call about to insert has not started anew
    intro j now hj
    by_cases hne : j = i
    · subst hne
      rw [hj] at hown
      exact absurd hown (by simp [Phase.owns])
    · rw [hstarted]
      exact h.began j now ((hother j hne).1 ▸ hj)
  · intro j
    rw [hstarted, hclock]
    exact h.clocked j

theorem Coherent.register (h : c.Coherent model hash) {i : ι} {now : Instant}
    (hi : c.phase i = .inserting now) (hrow : c.row = none) :
    (((c.withRow (some { requestHash := hash i, createdAt := now })).goto i .handling).record
      (.began i)).Coherent model hash := by
  have hfresh := h.fresh (Or.inl hrow)
  refine h.of_owner (by simp [record, Phase.owns]) (fun j hj => ⟨?_, h.not_owns hrow j⟩) rfl rfl rfl
    rfl rfl (h.began i now hi) (fun _ e he => ?_) (fun result hj => ?_)
  · simp [record, withRow, hj]
  · have hcons : epoch (.began i :: c.log) = .began i :: epoch c.log := epoch_cons rfl _
    rcases List.mem_cons.mp (hcons ▸ he) with rfl | he
    · rfl
    · exact hfresh e he
  · simp [record] at hj

theorem Coherent.succeed (h : c.Coherent model hash) {i : ι} {result : ρ}
    (hi : c.phase i = .handling) :
    ((c.goto i (.handled result)).record (.executed i result)).Coherent model hash := by
  have hown : (c.phase i).owns = true := by rw [hi]; rfl
  obtain ⟨row, hrow, hhash, hstatus, hcreated⟩ := h.owned i hown
  have hself : ((c.goto i (.handled result)).record (.executed i result)).phase i
      = .handled result := by
    simp [record]
  refine h.of_owner (by rw [hself]; rfl) (fun j hj => ⟨?_, h.not_owns_of_ne hown hj⟩) rfl rfl hrow
    hhash hstatus hcreated (fun hj => ?_) (fun r hj => ?_)
  · simp [record, hj]
  · rw [hself] at hj
    exact absurd hj (by simp)
  · obtain rfl := Phase.handled.inj (hself.symm.trans hj)
    have hcons : epoch (.executed i result :: c.log) = .executed i result :: epoch c.log :=
      epoch_cons rfl _
    exact hcons ▸ List.mem_cons_self

/-- After the only owner has ended there is none. -/
theorem Coherent.released (h : c.Coherent model hash) {i : ι} (hown : (c.phase i).owns = true)
    (outcome : Outcome ρ) (j : ι) : ((c.goto i (.done outcome)).phase j).owns = false := by
  rw [phase_goto]
  split
  · rfl
  · next hne => exact h.not_owns_of_ne hown hne

omit [DecidableEq ι] in
/-- A configuration without owners. -/
theorem Coherent.of_released (h : c.Coherent model hash) (hphase : ∀ i, (c'.phase i).owns = false)
    (hstarted : c'.startedAt = c.startedAt) (hclock : c'.clock = c.clock)
    (hinserting : ∀ i now, c'.phase i = .inserting now → c.phase i = .inserting now)
    (hfresh : c'.row = none → ∀ e ∈ epoch c'.log, e.isExecuted = false)
    (hcomplete : ∀ row status, c'.row = some row → row.responseStatus = some status →
      ∃ i result, row.responseBody = some (model.modelDump result) ∧
        .executed i result ∈ epoch c'.log) : c'.Coherent model hash where
  owned i hi := absurd hi (by simp [hphase i])
  single i j hi := absurd hi (by simp [hphase i])
  fresh hfree := by
    rcases hfree with hnone | ⟨i, hi⟩
    · exact hfresh hnone
    · have howns := hphase i
      rcases hi with hi | hi <;> rw [hi] at howns <;> exact Bool.noConfusion howns
  handled i result hi := by
    have howns := hphase i
    rw [hi] at howns
    exact absurd howns (by simp [Phase.owns])
  complete := hcomplete
  began i now hi := hstarted ▸ h.began i now (hinserting i now hi)
  clocked i := hstarted ▸ hclock ▸ h.clocked i

theorem inserting_of_goto {i j : ι} {outcome : Outcome ρ} {now : Instant}
    (h : (c.goto i (.done outcome)).phase j = .inserting now) : c.phase j = .inserting now := by
  rw [phase_goto] at h
  split at h
  · exact absurd h (by simp)
  · exact h

omit [DecidableEq ι] in
/-- The discard removes the row the call has registered. -/
theorem Coherent.row_discard (h : c.Coherent model hash) {i : ι} (hi : c.phase i = .raised) :
    c.discard.row = none := by
  obtain ⟨row, hrow, -, hstatus, -⟩ := h.owned i (by rw [hi]; rfl)
  simp [Config.discard, withRow, hrow, hstatus]

theorem Coherent.discard (h : c.Coherent model hash) {i : ι} (hi : c.phase i = .raised) :
    (c.discard.goto i (.done .raised)).Coherent model hash := by
  have hrow := h.row_discard hi
  refine h.of_released (h.released (by rw [hi]; rfl) .raised) rfl rfl
    (fun j now hj => inserting_of_goto hj) (fun _ => h.fresh (Or.inr ⟨i, Or.inr hi⟩)) ?_
  intro row status hr
  exact absurd (hrow.symm.trans hr) (by simp)

theorem Coherent.store (h : c.Coherent model hash) {i : ι} {result : ρ}
    (hi : c.phase i = .handled result) :
    ((c.storeResponse 200 (model.modelDump result)).goto i
      (.done (.returned result))).Coherent model hash := by
  obtain ⟨row, hrow, -, -, -⟩ := h.owned i (by rw [hi]; rfl)
  have hnew : (c.storeResponse 200 (model.modelDump result)).row = some
      { row with responseStatus := some 200, responseBody := some (model.modelDump result) } := by
    simp [storeResponse, withRow, hrow]
  refine h.of_released (h.released (by rw [hi]; rfl) (.returned result)) rfl rfl
    (fun j now hj => inserting_of_goto hj) ?_ ?_
  · intro hnone
    exact absurd (hnew.symm.trans hnone) (by simp)
  · intro row' status hr _
    obtain rfl := Option.some.inj (hnew.symm.trans hr)
    exact ⟨i, result, rfl, h.handled i result hi⟩

omit [DecidableEq ι] in
/-- A sweep that spares the running calls takes a row without an owner. -/
theorem Coherent.sweep (h : c.Coherent model hash) {row : KeyRow} (hrow : c.row = some row)
    (hold : ∀ i, (c.phase i).running = true → row.createdAt < c.startedAt i) :
    ((c.withRow none).record .swept).Coherent model hash := by
  have hnone : ∀ i, (c.phase i).owns = false := by
    intro i
    by_contra hi
    have hi : (c.phase i).owns = true := by simpa using hi
    have hrunning : (c.phase i).running = true := by
      cases hp : c.phase i <;> rw [hp] at hi <;> first | rfl | exact Bool.noConfusion hi
    obtain ⟨row', hrow', -, -, hstarted⟩ := h.owned i hi
    obtain rfl := Option.some.inj (hrow.symm.trans hrow')
    exact absurd (hold i hrunning) (Nat.not_lt.mpr hstarted)
  exact h.of_released hnone rfl rfl (fun _ _ hi => hi)
    (fun _ e he => absurd he List.not_mem_nil) (fun _ _ hr => absurd hr (by simp [record, withRow]))

theorem Coherent.begin (h : c.Coherent model hash) {i : ι} (hi : c.phase i = .waiting) :
    ({ c.goto i (.inserting c.clock) with
      startedAt := Function.update c.startedAt i c.clock } : Config ι ρ).Coherent model hash := by
  -- only the phase of the starting call changes
  have hcase : ∀ {j : ι} {p : Phase ρ}, (c.goto i (.inserting c.clock)).phase j = p →
      j = i ∧ p = .inserting c.clock ∨ j ≠ i ∧ c.phase j = p := by
    intro j p hj
    rw [phase_goto] at hj
    split at hj
    · next hji => exact Or.inl ⟨hji, hj.symm⟩
    · next hne => exact Or.inr ⟨hne, hj⟩
  refine h.frame rfl (fun _ _ => Iff.rfl) ?_ ?_ ?_ ?_ ?_
  · intro j hj
    rcases hcase (j := j) rfl with ⟨rfl, hp⟩ | ⟨hne, hp⟩
    · rw [hp] at hj
      exact Bool.noConfusion hj
    · exact ⟨hp ▸ hj, Function.update_of_ne hne _ _⟩
  · rintro j (hj | hj)
    · exact Or.inl ((hcase hj).resolve_left fun hp => nomatch hp.2).2
    · exact Or.inr ((hcase hj).resolve_left fun hp => nomatch hp.2).2
  · intro j result hj
    exact ((hcase hj).resolve_left fun hp => nomatch hp.2).2
  · intro j now hj
    rcases hcase hj with ⟨rfl, hp⟩ | ⟨hne, hp⟩
    · obtain rfl := Phase.inserting.inj hp
      simp
    · simpa [hne] using h.began j now hp
  · intro j
    show Function.update c.startedAt i c.clock j ≤ c.clock
    by_cases hj : j = i
    · subst hj
      simp
    · simpa [hj] using h.clocked j

/-- Every move keeps the invariant, where sweeps spare the running calls. -/
theorem Coherent.step (h : c.Coherent model hash) {m : Move ι ρ} (hm : c.SweepsOld m) :
    (c.step model hash m).Coherent model hash := by
  have hdoes := does_step model hash c m
  generalize c.step model hash m = c' at hdoes
  cases hdoes with
  | stay => exact h
  | start hi => exact h.begin hi
  | register hi hrow => exact h.register hi hrow
  | taken _ _ => exact h.goto rfl (by simp)
  | gone _ _ =>
    refine h.goto rfl fun now hnow => ?_
    obtain rfl := Phase.inserting.inj hnow
    exact h.clocked _
  | refuse _ _ _ => exact h.goto rfl (by simp)
  | @replay i _ _ result _ _ _ _ _ =>
    have hgoto := h.goto (i := i) (p := .done (.replayed result)) rfl (by simp)
    -- a replay is no success
    refine hgoto.frame rfl (fun e he => ?_) (fun j hj => ⟨hj, rfl⟩) (fun _ hj => hj)
      (fun _ _ hj => hj) hgoto.began hgoto.clocked
    have hcons : epoch (.replayed i result :: c.log) = .replayed i result :: epoch c.log :=
      epoch_cons rfl _
    show e ∈ epoch (.replayed i result :: c.log) ↔ e ∈ epoch c.log
    rw [hcons, List.mem_cons]
    exact or_iff_right fun heq => absurd he (by simp [heq, Event.isExecuted])
  | discard hi => exact h.discard hi
  | store hi => exact h.store hi
  | succeed hi => exact h.succeed hi
  | @fail i hi =>
    have hphase : ∀ j, j ≠ i → (c.goto i .raised).phase j = c.phase j := by
      intro j hj
      simp [hj]
    have hself : (c.goto i .raised).phase i = .raised := by simp
    have hown : (c.phase i).owns = true := by rw [hi]; rfl
    obtain ⟨row, hrow, hhash, hstatus, hcreated⟩ := h.owned i hown
    refine h.of_owner (by rw [hself]; rfl) (fun j hj => ⟨hphase j hj, h.not_owns_of_ne hown hj⟩)
      rfl rfl hrow hhash hstatus hcreated (fun _ => h.fresh (Or.inr ⟨i, Or.inl hi⟩)) ?_
    intro result hj
    exact nomatch hself.symm.trans hj
  | die _ => exact h.goto rfl (by simp)
  | sweep hrow hold => exact h.sweep hrow (hm _ hrow hold)
  | tick =>
    exact h.frame rfl (fun _ _ => Iff.rfl) (fun _ hi => ⟨hi, rfl⟩) (fun _ hi => hi)
      (fun _ _ hi => hi) h.began fun i => Nat.le_succ_of_le (h.clocked i)

/-! ### What the protocol promises -/

/-- What a configuration allows to happen next. -/
inductive Earned (model : ResponseModel ρ) (hash : ι → String) (c : Config ι ρ) :
    Event ι ρ → Prop where
  | began {i} (hrow : c.row = none) : Earned model hash c (.began i)
  | executed {i result} (hi : c.phase i = .handling) : Earned model hash c (.executed i result)
  | replayed {i row status result} (hrow : c.row = some row) (hhash : row.requestHash = hash i)
      (hstatus : row.responseStatus = some status)
      (hresult : model.modelValidate (row.responseBody.getD []) = some result) :
      Earned model hash c (.replayed i result)
  | swept : Earned model hash c .swept

/-- The log after a move: one event more, which the configuration allowed, or none. -/
theorem log_step (model : ResponseModel ρ) (hash : ι → String) (c : Config ι ρ) (m : Move ι ρ) :
    (c.step model hash m).log = c.log ∨
    ∃ e, (c.step model hash m).log = e :: c.log ∧ Earned model hash c e := by
  have hdoes := does_step model hash c m
  generalize c.step model hash m = c' at hdoes
  cases hdoes with
  | register _ hrow => exact Or.inr ⟨_, rfl, .began hrow⟩
  | replay _ hrow hhash hstatus hresult =>
    exact Or.inr ⟨_, rfl, .replayed hrow hhash hstatus hresult⟩
  | succeed hi => exact Or.inr ⟨_, rfl, .executed hi⟩
  | sweep => exact Or.inr ⟨_, rfl, .swept⟩
  | stay | start | taken | gone | refuse | discard | store | fail | die | tick => exact Or.inl rfl

theorem earned_of_log {m : Move ι ρ} {e : Event ι ρ}
    (h : (c.step model hash m).log = e :: c.log) : Earned model hash c e := by
  rcases log_step model hash c m with hlog | ⟨e', hlog, he⟩
  · exact absurd (h.symm.trans hlog) (List.cons_ne_self _ _)
  · obtain ⟨rfl, -⟩ := List.cons.inj (h.symm.trans hlog)
    exact he

/-- A success is the first of its epoch. -/
theorem Coherent.once (h : c.Coherent model hash) (honce : Once c.log) (m : Move ι ρ) :
    Once (c.step model hash m).log := by
  rcases log_step model hash c m with hlog | ⟨e, hlog, he⟩
  · rw [hlog]
    exact honce
  · rw [hlog]
    refine honce.cons fun hex => ?_
    cases he with
    | executed hi => exact h.fresh (Or.inr ⟨_, Or.inl hi⟩)
    | began | replayed | swept => exact nomatch hex

/-- A replay gives back what the success of its epoch returned. -/
theorem Coherent.replays (h : c.Coherent model hash) (hreplays : Replays c.log) (m : Move ι ρ) :
    Replays (c.step model hash m).log := by
  rcases log_step model hash c m with hlog | ⟨e, hlog, he⟩
  · rw [hlog]
    exact hreplays
  · rw [hlog]
    refine hreplays.cons fun i result heq => ?_
    cases he with
    | replayed hrow _ hstatus hresult =>
      obtain ⟨j, result', hbody, hex⟩ := h.complete _ _ hrow hstatus
      rw [hbody, Option.getD_some, model.validate_dump] at hresult
      cases heq
      obtain rfl := Option.some.inj hresult
      exact ⟨j, hex⟩
    | began | executed | swept => exact nomatch heq

omit [DecidableEq ι] in
/-- Nothing happens to a call while another hash is registered. -/
theorem Coherent.mismatch (h : c.Coherent model hash) {i : ι} {row : KeyRow}
    (hrow : c.row = some row) (hne : row.requestHash ≠ hash i) {e : Event ι ρ}
    (he : Earned model hash c e) : e.caller ≠ some i := by
  intro hcaller
  cases he with
  | began hnone => exact absurd (hrow.symm.trans hnone) (by simp)
  | executed hi =>
    obtain rfl := Option.some.inj hcaller
    obtain ⟨row', hrow', hhash, -⟩ := h.owned _ (by rw [hi]; rfl)
    obtain rfl := Option.some.inj (hrow.symm.trans hrow')
    exact hne hhash
  | replayed hrow' hhash =>
    obtain rfl := Option.some.inj hcaller
    obtain rfl := Option.some.inj (hrow.symm.trans hrow')
    exact hne hhash
  | swept => exact nomatch hcaller

/-- What a call returns is in the log, as its own success or as a replay. -/
def Told (c : Config ι ρ) : Prop := ∀ i, ∀ e ∈ (c.phase i).told i, e ∈ c.log

omit [DecidableEq ι] in
theorem Told.of_phase (h : c.Told) (i : ι) (hphase : ∀ j, j ≠ i → c'.phase j = c.phase j)
    (hlog : ∀ e ∈ c.log, e ∈ c'.log) (hself : ∀ e ∈ (c'.phase i).told i, e ∈ c'.log) :
    c'.Told := by
  intro j e he
  by_cases hj : j = i
  · subst hj
    exact hself e he
  · exact hlog e (h j e (hphase j hj ▸ he))

theorem Told.step (h : c.Told) (m : Move ι ρ) : (c.step model hash m).Told := by
  have hdoes := does_step model hash c m
  generalize c.step model hash m = c' at hdoes
  -- a call that goes where nothing is told
  have hgoto : ∀ {i : ι} {p : Phase ρ}, p.told i = none → (c.goto i p).Told := by
    intro i p hp
    refine h.of_phase i (fun j hj => by simp [hj]) (fun _ he => he) fun e he => ?_
    simp [hp] at he
  cases hdoes with
  | stay => exact h
  | start _ => exact hgoto (p := .inserting c.clock) rfl
  | @register i now _ _ =>
    refine h.of_phase i (fun j hj => by simp [record, withRow, hj])
      (fun e he => List.mem_cons_of_mem _ he) fun e he => ?_
    simp [record, Phase.told] at he
  | taken _ _ => exact hgoto rfl
  | gone _ _ => exact hgoto rfl
  | refuse _ _ ho => rcases ho with rfl | rfl | rfl <;> exact hgoto rfl
  | @replay i _ _ result _ _ _ _ _ =>
    refine h.of_phase i (fun j hj => by simp [record, hj])
      (fun e he => List.mem_cons_of_mem _ he) fun e he => ?_
    have he : e = .replayed i result := by simpa [record, Phase.told, eq_comm] using he
    exact he ▸ List.mem_cons_self
  | @discard i _ => exact hgoto (i := i) (p := .done .raised) rfl
  | @store i result hi =>
    refine h.of_phase i (fun j hj => by simp [storeResponse, withRow, hj]) (fun _ he => he)
      fun e he => ?_
    have he : e = .executed i result := by simpa [Phase.told, eq_comm] using he
    exact he ▸ h i _ (by rw [hi]; rfl)
  | @succeed i result _ =>
    refine h.of_phase i (fun j hj => by simp [record, hj])
      (fun e he => List.mem_cons_of_mem _ he) fun e he => ?_
    have he : e = .executed i result := by simpa [record, Phase.told, eq_comm] using he
    exact he ▸ List.mem_cons_self
  | fail _ => exact hgoto rfl
  | die _ => exact hgoto rfl
  | sweep _ _ => exact fun i e he => List.mem_cons_of_mem _ (h i e he)
  | tick => exact h

/-- What the protocol promises of a configuration and of the moves from it. -/
structure Promises (model : ResponseModel ρ) (hash : ι → String) (c : Config ι ρ) : Prop where
  once : Once c.log
  replays : Replays c.log
  told : c.Told
  /-- While another hash is registered a call is not in its handler, nothing happens to it,
  and its read of the row is a conflict. -/
  mismatch : ∀ i row, c.row = some row → row.requestHash ≠ hash i →
    (c.phase i).owns = false ∧
    (∀ m e, (c.step model hash m).log = e :: c.log → e.caller ≠ some i) ∧
    (c.phase i = .selecting → (c.step model hash (.step i)).phase i = .done .conflict)
  /-- A call whose handler has raised leaves no row, and the next insert registers the key. -/
  again : ∀ i, c.phase i = .raised → (c.step model hash (.step i)).row = none ∧
    ∀ j now, j ≠ i → c.phase j = .inserting now →
      ((c.step model hash (.step i)).step model hash (.step j)).phase j = .handling

theorem Coherent.promises (h : c.Coherent model hash) (honce : Once c.log)
    (hreplays : Replays c.log) (htold : c.Told) : c.Promises model hash where
  once := honce
  replays := hreplays
  told := htold
  mismatch i row hrow hne := by
    refine ⟨?_, fun m e hlog => h.mismatch hrow hne (earned_of_log hlog), fun hi => ?_⟩
    · by_contra hown
      obtain ⟨row', hrow', hhash, -⟩ := h.owned i (by simpa using hown)
      obtain rfl := Option.some.inj (hrow.symm.trans hrow')
      exact hne hhash
    · have hstep : c.step model hash (.step i) = c.goto i (.done .conflict) := by
        simp only [Config.step, hi, select, hrow, if_pos hne]
      rw [hstep, phase_goto, if_pos rfl]
  again i hi := by
    have hstep : c.step model hash (.step i) = c.discard.goto i (.done .raised) := by
      simp only [Config.step, hi]
    have hrow : (c.step model hash (.step i)).row = none := hstep ▸ h.row_discard hi
    refine ⟨hrow, fun j now hne hj => ?_⟩
    have hphase : (c.step model hash (.step i)).phase j = .inserting now := by
      rw [hstep, phase_goto, if_neg hne]
      exact hj
    generalize c.step model hash (.step i) = c' at hrow hphase
    simp [Config.step, hphase, insert, hrow, record]

end Config

/-- **The Idempotency-Key protocol.**  Whatever the order of the calls' transactions, their
handlers' ends and crashes, and of sweeps that spare what running calls may own: between two
sweeps of the row one handler succeeds at most, a replay gives back what it returned, a
call with another hash is refused, and a key whose handler raised can be registered again. -/
theorem idempotency_protocol [DecidableEq ι] (model : ResponseModel ρ) (hash : ι → String)
    (moves : List (Move ι ρ))
    (h : Runs.Guarded (Config.step model hash) Config.SweepsOld Config.start moves) :
    (Runs.run (Config.step model hash) Config.start moves).Promises model hash := by
  have hinv := h.invariant
    (I := fun c => c.Coherent model hash ∧ Once c.log ∧ Replays c.log ∧ c.Told)
    (fun c m ⟨hc, honce, hreplays, htold⟩ hm =>
      ⟨hc.step hm, hc.once honce m, hc.replays hreplays m, htold.step m⟩)
    ⟨Config.coherent_start, .nil, .nil, fun _ _ he => nomatch he⟩
  exact hinv.1.promises hinv.2.1 hinv.2.2.1 hinv.2.2.2

/-! ### A retry that failed, then one that succeeded -/

/-- A response with one text field. -/
def textResponse : ResponseModel String where
  modelDump result := [("result", .str result)]
  modelValidate body :=
    match body.get? "result" with
    | some (.str result) => some result
    | _ => none
  validate_dump _ := rfl

/-- Call 2 asks for something else. -/
def retryHash (i : Fin 4) : String := if i = 2 then "reject" else "retry"

/-- Call 0 raises while call 1 waits to read the row; the row is gone then, and call 1
registers the key.  Call 2 is refused, a sweep finds nothing old enough, and call 3 gets the
response of call 1. -/
def retryMoves : List (Move (Fin 4) String) :=
  [.start 0, .step 0, .tick, .start 1, .step 1, .fail 0, .step 0, .step 1, .step 1,
    .succeed 1 "job-2", .start 2, .step 2, .step 2, .sweep 24, .step 1,
    .start 3, .step 3, .step 3]

theorem idempotency_protocol_retry :
    (Runs.run (Config.step textResponse retryHash) Config.start retryMoves).Promises
      textResponse retryHash :=
  idempotency_protocol textResponse retryHash retryMoves (by decide)

example : (Runs.run (Config.step textResponse retryHash) Config.start retryMoves).log
    = [.replayed 3 "job-2", .executed 1 "job-2", .began 1, .began 0] := by
  decide

end Idempotency
