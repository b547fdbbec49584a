/-
The transient-retry helper.

Transcribed from `core/retry.py`.  The helper drives the asynchronous iterator of the
retry library; the library is a parameter, `AsyncRetrying`, with the behaviour the
helper relies on as laws.  How long the library sleeps between two calls is not
modelled.  The operation is the sequence of what its calls come to: a value, an HTTP
response or an exception; `none` is a call that never comes back.

* `withRetry_iff` — which call the helper ends with, and what it hands on;
* `withRetry_follows_iff` — it follows its policy exactly when no answer that the policy
  would retry is a response, nothing raised is taken for a signal of the library, and
  nothing ends the iterator.
-/
import EdlinkRostering.Loops

/-! ### Outcomes -/

/-- An exception: a transport error of the HTTP client or its timeout, the signal that
asks the retry library for another attempt, the one that ends an asynchronous iterator,
what the library raises about a last attempt that did not fail, or any other. -/
inductive Raised (ε : Type) where
  | transportError
  | timeoutException
  | tryAgain
  | stopAsyncIteration
  | retryError
  | runtimeError (message : String)
  | other (error : ε)
deriving DecidableEq

/-- What an operation returns: `None`, an `httpx.Response`, anything else. -/
inductive Returned (α : Type) where
  | none
  | response (statusCode : Nat)
  | other (value : α)
deriving DecidableEq

/-- What a call comes to. -/
inductive Outcome (α ε : Type) where
  | value (value : Returned α)
  | raised (error : Raised ε)
deriving DecidableEq

section

variable {α ε : Type}

/-- `RETRYABLE_STATUSES`. -/
def retryableStatuses : List Nat := [429, 500, 502, 503, 504]

/-- `_is_retryable_response`. -/
def isRetryableResponse : Returned α → Bool
  | .response statusCode => statusCode ∈ retryableStatuses
  | _ => false

/-- `retry_if_exception_type((httpx.TransportError, httpx.TimeoutException))`. -/
def isTransportError : Raised ε → Bool
  | .transportError | .timeoutException => true
  | _ => false

/-- `RETRY_CONDITION`. -/
def retryCondition : Outcome α ε → Bool
  | .raised error => isTransportError error
  | .value value => isRetryableResponse value

/-- `RETRY_STOP`: `stop_after_attempt(5)`. -/
def retryStop (attemptNumber : Nat) : Bool := 5 ≤ attemptNumber

end

/-! ### The retry library -/

/-- What advancing the iterator comes to: an attempt, the end of the iteration, an
exception. -/
inductive Advance (σ ε : Type) where
  | attempt (state : σ)
  | ended
  | raised (error : Raised ε)

section

variable {α ε : Type}

/-- `fut.result()` of the last attempt, inside the iterator: what was raised is raised
there, a value ends the iteration. -/
def Advance.result {σ : Type} : Outcome α ε → Advance σ ε
  | .raised error => .raised error
  | .value _ => .ended

/-- `reraise()` of the last attempt: what was raised is raised again, a value has nothing to
raise. -/
def Advance.reraise {σ : Type} : Outcome α ε → Advance σ ε
  | .raised error => .raised error
  | .value _ => .raised .retryError

/-- Whether the library goes on after an outcome: it was asked to, or the condition says so. -/
def goesOn (retry : Outcome α ε → Bool) (outcome : Outcome α ε) : Bool :=
  match outcome with
  | .raised .tryAgain => true
  | outcome => retry outcome

/-- `AsyncRetrying(stop, wait, retry, reraise=True)` with the `with`-block of an attempt.
`exit` is the end of the block, with the exception that left it if there was one; the
condition is looked at when the iterator is advanced and at no other time. -/
structure AsyncRetrying (α ε : Type) (stop : Nat → Bool) (retry : Outcome α ε → Bool) where
  State : Type
  start : State
  attemptNumber : State → Nat
  outcome : State → Option (Outcome α ε)
  anext : State → Advance State ε
  exit : State → Option (Raised ε) → State
  setResult : State → Returned α → State
  start_number : attemptNumber start = 1
  start_outcome : outcome start = none
  anext_fresh : ∀ state, outcome state = none → anext state = .attempt state
  anext_done : ∀ state last, outcome state = some last → goesOn retry last = false →
    anext state = .result last
  anext_stop : ∀ state last, outcome state = some last → goesOn retry last = true →
    stop (attemptNumber state) = true → anext state = .reraise last
  anext_again : ∀ state last, outcome state = some last → goesOn retry last = true →
    stop (attemptNumber state) = false → ∃ next, anext state = .attempt next ∧
      outcome next = none ∧ attemptNumber next = attemptNumber state + 1
  outcome_exit_raised : ∀ state error, outcome (exit state (some error)) = some (.raised error)
  outcome_exit_normal : ∀ state, outcome (exit state none) = some (.value .none)
  number_exit : ∀ state error, attemptNumber (exit state error) = attemptNumber state
  outcome_setResult : ∀ state value, outcome (setResult state value) = some (.value value)

/-- The library as it keeps its state: the number of the attempt and its outcome. -/
def AsyncRetrying.reference (stop : Nat → Bool) (retry : Outcome α ε → Bool) :
    AsyncRetrying α ε stop retry where
  State := Nat × Option (Outcome α ε)
  start := (1, none)
  attemptNumber state := state.1
  outcome state := state.2
  anext state :=
    match state.2 with
    | none => .attempt state
    | some last =>
      if goesOn retry last then
        if stop state.1 then .reraise last else .attempt (state.1 + 1, none)
      else .result last
  exit state error := (state.1, some (match error with
    | some error => .raised error
    | none => .value .none))
  setResult state value := (state.1, some (.value value))
  start_number := rfl
  start_outcome := rfl
  anext_fresh state h := by
    simp only [h]
  anext_done state last h hlast := by
    simp [h, hlast]
  anext_stop state last h hlast hstop := by
    simp [h, hlast, hstop]
  anext_again state last h hlast hstop := by
    refine ⟨(state.1 + 1, none), ?_, rfl, rfl⟩
    simp [h, hlast, hstop]
  outcome_exit_raised _ _ := rfl
  outcome_exit_normal _ := rfl
  number_exit _ _ := rfl
  outcome_setResult _ _ := rfl

/-! ### The helper -/

variable {stop : Nat → Bool} {retry : Outcome α ε → Bool}

/-- The exception that leaves the `with`-block of a call. -/
def Outcome.error : Outcome α ε → Option (Raised ε)
  | .raised error => some error
  | .value _ => none

/-- What `with_retry` raises when the iteration ends under it. -/
def exitedWithoutResult : Raised ε :=
  .runtimeError "with_retry: AsyncRetrying exited without a result"

/-- What the helper ends with: the iterator as it is left, the calls made, and what is
returned or raised. -/
structure Ended (σ α ε : Type) where
  state : σ
  calls : Nat
  answer : Outcome α ε

/-- One turn of `async for attempt in AsyncRetrying(…)`, from the state of the iterator and
the number of calls made.  `result` is bound when the call returned; a call that never comes
back keeps the turn where it is. -/
def withRetryTurn (library : AsyncRetrying α ε stop retry)
    (operation : Nat → Option (Outcome α ε)) (s : library.State × Nat) :
    Loop.Turn (library.State × Nat) (Ended library.State α ε) :=
  match library.anext s.1 with
  | .ended | .raised .stopAsyncIteration => .stop ⟨s.1, s.2, .raised exitedWithoutResult⟩
  | .raised error => .stop ⟨s.1, s.2, .raised error⟩
  | .attempt attempt =>
    match operation s.2 with
    | none => .again s
    | some outcome =>
      let exited := library.exit attempt outcome.error
      match library.outcome exited, outcome with
      | some (.value _), .value result =>
        -- the result is set on the attempt and returned at once: nobody advances the iterator
        .stop ⟨library.setResult exited result, s.2 + 1, .value result⟩
      | _, _ => .again (exited, s.2 + 1)

/-- `with_retry`, on fuel. -/
def withRetry (library : AsyncRetrying α ε stop retry)
    (operation : Nat → Option (Outcome α ε)) (fuel : Nat) :
    Option (Ended library.State α ε) :=
  Loop.run (withRetryTurn library operation) fuel (library.start, 0)

/-- The helper comes to an end after so many calls, with this answer. -/
def Ends (library : AsyncRetrying α ε stop retry) (operation : Nat → Option (Outcome α ε))
    (calls : Nat) (answer : Outcome α ε) : Prop :=
  ∃ fuel state, withRetry library operation fuel = some ⟨state, calls, answer⟩

/-! ### Where a sequence of calls stops -/

/-- The `n`-th call is made: it is one of five, and every earlier one is followed by
another. -/
structure Reaches (again : Outcome α ε → Bool) (operation : Nat → Option (Outcome α ε))
    (n : Nat) : Prop where
  earlier : ∀ k, k < n → ∃ before, operation k = some before ∧ again before = true
  within : n < 5

/-- The `n`-th call is the last: it is not followed by another, unless because it is the
fifth. -/
structure Stops (again : Outcome α ε → Bool) (operation : Nat → Option (Outcome α ε)) (n : Nat)
    (outcome : Outcome α ε) : Prop where
  reaches : Reaches again operation n
  here : operation n = some outcome
  last : again outcome = true → n = 4

/-- What the policy promises: calls until the first outcome that is not to be retried, five
at most, and the last outcome handed on. -/
def FollowsPolicy (operation : Nat → Option (Outcome α ε)) (calls : Nat)
    (answer : Outcome α ε) : Prop :=
  ∃ n, calls = n + 1 ∧ Stops retryCondition operation n answer

variable {again again' : Outcome α ε → Bool} {operation : Nat → Option (Outcome α ε)} {n n' : Nat}
  {outcome outcome' : Outcome α ε}

/-- No call is made after the last. -/
theorem Stops.le (h : Stops again operation n outcome) (h' : Reaches again operation n') :
    n' ≤ n := by
  by_contra hlt
  obtain ⟨before, hbefore, hagain⟩ := h'.earlier n (by omega)
  obtain rfl : before = outcome := Option.some.inj (hbefore.symm.trans h.here)
  have hlast := h.last hagain
  have hwithin := h'.within
  omega

/-- There is one such call at most. -/
theorem Stops.unique (h : Stops again operation n outcome)
    (h' : Stops again operation n' outcome') : n = n' ∧ outcome = outcome' := by
  obtain rfl : n = n' := Nat.le_antisymm (h'.le h.reaches) (h.le h'.reaches)
  exact ⟨rfl, Option.some.inj (h.here.symm.trans h'.here)⟩

/-! ### What the helper does -/

/-- What makes the helper call again: an exception that the library retries. -/
def raisedAgain : Outcome α ε → Bool
  | .raised .tryAgain => true
  | .raised error => isTransportError error
  | .value _ => false

/-- What the helper hands on of an outcome: the exception that ends an iterator ends the loop
of the helper. -/
def handedOn : Outcome α ε → Outcome α ε
  | .raised .stopAsyncIteration => .raised exitedWithoutResult
  | outcome => outcome

theorem goesOn_raised (error : Raised ε) :
    goesOn retryCondition (.raised error : Outcome α ε)
      = raisedAgain (.raised error : Outcome α ε) := by
  cases error <;> rfl

variable {library : AsyncRetrying α ε retryStop retryCondition}

/-- The iterator between two turns: before the first call, or after one that raised. -/
inductive Between (library : AsyncRetrying α ε retryStop retryCondition)
    (operation : Nat → Option (Outcome α ε)) : library.State × Nat → Prop where
  | start : Between library operation (library.start, 0)
  | raised {state : library.State} {n : Nat} {error : Raised ε}
      (outcome : library.outcome state = some (.raised error))
      (number : library.attemptNumber state = n + 1)
      (here : operation n = some (.raised error))
      (reaches : Reaches raisedAgain operation n) : Between library operation (state, n + 1)

/-- Advancing the iterator between two turns: either it gives an attempt with the next number,
or the helper ends with the last call. -/
theorem Between.advance {s : library.State × Nat} (h : Between library operation s) :
    (∃ attempt, library.anext s.1 = .attempt attempt ∧
      library.attemptNumber attempt = s.2 + 1 ∧ Reaches raisedAgain operation s.2) ∨
    ∃ n error, s.2 = n + 1 ∧ Stops raisedAgain operation n (.raised error) ∧
      library.anext s.1 = .raised error := by
  cases h with
  | start =>
    -- a fresh state gives an attempt without asking the policy
    exact .inl ⟨library.start, library.anext_fresh _ library.start_outcome,
      library.start_number, ⟨fun k hk => absurd hk (Nat.not_lt_zero k), by omega⟩⟩
  | @raised state n error houtcome hnumber hhere hreaches =>
    have hgoes := goesOn_raised (α := α) error
    cases hagain : raisedAgain (.raised error : Outcome α ε) with
    | false =>
      right
      refine ⟨n, error, rfl, ⟨hreaches, hhere, fun h => ?_⟩, ?_⟩
      · rw [hagain] at h
        exact nomatch h
      · exact library.anext_done state _ houtcome (hgoes.trans hagain)
    | true =>
      by_cases hn : n = 4
      · right
        refine ⟨n, error, rfl, ⟨hreaches, hhere, fun _ => hn⟩, ?_⟩
        refine library.anext_stop state _ houtcome (hgoes.trans hagain) ?_
        rw [hnumber, hn]
        rfl
      · left
        have hwithin := hreaches.within
        have hmore : retryStop (library.attemptNumber state) = false := by
          rw [hnumber, retryStop, decide_eq_false_iff_not]
          omega
        obtain ⟨next, hnext, -, hnum⟩ :=
          library.anext_again state _ houtcome (hgoes.trans hagain) hmore
        refine ⟨next, hnext, by rw [hnum, hnumber], fun k hk => ?_, by omega⟩
        rcases Nat.lt_succ_iff_lt_or_eq.mp hk with hk | rfl
        · exact hreaches.earlier k hk
        · exact ⟨_, hhere, hagain⟩

/-- One turn of the helper: a call that never comes back, another turn after a call that
raised, or the end. -/
theorem Between.turn {s : library.State × Nat} (h : Between library operation s) :
    (Reaches raisedAgain operation s.2 ∧ operation s.2 = none ∧
      withRetryTurn library operation s = .again s) ∨
    (∃ state, Reaches raisedAgain operation s.2 ∧
      withRetryTurn library operation s = .again (state, s.2 + 1) ∧
      Between library operation (state, s.2 + 1)) ∨
    ∃ n outcome state, Stops raisedAgain operation n outcome ∧
      withRetryTurn library operation s = .stop ⟨state, n + 1, handedOn outcome⟩ := by
  rcases h.advance with ⟨attempt, hnext, hnumber, hreaches⟩ | ⟨n, error, hs, hstops, hnext⟩
  · cases hcall : operation s.2 with
    | none =>
      left
      refine ⟨hreaches, rfl, ?_⟩
      simp only [withRetryTurn, hnext, hcall]
    | some outcome =>
      right
      cases outcome with
      | raised error =>
        -- the with-block swallows the exception and keeps it on the attempt
        left
        have hexit := library.outcome_exit_raised attempt error
        refine ⟨library.exit attempt (some error), hreaches, ?_,
          .raised hexit ?_ hcall hreaches⟩
        · simp only [withRetryTurn, hnext, hcall, Outcome.error, hexit]
        · rw [library.number_exit, hnumber]
      | value result =>
        -- a result leaves the loop at once
        right
        refine ⟨s.2, .value result, library.setResult (library.exit attempt none) result,
          ⟨hreaches, hcall, fun h => nomatch h⟩, ?_⟩
        simp only [withRetryTurn, hnext, hcall, Outcome.error, library.outcome_exit_normal]
        rfl
  · -- the iterator is over, and hands on the last exception
    right; right
    refine ⟨n, .raised error, s.1, hstops, ?_⟩
    rw [withRetryTurn, hnext, hs]
    cases error <;> rfl

/-- Another turn comes after a call that has raised, or waits for the same call for ever. -/
theorem Between.of_again {s s' : library.State × Nat} (h : Between library operation s)
    (hagain : withRetryTurn library operation s = .again s') :
    Between library operation s' ∧ Reaches raisedAgain operation s.2 ∧
      (operation s.2 = none ∨ s'.2 = s.2 + 1) := by
  rcases h.turn with ⟨hreaches, hcall, hturn⟩ | ⟨state, hreaches, hturn, hnext⟩ |
    ⟨n, outcome, state, -, hturn⟩
  · obtain rfl : s = s' := Loop.Turn.again.inj (hturn.symm.trans hagain)
    exact ⟨h, hreaches, .inl hcall⟩
  · obtain rfl : (state, s.2 + 1) = s' := Loop.Turn.again.inj (hturn.symm.trans hagain)
    exact ⟨hnext, hreaches, .inr rfl⟩
  · cases hturn.symm.trans hagain

/-- The helper ends after the call with which the exceptions to be retried stop. -/
theorem Between.of_stop {s : library.State × Nat} {ended : Ended library.State α ε}
    (h : Between library operation s)
    (hstop : withRetryTurn library operation s = .stop ended) :
    ∃ n outcome, Stops raisedAgain operation n outcome ∧ ended.calls = n + 1 ∧
      ended.answer = handedOn outcome := by
  rcases h.turn with ⟨-, -, hturn⟩ | ⟨state, -, hturn, -⟩ | ⟨n, outcome, state, hstops, hturn⟩
  · cases hturn.symm.trans hstop
  · cases hturn.symm.trans hstop
  · obtain rfl : (⟨state, n + 1, handedOn outcome⟩ : Ended library.State α ε) = ended :=
      Loop.Turn.stop.inj (hturn.symm.trans hstop)
    exact ⟨n, outcome, hstops, rfl, rfl⟩

/-- **What the helper does**: it calls until the first outcome that is not an exception to be
retried, five times at most. -/
theorem withRetry_iff {calls : Nat} {answer : Outcome α ε} :
    Ends library operation calls answer ↔
      ∃ n outcome, Stops raisedAgain operation n outcome ∧ calls = n + 1 ∧
        answer = handedOn outcome := by
  constructor
  · rintro ⟨fuel, state, h⟩
    exact Loop.holds (I := Between library operation) (Q := fun ended => ∃ n outcome,
      Stops raisedAgain operation n outcome ∧ ended.calls = n + 1 ∧
        ended.answer = handedOn outcome) (fun _ _ hs hagain => (hs.of_again hagain).1)
      (fun _ _ hs hstop => hs.of_stop hstop) .start h
  · rintro ⟨n, outcome, hstops, rfl, rfl⟩
    obtain ⟨ended, hrun, n', outcome', hstops', hcalls, hanswer⟩ :
        ∃ ended, withRetry library operation (n + 3) = some ended ∧ ∃ n' outcome',
          Stops raisedAgain operation n' outcome' ∧ ended.calls = n' + 1 ∧
            ended.answer = handedOn outcome' := by
      refine Loop.total (I := Between library operation) (m := fun s => n + 2 - s.2) ?_
        (fun _ _ hs hstop => hs.of_stop hstop) .start (by simp)
      intro s s' hs hagain
      obtain ⟨hnext, hreaches, hcall | hlater⟩ := hs.of_again hagain
      · -- a call that is made comes back
        have hle := hstops.le hreaches
        obtain ⟨before, hbefore⟩ : ∃ before, operation s.2 = some before := by
          rcases Nat.lt_or_eq_of_le hle with hlt | heq
          · obtain ⟨before, hbefore, -⟩ := hstops.reaches.earlier s.2 hlt
            exact ⟨before, hbefore⟩
          · rw [heq]
            exact ⟨outcome, hstops.here⟩
        cases hbefore.symm.trans hcall
      · have hle := hstops.le hreaches
        refine ⟨hnext, ?_⟩
        show n + 2 - s'.2 < n + 2 - s.2
        rw [hlater]
        omega
    -- no other call is the last
    obtain ⟨rfl, rfl⟩ := hstops.unique hstops'
    obtain ⟨state, calls, answer⟩ := ended
    obtain rfl : calls = n + 1 := hcalls
    obtain rfl : answer = handedOn outcome := hanswer
    exact ⟨n + 3, state, hrun⟩

/-! ### What the helper promises -/

/-- `with_retry` follows its policy on this operation: it makes the calls of the policy and
hands on the last outcome. -/
def Follows (library : AsyncRetrying α ε retryStop retryCondition)
    (operation : Nat → Option (Outcome α ε)) : Prop :=
  ∀ calls answer, Ends library operation calls answer ↔ FollowsPolicy operation calls answer

/-- A transport error or a timeout. -/
def raisedTransportError : Outcome α ε → Bool
  | .raised error => isTransportError error
  | .value _ => false

/-- A response that the policy retries, or the library's own signal for another attempt. -/
def misjudged : Outcome α ε → Bool
  | .value value => isRetryableResponse value
  | .raised .tryAgain => true
  | .raised _ => false

/-- After transport errors and timeouts alone there is no response to be retried and no signal
for another attempt, other than in the last of five calls, and nothing that ends an iterator. -/
def FailsByRaising (operation : Nat → Option (Outcome α ε)) : Prop :=
  ∀ n outcome, Reaches raisedTransportError operation n → operation n = some outcome →
    (n = 4 ∨ misjudged outcome = false) ∧ outcome ≠ .raised .stopAsyncIteration

theorem misjudged_eq_false :
    misjudged outcome = false ↔ retryCondition outcome = raisedAgain outcome := by
  cases outcome with
  | value value =>
    show isRetryableResponse value = false ↔ isRetryableResponse value = false
    exact Iff.rfl
  | raised error =>
    cases error <;> simp [misjudged, retryCondition, raisedAgain, isTransportError]

theorem retryCondition_of_transportError (h : raisedTransportError outcome = true) :
    retryCondition outcome = true := by
  cases outcome with
  | value value => exact nomatch h
  | raised error => exact h

theorem raisedAgain_of_transportError (h : raisedTransportError outcome = true) :
    raisedAgain outcome = true := by
  cases outcome with
  | value value => exact nomatch h
  | raised error =>
    cases error with
    | tryAgain => rfl
    | _ => exact h

/-- What both the policy and the helper repeat is a transport error. -/
theorem transportError_of_both (h : retryCondition outcome = true)
    (h' : raisedAgain outcome = true) : raisedTransportError outcome = true := by
  cases outcome with
  | value value => exact nomatch h'
  | raised error => exact h

theorem Reaches.mono (h : Reaches again operation n)
    (himp : ∀ outcome, again outcome = true → again' outcome = true) :
    Reaches again' operation n where
  earlier k hk := by
    obtain ⟨before, hbefore, hagain⟩ := h.earlier k hk
    exact ⟨before, hbefore, himp before hagain⟩
  within := h.within

/-- If one policy repeats only what the other does, wherever that gets to before its fifth
call, it gets no further. -/
theorem Reaches.of_agree (h : Reaches again operation n)
    (himp : ∀ k outcome, k < 4 → Reaches again' operation k → operation k = some outcome →
      again outcome = true → again' outcome = true) : Reaches again' operation n := by
  induction n with
  | zero => exact ⟨fun k hk => absurd hk (Nat.not_lt_zero k), h.within⟩
  | succ n ih =>
    have hwithin := h.within
    have hprev : Reaches again' operation n :=
      ih ⟨fun k hk => h.earlier k (by omega), by omega⟩
    refine ⟨fun k hk => ?_, hwithin⟩
    rcases Nat.lt_succ_iff_lt_or_eq.mp hk with hlt | rfl
    · exact hprev.earlier k hlt
    · obtain ⟨before, hbefore, hagain⟩ := h.earlier k hk
      exact ⟨before, hbefore, himp k before (by omega) hprev hbefore hagain⟩

/-- The policy ends with some call, when calls come back. -/
theorem exists_followsPolicy (h : ∀ n, (operation n).isSome = true) :
    ∃ calls answer, FollowsPolicy operation calls answer := by
  have hcall : ∀ n, ∃ outcome, operation n = some outcome := fun n =>
    Option.isSome_iff_exists.mp (h n)
  -- either a call was the last, or the next one is made
  have hmade : ∀ m, m ≤ 4 → (∃ n outcome, Stops retryCondition operation n outcome) ∨
      Reaches retryCondition operation m := by
    intro m
    induction m with
    | zero => exact fun _ => .inr ⟨fun k hk => absurd hk (Nat.not_lt_zero k), by omega⟩
    | succ m ih =>
      intro hm
      rcases ih (by omega) with hstops | hreaches
      · exact .inl hstops
      · obtain ⟨outcome, hhere⟩ := hcall m
        cases hagain : retryCondition outcome with
        | false =>
          exact .inl ⟨m, outcome, hreaches, hhere, fun h => nomatch hagain.symm.trans h⟩
        | true =>
          refine .inr ⟨fun k hk => ?_, by omega⟩
          rcases Nat.lt_succ_iff_lt_or_eq.mp hk with hlt | rfl
          · exact hreaches.earlier k hlt
          · exact ⟨outcome, hhere, hagain⟩
  rcases hmade 4 (by omega) with ⟨n, outcome, hstops⟩ | hreaches
  · exact ⟨n + 1, outcome, n, rfl, hstops⟩
  · obtain ⟨outcome, hhere⟩ := hcall 4
    exact ⟨5, outcome, 4, rfl, hreaches, hhere, fun _ => rfl⟩

namespace FailsByRaising

/-- The policy and the helper judge alike what they get to before the fifth call. -/
theorem agree (h : FailsByRaising operation) (hn : n < 4)
    (hreaches : Reaches raisedTransportError operation n) (hhere : operation n = some outcome) :
    retryCondition outcome = raisedAgain outcome := by
  rcases (h n outcome hreaches hhere).1 with rfl | hsame
  · exact absurd hn (Nat.lt_irrefl 4)
  · exact misjudged_eq_false.mp hsame

theorem reaches_of_helper (h : FailsByRaising operation)
    (hreaches : Reaches raisedAgain operation n) : Reaches raisedTransportError operation n :=
  hreaches.of_agree fun _ _ hk hr hhere hagain =>
    transportError_of_both ((h.agree hk hr hhere).trans hagain) hagain

theorem reaches_of_policy (h : FailsByRaising operation)
    (hreaches : Reaches retryCondition operation n) : Reaches raisedTransportError operation n :=
  hreaches.of_agree fun _ _ hk hr hhere hagain =>
    transportError_of_both hagain ((h.agree hk hr hhere).symm.trans hagain)

/-- So they end with the same call. -/
theorem stops_iff (h : FailsByRaising operation) :
    Stops raisedAgain operation n outcome ↔ Stops retryCondition operation n outcome := by
  constructor
  · intro hstops
    have hreaches := h.reaches_of_helper hstops.reaches
    refine ⟨hreaches.mono fun _ => retryCondition_of_transportError, hstops.here, fun hagain => ?_⟩
    by_contra hn
    have hwithin := hreaches.within
    have hsame := h.agree (by omega) hreaches hstops.here
    exact hn (hstops.last (hsame.symm.trans hagain))
  · intro hstops
    have hreaches := h.reaches_of_policy hstops.reaches
    refine ⟨hreaches.mono fun _ => raisedAgain_of_transportError, hstops.here, fun hagain => ?_⟩
    by_contra hn
    have hwithin := hreaches.within
    have hsame := h.agree (by omega) hreaches hstops.here
    exact hn (hstops.last (hsame.trans hagain))

end FailsByRaising

theorem handedOn_of_ne (h : outcome ≠ .raised .stopAsyncIteration) :
    handedOn outcome = outcome := by
  unfold handedOn
  split
  · exact absurd rfl h
  · rfl

/-- **When the transient-retry helper follows its policy**: exactly when what is to be retried
comes as an exception.  A response is returned at once whatever its status is, since the helper
sets it on the attempt and returns without advancing the iterator. -/
theorem withRetry_follows_iff (library : AsyncRetrying α ε retryStop retryCondition)
    (operation : Nat → Option (Outcome α ε)) :
    Follows library operation ↔ FailsByRaising operation := by
  constructor
  · intro hfollows n outcome hreaches hhere
    have hpolicy := hreaches.mono fun _ => retryCondition_of_transportError
    have hhelper := hreaches.mono fun _ => raisedAgain_of_transportError
    -- a call that the policy ends with is the one that the helper ends with
    have hends : Stops retryCondition operation n outcome →
        Stops raisedAgain operation n outcome ∧ outcome = handedOn outcome := by
      intro hstops
      obtain ⟨n', outcome', hstops', hcalls, hanswer⟩ :=
        withRetry_iff.mp ((hfollows (n + 1) outcome).mpr ⟨n, rfl, hstops⟩)
      obtain rfl : n = n' := Nat.succ.inj hcalls
      obtain rfl : outcome = outcome' := Option.some.inj (hhere.symm.trans hstops'.here)
      exact ⟨hstops', hanswer⟩
    constructor
    · by_contra hnot
      rw [not_or, Bool.not_eq_false] at hnot
      obtain ⟨hn, hmis⟩ := hnot
      cases hcond : retryCondition outcome with
      | false =>
        -- the helper would call again
        have hagain : raisedAgain outcome = true := by
          by_contra hoff
          rw [Bool.not_eq_true] at hoff
          rw [misjudged_eq_false.mpr (hcond.trans hoff.symm)] at hmis
          exact nomatch hmis
        have hstops := (hends ⟨hpolicy, hhere, fun h => nomatch hcond.symm.trans h⟩).1
        exact hn (hstops.last hagain)
      | true =>
        -- the helper hands on what the policy retries
        have hoff : raisedAgain outcome = false := by
          by_contra hon
          rw [Bool.not_eq_false] at hon
          rw [misjudged_eq_false.mpr (hcond.trans hon.symm)] at hmis
          exact nomatch hmis
        have hstops : Stops raisedAgain operation n outcome :=
          ⟨hhelper, hhere, fun h => nomatch hoff.symm.trans h⟩
        obtain ⟨n', hcalls, hstops'⟩ :=
          (hfollows (n + 1) (handedOn outcome)).mp
            (withRetry_iff.mpr ⟨n, outcome, hstops, rfl, rfl⟩)
        obtain rfl : n = n' := Nat.succ.inj hcalls
        have hsame : outcome = handedOn outcome :=
          Option.some.inj (hhere.symm.trans hstops'.here)
        exact hn (hstops'.last (hsame ▸ hcond))
    · -- the policy hands the exception on, the helper turns it into another
      rintro rfl
      have hstops : Stops retryCondition operation n (.raised .stopAsyncIteration) :=
        ⟨hpolicy, hhere, fun h => nomatch h⟩
      exact nomatch (hends hstops).2
  · intro h calls answer
    rw [withRetry_iff]
    constructor
    · rintro ⟨n, outcome, hstops, rfl, rfl⟩
      have hreaches := h.reaches_of_helper hstops.reaches
      rw [handedOn_of_ne (h n outcome hreaches hstops.here).2]
      exact ⟨n, rfl, h.stops_iff.mp hstops⟩
    · rintro ⟨n, rfl, hstops⟩
      have hreaches := h.reaches_of_policy hstops.reaches
      exact ⟨n, answer, h.stops_iff.mpr hstops, rfl,
        (handedOn_of_ne (h n answer hreaches hstops.here).2).symm⟩

end

/-! ### On the library as it keeps its state -/

section

/-- The outcomes of the calls, one after another; the last one is repeated. -/
def answering (first second : Outcome Unit Unit) : Nat → Option (Outcome Unit Unit)
  | 0 => some first
  | _ + 1 => some second

/-- A connection reset, then a response. -/
theorem withRetry_follows_iff_reset :
    (Follows (AsyncRetrying.reference retryStop retryCondition)
        (answering (.raised .transportError) (.value (.response 200))) ↔
      FailsByRaising (answering (.raised .transportError) (.value (.response 200)))) ∧
    Ends (AsyncRetrying.reference retryStop retryCondition)
      (answering (.raised .transportError) (.value (.response 200))) 2 (.value (.response 200)) :=
  ⟨withRetry_follows_iff _ _, 3, _, rfl⟩

/-- The service is unavailable once: the helper returns that response, and the policy calls
again. -/
theorem unavailable_returned :
    Ends (AsyncRetrying.reference retryStop retryCondition)
      (answering (.value (.response 503)) (.value (.response 200))) 1 (.value (.response 503)) ∧
    FollowsPolicy (answering (.value (.response 503)) (.value (.response 200))) 2
      (.value (.response 200)) ∧
    ¬ Follows (AsyncRetrying.reference retryStop retryCondition)
      (answering (.value (.response 503)) (.value (.response 200))) := by
  have hends : Ends (AsyncRetrying.reference retryStop retryCondition)
      (answering (.value (.response 503)) (.value (.response 200))) 1
      (.value (.response 503)) := ⟨1, _, rfl⟩
  refine ⟨hends, ⟨1, rfl, ⟨fun k hk => ?_, by omega⟩, rfl, fun h => nomatch h⟩, fun h => ?_⟩
  · obtain rfl : k = 0 := by omega
    exact ⟨_, rfl, rfl⟩
  · obtain ⟨n, hn, hstops⟩ := (h 1 _).mp hends
    obtain rfl : n = 0 := (Nat.succ.inj hn).symm
    exact nomatch hstops.last rfl

end
