/-
The status of an LEA under concurrent transitions.

Transcribed from `transition_status` of `services/lea_admin.py`.  A call reads the row
without a lock, validates the transition against what it read, and then updates by id.
The update waits for whoever is changing the row and replaces whatever was committed in
between; the audit row repeats what was read.

* `transition` — one call, statement by statement;
* `status_path_iff` — when the committed statuses follow the transition graph and the
  audit rows name what was replaced.
-/
import EdlinkRostering.RowLocks
import EdlinkRostering.AdminDatabase

def Admin.LeaStatus.value : Admin.LeaStatus → String
  | .onboarding => "onboarding"
  | .active => "active"
  | .decommissioned => "decommissioned"

namespace LeaAdmin

open ReadCommitted RowLocks
open Admin (LeaStatus LeaDirectoryRow)
open Authorizations (AuditLogRow)

/-- `_VALID_TRANSITIONS`. -/
def validTransitions : List (LeaStatus × LeaStatus) :=
  [(.onboarding, .active), (.onboarding, .decommissioned), (.active, .decommissioned)]

/-- The tables a transition reads and writes. -/
structure LeaStore where
  leas : Table LeaId LeaDirectoryRow
  auditLog : List AuditLogRow

/-- The status of an LEA. -/
def LeaStore.status (s : LeaStore) (leaId : LeaId) : Option LeaStatus :=
  (s.leas.lookup leaId).map (·.status)

/-- `UPDATE leas SET status WHERE id`. -/
def LeaStore.setStatus (s : LeaStore) (leaId : LeaId) (status : LeaStatus) : LeaStore :=
  { s with leas := Table.modify s.leas leaId fun row => { row with status := status } }

/-- `_write_audit_log`. -/
def LeaStore.writeAuditLog (s : LeaStore) (row : AuditLogRow) : LeaStore :=
  { s with auditLog := s.auditLog ++ [row] }

inductive LeaAdminError where
  | leaNotFound (leaId : LeaId)
  | invalidStatusTransition (current requested : LeaStatus)
deriving DecidableEq

/-- The text of the exception. -/
def LeaAdminError.message : LeaAdminError → String
  | .leaNotFound leaId => "LEA " ++ Json.reprStr leaId ++ " not found."
  | .invalidStatusTransition current requested =>
    "Cannot transition LEA from " ++ Json.reprStr current.value ++ " to "
      ++ Json.reprStr requested.value ++ "."

/-! ### One call -/

/-- What `transition_status` is called with, and the time it writes. -/
structure TransitionCall where
  targetStatus : LeaStatus
  operatorId : Uuid
  reason : String
  now : Instant

/-- The next statement of a call.  `row` is what the call has read; `replaced` is the
status its update found, which the code does not look at. -/
inductive TransitionPc where
  | select
  | update (row : LeaDirectoryRow)
  | audit (row : LeaDirectoryRow) (replaced : Option LeaStatus)
  | commit (row : LeaDirectoryRow) (replaced : Option LeaStatus)
deriving DecidableEq

/-- The row a call returns and the audit row it has written. -/
structure TransitionOutcome where
  lea : LeaDirectoryRow
  replaced : Option LeaStatus
  auditRow : AuditLogRow
deriving DecidableEq

/-- The audit row of a transition. -/
def statusChanged (leaId : LeaId) (call : TransitionCall) (current : LeaStatus) : AuditLogRow where
  operatorId := call.operatorId
  action := "lea.status_changed"
  targetKind := "lea"
  targetId := leaId
  leaId := some leaId
  reason := call.reason
  detail := [("from_status", .str current.value), ("to_status", .str call.targetStatus.value)]
  createdAt := call.now

abbrev TransitionStatement :=
  Statement LeaStore LeaId TransitionPc TransitionOutcome LeaAdminError

/-- `transition_status`, statement by statement. -/
def transition (leaId : LeaId) (call : TransitionCall) (pc : TransitionPc) (s : LeaStore) :
    TransitionStatement :=
  match pc with
  | .select =>
    match s.leas.lookup leaId with
    | none => .raise (.leaNotFound leaId)
    | some row =>
      if row.deletedAt.isSome then .raise (.leaNotFound leaId)
      else if row.status = call.targetStatus then
        .raise (.invalidStatusTransition row.status call.targetStatus)
      else if (row.status, call.targetStatus) ∉ validTransitions then
        .raise (.invalidStatusTransition row.status call.targetStatus)
      else .exec [] id (.update row)
  | .update row =>
    .exec [leaId] (·.setStatus leaId call.targetStatus) (.audit row (s.status leaId))
  | .audit row replaced =>
    .exec [] (·.writeAuditLog (statusChanged leaId call row.status)) (.commit row replaced)
  | .commit row replaced =>
    .commit
      { lea := { row with status := call.targetStatus }, replaced := replaced
        auditRow := statusChanged leaId call row.status }

/-! ### Runs -/

abbrev LeaConfig (ι : Type) := Config ι LeaStore LeaId TransitionPc TransitionOutcome LeaAdminError

variable {ι : Type} [Fintype ι] [DecidableEq ι]

/-- One move of the calls on an LEA. -/
def exec (leaId : LeaId) (calls : ι → TransitionCall) (c : LeaConfig ι) (m : Move ι) :
    LeaConfig ι :=
  c.step (fun i => transition leaId (calls i)) m

/-- Every call before its first statement. -/
def begin (store : LeaStore) : LeaConfig ι := Config.start store fun _ => .select

/-- The committed status stays, or takes an edge of the graph. -/
def Path (leaId : LeaId) (old new : LeaStore) : Prop :=
  new.status leaId = old.status leaId ∨
    ∃ current target, (current, target) ∈ validTransitions ∧
      old.status leaId = some current ∧ new.status leaId = some target

/-- A decommissioned LEA stays so. -/
theorem Path.terminal {leaId : LeaId} {old new : LeaStore} (h : Path leaId old new)
    (hold : old.status leaId = some .decommissioned) : new.status leaId = some .decommissioned := by
  rcases h with hsame | ⟨current, target, hvalid, hcurrent, -⟩
  · rw [hsame, hold]
  · obtain rfl := Option.some.inj (hcurrent.symm.trans hold)
    cases target <;> exact absurd hvalid (by decide)

/-- Every committed call has its audit row in the log, and the row's `from_status` is what
the update of the call replaced. -/
def Recorded (c : LeaConfig ι) : Prop :=
  ∀ i outcome, c.txn i = .committed outcome → outcome.auditRow ∈ c.store.auditLog ∧
    outcome.auditRow.detail.get? "from_status"
      = outcome.replaced.map fun status => .str status.value

/-- A call that is about to commit has read the status that is committed now. -/
def CommitsAfterRead (leaId : LeaId) (c : LeaConfig ι) : Move ι → Prop
  | .kill _ => True
  | .step i => ∀ row replaced held writes,
      c.txn i = .running (.commit row replaced) held writes →
        c.store.status leaId = some row.status

/-! ### What a call has done -/

section

variable {leaId : LeaId} {call : TransitionCall} {held locks : List LeaId}
  {writes : List (LeaStore → LeaStore)} {pc next : TransitionPc} {s : LeaStore}
  {write : LeaStore → LeaStore}

theorem status_setStatus (s : LeaStore) (leaId : LeaId) (status : LeaStatus) :
    (s.setStatus leaId status).status leaId = (s.status leaId).map fun _ => status := by
  rw [LeaStore.status, LeaStore.setStatus, Table.lookup_modify, if_pos rfl, Option.map_map,
    LeaStore.status, Option.map_map]
  rfl

/-- The statements of a call but the last, and what they have checked. -/
inductive Executes (leaId : LeaId) (call : TransitionCall) (s : LeaStore) :
    TransitionPc → List LeaId → (LeaStore → LeaStore) → TransitionPc → Prop
  | select {row : LeaDirectoryRow} (valid : (row.status, call.targetStatus) ∈ validTransitions) :
      Executes leaId call s .select [] id (.update row)
  | update (row : LeaDirectoryRow) :
      Executes leaId call s (.update row) [leaId] (·.setStatus leaId call.targetStatus)
        (.audit row (s.status leaId))
  | audit (row : LeaDirectoryRow) (replaced : Option LeaStatus) :
      Executes leaId call s (.audit row replaced) []
        (·.writeAuditLog (statusChanged leaId call row.status)) (.commit row replaced)

theorem executes_of_transition (hs : transition leaId call pc s = .exec locks write next) :
    Executes leaId call s pc locks write next := by
  cases pc with
  | select =>
    simp only [transition] at hs
    split at hs
    · cases hs
    split at hs
    · cases hs
    split at hs
    · cases hs
    split at hs
    · cases hs
    next hvalid =>
    obtain ⟨rfl, rfl, rfl⟩ := Statement.exec.inj hs
    exact .select (not_not.mp hvalid)
  | update row =>
    obtain ⟨rfl, rfl, rfl⟩ := Statement.exec.inj hs
    exact .update row
  | audit row replaced =>
    obtain ⟨rfl, rfl, rfl⟩ := Statement.exec.inj hs
    exact .audit row replaced
  | commit row replaced => cases hs

theorem commit_of_transition {outcome : TransitionOutcome}
    (hs : transition leaId call pc s = .commit outcome) :
    ∃ row replaced, pc = .commit row replaced ∧ outcome =
      { lea := { row with status := call.targetStatus }, replaced := replaced
        auditRow := statusChanged leaId call row.status } := by
  cases pc with
  | select =>
    simp only [transition] at hs
    split at hs
    · cases hs
    split at hs
    · cases hs
    split at hs
    · cases hs
    split at hs
    · cases hs
    · cases hs
  | update | audit => cases hs
  | commit row replaced => exact ⟨row, replaced, rfl, (Statement.commit.inj hs).symm⟩

/-- What a call has read, locked and written when it comes to a statement. -/
def Prepared (leaId : LeaId) (call : TransitionCall) (held : List LeaId)
    (writes : List (LeaStore → LeaStore)) : TransitionPc → Prop
  | .select => writes = []
  | .update row => (row.status, call.targetStatus) ∈ validTransitions ∧ ∀ s, view s writes = s
  | .audit row _ => (row.status, call.targetStatus) ∈ validTransitions ∧ leaId ∈ held ∧
      ∀ s, view s writes = s.setStatus leaId call.targetStatus
  | .commit row _ => (row.status, call.targetStatus) ∈ validTransitions ∧ leaId ∈ held ∧
      ∀ s, view s writes = (s.setStatus leaId call.targetStatus).writeAuditLog
        (statusChanged leaId call row.status)

theorem prepared_next (h : Prepared leaId call held writes pc)
    (hs : transition leaId call pc s = .exec locks write next) :
    Prepared leaId call (held ++ locks) (writes ++ [write]) next := by
  cases executes_of_transition hs with
  | select valid =>
    obtain rfl : writes = [] := h
    exact ⟨valid, fun _ => rfl⟩
  | update row =>
    refine ⟨h.1, List.mem_append_right _ List.mem_cons_self, fun s => ?_⟩
    rw [view_concat, h.2]
  | audit row replaced =>
    refine ⟨h.1, List.mem_append_left _ h.2.1, fun s => ?_⟩
    rw [view_concat, h.2.2]

/-- The row of an LEA. -/
def getLea (k : LeaId) (s : LeaStore) : Option LeaDirectoryRow := s.leas.lookup k

theorem kept_next (h : Kept getLea id held writes)
    (hs : transition leaId call pc s = .exec locks write next) :
    Kept getLea id (held ++ locks) (writes ++ [write]) := by
  cases executes_of_transition hs with
  | select => exact h.concat (fun _ _ _ => rfl) fun _ _ _ hget => hget
  | update row =>
    have hlookup : ∀ k s, getLea k (LeaStore.setStatus s leaId call.targetStatus)
        = if k = leaId then (getLea leaId s).map fun row => { row with status := call.targetStatus }
          else getLea k s := fun k s => Table.lookup_modify s.leas leaId k _
    refine h.concat (fun k hk s => ?_) fun k s s' hget => ?_
    · have hne : k ≠ leaId := by
        rintro rfl
        exact hk (List.mem_append_right _ List.mem_cons_self)
      rw [hlookup, if_neg hne]
    · rw [hlookup, hlookup]
      split
      · next hk => rw [← hk, hget]
      · exact hget
  | audit => exact h.concat (fun _ _ _ => rfl) fun _ _ _ hget => hget

end

/-- The status a call's update has found, where it has been made, is the committed one. -/
def TransitionPc.Found (status : Option LeaStatus) : TransitionPc → Prop
  | .select | .update _ => True
  | .audit _ replaced | .commit _ replaced => replaced = status

theorem found_next {leaId : LeaId} {call : TransitionCall} {held locks : List LeaId}
    {writes : List (LeaStore → LeaStore)} {pc next : TransitionPc} {s : LeaStore}
    {write : LeaStore → LeaStore} (h : pc.Found (s.status leaId))
    (hp : Prepared leaId call held writes pc)
    (hs : transition leaId call pc (view s writes) = .exec locks write next) :
    next.Found (s.status leaId) := by
  cases executes_of_transition hs with
  | select => exact trivial
  | update row =>
    show (view s writes).status leaId = s.status leaId
    rw [hp.2]
  | audit row replaced => exact h

/-- A call that has updated holds the row, so what it replaced is still committed. -/
structure Sound (leaId : LeaId) (calls : ι → TransitionCall) (c : LeaConfig ι) : Prop where
  exclusive : c.Exclusive
  kept : c.All fun _ _ held writes => Kept getLea id held writes
  prepared : c.All fun i pc held writes => Prepared leaId (calls i) held writes pc
  found : c.All fun _ pc _ _ => pc.Found (c.store.status leaId)

section

variable {leaId : LeaId} {calls : ι → TransitionCall} {c : LeaConfig ι} {m : Move ι}

omit [Fintype ι] [DecidableEq ι] in
theorem sound_begin (leaId : LeaId) (calls : ι → TransitionCall) (store : LeaStore) :
    Sound leaId calls (begin store) where
  exclusive := Config.exclusive_start _ _
  kept := Config.all_start fun _ _ hw => absurd hw List.not_mem_nil
  prepared := Config.all_start fun _ => rfl
  found := Config.all_start fun _ => trivial

theorem Sound.step (h : Sound leaId calls c) (m : Move ι) :
    Sound leaId calls (exec leaId calls c m) := by
  have hkept : (exec leaId calls c m).All fun _ _ held writes => Kept getLea id held writes :=
    h.kept.step fun i pc held writes locks write next _ _ hold hs => kept_next hold hs
  have hprepared : (exec leaId calls c m).All
      fun i pc held writes => Prepared leaId (calls i) held writes pc :=
    h.prepared.step fun i pc held writes locks write next _ _ hold hs => prepared_next hold hs
  refine ⟨h.exclusive.step m, hkept, hprepared, ?_⟩
  -- whoever holds the row sees it stay
  have hheld : ∀ j, leaId ∈ ((exec leaId calls c m).txn j).held →
      (exec leaId calls c m).store.status leaId = c.store.status leaId :=
    fun j hj =>
      congrArg (Option.map LeaDirectoryRow.status) (get_step_of_held h.exclusive h.kept hj)
  intro j pc held writes hj
  have hstatus : (exec leaId calls c m).store.status leaId = c.store.status leaId ∨
      ∀ status, pc.Found status := by
    have hp := hprepared j pc held writes hj
    cases pc with
    | select | update => exact Or.inr fun _ => trivial
    | audit | commit => exact Or.inl (hheld j (by rw [hj]; exact hp.2.1))
  rcases hstatus with hstatus | hfound
  swap
  · exact hfound _
  rw [hstatus]
  have hdoes := c.does_step (fun i => transition leaId (calls i)) m
  rw [show c.step (fun i => transition leaId (calls i)) m = exec leaId calls c m from rfl] at hdoes
  generalize exec leaId calls c m = c' at hdoes hj
  -- a call that has not moved found the status before
  have hother : ∀ i t, (c.set i t).txn j = .running pc held writes → j ≠ i →
      pc.Found (c.store.status leaId) := by
    intro i t hset hne
    rw [c.txn_set_of_ne hne] at hset
    exact h.found j pc held writes hset
  cases hdoes with
  | stay => exact h.found j pc held writes hj
  | @exec i pc₀ held₀ writes₀ locks write next running statement _ =>
    by_cases hji : j = i
    · subst hji
      rw [c.txn_set_self] at hj
      obtain ⟨rfl, -, -⟩ := Txn.running.inj hj
      exact found_next (h.found j pc₀ held₀ writes₀ running)
        (h.prepared j pc₀ held₀ writes₀ running) statement
    · exact hother _ _ hj hji
  | @commit i _ _ _ result _ _ | @fail i _ _ _ error _ _ | @kill i _ _ _ _ =>
    by_cases hji : j = i
    · subst hji
      rw [show ∀ t, (c.set j t).txn j = t from c.txn_set_self j] at hj
      exact nomatch hj
    · exact hother i _ hj hji

/-- What a move does to the committed tables: nothing, or one call commits a transition it
has validated, over the status that is committed. -/
theorem Sound.does (h : Sound leaId calls c) (m : Move ι) :
    ((exec leaId calls c m).store = c.store ∧ ∀ i outcome,
      (exec leaId calls c m).txn i = .committed outcome → c.txn i = .committed outcome) ∨
    ∃ i row held writes, m = .step i ∧
      c.txn i = .running (.commit row (c.store.status leaId)) held writes ∧
      (row.status, (calls i).targetStatus) ∈ validTransitions ∧
      exec leaId calls c m
        = { c.set i (.committed
              { lea := { row with status := (calls i).targetStatus }
                replaced := c.store.status leaId
                auditRow := statusChanged leaId (calls i) row.status }) with
            store := (c.store.setStatus leaId (calls i).targetStatus).writeAuditLog
              (statusChanged leaId (calls i) row.status) } := by
  have hdoes := c.does_step (fun i => transition leaId (calls i)) m
  rw [show c.step (fun i => transition leaId (calls i)) m = exec leaId calls c m from rfl] at hdoes
  generalize exec leaId calls c m = c' at hdoes
  have hother : ∀ i t, (∀ outcome, t ≠ .committed outcome) → ∀ j outcome,
      (c.set i t).txn j = .committed outcome → c.txn j = .committed outcome := by
    intro i t ht j outcome hj
    rw [c.txn_set] at hj
    split at hj
    · exact absurd hj (ht outcome)
    · exact hj
  cases hdoes with
  | stay => exact Or.inl ⟨rfl, fun _ _ hj => hj⟩
  | exec | fail | kill => exact Or.inl ⟨rfl, hother _ _ fun _ => by simp⟩
  | @commit i pc held writes result running statement =>
    obtain ⟨row, replaced, rfl, rfl⟩ := commit_of_transition statement
    obtain ⟨hvalid, -, hview⟩ := h.prepared i _ held writes running
    obtain rfl : replaced = c.store.status leaId := h.found i _ held writes running
    exact Or.inr ⟨i, row, held, writes, rfl, running, hvalid, by rw [hview]⟩

/-- A call that has committed stays so. -/
theorem committed_step {i : ι} {outcome : TransitionOutcome}
    (hi : c.txn i = .committed outcome) : (exec leaId calls c m).txn i = .committed outcome := by
  have hdoes := c.does_step (fun i => transition leaId (calls i)) m
  rw [show c.step (fun i => transition leaId (calls i)) m = exec leaId calls c m from rfl] at hdoes
  generalize exec leaId calls c m = c' at hdoes
  -- the call that moves is an open one
  have hother : ∀ j t pc held writes, c.txn j = .running pc held writes →
      (c.set j t).txn i = .committed outcome := by
    intro j t pc held writes running
    have hne : i ≠ j := by
      rintro rfl
      rw [hi] at running
      exact nomatch running
    rw [c.txn_set_of_ne hne, hi]
  cases hdoes with
  | stay => exact hi
  | exec running _ _ => exact hother _ _ _ _ _ running
  | commit running _ => exact hother _ _ _ _ _ running
  | fail running _ => exact hother _ _ _ _ _ running
  | kill running => exact hother _ _ _ _ _ running

theorem committed_run {moves : List (Move ι)} {i : ι} {outcome : TransitionOutcome}
    (hi : c.txn i = .committed outcome) :
    (Runs.run (exec leaId calls) c moves).txn i = .committed outcome := by
  induction moves generalizing c with
  | nil => exact hi
  | cons m moves ih => exact ih (committed_step hi)

omit [Fintype ι] [DecidableEq ι] in
theorem value_inj {a b : LeaStatus} (h : a.value = b.value) : a = b := by
  cases a <;> cases b <;> first | rfl | exact absurd h (by decide)

/-- The audit row of a call names what the update replaced, when that is what was read. -/
theorem from_status_iff {call : TransitionCall} {current : LeaStatus}
    {replaced : Option LeaStatus} :
    (statusChanged leaId call current).detail.get? "from_status"
      = replaced.map (fun status => .str status.value) ↔ replaced = some current := by
  have hget : (statusChanged leaId call current).detail.get? "from_status"
      = some (.str current.value) := rfl
  rw [hget]
  cases replaced with
  | none => simp
  | some status =>
    rw [Option.map_some, Option.some.injEq, Option.some.injEq, Json.str.injEq]
    exact ⟨fun h => (value_inj h).symm, fun h => by rw [h]⟩

/-- A guarded move keeps the committed status on the graph and the audit rows true. -/
theorem Sound.legal (h : Sound leaId calls c) (hrecorded : Recorded c)
    (hread : CommitsAfterRead leaId c m) :
    Path leaId c.store (exec leaId calls c m).store ∧ Recorded (exec leaId calls c m) := by
  rcases h.does m with ⟨hstore, hcommitted⟩ | ⟨i, row, held, writes, rfl, running, hvalid, heq⟩
  · refine ⟨Or.inl (by rw [hstore]), fun i outcome hi => ?_⟩
    rw [hstore]
    exact hrecorded i outcome (hcommitted i outcome hi)
  · have hcurrent := hread row _ held writes running
    rw [heq]
    refine ⟨Or.inr ⟨row.status, (calls i).targetStatus, hvalid, hcurrent, ?_⟩, ?_⟩
    · show (c.store.setStatus leaId (calls i).targetStatus).status leaId = _
      rw [status_setStatus, hcurrent]
      rfl
    · intro j outcome hj
      by_cases hji : j = i
      · subst hji
        rw [show ∀ t, (c.set j t).txn j = t from c.txn_set_self j] at hj
        obtain rfl := Txn.committed.inj hj
        exact ⟨List.mem_append_right _ List.mem_cons_self, from_status_iff.mpr hcurrent⟩
      · rw [show ∀ t, (c.set i t).txn j = c.txn j from c.txn_set_of_ne hji] at hj
        obtain ⟨hmem, hfrom⟩ := hrecorded j outcome hj
        exact ⟨List.mem_append_left _ hmem, hfrom⟩

/-- A run that ends with true audit rows was guarded. -/
theorem Sound.guarded_of_recorded {moves : List (Move ι)} (h : Sound leaId calls c)
    (hrecorded : Recorded (Runs.run (exec leaId calls) c moves)) :
    Runs.Guarded (exec leaId calls) (CommitsAfterRead leaId) c moves := by
  induction moves generalizing c with
  | nil => exact trivial
  | cons m moves ih =>
    refine ⟨?_, ih (h.step m) hrecorded⟩
    cases m with
    | kill => exact trivial
    | step i =>
      intro row replaced held writes running
      -- the call commits here, and its audit row is still there at the end
      have hcommit : (exec leaId calls c (.step i)).txn i = .committed
          { lea := { row with status := (calls i).targetStatus }, replaced := replaced
            auditRow := statusChanged leaId (calls i) row.status } := by
        rw [exec, Config.step, running]
        exact c.txn_set_self i _
      have hlast : (Runs.run (exec leaId calls) (exec leaId calls c (.step i)) moves).txn i = _ :=
        committed_run hcommit
      have hfrom := (hrecorded i _ hlast).2
      obtain rfl : replaced = c.store.status leaId := h.found i _ held writes running
      exact from_status_iff.mp hfrom

/-- The committed status along a guarded run. -/
theorem Sound.run {moves : List (Move ι)} (h : Sound leaId calls c) (hrecorded : Recorded c)
    (hmoves : Runs.Guarded (exec leaId calls) (CommitsAfterRead leaId) c moves) :
    (∀ earlier m later, moves = earlier ++ m :: later →
      Path leaId (Runs.run (exec leaId calls) c earlier).store
        (Runs.run (exec leaId calls) c (earlier ++ [m])).store) ∧
    Recorded (Runs.run (exec leaId calls) c moves) := by
  induction moves generalizing c with
  | nil => exact ⟨fun earlier m later heq => absurd heq (by simp), hrecorded⟩
  | cons m moves ih =>
    obtain ⟨hpath, hnext⟩ := h.legal hrecorded hmoves.1
    obtain ⟨hrest, hend⟩ := ih (h.step m) hnext hmoves.2
    refine ⟨fun earlier m' later heq => ?_, hend⟩
    cases earlier with
    | nil =>
      obtain ⟨rfl, -⟩ := List.cons.inj heq
      exact hpath
    | cons a earlier =>
      obtain ⟨rfl, hsplit⟩ := List.cons.inj heq
      exact hrest earlier m' later hsplit

end

/-! ### The result -/

/-- **The status graph.**  Along a run of transitions of one LEA the committed status
follows the graph and every audit row names the status its update replaced, exactly when
every call that commits has read the status that is committed when it does. -/
theorem status_path_iff (leaId : LeaId) (calls : ι → TransitionCall) (store : LeaStore)
    (moves : List (Move ι)) :
    ((∀ earlier m later, moves = earlier ++ m :: later →
        Path leaId (Runs.run (exec leaId calls) (begin store) earlier).store
          (Runs.run (exec leaId calls) (begin store) (earlier ++ [m])).store) ∧
      Recorded (Runs.run (exec leaId calls) (begin store) moves)) ↔
    Runs.Guarded (exec leaId calls) (CommitsAfterRead leaId) (begin store) moves := by
  have hsound : Sound leaId calls (begin store) := sound_begin leaId calls store
  constructor
  · rintro ⟨-, hrecorded⟩
    exact hsound.guarded_of_recorded hrecorded
  · intro hmoves
    refine hsound.run (fun i outcome hi => ?_) hmoves
    exact nomatch hi

/-! ### Two operators and one LEA -/

def onboardingLea : LeaStore where
  leas := AList.singleton "L1"
    { name := "Unified", leaType := "charter_lea", state := "CA", status := .onboarding }
  auditLog := []

/-- One operator activates the LEA, another decommissions it. -/
def twoCalls (i : Fin 2) : TransitionCall where
  targetStatus :=
    match i with
    | 0 => .active
    | 1 => .decommissioned
  operatorId :=
    match i with
    | 0 => "op-1"
    | 1 => "op-2"
  reason := "onboarding review"
  now := 10

/-- Both read `onboarding`; the second commits before the first updates. -/
def crossed : List (Move (Fin 2)) :=
  [.first, .second, .second, .second, .second, .first, .first]

/-- The last commit takes the LEA from `decommissioned` to `active`, and its audit row says
`onboarding`. -/
theorem decommissioned_revived :
    let c := Runs.run (exec "L1" twoCalls) (begin onboardingLea) crossed
    let c' := Runs.run (exec "L1" twoCalls) (begin onboardingLea) (crossed ++ [.step 0])
    c.store.status "L1" = some .decommissioned ∧ c'.store.status "L1" = some .active ∧
      ¬ Path "L1" c.store c'.store ∧
      c'.store.auditLog.map (fun row => row.detail.get? "from_status")
        = [some (.str "onboarding"), some (.str "onboarding")] := by
  intro c c'
  have hold : c.store.status "L1" = some .decommissioned := by decide +kernel
  have hnew : c'.store.status "L1" = some .active := by decide +kernel
  refine ⟨hold, hnew, fun h => ?_, by decide +kernel⟩
  rw [h.terminal hold] at hnew
  exact absurd hnew (by decide)

end LeaAdmin
