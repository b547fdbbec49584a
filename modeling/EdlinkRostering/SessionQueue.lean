/-
A queue of the message bus, with its sessions.

Transcribed from `infrastructure/azure_mocks/service_bus.py`.  A session holds its
pending messages; a receiver claims a session, takes messages from the head of it and
completes or abandons them; what it has neither completed nor abandoned goes back to
the head when its context exits.  Beside the queue a run keeps what the callers hold
(the open receivers) and what has happened (the messages sent, and those completed
while in flight).  A `bytes` is a list of octets; two messages are equal when their
fields are.

* `Bus.Once` — every message sent and not yet completed is pending or in flight, once;
* `Bus.Exclusive` — no two receivers hold one session;
* `Bus.InOrder` — what is pending is in the order it was sent;
* `session_queue_iff` — the first two hold in every run, the third exactly in the runs
  that put nothing back in front of an earlier message.
-/
import EdlinkRostering.Entities
import EdlinkRostering.OrderedDict
import EdlinkRostering.Runs
import Mathlib.Data.List.Nodup
import Mathlib.Data.List.Perm.Basic

/-! ### The queue -/

/-- `ServiceBusMessage`. -/
structure ServiceBusMessage where
  body : List UInt8
  sessionId : String
  messageId : String
  enqueuedAt : Instant
  properties : Dict
deriving DecidableEq

/-- `_SessionQueue`. -/
structure SessionQueue where
  sessions : OrderedDict String (List ServiceBusMessage) := []
  inFlight : OrderedDict String (List ServiceBusMessage) := []
  locks : OrderedDict String Bool := []

/-- What `receive_session` raises. -/
inductive ClaimError where
  | sessionLocked (sessionId : String)
  | noSessionAvailable
deriving DecidableEq

/-- The text of the exception. -/
def ClaimError.text : ClaimError → String
  | .sessionLocked sessionId => "Session " ++ (Json.str sessionId).pyRepr ++ " is already locked."
  | .noSessionAvailable => "No unlocked, non-empty session on this queue."

namespace SessionQueue

/-- The pending messages of a session. -/
def pending (queue : SessionQueue) (sessionId : String) : List ServiceBusMessage :=
  (queue.sessions.get? sessionId).getD []

/-- The messages of a session that are handed out. -/
def handedOut (queue : SessionQueue) (sessionId : String) : List ServiceBusMessage :=
  (queue.inFlight.get? sessionId).getD []

/-- `queue.locks.get(session_id)`. -/
def isLocked (queue : SessionQueue) (sessionId : String) : Bool :=
  (queue.locks.get? sessionId).getD false

/-- `send_message`, with the message it builds. -/
def sendMessage (queue : SessionQueue) (message : ServiceBusMessage) : SessionQueue :=
  { queue with
    sessions := queue.sessions.modify message.sessionId fun messages =>
      messages.getD [] ++ [message] }

/-- `_claim`: the session asked for, or the first one that is neither locked nor empty. -/
def claim (queue : SessionQueue) : Option String → Except ClaimError (String × SessionQueue)
  | some sessionId =>
    if queue.isLocked sessionId then .error (.sessionLocked sessionId)
    else .ok (sessionId, { queue with locks := queue.locks.modify sessionId fun _ => true })
  | none =>
    match queue.sessions.find? fun item => item.2 ≠ [] ∧ queue.isLocked item.1 = false with
    | some (sessionId, _) =>
      .ok (sessionId, { queue with locks := queue.locks.modify sessionId fun _ => true })
    | none => .error .noSessionAvailable

/-- `receive_messages`: what is handed out, and the queue after it. -/
def receiveMessages (queue : SessionQueue) (sessionId : String) (maxCount : Int) :
    List ServiceBusMessage × SessionQueue :=
  let out := (queue.pending sessionId).take maxCount.toNat
  (out,
    { queue with
      sessions := queue.sessions.modify sessionId fun messages =>
        (messages.getD []).drop maxCount.toNat
      inFlight := queue.inFlight.modify sessionId fun messages => messages.getD [] ++ out })

/-- `_complete`; a message that is not in flight is passed over. -/
def complete (queue : SessionQueue) (sessionId : String) (message : ServiceBusMessage) :
    SessionQueue :=
  { queue with
    inFlight := queue.inFlight.modify sessionId fun messages => (messages.getD []).erase message }

/-- `_abandon`; a message that is not in flight is passed over. -/
def abandon (queue : SessionQueue) (sessionId : String) (message : ServiceBusMessage) :
    SessionQueue :=
  let removed := { queue with
    inFlight := queue.inFlight.modify sessionId fun messages => (messages.getD []).erase message }
  if message ∈ queue.handedOut sessionId then
    { removed with
      sessions := queue.sessions.modify sessionId fun messages => message :: messages.getD [] }
  else removed

/-- `_release`.  The loop over `reversed(in_flight)` puts the messages back one by one, so
that they stand at the head in the order they had. -/
def release (queue : SessionQueue) (sessionId : String) : SessionQueue :=
  let returned := queue.handedOut sessionId
  { sessions := returned.reverse.foldl (fun sessions message =>
      sessions.modify sessionId fun messages => message :: messages.getD []) queue.sessions
    inFlight := queue.inFlight.pop sessionId
    locks := queue.locks.modify sessionId fun _ => false }

end SessionQueue

/-! ### Steps -/

/-- A step of a caller.  The receiver of a session is known by its session. -/
inductive BusOp where
  | send (message : ServiceBusMessage)
  | claim (sessionId : Option String)
  | receive (sessionId : String) (maxCount : Int)
  | complete (sessionId : String) (message : ServiceBusMessage)
  | abandon (sessionId : String) (message : ServiceBusMessage)
  | release (sessionId : String)

/-- The queue, the sessions of the open receivers, and what has happened so far. -/
structure Bus where
  queue : SessionQueue := {}
  receivers : List String := []
  sent : List ServiceBusMessage := []
  completed : List ServiceBusMessage := []

namespace Bus

/-- One step; a claim that raises leaves everything as it is. -/
def step (bus : Bus) : BusOp → Bus
  | .send message =>
    { bus with queue := bus.queue.sendMessage message, sent := bus.sent ++ [message] }
  | .claim sessionId =>
    match bus.queue.claim sessionId with
    | .ok (claimed, queue) => { bus with queue := queue, receivers := claimed :: bus.receivers }
    | .error _ => bus
  | .receive sessionId maxCount =>
    { bus with queue := (bus.queue.receiveMessages sessionId maxCount).2 }
  | .complete sessionId message =>
    { bus with
      queue := bus.queue.complete sessionId message
      completed :=
        if message ∈ bus.queue.handedOut sessionId then message :: bus.completed
        else bus.completed }
  | .abandon sessionId message =>
    { bus with queue := bus.queue.abandon sessionId message }
  | .release sessionId =>
    { bus with
      queue := bus.queue.release sessionId
      receivers := bus.receivers.erase sessionId }

/-- A receiver is used while it holds its session, and a new message has a new id. -/
def Legal (bus : Bus) : BusOp → Prop
  | .send message => ∀ old ∈ bus.sent, old.messageId ≠ message.messageId
  | .claim _ => True
  | .receive sessionId _ | .complete sessionId _ | .abandon sessionId _ | .release sessionId =>
    sessionId ∈ bus.receivers

instance : ∀ (bus : Bus) (op : BusOp), Decidable (bus.Legal op)
  | bus, .send message =>
    inferInstanceAs (Decidable (∀ old ∈ bus.sent, old.messageId ≠ message.messageId))
  | _, .claim _ => .isTrue trivial
  | bus, .receive sessionId _ => inferInstanceAs (Decidable (sessionId ∈ bus.receivers))
  | bus, .complete sessionId _ => inferInstanceAs (Decidable (sessionId ∈ bus.receivers))
  | bus, .abandon sessionId _ => inferInstanceAs (Decidable (sessionId ∈ bus.receivers))
  | bus, .release sessionId => inferInstanceAs (Decidable (sessionId ∈ bus.receivers))

/-! ### What a queue is for -/

/-- The messages of a session that are sent and not yet completed, in the order they were
sent. -/
def outstanding (bus : Bus) (sessionId : String) : List ServiceBusMessage :=
  bus.sent.filter fun message => message.sessionId = sessionId ∧ message ∉ bus.completed

/-- What is pending or in flight is what is outstanding, each message once. -/
def Once (bus : Bus) : Prop :=
  ∀ sessionId, (bus.queue.pending sessionId ++ bus.queue.handedOut sessionId).Perm
    (bus.outstanding sessionId) ∧ (bus.outstanding sessionId).Nodup

/-- No two receivers hold one session. -/
def Exclusive (bus : Bus) : Prop := bus.receivers.Nodup

/-- One message was sent before another. -/
def SentBefore (bus : Bus) (message message' : ServiceBusMessage) : Prop :=
  bus.sent.idxOf message < bus.sent.idxOf message'

instance (bus : Bus) : DecidableRel bus.SentBefore := fun _ _ => Nat.decLt _ _

/-- Every session would be handed out in the order it was sent. -/
def InOrder (bus : Bus) : Prop :=
  ∀ sessionId, (bus.queue.pending sessionId).Pairwise bus.SentBefore

/-- Nothing is put back in front of a message that was sent before it: what a receiver
abandons was sent before all that waits, and what it returns at its exit is in order and was
sent before all that waits. -/
def PutsBackInOrder (bus : Bus) : BusOp → Prop
  | .abandon sessionId message =>
    message ∈ bus.queue.handedOut sessionId →
      ∀ waiting ∈ bus.queue.pending sessionId, bus.SentBefore message waiting
  | .release sessionId =>
    (bus.queue.handedOut sessionId).Pairwise bus.SentBefore ∧
      ∀ message ∈ bus.queue.handedOut sessionId, ∀ waiting ∈ bus.queue.pending sessionId,
        bus.SentBefore message waiting
  | _ => True

end Bus

/-! ### What the operations do to a session -/

namespace SessionQueue

variable (queue : SessionQueue) (sessionId s : String) (message : ServiceBusMessage)

theorem pending_sendMessage :
    (queue.sendMessage message).pending s
      = if s = message.sessionId then queue.pending s ++ [message] else queue.pending s := by
  rw [sendMessage, pending, OrderedDict.getD_modify]
  rfl

theorem pending_receiveMessages (maxCount : Int) :
    (queue.receiveMessages sessionId maxCount).2.pending s
      = if s = sessionId then (queue.pending s).drop maxCount.toNat else queue.pending s := by
  rw [receiveMessages, pending, OrderedDict.getD_modify]
  rfl

theorem handedOut_receiveMessages (maxCount : Int) :
    (queue.receiveMessages sessionId maxCount).2.handedOut s
      = if s = sessionId then queue.handedOut s ++ (queue.pending s).take maxCount.toNat
        else queue.handedOut s := by
  rw [receiveMessages, handedOut, OrderedDict.getD_modify]
  by_cases h : s = sessionId
  · rw [if_pos h, if_pos h, h]
    rfl
  · rw [if_neg h, if_neg h]
    rfl

theorem handedOut_complete :
    (queue.complete sessionId message).handedOut s
      = if s = sessionId then (queue.handedOut s).erase message else queue.handedOut s := by
  rw [complete, handedOut, OrderedDict.getD_modify]
  rfl

theorem handedOut_abandon :
    (queue.abandon sessionId message).handedOut s
      = if s = sessionId then (queue.handedOut s).erase message else queue.handedOut s := by
  rw [← handedOut_complete, abandon]
  by_cases h : message ∈ queue.handedOut sessionId
  · rw [if_pos h]
    rfl
  · rw [if_neg h]
    rfl

theorem pending_abandon :
    (queue.abandon sessionId message).pending s
      = if s = sessionId ∧ message ∈ queue.handedOut sessionId then message :: queue.pending s
        else queue.pending s := by
  rw [abandon]
  by_cases hm : message ∈ queue.handedOut sessionId
  · rw [if_pos hm, pending, OrderedDict.getD_modify]
    simp only [hm, and_true]
    rfl
  · rw [if_neg hm, if_neg (fun hand => hm hand.2)]
    rfl

theorem handedOut_release :
    (queue.release sessionId).handedOut s
      = if s = sessionId then [] else queue.handedOut s := by
  rw [release, handedOut, OrderedDict.get?_pop]
  split <;> rfl

/-- Putting messages back one by one, the last of them first, puts them at the head. -/
theorem getD_putBack (sessions : OrderedDict String (List ServiceBusMessage))
    (messages : List ServiceBusMessage) :
    ((messages.reverse.foldl (fun sessions message =>
        sessions.modify sessionId fun waiting => message :: waiting.getD [])
          sessions).get? s).getD []
      = if s = sessionId then messages ++ (sessions.get? s).getD []
        else (sessions.get? s).getD [] := by
  rw [List.foldl_reverse]
  induction messages with
  | nil => split <;> rfl
  | cons message messages ih =>
    rw [List.foldr_cons, OrderedDict.getD_modify]
    by_cases h : s = sessionId
    · subst h
      rw [if_pos rfl] at ih ⊢
      rw [ih, if_pos rfl]
      rfl
    · rw [if_neg h] at ih ⊢
      rw [ih, if_neg h]

theorem pending_release :
    (queue.release sessionId).pending s
      = if s = sessionId then queue.handedOut s ++ queue.pending s else queue.pending s := by
  rw [release, pending, getD_putBack]
  by_cases h : s = sessionId
  · rw [if_pos h, if_pos h, h]
    rfl
  · rw [if_neg h, if_neg h]
    rfl

theorem isLocked_release :
    (queue.release sessionId).isLocked s = if s = sessionId then false else queue.isLocked s := by
  rw [release, isLocked, OrderedDict.getD_modify]
  rfl

variable {queue sessionId s} {queue' : SessionQueue} {request : Option String}

/-- A claim that succeeds finds its session unlocked and locks it; nothing else changes. -/
theorem claim_eq_ok (h : queue.claim request = .ok (sessionId, queue')) :
    queue.isLocked sessionId = false ∧
      queue' = { queue with locks := queue.locks.modify sessionId fun _ => true } := by
  cases request with
  | some asked =>
    rw [claim] at h
    by_cases hlocked : queue.isLocked asked = true
    · rw [if_pos hlocked] at h
      exact nomatch h
    · rw [if_neg hlocked] at h
      obtain ⟨rfl, rfl⟩ := Prod.mk.inj (Except.ok.inj h)
      exact ⟨by simpa using hlocked, rfl⟩
  | none =>
    rw [claim] at h
    split at h
    · next found messages hfind =>
      obtain ⟨rfl, rfl⟩ := Prod.mk.inj (Except.ok.inj h)
      have hfound := List.find?_some hfind
      simp only [decide_eq_true_eq] at hfound
      exact ⟨hfound.2, rfl⟩
    · exact nomatch h

theorem isLocked_claim (h : queue.claim request = .ok (sessionId, queue')) :
    queue'.isLocked s = if s = sessionId then true else queue.isLocked s := by
  obtain ⟨-, rfl⟩ := claim_eq_ok h
  rw [isLocked, OrderedDict.getD_modify]
  rfl

end SessionQueue

/-! ### What every step keeps -/

namespace Bus

variable {bus : Bus} {op : BusOp} {sessionId s : String} {message : ServiceBusMessage}

/-- What holds after every legal run, with what the steps need for it. -/
structure Kept (bus : Bus) : Prop where
  places : ∀ sessionId, (bus.queue.pending sessionId ++ bus.queue.handedOut sessionId).Perm
    (bus.outstanding sessionId)
  nodup : bus.sent.Nodup
  completed : ∀ message ∈ bus.completed, message ∈ bus.sent
  exclusive : bus.receivers.Nodup
  held : ∀ sessionId, sessionId ∈ bus.receivers ↔ bus.queue.isLocked sessionId = true

theorem Kept.once (hk : bus.Kept) : bus.Once :=
  fun sessionId => ⟨hk.places sessionId, hk.nodup.filter _⟩

theorem mem_outstanding :
    message ∈ bus.outstanding sessionId ↔
      message ∈ bus.sent ∧ message.sessionId = sessionId ∧ message ∉ bus.completed := by
  simp [outstanding]

theorem Kept.nodup_places (hk : bus.Kept) (sessionId : String) :
    (bus.queue.pending sessionId ++ bus.queue.handedOut sessionId).Nodup :=
  (hk.places sessionId).nodup_iff.mpr (hk.once sessionId).2

theorem Kept.mem_of_pending (hk : bus.Kept) (h : message ∈ bus.queue.pending sessionId) :
    message ∈ bus.outstanding sessionId :=
  (hk.places sessionId).subset (List.mem_append_left _ h)

theorem Kept.mem_of_handedOut (hk : bus.Kept) (h : message ∈ bus.queue.handedOut sessionId) :
    message ∈ bus.outstanding sessionId :=
  (hk.places sessionId).subset (List.mem_append_right _ h)

theorem Kept.start : Kept {} where
  places _ := List.Perm.refl _
  nodup := List.nodup_nil
  completed _ h := absurd h List.not_mem_nil
  exclusive := List.nodup_nil
  held _ := ⟨fun h => absurd h List.not_mem_nil, fun h => nomatch h⟩

/-- A new message waits behind the others of its session. -/
theorem Kept.send (hk : bus.Kept) (hnew : bus.Legal (.send message)) :
    (bus.step (.send message)).Kept := by
  have hfresh : message ∉ bus.sent := fun hmem => hnew message hmem rfl
  have hopen : message ∉ bus.completed := fun hmem => hfresh (hk.completed message hmem)
  refine ⟨fun s => ?_, ?_, fun m hm => List.mem_append_left _ (hk.completed m hm), hk.exclusive,
    hk.held⟩
  · show ((bus.queue.sendMessage message).pending s ++ bus.queue.handedOut s).Perm
      ((bus.sent ++ [message]).filter fun m => m.sessionId = s ∧ m ∉ bus.completed)
    rw [SessionQueue.pending_sendMessage, List.filter_append]
    by_cases h : s = message.sessionId
    · have hlast : [message].filter (fun m => m.sessionId = s ∧ m ∉ bus.completed) = [message] := by
        simp [h, hopen]
      rw [if_pos h, hlast, List.append_assoc]
      refine List.Perm.trans ?_ ((hk.places s).append_right [message])
      rw [List.append_assoc]
      exact List.perm_append_comm.append_left _
    · have hlast : [message].filter (fun m => m.sessionId = s ∧ m ∉ bus.completed) = [] := by
        simp [Ne.symm h]
      rw [if_neg h, hlast, List.append_nil]
      exact hk.places s
  · show (bus.sent ++ [message]).Nodup
    rw [← List.concat_eq_append]
    exact hk.nodup.concat hfresh

/-- Who claims a session finds that nobody holds it. -/
theorem Kept.claim (hk : bus.Kept) (request : Option String) :
    (bus.step (.claim request)).Kept := by
  rw [step]
  cases h : bus.queue.claim request with
  | error e => exact hk
  | ok claimed =>
    obtain ⟨sessionId, queue'⟩ := claimed
    obtain ⟨hfree, hqueue⟩ := SessionQueue.claim_eq_ok h
    have hnew : sessionId ∉ bus.receivers := by
      rw [hk.held sessionId, hfree]
      exact Bool.false_ne_true
    refine ⟨fun s => ?_, hk.nodup, hk.completed, List.nodup_cons.mpr ⟨hnew, hk.exclusive⟩, ?_⟩
    · subst hqueue
      exact hk.places s
    · intro s
      show s ∈ sessionId :: bus.receivers ↔ queue'.isLocked s = true
      rw [SessionQueue.isLocked_claim h, List.mem_cons, hk.held s]
      by_cases hs : s = sessionId
      · simp [hs]
      · simp [hs]

/-- What is handed out moves from the one list to the other. -/
theorem Kept.receive (hk : bus.Kept) (sessionId : String) (maxCount : Int) :
    (bus.step (.receive sessionId maxCount)).Kept := by
  refine ⟨fun s => ?_, hk.nodup, hk.completed, hk.exclusive, hk.held⟩
  show ((bus.queue.receiveMessages sessionId maxCount).2.pending s
    ++ (bus.queue.receiveMessages sessionId maxCount).2.handedOut s).Perm (bus.outstanding s)
  rw [SessionQueue.pending_receiveMessages, SessionQueue.handedOut_receiveMessages]
  by_cases h : s = sessionId
  · rw [if_pos h, if_pos h]
    refine List.Perm.trans ?_ (hk.places s)
    rw [← List.append_assoc]
    refine List.perm_append_comm.trans ?_
    rw [← List.append_assoc, List.take_append_drop]
  · rw [if_neg h, if_neg h]
    exact hk.places s

/-- A message that is completed leaves the session for good. -/
theorem Kept.complete (hk : bus.Kept) (sessionId : String) (message : ServiceBusMessage) :
    (bus.step (.complete sessionId message)).Kept := by
  by_cases hm : message ∈ bus.queue.handedOut sessionId
  · have hout := mem_outstanding.mp (hk.mem_of_handedOut hm)
    have hstep : bus.step (.complete sessionId message)
        = { bus with
            queue := bus.queue.complete sessionId message
            completed := message :: bus.completed } := by
      rw [step, if_pos hm]
    have hrest : ∀ s, (bus.step (.complete sessionId message)).outstanding s
        = (bus.outstanding s).filter (· != message) := by
      intro s
      rw [hstep, outstanding, outstanding, List.filter_filter]
      refine List.filter_congr fun m _ => ?_
      rw [Bool.eq_iff_iff, Bool.and_eq_true, bne_iff_ne, decide_eq_true_eq, decide_eq_true_eq,
        List.mem_cons, not_or]
      exact ⟨fun h => ⟨h.2.1, h.1, h.2.2⟩, fun h => ⟨h.2.1, h.1, h.2.2⟩⟩
    refine ⟨fun s => ?_, ?_, ?_, ?_, ?_⟩
    · rw [hrest]
      rw [hstep]
      show (bus.queue.pending s ++ (bus.queue.complete sessionId message).handedOut s).Perm _
      rw [SessionQueue.handedOut_complete]
      by_cases h : s = sessionId
      · subst h
        -- it is in flight, so it is not pending
        have hnot : message ∉ bus.queue.pending s := fun hp =>
          (List.nodup_append.mp (hk.nodup_places s)).2.2 message hp message hm rfl
        rw [if_pos rfl, ← List.erase_append_right _ hnot,
          ← (hk.once s).2.erase_eq_filter]
        exact (hk.places s).erase message
      · rw [if_neg h, List.filter_eq_self.mpr]
        · exact hk.places s
        · intro m hmem
          have hs := (mem_outstanding.mp hmem).2.1
          rw [bne_iff_ne]
          intro heq
          exact h (hs.symm.trans ((congrArg ServiceBusMessage.sessionId heq).trans hout.2.1))
    · rw [hstep]
      exact hk.nodup
    · rw [hstep]
      intro m hmem
      rcases List.mem_cons.mp hmem with rfl | hmem
      · exact hout.1
      · exact hk.completed m hmem
    · rw [hstep]
      exact hk.exclusive
    · rw [hstep]
      exact hk.held
  · have hstep : bus.step (.complete sessionId message)
        = { bus with queue := bus.queue.complete sessionId message } := by
      rw [step, if_neg hm]
    rw [hstep]
    refine ⟨fun s => ?_, hk.nodup, hk.completed, hk.exclusive, hk.held⟩
    show (bus.queue.pending s ++ (bus.queue.complete sessionId message).handedOut s).Perm
      (bus.outstanding s)
    rw [SessionQueue.handedOut_complete]
    by_cases h : s = sessionId
    · subst h
      rw [if_pos rfl, List.erase_of_not_mem hm]
      exact hk.places s
    · rw [if_neg h]
      exact hk.places s

/-- A message that is abandoned goes back to its session. -/
theorem Kept.abandon (hk : bus.Kept) (sessionId : String) (message : ServiceBusMessage) :
    (bus.step (.abandon sessionId message)).Kept := by
  have hheld : ∀ s, (bus.queue.abandon sessionId message).isLocked s = bus.queue.isLocked s := by
    intro s
    rw [SessionQueue.abandon]
    split <;> rfl
  refine ⟨fun s => ?_, hk.nodup, hk.completed, hk.exclusive, fun s => ?_⟩
  · show ((bus.queue.abandon sessionId message).pending s
      ++ (bus.queue.abandon sessionId message).handedOut s).Perm (bus.outstanding s)
    rw [SessionQueue.pending_abandon, SessionQueue.handedOut_abandon]
    by_cases h : s = sessionId
    · subst h
      rw [if_pos rfl]
      by_cases hm : message ∈ bus.queue.handedOut s
      · rw [if_pos ⟨rfl, hm⟩, List.cons_append]
        refine List.Perm.trans ?_ (hk.places s)
        exact List.perm_middle.symm.trans ((List.perm_cons_erase hm).symm.append_left _)
      · rw [if_neg (fun hand => hm hand.2), List.erase_of_not_mem hm]
        exact hk.places s
    · rw [if_neg (fun hand => h hand.1), if_neg h]
      exact hk.places s
  · show s ∈ bus.receivers ↔ (bus.queue.abandon sessionId message).isLocked s = true
    rw [hheld s]
    exact hk.held s

/-- When a receiver exits, its messages wait again and its session is free. -/
theorem Kept.release (hk : bus.Kept) (sessionId : String) :
    (bus.step (.release sessionId)).Kept := by
  refine ⟨fun s => ?_, hk.nodup, hk.completed, hk.exclusive.erase _, fun s => ?_⟩
  · show ((bus.queue.release sessionId).pending s
      ++ (bus.queue.release sessionId).handedOut s).Perm (bus.outstanding s)
    rw [SessionQueue.pending_release, SessionQueue.handedOut_release]
    by_cases h : s = sessionId
    · rw [if_pos h, if_pos h, List.append_nil]
      exact List.perm_append_comm.trans (hk.places s)
    · rw [if_neg h, if_neg h]
      exact hk.places s
  · show s ∈ bus.receivers.erase sessionId ↔ (bus.queue.release sessionId).isLocked s = true
    rw [hk.exclusive.mem_erase_iff, SessionQueue.isLocked_release, hk.held s]
    by_cases h : s = sessionId
    · simp [h]
    · simp [h]

theorem Kept.step (bus : Bus) (op : BusOp) (hk : bus.Kept) (hlegal : bus.Legal op) :
    (bus.step op).Kept := by
  cases op with
  | send message => exact hk.send hlegal
  | claim request => exact hk.claim request
  | receive sessionId maxCount => exact hk.receive sessionId maxCount
  | complete sessionId message => exact hk.complete sessionId message
  | abandon sessionId message => exact hk.abandon sessionId message
  | release sessionId => exact hk.release sessionId

theorem kept_run {ops : List BusOp} (h : Runs.Guarded Bus.step Bus.Legal {} ops) :
    (Runs.run Bus.step {} ops).Kept :=
  h.invariant Kept.step .start

/-! ### The order of a session -/

/-- What was in order stays in order when a message is sent, which comes after it. -/
theorem pairwise_send {messages : List ServiceBusMessage} (hnew : bus.Legal (.send message))
    (hsent : ∀ m ∈ messages, m ∈ bus.sent) (ho : messages.Pairwise bus.SentBefore) :
    (messages ++ [message]).Pairwise (bus.step (.send message)).SentBefore := by
  have hfresh : message ∉ bus.sent := fun hmem => hnew message hmem rfl
  refine List.pairwise_append.mpr ⟨ho.imp_of_mem ?_, List.pairwise_singleton _ _, ?_⟩
  · intro a b ha hb hab
    show (bus.sent ++ [message]).idxOf a < (bus.sent ++ [message]).idxOf b
    rw [List.idxOf_append_of_mem (hsent a ha), List.idxOf_append_of_mem (hsent b hb)]
    exact hab
  · intro a ha b hb
    rw [List.mem_singleton.mp hb]
    show (bus.sent ++ [message]).idxOf a < (bus.sent ++ [message]).idxOf message
    have hlt := List.idxOf_lt_length_iff.mpr (hsent a ha)
    rw [List.idxOf_append_of_mem (hsent a ha), List.idxOf_append_of_notMem hfresh]
    omega

theorem inOrder_send (hk : bus.Kept) (hnew : bus.Legal (.send message)) (ho : bus.InOrder) :
    (bus.step (.send message)).InOrder := by
  intro s
  have hlater := pairwise_send hnew
    (fun m hm => (mem_outstanding.mp (hk.mem_of_pending hm)).1) (ho s)
  show ((bus.queue.sendMessage message).pending s).Pairwise _
  rw [SessionQueue.pending_sendMessage]
  split
  · exact hlater
  · exact hlater.sublist (List.sublist_append_left _ _)

/-- **One step keeps the order exactly when it puts nothing back in front of an earlier
message.** -/
theorem inOrder_step (hk : bus.Kept) (hlegal : bus.Legal op) (ho : bus.InOrder) :
    (bus.step op).InOrder ↔ bus.PutsBackInOrder op := by
  cases op with
  | send message => exact iff_of_true (inOrder_send hk hlegal ho) trivial
  | claim request =>
    refine iff_of_true ?_ trivial
    rw [step]
    cases h : bus.queue.claim request with
    | error e => exact ho
    | ok claimed =>
      obtain ⟨sessionId, queue'⟩ := claimed
      obtain ⟨-, rfl⟩ := SessionQueue.claim_eq_ok h
      exact ho
  | receive sessionId maxCount =>
    refine iff_of_true (fun s => ?_) trivial
    show ((bus.queue.receiveMessages sessionId maxCount).2.pending s).Pairwise bus.SentBefore
    rw [SessionQueue.pending_receiveMessages]
    split
    · -- a batch is taken from the front
      exact (ho s).drop
    · exact ho s
  | complete sessionId message => exact iff_of_true ho trivial
  | abandon sessionId message =>
    have hpending : ∀ s, ((bus.step (.abandon sessionId message)).queue.pending s)
        = if s = sessionId ∧ message ∈ bus.queue.handedOut sessionId
          then message :: bus.queue.pending s else bus.queue.pending s := fun s =>
      SessionQueue.pending_abandon bus.queue sessionId s message
    constructor
    · -- the message in front was sent before all that follow
      intro h hm
      have hs := h sessionId
      rw [hpending, if_pos ⟨rfl, hm⟩] at hs
      exact (List.pairwise_cons.mp hs).1
    · intro h s
      rw [hpending]
      split
      · next hand =>
        obtain ⟨rfl, hm⟩ := hand
        exact List.pairwise_cons.mpr ⟨h hm, ho s⟩
      · exact ho s
  | release sessionId =>
    have hpending : ∀ s, ((bus.step (.release sessionId)).queue.pending s)
        = if s = sessionId then bus.queue.handedOut s ++ bus.queue.pending s
          else bus.queue.pending s := fun s =>
      SessionQueue.pending_release bus.queue sessionId s
    constructor
    · -- the batch in flight goes back in front, in its own order
      intro h
      have hs := h sessionId
      rw [hpending, if_pos rfl, List.pairwise_append] at hs
      exact ⟨hs.1, hs.2.2⟩
    · intro h s
      rw [hpending]
      split
      · next heq =>
        subst heq
        exact List.pairwise_append.mpr ⟨h.1, ho s, h.2⟩
      · exact ho s

/-- The order is that of what a receiver is handed: a batch comes in the order it was sent,
and before all that the batch leaves behind. -/
theorem inOrder_iff_receive : bus.InOrder ↔ ∀ sessionId maxCount,
    ((bus.queue.receiveMessages sessionId maxCount).1 ++
      (bus.queue.receiveMessages sessionId maxCount).2.pending sessionId).Pairwise
        bus.SentBefore := by
  have hsplit : ∀ sessionId maxCount, (bus.queue.receiveMessages sessionId maxCount).1 ++
      (bus.queue.receiveMessages sessionId maxCount).2.pending sessionId
      = bus.queue.pending sessionId := by
    intro sessionId maxCount
    rw [SessionQueue.pending_receiveMessages, if_pos rfl]
    exact List.take_append_drop _ _
  constructor
  · intro h sessionId maxCount
    rw [hsplit]
    exact h sessionId
  · intro h sessionId
    rw [← hsplit sessionId 0]
    exact h sessionId 0

/-- **The session queue keeps every message once, and in order.**  After every legal run
each session has what was sent to it and not completed, each message once, and one holder
at most.  What is pending stays in the order it was sent all along a run exactly when no
step of the run puts a message back in front of one that was sent before it. -/
theorem session_queue_iff (ops : List BusOp) (hlegal : Runs.Guarded step Legal {} ops) :
    (∀ before, before <+: ops → (Runs.run step {} before).Once ∧
      (Runs.run step {} before).Exclusive) ∧
    ((∀ before, before <+: ops → (Runs.run step {} before).InOrder) ↔
      Runs.Guarded step PutsBackInOrder {} ops) := by
  constructor
  · rintro before ⟨after, rfl⟩
    have hk := kept_run (Runs.Guarded.append.mp hlegal).1
    exact ⟨hk.once, hk.exclusive⟩
  · exact Runs.holds_throughout_iff Kept.step (fun _ _ hk hop ho => inOrder_step hk hop ho) .start
      (fun _ => List.Pairwise.nil) hlegal

/-- The messages of one session, numbered. -/
def numbered (messageId : String) : ServiceBusMessage :=
  { body := [], sessionId := "lea-001", messageId := messageId, enqueuedAt := 0, properties := [] }

/-- Two messages received together and abandoned, the one received last first. -/
def newestFirst : List BusOp :=
  [.send (numbered "first"), .send (numbered "second"), .claim none, .receive "lea-001" 10,
    .abandon "lea-001" (numbered "second"), .abandon "lea-001" (numbered "first"),
    .release "lea-001"]

theorem session_queue_iff_newestFirst :
    Runs.Guarded step Legal {} newestFirst ∧
      (∀ before, before <+: newestFirst → (Runs.run step {} before).Once ∧
        (Runs.run step {} before).Exclusive) ∧
      ((∀ before, before <+: newestFirst → (Runs.run step {} before).InOrder) ↔
        Runs.Guarded step PutsBackInOrder {} newestFirst) :=
  have hlegal : Runs.Guarded step Legal {} newestFirst := by decide +kernel
  ⟨hlegal, session_queue_iff newestFirst hlegal⟩

/-- Two messages received together and abandoned in the order they came. -/
def oldestFirst : List BusOp :=
  [.send (numbered "first"), .send (numbered "second"), .claim none, .receive "lea-001" 10,
    .abandon "lea-001" (numbered "first"), .abandon "lea-001" (numbered "second"),
    .release "lea-001"]

theorem abandoning_reverses :
    Runs.Guarded step Legal {} oldestFirst ∧
      (((Runs.run step {} oldestFirst).queue.receiveMessages "lea-001" 10).1.map (·.messageId))
        = ["second", "first"] ∧
      ¬ (Runs.run step {} oldestFirst).InOrder := by
  refine ⟨by decide +kernel, by decide +kernel, fun h => ?_⟩
  have hpending := h "lea-001"
  revert hpending
  decide +kernel

/-! ### Receivers that keep the order -/

/-- A receiver abandons only what it has received last. -/
def AbandonsNewest (bus : Bus) : BusOp → Prop
  | .abandon sessionId message =>
    message ∈ bus.queue.handedOut sessionId →
      (bus.queue.handedOut sessionId).getLast? = some message
  | _ => True

/-- What is in flight comes before what is pending, all of it in order. -/
def Whole (bus : Bus) : Prop :=
  ∀ sessionId, (bus.queue.handedOut sessionId ++ bus.queue.pending sessionId).Pairwise
    bus.SentBefore

theorem Whole.putsBackInOrder (hw : bus.Whole) (op : BusOp)
    (hnewest : bus.AbandonsNewest op) : bus.PutsBackInOrder op := by
  cases op with
  | abandon sessionId message =>
    intro hm waiting hwaiting
    exact (List.pairwise_append.mp (hw sessionId)).2.2 message hm waiting hwaiting
  | release sessionId =>
    have hboth := List.pairwise_append.mp (hw sessionId)
    exact ⟨hboth.1, hboth.2.2⟩
  | _ => trivial

theorem Whole.step (hk : bus.Kept) (hw : bus.Whole) (hlegal : bus.Legal op)
    (hnewest : bus.AbandonsNewest op) : (bus.step op).Whole := by
  cases op with
  | send message =>
    intro s
    -- a new message comes after all that are outstanding
    have hlater := pairwise_send hlegal (fun m hm => (mem_outstanding.mp
      ((hk.places s).subset (List.perm_append_comm.subset hm))).1) (hw s)
    show (bus.queue.handedOut s ++ (bus.queue.sendMessage message).pending s).Pairwise _
    rw [SessionQueue.pending_sendMessage]
    split
    · rw [← List.append_assoc]
      exact hlater
    · exact hlater.sublist (List.sublist_append_left _ _)
  | claim request =>
    rw [Bus.step]
    cases h : bus.queue.claim request with
    | error e => exact hw
    | ok claimed =>
      obtain ⟨sessionId, queue'⟩ := claimed
      obtain ⟨-, rfl⟩ := SessionQueue.claim_eq_ok h
      exact hw
  | receive sessionId maxCount =>
    intro s
    show ((bus.queue.receiveMessages sessionId maxCount).2.handedOut s
      ++ (bus.queue.receiveMessages sessionId maxCount).2.pending s).Pairwise bus.SentBefore
    rw [SessionQueue.pending_receiveMessages, SessionQueue.handedOut_receiveMessages]
    split
    · -- a batch goes from the front of the one list to the end of the other
      rw [List.append_assoc, List.take_append_drop]
      exact hw s
    · exact hw s
  | complete sessionId message =>
    intro s
    show ((bus.queue.complete sessionId message).handedOut s ++ bus.queue.pending s).Pairwise
      bus.SentBefore
    rw [SessionQueue.handedOut_complete]
    split
    · exact (hw s).sublist (List.erase_sublist.append_right _)
    · exact hw s
  | abandon sessionId message =>
    intro s
    show ((bus.queue.abandon sessionId message).handedOut s
      ++ (bus.queue.abandon sessionId message).pending s).Pairwise bus.SentBefore
    rw [SessionQueue.handedOut_abandon, SessionQueue.pending_abandon]
    by_cases h : s = sessionId
    · subst h
      rw [if_pos rfl]
      by_cases hm : message ∈ bus.queue.handedOut s
      · -- the newest message moves across the border between the two lists
        obtain ⟨earlier, hlast⟩ := List.getLast?_eq_some_iff.mp (hnewest hm)
        have hnot : message ∉ earlier := by
          have hnd := (List.nodup_append.mp (hk.nodup_places s)).2.1
          rw [hlast] at hnd
          exact fun hmem => (List.nodup_append.mp hnd).2.2 message hmem message
            (List.mem_singleton.mpr rfl) rfl
        have hall := hw s
        rw [if_pos ⟨rfl, hm⟩, hlast, List.erase_append_right _ hnot, List.erase_cons_head,
          List.append_nil]
        rw [hlast, List.append_assoc] at hall
        exact hall
      · rw [if_neg (fun hand => hm hand.2), List.erase_of_not_mem hm]
        exact hw s
    · rw [if_neg h, if_neg (fun hand => h hand.1)]
      exact hw s
  | release sessionId =>
    intro s
    show ((bus.queue.release sessionId).handedOut s
      ++ (bus.queue.release sessionId).pending s).Pairwise bus.SentBefore
    rw [SessionQueue.handedOut_release, SessionQueue.pending_release]
    split
    · exact hw s
    · exact hw s

/-- Receivers that abandon what they received last never disturb the order. -/
theorem putsBackInOrder_of_newest {ops : List BusOp} (hlegal : Runs.Guarded step Legal {} ops)
    (hnewest : Runs.Guarded step AbandonsNewest {} ops) :
    Runs.Guarded step PutsBackInOrder {} ops := by
  suffices h : ∀ (ops : List BusOp) (bus : Bus), bus.Kept → bus.Whole →
      Runs.Guarded step Legal bus ops → Runs.Guarded step AbandonsNewest bus ops →
      Runs.Guarded step PutsBackInOrder bus ops from
    h ops {} .start (fun _ => List.Pairwise.nil) hlegal hnewest
  intro ops
  induction ops with
  | nil => exact fun _ _ _ _ _ => trivial
  | cons op ops ih =>
    rintro bus hk hw ⟨hop, hrest⟩ ⟨hnew, hnews⟩
    exact ⟨hw.putsBackInOrder op hnew,
      ih _ (Kept.step bus op hk hop) (hw.step hk hop hnew) hrest hnews⟩

end Bus
