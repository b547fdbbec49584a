/-
The retry service: rewind the cursor of a job and leave an audit row.

* `retry_eq_ok` — an accepted retry writes the cursor and the audit row and
  nothing else.
-/
import EdlinkRostering.Store

inductive RetryError where
  | syncJobNotFound (syncJobId : Uuid)
  | refusedRevert (syncJobId : Uuid)
  | refusedSuccess (syncJobId : Uuid)
deriving DecidableEq

def RetryError.message : RetryError → String
  | .syncJobNotFound id => "sync_job_id " ++ id ++ " not found"
  | .refusedRevert id => "sync_job_id " ++ id
      ++ " is a revert synthetic row; write a new sync instead of retrying a revert."
  | .refusedSuccess id => "sync_job_id " ++ id
      ++ " ended in status='success'. Pass forced=True (CLI: --force) to retry a successful sync."

/-- What a retry is called with. -/
structure RetryRun where
  syncJobId : Uuid
  operatorIdentity : String
  reason : String
  forced : Bool
  now : Instant

structure RetryOutcome where
  syncJobId : Uuid
  leaId : LeaId
  partner : String
  cursorRewoundTo : Option String
  forced : Bool
deriving DecidableEq

/-- `_rewind_cursor`. -/
def rewindCursor (s : Store) (leaId : LeaId) (partner : String) (cursorValue : Option String)
    (now : Instant) : Store :=
  let old := s.cursorState.lookup (leaId, partner)
  let row : CursorStateRow :=
    { lastEventId := cursorValue
      lastEventAt := none
      lastPollAt := old.bind (·.lastPollAt)
      coldStartRequired := old.any (·.coldStartRequired)
      updatedAt := now }
  { s with cursorState := s.cursorState.insert (leaId, partner) row }

/-- `_insert_retry_action`. -/
def RetryRun.action (run : RetryRun) (target : SyncJobRow) : RetryActionRow where
  syncJobId := run.syncJobId
  leaId := target.leaId
  partner := target.partner
  operatorIdentity := run.operatorIdentity
  reason := run.reason
  retriedAt := run.now
  cursorRewoundTo := target.cursorBefore
  forced := run.forced

/-- `RetryService.retry`. -/
def retry (run : RetryRun) (s : Store) : Except RetryError (Store × RetryOutcome) :=
  match s.syncJobs.lookup run.syncJobId with
  | none => .error (.syncJobNotFound run.syncJobId)
  | some target =>
    if target.status = .revert then .error (.refusedRevert run.syncJobId)
    else if target.status = .success && !run.forced then .error (.refusedSuccess run.syncJobId)
    else
      let s' := rewindCursor s target.leaId target.partner target.cursorBefore run.now
      .ok ({ s' with retryActions := s'.retryActions ++ [run.action target] },
        { syncJobId := run.syncJobId, leaId := target.leaId, partner := target.partner
          cursorRewoundTo := target.cursorBefore, forced := run.forced })

theorem retry_eq_ok {run : RetryRun} {s s' : Store} {outcome : RetryOutcome}
    (h : retry run s = .ok (s', outcome)) :
    ∃ target, s.syncJobs.lookup run.syncJobId = some target ∧
      s'.cursorState
        = (rewindCursor s target.leaId target.partner target.cursorBefore run.now).cursorState ∧
      s' = { s with
        cursorState := s'.cursorState, retryActions := s.retryActions ++ [run.action target] } := by
  rw [retry] at h
  split at h
  · exact absurd h (by simp)
  · next target htarget =>
    split at h
    · exact absurd h (by simp)
    · split at h
      · exact absurd h (by simp)
      · obtain ⟨rfl, -⟩ := Prod.mk.inj (Except.ok.inj h)
        exact ⟨target, htarget, rfl, rfl⟩

/-- The outcome of an accepted retry names the pair of its job. -/
theorem retry_outcome {run : RetryRun} {s s' : Store} {outcome : RetryOutcome}
    (h : retry run s = .ok (s', outcome)) {target : SyncJobRow}
    (htarget : s.syncJobs.lookup run.syncJobId = some target) :
    outcome = { syncJobId := run.syncJobId, leaId := target.leaId, partner := target.partner
                cursorRewoundTo := target.cursorBefore, forced := run.forced } := by
  rw [retry, htarget] at h
  simp only at h
  split at h
  · exact absurd h (by simp)
  · split at h
    · exact absurd h (by simp)
    · exact (Prod.mk.inj (Except.ok.inj h)).2.symm
