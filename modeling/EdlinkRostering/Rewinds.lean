/-
A retry against an open page.

A page reads the cursor with its first statement and writes it with its last; a retry
of an earlier job rewinds it in between, or before, or after.  Which of the two writes
stays is a matter of which commits last, and the page writes what it made of the cursor
it read.

* `PageAt.step`, `RetryAt.step` — what an open page and an open retry have done so far;
* `rewind_stays_iff` — when the rewind is still there once both have committed, and
  when the events it was for are delivered again.
-/
import EdlinkRostering.PageTransactions

open ReadCommitted

namespace Rewinds

/-! ### The two transactions -/

inductive Party where
  | worker
  | operator
deriving DecidableEq

instance : Fintype Party where
  elems := {.worker, .operator}
  complete := by
    intro party
    cases party <;> decide

inductive SyncPc where
  | page (pc : PagePc)
  | retry (pc : RetryPc)

inductive SyncOutcome where
  | page (outcome : PageOutcome)
  | retry (outcome : RetryOutcome)
deriving DecidableEq

inductive SyncError where
  | page
  | retry (error : RetryError)

abbrev SyncTxn := Txn Store CursorKey SyncPc SyncOutcome SyncError

abbrev SyncConfig := Config Party Store CursorKey SyncPc SyncOutcome SyncError

/-- A page of an LEA against a retry. -/
structure Race where
  pg : Postgres
  leaId : LeaId
  poll : Poll
  run : RetryRun

namespace Race

variable (race : Race)

/-- The next statement of a party. -/
def program (_party : Party) (pc : SyncPc) (s : Store) :
    Statement Store CursorKey SyncPc SyncOutcome SyncError :=
  match pc with
  | .page pc => (pc.statement race.pg race.leaId race.poll s).map .page .page fun _ => .page
  | .retry pc => (pc.statement race.run s).map .retry .retry .retry

def step (c : SyncConfig) (m : Move Party) : SyncConfig := c.step race.program m

end Race

/-- Both before their first statement. -/
def start (s : Store) : SyncConfig :=
  Config.start s fun
    | .worker => .page .readCursor
    | .operator => .retry .load

/-- The transaction has committed. -/
def isCommitted : SyncTxn → Bool
  | .committed _ => true
  | _ => false

/-! ### What a page has done so far -/

/-- The writes leave the cursors and the other jobs as they are. -/
structure Spares (id : Uuid) (writes : List (Store → Store)) : Prop where
  cursorState : ∀ s, (view s writes).cursorState = s.cursorState
  syncJobs : ∀ s k, k ≠ id → (view s writes).syncJobs.lookup k = s.syncJobs.lookup k

/-- The writes of `SELECT`s. -/
def Silent (writes : List (Store → Store)) : Prop := ∀ s, view s writes = s

theorem Silent.nil : Silent [] := fun _ => rfl

theorem Silent.select {writes : List (Store → Store)} (h : Silent writes) :
    Silent (writes ++ [id]) := by
  intro s
  rw [view_concat, h s, id]

theorem Silent.spares {id : Uuid} {writes : List (Store → Store)} (h : Silent writes) :
    Spares id writes where
  cursorState s := by rw [h s]
  syncJobs s k _ := by rw [h s]

theorem Spares.concat {id : Uuid} {writes : List (Store → Store)} {write : Store → Store}
    (h : Spares id writes) (hcursor : ∀ s, (write s).cursorState = s.cursorState)
    (hjobs : ∀ s k, k ≠ id → (write s).syncJobs.lookup k = s.syncJobs.lookup k) :
    Spares id (writes ++ [write]) where
  cursorState s := by rw [view_concat, hcursor, h.cursorState]
  syncJobs s k hk := by rw [view_concat, hjobs _ k hk, h.syncJobs s k hk]

/-- The same for a write that leaves both tables alone. -/
theorem Spares.frame {id : Uuid} {writes : List (Store → Store)} {write : Store → Store}
    (h : Spares id writes)
    (hwrite : ∀ s, (write s).cursorState = s.cursorState ∧ (write s).syncJobs = s.syncJobs) :
    Spares id (writes ++ [write]) :=
  h.concat (fun s => (hwrite s).1) fun s k _ => by rw [(hwrite s).2]

theorem lookup_updateSyncJob_of_ne (s : Store) {id k : Uuid} (f : SyncJobRow → SyncJobRow)
    (hk : k ≠ id) : (s.updateSyncJob id f).syncJobs.lookup k = s.syncJobs.lookup k := by
  rw [Store.updateSyncJob, Table.lookup_modify, if_neg hk]

end Rewinds

namespace Poll

variable (leaId : LeaId) (poll : Poll)

/-- What a page that read `cursor` has read in all, in a state. -/
def reads (s : Store) (cursor : Cursor) (page : EventPage) : PageReads where
  cursor := cursor
  page := page
  state := s.leaState leaId connectorName

/-- The page fetched at a cursor is blocked. -/
def blockedAt (s : Store) (cursor : Cursor) : Bool :=
  (fetchChanges poll.log leaId cursor poll.pageSize).any fun page =>
    (runPipeline page (s.leaState leaId connectorName)).pageBlocked

/-- The id of the last event fetched at a cursor, or the cursor. -/
def lastFetched (cursor : Cursor) : String :=
  tokenOr (getEvents poll.log cursor.value poll.pageSize).nextToken cursor.value

variable {leaId poll} {s : Store} {cursor : Cursor} {page : EventPage}

theorem blockedAt_eq (h : fetchChanges poll.log leaId cursor poll.pageSize = some page) :
    poll.blockedAt leaId s cursor = (reads leaId s cursor page).report.pageBlocked := by
  rw [blockedAt, h]
  rfl

theorem lastFetched_eq (h : fetchChanges poll.log leaId cursor poll.pageSize = some page) :
    poll.lastFetched cursor = page.nextCursor.value := by
  simp only [fetchChanges, Option.bind_eq_bind, Option.bind_eq_some_iff, Option.some.injEq] at h
  obtain ⟨normalized, -, rfl⟩ := h
  rfl

end Poll

namespace Rewinds

/-- Where a page that read `cursor` can stand, and what it has written. -/
inductive PageAt (race : Race) (s : Store) (cursor : Cursor) :
    PagePc → List (Store → Store) → Prop
  | readCursor {writes} (silent : Silent writes) : PageAt race s cursor .readCursor writes
  | readKnownStudentIds {writes} (silent : Silent writes) :
      PageAt race s cursor (.readKnownStudentIds cursor) writes
  | readLiveStudentCount {page writes} (silent : Silent writes)
      (fetched : fetchChanges race.poll.log race.leaId cursor race.poll.pageSize = some page) :
      PageAt race s cursor
        (.readLiveStudentCount cursor page (s.readKnownStudentIds race.leaId)) writes
  | readRecentJobs {page writes} (silent : Silent writes)
      (fetched : fetchChanges race.poll.log race.leaId cursor race.poll.pageSize = some page) :
      PageAt race s cursor
        (.readRecentJobs cursor page (s.readKnownStudentIds race.leaId)
          (s.readLiveStudentCount race.leaId)) writes
  | readDeletions {page writes} (silent : Silent writes)
      (fetched : fetchChanges race.poll.log race.leaId cursor race.poll.pageSize = some page) :
      PageAt race s cursor
        (.readDeletions cursor page (s.readKnownStudentIds race.leaId)
          (s.readLiveStudentCount race.leaId) (s.recentJobs race.leaId connectorName)) writes
  | insertSyncJob {page writes} (silent : Silent writes)
      (fetched : fetchChanges race.poll.log race.leaId cursor race.poll.pageSize = some page) :
      PageAt race s cursor (.insertSyncJob (Poll.reads race.leaId s cursor page)) writes
  | persistIssues {page writes} (spares : Spares race.poll.syncJobId writes)
      (fetched : fetchChanges race.poll.log race.leaId cursor race.poll.pageSize = some page)
      (unused : s.syncJobs.lookup race.poll.syncJobId = none) :
      PageAt race s cursor (.persistIssues (Poll.reads race.leaId s cursor page)) writes
  | markFailed {page writes} (spares : Spares race.poll.syncJobId writes)
      (unused : s.syncJobs.lookup race.poll.syncJobId = none)
      (blocked : race.poll.blockedAt race.leaId s cursor = true) :
      PageAt race s cursor (.markFailed (Poll.reads race.leaId s cursor page)) writes
  | apply {page pc writes} (spares : Spares race.poll.syncJobId writes)
      (fetched : fetchChanges race.poll.log race.leaId cursor race.poll.pageSize = some page)
      (unused : s.syncJobs.lookup race.poll.syncJobId = none)
      (passed : race.poll.blockedAt race.leaId s cursor = false) :
      PageAt race s cursor (.apply (Poll.reads race.leaId s cursor page) pc) writes
  | failed {outcome writes} (spares : Spares race.poll.syncJobId writes)
      (unused : s.syncJobs.lookup race.poll.syncJobId = none)
      (blocked : race.poll.blockedAt race.leaId s cursor = true)
      (read : outcome.cursorBefore = cursor.value) :
      PageAt race s cursor (.commit outcome) writes
  | advanced {page outcome writes} (spares : Spares race.poll.syncJobId writes)
      (fetched : fetchChanges race.poll.log race.leaId cursor race.poll.pageSize = some page)
      (unused : s.syncJobs.lookup race.poll.syncJobId = none)
      (passed : race.poll.blockedAt race.leaId s cursor = false)
      (read : outcome.cursorBefore = cursor.value) :
      PageAt race s cursor (.commit outcome)
        (writes ++ [race.poll.advanceCursor race.leaId (Poll.reads race.leaId s cursor page)])

variable {race : Race}

/-- A statement of the event loop leaves cursors and jobs alone, except the last two. -/
theorem apply_exec {reads : PageReads} {pc : ApplyPc} {s : Store} {locks : List CursorKey}
    {write : Store → Store} {next : PagePc}
    (h : race.poll.applyStatement race.leaId reads race.pg s pc = .exec locks write next) :
    (∃ pc', next = .apply reads pc' ∧ ∀ writes, Spares race.poll.syncJobId writes →
      Spares race.poll.syncJobId (writes ++ [write])) ∨
    (∃ counts, next = .commit (race.poll.successOutcome race.leaId reads counts) ∧
      write = race.poll.advanceCursor race.leaId reads) := by
  cases pc with
  | ensureLea =>
    obtain ⟨-, rfl, rfl⟩ := Statement.exec.inj h
    exact Or.inl ⟨_, rfl, fun _ hw => hw.frame fun _ => ⟨rfl, rfl⟩⟩
  | turn events counts =>
    cases events with
    | nil =>
      obtain ⟨-, rfl, rfl⟩ := Statement.exec.inj h
      refine Or.inl ⟨_, rfl, fun _ hw => hw.concat (fun _ => rfl) fun s k hk => ?_⟩
      exact lookup_updateSyncJob_of_ne s _ hk
    | cons event events =>
      simp only [Poll.applyStatement] at h
      split at h
      · obtain ⟨-, rfl, rfl⟩ := Statement.exec.inj h
        exact Or.inl ⟨_, rfl, fun _ hw => hw.frame fun _ => ⟨rfl, rfl⟩⟩
      split at h
      · obtain ⟨-, rfl, rfl⟩ := Statement.exec.inj h
        exact Or.inl ⟨_, rfl, fun _ hw => hw.frame fun _ => ⟨rfl, rfl⟩⟩
      split at h
      · obtain ⟨-, rfl, rfl⟩ := Statement.exec.inj h
        exact Or.inl ⟨_, rfl, fun _ hw => hw.frame fun _ => ⟨rfl, rfl⟩⟩
      · obtain ⟨-, rfl, rfl⟩ := Statement.exec.inj h
        exact Or.inl ⟨_, rfl, fun _ hw => hw.frame fun _ => ⟨rfl, rfl⟩⟩
  | supersede event events counts =>
    obtain ⟨-, rfl, rfl⟩ := Statement.exec.inj h
    exact Or.inl ⟨_, rfl, fun _ hw => hw.frame fun _ => ⟨rfl, rfl⟩⟩
  | insertSnapshot event events counts =>
    obtain ⟨-, rfl, rfl⟩ := Statement.exec.inj h
    exact Or.inl ⟨_, rfl, fun _ hw => hw.frame fun _ => ⟨rfl, rfl⟩⟩
  | upsertCanonical event events counts =>
    simp only [Poll.applyStatement] at h
    split at h
    · cases h
    split at h
    · obtain ⟨-, rfl, rfl⟩ := Statement.exec.inj h
      exact Or.inl ⟨_, rfl, fun _ hw => hw.frame fun _ => ⟨rfl, rfl⟩⟩
    · cases h
  | upsertCursor counts =>
    obtain ⟨-, rfl, rfl⟩ := Statement.exec.inj h
    exact Or.inr ⟨counts, rfl, rfl⟩

/-- **A statement of a page**, made in a committed state with the roster and the jobs of
`s`, where the cursor is still the one the page reads. -/
theorem PageAt.step {s s' : Store} {cursor : Cursor} {pc next : PagePc}
    {writes : List (Store → Store)} {locks : List CursorKey} {write : Store → Store}
    (h : PageAt race s cursor pc writes) (hroster : s'.roster = s.roster)
    (hjobs : s'.syncJobs = s.syncJobs)
    (hcursor : pc = .readCursor → s'.readCursor race.leaId connectorName = cursor)
    (hs : pc.statement race.pg race.leaId race.poll (view s' writes) = .exec locks write next) :
    PageAt race s cursor next (writes ++ [write]) ∧ next ≠ .readCursor := by
  have hlive : s'.readLiveStudentCount race.leaId = s.readLiveStudentCount race.leaId := by
    rw [Store.readLiveStudentCount, hroster]; rfl
  have hknown : s'.readKnownStudentIds race.leaId = s.readKnownStudentIds race.leaId := by
    rw [Store.readKnownStudentIds, hroster]; rfl
  have hrecent (partner : String) :
      s'.recentJobs race.leaId partner = s.recentJobs race.leaId partner := by
    rw [Store.recentJobs, hjobs]; rfl
  have hdeleted : s'.deletionCount = s.deletionCount := by
    funext job
    rw [Store.deletionCount, hroster]; rfl
  cases h with
  | readCursor silent =>
    obtain ⟨-, rfl, rfl⟩ := Statement.exec.inj hs
    rw [silent s', hcursor rfl]
    exact ⟨.readKnownStudentIds silent.select, by simp⟩
  | readKnownStudentIds silent =>
    -- the page is fetched, unless one of its events cannot be normalized
    simp only [PagePc.statement] at hs
    split at hs
    · cases hs
    · next page fetched =>
      obtain ⟨-, rfl, rfl⟩ := Statement.exec.inj hs
      rw [silent s', hknown]
      exact ⟨.readLiveStudentCount silent.select fetched, by simp⟩
  | readLiveStudentCount silent fetched =>
    obtain ⟨-, rfl, rfl⟩ := Statement.exec.inj hs
    rw [silent s', hlive]
    exact ⟨.readRecentJobs silent.select fetched, by simp⟩
  | readRecentJobs silent fetched =>
    obtain ⟨-, rfl, rfl⟩ := Statement.exec.inj hs
    rw [silent s', hrecent]
    exact ⟨.readDeletions silent.select fetched, by simp⟩
  | readDeletions silent fetched =>
    obtain ⟨-, rfl, rfl⟩ := Statement.exec.inj hs
    rw [silent s', hdeleted]
    exact ⟨.insertSyncJob silent.select fetched, by simp⟩
  | insertSyncJob silent fetched =>
    simp only [PagePc.statement] at hs
    split at hs
    · next unused =>
      obtain ⟨-, rfl, rfl⟩ := Statement.exec.inj hs
      rw [silent s', hjobs] at unused
      refine ⟨.persistIssues ?_ fetched unused, by simp⟩
      refine silent.spares.concat (fun _ => rfl) fun s k hk => ?_
      exact (Table.lookup_insert_eq _ _ _ _).trans (if_neg hk)
    · cases hs
  | @persistIssues page writes spares fetched unused =>
    obtain ⟨-, rfl, rfl⟩ := Statement.exec.inj hs
    -- the report decides whether the page fails or is applied
    have hreport := @Poll.blockedAt_eq race.leaId race.poll s cursor page fetched
    cases hblocked : race.poll.blockedAt race.leaId s cursor with
    | true =>
      rw [if_pos (hreport ▸ hblocked)]
      exact ⟨.markFailed (spares.frame fun _ => ⟨rfl, rfl⟩) unused hblocked, by simp⟩
    | false =>
      rw [if_neg (by rw [← hreport, hblocked]; exact Bool.false_ne_true)]
      exact ⟨.apply (spares.frame fun _ => ⟨rfl, rfl⟩) fetched unused hblocked, by simp⟩
  | markFailed spares unused blocked =>
    obtain ⟨-, rfl, rfl⟩ := Statement.exec.inj hs
    refine ⟨.failed (spares.concat (fun _ => rfl) fun s k hk => ?_) unused blocked rfl, by simp⟩
    exact lookup_updateSyncJob_of_ne s _ hk
  | apply spares fetched unused passed =>
    rcases apply_exec hs with ⟨pc', rfl, hspares⟩ | ⟨counts, rfl, rfl⟩
    · exact ⟨.apply (hspares _ spares) fetched unused passed, by simp⟩
    · exact ⟨.advanced spares fetched unused passed rfl, by simp⟩
  | failed => cases hs
  | advanced => cases hs

/-! ### What a retry has done so far -/

/-- Where a retry can stand, and what it has written. -/
inductive RetryAt (race : Race) (s : Store) : RetryPc → List (Store → Store) → Prop
  | load {writes} (silent : Silent writes) : RetryAt race s .load writes
  | rewind {target writes} (silent : Silent writes)
      (found : s.syncJobs.lookup race.run.syncJobId = some target) :
      RetryAt race s (.rewind target) writes
  | insertAction {target writes} (found : s.syncJobs.lookup race.run.syncJobId = some target)
      (rewound : ∀ s, view s writes = race.run.rewind target s) :
      RetryAt race s (.insertAction target) writes
  | commit {target writes} (found : s.syncJobs.lookup race.run.syncJobId = some target)
      (rewound : ∀ s, view s writes = race.run.audit target (race.run.rewind target s)) :
      RetryAt race s (.commit target) writes

/-- **A statement of a retry.** -/
theorem RetryAt.step {s : Store} {pc next : RetryPc} {writes : List (Store → Store)}
    {locks : List CursorKey} {write : Store → Store} (h : RetryAt race s pc writes)
    (hs : pc.statement race.run (view s writes) = .exec locks write next) :
    RetryAt race s next (writes ++ [write]) := by
  cases h with
  | load silent =>
    simp only [RetryPc.statement, silent s] at hs
    split at hs
    · cases hs
    · next target found =>
      obtain ⟨-, rfl, rfl⟩ := Statement.exec.inj hs
      exact .rewind silent.select found
  | rewind silent found =>
    simp only [RetryPc.statement] at hs
    split at hs
    · cases hs
    split at hs
    · cases hs
    · obtain ⟨-, rfl, rfl⟩ := Statement.exec.inj hs
      refine .insertAction found fun s => ?_
      rw [view_concat, silent s]
  | insertAction found rewound =>
    obtain ⟨-, rfl, rfl⟩ := Statement.exec.inj hs
    refine .commit found fun s => ?_
    rw [view_concat, rewound s]
  | commit => cases hs

/-- A retry that found its job finds it in any state that has it. -/
theorem RetryAt.mono {s s' : Store} {pc : RetryPc} {writes : List (Store → Store)}
    (h : RetryAt race s pc writes)
    (hjob : ∀ target, s.syncJobs.lookup race.run.syncJobId = some target →
      s'.syncJobs.lookup race.run.syncJobId = some target) : RetryAt race s' pc writes := by
  cases h with
  | load silent => exact .load silent
  | rewind silent found => exact .rewind silent (hjob _ found)
  | insertAction found rewound => exact .insertAction (hjob _ found) rewound
  | commit found rewound => exact .commit (hjob _ found) rewound

/-! ### Commits -/

/-- The event loop does not commit. -/
theorem apply_ne_commit {reads : PageReads} {pc : ApplyPc} {s : Store} {outcome : PageOutcome} :
    race.poll.applyStatement race.leaId reads race.pg s pc ≠ .commit outcome := by
  intro h
  cases pc with
  | turn events counts =>
    cases events with
    | nil => cases h
    | cons event events =>
      simp only [Poll.applyStatement] at h
      split at h
      · cases h
      split at h
      · cases h
      split at h
      · cases h
      · cases h
  | upsertCanonical event events counts =>
    simp only [Poll.applyStatement] at h
    split at h
    · cases h
    split at h
    · cases h
    · cases h
  | ensureLea | supersede | insertSnapshot | upsertCursor => cases h

/-- A page commits at its end. -/
theorem commit_of_statement {pc : PagePc} {s : Store} {outcome : PageOutcome}
    (h : pc.statement race.pg race.leaId race.poll s = .commit outcome) : pc = .commit outcome := by
  cases pc with
  | commit outcome => rw [Statement.commit.inj h]
  | apply reads pc => exact absurd h apply_ne_commit
  | readKnownStudentIds cursor =>
    simp only [PagePc.statement] at h
    split at h
    · cases h
    · cases h
  | insertSyncJob reads =>
    simp only [PagePc.statement] at h
    split at h
    · cases h
    · cases h
  | readCursor | readLiveStudentCount | readRecentJobs | readDeletions => cases h
  | persistIssues | markFailed => cases h

/-- What a page that commits makes of the cursor and the other jobs. -/
theorem PageAt.committed {s : Store} {cursor : Cursor} {outcome : PageOutcome}
    {writes : List (Store → Store)} (h : PageAt race s cursor (.commit outcome) writes)
    (s' : Store) :
    outcome.cursorBefore = cursor.value ∧
      ((view s' writes).readCursor race.leaId connectorName).value =
        (if race.poll.blockedAt race.leaId s cursor then
          (s'.readCursor race.leaId connectorName).value
        else race.poll.lastFetched cursor) ∧
      ∀ k, s.syncJobs.lookup k ≠ none →
        (view s' writes).syncJobs.lookup k = s'.syncJobs.lookup k := by
  have hne {k : Uuid} (unused : s.syncJobs.lookup race.poll.syncJobId = none)
      (hk : s.syncJobs.lookup k ≠ none) : k ≠ race.poll.syncJobId := by
    rintro rfl
    exact hk unused
  cases h with
  | failed spares unused blocked read =>
    refine ⟨read, ?_, fun k hk => spares.syncJobs s' k (hne unused hk)⟩
    rw [if_pos blocked, readCursor_congr (spares.cursorState s')]
  | @advanced page _ writes spares fetched unused passed read =>
    refine ⟨read, ?_, fun k hk => ?_⟩
    · rw [view_concat, if_neg (by rw [passed]; exact Bool.false_ne_true),
        Poll.lastFetched_eq fetched]
      exact readCursor_upsertCursorState _ _ _ _ _ _ rfl
    · rw [view_concat]
      exact spares.syncJobs s' k (hne unused hk)

/-- The worker is open, and has read this cursor or will. -/
def WorkerAt (race : Race) (s : Store) (cursor : Cursor) (c : SyncConfig) : Prop :=
  ∀ pc held writes, c.txn .worker = .running pc held writes →
    ∃ pc', pc = .page pc' ∧ PageAt race s cursor pc' writes ∧
      (pc' = .readCursor → c.store.readCursor race.leaId connectorName = cursor)

theorem WorkerAt.congr {s : Store} {cursor : Cursor} {c c' : SyncConfig}
    (h : WorkerAt race s cursor c) (htxn : c'.txn .worker = c.txn .worker)
    (hstore : c'.store = c.store) : WorkerAt race s cursor c' := by
  intro pc held writes hw
  rw [htxn] at hw
  rw [hstore]
  exact h pc held writes hw

theorem WorkerAt.ended {s : Store} {cursor : Cursor} {c : SyncConfig}
    (h : ∀ pc held writes, c.txn .worker ≠ .running pc held writes) : WorkerAt race s cursor c :=
  fun pc held writes hw => absurd hw (h pc held writes)

/-- The worker makes a statement. -/
theorem WorkerAt.exec {s : Store} {cursor : Cursor} {c : SyncConfig} {pc : SyncPc}
    {held : List CursorKey} {writes : List (Store → Store)} {locks : List CursorKey}
    {write : Store → Store} {next : SyncPc} (h : WorkerAt race s cursor c)
    (hroster : c.store.roster = s.roster) (hjobs : c.store.syncJobs = s.syncJobs)
    (running : c.txn .worker = .running pc held writes)
    (statement : race.program .worker pc (view c.store writes) = .exec locks write next) :
    WorkerAt race s cursor
      (c.set .worker (.running next (held ++ locks) (writes ++ [write]))) := by
  obtain ⟨pc', rfl, hpage, hcursor⟩ := h pc held writes running
  obtain ⟨next', hstatement, rfl⟩ := Statement.map_eq_exec.mp statement
  obtain ⟨hnext, hread⟩ := hpage.step hroster hjobs hcursor hstatement
  intro pc₁ held₁ writes₁ hw
  rw [Config.txn_set_self] at hw
  obtain ⟨rfl, rfl, rfl⟩ := Txn.running.inj hw
  exact ⟨next', rfl, hnext, fun h => absurd h hread⟩

/-- A commit of the worker is the commit of its page. -/
theorem WorkerAt.commit {s : Store} {cursor : Cursor} {c : SyncConfig} {pc : SyncPc}
    {held : List CursorKey} {writes : List (Store → Store)} {result : SyncOutcome}
    (h : WorkerAt race s cursor c) (running : c.txn .worker = .running pc held writes)
    (statement : race.program .worker pc (view c.store writes) = .commit result) :
    ∃ outcome, result = .page outcome ∧ PageAt race s cursor (.commit outcome) writes := by
  obtain ⟨pc', rfl, hpage, -⟩ := h pc held writes running
  obtain ⟨outcome, hstatement, rfl⟩ := Statement.map_eq_commit.mp statement
  obtain rfl := commit_of_statement hstatement
  exact ⟨outcome, rfl, hpage⟩

/-! ### Before the retry commits -/

/-- The retry has not committed; the store changes with the commit of the page only. -/
structure Before (race : Race) (s : Store) (c : SyncConfig) : Prop where
  retry : ∀ pc held writes, c.txn .operator = .running pc held writes →
    ∃ pc', pc = .retry pc' ∧ RetryAt race c.store pc' writes
  uncommitted : ∀ result, c.txn .operator ≠ .committed result
  worker : WorkerAt race s (s.readCursor race.leaId connectorName) c
  store : (∀ result, c.txn .worker ≠ .committed result) → c.store = s

/-- The retry has just committed. -/
structure Rewound (race : Race) (target : SyncJobRow) (c c' : SyncConfig) : Prop where
  job : c.store.syncJobs.lookup race.run.syncJobId = some target
  committed : ∃ result, c'.txn .operator = .committed result
  worker : c'.txn .worker = c.txn .worker
  store : c'.store = race.run.audit target (race.run.rewind target c.store)

theorem before_start (race : Race) (s : Store) : Before race s (start s) where
  retry pc held writes h := by
    obtain ⟨rfl, rfl, rfl⟩ := Txn.running.inj h
    exact ⟨.load, rfl, .load Silent.nil⟩
  uncommitted _ h := nomatch h
  worker pc held writes h := by
    obtain ⟨rfl, rfl, rfl⟩ := Txn.running.inj h
    exact ⟨.readCursor, rfl, .readCursor Silent.nil, fun _ => rfl⟩
  store _ := rfl

theorem txn_set_worker (c : SyncConfig) (t : SyncTxn) :
    (c.set .worker t).txn .operator = c.txn .operator :=
  c.txn_set_of_ne (by decide) t

theorem txn_set_operator (c : SyncConfig) (t : SyncTxn) :
    (c.set .operator t).txn .worker = c.txn .worker :=
  c.txn_set_of_ne (by decide) t

theorem open_of_running {c : SyncConfig} {pc : SyncPc} {held : List CursorKey}
    {writes : List (Store → Store)} (running : c.txn .worker = .running pc held writes) :
    ∀ result, c.txn .worker ≠ .committed result := by
  intro result h
  rw [running] at h
  exact nomatch h

/-- The worker fails or is killed. -/
theorem Before.endWorker {s : Store} {c : SyncConfig} (h : Before race s c) {t : SyncTxn}
    (hopen : ∀ result, c.txn .worker ≠ .committed result)
    (ht : ∀ pc held writes, t ≠ .running pc held writes) : Before race s (c.set .worker t) where
  retry := by rw [txn_set_worker]; exact h.retry
  uncommitted := by rw [txn_set_worker]; exact h.uncommitted
  worker := .ended (by rw [Config.txn_set_self]; exact ht)
  store _ := h.store hopen

/-- The retry fails or is killed. -/
theorem Before.endOperator {s : Store} {c : SyncConfig} (h : Before race s c) {t : SyncTxn}
    (ht : ∀ pc held writes, t ≠ .running pc held writes) (ht' : ∀ result, t ≠ .committed result) :
    Before race s (c.set .operator t) where
  retry pc held writes hpc := by
    rw [Config.txn_set_self] at hpc
    exact absurd hpc (ht pc held writes)
  uncommitted := by rw [Config.txn_set_self]; exact ht'
  worker := h.worker.congr (txn_set_operator c t) rfl
  store hopen := h.store (by rwa [txn_set_operator] at hopen)

/-- A retry commits at its end. -/
theorem retryCommit_of_statement {pc : RetryPc} {s : Store} {outcome : RetryOutcome}
    (h : pc.statement race.run s = .commit outcome) : ∃ target, pc = .commit target := by
  cases pc with
  | load =>
    simp only [RetryPc.statement] at h
    split at h
    · cases h
    · cases h
  | rewind target =>
    simp only [RetryPc.statement] at h
    split at h
    · cases h
    split at h
    · cases h
    · cases h
  | insertAction target => cases h
  | commit target => exact ⟨target, rfl⟩

section

variable {s : Store} {c : SyncConfig} {pc next : SyncPc} {held locks : List CursorKey}
  {writes : List (Store → Store)} {write : Store → Store} {result : SyncOutcome}

theorem Before.execWorker (h : Before race s c) (running : c.txn .worker = .running pc held writes)
    (statement : race.program .worker pc (view c.store writes) = .exec locks write next) :
    Before race s (c.set .worker (.running next (held ++ locks) (writes ++ [write]))) := by
  have hopen := open_of_running running
  have hstore := h.store hopen
  refine ⟨?_, ?_, ?_, fun _ => hstore⟩
  · rw [txn_set_worker]; exact h.retry
  · rw [txn_set_worker]; exact h.uncommitted
  · exact h.worker.exec (by rw [hstore]) (by rw [hstore]) running statement

theorem Before.execOperator (h : Before race s c)
    (running : c.txn .operator = .running pc held writes)
    (statement : race.program .operator pc (view c.store writes) = .exec locks write next) :
    Before race s (c.set .operator (.running next (held ++ locks) (writes ++ [write]))) := by
  obtain ⟨pc', rfl, hretry⟩ := h.retry pc held writes running
  obtain ⟨next', hstatement, rfl⟩ := Statement.map_eq_exec.mp statement
  refine ⟨fun pc₁ held₁ writes₁ hpc => ?_, ?_, ?_, fun hopen => ?_⟩
  · rw [Config.txn_set_self] at hpc
    obtain ⟨rfl, rfl, rfl⟩ := Txn.running.inj hpc
    exact ⟨next', rfl, hretry.step hstatement⟩
  · rw [Config.txn_set_self]; exact fun _ => nofun
  · exact h.worker.congr (txn_set_operator c _) rfl
  · exact h.store (by rwa [txn_set_operator] at hopen)

theorem Before.commitWorker {c' : SyncConfig} (h : Before race s c)
    (running : c.txn .worker = .running pc held writes)
    (statement : race.program .worker pc (view c.store writes) = .commit result)
    (hself : c'.txn .worker = .committed result) (hother : c'.txn .operator = c.txn .operator)
    (hview : c'.store = view c.store writes) : Before race s c' := by
  have hstore := h.store (open_of_running running)
  obtain ⟨outcome, rfl, hpage⟩ := h.worker.commit running statement
  obtain ⟨-, -, hjobs⟩ := hpage.committed c.store
  refine ⟨fun pc₁ held₁ writes₁ hpc => ?_, ?_, .ended ?_, fun hopen => ?_⟩
  · rw [hother] at hpc
    obtain ⟨pc', rfl, hretry⟩ := h.retry pc₁ held₁ writes₁ hpc
    refine ⟨pc', rfl, hretry.mono fun target hfound => ?_⟩
    -- the job of the page is new, so it is not the job retried
    have hknown : s.syncJobs.lookup race.run.syncJobId ≠ none := by
      rw [← hstore, hfound]; exact nofun
    rw [hview, hjobs _ hknown, hfound]
  · rw [hother]; exact h.uncommitted
  · rw [hself]; exact fun _ _ _ => nofun
  · exact absurd hself (hopen _)

theorem Before.commitOperator (h : Before race s c)
    (running : c.txn .operator = .running pc held writes)
    (statement : race.program .operator pc (view c.store writes) = .commit result) :
    ∃ target, Rewound race target c
      { c.set .operator (.committed result) with store := view c.store writes } := by
  obtain ⟨pc', rfl, hretry⟩ := h.retry pc held writes running
  obtain ⟨retried, hstatement, rfl⟩ := Statement.map_eq_commit.mp statement
  obtain ⟨target, rfl⟩ := retryCommit_of_statement hstatement
  cases hretry with
  | commit found rewound =>
    refine ⟨target, found, ⟨.retry retried, c.txn_set_self .operator _⟩, ?_, rewound c.store⟩
    exact txn_set_operator c (.committed (.retry retried))

/-- **A move before the retry commits.** -/
theorem Before.step (h : Before race s c) (m : Move Party) :
    Before race s (race.step c m) ∨ ∃ target, Rewound race target c (race.step c m) := by
  have hdoes := Config.does_step race.program c m
  rw [Race.step]
  generalize c.step race.program m = c' at hdoes
  cases hdoes with
  | stay => exact Or.inl h
  | @exec i _ _ _ _ _ _ running statement _ =>
    cases i with
    | worker => exact Or.inl (h.execWorker running statement)
    | operator => exact Or.inl (h.execOperator running statement)
  | @commit i _ _ _ result running statement =>
    cases i with
    | worker =>
      have hself := c.txn_set_self .worker (.committed result)
      have hother := txn_set_worker c (.committed result)
      exact Or.inl (h.commitWorker running statement hself hother rfl)
    | operator => exact Or.inr (h.commitOperator running statement)
  | @fail i _ _ _ _ running _ =>
    cases i with
    | worker =>
      have hopen := open_of_running running
      exact Or.inl (h.endWorker hopen fun _ _ _ => nofun)
    | operator => exact Or.inl (h.endOperator (fun _ _ _ => nofun) fun _ => nofun)
  | @kill i _ _ _ running =>
    cases i with
    | worker =>
      have hopen := open_of_running running
      exact Or.inl (h.endWorker hopen fun _ _ _ => nofun)
    | operator => exact Or.inl (h.endOperator (fun _ _ _ => nofun) fun _ => nofun)

end

/-! ### After the retry has committed -/

/-- The retry has committed, and the page had not.  `rewound` is the cursor it left. -/
structure After (race : Race) (s : Store) (cursor : Cursor) (rewound : String)
    (target : SyncJobRow) (c : SyncConfig) : Prop where
  job : c.store.syncJobs.lookup race.run.syncJobId = some target
  known : s.syncJobs.lookup race.run.syncJobId ≠ none
  committed : ∃ result, c.txn .operator = .committed result
  worker : WorkerAt race s cursor c
  store : (∀ result, c.txn .worker ≠ .committed result) →
    c.store.roster = s.roster ∧ c.store.syncJobs = s.syncJobs ∧
      (c.store.readCursor race.leaId connectorName).value = rewound
  settled : ∀ outcome, c.txn .worker = .committed (.page outcome) →
    outcome.cursorBefore = cursor.value ∧
      (c.store.readCursor race.leaId connectorName).value =
        if race.poll.blockedAt race.leaId s cursor then rewound else race.poll.lastFetched cursor

section

variable {s : Store} {cursor : Cursor} {rewound : String} {target : SyncJobRow} {c : SyncConfig}

/-- The worker fails or is killed. -/
theorem After.endWorker (h : After race s cursor rewound target c) {t : SyncTxn}
    (hopen : ∀ result, c.txn .worker ≠ .committed result)
    (ht : ∀ pc held writes, t ≠ .running pc held writes) (ht' : ∀ result, t ≠ .committed result) :
    After race s cursor rewound target (c.set .worker t) where
  job := h.job
  known := h.known
  committed := by rw [txn_set_worker]; exact h.committed
  worker := .ended (by rw [Config.txn_set_self]; exact ht)
  store _ := h.store hopen
  settled outcome ho := by
    rw [Config.txn_set_self] at ho
    exact absurd ho (ht' _)

theorem After.commitWorker {c' : SyncConfig} {pc : SyncPc} {held : List CursorKey}
    {writes : List (Store → Store)} {result : SyncOutcome}
    (h : After race s cursor rewound target c) (running : c.txn .worker = .running pc held writes)
    (statement : race.program .worker pc (view c.store writes) = .commit result)
    (hself : c'.txn .worker = .committed result) (hother : c'.txn .operator = c.txn .operator)
    (hview : c'.store = view c.store writes) : After race s cursor rewound target c' := by
  obtain ⟨-, -, hvalue⟩ := h.store (open_of_running running)
  obtain ⟨outcome, rfl, hpage⟩ := h.worker.commit running statement
  obtain ⟨hread, hcursor, hjobs⟩ := hpage.committed c.store
  refine ⟨?_, h.known, ?_, .ended ?_, fun hopen => ?_, fun o ho => ?_⟩
  · rw [hview, hjobs _ h.known, h.job]
  · rw [hother]; exact h.committed
  · rw [hself]; exact fun _ _ _ => nofun
  · exact absurd hself (hopen _)
  · rw [hself] at ho
    obtain rfl := SyncOutcome.page.inj (Txn.committed.inj ho)
    rw [hvalue] at hcursor
    rw [hview]
    exact ⟨hread, hcursor⟩

/-- **A move after the retry has committed.** -/
theorem After.step (h : After race s cursor rewound target c) (m : Move Party) :
    After race s cursor rewound target (race.step c m) := by
  obtain ⟨retried, hretried⟩ := h.committed
  have hdoes := Config.does_step race.program c m
  rw [Race.step]
  generalize c.step race.program m = c' at hdoes
  cases hdoes with
  | stay => exact h
  | @exec i pc held writes locks write next running statement _ =>
    cases i with
    | worker =>
      have hopen := open_of_running running
      obtain ⟨hroster, hjobs, -⟩ := h.store hopen
      refine ⟨h.job, h.known, ?_, h.worker.exec hroster hjobs running statement,
        fun _ => h.store hopen, fun outcome ho => ?_⟩
      · rw [txn_set_worker]; exact h.committed
      · rw [Config.txn_set_self] at ho
        exact nomatch ho
    | operator =>
      rw [hretried] at running
      exact nomatch running
  | @commit i _ _ _ result running statement =>
    cases i with
    | worker =>
      have hself := c.txn_set_self .worker (.committed result)
      have hother := txn_set_worker c (.committed result)
      exact h.commitWorker running statement hself hother rfl
    | operator =>
      rw [hretried] at running
      exact nomatch running
  | @fail i _ _ _ _ running _ =>
    cases i with
    | worker =>
      have hopen := open_of_running running
      exact h.endWorker hopen (fun _ _ _ => nofun) fun _ => nofun
    | operator =>
      rw [hretried] at running
      exact nomatch running
  | @kill i _ _ _ running =>
    cases i with
    | worker =>
      have hopen := open_of_running running
      exact h.endWorker hopen (fun _ _ _ => nofun) fun _ => nofun
    | operator =>
      rw [hretried] at running
      exact nomatch running

end

theorem After.run {s : Store} {cursor : Cursor} {rewound : String} {target : SyncJobRow}
    {c : SyncConfig} (h : After race s cursor rewound target c) (moves : List (Move Party)) :
    After race s cursor rewound target (Runs.run race.step c moves) :=
  Runs.run_invariant (I := After race s cursor rewound target) (fun _ m h => h.step m) h moves

/-! ### The cursor once both have committed -/

/-- Nothing moves any more. -/
theorem step_of_committed {c : SyncConfig} {p r : SyncOutcome}
    (hp : c.txn .worker = .committed p) (hr : c.txn .operator = .committed r) (m : Move Party) :
    race.step c m = c := by
  cases m with
  | step i => cases i <;> simp [Race.step, Config.step, hp, hr]
  | kill i => cases i <;> simp [Race.step, Config.step, hp, hr]

theorem run_of_committed {c : SyncConfig} {p r : SyncOutcome} (hp : c.txn .worker = .committed p)
    (hr : c.txn .operator = .committed r) (moves : List (Move Party)) :
    Runs.run race.step c moves = c := by
  induction moves with
  | nil => rfl
  | cons m moves ih => rw [Runs.run_cons, step_of_committed hp hr m, ih]

/-- The page at the moment the retry commits. -/
def pageWhenRewound (race : Race) : SyncConfig → List (Move Party) → SyncTxn
  | c, [] => c.txn .worker
  | c, m :: moves =>
    if isCommitted ((race.step c m).txn .operator) then c.txn .worker
    else pageWhenRewound race (race.step c m) moves

inductive PagePhase where
  | unread
  | begun
  | ended
deriving DecidableEq

/-- How far a page is. -/
def phase : SyncTxn → PagePhase
  | .committed _ => .ended
  | .running (.page .readCursor) _ _ => .unread
  | _ => .begun

/-- The cursor a page reads that is here when the retry leaves `rewound`. -/
def cursorRead (race : Race) (s : Store) (rewound : String) : PagePhase → Cursor
  | .unread => { value := rewound }
  | _ => s.readCursor race.leaId connectorName

/-- The cursor once both have committed. -/
def leftAt (race : Race) (s : Store) (rewound : String) (ph : PagePhase) : String :=
  if ph = .ended || race.poll.blockedAt race.leaId s (cursorRead race s rewound ph) then rewound
  else race.poll.lastFetched (cursorRead race s rewound ph)

theorem readCursor_rewind {run : RetryRun} {target : SyncJobRow} (s : Store) :
    (run.audit target (run.rewind target s)).readCursor target.leaId target.partner
      = { value := target.cursorBefore.getD "" } := by
  rw [Store.readCursor, show (run.audit target (run.rewind target s)).cursorState
    = (rewindCursor s target.leaId target.partner target.cursorBefore run.now).cursorState from rfl,
    rewindCursor, Table.lookup_insert_eq, if_pos rfl]

theorem phase_of_running {t : SyncTxn} {pc : PagePc} {held : List CursorKey}
    {writes : List (Store → Store)} (h : t = .running (.page pc) held writes) :
    phase t = .unread ↔ pc = .readCursor := by
  subst h
  cases pc <;> simp [phase]

/-- The retry commits while the page is open. -/
theorem Before.after {s : Store} {c c' : SyncConfig} {target : SyncJobRow} (h : Before race s c)
    (hr : Rewound race target c c') (hopen : ∀ result, c.txn .worker ≠ .committed result) :
    After race s
      (if phase (c.txn .worker) = .unread then c'.store.readCursor race.leaId connectorName
        else s.readCursor race.leaId connectorName)
      (c'.store.readCursor race.leaId connectorName).value target c' := by
  have hstore := h.store hopen
  have hjobs : c'.store.syncJobs = c.store.syncJobs := by rw [hr.store]; rfl
  have hroster : c'.store.roster = c.store.roster := by rw [hr.store]; rfl
  refine ⟨by rw [hjobs, hr.job], ?_, hr.committed, ?_, fun _ => ?_, fun outcome ho => ?_⟩
  · rw [← hstore, hr.job]; exact nofun
  · intro pc held writes hw
    rw [hr.worker] at hw
    obtain ⟨pc', rfl, hpage, -⟩ := h.worker pc held writes hw
    have hphase := phase_of_running hw
    by_cases hpc : pc' = .readCursor
    · -- the page will read what the retry has left
      subst hpc
      rw [if_pos (hphase.mpr rfl)]
      cases hpage with
      | readCursor silent => exact ⟨.readCursor, rfl, .readCursor silent, fun _ => rfl⟩
    · rw [if_neg (mt hphase.mp hpc)]
      exact ⟨pc', rfl, hpage, fun h => absurd h hpc⟩
  · rw [hroster, hjobs, hstore]
    exact ⟨rfl, rfl, rfl⟩
  · rw [hr.worker] at ho
    exact absurd ho (hopen _)

/-- **The cursor that is left.** -/
theorem left_of_before {s : Store} {c : SyncConfig} (moves : List (Move Party))
    {outcome : PageOutcome} {result : SyncOutcome} {job : SyncJobRow} (h : Before race s c)
    (hpage : (Runs.run race.step c moves).txn .worker = .committed (.page outcome))
    (hretry : (Runs.run race.step c moves).txn .operator = .committed result)
    (hjob : (Runs.run race.step c moves).store.syncJobs.lookup race.run.syncJobId = some job)
    (hlea : job.leaId = race.leaId) (hpartner : job.partner = connectorName) :
    ((Runs.run race.step c moves).store.readCursor race.leaId connectorName).value
        = leftAt race s (job.cursorBefore.getD "") (phase (pageWhenRewound race c moves)) ∧
      (phase (pageWhenRewound race c moves) = .unread →
        outcome.cursorBefore = job.cursorBefore.getD "") := by
  induction moves generalizing c with
  | nil => exact absurd hretry (h.uncommitted _)
  | cons m moves ih =>
    rw [Runs.run_cons] at hpage hretry hjob ⊢
    rw [pageWhenRewound]
    rcases h.step m with hbefore | ⟨target, hr⟩
    · -- the retry is still at work
      have hnot : isCommitted ((race.step c m).txn .operator) = false := by
        cases ht : (race.step c m).txn .operator with
        | committed r => exact absurd ht (hbefore.uncommitted r)
        | running | failed | killed => rfl
      rw [hnot]
      exact ih hbefore hpage hretry hjob
    · obtain ⟨r, hcommitted⟩ := hr.committed
      rw [show isCommitted ((race.step c m).txn .operator) = true by rw [hcommitted]; rfl,
        if_pos rfl]
      have hjobs : (race.step c m).store.syncJobs = c.store.syncJobs := by rw [hr.store]; rfl
      by_cases hended : ∃ p, c.txn .worker = .committed p
      · -- the page has committed, and nothing happens after the retry
        obtain ⟨p, hp⟩ := hended
        have hworker : (race.step c m).txn .worker = .committed p := hr.worker.trans hp
        rw [run_of_committed hworker hcommitted moves] at hjob ⊢
        have htarget : target = job := by
          rw [hjobs, hr.job] at hjob
          exact Option.some.inj hjob
        subst htarget
        rw [hp, hr.store, ← hlea, ← hpartner, readCursor_rewind]
        exact ⟨rfl, nofun⟩
      · -- the page commits over the rewound cursor, or reads it first
        have hopen : ∀ p, c.txn .worker ≠ .committed p := fun p hp => hended ⟨p, hp⟩
        have hafter := (h.after hr hopen).run moves
        have htarget : target = job := by
          rw [hafter.job] at hjob
          exact Option.some.inj hjob
        subst htarget
        obtain ⟨hread, hvalue⟩ := hafter.settled outcome hpage
        have hrewound : (race.step c m).store.readCursor race.leaId connectorName
            = { value := target.cursorBefore.getD "" } := by
          rw [hr.store, ← hlea, ← hpartner, readCursor_rewind]
        have hended : phase (c.txn .worker) ≠ .ended := by
          cases ht : c.txn .worker with
          | committed p => exact absurd ht (hopen p)
          | running pc held writes =>
            obtain ⟨pc', rfl, -⟩ := h.worker pc held writes ht
            cases pc' <;> exact nofun
          | failed | killed => exact nofun
        have hcursor : (if phase (c.txn .worker) = .unread then
            (race.step c m).store.readCursor race.leaId connectorName
          else s.readCursor race.leaId connectorName)
            = cursorRead race s (target.cursorBefore.getD "") (phase (c.txn .worker)) := by
          rw [hrewound]
          cases phase (c.txn .worker) <;> rfl
        rw [hcursor] at hread hvalue
        rw [hrewound] at hvalue
        refine ⟨?_, fun hunread => ?_⟩
        · rw [hvalue, leftAt]
          simp only [hended, decide_false, Bool.false_or]
        · rw [hread, hunread]
          rfl

/-! ### The rewind -/

/-- One cursor is at or before another in a log: what comes after the second comes after
the first. -/
def AtOrBefore (log : List EdLinkEvent) (a b : String) : Prop := sliceStart log a ≤ sliceStart log b

instance (log : List EdLinkEvent) (a b : String) : Decidable (AtOrBefore log a b) :=
  inferInstanceAs (Decidable (_ ≤ _))

/-- What a page after `b` would bring is still to come after `a`. -/
theorem AtOrBefore.delivers {log : List EdLinkEvent} {a b : String} (h : AtOrBefore log a b)
    (limit : Nat) : (getEvents log b limit).events ⊆ log.drop (sliceStart log a) := by
  intro event he
  have hdrop : event ∈ log.drop (sliceStart log b) := List.mem_of_mem_take he
  rw [← Nat.add_sub_cancel' h, ← List.drop_drop] at hdrop
  exact List.mem_of_mem_drop hdrop

/-- A page that reads `cursor` does not move it past `rewound`: it is blocked, or the last
event it fetches is no further. -/
def Race.Keeps (race : Race) (log : List EdLinkEvent) (s : Store) (cursor : Cursor)
    (rewound : String) : Prop :=
  race.poll.blockedAt race.leaId s cursor = true ∨
    AtOrBefore log (race.poll.lastFetched cursor) rewound

instance (race : Race) (log : List EdLinkEvent) (s : Store) (cursor : Cursor) (rewound : String) :
    Decidable (race.Keeps log s cursor rewound) :=
  inferInstanceAs (Decidable (_ ∨ _))

theorem leftAt_atOrBefore (log : List EdLinkEvent) (s : Store) (rewound : String)
    (ph : PagePhase) : AtOrBefore log (leftAt race s rewound ph) rewound ↔
      ph = .ended ∨ race.Keeps log s (cursorRead race s rewound ph) rewound := by
  have hself : AtOrBefore log rewound rewound := Nat.le_refl _
  by_cases hended : ph = .ended
  · have hleft : leftAt race s rewound ph = rewound := by simp [leftAt, hended]
    rw [hleft]
    exact iff_of_true hself (Or.inl hended)
  by_cases hblocked : race.poll.blockedAt race.leaId s (cursorRead race s rewound ph) = true
  · have hleft : leftAt race s rewound ph = rewound := by simp [leftAt, hblocked]
    rw [hleft]
    exact iff_of_true hself (Or.inr (Or.inl hblocked))
  · have hleft : leftAt race s rewound ph
        = race.poll.lastFetched (cursorRead race s rewound ph) := by
      simp [leftAt, hended, hblocked]
    rw [hleft, Race.Keeps]
    simp only [hended, hblocked, false_or, Bool.false_eq_true]

/-- **A retry against an open page.**  Once both have committed, the cursor is at or before
the one of the job exactly when the page had committed before the retry, or what it read
does not take it further.  And the events of the job are delivered again, by the next poll
or by the page itself, exactly when the page was not open with another cursor in hand, or
that does not take it further either. -/
theorem rewind_stays_iff (race : Race) (s : Store) (moves : List (Move Party))
    (log : List EdLinkEvent) {outcome : PageOutcome} {result : SyncOutcome} {job : SyncJobRow}
    (hpage : (Runs.run race.step (start s) moves).txn .worker = .committed (.page outcome))
    (hretry : (Runs.run race.step (start s) moves).txn .operator = .committed result)
    (hjob : (Runs.run race.step (start s) moves).store.syncJobs.lookup race.run.syncJobId
      = some job) (hlea : job.leaId = race.leaId) (hpartner : job.partner = connectorName) :
    let rewound := job.cursorBefore.getD ""
    let next := ((Runs.run race.step (start s) moves).store.readCursor race.leaId
      connectorName).value
    let stage := phase (pageWhenRewound race (start s) moves)
    (AtOrBefore log next rewound ↔
      stage = .ended ∨ race.Keeps log s (cursorRead race s rewound stage) rewound) ∧
    (AtOrBefore log next rewound ∨ stage = .unread ∧ AtOrBefore log outcome.cursorBefore rewound ↔
      (stage = .begun → race.Keeps log s (s.readCursor race.leaId connectorName) rewound)) := by
  intro rewound next stage
  obtain ⟨hnext, hread⟩ :=
    left_of_before moves (before_start race s) hpage hretry hjob hlea hpartner
  have hfirst : AtOrBefore log next rewound ↔
      stage = .ended ∨ race.Keeps log s (cursorRead race s rewound stage) rewound := by
    have hleft : AtOrBefore log (leftAt race s rewound stage) rewound ↔ _ :=
      leftAt_atOrBefore log s rewound stage
    rwa [← hnext] at hleft
  refine ⟨hfirst, ?_⟩
  rw [hfirst]
  cases hat : stage with
  | ended => simp
  | begun => simp [cursorRead]
  | unread =>
    -- the page starts at the cursor the retry has left
    have hself : AtOrBefore log outcome.cursorBefore rewound := by
      rw [hread hat]
      exact Nat.le_refl _
    simp [hself]

/-! ### A lost rewind -/

def studentCreated (id student : String) : EdLinkEvent where
  id := id
  date := 0
  type := "person.created"
  data := [("sourcedId", .str student), ("roles", .arr [.str "student"])]

def twoStudents : List EdLinkEvent := [studentCreated "evt_1" "s1", studentCreated "evt_2" "s2"]

/-- One event a page. -/
def pollOf (syncJobId : Uuid) : Poll where
  log := twoStudents
  pageSize := 1
  syncJobId := syncJobId
  now := 3

/-- The first page has been drained by `job-1`, which read the empty cursor. -/
def firstDrained : Store := (pollOf "job-1").step .reference "L1" Store.empty

/-- The second page against a forced retry of `job-1`. -/
def secondPage : Race where
  pg := .reference
  leaId := "L1"
  poll := pollOf "job-2"
  run :=
    { syncJobId := "job-1", operatorIdentity := "op-1", reason := "replay", forced := true,
      now := 4 }

def moves (page retry page' : Nat) : List (Move Party) :=
  List.replicate page (.step .worker) ++ List.replicate retry (.step .operator)
    ++ List.replicate page' (.step .worker)

def raced (ms : List (Move Party)) : SyncConfig :=
  Runs.run secondPage.step (start firstDrained) ms

def nextCursor (c : SyncConfig) : String := (c.store.readCursor "L1" connectorName).value

def pageOutcome : SyncTxn → Option PageOutcome
  | .committed (.page outcome) => some outcome
  | _ => none

theorem committed_of_pageOutcome {t : SyncTxn} (h : (pageOutcome t).isSome = true) :
    ∃ outcome, t = .committed (.page outcome) := by
  cases t with
  | committed result =>
    cases result with
    | page outcome => exact ⟨outcome, rfl⟩
    | retry => exact nomatch h
  | running | failed | killed => exact nomatch h

theorem committed_of_isCommitted {t : SyncTxn} (h : isCommitted t = true) :
    ∃ result, t = .committed result := by
  cases t with
  | committed result => exact ⟨result, rfl⟩
  | running | failed | killed => exact nomatch h

/-- The page commits, and then the retry. -/
theorem rewind_stays_after_page :
    AtOrBefore twoStudents (nextCursor (raced (moves 20 4 0))) "" := by
  obtain ⟨outcome, hpage⟩ := committed_of_pageOutcome
    (t := (raced (moves 20 4 0)).txn .worker) (by decide +kernel)
  obtain ⟨result, hretry⟩ := committed_of_isCommitted
    (t := (raced (moves 20 4 0)).txn .operator) (by decide +kernel)
  have hfound : ((raced (moves 20 4 0)).store.syncJobs.lookup "job-1").isSome = true := by
    decide +kernel
  obtain ⟨job, hjob⟩ := Option.isSome_iff_exists.mp hfound
  have hfields : ((raced (moves 20 4 0)).store.syncJobs.lookup "job-1").map
      (fun j => (j.leaId, j.partner, j.cursorBefore)) = some ("L1", connectorName, some "") := by
    decide +kernel
  rw [hjob] at hfields
  obtain ⟨hlea, hpartner, hbefore⟩ := by simpa using hfields
  have h := (rewind_stays_iff secondPage firstDrained (moves 20 4 0) twoStudents hpage hretry hjob
    hlea hpartner).1
  rw [hbefore] at h
  exact h.mpr (Or.inl (by decide +kernel))

/-- The retry commits while the page is open, and the next poll brings nothing. -/
theorem rewind_lost :
    let c := raced (moves 1 4 20)
    isCommitted (c.txn .worker) = true ∧ isCommitted (c.txn .operator) = true ∧
      (c.store.syncJobs.lookup "job-1").map (fun j => (j.leaId, j.partner, j.cursorBefore))
        = some ("L1", connectorName, some "") ∧
      nextCursor c = "evt_2" ∧ ¬ AtOrBefore twoStudents (nextCursor c) "" ∧
      (pollOf "job-3").raw "L1" c.store = [] := by
  decide +kernel

end Rewinds
