/-
The operator services as transactions.

`Revert.lean` and `Quarantine.lean` run a service to its end on one database state.
Here the same services go statement by statement, with the locks their statements
take: `UPDATE`, `INSERT` and `SELECT … FOR UPDATE` lock the rows they name, a plain
`SELECT` locks nothing.  Python code between two statements belongs to the second.

* `ResolvePc.denotes` — alone, release and reject are what `Quarantine.lean` says;
* `RevertPc.denotes` — alone, revert is what `Revert.lean` says.
-/
import EdlinkRostering.ReadCommitted
import EdlinkRostering.Quarantine

open ReadCommitted

/-- The rows a statement can lock. -/
inductive RowLock where
  | syncJob (id : Uuid)
  | snapshot (entityType : EntityType) (snapshotId : Nat)
  | canonical (entityType : EntityType) (id : String)
  | quarantine (id : Nat)
deriving DecidableEq

/-! ### Release and reject -/

/-- Where a release stands. -/
inductive ReleasePc where
  | load
  | loaded (row : Option QuarantineRow)
  | insertJob (row : QuarantineRow) (payload : Dict)
  | insertSnapshot (row : QuarantineRow) (payload : Dict)
  | upsertEnrollment (row : QuarantineRow) (payload : Dict)
  | markResolved (row : QuarantineRow)
  | commit (row : QuarantineRow)

/-- Where a reject stands. -/
inductive RejectPc where
  | load
  | markResolved (row : QuarantineRow)
  | commit

inductive ResolveOutcome where
  | released (outcome : ReleaseOutcome)
  | rejected (outcome : RejectOutcome)
deriving DecidableEq

/-- A call that resolves a quarantine row, and where it stands. -/
inductive ResolvePc where
  | release (run : ReleaseRun) (pc : ReleasePc)
  | reject (run : RejectRun) (pc : RejectPc)

abbrev ResolveStatement := Statement Store RowLock ResolvePc ResolveOutcome QuarantineError

/-- The next statement of `QuarantineService.release`. -/
def ReleasePc.statement (run : ReleaseRun) (s : Store) : ReleasePc → ResolveStatement
  | .load =>
    let row := s.quarantine[run.quarantineId]?
    .exec (if row.isSome then [.quarantine run.quarantineId] else []) id
      (.release run (.loaded row))
  | .loaded row =>
    match checkUnresolved run.quarantineId row with
    | .error error => .raise error
    | .ok row =>
      match checkReleasable row with
      | .error error => .raise error
      | .ok (payload, studentId) =>
        if s.roster.studentExists row.leaId studentId then
          .exec [] id (.release run (.insertJob row payload))
        else .raise (studentMissing row.leaId studentId)
  | .insertJob row payload =>
    if s.syncJobs.lookup run.releaseGenerationId = none then
      .exec [.syncJob run.releaseGenerationId]
        (fun s =>
          { s with syncJobs := s.syncJobs.insert run.releaseGenerationId (run.job row.leaId) })
        (.release run (.insertSnapshot row payload))
    else .raise .database
  | .insertSnapshot row payload =>
    match run.snapshotRow row.leaId payload with
    | none => .raise .database
    | some snapshot =>
      .exec [] (fun s => s.withRoster (s.roster.insertSnapshot .enrollment snapshot))
        (.release run (.upsertEnrollment row payload))
  | .upsertEnrollment row payload =>
    match enrollmentOfPayload row.leaId payload with
    | none => .raise .database
    | some (id, enrollment) =>
      if s.roster.admits id (.enrollment enrollment) then
        .exec [.canonical .enrollment id]
          (fun s => s.withRoster (s.roster.setCanonical id (.enrollment enrollment)))
          (.release run (.markResolved row))
      else .raise .database
  | .markResolved row =>
    .exec [.quarantine run.quarantineId]
      (fun s => s.markResolved run.quarantineId run.now "released" run.operatorIdentity)
      (.release run (.commit row))
  | .commit row => .commit (.released (run.outcome row))

/-- The next statement of `QuarantineService.reject`. -/
def RejectPc.statement (run : RejectRun) (s : Store) : RejectPc → ResolveStatement
  | .load =>
    match checkUnresolved run.quarantineId s.quarantine[run.quarantineId]? with
    | .error error => .raise error
    | .ok row => .exec [] id (.reject run (.markResolved row))
  | .markResolved row =>
    .exec [.quarantine run.quarantineId]
      (fun s => s.markResolved run.quarantineId run.now "rejected" run.operatorIdentity
        (some (run.fullReason row)))
      (.reject run .commit)
  | .commit => .commit (.rejected run.outcome)

def ResolvePc.statement (pc : ResolvePc) (s : Store) : ResolveStatement :=
  match pc with
  | .release run pc => pc.statement run s
  | .reject run pc => pc.statement run s

/-- A statement that raised is a `QuarantineError.database`. -/
def orDatabaseError {α : Type} : Option α → Except QuarantineError α
  | none => .error .database
  | some a => .ok a

/-- What is left of a release, run alone. -/
def ReleasePc.resume (run : ReleaseRun) (s : Store) :
    ReleasePc → Except QuarantineError (Store × ResolveOutcome)
  | .load => (release run s).map fun p => (p.1, .released p.2)
  | .loaded row => do
    let row ← checkUnresolved run.quarantineId row
    let (payload, studentId) ← checkReleasable row
    if !s.roster.studentExists row.leaId studentId then
      .error (studentMissing row.leaId studentId)
    else
      let s' ← orDatabaseError (releaseAccepted run row payload s)
      .ok (s', .released (run.outcome row))
  | .insertJob row payload => do
    let s' ← orDatabaseError (releaseAccepted run row payload s)
    .ok (s', .released (run.outcome row))
  | .insertSnapshot row payload => do
    let s' ← orDatabaseError do
      let snapshot ← run.snapshotRow row.leaId payload
      let r := s.roster.insertSnapshot .enrollment snapshot
      let (id, enrollment) ← enrollmentOfPayload row.leaId payload
      let r ← r.upsert id (.enrollment enrollment)
      some ((s.withRoster r).markResolved run.quarantineId run.now "released" run.operatorIdentity)
    .ok (s', .released (run.outcome row))
  | .upsertEnrollment row payload => do
    let s' ← orDatabaseError do
      let (id, enrollment) ← enrollmentOfPayload row.leaId payload
      let r ← s.roster.upsert id (.enrollment enrollment)
      some ((s.withRoster r).markResolved run.quarantineId run.now "released" run.operatorIdentity)
    .ok (s', .released (run.outcome row))
  | .markResolved row =>
    .ok (s.markResolved run.quarantineId run.now "released" run.operatorIdentity,
      .released (run.outcome row))
  | .commit row => .ok (s, .released (run.outcome row))

/-- What is left of a reject, run alone. -/
def RejectPc.resume (run : RejectRun) (s : Store) :
    RejectPc → Except QuarantineError (Store × ResolveOutcome)
  | .load => (reject run s).map fun p => (p.1, .rejected p.2)
  | .markResolved row =>
    .ok (s.markResolved run.quarantineId run.now "rejected" run.operatorIdentity
      (some (run.fullReason row)), .rejected run.outcome)
  | .commit => .ok (s, .rejected run.outcome)

def ResolvePc.resume (pc : ResolvePc) (s : Store) :
    Except QuarantineError (Store × ResolveOutcome) :=
  match pc with
  | .release run pc => pc.resume run s
  | .reject run pc => pc.resume run s

/-- The `SELECT` of a release leaves the rest to do. -/
theorem release_resume_load (run : ReleaseRun) (s : Store) :
    ReleasePc.load.resume run s
      = (ReleasePc.loaded s.quarantine[run.quarantineId]?).resume run s := by
  simp only [ReleasePc.resume, release]
  cases checkUnresolved run.quarantineId s.quarantine[run.quarantineId]? with
  | error e => rfl
  | ok row =>
    cases hc : checkReleasable row with
    | error e => simp [bind, Except.bind, Except.map, hc]
    | ok p =>
      obtain ⟨payload, studentId⟩ := p
      simp only [bind, Except.bind, hc]
      cases s.roster.studentExists row.leaId studentId with
      | false => rfl
      | true =>
        cases releaseAccepted run row payload s with
        | none => rfl
        | some s' => rfl

theorem release_means (run : ReleaseRun) (pc : ReleasePc) (s : Store) :
    (pc.statement run s).Means ResolvePc.resume s (pc.resume run s) := by
  cases pc with
  | load => exact release_resume_load run s
  | loaded row =>
    simp only [ReleasePc.statement, ReleasePc.resume]
    cases checkUnresolved run.quarantineId row with
    | error e => rfl
    | ok row =>
      simp only [bind, Except.bind]
      cases checkReleasable row with
      | error e => rfl
      | ok p =>
        obtain ⟨payload, studentId⟩ := p
        simp only []
        cases s.roster.studentExists row.leaId studentId with
        | false => rfl
        | true => rfl
  | insertJob row payload =>
    simp only [ReleasePc.statement, ReleasePc.resume, releaseAccepted, Store.insertSyncJob]
    by_cases h : s.syncJobs.lookup run.releaseGenerationId = none
    · rw [if_pos h, if_pos h]; rfl
    · rw [if_neg h, if_neg h]; rfl
  | insertSnapshot row payload =>
    simp only [ReleasePc.statement, ReleasePc.resume]
    cases run.snapshotRow row.leaId payload with
    | none => rfl
    | some snapshot => rfl
  | upsertEnrollment row payload =>
    simp only [ReleasePc.statement, ReleasePc.resume, Roster.upsert]
    cases enrollmentOfPayload row.leaId payload with
    | none => rfl
    | some p =>
      obtain ⟨id, enrollment⟩ := p
      simp only []
      -- the foreign keys of the enrollment
      by_cases h : s.roster.admits id (.enrollment enrollment)
      · rw [if_pos h]
        show orDatabaseError _ >>= _ = _
        simp only [Option.bind_eq_bind, Option.bind_some, if_pos h]
        rfl
      · rw [if_neg h]
        show orDatabaseError _ >>= _ = _
        simp only [Option.bind_eq_bind, Option.bind_some, if_neg h]
        rfl
  | markResolved row => rfl
  | commit row => rfl

theorem reject_means (run : RejectRun) (pc : RejectPc) (s : Store) :
    (pc.statement run s).Means ResolvePc.resume s (pc.resume run s) := by
  cases pc with
  | load =>
    simp only [RejectPc.statement, RejectPc.resume, reject]
    cases checkUnresolved run.quarantineId s.quarantine[run.quarantineId]? with
    | error e => rfl
    | ok row => rfl
  | markResolved row => rfl
  | commit => rfl

/-- **Release and reject, alone.** -/
theorem ResolvePc.denotes : Denotes ResolvePc.statement ResolvePc.resume := by
  intro pc s
  cases pc with
  | release run pc => exact release_means run pc s
  | reject run pc => exact reject_means run pc s

/-! ### Revert -/

/-- A turn of the inner loop of a revert: its snapshot, and what is to come. -/
structure RevertTurn where
  entityType : EntityType
  row : SnapshotRow
  rows : List SnapshotRow
  tables : List EntityType
  counts : RevertCounts

/-- Where a revert stands. -/
inductive RevertPc where
  | loadSyncJob
  | refuse (target : SyncJobRow) (tables : List EntityType)
  | selectLive (tables : List EntityType) (counts : RevertCounts)
  | findPrior (turn : RevertTurn)
  | softDelete (turn : RevertTurn)
  | clearPrior (turn : RevertTurn) (prior : SnapshotRow)
  | restore (turn : RevertTurn) (prior : SnapshotRow)
  | retire (turn : RevertTurn) (updated : Bool)
  | commit (counts : RevertCounts)

/-- The next turn of the inner loop, or the next table. -/
def RevertPc.next (entityType : EntityType) (rows : List SnapshotRow) (tables : List EntityType)
    (counts : RevertCounts) : RevertPc :=
  match rows with
  | [] => .selectLive tables counts
  | row :: rows => .findPrior ⟨entityType, row, rows, tables, counts⟩

/-- The lock of an `UPDATE … WHERE id` on a canonical table. -/
def Roster.canonicalLock (r : Roster) (entityType : EntityType) (id : String) : List RowLock :=
  if (r.canonical entityType id).isSome then [.canonical entityType id] else []

/-- The next statement of `RevertService.revert`. -/
def RevertPc.statement (pg : Postgres) (run : RevertRun) (pc : RevertPc) (s : Store) :
    Statement Store RowLock RevertPc RevertOutcome RevertError :=
  match pc with
  | .loadSyncJob =>
    match s.syncJobs.lookup run.syncJobId with
    | none => .raise (.syncJobNotFound run.syncJobId)
    | some target => .exec [] id (.refuse target [.student, .enrollment, .lea])
  | .refuse target (entityType :: tables) =>
    if s.supersededByNewerSync run.syncJobId entityType then
      .raise (.refused run.syncJobId entityType)
    else .exec [] id (.refuse target tables)
  | .refuse target [] =>
    if s.syncJobs.lookup run.revertGenerationId = none then
      .exec [.syncJob run.revertGenerationId]
        (fun s => { s with syncJobs := s.syncJobs.insert run.revertGenerationId (run.job target) })
        (.selectLive [.student, .enrollment, .lea] {})
    else .raise .database
  | .selectLive (entityType :: tables) counts =>
    .exec [] id
      (.next entityType (s.roster.liveOf pg entityType run.syncJobId) tables counts)
  | .selectLive [] counts =>
    .exec [] (fun s => { s with revertActions := s.revertActions ++ [run.action counts.restored] })
      (.commit counts)
  | .findPrior turn =>
    match s.roster.findPriorLiveSnapshot pg turn.entityType turn.row.leaId turn.row.naturalKey
        run.syncJobId with
    | none => .exec [] id (.softDelete turn)
    | some prior => .exec [] id (.clearPrior turn prior)
  | .softDelete turn =>
    .exec (s.roster.canonicalLock turn.entityType turn.row.naturalKey)
      (fun s => s.withRoster (s.roster.softDelete turn.entityType turn.row.naturalKey run.now))
      (.retire turn false)
  | .clearPrior turn prior =>
    .exec [.snapshot turn.entityType prior.snapshotId]
      (fun s => s.withRoster (s.roster.setSuperseded turn.entityType prior.snapshotId none none))
      (.restore turn prior)
  | .restore turn prior =>
    match canonicalOfPayload turn.entityType turn.row.leaId prior.payload
        (if prior.deletedUpstream then prior.sourceEventAt else none) with
    | none => .raise .database
    | some new =>
      match s.roster.canonical new.entityType turn.row.naturalKey with
      | none => .exec [] id (.retire turn true)
      | some _ =>
        if s.roster.admits turn.row.naturalKey new then
          .exec [.canonical turn.entityType turn.row.naturalKey]
            (fun s => s.withRoster (s.roster.setCanonical turn.row.naturalKey new))
            (.retire turn true)
        else .raise .database
  | .retire turn updated =>
    .exec [.snapshot turn.entityType turn.row.snapshotId]
      (fun s => s.withRoster (s.roster.setSuperseded turn.entityType turn.row.snapshotId
        (some run.revertGenerationId) (some run.now)))
      (.next turn.entityType turn.rows turn.tables (turn.counts.count updated))
  | .commit counts => .commit (run.outcome counts)

/-- The end of a revert whose loops gave `result`. -/
def RevertRun.finish (run : RevertRun) (s : Store) :
    Option (Roster × RevertCounts) → Except RevertError (Store × RevertOutcome)
  | none => .error .database
  | some (r, counts) =>
    .ok ({ s with roster := r, revertActions := s.revertActions ++ [run.action counts.restored] },
      run.outcome counts)

/-- What the loops have to do after the turn, which gave `result`. -/
def RevertTurn.rest (pg : Postgres) (run : RevertRun) (turn : RevertTurn)
    (result : Option (Roster × RevertCounts)) : Option (Roster × RevertCounts) := do
  let acc ← result
  let acc ← turn.rows.foldlM (revertRow pg run turn.entityType) acc
  turn.tables.foldlM (revertTable pg run) acc

/-- The end of a turn: its snapshot is retired and counted. -/
def RevertTurn.retired (run : RevertRun) (turn : RevertTurn) (updated : Bool) (r : Roster) :
    Roster × RevertCounts :=
  (r.setSuperseded turn.entityType turn.row.snapshotId (some run.revertGenerationId)
    (some run.now), turn.counts.count updated)

/-- What is left of a revert, run alone. -/
def RevertPc.resume (pg : Postgres) (run : RevertRun) (pc : RevertPc) (s : Store) :
    Except RevertError (Store × RevertOutcome) :=
  match pc with
  | .loadSyncJob => revert pg run s
  | .refuse target tables =>
    match tables.find? (s.supersededByNewerSync run.syncJobId) with
    | some entityType => .error (.refused run.syncJobId entityType)
    | none =>
      match revertAccepted pg run target s with
      | none => .error .database
      | some result => .ok result
  | .selectLive tables counts =>
    run.finish s (tables.foldlM (revertTable pg run) (s.roster, counts))
  | .findPrior turn =>
    run.finish s (turn.rest pg run (revertRow pg run turn.entityType (s.roster, turn.counts)
      turn.row))
  | .softDelete turn =>
    run.finish s (turn.rest pg run (some (turn.retired run false
      (s.roster.softDelete turn.entityType turn.row.naturalKey run.now))))
  | .clearPrior turn prior =>
    run.finish s (turn.rest pg run (((s.roster.setSuperseded turn.entityType prior.snapshotId none
      none).restoreCanonicalFromPayload turn.entityType turn.row.naturalKey turn.row.leaId
        prior).map (turn.retired run true)))
  | .restore turn prior =>
    run.finish s (turn.rest pg run ((s.roster.restoreCanonicalFromPayload turn.entityType
      turn.row.naturalKey turn.row.leaId prior).map (turn.retired run true)))
  | .retire turn updated =>
    run.finish s (turn.rest pg run (some (turn.retired run updated s.roster)))
  | .commit counts => .ok (s, run.outcome counts)

theorem resume_next (pg : Postgres) (run : RevertRun) (turn : RevertTurn) (s : Store)
    (counts : RevertCounts) :
    (RevertPc.next turn.entityType turn.rows turn.tables counts).resume pg run s
      = run.finish s (turn.rest pg run (some (s.roster, counts))) := by
  cases turn with
  | mk entityType row rows tables counts' =>
    cases rows with
    | nil => rfl
    | cons row' rows =>
      simp only [RevertPc.next, RevertPc.resume, RevertTurn.rest, List.foldlM_cons,
        Option.bind_eq_bind, Option.bind_some, Option.bind_assoc]

theorem findPrior_means (pg : Postgres) (run : RevertRun) (turn : RevertTurn) (s : Store) :
    ((RevertPc.findPrior turn).statement pg run s).Means (RevertPc.resume pg run) s
      ((RevertPc.findPrior turn).resume pg run s) := by
  simp only [RevertPc.statement, RevertPc.resume, revertRow, giveBack]
  cases s.roster.findPriorLiveSnapshot pg turn.entityType turn.row.leaId turn.row.naturalKey
      run.syncJobId with
  | none => rfl
  | some prior =>
    show run.finish s (turn.rest pg run _) = run.finish s (turn.rest pg run _)
    congr 2
    simp only [id_eq, Option.bind_eq_bind]
    cases Roster.restoreCanonicalFromPayload
      (s.roster.setSuperseded turn.entityType prior.snapshotId none none) turn.entityType
      turn.row.naturalKey turn.row.leaId prior with
    | none => rfl
    | some r => rfl

theorem restore_means (pg : Postgres) (run : RevertRun) (turn : RevertTurn) (prior : SnapshotRow)
    (s : Store) :
    ((RevertPc.restore turn prior).statement pg run s).Means (RevertPc.resume pg run) s
      ((RevertPc.restore turn prior).resume pg run s) := by
  simp only [RevertPc.statement, RevertPc.resume, Roster.restoreCanonicalFromPayload]
  cases canonicalOfPayload turn.entityType turn.row.leaId prior.payload
      (if prior.deletedUpstream then prior.sourceEventAt else none) with
  | none => rfl
  | some new =>
    simp only [Option.bind_eq_bind, Option.bind_some, Roster.update]
    cases s.roster.canonical new.entityType turn.row.naturalKey with
    | none => rfl
    | some old =>
      simp only [Roster.upsert]
      cases s.roster.admits turn.row.naturalKey new with
      | false => rfl
      | true => rfl

/-- **Revert, alone.** -/
theorem RevertPc.denotes (pg : Postgres) (run : RevertRun) :
    Denotes (RevertPc.statement pg run) (RevertPc.resume pg run) := by
  intro pc s
  cases pc with
  | loadSyncJob =>
    simp only [RevertPc.statement, RevertPc.resume, revert]
    cases s.syncJobs.lookup run.syncJobId with
    | none => rfl
    | some target => rfl
  | refuse target tables =>
    cases tables with
    | nil =>
      simp only [RevertPc.statement, RevertPc.resume, revertAccepted, Store.insertSyncJob]
      by_cases h : s.syncJobs.lookup run.revertGenerationId = none
      · rw [if_pos h, if_pos h]
        -- the revert is accepted, and its turns begin
        show _ = run.finish _ _
        simp only [List.find?_nil, Option.bind_eq_bind, Option.bind_some, revertTables]
        cases [EntityType.student, .enrollment, .lea].foldlM (revertTable pg run)
            (s.roster, {}) with
        | none => rfl
        | some p => rfl
      · rw [if_neg h, if_neg h]; rfl
    | cons entityType tables =>
      simp only [RevertPc.statement, RevertPc.resume, List.find?_cons]
      cases s.supersededByNewerSync run.syncJobId entityType with
      | true => rfl
      | false => rfl
  | selectLive tables counts =>
    cases tables with
    | nil => rfl
    | cons entityType tables =>
      show run.finish s _ = (RevertPc.next entityType _ tables counts).resume pg run s
      -- the snapshots are selected once, and worked off one by one
      cases hl : s.roster.liveOf pg entityType run.syncJobId with
      | nil => simp only [RevertPc.next, RevertPc.resume, List.foldlM_cons, revertTable, hl,
          List.foldlM_nil, Option.pure_def, Option.bind_eq_bind, Option.bind_some]
      | cons row rows => simp only [RevertPc.next, RevertPc.resume, List.foldlM_cons, revertTable,
          hl, RevertTurn.rest, Option.bind_eq_bind, Option.bind_assoc]
  | findPrior turn => exact findPrior_means pg run turn s
  | softDelete turn => rfl
  | clearPrior turn prior => rfl
  | restore turn prior => exact restore_means pg run turn prior s
  | retire turn updated =>
    show run.finish s _ = RevertPc.resume pg run _ _
    rw [resume_next]
    rfl
  | commit counts => rfl
