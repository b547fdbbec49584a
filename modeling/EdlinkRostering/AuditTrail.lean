/-
The audit trail of the services.

A retry, a revert, a release and a reject record themselves where the timeline finds them:
in an action table, or on the row they resolve.  The database draws the ids of these rows
when it inserts them.

* `Store.adminView` — the tables of the admin API over a state of the services;
* `Store.entry?` — the entry that an accepted call owes the timeline;
* `audit_trail_exact` — the timeline has the entries of the accepted calls, and no other
  action of an operator.
-/
import EdlinkRostering.Timeline
import EdlinkRostering.Inversion

/-! ### Rows and the ids they were given -/

namespace Table

variable {κ ρ β : Type} (name : Nat ↪ κ)

/-- The rows of a list in its order, under the ids they were given. -/
def ofRows (l : List ρ) : Table κ ρ where
  entries := l.zipIdx.map fun r => ⟨name r.2, r.1⟩
  nodupKeys := by
    rw [List.NodupKeys, List.keys, List.map_map]
    show (l.zipIdx.map fun r => name r.2).Nodup
    rw [← Function.comp_def, ← List.map_map, List.zipIdx_map_snd]
    exact (List.nodup_range' 1).map name.injective

theorem rows_ofRows (l : List ρ) :
    rows (ofRows name l) = l.zipIdx.map fun r => (name r.2, r.1) := by
  rw [rows, ofRows, List.map_map]
  rfl

theorem mem_rows_ofRows {l : List ρ} {id : κ} {x : ρ} :
    (id, x) ∈ rows (ofRows name l) ↔ ∃ i, name i = id ∧ l[i]? = some x := by
  rw [rows_ofRows, List.mem_map]
  constructor
  · rintro ⟨⟨y, i⟩, hy, heq⟩
    obtain ⟨rfl, rfl⟩ := Prod.mk.inj heq
    exact ⟨i, rfl, List.mem_zipIdx_iff_getElem?.mp hy⟩
  · rintro ⟨i, rfl, hx⟩
    exact ⟨(x, i), List.mem_zipIdx_iff_getElem?.mpr hx, rfl⟩

variable (f : κ × ρ → Option β) {l l' : List ρ}

/-- One more row. -/
theorem filterMap_ofRows_concat (x : ρ) : (rows (ofRows name (l ++ [x]))).filterMap f
    = (rows (ofRows name l)).filterMap f ++ (f (name l.length, x)).toList := by
  rw [rows_ofRows, rows_ofRows, List.zipIdx_append, List.map_append, List.filterMap_append]
  congr 1
  simp [List.filterMap_cons]
  cases f (name l.length, x) <;> rfl

/-- Rows that are not selected. -/
theorem filterMap_ofRows_append (h : ∀ id, ∀ x ∈ l', f (id, x) = none) :
    (rows (ofRows name (l ++ l'))).filterMap f = (rows (ofRows name l)).filterMap f := by
  rw [rows_ofRows, rows_ofRows, List.zipIdx_append, List.map_append, List.filterMap_append]
  have hnone : (((l'.zipIdx (0 + l.length)).map fun r => (name r.2, r.1)).filterMap f) = [] := by
    rw [List.filterMap_eq_nil_iff]
    intro r hr
    obtain ⟨x, hx, rfl⟩ := List.mem_map.mp hr
    exact h _ _ (List.fst_mem_of_mem_zipIdx hx)
  rw [hnone, List.append_nil]

/-- An update of a row that was not selected. -/
theorem filterMap_ofRows_modify {i : Nat} {x : ρ} (hx : l[i]? = some x)
    (hnone : f (name i, x) = none) (g : ρ → ρ) :
    ((rows (ofRows name (l.modify i g))).filterMap f).Perm
      ((rows (ofRows name l)).filterMap f ++ (f (name i, g x)).toList) := by
  obtain ⟨hlt, hx⟩ := List.getElem?_eq_some_iff.mp hx
  have hlength : (l.take i).length = i := List.length_take_of_le (by omega)
  have hsplit : l = l.take i ++ x :: l.drop (i + 1) := by
    rw [← hx, List.getElem_cons_drop, List.take_append_drop]
  have hmodify : l.modify i g = l.take i ++ g x :: l.drop (i + 1) := by
    rw [List.modify_eq_take_cons_drop hlt, hx]
  have hboth : ∀ y, (rows (ofRows name (l.take i ++ y :: l.drop (i + 1)))).filterMap f
      = (((l.take i).zipIdx.map fun r => (name r.2, r.1)).filterMap f
          ++ (f (name i, y)).toList)
        ++ (((l.drop (i + 1)).zipIdx (i + 1)).map fun r => (name r.2, r.1)).filterMap f := by
    intro y
    rw [rows_ofRows, List.zipIdx_append, List.map_append, List.filterMap_append, hlength,
      Nat.zero_add, List.zipIdx_cons, List.map_cons, List.filterMap_cons, List.append_assoc]
    cases f (name i, y) <;> rfl
  have hold := hboth x
  rw [← hsplit, hnone, Option.toList_none, List.append_nil] at hold
  rw [hmodify, hboth, hold, List.append_assoc, List.append_assoc]
  exact List.perm_append_comm.append_left _

end Table

/-! ### The view -/

open Admin (AdminDatabase AdminPostgres TimelineEntry TimelineRow inScope timelineRows revertsBranch
  retriesBranch quarantineResolvedBranch)

/-- The ids of the rows, in the order they are inserted. -/
structure AuditIds where
  quarantine : Nat ↪ Uuid
  revertActions : Nat ↪ Uuid
  retryActions : Nat ↪ Uuid

/-- The tables of the admin API; those that the services do not write are the base's. -/
def Store.adminView (ids : AuditIds) (base : AdminDatabase) (s : Store) : AdminDatabase :=
  { base with
    students := s.roster.students
    enrollments := s.roster.enrollments
    syncJobs := s.syncJobs
    quarantine := Table.ofRows ids.quarantine s.quarantine
    revertActions := Table.ofRows ids.revertActions s.revertActions
    retryActions := Table.ofRows ids.retryActions s.retryActions
    cursorState := s.cursorState }

/-! ### What an accepted call owes the timeline -/

/-- The entry of a resolution. -/
def resolutionEntry (ids : AuditIds) (quarantineId : Nat) (row : QuarantineRow)
    (status operatorIdentity : String) (now : Instant) : TimelineRow where
  id := ids.quarantine quarantineId ++ "#resolved"
  source := .quarantineResolved
  occurredAt := now
  actorKind := .operator
  actorEmail := some operatorIdentity
  action := "quarantine." ++ status
  reason := none
  targetKind := "quarantine_row"
  targetId := ids.quarantine quarantineId
  detail := some
    [("lea_id", .str row.leaId), ("entity_type", .str row.entityType),
      ("entity_id", .str row.entityId), ("resolution_status", .str status)]

/-- The LEA and the entry of a call, if the service accepts it. -/
def Store.entry? (pg : Postgres) (ids : AuditIds) (s : Store) : Op → Option (LeaId × TimelineRow)
  | .page _ | .bulkLoad _ => none
  | .revert run =>
    match s.syncJobs.lookup run.syncJobId, revert pg run s with
    | some target, .ok (_, outcome) => some (target.leaId,
        { id := ids.revertActions s.revertActions.length, source := .revertActions
          occurredAt := run.now, actorKind := .operator, actorEmail := some run.operatorIdentity
          action := "sync.revert", reason := some run.reason, targetKind := "sync_job"
          targetId := run.syncJobId
          detail := some
            [("lea_id", .str target.leaId),
              ("snapshots_restored", .int outcome.snapshotsRestored),
              ("revert_generation_id", .str run.revertGenerationId)] })
    | _, _ => none
  | .retry run =>
    match s.syncJobs.lookup run.syncJobId, retry run s with
    | some target, .ok _ => some (target.leaId,
        { id := ids.retryActions s.retryActions.length, source := .retryActions
          occurredAt := run.now, actorKind := .operator, actorEmail := some run.operatorIdentity
          action := "sync.retry_requested", reason := some run.reason, targetKind := "sync_job"
          targetId := run.syncJobId
          detail := some
            [("partner", .str target.partner), ("lea_id", .str target.leaId),
              ("forced", .bool run.forced), ("cursor_rewound_to", .ofOption target.cursorBefore)] })
    | _, _ => none
  | .release run =>
    match release run s with
    | .error _ => none
    | .ok _ => s.quarantine[run.quarantineId]?.map fun row => (row.leaId,
        resolutionEntry ids run.quarantineId row "released" run.operatorIdentity run.now)
  | .reject run =>
    match reject run s with
    | .error _ => none
    | .ok _ => s.quarantine[run.quarantineId]?.map fun row => (row.leaId,
        resolutionEntry ids run.quarantineId row "rejected" run.operatorIdentity run.now)

/-- The entries of a run, in the order of the calls. -/
def Store.trail (pg : Postgres) (ids : AuditIds) : Store → List Op → List (LeaId × TimelineRow)
  | _, [] => []
  | s, op :: ops => (s.entry? pg ids op).toList ++ (s.exec pg op).trail pg ids ops

/-- The entries a scope shows. -/
def shown (scope : Option (List LeaId)) (entries : List (LeaId × TimelineRow)) :
    List TimelineRow :=
  (entries.filter fun e => inScope scope e.1).map Prod.snd

theorem shown_append (scope : Option (List LeaId)) (entries entries' : List (LeaId × TimelineRow)) :
    shown scope (entries ++ entries') = shown scope entries ++ shown scope entries' := by
  rw [shown, List.filter_append, List.map_append, shown, shown]

/-- The jobs of the recorded reverts are there. -/
def Store.RevertsKnown (s : Store) : Prop := ∀ a ∈ s.revertActions, s.Known a.syncJobId

/-- The jobs stay, each with its LEA. -/
def Store.KeepsJobs (s s' : Store) : Prop :=
  ∀ id row, s.syncJobs.lookup id = some row →
    ∃ row', s'.syncJobs.lookup id = some row' ∧ row'.leaId = row.leaId

/-- The entry is of a revert, a retry or a resolution. -/
def Admin.TimelineEntry.isAction (entry : TimelineEntry) : Bool :=
  entry.source = .revertActions || entry.source = .retryActions
    || entry.source = .quarantineResolved

/-! ### One call -/

/-- The actions of a state: the reverts, the retries and the resolutions. -/
def Admin.actionRows (db : AdminDatabase) (scope : Option (List LeaId)) : List TimelineRow :=
  revertsBranch db scope ++ retriesBranch db scope ++ quarantineResolvedBranch db scope

section

variable {pg : Postgres} {ids : AuditIds} {base : AdminDatabase} {s s' : Store}
  {scope : Option (List LeaId)}

theorem keepsJobs_exec (s : Store) (pg : Postgres) (op : Op) : s.KeepsJobs (s.exec pg op) := by
  intro id row hrow
  exact ⟨row, s.lookup_exec pg op hrow, rfl⟩

theorem Store.KeepsJobs.known (h : s.KeepsJobs s') {id : Uuid} (hid : s.Known id) :
    s'.Known id := by
  obtain ⟨row, hrow⟩ := Option.ne_none_iff_exists'.mp hid
  obtain ⟨row', hrow', -⟩ := h id row hrow
  rw [Store.Known, hrow']
  exact Option.some_ne_none row'

/-- Reverts of jobs that are known. -/
theorem Store.RevertsKnown.grow (h : s.RevertsKnown) (hjobs : s.KeepsJobs s')
    (hactions : ∀ a ∈ s'.revertActions, a ∈ s.revertActions ∨ s.Known a.syncJobId) :
    s'.RevertsKnown := by
  intro a ha
  rcases hactions a ha with hold | hknown
  · exact hjobs.known (h a hold)
  · exact hjobs.known hknown

theorem revertsKnown_empty : Store.empty.RevertsKnown :=
  fun _ ha => absurd ha List.not_mem_nil

/-- Every operation keeps the jobs of the recorded reverts. -/
theorem Store.RevertsKnown.exec (h : s.RevertsKnown) (pg : Postgres) (op : Op) :
    (s.exec pg op).RevertsKnown := by
  have hjobs := keepsJobs_exec s pg op
  -- an operation that records no revert
  have hsame : (s.exec pg op).revertActions = s.revertActions → (s.exec pg op).RevertsKnown :=
    fun hactions => h.grow hjobs fun a ha => Or.inl (hactions ▸ ha)
  rcases s.exec_cases pg op with he | he
  · rw [he]
    exact h
  cases op with
  | page run => exact hsame he.revertActions
  | bulkLoad run => exact hsame (bulkLoad_frame pg run s).revertActions
  | revert run =>
    obtain ⟨outcome, hr⟩ := he
    obtain ⟨target, htarget, -⟩ := hr.target
    obtain ⟨counts, -, hactions, -⟩ := hr.roster
    refine h.grow hjobs fun a ha => ?_
    rw [hactions] at ha
    rcases List.mem_append.mp ha with ha | ha
    · exact Or.inl ha
    · rw [List.mem_singleton.mp ha]
      refine Or.inr ?_
      rw [Store.Known, show (_ : RevertActionRow).syncJobId = run.syncJobId from rfl, htarget]
      exact Option.some_ne_none target
  | release run => exact hsame he.revertActions
  | reject run =>
    obtain ⟨row, -, -, he⟩ := he
    exact hsame (by rw [he]; rfl)
  | retry run =>
    obtain ⟨target, -, -, he⟩ := he
    exact hsame (by rw [he])

theorem shown_singleton (leaId : LeaId) (row : TimelineRow) :
    shown scope [(leaId, row)] = (if inScope scope leaId then some row else none).toList := by
  rw [shown, List.filter_cons]
  cases inScope scope leaId <;> rfl

/-- The job of a recorded revert is there, and stays the LEA's. -/
theorem lookup_of_mem_reverts (h : s.RevertsKnown) (hjobs : s.KeepsJobs s')
    {r : Uuid × RevertActionRow}
    (hr : r ∈ Table.rows (Table.ofRows ids.revertActions s.revertActions)) :
    ∃ row row', s.syncJobs.lookup r.2.syncJobId = some row ∧
      s'.syncJobs.lookup r.2.syncJobId = some row' ∧ row'.leaId = row.leaId := by
  obtain ⟨i, -, hi⟩ := (Table.mem_rows_ofRows _).mp hr
  obtain ⟨row, hrow⟩ := Option.ne_none_iff_exists'.mp (h r.2 (List.mem_of_getElem? hi))
  obtain ⟨row', hrow', hlea⟩ := hjobs _ row hrow
  exact ⟨row, row', hrow, hrow', hlea⟩

theorem revertsBranch_same (h : s.RevertsKnown) (hjobs : s.KeepsJobs s')
    (hactions : s'.revertActions = s.revertActions) :
    revertsBranch (s'.adminView ids base) scope = revertsBranch (s.adminView ids base) scope := by
  show (Table.rows (Table.ofRows ids.revertActions s'.revertActions)).filterMap _
    = (Table.rows (Table.ofRows ids.revertActions s.revertActions)).filterMap _
  rw [hactions]
  refine List.filterMap_congr fun r hr => ?_
  obtain ⟨row, row', hrow, hrow', hlea⟩ := lookup_of_mem_reverts h hjobs hr
  dsimp only [Store.adminView]
  rw [hrow, hrow']
  dsimp only
  rw [hlea]

theorem revertsBranch_concat (h : s.RevertsKnown) (hjobs : s.KeepsJobs s')
    {a : RevertActionRow} (hactions : s'.revertActions = s.revertActions ++ [a])
    {target : SyncJobRow} (htarget : s.syncJobs.lookup a.syncJobId = some target) :
    revertsBranch (s'.adminView ids base) scope
      = revertsBranch (s.adminView ids base) scope ++ shown scope [(target.leaId,
        { id := ids.revertActions s.revertActions.length, source := .revertActions
          occurredAt := a.revertedAt, actorKind := .operator
          actorEmail := some a.operatorIdentity, action := "sync.revert", reason := some a.reason
          targetKind := "sync_job", targetId := a.syncJobId
          detail := some
            [("lea_id", .str target.leaId), ("snapshots_restored", .int a.snapshotsRestored),
              ("revert_generation_id", .str a.revertGenerationId)] })] := by
  show (Table.rows (Table.ofRows ids.revertActions s'.revertActions)).filterMap _
    = (Table.rows (Table.ofRows ids.revertActions s.revertActions)).filterMap _ ++ _
  rw [hactions, Table.filterMap_ofRows_concat]
  congr 1
  · refine List.filterMap_congr fun r hr => ?_
    obtain ⟨row, row', hrow, hrow', hlea⟩ := lookup_of_mem_reverts h hjobs hr
    dsimp only [Store.adminView]
    rw [hrow, hrow']
    dsimp only
    rw [hlea]
  · obtain ⟨row', hrow', hlea⟩ := hjobs _ target htarget
    dsimp only [Store.adminView]
    rw [hrow', shown_singleton]
    dsimp only
    rw [hlea]

theorem retriesBranch_same (hactions : s'.retryActions = s.retryActions) :
    retriesBranch (s'.adminView ids base) scope = retriesBranch (s.adminView ids base) scope := by
  show (Table.rows (Table.ofRows ids.retryActions s'.retryActions)).filterMap _
    = (Table.rows (Table.ofRows ids.retryActions s.retryActions)).filterMap _
  rw [hactions]

theorem retriesBranch_concat {a : RetryActionRow}
    (hactions : s'.retryActions = s.retryActions ++ [a]) :
    retriesBranch (s'.adminView ids base) scope
      = retriesBranch (s.adminView ids base) scope ++ shown scope [(a.leaId,
        { id := ids.retryActions s.retryActions.length, source := .retryActions
          occurredAt := a.retriedAt, actorKind := .operator
          actorEmail := some a.operatorIdentity, action := "sync.retry_requested"
          reason := some a.reason, targetKind := "sync_job", targetId := a.syncJobId
          detail := some
            [("partner", .str a.partner), ("lea_id", .str a.leaId), ("forced", .bool a.forced),
              ("cursor_rewound_to", .ofOption a.cursorRewoundTo)] })] := by
  show (Table.rows (Table.ofRows ids.retryActions s'.retryActions)).filterMap _
    = (Table.rows (Table.ofRows ids.retryActions s.retryActions)).filterMap _ ++ _
  rw [hactions, Table.filterMap_ofRows_concat, shown_singleton]

/-- New rows of the quarantine are unresolved. -/
theorem resolvedBranch_append {rows : List QuarantineRow}
    (hq : s'.quarantine = s.quarantine ++ rows) (hrows : ∀ row ∈ rows, row.resolvedAt = none) :
    quarantineResolvedBranch (s'.adminView ids base) scope
      = quarantineResolvedBranch (s.adminView ids base) scope := by
  show (Table.rows (Table.ofRows ids.quarantine s'.quarantine)).filterMap _
    = (Table.rows (Table.ofRows ids.quarantine s.quarantine)).filterMap _
  rw [hq]
  refine Table.filterMap_ofRows_append _ _ fun id row hrow => ?_
  dsimp only
  rw [hrows row hrow]

/-- A resolution of an unresolved row. -/
theorem resolvedBranch_markResolved {q : Nat} {row : QuarantineRow}
    (hrow : s.quarantine[q]? = some row) (hunresolved : row.resolvedAt = none)
    {now : Instant} {status who : String} {reason : Option String}
    (hq : s'.quarantine = (s.markResolved q now status who reason).quarantine) :
    (quarantineResolvedBranch (s'.adminView ids base) scope).Perm
      (quarantineResolvedBranch (s.adminView ids base) scope
        ++ shown scope [(row.leaId, resolutionEntry ids q row status who now)]) := by
  show ((Table.rows (Table.ofRows ids.quarantine s'.quarantine)).filterMap _).Perm
    ((Table.rows (Table.ofRows ids.quarantine s.quarantine)).filterMap _ ++ _)
  rw [hq, Store.markResolved, shown_singleton]
  refine Table.filterMap_ofRows_modify _ _ hrow ?_ _
  dsimp only
  rw [hunresolved]

/-- A transaction that records a revert. -/
theorem actionRows_revert (h : s.RevertsKnown) (hjobs : s.KeepsJobs s')
    {run : RevertRun} {outcome : RevertOutcome} (hr : Reverts pg run s s' outcome)
    (hrevert : revert pg run s = .ok (s', outcome)) :
    (Admin.actionRows (s'.adminView ids base) scope).Perm
      (Admin.actionRows (s.adminView ids base) scope
        ++ shown scope (s.entry? pg ids (.revert run)).toList) := by
  obtain ⟨target, htarget, -⟩ := hr.target
  obtain ⟨counts, -, hactions, hcount, -⟩ := hr.roster
  have hq : s'.quarantine = s.quarantine ++ [] := by rw [hr.quarantine, List.append_nil]
  rw [Admin.actionRows, revertsBranch_concat h hjobs hactions htarget,
    retriesBranch_same hr.retryActions, resolvedBranch_append hq (by simp), Store.entry?, htarget,
    hrevert]
  dsimp only
  rw [hcount, Option.toList_some, List.append_assoc, List.append_assoc, Admin.actionRows,
    List.append_assoc, List.append_assoc, ← List.append_assoc (retriesBranch _ _)]
  exact List.perm_append_comm.append_left _

/-- A transaction that records a retry. -/
theorem actionRows_retry (h : s.RevertsKnown) (hjobs : s.KeepsJobs s')
    {run : RetryRun} {outcome : RetryOutcome} (hretry : retry run s = .ok (s', outcome)) :
    (Admin.actionRows (s'.adminView ids base) scope).Perm
      (Admin.actionRows (s.adminView ids base) scope
        ++ shown scope (s.entry? pg ids (.retry run)).toList) := by
  obtain ⟨target, htarget, -, hs'⟩ := retry_eq_ok hretry
  have hactions : s'.retryActions = s.retryActions ++ [run.action target] := by rw [hs']
  have hreverts : s'.revertActions = s.revertActions := by rw [hs']
  have hq : s'.quarantine = s.quarantine ++ [] := by rw [hs', List.append_nil]
  rw [Admin.actionRows, revertsBranch_same h hjobs hreverts, retriesBranch_concat hactions,
    resolvedBranch_append hq (by simp), Store.entry?, htarget, hretry]
  dsimp only
  rw [Option.toList_some, List.append_assoc, List.append_assoc, Admin.actionRows,
    List.append_assoc, List.append_assoc]
  exact (List.perm_append_comm.append_left _).append_left _

/-- A transaction without an action. -/
theorem actionRows_same (h : s.RevertsKnown) (hjobs : s.KeepsJobs s')
    (hreverts : s'.revertActions = s.revertActions) (hretries : s'.retryActions = s.retryActions)
    {rows : List QuarantineRow} (hq : s'.quarantine = s.quarantine ++ rows)
    (hrows : ∀ row ∈ rows, row.resolvedAt = none) :
    Admin.actionRows (s'.adminView ids base) scope
      = Admin.actionRows (s.adminView ids base) scope := by
  rw [Admin.actionRows, revertsBranch_same h hjobs hreverts, retriesBranch_same hretries,
    resolvedBranch_append hq hrows, Admin.actionRows]

/-- A transaction that resolves a row. -/
theorem actionRows_resolve (h : s.RevertsKnown) (hjobs : s.KeepsJobs s')
    (hreverts : s'.revertActions = s.revertActions) (hretries : s'.retryActions = s.retryActions)
    {q : Nat} {row : QuarantineRow} (hrow : s.quarantine[q]? = some row)
    (hunresolved : row.resolvedAt = none) {now : Instant} {status who : String}
    {reason : Option String}
    (hq : s'.quarantine = (s.markResolved q now status who reason).quarantine) :
    (Admin.actionRows (s'.adminView ids base) scope).Perm
      (Admin.actionRows (s.adminView ids base) scope
        ++ shown scope [(row.leaId, resolutionEntry ids q row status who now)]) := by
  rw [Admin.actionRows, revertsBranch_same h hjobs hreverts, retriesBranch_same hretries,
    Admin.actionRows, List.append_assoc (_ ++ _)]
  exact (resolvedBranch_markResolved hrow hunresolved hq).append_left _

/-- A call that leaves the state as it was owes nothing. -/
theorem actionRows_refused {op : Op} (hs : s.exec pg op = s) (he : s.entry? pg ids op = none) :
    (Admin.actionRows ((s.exec pg op).adminView ids base) scope).Perm
      (Admin.actionRows (s.adminView ids base) scope
        ++ shown scope (s.entry? pg ids op).toList) := by
  rw [hs, he]
  exact List.Perm.of_eq (List.append_nil _).symm

/-- A page quarantines unresolved rows at most. -/
theorem actionRows_page (h : s.RevertsKnown) (run : PageRun) :
    Admin.actionRows ((s.exec pg (.page run)).adminView ids base) scope
      = Admin.actionRows (s.adminView ids base) scope := by
  rcases s.exec_cases pg (.page run) with he | he
  · rw [he]
  have hjobs := keepsJobs_exec s pg (.page run)
  cases hb : run.blocked s with
  | true =>
    have hq : (s.exec pg (.page run)).quarantine = s.quarantine ++ [] := by
      rw [(he.blocked hb).2.1, List.append_nil]
    exact actionRows_same h hjobs he.revertActions he.retryActions hq (by simp)
  | false =>
    refine actionRows_same h hjobs he.revertActions he.retryActions (he.quarantine hb) ?_
    intro row hrow
    obtain ⟨event, -, rfl⟩ := List.mem_map.mp hrow
    rfl

/-- What a bulk load does not touch. -/
theorem actionRows_frame (h : s.RevertsKnown) (hjobs : s.KeepsJobs s') {run : BulkRun}
    (hframe : run.Frame s s') :
    Admin.actionRows (s'.adminView ids base) scope
      = Admin.actionRows (s.adminView ids base) scope := by
  have hq : s'.quarantine = s.quarantine ++ [] := by rw [hframe.quarantine, List.append_nil]
  exact actionRows_same h hjobs hframe.revertActions hframe.retryActions hq (by simp)

/-- A release that is accepted. -/
theorem actionRows_release (h : s.RevertsKnown) (hjobs : s.KeepsJobs s') {run : ReleaseRun}
    {outcome : ReleaseOutcome} (hrelease : release run s = .ok (s', outcome)) :
    (Admin.actionRows (s'.adminView ids base) scope).Perm
      (Admin.actionRows (s.adminView ids base) scope
        ++ shown scope (s.entry? pg ids (.release run)).toList) := by
  have hr := release_eq_ok hrelease
  obtain ⟨row, _, _, _, _, _, hrow, hunresolved, -⟩ := hr.released
  have hentry : s.entry? pg ids (.release run) = some (row.leaId,
      resolutionEntry ids run.quarantineId row "released" run.operatorIdentity run.now) := by
    rw [Store.entry?, hrelease, hrow]
    rfl
  rw [hentry]
  exact actionRows_resolve h hjobs hr.revertActions hr.retryActions hrow hunresolved hr.quarantine

/-- A reject that is accepted. -/
theorem actionRows_reject (h : s.RevertsKnown) (hjobs : s.KeepsJobs s') {run : RejectRun}
    {outcome : RejectOutcome} (hreject : reject run s = .ok (s', outcome)) :
    (Admin.actionRows (s'.adminView ids base) scope).Perm
      (Admin.actionRows (s.adminView ids base) scope
        ++ shown scope (s.entry? pg ids (.reject run)).toList) := by
  obtain ⟨row, hrow, hunresolved, hs'⟩ := reject_eq_ok hreject
  have hentry : s.entry? pg ids (.reject run) = some (row.leaId,
      resolutionEntry ids run.quarantineId row "rejected" run.operatorIdentity run.now) := by
    rw [Store.entry?, hreject, hrow]
    rfl
  rw [hentry]
  exact actionRows_resolve h hjobs (by rw [hs']; rfl) (by rw [hs']; rfl) hrow hunresolved
    (by rw [hs'])

/-- **What a call adds to the actions**: the entry it owes. -/
theorem actionRows_exec (h : s.RevertsKnown) (op : Op) :
    (Admin.actionRows ((s.exec pg op).adminView ids base) scope).Perm
      (Admin.actionRows (s.adminView ids base) scope
        ++ shown scope (s.entry? pg ids op).toList) := by
  have hjobs := keepsJobs_exec s pg op
  cases op with
  | page run =>
    rw [actionRows_page h]
    exact List.Perm.of_eq (List.append_nil _).symm
  | bulkLoad run =>
    rw [actionRows_frame h hjobs (bulkLoad_frame pg run s)]
    exact List.Perm.of_eq (List.append_nil _).symm
  | revert run =>
    cases hrevert : revert pg run s with
    | error e =>
      exact actionRows_refused (by rw [Store.exec, hrevert, commit])
        (by simp [Store.entry?, hrevert])
    | ok p =>
      have hexec : s.exec pg (.revert run) = p.1 := by rw [Store.exec, hrevert, commit]
      rw [hexec] at hjobs ⊢
      exact actionRows_revert h hjobs (revert_eq_ok hrevert) hrevert
  | retry run =>
    cases hretry : retry run s with
    | error e =>
      exact actionRows_refused (by rw [Store.exec, hretry, commit])
        (by simp [Store.entry?, hretry])
    | ok p =>
      have hexec : s.exec pg (.retry run) = p.1 := by rw [Store.exec, hretry, commit]
      rw [hexec] at hjobs ⊢
      exact actionRows_retry h hjobs hretry
  | release run =>
    cases hrelease : release run s with
    | error e =>
      exact actionRows_refused (by rw [Store.exec, hrelease, commit])
        (by simp [Store.entry?, hrelease])
    | ok p =>
      have hexec : s.exec pg (.release run) = p.1 := by rw [Store.exec, hrelease, commit]
      rw [hexec] at hjobs ⊢
      exact actionRows_release h hjobs hrelease
  | reject run =>
    cases hreject : reject run s with
    | error e =>
      exact actionRows_refused (by rw [Store.exec, hreject, commit])
        (by simp [Store.entry?, hreject])
    | ok p =>
      have hexec : s.exec pg (.reject run) = p.1 := by rw [Store.exec, hreject, commit]
      rw [hexec] at hjobs ⊢
      exact actionRows_reject h hjobs hreject

end

/-! ### Whole runs -/

namespace Admin

/-- A select whose entries are all of one kind. -/
theorem filter_isAction {α : Type} {f : α → Option TimelineRow} (kind : Bool) (l : List α)
    (h : ∀ x row, f x = some row → row.isAction = kind) :
    (l.filterMap f).filter (fun row => row.isAction) = if kind then l.filterMap f else [] := by
  have hall : ∀ row ∈ l.filterMap f, row.isAction = kind := by
    intro row hrow
    obtain ⟨x, -, hx⟩ := List.mem_filterMap.mp hrow
    exact h x row hx
  cases kind with
  | true => exact List.filter_eq_self.mpr hall
  | false =>
    refine List.filter_eq_nil_iff.mpr fun row hrow => ?_
    rw [hall row hrow]
    exact Bool.false_ne_true

/-- An entry that is in the scope. -/
theorem eq_of_scope {row row' : TimelineRow} {b : Bool}
    (h : (if b then some row else none) = some row') : row' = row := by
  cases b with
  | true => exact (Option.some.inj h).symm
  | false => exact absurd h (by simp)

/-- The actions are the entries of the timeline that record one. -/
theorem actionRows_eq_filter (pg : AdminPostgres) (db : AdminDatabase)
    (scope : Option (List LeaId)) :
    actionRows db scope = (timelineRows pg db scope).filter (fun row => row.isAction) := by
  have haudit : (auditBranch db scope).filter (fun row => row.isAction) = [] := by
    refine filter_isAction false _ fun r row h => ?_
    dsimp only at h
    split at h
    · exact absurd h (by simp)
    · rw [eq_of_scope h]
      rfl
  have hsyncs : (syncsBranch pg db scope).filter (fun row => row.isAction) = [] :=
    filter_isAction false _ fun r row h => congrArg (fun row => row.isAction) (eq_of_scope h)
  have hreverts : (revertsBranch db scope).filter (fun row => row.isAction)
      = revertsBranch db scope := by
    refine filter_isAction true _ fun r row h => ?_
    dsimp only at h
    split at h
    · exact absurd h (by simp)
    · rw [eq_of_scope h]
      rfl
  have hretries : (retriesBranch db scope).filter (fun row => row.isAction)
      = retriesBranch db scope :=
    filter_isAction true _ fun r row h => congrArg (fun row => row.isAction) (eq_of_scope h)
  have hcreated : (quarantineCreatedBranch db scope).filter (fun row => row.isAction) = [] :=
    filter_isAction false _ fun r row h => congrArg (fun row => row.isAction) (eq_of_scope h)
  have hresolved : (quarantineResolvedBranch db scope).filter (fun row => row.isAction)
      = quarantineResolvedBranch db scope := by
    refine filter_isAction true _ fun r row h => ?_
    dsimp only at h
    split at h
    · exact absurd h (by simp)
    · rw [eq_of_scope h]
      rfl
  have hruns : (reconciliationsBranch pg db scope).filter (fun row => row.isAction) = [] :=
    filter_isAction false _ fun r row h => congrArg (fun row => row.isAction) (eq_of_scope h)
  rw [timelineRows, actionRows]
  simp only [List.filter_append, haudit, hsyncs, hreverts, hretries, hcreated, hresolved, hruns,
    List.nil_append, List.append_nil]

end Admin

variable {ids : AuditIds} {base : AdminDatabase}

/-- The actions of a run: those it began with, and what its calls owe. -/
theorem actionRows_run (pg : Postgres) (scope : Option (List LeaId)) (ops : List Op) {s : Store}
    (h : s.RevertsKnown) :
    (Admin.actionRows ((Runs.run (Store.exec pg) s ops).adminView ids base) scope).Perm
      (Admin.actionRows (s.adminView ids base) scope ++ shown scope (s.trail pg ids ops)) := by
  induction ops generalizing s with
  | nil => exact List.Perm.of_eq (List.append_nil _).symm
  | cons op ops ih =>
    have hrest := ih (h.exec pg op)
    rw [Store.trail, shown_append, ← List.append_assoc]
    exact hrest.trans ((actionRows_exec h op).append_right _)

theorem Store.trail_append (pg : Postgres) (ids : AuditIds) (s : Store) (ops ops' : List Op) :
    s.trail pg ids (ops ++ ops')
      = s.trail pg ids ops ++ (Runs.run (Store.exec pg) s ops).trail pg ids ops' := by
  induction ops generalizing s with
  | nil => rfl
  | cons op ops ih =>
    rw [List.cons_append, Store.trail, ih, Store.trail, List.append_assoc]
    rfl

/-- **The audit trail is exact.**  After every run of the services the timeline, in every
scope, has one entry for each retry, revert, release and reject that was accepted, with its
operator, its time and what it did, and records no other action of these kinds. -/
theorem audit_trail_exact (pg : AdminPostgres) (ids : AuditIds) (base : AdminDatabase)
    (ops : List Op) (scope : Option (List LeaId)) :
    let s := Runs.run (Store.exec pg.toPostgres) Store.empty ops
    ((timelineRows pg (s.adminView ids base) scope).filter (fun row => row.isAction)).Perm
      (shown scope (Store.empty.trail pg.toPostgres ids ops)) := by
  intro s
  rw [← Admin.actionRows_eq_filter]
  exact actionRows_run pg.toPostgres scope ops revertsKnown_empty
