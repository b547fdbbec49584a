/-
The timeline while everybody goes on.

Beside the services, which may have any number of bulk loads at work, operators are created,
the audit log is written and reconciliations end.  What these leave of the timeline: an entry
stays what it is, but for the text that a reject rewrites, and for the job of a bulk load,
whose row is inserted first and completed by a later transaction.

* `AuditSystem.step` — one commit;
* `AuditSystem.Extends` — what commits leave of a state;
* `Restates` — an entry as a later state has it;
* `timelineRows_grow` — the timeline of a later state.
-/
import EdlinkRostering.TimelineFilters
import EdlinkRostering.AuditTrail
import EdlinkRostering.FailedJobs

open Admin (AdminDatabase AdminPostgres TimelineEntry TimelineRow OperatorRow
  ReconciliationRunRow timelineRows)
open Authorizations (AuditLogRow)

/-! ### Commits -/

/-- What the timeline is read from: the services, and the tables that others write. -/
structure AuditSystem where
  services : BulkSystem
  base : AdminDatabase

inductive AuditMove where
  /-- An operation of the services, or a stage of a bulk load. -/
  | service (move : BulkMove)
  | insertOperator (id : Uuid) (row : OperatorRow)
  | insertAuditLog (id : Uuid) (row : AuditLogRow)
  | insertReconciliationRun (id : Uuid) (row : ReconciliationRunRow)
  /-- A change of the LEAs, the roles, the grants or the authorizations. -/
  | administer (directory : AdminDatabase)

namespace AuditSystem

def start : AuditSystem where
  services := BulkSystem.start
  base := {}

/-- The tables of the admin API. -/
def view (ids : AuditIds) (c : AuditSystem) : AdminDatabase :=
  c.services.store.adminView ids c.base

/-- One commit.  An insert fails where its key is taken, and `audit_log.operator_id` is a
foreign key. -/
def step (pg : Postgres) (c : AuditSystem) : AuditMove → AuditSystem
  | .service move => { c with services := c.services.step pg move }
  | .insertOperator id row =>
    match c.base.operators.lookup id with
    | none => { c with base := { c.base with operators := c.base.operators.insert id row } }
    | some _ => c
  | .insertAuditLog id row =>
    match c.base.auditLog.lookup id, c.base.operators.lookup row.operatorId with
    | none, some _ => { c with base := { c.base with auditLog := c.base.auditLog.insert id row } }
    | _, _ => c
  | .insertReconciliationRun id row =>
    match c.base.reconciliationRuns.lookup id with
    | none => { c with base := { c.base with
        reconciliationRuns := c.base.reconciliationRuns.insert id row } }
    | some _ => c
  | .administer directory => { c with base := { directory with
      operators := c.base.operators, auditLog := c.base.auditLog
      reconciliationRuns := c.base.reconciliationRuns } }

end AuditSystem

/-! ### What operations leave -/

/-- What becomes of a quarantine row: it may be resolved, once. -/
structure QuarantineRow.Becomes (row row' : QuarantineRow) : Prop where
  origin : row'.syncJobId = row.syncJobId ∧ row'.leaId = row.leaId ∧
    row'.entityType = row.entityType ∧ row'.entityId = row.entityId ∧
    row'.createdAt = row.createdAt
  resolved : row.resolvedAt ≠ none → row' = row

theorem QuarantineRow.Becomes.refl (row : QuarantineRow) : row.Becomes row where
  origin := ⟨rfl, rfl, rfl, rfl, rfl⟩
  resolved _ := rfl

theorem QuarantineRow.Becomes.trans {a b c : QuarantineRow} (h : a.Becomes b) (h' : b.Becomes c) :
    a.Becomes c where
  origin := by
    obtain ⟨hjob, hlea, htype, hid, hat⟩ := h.origin
    obtain ⟨hjob', hlea', htype', hid', hat'⟩ := h'.origin
    exact ⟨hjob'.trans hjob, hlea'.trans hlea, htype'.trans htype, hid'.trans hid, hat'.trans hat⟩
  resolved ha := by
    obtain rfl := h.resolved ha
    exact h'.resolved ha

/-- The records of a state that a later one still has. -/
structure Store.Extends (s s' : Store) : Prop where
  reverts : s.revertActions <+: s'.revertActions
  retries : s.retryActions <+: s'.retryActions
  quarantine : ∀ (i : Nat) (row : QuarantineRow), s.quarantine[i]? = some row →
    ∃ row', s'.quarantine[i]? = some row' ∧ row.Becomes row'

namespace Store

theorem Extends.refl (s : Store) : s.Extends s where
  reverts := List.prefix_rfl
  retries := List.prefix_rfl
  quarantine _ row h := ⟨row, h, .refl row⟩

theorem Extends.trans {s₁ s₂ s₃ : Store} (h : s₁.Extends s₂) (h' : s₂.Extends s₃) :
    s₁.Extends s₃ where
  reverts := h.reverts.trans h'.reverts
  retries := h.retries.trans h'.retries
  quarantine i row hrow := by
    obtain ⟨row', hrow', hbecomes⟩ := h.quarantine i row hrow
    obtain ⟨row'', hrow'', hbecomes'⟩ := h'.quarantine i row' hrow'
    exact ⟨row'', hrow'', hbecomes.trans hbecomes'⟩

/-- A resolution, of a row that is not resolved. -/
theorem becomes_markResolved {s : Store} {q : Nat} {target : QuarantineRow}
    (htarget : s.quarantine[q]? = some target) (hunresolved : target.resolvedAt = none)
    (now : Instant) (status who : String) (reason : Option String) (i : Nat) (row : QuarantineRow)
    (hrow : s.quarantine[i]? = some row) :
    ∃ row', (s.markResolved q now status who reason).quarantine[i]? = some row' ∧
      row.Becomes row' := by
  by_cases hi : i = q
  · subst hi
    obtain rfl := Option.some.inj (hrow.symm.trans htarget)
    rw [markResolved, List.getElem?_modify_eq, hrow]
    exact ⟨_, rfl, ⟨rfl, rfl, rfl, rfl, rfl⟩, fun hne => absurd hunresolved hne⟩
  · refine ⟨row, ?_, .refl row⟩
    rw [markResolved, List.getElem?_modify_ne _ _ (Ne.symm hi), hrow]

/-- A bulk load records nothing here. -/
theorem extends_frame {s s' : Store} {run : BulkRun} (h : run.Frame s s') : s.Extends s' where
  reverts := h.revertActions ▸ List.prefix_rfl
  retries := h.retryActions ▸ List.prefix_rfl
  quarantine i row hrow := ⟨row, (congrArg (·[i]?) h.quarantine).trans hrow, .refl row⟩

/-- **An operation** leaves what was recorded. -/
theorem extends_exec (s : Store) (pg : Postgres) (op : Op) : s.Extends (s.exec pg op) := by
  rcases s.exec_cases pg op with he | he
  · rw [he]
    exact .refl s
  cases op with
  | page run =>
    refine ⟨he.revertActions ▸ List.prefix_rfl, he.retryActions ▸ List.prefix_rfl, ?_⟩
    intro i row hrow
    cases hb : run.blocked s with
    | true => exact ⟨row, by rw [(he.blocked hb).2.1, hrow], .refl row⟩
    | false =>
      have hlt := (List.getElem?_eq_some_iff.mp hrow).1
      exact ⟨row, by rw [he.quarantine hb, List.getElem?_append_left hlt, hrow], .refl row⟩
  | bulkLoad run => exact extends_frame (bulkLoad_frame pg run s)
  | revert run =>
    obtain ⟨outcome, hr⟩ := he
    obtain ⟨counts, -, hactions, -⟩ := hr.roster
    refine ⟨hactions ▸ List.prefix_append _ _, hr.retryActions ▸ List.prefix_rfl, ?_⟩
    intro i row hrow
    exact ⟨row, by rw [hr.quarantine, hrow], .refl row⟩
  | release run =>
    obtain ⟨target, _, _, _, _, _, htarget, hunresolved, -⟩ := he.released
    refine ⟨he.revertActions ▸ List.prefix_rfl, he.retryActions ▸ List.prefix_rfl, ?_⟩
    intro i row hrow
    rw [he.quarantine]
    exact becomes_markResolved htarget hunresolved _ _ _ _ i row hrow
  | reject run =>
    obtain ⟨target, htarget, hunresolved, hs'⟩ := he
    rw [hs']
    exact ⟨List.prefix_rfl, List.prefix_rfl, becomes_markResolved htarget hunresolved _ _ _ _⟩
  | retry run =>
    obtain ⟨target, -, -, hs'⟩ := he
    rw [hs']
    exact ⟨List.prefix_rfl, List.prefix_append _ _, fun i row hrow => ⟨row, hrow, .refl row⟩⟩

end Store

/-! ### What a bulk load does to its job -/

/-- An insert under a key that is free leaves the other rows. -/
theorem Table.lookup_insert_of_fresh {κ ρ : Type} [DecidableEq κ] {t : Table κ ρ} {id : κ}
    {row : ρ} (hfresh : t.lookup id = none) {id' : κ} {row' : ρ} (h : t.lookup id' = some row') :
    (t.insert id row).lookup id' = some row' := by
  have hne : id' ≠ id := by
    rintro rfl
    exact absurd (hfresh.symm.trans h) (by simp)
  rw [lookup_insert_eq, if_neg hne, h]

theorem keepsJobs_insertSyncJob {s s' : Store} {id : Uuid} {job : SyncJobRow}
    (hins : s.insertSyncJob id job = some s') : s.KeepsJobs s' := by
  obtain ⟨hfresh, rfl⟩ := Store.insertSyncJob_eq_some.mp hins
  intro id' row hrow
  exact ⟨row, Table.lookup_insert_of_fresh hfresh hrow, rfl⟩

/-- A later row of a job: the LEA and the start stay. -/
def SyncJobRow.Continues (row row' : SyncJobRow) : Prop :=
  row'.leaId = row.leaId ∧ row'.startedAt = row.startedAt

/-- What a transaction of a bulk load past its job row can do. -/
structure BulkRun.Proceeds (run : BulkRun) (s s' : Store) : Prop where
  frame : run.Frame s s'
  job : ∀ row, s.syncJobs.lookup run.syncJobId = some row →
    ∃ row', s'.syncJobs.lookup run.syncJobId = some row' ∧ row.Continues row'

namespace BulkRun.Proceeds

variable {run : BulkRun} {pg : Postgres} {s s' : Store}

theorem refl (s : Store) : run.Proceeds s s := ⟨.refl s, fun row hrow => ⟨row, hrow, rfl, rfl⟩⟩

/-- An update of the job that keeps its LEA and its start. -/
theorem updateSyncJob (s : Store) {f : SyncJobRow → SyncJobRow}
    (hf : ∀ row : SyncJobRow, row.Continues (f row)) :
    run.Proceeds s (s.updateSyncJob run.syncJobId f) where
  frame := .updateSyncJob s f
  job row hrow := ⟨f row, Store.lookup_updateSyncJob f hrow, hf row⟩

theorem stage {p p' : BulkProgress} {stage : BulkStage} (h : run.stage pg p stage = some p') :
    run.Proceeds p.store p'.store := by
  refine ⟨.stage h, fun row hrow => ?_⟩
  cases stage with
  | markSuccess =>
    rw [← Option.some.inj h]
    exact ⟨_, Store.lookup_updateSyncJob _ hrow, rfl, rfl⟩
  | students | enrollments =>
    simp only [BulkRun.stage, Option.bind_eq_bind, Option.bind_eq_some_iff] at h
    obtain ⟨_, -, h⟩ := h
    obtain rfl := Option.some.inj h
    exact ⟨row, hrow, rfl, rfl⟩
  | insertJob | partnerSnapshot | ensureLea | latestCursor | advanceCursor | markFailed =>
    obtain rfl := Option.some.inj h
    exact ⟨row, hrow, rfl, rfl⟩

theorem markFailed (run : BulkRun) (s : Store) : run.Proceeds s (run.markFailed s) := by
  rw [BulkRun.markFailed]
  split
  · exact refl s
  · exact updateSyncJob s fun row => ⟨rfl, rfl⟩

/-- The jobs stay. -/
theorem jobs (h : run.Proceeds s s') {id : Uuid} {row : SyncJobRow}
    (hrow : s.syncJobs.lookup id = some row) :
    ∃ row', s'.syncJobs.lookup id = some row' ∧ row.Continues row' ∧
      (id ≠ run.syncJobId → row' = row) := by
  by_cases hid : id = run.syncJobId
  · subst hid
    obtain ⟨row', hrow', hcontinues⟩ := h.job row hrow
    exact ⟨row', hrow', hcontinues, fun hne => absurd rfl hne⟩
  · exact ⟨row, (h.frame.syncJobs id hid).trans hrow, ⟨rfl, rfl⟩, fun _ => rfl⟩

theorem keepsJobs (h : run.Proceeds s s') : s.KeepsJobs s' := by
  intro id row hrow
  obtain ⟨row', hrow', ⟨hlea, -⟩, -⟩ := h.jobs hrow
  exact ⟨row', hrow', hlea⟩

end BulkRun.Proceeds

/-- A move of a bulk load: nothing, or a transaction of one that has stages left. -/
theorem Load.advance_proceeds (pg : Postgres) (load : Load) (s : Store)
    (h : load.rest <:+ bulkStages ∨ load.rest = [.markFailed]) :
    load.advance pg s = (s, load) ∨
      (load.rest ≠ [] ∧ (load.advance pg s).2.run = load.run ∧
        load.run.Proceeds s (load.advance pg s).1) := by
  rcases load.advance_cases pg s h with
    hidle | ⟨hne, hfails⟩ | ⟨stage, rest, p, hrest, -, hstage, hcommits⟩ | ⟨hmark, hends⟩
  · exact Or.inl hidle
  · rw [hfails]
    exact Or.inr ⟨hne, rfl, .refl s⟩
  · rw [hcommits]
    exact Or.inr ⟨by simp [hrest], rfl, .stage hstage⟩
  · rw [hends]
    exact Or.inr ⟨by simp [hmark], rfl, .markFailed load.run s⟩

namespace BulkSystem

/-- The jobs of the bulk loads that have stages left. -/
def inFlight (c : BulkSystem) : List Uuid :=
  (c.loads.filter fun load => load.rest ≠ []).map (·.run.syncJobId)

/-- What stays of the services: the records, and every job but those of bulk loads at work. -/
structure Extends (c c' : BulkSystem) : Prop where
  records : c.store.Extends c'.store
  jobs : ∀ id row, c.store.syncJobs.lookup id = some row →
    ∃ row', c'.store.syncJobs.lookup id = some row' ∧ row.Continues row' ∧
      (id ∉ c.inFlight → row' = row)
  /-- A bulk load that begins has a job of its own. -/
  begun : ∀ id ∈ c'.inFlight, id ∈ c.inFlight ∨ c.store.syncJobs.lookup id = none

namespace Extends

theorem refl (c : BulkSystem) : c.Extends c where
  records := .refl c.store
  jobs _ row hrow := ⟨row, hrow, ⟨rfl, rfl⟩, fun _ => rfl⟩
  begun _ hid := Or.inl hid

theorem trans {c₁ c₂ c₃ : BulkSystem} (h : c₁.Extends c₂) (h' : c₂.Extends c₃) :
    c₁.Extends c₃ where
  records := h.records.trans h'.records
  jobs id row hrow := by
    obtain ⟨row', hrow', hcontinues, hsame⟩ := h.jobs id row hrow
    obtain ⟨row'', hrow'', hcontinues', hsame'⟩ := h'.jobs id row' hrow'
    refine ⟨row'', hrow'', ?_, fun hid => ?_⟩
    · exact ⟨hcontinues'.1.trans hcontinues.1, hcontinues'.2.trans hcontinues.2⟩
    · -- a job that is there does not come to be of a load at work
      have hid' : id ∉ c₂.inFlight := by
        intro hmem
        rcases h.begun id hmem with hmem | hnone
        · exact hid hmem
        · exact Option.some_ne_none row (hrow.symm.trans hnone)
      rw [hsame' hid', hsame hid]
  begun id hid := by
    rcases h'.begun id hid with hid | hnone
    · exact h.begun id hid
    · right
      cases hrow : c₁.store.syncJobs.lookup id with
      | none => rfl
      | some row =>
        obtain ⟨row', hrow', -⟩ := h.jobs id row hrow
        exact absurd (hrow'.symm.trans hnone) (Option.some_ne_none row')

end Extends

/-- A load goes on, and no other begins. -/
theorem inFlight_set {c : BulkSystem} {i : Nat} {load load' : Load} (hi : c.loads[i]? = some load)
    (hne : load.rest ≠ []) (hrun : load'.run = load.run) {s : Store} {id : Uuid}
    (hid : id ∈ inFlight ⟨s, c.loads.set i load'⟩) : id ∈ c.inFlight := by
  obtain ⟨other, hother, rfl⟩ := List.mem_map.mp hid
  obtain ⟨hmem, hrest⟩ := List.mem_filter.mp hother
  rcases List.mem_or_eq_of_mem_set hmem with hmem | rfl
  · exact List.mem_map_of_mem (List.mem_filter.mpr ⟨hmem, hrest⟩)
  · rw [hrun]
    have hload : load ∈ c.loads.filter fun load => load.rest ≠ [] :=
      List.mem_filter.mpr ⟨List.mem_of_getElem? hi, decide_eq_true hne⟩
    exact List.mem_map_of_mem hload

/-- The job of a new load was not there. -/
theorem extends_startLoad {c : BulkSystem} {run : BulkRun} {s : Store}
    (hins : c.store.insertSyncJob run.syncJobId run.job = some s) :
    c.Extends ⟨s, c.loads ++ [{ run := run, rest := bulkStages }]⟩ := by
  obtain ⟨hfresh, rfl⟩ := Store.insertSyncJob_eq_some.mp hins
  refine ⟨⟨List.prefix_rfl, List.prefix_rfl, fun i row hrow => ⟨row, hrow, .refl row⟩⟩, ?_, ?_⟩
  · intro id row hrow
    exact ⟨row, Table.lookup_insert_of_fresh hfresh hrow, ⟨rfl, rfl⟩, fun _ => rfl⟩
  · intro id hid
    obtain ⟨load, hload, rfl⟩ := List.mem_map.mp hid
    obtain ⟨hmem, hrest⟩ := List.mem_filter.mp hload
    rcases List.mem_append.mp hmem with hmem | hmem
    · exact Or.inl (List.mem_map_of_mem (List.mem_filter.mpr ⟨hmem, hrest⟩))
    · rw [List.mem_singleton.mp hmem]
      exact Or.inr hfresh

/-- The step lemma of the services. -/
theorem extends_step {pg : Postgres} {c : BulkSystem} (h : c.Accounted) (move : BulkMove) :
    c.Extends (c.step pg move) := by
  cases move with
  | commit op single =>
    refine ⟨c.store.extends_exec pg op, fun id row hrow => ?_, fun id hid => Or.inl hid⟩
    exact ⟨row, c.store.lookup_exec pg op hrow, ⟨rfl, rfl⟩, fun _ => rfl⟩
  | startLoad run =>
    rw [step]
    split
    · exact .refl c
    · cases hins : c.store.insertSyncJob run.syncJobId run.job with
      | none => exact .refl c
      | some s => exact extends_startLoad hins
  | advanceLoad i =>
    rw [step]
    cases hi : c.loads[i]? with
    | none => exact .refl c
    | some load =>
      dsimp only
      have hrest := (h.loads load (List.mem_of_getElem? hi)).rest
      rcases load.advance_proceeds pg c.store hrest with hidle | ⟨hne, hrun, hproceeds⟩
      · obtain ⟨hlt, hget⟩ := List.getElem?_eq_some_iff.mp hi
        rw [hidle, ← hget, List.set_getElem_self hlt]
        exact .refl c
      · refine ⟨Store.extends_frame hproceeds.frame, fun id row hrow => ?_, fun id hid => ?_⟩
        · obtain ⟨row', hrow', hcontinues, hsame⟩ := hproceeds.jobs hrow
          refine ⟨row', hrow', hcontinues, fun hout => hsame ?_⟩
          -- the load is at work
          rintro rfl
          exact hout (List.mem_map_of_mem (List.mem_filter.mpr
            ⟨List.mem_of_getElem? hi, decide_eq_true hne⟩))
        · exact Or.inl (inFlight_set hi hne hrun hid)

end BulkSystem

/-! ### What commits leave -/

namespace AuditSystem

/-- What stays of a state. -/
structure Extends (c c' : AuditSystem) : Prop where
  services : c.services.Extends c'.services
  auditLog : ∀ id row, c.base.auditLog.lookup id = some row →
    c'.base.auditLog.lookup id = some row ∧
      Admin.emailOf c'.base row.operatorId = Admin.emailOf c.base row.operatorId
  reconciliationRuns : ∀ id row, c.base.reconciliationRuns.lookup id = some row →
    c'.base.reconciliationRuns.lookup id = some row

theorem Extends.refl (c : AuditSystem) : c.Extends c where
  services := .refl c.services
  auditLog _ _ hrow := ⟨hrow, rfl⟩
  reconciliationRuns _ _ hrow := hrow

theorem Extends.trans {c₁ c₂ c₃ : AuditSystem} (h : c₁.Extends c₂) (h' : c₂.Extends c₃) :
    c₁.Extends c₃ where
  services := h.services.trans h'.services
  auditLog id row hrow := by
    obtain ⟨hrow', hemail⟩ := h.auditLog id row hrow
    obtain ⟨hrow'', hemail'⟩ := h'.auditLog id row hrow'
    exact ⟨hrow'', hemail'.trans hemail⟩
  reconciliationRuns id row hrow := h'.reconciliationRuns id row (h.reconciliationRuns id row hrow)

/-- What holds in every state. -/
structure Sound (c : AuditSystem) : Prop where
  services : c.services.Accounted
  reverts : c.services.store.RevertsKnown
  /-- The foreign key of the audit log. -/
  operators : ∀ id row, c.base.auditLog.lookup id = some row →
    c.base.operators.lookup row.operatorId ≠ none

theorem sound_start : start.Sound where
  services := BulkSystem.Accounted.start
  reverts := revertsKnown_empty
  operators id row hrow := absurd hrow (by simp [start])

end AuditSystem

/-- The reverts of the services have their jobs. -/
theorem BulkSystem.revertsKnown_step {pg : Postgres} {c : BulkSystem} (h : c.Accounted)
    (hreverts : c.store.RevertsKnown) (move : BulkMove) :
    (c.step pg move).store.RevertsKnown := by
  cases move with
  | commit op single => exact hreverts.exec pg op
  | startLoad run =>
    rw [step]
    split
    · exact hreverts
    · cases hins : c.store.insertSyncJob run.syncJobId run.job with
      | none => exact hreverts
      | some s =>
        obtain ⟨-, rfl⟩ := Store.insertSyncJob_eq_some.mp hins
        exact hreverts.grow (keepsJobs_insertSyncJob hins) fun a ha => Or.inl ha
  | advanceLoad i =>
    rw [step]
    cases hi : c.loads[i]? with
    | none => exact hreverts
    | some load =>
      have hrest := (h.loads load (List.mem_of_getElem? hi)).rest
      show (load.advance pg c.store).1.RevertsKnown
      rcases load.advance_proceeds pg c.store hrest with hidle | ⟨-, -, hproceeds⟩
      · rw [hidle]
        exact hreverts
      · exact hreverts.grow hproceeds.keepsJobs fun a ha =>
          Or.inl (hproceeds.frame.revertActions ▸ ha)

namespace AuditSystem

variable {pg : Postgres} {c : AuditSystem}

/-- The step lemma: what is there stays. -/
theorem extends_step (h : c.Sound) (move : AuditMove) : c.Extends (c.step pg move) := by
  cases move with
  | service move =>
    exact ⟨BulkSystem.extends_step h.services move, fun _ _ hrow => ⟨hrow, rfl⟩,
      fun _ _ hrow => hrow⟩
  | insertOperator id row =>
    rw [step]
    cases hfresh : c.base.operators.lookup id with
    | some _ => exact .refl c
    | none =>
      refine ⟨.refl _, fun id' row' hrow => ⟨hrow, ?_⟩, fun _ _ hrow => hrow⟩
      -- the operators of the log are other ones
      obtain ⟨old, hold⟩ := Option.ne_none_iff_exists'.mp (h.operators id' row' hrow)
      show ((c.base.operators.insert id row).lookup row'.operatorId).map _ = _
      rw [Table.lookup_insert_of_fresh hfresh hold, Admin.emailOf, hold]
  | insertAuditLog id row =>
    rw [step]
    split
    · next hfresh _ =>
      exact ⟨.refl _, fun id' row' hrow => ⟨Table.lookup_insert_of_fresh hfresh hrow, rfl⟩,
        fun _ _ hrow => hrow⟩
    · exact .refl c
  | insertReconciliationRun id row =>
    rw [step]
    cases hfresh : c.base.reconciliationRuns.lookup id with
    | some _ => exact .refl c
    | none =>
      exact ⟨.refl _, fun _ _ hrow => ⟨hrow, rfl⟩,
        fun id' row' hrow => Table.lookup_insert_of_fresh hfresh hrow⟩
  | administer directory =>
    exact ⟨.refl _, fun _ _ hrow => ⟨hrow, rfl⟩, fun _ _ hrow => hrow⟩

theorem sound_step (h : c.Sound) (move : AuditMove) : (c.step pg move).Sound := by
  cases move with
  | service move =>
    exact ⟨BulkSystem.accounted_step h.services move,
      BulkSystem.revertsKnown_step h.services h.reverts move, h.operators⟩
  | insertOperator id row =>
    rw [step]
    cases hfresh : c.base.operators.lookup id with
    | some _ => exact h
    | none =>
      refine ⟨h.services, h.reverts, fun id' row' hrow => ?_⟩
      obtain ⟨old, hold⟩ := Option.ne_none_iff_exists'.mp (h.operators id' row' hrow)
      show (c.base.operators.insert id row).lookup row'.operatorId ≠ none
      rw [Table.lookup_insert_of_fresh hfresh hold]
      exact Option.some_ne_none old
  | insertAuditLog id row =>
    rw [step]
    split
    · next operator hfresh hoperator =>
      refine ⟨h.services, h.reverts, fun id' row' hrow => ?_⟩
      replace hrow : (c.base.auditLog.insert id row).lookup id' = some row' := hrow
      rw [Table.lookup_insert_eq] at hrow
      split at hrow
      · obtain rfl := Option.some.inj hrow
        show c.base.operators.lookup row.operatorId ≠ none
        rw [hoperator]
        exact Option.some_ne_none operator
      · exact h.operators id' row' hrow
    · exact h
  | insertReconciliationRun id row =>
    rw [step]
    cases c.base.reconciliationRuns.lookup id with
    | some _ => exact h
    | none => exact ⟨h.services, h.reverts, h.operators⟩
  | administer directory => exact ⟨h.services, h.reverts, h.operators⟩

theorem sound_run (h : c.Sound) (moves : List AuditMove) :
    (Runs.run (step pg) c moves).Sound :=
  Runs.run_invariant (I := Sound) (fun _ move hc => sound_step hc move) h moves

/-- The run lemma. -/
theorem extends_run (h : c.Sound) (moves : List AuditMove) :
    c.Extends (Runs.run (step pg) c moves) := by
  have hboth : (Runs.run (step pg) c moves).Sound ∧ c.Extends (Runs.run (step pg) c moves) := by
    refine Runs.run_invariant (I := fun c' => c'.Sound ∧ c.Extends c') ?_ ⟨h, .refl c⟩ moves
    intro c' move hc'
    exact ⟨sound_step hc'.1 move, hc'.2.trans (extends_step hc'.1 move)⟩
  exact hboth.2

end AuditSystem

/-! ### The entries of a later state -/

/-- The entry of a bulk load at work. -/
def Admin.TimelineEntry.AtWork (entry : TimelineEntry) (inFlight : List Uuid) : Prop :=
  entry.source = .syncJobs ∧ entry.id ∈ inFlight

/-- An entry as a later state has it: in its place, and unless it is of a bulk load that was at
work the same, perhaps with another reason. -/
structure Restates (inFlight : List Uuid) (row row' : TimelineRow) : Prop where
  cursor : row'.cursor = row.cursor
  same : ¬ row.AtWork inFlight → ∃ reason, row' = { row with reason := reason }

/-- The entries of a select, and those of the select on a later state. -/
structure RowsGrow (inFlight : List Uuid) (rows rows' : List TimelineRow) : Prop where
  restated : ∀ row ∈ rows, ∃ row' ∈ rows', Restates inFlight row row'
  ids : (rows.map fun row => row.id).Subperm (rows'.map fun row => row.id)

section

variable {inFlight : List Uuid}

theorem Restates.reason (row : TimelineRow) (reason : Option String) :
    Restates inFlight row { row with reason := reason } := ⟨rfl, fun _ => ⟨reason, rfl⟩⟩

theorem Restates.refl (row : TimelineRow) : Restates inFlight row row := .reason row row.reason

theorem RowsGrow.append {a a' b b' : List TimelineRow} (h : RowsGrow inFlight a a')
    (h' : RowsGrow inFlight b b') : RowsGrow inFlight (a ++ b) (a' ++ b') where
  restated row hrow := by
    rcases List.mem_append.mp hrow with hrow | hrow
    · obtain ⟨row', hrow', hsame⟩ := h.restated row hrow
      exact ⟨row', List.mem_append_left _ hrow', hsame⟩
    · obtain ⟨row', hrow', hsame⟩ := h'.restated row hrow
      exact ⟨row', List.mem_append_right _ hrow', hsame⟩
  ids := by
    rw [List.map_append, List.map_append]
    exact h.ids.append h'.ids

/-- A select whose ids are those of its table. -/
theorem rowsGrow_of_table {ρ : Type} {t t' : Table Uuid ρ} {f f' : Uuid × ρ → Option TimelineRow}
    {name : Uuid → String} (hname : Function.Injective name)
    (hid : ∀ id x row, f (id, x) = some row → row.id = name id)
    (h : ∀ id x row, (id, x) ∈ Table.rows t → f (id, x) = some row →
      ∃ x', (id, x') ∈ Table.rows t' ∧ ∃ row', f' (id, x') = some row' ∧
        Restates inFlight row row') :
    RowsGrow inFlight ((Table.rows t).filterMap f) ((Table.rows t').filterMap f') := by
  have hrestated : ∀ row ∈ (Table.rows t).filterMap f,
      ∃ row' ∈ (Table.rows t').filterMap f', Restates inFlight row row' := by
    intro row hrow
    obtain ⟨⟨id, x⟩, hx, hf⟩ := List.mem_filterMap.mp hrow
    obtain ⟨x', hx', row', hf', hsame⟩ := h id x row hx hf
    exact ⟨row', List.mem_filterMap.mpr ⟨_, hx', hf'⟩, hsame⟩
  refine ⟨hrestated, List.subperm_of_subset ?_ ?_⟩
  · have hkeys := (Table.keys_nodup t).map hname
    rw [List.map_map] at hkeys
    exact hkeys.sublist (Admin.ids_sublist hid)
  · intro id hmem
    obtain ⟨row, hrow, rfl⟩ := List.mem_map.mp hmem
    obtain ⟨row', hrow', hsame⟩ := hrestated row hrow
    rw [show row.id = row'.id from (congrArg Admin.AuditCursor.id hsame.cursor).symm]
    exact List.mem_map_of_mem hrow'

end

section

open Admin

variable {pg : AdminPostgres} {ids : AuditIds} {c c' : AuditSystem}

/-- The rows of an action table stay in it. -/
theorem mem_rows_of_isPrefix {ρ : Type} {name : Nat ↪ Uuid} {l l' : List ρ} (h : l <+: l')
    {id : Uuid} {x : ρ} (hx : (id, x) ∈ Table.rows (Table.ofRows name l)) :
    (id, x) ∈ Table.rows (Table.ofRows name l') := by
  rw [Table.mem_rows_ofRows] at hx ⊢
  obtain ⟨i, hi, hx⟩ := hx
  obtain ⟨rest, rfl⟩ := h
  exact ⟨i, hi, by rw [List.getElem?_append_left (List.getElem?_eq_some_iff.mp hx).1, hx]⟩

/-- The rows of the quarantine stay in it. -/
theorem mem_rows_of_becomes {s s' : Store} (h : s.Extends s') {id : Uuid} {row : QuarantineRow}
    (hrow : (id, row) ∈ Table.rows (Table.ofRows ids.quarantine s.quarantine)) :
    ∃ row', (id, row') ∈ Table.rows (Table.ofRows ids.quarantine s'.quarantine) ∧
      row.Becomes row' := by
  obtain ⟨i, hi, hrow⟩ := (Table.mem_rows_ofRows _).mp hrow
  obtain ⟨row', hrow', hbecomes⟩ := h.quarantine i row hrow
  exact ⟨row', (Table.mem_rows_ofRows _).mpr ⟨i, hi, hrow'⟩, hbecomes⟩

theorem auditBranch_grow (h : c.Extends c') (scope : Option (List LeaId)) :
    RowsGrow c.services.inFlight (auditBranch (c.view ids) scope)
      (auditBranch (c'.view ids) scope) := by
  refine rowsGrow_of_table Function.injective_id ?_ ?_
  · intro id al row hrow
    dsimp only at hrow
    split at hrow
    · exact absurd hrow (by simp)
    · exact congrArg (fun row => row.id) (eq_of_scope hrow)
  · intro id al row hmem hrow
    obtain ⟨hkept, hemail⟩ := h.auditLog id al (Table.mem_rows.mp hmem)
    refine ⟨al, Table.mem_rows.mpr hkept, row, ?_, .refl row⟩
    have hview : emailOf (c'.view ids) al.operatorId = emailOf (c.view ids) al.operatorId := hemail
    dsimp only at hrow ⊢
    rw [hview]
    exact hrow

theorem syncsBranch_grow (h : c.Extends c') (scope : Option (List LeaId)) :
    RowsGrow c.services.inFlight (syncsBranch pg (c.view ids) scope)
      (syncsBranch pg (c'.view ids) scope) := by
  refine rowsGrow_of_table Function.injective_id ?_ ?_
  · intro id sj row hrow
    exact congrArg (fun row => row.id) (eq_of_scope hrow)
  · intro id sj row hmem hrow
    obtain ⟨sj', hkept, ⟨hlea, hat⟩, hsame⟩ := h.services.jobs id sj (Table.mem_rows.mp hmem)
    refine ⟨sj', Table.mem_rows.mpr hkept, syncEntry pg id sj', ?_, ?_, fun hwork => ?_⟩
    · dsimp only at hrow ⊢
      rw [hlea]
      cases hscope : inScope scope sj.leaId with
      | true => rfl
      | false => simp [hscope] at hrow
    · rw [eq_of_scope hrow]
      show AuditCursor.mk sj'.startedAt id = AuditCursor.mk sj.startedAt id
      rw [hat]
    · -- the job of no load at work
      rw [eq_of_scope hrow] at hwork ⊢
      rw [hsame fun hid => hwork ⟨rfl, hid⟩]
      exact ⟨_, rfl⟩

theorem revertsBranch_grow (h : c.Extends c') (scope : Option (List LeaId)) :
    RowsGrow c.services.inFlight (revertsBranch (c.view ids) scope)
      (revertsBranch (c'.view ids) scope) := by
  refine rowsGrow_of_table Function.injective_id ?_ ?_
  · intro id ra row hrow
    dsimp only at hrow
    split at hrow
    · exact absurd hrow (by simp)
    · exact congrArg (fun row => row.id) (eq_of_scope hrow)
  · intro id ra row hmem hrow
    refine ⟨ra, mem_rows_of_isPrefix h.services.records.reverts hmem, row, ?_, .refl row⟩
    -- the job was there, and still is, with its LEA
    dsimp only [AuditSystem.view, Store.adminView] at hrow ⊢
    split at hrow
    · exact absurd hrow (by simp)
    · next target htarget =>
      obtain ⟨target', htarget', ⟨hlea, -⟩, -⟩ := h.services.jobs _ _ htarget
      rw [htarget']
      dsimp only
      rw [hlea]
      exact hrow

theorem retriesBranch_grow (h : c.Extends c') (scope : Option (List LeaId)) :
    RowsGrow c.services.inFlight (retriesBranch (c.view ids) scope)
      (retriesBranch (c'.view ids) scope) := by
  refine rowsGrow_of_table Function.injective_id ?_ ?_
  · intro id rt row hrow
    exact congrArg (fun row => row.id) (eq_of_scope hrow)
  · intro id rt row hmem hrow
    exact ⟨rt, mem_rows_of_isPrefix h.services.records.retries hmem, row, hrow, .refl row⟩

theorem quarantineCreatedBranch_grow (h : c.Extends c') (scope : Option (List LeaId)) :
    RowsGrow c.services.inFlight (quarantineCreatedBranch (c.view ids) scope)
      (quarantineCreatedBranch (c'.view ids) scope) := by
  refine rowsGrow_of_table (append_injective "#created") ?_ ?_
  · intro id q row hrow
    exact congrArg (fun row => row.id) (eq_of_scope hrow)
  · intro id q row hmem hrow
    obtain ⟨q', hq', hbecomes⟩ := mem_rows_of_becomes h.services.records hmem
    obtain ⟨hjob, hlea, htype, hid, hat⟩ := hbecomes.origin
    refine ⟨q', hq', { row with reason := some q'.reason }, ?_, .reason row _⟩
    dsimp only at hrow ⊢
    rw [eq_of_scope hrow, hjob, hlea, htype, hid, hat]
    cases hscope : inScope scope q.leaId with
    | true => rfl
    | false => simp [hscope] at hrow

theorem quarantineResolvedBranch_grow (h : c.Extends c') (scope : Option (List LeaId)) :
    RowsGrow c.services.inFlight (quarantineResolvedBranch (c.view ids) scope)
      (quarantineResolvedBranch (c'.view ids) scope) := by
  refine rowsGrow_of_table (append_injective "#resolved") ?_ ?_
  · intro id q row hrow
    dsimp only at hrow
    split at hrow
    · exact absurd hrow (by simp)
    · exact congrArg (fun row => row.id) (eq_of_scope hrow)
  · intro id q row hmem hrow
    obtain ⟨q', hq', hbecomes⟩ := mem_rows_of_becomes h.services.records hmem
    have hresolved : q.resolvedAt ≠ none := by
      intro hnone
      dsimp only at hrow
      rw [hnone] at hrow
      exact absurd hrow (by simp)
    obtain rfl := hbecomes.resolved hresolved
    exact ⟨q', hq', row, hrow, .refl row⟩

theorem reconciliationsBranch_grow (h : c.Extends c') (scope : Option (List LeaId)) :
    RowsGrow c.services.inFlight (reconciliationsBranch pg (c.view ids) scope)
      (reconciliationsBranch pg (c'.view ids) scope) := by
  refine rowsGrow_of_table Function.injective_id ?_ ?_
  · intro id rr row hrow
    exact congrArg (fun row => row.id) (eq_of_scope hrow)
  · intro id rr row hmem hrow
    have hkept := h.reconciliationRuns id rr (Table.mem_rows.mp hmem)
    exact ⟨rr, Table.mem_rows.mpr hkept, row, hrow, .refl row⟩

/-- **The timeline of a later state** has every entry in its place, and every one that is not of
a bulk load at work as it was, perhaps with another reason. -/
theorem timelineRows_grow (h : c.Extends c') (scope : Option (List LeaId)) :
    RowsGrow c.services.inFlight (timelineRows pg (c.view ids) scope)
      (timelineRows pg (c'.view ids) scope) :=
  ((((((auditBranch_grow h scope).append (syncsBranch_grow h scope)).append
    (revertsBranch_grow h scope)).append (retriesBranch_grow h scope)).append
      (quarantineCreatedBranch_grow h scope)).append (quarantineResolvedBranch_grow h scope)).append
        (reconciliationsBranch_grow h scope)

/-- Ids that are told apart later are told apart now. -/
theorem ids_nodup_of_extends {scope : Option (List LeaId)} (h : c.Extends c')
    (hids : ((timelineRows pg (c'.view ids) scope).map fun row => row.id).Nodup) :
    ((timelineRows pg (c.view ids) scope).map fun row => row.id).Nodup := by
  have hgrow : RowsGrow c.services.inFlight (timelineRows pg (c.view ids) scope)
      (timelineRows pg (c'.view ids) scope) := timelineRows_grow h scope
  obtain ⟨l, hperm, hsub⟩ := hgrow.ids
  exact hperm.nodup_iff.mp (hids.sublist hsub)

end
