/-
What an operator reads is what belongs to the granted LEAs.

`AdminDatabase.visible` keeps the rows of the LEAs an operator holds a grant for, the
operators those rows name, and the operator's own rows.  Every route but one computes the
same answer from it as from the whole database, so two databases with the same visible
part give the same answers.  The alerts feed evaluates every LEA.

* `route_visible` — the routes read the visible part;
* `operator_read_isolation` — which routes are isolated.
-/
import EdlinkRostering.AdminReads

namespace Admin

variable (db : AdminDatabase)

/-! ### The visible part -/

/-- An operator an audit row or an authorization of these LEAs names. -/
def actsOn (leas : List LeaId) (id : Uuid) : Bool :=
  ((Table.rows db.auditLog).any fun al =>
    al.2.operatorId = id && al.2.leaId.any leas.contains)
  || (Table.rows db.authorizations).any fun ca =>
    leas.contains ca.2.leaId && (ca.2.authorizedBy = some id || ca.2.revokedBy = some id)

/-- The rows that belong to the LEAs granted to an operator, and the operator's own. -/
def AdminDatabase.visible (subject : String) (me : Uuid) : AdminDatabase :=
  let granted := grantedLeas db me
  { leas := Table.restrict db.leas fun id _ => granted.contains id
    students := Table.restrict db.students fun _ row => granted.contains row.leaId
    enrollments := Table.restrict db.enrollments fun _ row => granted.contains row.leaId
    syncJobs := Table.restrict db.syncJobs fun _ row => granted.contains row.leaId
    quarantine := Table.restrict db.quarantine fun _ row => granted.contains row.leaId
    revertActions := Table.restrict db.revertActions fun _ row =>
      (db.syncJobs.lookup row.syncJobId).any fun job => granted.contains job.leaId
    retryActions := Table.restrict db.retryActions fun _ row => granted.contains row.leaId
    cursorState := Table.restrict db.cursorState fun key _ => granted.contains key.1
    authorizations := Table.restrict db.authorizations fun _ row => granted.contains row.leaId
    auditLog := Table.restrict db.auditLog fun _ row => row.leaId.any granted.contains
    reconciliationRuns := Table.restrict db.reconciliationRuns fun _ row =>
      granted.contains row.leaId
    operators := Table.restrict db.operators fun id row =>
      row.subject = subject || actsOn db granted id
    operatorRoles := Table.restrict db.operatorRoles fun _ row => row.operatorId = me
    operatorLeaGrants := Table.restrict db.operatorLeaGrants fun _ row => row.operatorId = me }

variable {db} {pg : AdminPostgres} {now : Instant} {subject : String} {me : Uuid}
  {leaId : LeaId} {scope : List LeaId}

/-! ### The operator's own rows -/

theorem ownRow_visible : ownRow (db.visible subject me) subject = ownRow db subject := by
  refine Table.find?_rows_restrict fun id row hrow => ?_
  simp only [Bool.or_eq_true]
  exact Or.inl hrow

theorem loadActiveRole_visible :
    loadActiveRole (db.visible subject me) me = loadActiveRole db me := by
  refine congrArg _ (Table.find?_rows_restrict fun id row hrow => ?_)
  exact (Bool.and_eq_true_iff.mp hrow).1

theorem grantedLeas_visible : grantedLeas (db.visible subject me) me = grantedLeas db me := by
  refine congrArg _ (Table.filter_rows_restrict fun id row hrow => ?_)
  exact (Bool.and_eq_true_iff.mp hrow).1

theorem lookup_leas_visible (h : leaId ∈ grantedLeas db me) :
    (db.visible subject me).leas.lookup leaId = db.leas.lookup leaId := by
  have hkept : (grantedLeas db me).contains leaId = true := List.contains_iff_mem.mpr h
  rw [show (db.visible subject me).leas
      = Table.restrict db.leas fun id _ => (grantedLeas db me).contains id from rfl,
    Table.lookup_restrict]
  cases db.leas.lookup leaId with
  | none => rfl
  | some row => exact if_pos hkept

theorem leaIsLive_visible (h : leaId ∈ grantedLeas db me) :
    leaIsLive (db.visible subject me) leaId = leaIsLive db leaId := by
  rw [leaIsLive, lookup_leas_visible h, leaIsLive]

theorem loadAuthorizedLeas_visible :
    loadAuthorizedLeas (db.visible subject me) .operator me
      = loadAuthorizedLeas db .operator me := by
  show (grantedLeas (db.visible subject me) me).filter (leaIsLive (db.visible subject me))
    = (grantedLeas db me).filter (leaIsLive db)
  rw [grantedLeas_visible]
  exact List.filter_congr fun leaId h => leaIsLive_visible h

/-- What it takes to be authenticated. -/
theorem currentOperator_eq_ok {claims : Claims} {op : Operator} :
    currentOperator db claims = .ok op ↔
      claims.sub ≠ "" ∧ (∃ row, ownRow db claims.sub = some (op.id, row) ∧ row.status = .active)
        ∧ loadActiveRole db op.id = some op.role
        ∧ op = { id := op.id, subject := claims.sub, email := claims.email
                 displayName := claims.name, role := op.role
                 authorizedLeas := loadAuthorizedLeas db op.role op.id } := by
  rw [currentOperator]
  constructor
  · intro h
    split at h
    · cases h
    · next hsub =>
      split at h
      · cases h
      · next id row hown =>
        split at h
        · cases h
        · next hactive =>
          split at h
          · cases h
          · next role hrole =>
            cases h
            exact ⟨hsub, ⟨row, hown, not_not.mp hactive⟩, hrole, rfl⟩
  · rintro ⟨hsub, ⟨row, hown, hactive⟩, hrole, hop⟩
    rw [if_neg hsub, hown]
    simp only [hactive, ne_eq, not_true_eq_false, if_false, hrole]
    exact congrArg _ hop.symm

/-- Databases with the same visible part load the same operator. -/
theorem currentOperator_of_visible {db' : AdminDatabase} {claims : Claims} {op : Operator}
    (h : currentOperator db claims = .ok op) (hrole : op.role = .operator)
    (hv : db.visible claims.sub op.id = db'.visible claims.sub op.id) :
    currentOperator db' claims = .ok op := by
  obtain ⟨hsub, ⟨row, hown, hactive⟩, hload, hop⟩ := currentOperator_eq_ok.mp h
  have hown' : ownRow (db.visible claims.sub op.id) claims.sub = ownRow db claims.sub :=
    ownRow_visible
  have hload' : loadActiveRole (db.visible claims.sub op.id) op.id = loadActiveRole db op.id :=
    loadActiveRole_visible
  have hleas' : loadAuthorizedLeas (db.visible claims.sub op.id) .operator op.id
      = loadAuthorizedLeas db .operator op.id := loadAuthorizedLeas_visible
  rw [hv] at hown' hload' hleas'
  refine currentOperator_eq_ok.mpr ⟨hsub, ⟨row, ?_, hactive⟩, ?_, ?_⟩
  · rw [← hown, ← hown', ownRow_visible]
  · rw [← hload, ← hload', loadActiveRole_visible]
  · have hleas : loadAuthorizedLeas db' op.role op.id = loadAuthorizedLeas db op.role op.id := by
      rw [hrole, ← hleas', loadAuthorizedLeas_visible]
    rw [hleas]
    exact hop

/-! ### The queries -/

/-- A scope that is part of the grants. -/
theorem granted_of_inScope (hscope : ∀ leaId ∈ scope, leaId ∈ grantedLeas db me)
    (h : inScope (some scope) leaId = true) : (grantedLeas db me).contains leaId = true :=
  List.contains_iff_mem.mpr (hscope leaId (List.contains_iff_mem.mp h))

theorem inScope_eq_false_of (hscope : ∀ leaId ∈ scope, leaId ∈ grantedLeas db me)
    (h : (grantedLeas db me).contains leaId = false) : inScope (some scope) leaId = false := by
  rw [← Bool.not_eq_true] at h ⊢
  exact fun hin => h (granted_of_inScope hscope hin)

theorem syncsOf_visible (h : (grantedLeas db me).contains leaId = true) :
    syncsOf (db.visible subject me) leaId = syncsOf db leaId := by
  refine Table.filter_rows_restrict fun id row hrow => ?_
  simp only [Bool.and_eq_true, decide_eq_true_eq] at hrow
  exact hrow.1 ▸ h

theorem leaSummary_visible (h : (grantedLeas db me).contains leaId = true)
    (l : LeaDirectoryRow) :
    leaSummary (db.visible subject me) now leaId l = leaSummary db now leaId l := by
  have hstudents : (Table.rows (db.visible subject me).students).countP (fun s =>
      s.2.leaId = leaId && s.2.deletedAt.isNone)
      = (Table.rows db.students).countP fun s => s.2.leaId = leaId && s.2.deletedAt.isNone := by
    refine Table.countP_rows_restrict fun id row hrow => ?_
    simp only [Bool.and_eq_true, decide_eq_true_eq] at hrow
    exact hrow.1 ▸ h
  have henrollments : (Table.rows (db.visible subject me).enrollments).countP (fun e =>
      e.2.leaId = leaId && e.2.deletedAt.isNone)
      = (Table.rows db.enrollments).countP fun e => e.2.leaId = leaId && e.2.deletedAt.isNone := by
    refine Table.countP_rows_restrict fun id row hrow => ?_
    simp only [Bool.and_eq_true, decide_eq_true_eq] at hrow
    exact hrow.1 ▸ h
  have hcursor : (Table.rows (db.visible subject me).cursorState).find? (fun c => c.1.1 = leaId)
      = (Table.rows db.cursorState).find? fun c => c.1.1 = leaId := by
    refine Table.find?_rows_restrict fun key row hrow => ?_
    simp only [decide_eq_true_eq] at hrow
    exact hrow ▸ h
  have hrunning : (Table.rows (db.visible subject me).syncJobs).countP (fun j =>
      j.2.leaId = leaId && j.2.status = .running)
      = (Table.rows db.syncJobs).countP fun j => j.2.leaId = leaId && j.2.status = .running := by
    refine Table.countP_rows_restrict fun id row hrow => ?_
    simp only [Bool.and_eq_true, decide_eq_true_eq] at hrow
    exact hrow.1 ▸ h
  rw [leaSummary, hstudents, henrollments, hcursor, hrunning, syncsOf_visible h]
  rfl

theorem listLeas_visible (hscope : ∀ leaId ∈ scope, leaId ∈ grantedLeas db me) :
    listLeas (db.visible subject me) pg now (some scope) = listLeas db pg now (some scope) := by
  have hrows : (Table.rows (db.visible subject me).leas).filter (fun l =>
      l.2.deletedAt.isNone && inScope (some scope) l.1)
      = (Table.rows db.leas).filter fun l => l.2.deletedAt.isNone && inScope (some scope) l.1 := by
    refine Table.filter_rows_restrict fun id row hrow => ?_
    exact granted_of_inScope hscope (Bool.and_eq_true_iff.mp hrow).2
  rw [listLeas, hrows, listLeas]
  refine List.map_congr_left fun l hl => ?_
  have hin := List.mem_filter.mp ((List.mem_insertionSort _).mp hl)
  exact leaSummary_visible (granted_of_inScope hscope (Bool.and_eq_true_iff.mp hin.2).2) l.2

theorem listCursors_visible (hscope : ∀ leaId ∈ scope, leaId ∈ grantedLeas db me)
    (lea : Option LeaId) :
    listCursors (db.visible subject me) pg now lea (some scope)
      = listCursors db pg now lea (some scope) := by
  have hrows : (Table.rows (db.visible subject me).cursorState).filter (fun c =>
      lea.all (fun leaId => c.1.1 = leaId) && inScope (some scope) c.1.1)
      = (Table.rows db.cursorState).filter fun c =>
        lea.all (fun leaId => c.1.1 = leaId) && inScope (some scope) c.1.1 := by
    refine Table.filter_rows_restrict fun key row hrow => ?_
    exact granted_of_inScope hscope (Bool.and_eq_true_iff.mp hrow).2
  rw [listCursors, hrows, listCursors]

theorem listUnresolved_visible (hscope : ∀ leaId ∈ scope, leaId ∈ grantedLeas db me)
    (lea : Option LeaId) (limit : Nat) :
    listUnresolved (db.visible subject me) lea (some scope) limit
      = listUnresolved db lea (some scope) limit := by
  have hrows : (Table.rows (db.visible subject me).quarantine).filter (fun q =>
      q.2.resolvedAt.isNone && lea.all (fun leaId => q.2.leaId = leaId)
        && inScope (some scope) q.2.leaId)
      = (Table.rows db.quarantine).filter fun q =>
        q.2.resolvedAt.isNone && lea.all (fun leaId => q.2.leaId = leaId)
          && inScope (some scope) q.2.leaId := by
    refine Table.filter_rows_restrict fun id row hrow => ?_
    exact granted_of_inScope hscope (Bool.and_eq_true_iff.mp hrow).2
  rw [listUnresolved, hrows, listUnresolved]

/-- An operator who acts on the granted LEAs is visible. -/
theorem emailOf_visible {id : Uuid} (h : actsOn db (grantedLeas db me) id = true) :
    emailOf (db.visible subject me) id = emailOf db id := by
  rw [emailOf, show (db.visible subject me).operators = Table.restrict db.operators
      fun id row => row.subject = subject || actsOn db (grantedLeas db me) id from rfl,
    Table.lookup_restrict, emailOf]
  cases db.operators.lookup id with
  | none => rfl
  | some row =>
    rw [Option.filter, if_pos]
    simp [h]

theorem connectorOut_visible {row : Uuid × Authorizations.AuthorizationRow}
    (hrow : row ∈ Table.rows db.authorizations)
    (h : (grantedLeas db me).contains row.2.leaId = true) :
    connectorOut (db.visible subject me) row = connectorOut db row := by
  have hactor : ∀ id, (row.2.authorizedBy = some id ∨ row.2.revokedBy = some id) →
      emailOf (db.visible subject me) id = emailOf db id := by
    intro id hid
    refine emailOf_visible ?_
    simp only [actsOn, Bool.or_eq_true, List.any_eq_true]
    exact Or.inr ⟨row, hrow, by simp [List.contains_iff_mem.mp h, hid]⟩
  have hauthorized : row.2.authorizedBy.bind (emailOf (db.visible subject me))
      = row.2.authorizedBy.bind (emailOf db) := by
    cases hby : row.2.authorizedBy with
    | none => rfl
    | some id => exact hactor id (Or.inl hby)
  have hrevoked : row.2.revokedBy.bind (emailOf (db.visible subject me))
      = row.2.revokedBy.bind (emailOf db) := by
    cases hby : row.2.revokedBy with
    | none => rfl
    | some id => exact hactor id (Or.inr hby)
  rw [connectorOut, lookup_leas_visible (List.contains_iff_mem.mp h), hauthorized, hrevoked,
    connectorOut]

theorem listAuthorizations_visible (hscope : ∀ leaId ∈ scope, leaId ∈ grantedLeas db me)
    (lea : Option LeaId) (includeRevoked : Bool) :
    listAuthorizations (db.visible subject me) pg (some scope) lea includeRevoked
      = listAuthorizations db pg (some scope) lea includeRevoked := by
  have hrows : (Table.rows (db.visible subject me).authorizations).filter (fun ca =>
      (includeRevoked || ca.2.revokedAt.isNone) && inScope (some scope) ca.2.leaId
        && lea.all (fun leaId => ca.2.leaId = leaId))
      = (Table.rows db.authorizations).filter fun ca =>
        (includeRevoked || ca.2.revokedAt.isNone) && inScope (some scope) ca.2.leaId
          && lea.all (fun leaId => ca.2.leaId = leaId) := by
    refine Table.filter_rows_restrict fun id row hrow => ?_
    simp only [Bool.and_eq_true] at hrow
    exact granted_of_inScope hscope hrow.1.2
  rw [listAuthorizations, hrows, listAuthorizations]
  refine congrArg _ (List.filterMap_congr fun row hrow => ?_)
  obtain ⟨hmem, hkept⟩ := List.mem_filter.mp hrow
  simp only [Bool.and_eq_true] at hkept
  exact connectorOut_visible hmem (granted_of_inScope hscope hkept.1.2)

theorem listSyncsForLea_visible (h : leaId ∈ grantedLeas db me) (partner : String) (limit : Nat) :
    listSyncsForLea (db.visible subject me) leaId partner limit
      = listSyncsForLea db leaId partner limit := by
  have hrows : (Table.rows (db.visible subject me).syncJobs).filter (fun j =>
      j.2.leaId = leaId && j.2.partner = partner)
      = (Table.rows db.syncJobs).filter fun j => j.2.leaId = leaId && j.2.partner = partner := by
    refine Table.filter_rows_restrict fun id row hrow => ?_
    simp only [Bool.and_eq_true, decide_eq_true_eq] at hrow
    exact List.contains_iff_mem.mpr (hrow.1 ▸ h)
  rw [listSyncsForLea, hrows, listSyncsForLea]

theorem listReconciliationRunsForLea_visible (h : leaId ∈ grantedLeas db me) (partner : String)
    (limit : Nat) :
    listReconciliationRunsForLea (db.visible subject me) leaId partner limit
      = listReconciliationRunsForLea db leaId partner limit := by
  have hrows : (Table.rows (db.visible subject me).reconciliationRuns).filter (fun r =>
      r.2.leaId = leaId && r.2.partner = partner)
      = (Table.rows db.reconciliationRuns).filter fun r =>
        r.2.leaId = leaId && r.2.partner = partner := by
    refine Table.filter_rows_restrict fun id row hrow => ?_
    simp only [Bool.and_eq_true, decide_eq_true_eq] at hrow
    exact List.contains_iff_mem.mpr (hrow.1 ▸ h)
  rw [listReconciliationRunsForLea, hrows, listReconciliationRunsForLea]

/-! ### The timeline -/

theorem lookup_syncJobs_visible (id : Uuid) :
    (db.visible subject me).syncJobs.lookup id
      = (db.syncJobs.lookup id).filter fun job => (grantedLeas db me).contains job.leaId :=
  Table.lookup_restrict id

section Timeline

variable (hscope : ∀ leaId ∈ scope, leaId ∈ grantedLeas db me)
include hscope

theorem auditBranch_visible :
    auditBranch (db.visible subject me) (some scope) = auditBranch db (some scope) := by
  refine (Table.filterMap_rows_restrict fun id al hout => ?_).trans
    (List.filterMap_congr fun row hrow => ?_)
  · cases hlea : al.leaId with
    | none => simp only [hlea]
    | some leaId =>
      rw [hlea] at hout
      simp only [hlea, inScope_eq_false_of hscope hout]
      rfl
  · obtain ⟨id, al⟩ := row
    cases hlea : al.leaId with
    | none => simp only [hlea]
    | some leaId =>
      simp only [hlea]
      by_cases hin : inScope (some scope) leaId = true
      · -- the row itself makes its operator visible
        have hkept := List.contains_iff_mem.mp (granted_of_inScope hscope hin)
        have hemail : emailOf (db.visible subject me) al.operatorId = emailOf db al.operatorId := by
          refine emailOf_visible ?_
          simp only [actsOn, Bool.or_eq_true, List.any_eq_true]
          exact Or.inl ⟨(id, al), hrow, by simp [hlea, hkept]⟩
        rw [hemail]
      · rw [if_neg hin, if_neg hin]

theorem syncsBranch_visible :
    syncsBranch pg (db.visible subject me) (some scope) = syncsBranch pg db (some scope) := by
  refine Table.filterMap_rows_restrict fun id sj hout => ?_
  simp only [inScope_eq_false_of hscope hout]
  rfl

theorem revertsBranch_visible :
    revertsBranch (db.visible subject me) (some scope) = revertsBranch db (some scope) := by
  refine (Table.filterMap_rows_restrict fun id ra hout => ?_).trans
    (List.filterMap_congr fun row _ => ?_)
  · cases hjob : db.syncJobs.lookup ra.syncJobId with
    | none => simp only [lookup_syncJobs_visible, hjob, Option.filter]
    | some job =>
      rw [hjob] at hout
      have hkept : (grantedLeas db me).contains job.leaId = false := hout
      simp only [lookup_syncJobs_visible, hjob, Option.filter, hkept, Bool.false_eq_true, if_false]
  · obtain ⟨id, ra⟩ := row
    simp only [lookup_syncJobs_visible]
    cases hjob : db.syncJobs.lookup ra.syncJobId with
    | none => simp only [Option.filter]
    | some job =>
      cases hkept : (grantedLeas db me).contains job.leaId with
      | false =>
        simp only [Option.filter, hkept, inScope_eq_false_of hscope hkept, Bool.false_eq_true,
          if_false]
      | true => simp only [Option.filter, hkept, if_true]

theorem retriesBranch_visible :
    retriesBranch (db.visible subject me) (some scope) = retriesBranch db (some scope) := by
  refine Table.filterMap_rows_restrict fun id rt hout => ?_
  simp only [inScope_eq_false_of hscope hout]
  rfl

theorem quarantineCreatedBranch_visible :
    quarantineCreatedBranch (db.visible subject me) (some scope)
      = quarantineCreatedBranch db (some scope) := by
  refine Table.filterMap_rows_restrict fun id q hout => ?_
  simp only [inScope_eq_false_of hscope hout]
  rfl

theorem quarantineResolvedBranch_visible :
    quarantineResolvedBranch (db.visible subject me) (some scope)
      = quarantineResolvedBranch db (some scope) := by
  refine Table.filterMap_rows_restrict fun id q hout => ?_
  cases hresolved : q.resolvedAt with
  | none => simp only [hresolved]
  | some resolvedAt =>
    simp only [hresolved, inScope_eq_false_of hscope hout]
    rfl

theorem reconciliationsBranch_visible :
    reconciliationsBranch pg (db.visible subject me) (some scope)
      = reconciliationsBranch pg db (some scope) := by
  refine Table.filterMap_rows_restrict fun id rr hout => ?_
  simp only [inScope_eq_false_of hscope hout]
  rfl

/-- The seven selects read the visible part. -/
theorem timelineRows_visible :
    timelineRows pg (db.visible subject me) (some scope) = timelineRows pg db (some scope) := by
  rw [timelineRows, auditBranch_visible hscope, syncsBranch_visible hscope,
    revertsBranch_visible hscope, retriesBranch_visible hscope,
    quarantineCreatedBranch_visible hscope, quarantineResolvedBranch_visible hscope,
    reconciliationsBranch_visible hscope, timelineRows]

end Timeline

theorem listTimeline_visible (hscope : ∀ leaId ∈ scope, leaId ∈ grantedLeas db me)
    {filt : TimelineFilter} (hfilt : filt.leaIds = some scope) :
    listTimeline pg (db.visible subject me) filt = listTimeline pg db filt := by
  rw [listTimeline, hfilt, timelineRows_visible hscope, listTimeline, hfilt]

/-! ### The routes -/

theorem Operator.scope_of_operator {op : Operator} (hrole : op.role = .operator) :
    op.scope = some op.authorizedLeas := if_pos hrole

theorem authorizedLeas_granted {claims : Claims} {op : Operator}
    (h : currentOperator db claims = .ok op) (hrole : op.role = .operator) :
    ∀ leaId ∈ op.authorizedLeas, leaId ∈ grantedLeas db op.id := by
  obtain ⟨-, -, -, hop⟩ := currentOperator_eq_ok.mp h
  intro leaId hmem
  rw [hop, hrole] at hmem
  exact (List.mem_filter.mp hmem).1

/-- A route below `/leas/{lea_id}` is entered for a granted LEA only. -/
theorem perLea_congr {op : Operator} {body body' : Response} (hrole : op.role = .operator)
    (h : leaId ∈ op.authorizedLeas → body = body') :
    perLea op leaId body = perLea op leaId body' := by
  by_cases hmem : leaId ∈ op.authorizedLeas
  · rw [h hmem]
  · have hproblem : leaScopeProblem op leaId = some
        { status := 403
          detail := "Operator is not authorized for LEA " ++ Json.reprStr leaId ++ "." } :=
      if_pos ⟨hrole, hmem⟩
    rw [perLea, hproblem, perLea, hproblem]

/-- **Every route but the alerts feed reads the visible part.** -/
theorem route_visible {op : Operator} (hrole : op.role = .operator)
    (hleas : ∀ leaId ∈ op.authorizedLeas, leaId ∈ grantedLeas db op.id) {request : Request}
    (hrequest : request ≠ .listActiveAlerts) :
    route (db.visible subject op.id) pg now op request = route db pg now op request := by
  have hscope := Operator.scope_of_operator hrole
  cases request with
  | listLeas => rw [route, fleetRoute, hscope, listLeas_visible hleas, route, fleetRoute, hscope]
  | listCursors lea =>
    rw [route, fleetRoute, hscope, listCursors_visible hleas, route, fleetRoute, hscope]
  | listQuarantine lea limit =>
    simp only [route, fleetRoute, hscope, listUnresolved_visible hleas]
  | listConnectors lea includeRevoked =>
    rw [route, hscope, listAuthorizations_visible hleas, route, hscope]
  | listAuditEntries filter cursorOccurredAt cursorId limit =>
    simp only [route, listAuditEntries, listTimeline_visible hleas, hscope]
  | listLeaTimeline leaId limit =>
    refine perLea_congr hrole fun hmem => ?_
    have hone : ∀ lea ∈ [leaId], lea ∈ grantedLeas db op.id := by
      intro lea hlea
      rw [List.mem_singleton.mp hlea]
      exact hleas leaId hmem
    simp only [listTimelineForLea, listTimeline_visible hone]
  | listReconciliationRuns leaId limit partner =>
    refine perLea_congr hrole fun hmem => ?_
    simp only [listReconciliationRunsForLea_visible (hleas leaId hmem)]
  | listSyncs leaId limit partner =>
    refine perLea_congr hrole fun hmem => ?_
    simp only [listSyncsForLea_visible (hleas leaId hmem)]
  | listActiveAlerts => exact absurd rfl hrequest

theorem respond_of_ok {claims : Claims} {op : Operator} (h : currentOperator db claims = .ok op)
    (request : Request) : respond db pg now claims request = route db pg now op request := by
  have hsatisfied : op.role.satisfies .auditor = true := by cases op.role <;> rfl
  have hrequire : requireProblem op .auditor = none := if_pos hsatisfied
  rw [respond, h]
  simp only [hrequire]

/-! ### Isolation -/

/-- A request is isolated when its answer to an operator depends on the visible part alone,
whatever the rest of the database holds. -/
def Isolated (pg : AdminPostgres) (now : Instant) (request : Request) : Prop :=
  ∀ (claims : Claims) (db db' : AdminDatabase) (op : Operator),
    currentOperator db claims = .ok op → op.role = .operator →
      db.visible claims.sub op.id = db'.visible claims.sub op.id →
        respond db pg now claims request = respond db' pg now claims request

/-- An operator without a grant. -/
def ungrantedDatabase : AdminDatabase where
  operators := AList.singleton "op-1"
    { subject := "qa-operator", displayName := "QA", email := "qa@edlink.test" }
  operatorRoles := AList.singleton "role-1" { operatorId := "op-1", role := .operator }

/-- The same with a run of another LEA that has just found drift. -/
def driftedElsewhere (now : Instant) : AdminDatabase :=
  { ungrantedDatabase with
    reconciliationRuns := AList.singleton "run-1"
      { leaId := "lea-other", partner := "edlink", startedAt := now, completedAt := some now
        status := .driftDetected, canonicalRootHash := "c0", partnerRootHash := some "p0" } }

def qaClaims : Claims where
  sub := "qa-operator"

def qaOperator : Operator where
  id := "op-1"
  subject := "qa-operator"
  email := ""
  displayName := ""
  role := .operator
  authorizedLeas := []

theorem visible_driftedElsewhere (now : Instant) :
    ungrantedDatabase.visible "qa-operator" "op-1"
      = (driftedElsewhere now).visible "qa-operator" "op-1" := rfl

/-- The feed names the other LEA. -/
theorem alerts_driftedElsewhere (pg : AdminPostgres) (now : Instant) :
    evaluateReconciliationDrift (driftedElsewhere now) pg now ≠ [] := by
  have hrecent : now ≤ now + windowHours * microsecondsPerHour := Nat.le_add_right _ _
  have hrows : Table.rows (driftedElsewhere now).reconciliationRuns
      = [("run-1", { leaId := "lea-other", partner := "edlink", startedAt := now
                     completedAt := some now, status := .driftDetected
                     canonicalRootHash := "c0", partnerRootHash := some "p0" })] := rfl
  simp [evaluateReconciliationDrift, hrows, hrecent, distinctOn]

theorem not_isolated_alerts (pg : AdminPostgres) (now : Instant) :
    ¬Isolated pg now .listActiveAlerts := by
  intro h
  have hop : currentOperator ungrantedDatabase qaClaims = .ok qaOperator := by rfl
  have hop' : currentOperator (driftedElsewhere now) qaClaims = .ok qaOperator := by rfl
  have hsame := h qaClaims ungrantedDatabase (driftedElsewhere now) qaOperator hop rfl
    (visible_driftedElsewhere now)
  rw [respond_of_ok hop, respond_of_ok hop'] at hsame
  have hquiet : route ungrantedDatabase pg now qaOperator .listActiveAlerts = .alerts [] := rfl
  have hother : route (driftedElsewhere now) pg now qaOperator .listActiveAlerts
      = .alerts (evaluateReconciliationDrift (driftedElsewhere now) pg now) := rfl
  rw [hquiet, hother] at hsame
  exact alerts_driftedElsewhere pg now (Response.alerts.inj hsame).symm

/-- **The alerts feed is the one route that is not isolated.** -/
theorem operator_read_isolation (pg : AdminPostgres) (now : Instant) (request : Request) :
    Isolated pg now request ↔ request ≠ .listActiveAlerts := by
  constructor
  · rintro h rfl
    exact not_isolated_alerts pg now h
  · intro hrequest claims db db' op hop hrole hvisible
    have hop' := currentOperator_of_visible hop hrole hvisible
    calc respond db pg now claims request
        = route db pg now op request := respond_of_ok hop request
      _ = route (db.visible claims.sub op.id) pg now op request :=
          (route_visible hrole (authorizedLeas_granted hop hrole) hrequest).symm
      _ = route (db'.visible claims.sub op.id) pg now op request := by rw [hvisible]
      _ = route db' pg now op request :=
          route_visible hrole (authorizedLeas_granted hop' hrole) hrequest
      _ = respond db' pg now claims request := (respond_of_ok hop' request).symm

/-- At noon an operator who is granted nothing reads of the drift of another LEA, though the
two databases agree on all the operator may see. -/
theorem alerts_show_other_leas :
    currentOperator ungrantedDatabase qaClaims = .ok qaOperator ∧ qaOperator.role = .operator
      ∧ ungrantedDatabase.visible qaClaims.sub qaOperator.id
        = (driftedElsewhere 43200000000).visible qaClaims.sub qaOperator.id
      ∧ respond ungrantedDatabase .reference 43200000000 qaClaims .listActiveAlerts = .alerts []
      ∧ respond (driftedElsewhere 43200000000) .reference 43200000000 qaClaims .listActiveAlerts
        ≠ .alerts [] := by
  refine ⟨rfl, rfl, rfl, ?_, ?_⟩ <;> decide +kernel

end Admin
