/-
What the filters of the timeline select.

A request names LEAs, an operator, a prefix of the action and a window.  The query reads
the prefix as the front of a `LIKE` pattern, and it knows the operator of an audit row
only: a revert, a retry and a resolution carry the operator as a text, and the column
that the filter compares is `NULL` there.

* `TimelineFilter.selects` — the entries a request means;
* `timelineRows_eq_filter` — the scope of the seven selects is a filter of the union;
* `like_literal` — a prefix without `%`, `_` and backslash is read literally;
* `timeline_exact_iff` — when `list_timeline` returns what the request means.
-/
import EdlinkRostering.AuditPages

namespace Admin

open Authorizations (AuthorizationRow AuditLogRow)

variable (pg : AdminPostgres) (db : AdminDatabase)

/-! ### What a request means -/

/-- The LEA of an entry: the one of the row it was made from. -/
def TimelineRow.lea (row : TimelineRow) : Option LeaId :=
  match row.source with
  | .auditLog => (db.auditLog.lookup row.id).bind (·.leaId)
  | .syncJobs => (db.syncJobs.lookup row.id).map (·.leaId)
  | .revertActions =>
    (db.revertActions.lookup row.id).bind fun ra => (db.syncJobs.lookup ra.syncJobId).map (·.leaId)
  | .retryActions => (db.retryActions.lookup row.id).map (·.leaId)
  | .quarantineCreated | .quarantineResolved =>
    (db.quarantine.lookup row.targetId).map (·.leaId)
  | .reconciliationRuns => (db.reconciliationRuns.lookup row.id).map (·.leaId)

/-- The entry names the operator by subject, as the API writes `operator_identity` and
`resolution_operator`. -/
def TimelineRow.signedBy (row : TimelineRow) (operatorId : String) : Bool :=
  (db.operators.lookup operatorId).any fun op => row.actorEmail = some op.subject

/-- The entry records an action of the operator. -/
def TimelineRow.actedBy (row : TimelineRow) (operatorId : String) : Bool :=
  match row.source with
  | .auditLog => row.operatorId = some operatorId
  | .revertActions | .retryActions | .quarantineResolved => row.signedBy db operatorId
  | .syncJobs | .quarantineCreated | .reconciliationRuns => false

namespace TimelineFilter

variable (filt : TimelineFilter)

/-- The LEAs and the window of the request. -/
def covers (row : TimelineRow) : Bool :=
  filt.leaIds.all (fun leas => (row.lea db).any leas.contains)
    && filt.since.all (fun since => since ≤ row.occurredAt)
    && filt.till.all (fun till => row.occurredAt ≤ till)

/-- The action starts with the prefix. -/
def startsWithPrefix (row : TimelineRow) : Bool :=
  filt.actionPrefix.all fun pre => pre.toList.isPrefixOf row.action.toList

/-- The action matches the pattern that is made of the prefix. -/
def matchesPattern (row : TimelineRow) : Bool :=
  filt.actionPrefix.all fun pre => like (pre.toList ++ ['%']) row.action.toList

/-- **The entries a request means**, cursor and limit apart. -/
def selects (row : TimelineRow) : Bool :=
  filt.covers db row && filt.startsWithPrefix row && filt.operatorId.all (row.actedBy db)

/-- The column that the filter compares names the operator. -/
def namesOperator (row : TimelineRow) : Bool :=
  filt.operatorId.all fun operatorId => row.operatorId = some operatorId

/-- The query takes the entry for one it is not: the pattern and the prefix disagree on
its action, or it is a revert, a retry or a resolution of the operator. -/
def Misreads (row : TimelineRow) : Prop :=
  filt.covers db row = true ∧
    ((filt.namesOperator row = true ∧ filt.matchesPattern row ≠ filt.startsWithPrefix row) ∨
      (filt.namesOperator row = false ∧ filt.operatorId.all (row.actedBy db) = true ∧
        filt.startsWithPrefix row = true))

end TimelineFilter

/-- The union of all LEAs, newest first. -/
def wholeTimeline : List TimelineRow :=
  (timelineRows pg db none).insertionSort fun a b =>
    newestFirst pg a.toTimelineEntry b.toTimelineEntry

/-- **`list_timeline` is exact on the request**: the first `limit` entries it means. -/
def ListsExactly (filt : TimelineFilter) : Prop :=
  listTimeline pg db filt
    = (((wholeTimeline pg db).filter (filt.selects db)).map TimelineRow.toTimelineEntry).take
        filt.limit

/-! ### The scope -/

section

variable {pg db} {scope : Option (List LeaId)}

/-- A scoped select keeps the rows of the unscoped one whose LEA is in the scope. -/
theorem filterMap_rows_scope {ρ : Type} {t : Table Uuid ρ} {f g : Uuid × ρ → Option TimelineRow}
    (h : ∀ id x, t.lookup id = some x →
      f (id, x) = (g (id, x)).filter fun row => (row.lea db).any (inScope scope)) :
    (Table.rows t).filterMap f
      = ((Table.rows t).filterMap g).filter fun row => (row.lea db).any (inScope scope) := by
  rw [List.filter_filterMap]
  exact List.filterMap_congr fun r hr => h r.1 r.2 (Table.mem_rows.mp hr)

theorem filter_if_scope {row : TimelineRow} {leaId : LeaId} (h : row.lea db = some leaId) :
    (if inScope scope leaId then some row else none)
      = (if inScope none leaId then some row else none).filter
          fun row => (row.lea db).any (inScope scope) := by
  have hall : inScope none leaId = true := rfl
  rw [hall, if_pos rfl, Option.filter_some, h, Option.any_some]

/-- **The scope of the seven selects is a filter of the union.** -/
theorem timelineRows_eq_filter (pg : AdminPostgres) (db : AdminDatabase)
    (scope : Option (List LeaId)) : timelineRows pg db scope
      = (timelineRows pg db none).filter fun row => (row.lea db).any (inScope scope) := by
  have haudit : auditBranch db scope
      = (auditBranch db none).filter fun row => (row.lea db).any (inScope scope) := by
    refine filterMap_rows_scope fun id al hal => ?_
    cases hlea : al.leaId with
    | none => simp [hlea]
    | some leaId =>
      simp only [hlea]
      exact filter_if_scope (by simp [TimelineRow.lea, hal, hlea])
  have hreverts : revertsBranch db scope
      = (revertsBranch db none).filter fun row => (row.lea db).any (inScope scope) := by
    refine filterMap_rows_scope fun id ra hra => ?_
    cases hsj : db.syncJobs.lookup ra.syncJobId with
    | none => simp [hsj]
    | some sj =>
      simp only [hsj]
      exact filter_if_scope (by simp [TimelineRow.lea, hra, hsj])
  have hresolved : quarantineResolvedBranch db scope
      = (quarantineResolvedBranch db none).filter fun row => (row.lea db).any (inScope scope) := by
    refine filterMap_rows_scope fun id q hq => ?_
    cases hat : q.resolvedAt with
    | none => simp [hat]
    | some resolvedAt =>
      simp only [hat]
      exact filter_if_scope (by simp [TimelineRow.lea, hq])
  -- the other four selects read the LEA from the row itself
  have hsyncs : syncsBranch pg db scope
      = (syncsBranch pg db none).filter fun row => (row.lea db).any (inScope scope) :=
    filterMap_rows_scope fun id sj hsj =>
      filter_if_scope (by simp [TimelineRow.lea, syncEntry, hsj])
  have hretries : retriesBranch db scope
      = (retriesBranch db none).filter fun row => (row.lea db).any (inScope scope) :=
    filterMap_rows_scope fun id rt hrt => filter_if_scope (by simp [TimelineRow.lea, hrt])
  have hcreated : quarantineCreatedBranch db scope
      = (quarantineCreatedBranch db none).filter fun row => (row.lea db).any (inScope scope) :=
    filterMap_rows_scope fun id q hq => filter_if_scope (by simp [TimelineRow.lea, hq])
  have hruns : reconciliationsBranch pg db scope
      = (reconciliationsBranch pg db none).filter fun row => (row.lea db).any (inScope scope) :=
    filterMap_rows_scope fun id rr hrr => filter_if_scope (by simp [TimelineRow.lea, hrr])
  rw [timelineRows, haudit, hsyncs, hreverts, hretries, hcreated, hresolved, hruns, timelineRows]
  simp only [List.filter_append]

/-- The same, as the request writes its scope. -/
theorem timelineRows_scope (filt : TimelineFilter) : timelineRows pg db filt.leaIds
    = (timelineRows pg db none).filter
        fun row => filt.leaIds.all fun leas => (row.lea db).any leas.contains := by
  cases hleas : filt.leaIds with
  | none => simp
  | some leas =>
    rw [timelineRows_eq_filter pg db (some leas)]
    rfl

end

/-! ### The entries of the union -/

section

variable {pg db}

/-- A select gives every row of its table one id at most. -/
theorem ids_sublist {ρ : Type} {t : Table Uuid ρ} {f : Uuid × ρ → Option TimelineRow}
    {name : Uuid → String} (h : ∀ id x row, f (id, x) = some row → row.id = name id) :
    (((Table.rows t).filterMap f).map fun row => row.id).Sublist
      ((Table.rows t).map fun r => name r.1) := by
  induction Table.rows t with
  | nil => exact List.Sublist.slnil
  | cons r rows ih =>
    rw [List.filterMap_cons]
    split
    · exact ih.cons _
    · next row hrow =>
      rw [List.map_cons, List.map_cons, h r.1 r.2 row hrow]
      exact ih.cons_cons _

/-- A select of one source: no entry twice, and an operator id in audit rows only. -/
structure Select (source : TimelineSource) (rows : List TimelineRow) : Prop where
  nodup : (rows.map TimelineRow.toTimelineEntry).Nodup
  source_eq : ∀ row ∈ rows, row.source = source
  operatorId : ∀ row ∈ rows, row.operatorId ≠ none → source = .auditLog

theorem select_of_table {ρ : Type} {t : Table Uuid ρ} {f : Uuid × ρ → Option TimelineRow}
    {source : TimelineSource} {name : Uuid → String} (hname : Function.Injective name)
    (h : ∀ id x row, f (id, x) = some row →
      row.id = name id ∧ row.source = source ∧ (row.operatorId ≠ none → source = .auditLog)) :
    Select source ((Table.rows t).filterMap f) := by
  have hids : ((Table.rows t).map fun r => name r.1).Nodup := by
    have hkeys := (Table.keys_nodup t).map hname
    rwa [List.map_map] at hkeys
  refine ⟨?_, fun row hrow => ?_, fun row hrow => ?_⟩
  · refine List.Nodup.of_map TimelineEntry.id ?_
    rw [List.map_map]
    exact hids.sublist (ids_sublist fun id x row hrow => (h id x row hrow).1)
  · obtain ⟨r, -, hr⟩ := List.mem_filterMap.mp hrow
    exact (h r.1 r.2 row hr).2.1
  · obtain ⟨r, -, hr⟩ := List.mem_filterMap.mp hrow
    exact (h r.1 r.2 row hr).2.2

/-- The text of a uuid with a mark behind it. -/
theorem append_injective (mark : String) : Function.Injective fun id : Uuid => id ++ mark := by
  intro a b h
  have htext := congrArg String.toList h
  simp only [String.toList_append] at htext
  exact String.toList_injective (List.append_cancel_right htext)

theorem select_audit : Select .auditLog (auditBranch db none) := by
  refine select_of_table Function.injective_id fun id al row h => ?_
  dsimp only at h
  split at h
  · exact absurd h (by simp)
  · obtain rfl := Option.some.inj h
    exact ⟨rfl, rfl, fun _ => rfl⟩

theorem select_syncs : Select .syncJobs (syncsBranch pg db none) := by
  refine select_of_table Function.injective_id fun id sj row h => ?_
  obtain rfl := Option.some.inj h
  exact ⟨rfl, rfl, fun hne => absurd rfl hne⟩

theorem select_reverts : Select .revertActions (revertsBranch db none) := by
  refine select_of_table Function.injective_id fun id ra row h => ?_
  dsimp only at h
  split at h
  · exact absurd h (by simp)
  · obtain rfl := Option.some.inj h
    exact ⟨rfl, rfl, fun hne => absurd rfl hne⟩

theorem select_retries : Select .retryActions (retriesBranch db none) := by
  refine select_of_table Function.injective_id fun id rt row h => ?_
  obtain rfl := Option.some.inj h
  exact ⟨rfl, rfl, fun hne => absurd rfl hne⟩

theorem select_created : Select .quarantineCreated (quarantineCreatedBranch db none) := by
  refine select_of_table (append_injective "#created") fun id q row h => ?_
  obtain rfl := Option.some.inj h
  exact ⟨rfl, rfl, fun hne => absurd rfl hne⟩

theorem select_resolved : Select .quarantineResolved (quarantineResolvedBranch db none) := by
  refine select_of_table (append_injective "#resolved") fun id q row h => ?_
  dsimp only at h
  split at h
  · exact absurd h (by simp)
  · obtain rfl := Option.some.inj h
    exact ⟨rfl, rfl, fun hne => absurd rfl hne⟩

theorem select_runs : Select .reconciliationRuns (reconciliationsBranch pg db none) := by
  refine select_of_table Function.injective_id fun id rr row h => ?_
  obtain rfl := Option.some.inj h
  exact ⟨rfl, rfl, fun hne => absurd rfl hne⟩

/-- The rows of several sources, united. -/
structure United (sources : List TimelineSource) (rows : List TimelineRow) : Prop where
  nodup : (rows.map TimelineRow.toTimelineEntry).Nodup
  source_mem : ∀ row ∈ rows, row.source ∈ sources
  operatorId : ∀ row ∈ rows, row.operatorId ≠ none → row.source = .auditLog

theorem Select.united {source : TimelineSource} {rows : List TimelineRow}
    (h : Select source rows) : United [source] rows where
  nodup := h.nodup
  source_mem row hrow := List.mem_singleton.mpr (h.source_eq row hrow)
  operatorId row hrow hne := (h.source_eq row hrow).trans (h.operatorId row hrow hne)

/-- One more source. -/
theorem United.append {sources : List TimelineSource} {source : TimelineSource}
    {rows rows' : List TimelineRow} (h : United sources rows) (h' : Select source rows')
    (hnew : source ∉ sources) : United (sources ++ [source]) (rows ++ rows') where
  nodup := by
    rw [List.map_append]
    refine List.Nodup.append h.nodup h'.nodup fun entry hentry hentry' => hnew ?_
    obtain ⟨row, hrow, rfl⟩ := List.mem_map.mp hentry
    obtain ⟨row', hrow', heq⟩ := List.mem_map.mp hentry'
    have hsource : row'.source = row.source := congrArg TimelineEntry.source heq
    rw [← h'.source_eq row' hrow', hsource]
    exact h.source_mem row hrow
  source_mem row hrow := by
    rcases List.mem_append.mp hrow with hrow | hrow
    · exact List.mem_append_left _ (h.source_mem row hrow)
    · rw [h'.source_eq row hrow]
      exact List.mem_append_right _ List.mem_cons_self
  operatorId row hrow hne := by
    rcases List.mem_append.mp hrow with hrow | hrow
    · exact h.operatorId row hrow hne
    · exact (h'.source_eq row hrow).trans (h'.operatorId row hrow hne)

/-- **The union** holds no entry twice, and knows the operator of an audit row only. -/
theorem united_timelineRows (pg : AdminPostgres) (db : AdminDatabase) :
    ∃ sources, United sources (timelineRows pg db none) := by
  refine ⟨_, ((((((select_audit.united.append select_syncs ?_).append select_reverts ?_).append
    select_retries ?_).append select_created ?_).append select_resolved ?_).append select_runs ?_)⟩
  all_goals decide

end

/-! ### What the query does -/

section

variable {pg db} {filt : TimelineFilter}

/-- A prefix without `%`, `_` and backslash is read literally. -/
theorem like_literal {pre : List Char} (h : ∀ c ∈ pre, c ≠ '%' ∧ c ≠ '_' ∧ c ≠ '\\')
    (action : List Char) : like (pre ++ ['%']) action = pre.isPrefixOf action := by
  induction pre generalizing action with
  | nil =>
    show action.tails.any (like []) = true
    refine List.any_eq_true.mpr ⟨[], ?_, rfl⟩
    exact (List.mem_tails [] action).mpr (List.nil_suffix)
  | cons c pre ih =>
    obtain ⟨hpercent, hunderscore, hbackslash⟩ := h c List.mem_cons_self
    have hrest := ih fun d hd => h d (List.mem_cons_of_mem _ hd)
    cases action with
    | nil => simp [like, hbackslash]
    | cons d action =>
      have hhead : like (c :: (pre ++ ['%'])) (d :: action)
          = (decide (c = d) && like (pre ++ ['%']) action) := by
        simp [like, hbackslash]
      rw [List.cons_append, hhead, hrest, List.isPrefixOf_cons_cons, beq_eq_decide]

/-- What the query keeps of the union, when the request has no cursor. -/
def TimelineFilter.keeps (filt : TimelineFilter) (db : AdminDatabase) (row : TimelineRow) : Bool :=
  filt.covers db row && filt.matchesPattern row && filt.namesOperator row

theorem outerWhere_eq (hcursor : filt.cursorOccurredAt = none ∨ filt.cursorId = none)
    (row : TimelineRow) : (outerWhere pg filt row
        && filt.leaIds.all fun leas => (row.lea db).any leas.contains) = filt.keeps db row := by
  have hclause : cursorClause pg filt row.toTimelineEntry = true := by
    rw [cursorClause]
    rcases hcursor with h | h
    · rw [h]
    · rw [h]
      cases filt.cursorOccurredAt <;> rfl
  rw [outerWhere, hclause, Bool.and_true, Bool.eq_iff_iff]
  simp only [TimelineFilter.keeps, TimelineFilter.covers, TimelineFilter.matchesPattern,
    TimelineFilter.namesOperator, Bool.and_eq_true]
  tauto

/-- **`list_timeline` cuts a filter of the ordered union.** -/
theorem listTimeline_eq_keeps (horder : TextOrdered pg.toPostgres)
    (hcursor : filt.cursorOccurredAt = none ∨ filt.cursorId = none) :
    listTimeline pg db filt
      = (((wholeTimeline pg db).filter (filt.keeps db)).map TimelineRow.toTimelineEntry).take
          filt.limit := by
  let above : TimelineRow → TimelineRow → Prop :=
    fun a b => newestFirst pg a.toTimelineEntry b.toTimelineEntry
  have : Std.Total above := ⟨fun a b => newestFirst_total horder _ _⟩
  have : IsTrans TimelineRow above := ⟨fun _ _ _ => newestFirst_trans horder⟩
  have hkeeps : (fun row => outerWhere pg filt row
      && filt.leaIds.all fun leas => (row.lea db).any leas.contains) = filt.keeps db :=
    funext (outerWhere_eq hcursor)
  have hsort : ∀ rows : List TimelineRow, (rows.map TimelineRow.toTimelineEntry).insertionSort
      (newestFirst pg) = (rows.insertionSort above).map TimelineRow.toTimelineEntry :=
    fun rows => (List.map_insertionSort above (newestFirst pg) TimelineRow.toTimelineEntry rows
      fun _ _ _ _ => Iff.rfl).symm
  rw [listTimeline, timelineRows_scope, List.filter_filter, hkeeps, hsort, wholeTimeline,
    ← List.filter_insertionSort (r := above)]

/-- The query misreads exactly the entries that it keeps and should not, or should and
does not keep. -/
theorem misreads_iff {row : TimelineRow} (hrow : row ∈ timelineRows pg db none) :
    filt.Misreads db row ↔ filt.keeps db row ≠ filt.selects db row := by
  obtain ⟨_, hunited⟩ := united_timelineRows pg db
  have hacted : filt.namesOperator row = true → filt.operatorId.all (row.actedBy db) = true := by
    rw [TimelineFilter.namesOperator]
    cases hop : filt.operatorId with
    | none => simp
    | some operatorId =>
      intro hname
      have hcolumn : row.operatorId = some operatorId := by simpa using hname
      have hsource := hunited.operatorId row hrow (by rw [hcolumn]; simp)
      simp [TimelineRow.actedBy, hsource, hcolumn]
  rw [TimelineFilter.Misreads, TimelineFilter.keeps, TimelineFilter.selects]
  cases filt.covers db row <;> cases filt.matchesPattern row <;>
    cases filt.startsWithPrefix row <;> cases hname : filt.namesOperator row <;>
    cases hop : filt.operatorId.all (row.actedBy db) <;>
    simp_all

/-- A request without an operator and with a literal prefix is answered exactly, on every
database. -/
theorem listsExactly_of_literal (horder : TextOrdered pg.toPostgres)
    (hcursor : filt.cursorOccurredAt = none ∨ filt.cursorId = none) (hop : filt.operatorId = none)
    (hliteral : ∀ pre, filt.actionPrefix = some pre →
      ∀ c ∈ pre.toList, c ≠ '%' ∧ c ≠ '_' ∧ c ≠ '\\') : ListsExactly pg db filt := by
  have hprefix : ∀ row, filt.matchesPattern row = filt.startsWithPrefix row := by
    intro row
    rw [TimelineFilter.matchesPattern, TimelineFilter.startsWithPrefix]
    cases hpre : filt.actionPrefix with
    | none => rfl
    | some pre => exact like_literal (hliteral pre hpre) row.action.toList
  have hkeeps : filt.keeps db = filt.selects db := by
    funext row
    rw [TimelineFilter.keeps, TimelineFilter.selects, hprefix row, TimelineFilter.namesOperator,
      hop]
    rfl
  rw [ListsExactly, listTimeline_eq_keeps horder hcursor, hkeeps]

end

/-! ### The result -/

/-- **Timeline filters.**  Without a cursor the timeline is exact on a request exactly
when every entry the query misreads comes after `limit` entries that the request means. -/
theorem timeline_exact_iff (pg : AdminPostgres) (horder : TextOrdered pg.toPostgres)
    (db : AdminDatabase) (filt : TimelineFilter)
    (hcursor : filt.cursorOccurredAt = none ∨ filt.cursorId = none) :
    ListsExactly pg db filt ↔
      ∀ newer row older, wholeTimeline pg db = newer ++ row :: older → filt.Misreads db row →
        filt.limit ≤ (newer.filter (filt.selects db)).length := by
  have hperm : (wholeTimeline pg db).Perm (timelineRows pg db none) := List.perm_insertionSort _ _
  obtain ⟨_, hunited⟩ := united_timelineRows pg db
  have hnodup : ((wholeTimeline pg db).map TimelineRow.toTimelineEntry).Nodup :=
    (hperm.map _).nodup_iff.mpr hunited.nodup
  rw [ListsExactly, listTimeline_eq_keeps horder hcursor, List.take_map_filter_eq_iff hnodup]
  refine forall₄_congr fun newer row older hsplit => ?_
  have hmem : row ∈ timelineRows pg db none :=
    hperm.mem_iff.mp (hsplit ▸ List.mem_append_right _ List.mem_cons_self)
  rw [misreads_iff hmem]

/-! ### A wildcard and a revert -/

instance (filt : TimelineFilter) : Decidable (ListsExactly pg db filt) := by
  unfold ListsExactly
  infer_instance

instance (filt : TimelineFilter) (row : TimelineRow) : Decidable (filt.Misreads db row) := by
  unfold TimelineFilter.Misreads
  infer_instance

/-- The jobs at noon, the first of them reverted by the operator. -/
def revertedDatabase : AdminDatabase :=
  { tiedDatabase with
    operators := AList.singleton "op-1"
      { subject := "qa", displayName := "QA", email := "qa@edlink.test" }
    revertActions := AList.singleton "revert-1"
      { syncJobId := "job-1", revertGenerationId := "job-3", operatorIdentity := "qa"
        reason := "bad roster", revertedAt := 43202000000, snapshotsRestored := 0 } }

theorem timeline_exact_sync :
    ListsExactly .reference revertedDatabase { actionPrefix := some "sync." } := by
  refine (timeline_exact_iff .reference textOrdered_reference revertedDatabase
    { actionPrefix := some "sync." } (Or.inl rfl)).mpr ?_
  intro newer row older hsplit hmisreads
  have hnone : ∀ row ∈ wholeTimeline .reference revertedDatabase,
      ¬ TimelineFilter.Misreads revertedDatabase { actionPrefix := some "sync." } row := by
    decide +kernel
  exact absurd hmisreads (hnone row (hsplit ▸ List.mem_append_right _ List.mem_cons_self))

/-- `sync_` is answered with the jobs, whose actions do not start so, and the operator's
revert is no answer to a request for the operator. -/
theorem timeline_misread :
    ¬ ListsExactly .reference revertedDatabase { actionPrefix := some "sync_" } ∧
    ¬ ListsExactly .reference revertedDatabase { operatorId := some "op-1" } := by
  constructor <;> decide +kernel

end Admin
