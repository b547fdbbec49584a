/-
The cursor and its audit trail.

Three services move a cursor: a page commits its `cursor_after`, a bulk load the latest
one, and a retry rewinds to the `cursor_before` of its job.  Each leaves a row that says
so.  A bulk load moves the cursor and marks its job in two transactions, so one that stops
between them moves it and leaves no word of it.

* `Store.cursorTrail` — the rows a run of operations leaves about one cursor;
* `bulkLoad_cursor_of_marks` — a bulk load that does not stop there;
* `cursor_replays` — the rows, in the order of their commits, replay to the cursor.
-/
import EdlinkRostering.SyncDetail
import EdlinkRostering.Polls

/-- A row of the trail: a page job, a bulk load job or a retry action. -/
inductive CursorRecord where
  | page (id : Uuid)
  | bulk (id : Uuid)
  | retry (index : Nat)
deriving DecidableEq

namespace CursorRecord

/-- Where the row stands: a job by its id, a retry action by its position. -/
def row : CursorRecord → Uuid ⊕ Nat
  | .page id | .bulk id => .inl id
  | .retry index => .inr index

/-- What the row says of the cursor that stood at `value` before it. -/
def apply (s : Store) (value : String) : CursorRecord → String
  | .page id | .bulk id =>
    match s.syncJobs.lookup id with
    | none => value
    | some job => if job.status = .success then job.cursorAfter.getD "" else value
  | .retry index =>
    match s.retryActions[index]? with
    | none => value
    | some action => action.cursorRewoundTo.getD ""

/-- The cursor after the rows. -/
def replay (s : Store) (records : List CursorRecord) : String := records.foldl (apply s) ""

end CursorRecord

/-! ### What the operations leave in the trail -/

/-- The bulk load commits its job row. -/
def BulkRun.inserts (run : BulkRun) (s : Store) : Bool :=
  !run.raises .insertJob && (s.syncJobs.lookup run.syncJobId).isNone

/-- The row the operation leaves about the cursor of the pair, if any: the job of a page of
the pair that is committed, the job of a bulk load of the pair that is begun, the action of a
retry that is accepted for a job of the pair. -/
def Store.cursorRecords (pg : Postgres) (pair : LeaId × String) (s : Store) :
    Op → List CursorRecord
  | .page run =>
    if (processOnePage pg run s).isSome ∧ (run.leaId, run.partner) = pair
    then [.page run.syncJobId] else []
  | .bulkLoad run =>
    if run.inserts s ∧ (run.leaId, run.partner) = pair then [.bulk run.syncJobId] else []
  | .retry run =>
    match retry run s with
    | .ok (_, outcome) =>
      if (outcome.leaId, outcome.partner) = pair then [.retry s.retryActions.length] else []
    | .error _ => []
  | .revert _ | .release _ | .reject _ => []

/-- The rows a run leaves about the cursor of the pair, in the order of its operations. -/
def Store.cursorTrail (pg : Postgres) (pair : LeaId × String) : Store → List Op → List CursorRecord
  | _, [] => []
  | s, op :: ops => s.cursorRecords pg pair op ++ cursorTrail pg pair (s.exec pg op) ops

theorem Store.cursorTrail_append (pg : Postgres) (pair : LeaId × String) (s : Store)
    (ops ops' : List Op) : s.cursorTrail pg pair (ops ++ ops')
      = s.cursorTrail pg pair ops
        ++ (Runs.run (Store.exec pg) s ops).cursorTrail pg pair ops' := by
  induction ops generalizing s with
  | nil => rfl
  | cons op ops ih =>
    rw [List.cons_append, cursorTrail, cursorTrail, ih, Runs.run_cons, List.append_assoc]

/-! ### Bulk loads -/

section

variable {pg : Postgres} {run : BulkRun}

theorem runStages_append (stages stages' : List BulkStage) (p : BulkProgress) :
    runStages pg run (stages ++ stages') p
      = if (runStages pg run stages p).2 then runStages pg run stages' (runStages pg run stages p).1
        else runStages pg run stages p := by
  induction stages generalizing p with
  | nil => rfl
  | cons stage stages ih =>
    rw [List.cons_append, runStages, runStages]
    split
    · rfl
    split
    · rfl
    · exact ih _

theorem runStages_keeps {P : BulkProgress → Prop} (stages : List BulkStage)
    (hstep : ∀ stage ∈ stages, ∀ p p', P p → run.stage pg p stage = some p' → P p')
    {p : BulkProgress} (hp : P p) : P (runStages pg run stages p).1 := by
  induction stages generalizing p with
  | nil => exact hp
  | cons stage stages ih =>
    rw [runStages]
    split
    · exact hp
    split
    · exact hp
    next p' hp' =>
    exact ih (fun stage' h => hstep stage' (List.mem_cons_of_mem _ h))
      (hstep stage List.mem_cons_self p p' hp hp')

/-- The job of a bulk load and the cursor agree. -/
structure BulkRun.Consistent (run : BulkRun) (s s' : Store) (job : SyncJobRow) : Prop where
  leaId : job.leaId = run.leaId
  partner : job.partner = run.partner
  before : job.cursorBefore = some ""
  kind : job.status ≠ .revert ∧ job.status ≠ .quarantineRelease
  cursor : (job.status ≠ .success ∧ s'.cursorState = s.cursorState) ∨
    (job.status = .success ∧ job.cursorAfter = some run.latest.value ∧
      s'.cursorState = (run.advanceCursor s).cursorState)

/-- The job as `_mark_sync_job_failed` leaves it. -/
def BulkRun.failedJob (run : BulkRun) : SyncJobRow :=
  { run.job with
    status := .failed, completedAt := some (run.clock .markFailed)
    errorSummary := some ("bulk_load_failed: " ++ run.error) }

/-- The job as `_mark_sync_job_success` leaves it. -/
def BulkRun.loadedJob (run : BulkRun) (written : Nat) : SyncJobRow :=
  { run.job with
    status := .success, completedAt := some (run.clock .markSuccess), eventCount := written
    cursorAfter := some run.latest.value }

/-- A bulk load that failed before it moved the cursor. -/
theorem markFailed_consistent {s s' : Store} (hcursor : s'.cursorState = s.cursorState)
    (hjob : s'.syncJobs.lookup run.syncJobId = some run.job) :
    ∃ job, (run.markFailed s').syncJobs.lookup run.syncJobId = some job ∧
      run.Consistent s (run.markFailed s') job := by
  rw [BulkRun.markFailed]
  split
  · exact ⟨run.job, hjob, rfl, rfl, rfl, by simp [BulkRun.job],
      Or.inl ⟨by simp [BulkRun.job], hcursor⟩⟩
  · refine ⟨run.failedJob, ?_, rfl, rfl, rfl, by simp [BulkRun.failedJob],
      Or.inl ⟨by simp [BulkRun.failedJob], hcursor⟩⟩
    rw [Store.updateSyncJob, Table.lookup_modify, if_pos rfl, hjob, Option.map_some]
    rfl

/-- The stages before the cursor. -/
def loadStages : List BulkStage :=
  [.partnerSnapshot, .ensureLea, .students, .enrollments, .latestCursor]

/-- A bulk load whose job is not inserted leaves the database as it was. -/
theorem bulkLoad_of_not_inserts (pg : Postgres) {s : Store} (h : run.inserts s = false) :
    (bulkLoad pg run s).1 = s := by
  rw [bulkLoad]
  split
  · rfl
  next hraises =>
  split
  · rfl
  next s₀ hins =>
  obtain ⟨hfresh, -⟩ := Store.insertSyncJob_eq_some.mp hins
  rw [BulkRun.inserts, hfresh, Bool.eq_false_iff.mpr hraises] at h
  exact absurd h (by simp)

/-- A bulk load that does not stop between the cursor and the mark of its job. -/
theorem bulkLoad_cursor_of_marks (pg : Postgres) {s : Store} (h : run.inserts s = true)
    (hmark : run.raises .markSuccess = false) :
    s.syncJobs.lookup run.syncJobId = none ∧
      ∃ job, (bulkLoad pg run s).1.syncJobs.lookup run.syncJobId = some job ∧
        run.Consistent s (bulkLoad pg run s).1 job := by
  rw [BulkRun.inserts, Bool.and_eq_true, Bool.not_eq_true', Option.isNone_iff_eq_none] at h
  obtain ⟨hraises, hfresh⟩ := h
  refine ⟨hfresh, ?_⟩
  rw [bulkLoad, hraises, if_neg (by simp), Store.insertSyncJob_eq_some.mpr ⟨hfresh, rfl⟩]
  simp only
  generalize hstart : ({ store := { s with syncJobs := s.syncJobs.insert run.syncJobId run.job } }
    : BulkProgress) = start
  -- the stages up to the latest cursor write to the roster alone
  let P : BulkProgress → Prop := fun p => p.store.cursorState = s.cursorState ∧
    p.store.syncJobs.lookup run.syncJobId = some run.job
  have hloaded : P (runStages pg run loadStages start).1 := by
    refine runStages_keeps loadStages ?_ ?_
    · intro stage hstage p p' hp h
      simp only [loadStages, List.mem_cons, List.not_mem_nil, or_false] at hstage
      rcases hstage with rfl | rfl | rfl | rfl | rfl
      · rw [← Option.some.inj h]
        exact hp
      · rw [← Option.some.inj h]
        exact hp
      · simp only [BulkRun.stage, Option.bind_eq_bind, Option.bind_eq_some_iff] at h
        obtain ⟨_, -, h⟩ := h
        rw [← Option.some.inj h]
        exact hp
      · simp only [BulkRun.stage, Option.bind_eq_bind, Option.bind_eq_some_iff] at h
        obtain ⟨_, -, h⟩ := h
        rw [← Option.some.inj h]
        exact hp
      · rw [← Option.some.inj h]
        exact hp
    · rw [← hstart]
      refine ⟨rfl, ?_⟩
      rw [Table.lookup_insert_eq, if_pos rfl]
  rw [show bulkStages = loadStages ++ [.advanceCursor, .markSuccess] from rfl, runStages_append]
  generalize runStages pg run loadStages start = result at hloaded ⊢
  obtain ⟨p, loaded⟩ := result
  obtain ⟨hcursor, hjob⟩ := hloaded
  cases loaded with
  | false => exact markFailed_consistent hcursor hjob
  | true =>
    rw [if_pos rfl]
    cases hadvance : run.raises .advanceCursor with
    | true =>
      have hstop : runStages pg run [.advanceCursor, .markSuccess] p = (p, false) := by
        rw [runStages, if_pos hadvance]
      rw [hstop]
      exact markFailed_consistent hcursor hjob
    | false =>
      simp only [runStages, hadvance, hmark, Bool.false_eq_true, if_false, BulkRun.stage]
      refine ⟨run.loadedJob (p.students + p.enrollments), ?_, rfl, rfl, rfl,
        by simp [BulkRun.loadedJob], Or.inr ⟨rfl, rfl, ?_⟩⟩
      · have hlookup : (run.advanceCursor p.store).syncJobs.lookup run.syncJobId = some run.job :=
          hjob
        rw [Store.updateSyncJob, Table.lookup_modify, if_pos rfl, hlookup, Option.map_some]
        rfl
      · show (run.advanceCursor p.store).cursorState = _
        rw [BulkRun.advanceCursor, hcursor, BulkRun.advanceCursor]

end

/-! ### The trail of a pair -/

/-- The job belongs to the trail of the pair: it is no revert and no release. -/
def SyncJobRow.Moves (pair : LeaId × String) (job : SyncJobRow) : Prop :=
  (job.leaId, job.partner) = pair ∧ job.status ≠ .revert ∧ job.status ≠ .quarantineRelease

/-- The rows are those of the pair, each once, in an order in which they account for the
cursor and for the cursor each page started from. -/
structure Store.HasTrail (s : Store) (pair : LeaId × String) (records : List CursorRecord) :
    Prop where
  nodup : (records.map CursorRecord.row).Nodup
  jobs : ∀ id, CursorRecord.page id ∈ records ∨ CursorRecord.bulk id ∈ records ↔
    ∃ job, s.syncJobs.lookup id = some job ∧ job.Moves pair
  retries : ∀ i, CursorRecord.retry i ∈ records ↔
    ∃ action, s.retryActions[i]? = some action ∧ (action.leaId, action.partner) = pair
  cursor : (s.readCursor pair.1 pair.2).value = CursorRecord.replay s records
  pages : ∀ before id after, records = before ++ .page id :: after → ∃ job,
    s.syncJobs.lookup id = some job ∧ job.cursorBefore = some (CursorRecord.replay s before)
  loads : ∀ id, CursorRecord.bulk id ∈ records → ∃ job, s.syncJobs.lookup id = some job ∧
    job.cursorBefore = some ""

/-- The rows of the first state stand in the second. -/
structure Store.KeepsTrail (s s' : Store) : Prop where
  jobs : ∀ id job, s.syncJobs.lookup id = some job → s'.syncJobs.lookup id = some job
  retries : s.retryActions <+: s'.retryActions

section

variable {s s' : Store} {pair : LeaId × String} {records : List CursorRecord}

/-- The trail reads the same where its rows stand. -/
theorem Store.HasTrail.replay_eq (h : s.HasTrail pair records) (hkept : s.KeepsTrail s')
    {before : List CursorRecord} (hbefore : before ⊆ records) :
    CursorRecord.replay s' before = CursorRecord.replay s before := by
  refine List.foldl_ext _ _ _ fun value record hrecord => ?_
  have hjob : ∀ id, CursorRecord.page id ∈ records ∨ CursorRecord.bulk id ∈ records →
      s'.syncJobs.lookup id = s.syncJobs.lookup id := by
    intro id hid
    obtain ⟨job, hjob, -⟩ := (h.jobs id).mp hid
    rw [hkept.jobs id job hjob, hjob]
  cases record with
  | page id => simp only [CursorRecord.apply, hjob id (Or.inl (hbefore hrecord))]
  | bulk id => simp only [CursorRecord.apply, hjob id (Or.inr (hbefore hrecord))]
  | retry i =>
    obtain ⟨action, haction, -⟩ := (h.retries i).mp (hbefore hrecord)
    obtain ⟨hi, -⟩ := List.getElem?_eq_some_iff.mp haction
    obtain ⟨more, hmore⟩ := hkept.retries
    simp only [CursorRecord.apply]
    rw [← hmore, List.getElem?_append_left hi]

/-- A transaction that adds nothing to the trail of the pair. -/
theorem Store.HasTrail.keep (h : s.HasTrail pair records) (hkept : s.KeepsTrail s')
    (hjobs : ∀ id job, s'.syncJobs.lookup id = some job → job.Moves pair →
      s.syncJobs.lookup id = some job)
    (hretries : ∀ (i : Nat) (action : RetryActionRow), s'.retryActions[i]? = some action →
      (action.leaId, action.partner) = pair → s.retryActions[i]? = some action)
    (hcursor : (s'.readCursor pair.1 pair.2).value = (s.readCursor pair.1 pair.2).value) :
    s'.HasTrail pair records := by
  refine ⟨h.nodup, ?_, ?_, ?_, ?_, ?_⟩
  · intro id
    refine (h.jobs id).trans ⟨?_, ?_⟩
    · rintro ⟨job, hjob, hmoves⟩
      exact ⟨job, hkept.jobs id job hjob, hmoves⟩
    · rintro ⟨job, hjob, hmoves⟩
      exact ⟨job, hjobs id job hjob hmoves, hmoves⟩
  · intro i
    refine (h.retries i).trans ⟨?_, ?_⟩
    · rintro ⟨action, haction, hpair⟩
      obtain ⟨hi, -⟩ := List.getElem?_eq_some_iff.mp haction
      obtain ⟨more, hmore⟩ := hkept.retries
      exact ⟨action, by rw [← hmore, List.getElem?_append_left hi, haction], hpair⟩
    · rintro ⟨action, haction, hpair⟩
      exact ⟨action, hretries i action haction hpair, hpair⟩
  · rw [hcursor, h.cursor, h.replay_eq hkept (List.Subset.refl _)]
  · intro before id after hsplit
    obtain ⟨job, hjob, hbefore⟩ := h.pages before id after hsplit
    have hsub : before ⊆ records := by
      rw [hsplit]
      exact List.subset_append_left _ _
    exact ⟨job, hkept.jobs id job hjob, by rw [hbefore, h.replay_eq hkept hsub]⟩
  · intro id hid
    obtain ⟨job, hjob, hbefore⟩ := h.loads id hid
    exact ⟨job, hkept.jobs id job hjob, hbefore⟩

/-- The split of a list with one more element. -/
theorem append_singleton_split {α : Type} {records before after : List α} {a b : α}
    (h : records ++ [a] = before ++ b :: after) :
    (before = records ∧ a = b ∧ after = []) ∨
      ∃ rest, records = before ++ b :: rest ∧ after = rest ++ [a] := by
  rcases List.eq_nil_or_concat after with rfl | ⟨rest, c, rfl⟩
  · obtain ⟨hbefore, hone⟩ := List.append_inj' h rfl
    exact Or.inl ⟨hbefore.symm, (List.cons.inj hone).1, rfl⟩
  · rw [List.concat_eq_append, ← List.cons_append, ← List.append_assoc] at h
    obtain ⟨hfront, hlast⟩ := List.append_inj' h rfl
    exact Or.inr ⟨rest, hfront, by rw [List.concat_eq_append, (List.cons.inj hlast).1]⟩

theorem Store.HasTrail.replay_push (h : s.HasTrail pair records) (hkept : s.KeepsTrail s')
    (record : CursorRecord) : CursorRecord.replay s' (records ++ [record])
      = record.apply s' (s.readCursor pair.1 pair.2).value := by
  rw [CursorRecord.replay, List.foldl_append, h.cursor,
    ← h.replay_eq hkept (List.Subset.refl records)]
  rfl

/-- The pages that stood in the trail stand in it with one more row. -/
theorem Store.HasTrail.pages_push (h : s.HasTrail pair records) (hkept : s.KeepsTrail s')
    {record : CursorRecord} {before after : List CursorRecord} {id : Uuid}
    (hsplit : records ++ [record] = before ++ .page id :: after) :
    (before = records ∧ record = .page id) ∨ ∃ job, s'.syncJobs.lookup id = some job ∧
      job.cursorBefore = some (CursorRecord.replay s' before) := by
  rcases append_singleton_split hsplit with ⟨rfl, hrecord, -⟩ | ⟨rest, hold, -⟩
  · exact Or.inl ⟨rfl, hrecord⟩
  · obtain ⟨job, hjob, hbefore⟩ := h.pages before id rest hold
    have hsub : before ⊆ records := by
      rw [hold]
      exact List.subset_append_left _ _
    exact Or.inr ⟨job, hkept.jobs id job hjob, by rw [hbefore, h.replay_eq hkept hsub]⟩

/-- A new job leaves the rows that stand. -/
theorem keepsTrail_of_fresh {g : Uuid} (hfresh : s.syncJobs.lookup g = none)
    (hothers : ∀ id, id ≠ g → s'.syncJobs.lookup id = s.syncJobs.lookup id)
    (hretries : s'.retryActions = s.retryActions) : s.KeepsTrail s' := by
  refine ⟨?_, hretries ▸ List.prefix_rfl⟩
  intro id row hrow
  have hne : id ≠ g := by
    rintro rfl
    rw [hfresh] at hrow
    exact absurd hrow (by simp)
  rw [hothers id hne, hrow]

/-- A new job that is not one of the pair's. -/
theorem Store.HasTrail.otherJob (h : s.HasTrail pair records) {g : Uuid} {job : SyncJobRow}
    (hfresh : s.syncJobs.lookup g = none) (hjob : s'.syncJobs.lookup g = some job)
    (hmoves : ¬ job.Moves pair)
    (hothers : ∀ id, id ≠ g → s'.syncJobs.lookup id = s.syncJobs.lookup id)
    (hretries : s'.retryActions = s.retryActions)
    (hcursor : (s'.readCursor pair.1 pair.2).value = (s.readCursor pair.1 pair.2).value) :
    s'.HasTrail pair records := by
  refine h.keep (keepsTrail_of_fresh hfresh hothers hretries) ?_ ?_ hcursor
  · intro id row hrow hrowMoves
    by_cases hid : id = g
    · subst hid
      obtain rfl := Option.some.inj (hjob.symm.trans hrow)
      exact absurd hrowMoves hmoves
    · rw [← hothers id hid, hrow]
  · intro i action haction _
    rw [← hretries, haction]

/-- A new job of the pair. -/
theorem Store.HasTrail.pushJob (h : s.HasTrail pair records) {g : Uuid} {job : SyncJobRow}
    {record : CursorRecord} (hfresh : s.syncJobs.lookup g = none)
    (hjob : s'.syncJobs.lookup g = some job) (hmoves : job.Moves pair)
    (hothers : ∀ id, id ≠ g → s'.syncJobs.lookup id = s.syncJobs.lookup id)
    (hretries : s'.retryActions = s.retryActions)
    (hrecord : (record = .page g ∧
        job.cursorBefore = some (s.readCursor pair.1 pair.2).value) ∨
      (record = .bulk g ∧ job.cursorBefore = some ""))
    (hcursor : (s'.readCursor pair.1 pair.2).value
      = record.apply s' (s.readCursor pair.1 pair.2).value) :
    s'.HasTrail pair (records ++ [record]) := by
  have hkept := keepsTrail_of_fresh hfresh hothers hretries
  -- the new id does not occur in the trail
  have hnew : CursorRecord.page g ∉ records ∧ CursorRecord.bulk g ∉ records := by
    rw [← not_or, h.jobs g]
    rintro ⟨row, hrow, -⟩
    rw [hfresh] at hrow
    exact absurd hrow (by simp)
  have hrow : record.row = .inl g := by
    rcases hrecord with ⟨rfl, -⟩ | ⟨rfl, -⟩ <;> rfl
  refine ⟨?_, ?_, ?_, ?_, ?_, ?_⟩
  · rw [List.map_append, List.map_singleton, hrow, List.nodup_append_comm]
    refine List.nodup_cons.mpr ⟨fun hmem => ?_, h.nodup⟩
    obtain ⟨old, hold, heq⟩ := List.mem_map.mp hmem
    cases old with
    | page id => exact hnew.1 (Sum.inl.inj heq ▸ hold)
    | bulk id => exact hnew.2 (Sum.inl.inj heq ▸ hold)
    | retry i => exact absurd heq Sum.inr_ne_inl
  · intro id
    by_cases hid : id = g
    · subst hid
      refine iff_of_true ?_ ⟨job, hjob, hmoves⟩
      rcases hrecord with ⟨rfl, -⟩ | ⟨rfl, -⟩
      · exact Or.inl (List.mem_append_right _ List.mem_cons_self)
      · exact Or.inr (List.mem_append_right _ List.mem_cons_self)
    · rw [hothers id hid, ← h.jobs id]
      simp only [List.mem_append, List.mem_singleton]
      rcases hrecord with ⟨rfl, -⟩ | ⟨rfl, -⟩ <;> simp [hid]
  · intro i
    rw [hretries, ← h.retries i, List.mem_append, List.mem_singleton]
    rcases hrecord with ⟨rfl, -⟩ | ⟨rfl, -⟩ <;> simp
  · rw [hcursor, h.replay_push hkept]
  · intro before id after hsplit
    rcases h.pages_push hkept hsplit with ⟨rfl, hpage⟩ | hold
    · rcases hrecord with ⟨rfl, hbefore⟩ | ⟨rfl, -⟩
      · obtain rfl := CursorRecord.page.inj hpage
        refine ⟨job, hjob, ?_⟩
        rw [hbefore, h.cursor, h.replay_eq hkept (List.Subset.refl _)]
      · exact absurd hpage (by simp)
    · exact hold
  · intro id hid
    rcases List.mem_append.mp hid with hid | hid
    · obtain ⟨row, hrow, hbefore⟩ := h.loads id hid
      exact ⟨row, hkept.jobs id row hrow, hbefore⟩
    · rcases hrecord with ⟨rfl, -⟩ | ⟨rfl, hbefore⟩
      · exact absurd (List.mem_singleton.mp hid) (by simp)
      · obtain rfl := CursorRecord.bulk.inj (List.mem_singleton.mp hid)
        exact ⟨job, hjob, hbefore⟩

/-- A new retry of the pair. -/
theorem Store.HasTrail.pushRetry (h : s.HasTrail pair records) {action : RetryActionRow}
    (hjobs : s'.syncJobs = s.syncJobs) (hretries : s'.retryActions = s.retryActions ++ [action])
    (hpair : (action.leaId, action.partner) = pair)
    (hcursor : (s'.readCursor pair.1 pair.2).value = action.cursorRewoundTo.getD "") :
    s'.HasTrail pair (records ++ [.retry s.retryActions.length]) := by
  have hkept : s.KeepsTrail s' := by
    refine ⟨fun id row hrow => hjobs ▸ hrow, ?_⟩
    rw [hretries]
    exact List.prefix_append _ _
  have hlast : s'.retryActions[s.retryActions.length]? = some action := by
    rw [hretries]
    simp
  refine ⟨?_, ?_, ?_, ?_, ?_, ?_⟩
  · rw [List.map_append, List.map_singleton, List.nodup_append_comm]
    refine List.nodup_cons.mpr ⟨fun hmem => ?_, h.nodup⟩
    obtain ⟨old, hold, heq⟩ := List.mem_map.mp hmem
    cases old with
    | page _ | bulk _ => exact absurd heq Sum.inl_ne_inr
    | retry i =>
      obtain ⟨action', haction', -⟩ := (h.retries i).mp hold
      obtain rfl : i = s.retryActions.length := Sum.inr.inj heq
      simp at haction'
  · intro id
    rw [hjobs, ← h.jobs id]
    simp
  · intro i
    rw [List.mem_append, List.mem_singleton, h.retries]
    rcases Nat.lt_trichotomy i s.retryActions.length with hi | rfl | hi
    · rw [hretries, List.getElem?_append_left hi]
      simp [hi.ne]
    · exact iff_of_true (Or.inr rfl) ⟨action, hlast, hpair⟩
    · have hnone : s'.retryActions[i]? = none := by
        rw [hretries, List.getElem?_eq_none_iff, List.length_append, List.length_singleton]
        omega
      have hold : s.retryActions[i]? = none := List.getElem?_eq_none_iff.mpr hi.le
      rw [hnone, hold]
      simp [hi.ne']
  · rw [h.replay_push hkept, hcursor]
    simp only [CursorRecord.apply, hlast]
  · intro before id after hsplit
    rcases h.pages_push hkept hsplit with ⟨-, hpage⟩ | hold
    · exact absurd hpage (by simp)
    · exact hold
  · intro id hid
    rw [List.mem_append, List.mem_singleton] at hid
    obtain ⟨row, hrow, hbefore⟩ := h.loads id (hid.resolve_right (by simp))
    exact ⟨row, hkept.jobs id row hrow, hbefore⟩

end

/-! ### The operations -/

theorem readCursor_of_lookup {s s' : Store} {leaId : LeaId} {partner : String}
    (h : s'.cursorState.lookup (leaId, partner) = s.cursorState.lookup (leaId, partner)) :
    s'.readCursor leaId partner = s.readCursor leaId partner := by
  rw [Store.readCursor, h, Store.readCursor]

/-- A bulk load of the run marks its job once it has moved the cursor. -/
def Op.MarksLoad : Op → Prop
  | .bulkLoad run => run.raises .markSuccess = false
  | .page _ | .revert _ | .release _ | .reject _ | .retry _ => True

section

variable {pg : Postgres} {s s' : Store} {pair : LeaId × String} {records : List CursorRecord}

theorem Store.HasTrail.ofPage (h : s.HasTrail pair records) {run : PageRun} {outcome : PageOutcome}
    (hpage : processOnePage pg run s = some (s', outcome)) :
    s'.HasTrail pair (records ++ s.cursorRecords pg pair (.page run)) := by
  obtain ⟨hcommits, -⟩ := processOnePage_eq_some hpage
  obtain ⟨hjob, -⟩ := processOnePage_records hpage
  have hcursorState : run.blocked s = false → s'.cursorState = s.cursorState.insert
      (run.leaId, run.partner) _ := hcommits.cursorState
  rw [Store.cursorRecords, hpage]
  by_cases hpair : (run.leaId, run.partner) = pair
  · rw [if_pos ⟨rfl, hpair⟩]
    subst hpair
    refine h.pushJob hcommits.fresh hjob ⟨rfl, ?_⟩ hcommits.syncJobs
      hcommits.retryActions (Or.inl ⟨rfl, rfl⟩) ?_
    · rw [PageRun.committedJob]
      cases run.blocked s <;> simp
    · simp only [CursorRecord.apply, hjob]
      cases hb : run.blocked s with
      | true =>
        rw [readCursor_congr (hcommits.blocked hb).2.2]
        simp [PageRun.committedJob, hb]
      | false =>
        rw [readCursor_upsertCursorState _ _ _ _ _ _ (hcommits.cursorState hb)]
        simp [PageRun.committedJob, hb]
  · -- a page of another pair
    rw [if_neg fun hof => hpair hof.2, List.append_nil]
    refine h.otherJob hcommits.fresh hjob (fun hmoves => hpair hmoves.1) hcommits.syncJobs
      hcommits.retryActions ?_
    cases hb : run.blocked s with
    | true => rw [readCursor_congr (hcommits.blocked hb).2.2]
    | false =>
      rw [readCursor_of_lookup]
      rw [hcursorState hb, Table.lookup_insert_eq, if_neg (Ne.symm hpair)]

theorem Store.HasTrail.ofBulkLoad (h : s.HasTrail pair records) {run : BulkRun}
    (hmark : run.raises .markSuccess = false) :
    (bulkLoad pg run s).1.HasTrail pair
      (records ++ s.cursorRecords pg pair (.bulkLoad run)) := by
  rw [Store.cursorRecords]
  cases hins : run.inserts s with
  | false =>
    rw [if_neg (by simp), List.append_nil, bulkLoad_of_not_inserts pg hins]
    exact h
  | true =>
  obtain ⟨hfresh, job, hjob, hload⟩ := bulkLoad_cursor_of_marks pg hins hmark
  have hframe := bulkLoad_frame pg run s
  by_cases hpair : (run.leaId, run.partner) = pair
  · rw [if_pos ⟨rfl, hpair⟩]
    subst hpair
    refine h.pushJob hfresh hjob ⟨?_, hload.kind⟩ hframe.syncJobs
      hframe.retryActions (Or.inr ⟨rfl, hload.before⟩) ?_
    · rw [hload.leaId, hload.partner]
    · simp only [CursorRecord.apply, hjob]
      rcases hload.cursor with ⟨hstatus, hcursor⟩ | ⟨hstatus, hafter, hcursor⟩
      · rw [if_neg hstatus, readCursor_congr hcursor]
      · rw [if_pos hstatus, hafter, Store.readCursor, hcursor, BulkRun.advanceCursor,
          Table.lookup_insert_eq, if_pos rfl]
        by_cases hempty : run.latest.value = ""
        · simp [hempty]
        · simp [hempty]
  · rw [if_neg fun hof => hpair hof.2, List.append_nil]
    refine h.otherJob hfresh hjob ?_ hframe.syncJobs hframe.retryActions ?_
    · rintro ⟨hof, -⟩
      rw [hload.leaId, hload.partner] at hof
      exact hpair hof
    · rw [readCursor_of_lookup (hframe.cursorState _ (Ne.symm hpair))]

theorem Store.HasTrail.ofRetry (h : s.HasTrail pair records) {run : RetryRun}
    {outcome : RetryOutcome} (hretry : retry run s = .ok (s', outcome)) :
    s'.HasTrail pair (records ++ s.cursorRecords pg pair (.retry run)) := by
  obtain ⟨target, htarget, hcursorState, hs'⟩ := retry_eq_ok hretry
  have hof := retry_outcome hretry htarget
  simp only [Store.cursorRecords, hretry, hof]
  have hjobs : s'.syncJobs = s.syncJobs := by rw [hs']
  have hretries : s'.retryActions = s.retryActions ++ [run.action target] := by rw [hs']
  have hlookup := fun key => congrArg (AList.lookup key) hcursorState
  simp only [rewindCursor, Table.lookup_insert_eq] at hlookup
  by_cases hpair : (target.leaId, target.partner) = pair
  · rw [if_pos hpair]
    subst hpair
    refine h.pushRetry hjobs hretries rfl ?_
    rw [Store.readCursor, hlookup, if_pos rfl]
    rfl
  · rw [if_neg hpair, List.append_nil]
    refine h.keep ⟨fun id row hrow => hjobs ▸ hrow, ?_⟩ (fun id row hrow _ => hjobs ▸ hrow) ?_ ?_
    · rw [hretries]
      exact List.prefix_append _ _
    · intro i action haction hof
      rw [hretries] at haction
      rcases Nat.lt_or_ge i s.retryActions.length with hi | hi
      · rwa [List.getElem?_append_left hi] at haction
      · rw [List.getElem?_append_right hi] at haction
        obtain rfl := List.mem_singleton.mp (List.mem_of_getElem? haction)
        exact absurd hof hpair
    · rw [readCursor_of_lookup ((hlookup _).trans (if_neg (Ne.symm hpair)))]

/-- A job of another kind, or none. -/
theorem Store.HasTrail.other (h : s.HasTrail pair records) {g : Uuid}
    (hjobs : s'.syncJobs = s.syncJobs ∨ (s.syncJobs.lookup g = none ∧
      ∃ job, (job.status = .revert ∨ job.status = .quarantineRelease) ∧
        s'.syncJobs = s.syncJobs.insert g job))
    (hretries : s'.retryActions = s.retryActions) (hcursor : s'.cursorState = s.cursorState) :
    s'.HasTrail pair records := by
  have hcursors : (s'.readCursor pair.1 pair.2).value = (s.readCursor pair.1 pair.2).value := by
    rw [readCursor_congr hcursor]
  rcases hjobs with hjobs | ⟨hfresh, job, hkind, hjobs⟩
  · exact h.keep ⟨fun id row hrow => hjobs ▸ hrow, hretries ▸ List.prefix_rfl⟩
      (fun id row hrow _ => hjobs ▸ hrow) (fun i action haction _ => hretries ▸ haction) hcursors
  · refine h.otherJob hfresh (?_ : s'.syncJobs.lookup g = some job) ?_ ?_ hretries hcursors
    · rw [hjobs, Table.lookup_insert_eq, if_pos rfl]
    · rintro ⟨-, hrevert, hrelease⟩
      exact hkind.elim hrevert hrelease
    · intro id hid
      rw [hjobs, Table.lookup_insert_eq, if_neg hid]

/-- **One operation** extends the trail by the row it leaves. -/
theorem Store.HasTrail.exec (h : s.HasTrail pair records) (pg : Postgres) {op : Op}
    (hop : op.MarksLoad) :
    (s.exec pg op).HasTrail pair (records ++ s.cursorRecords pg pair op) := by
  have hcommit : ∀ {ε α : Type} (result : Except ε (Store × α)),
      (∀ s' a, result = .ok (s', a) → s'.HasTrail pair records) →
      (commit s result).HasTrail pair (records ++ []) := by
    intro ε α result hok
    rw [List.append_nil]
    cases result with
    | error e => exact h
    | ok p => exact hok p.1 p.2 rfl
  cases op with
  | page run =>
    rw [Store.exec]
    cases hpage : processOnePage pg run s with
    | none =>
      rw [Store.cursorRecords, hpage, if_neg (by simp), List.append_nil]
      exact h
    | some p => exact h.ofPage hpage
  | bulkLoad run => exact h.ofBulkLoad hop
  | revert run =>
    refine hcommit _ fun s' outcome hok => ?_
    have hr := revert_eq_ok hok
    obtain ⟨target, -, hjobs⟩ := hr.target
    exact h.other (Or.inr ⟨hr.fresh, run.job target, Or.inl rfl, hjobs⟩) hr.retryActions
      hr.cursorState
  | release run =>
    refine hcommit _ fun s' outcome hok => ?_
    have hr := release_eq_ok hok
    obtain ⟨row, _, _, _, _, _, -, -, -, -, -, -, -, -, -, hjobs⟩ := hr.released
    exact h.other (Or.inr ⟨hr.fresh, run.job row.leaId, Or.inr rfl, hjobs⟩) hr.retryActions
      hr.cursorState
  | reject run =>
    refine hcommit _ fun s' outcome hok => ?_
    obtain ⟨row, -, -, rfl⟩ := reject_eq_ok hok
    exact h.other (g := "") (Or.inl rfl) rfl rfl
  | retry run =>
    rw [Store.exec]
    cases hretry : retry run s with
    | error e =>
      simp only [Store.cursorRecords, hretry, List.append_nil]
      exact h
    | ok p => exact h.ofRetry hretry

end

/-! ### Runs -/

theorem Store.hasTrail_empty (pair : LeaId × String) : Store.empty.HasTrail pair [] where
  nodup := List.nodup_nil
  jobs id := by simp [Store.empty]
  retries i := by simp [Store.empty]
  cursor := rfl
  pages before id after h := absurd h (by simp)
  loads id h := absurd h List.not_mem_nil

/-- **A run** extends the trail by the rows it leaves. -/
theorem Store.HasTrail.run {pg : Postgres} {pair : LeaId × String} {ops : List Op}
    (hops : ∀ op ∈ ops, op.MarksLoad) {s : Store} {records : List CursorRecord}
    (h : s.HasTrail pair records) :
    (Runs.run (Store.exec pg) s ops).HasTrail pair (records ++ s.cursorTrail pg pair ops) := by
  induction ops generalizing s records with
  | nil =>
    rw [Store.cursorTrail, List.append_nil]
    exact h
  | cons op ops ih =>
    rw [Runs.run_cons, Store.cursorTrail, ← List.append_assoc]
    exact ih (fun op' h' => hops op' (List.mem_cons_of_mem _ h'))
      (h.exec pg (hops op List.mem_cons_self))

/-- **The audit trail determines the cursor.**  After every run whose bulk loads mark their
jobs once they have moved the cursor, the rows the operations left about a pair, each once
and in the order of their commits, are its page jobs, bulk load jobs and retries and replay
to its cursor; each page job started from what the rows before it replay to; and what an
earlier state had left is a prefix. -/
theorem cursor_replays (pg : Postgres) (ops : List Op) (pair : LeaId × String)
    (hops : ∀ op ∈ ops, op.MarksLoad) :
    (Runs.run (Store.exec pg) Store.empty ops).HasTrail pair
        (Store.empty.cursorTrail pg pair ops) ∧
      ∀ before, before <+: ops →
        (Runs.run (Store.exec pg) Store.empty before).HasTrail pair
            (Store.empty.cursorTrail pg pair before) ∧
          Store.empty.cursorTrail pg pair before <+: Store.empty.cursorTrail pg pair ops := by
  have hrun : ∀ before, before <+: ops → (Runs.run (Store.exec pg) Store.empty before).HasTrail
      pair (Store.empty.cursorTrail pg pair before) := fun before hbefore =>
    (Store.hasTrail_empty pair).run fun op hop => hops op (hbefore.subset hop)
  refine ⟨hrun ops List.prefix_rfl, fun before hbefore => ⟨hrun before hbefore, ?_⟩⟩
  obtain ⟨after, rfl⟩ := hbefore
  rw [Store.cursorTrail_append]
  exact List.prefix_append _ _

namespace CursorAudit

/-- A page, a bulk load that sets the cursor ahead, a forced retry of the page and a second
page, which starts where the first one did. -/
def reloaded : List Op :=
  [Fixture.pageOp "L1" "job-1" [Fixture.event "L1" "evt_001" (Fixture.student "L1" "s1")],
    Fixture.bulkOp "L1" "job-2"
      [{ id := some "s2", givenName := some "Kim", familyName := some "Lee" }],
    .retry
      { syncJobId := "job-1", operatorIdentity := "op", reason := "again", forced := true
        now := 50 },
    Fixture.pageOp "L1" "job-3" [Fixture.event "L1" "evt_002" (Fixture.student "L1" "s3")]]

end CursorAudit

open CursorAudit in
theorem cursor_replays_reloaded : (Fixture.after reloaded).HasTrail ("L1", "edlink")
    [.page "job-1", .bulk "job-2", .retry 0, .page "job-3"] := by
  have hops : ∀ op ∈ reloaded, op.MarksLoad := by
    intro op hop
    simp only [reloaded, List.mem_cons, List.not_mem_nil, or_false] at hop
    rcases hop with rfl | rfl | rfl | rfl
    · exact trivial
    · exact rfl
    · exact trivial
    · exact trivial
  have htrail : Store.empty.cursorTrail Postgres.reference ("L1", "edlink") reloaded
      = [.page "job-1", .bulk "job-2", .retry 0, .page "job-3"] := by decide +kernel
  rw [← htrail]
  exact (cursor_replays Postgres.reference reloaded ("L1", "edlink") hops).1
