/-
A log that is drained in pages, wherever the pages end.

A committed page decides about its events together and writes them one after another.
`settle` says what becomes of one event whatever page it is on: an event that does not
clear Layers 2 and 3 is passed over, an enrollment of a student without a row is held
back, and the others are applied.  A page is a run of `settle`, so two ways to cut a log
into pages differ in the jobs they leave and in the clocks of those, and in nothing else.

* `settle_page` — a committed page settles its events one after another;
* `settled_coincide` — the jobs and their clocks do not decide anything;
* `Store.Paged` — what the committed pages so far came to;
* `drained_in_any_pages` — a log is delivered once and in order, and ends up as it does
  in one page.
-/
import EdlinkRostering.Wedges

/-! ### Rosters up to jobs and clocks -/

/-- A canonical row without the instant of its deletion. -/
def CanonicalRow.undated (row : CanonicalRow) : CanonicalRow × Bool :=
  (row.withDeletedAt none, row.deletedAt.isSome)

/-- The same canonical rows up to the instants of deletions, and live snapshots with the
same payloads of the same events. -/
structure Roster.Coincides (r r' : Roster) : Prop where
  canonical : ∀ et id,
    (r'.canonical et id).map CanonicalRow.undated = (r.canonical et id).map CanonicalRow.undated
  live : ∀ et leaId id, (r'.live et leaId id).map (fun x => (x.payload, x.sourceEventId))
    = (r.live et leaId id).map fun x => (x.payload, x.sourceEventId)

/-- The greatest id of a few snapshots depends on their ids alone. -/
theorem Postgres.sourceEventId_top (pg : Postgres) {rows rows' : List SnapshotRow}
    (h : rows'.map (·.sourceEventId) = rows.map (·.sourceEventId)) :
    (pg.top rows').bind (·.sourceEventId) = (pg.top rows).bind (·.sourceEventId) := by
  have hids : ∀ l : List SnapshotRow, (pg.top l).bind (·.sourceEventId)
      = ((l.map (·.sourceEventId)).insertionSort
          fun a b => pg.ascNullsFirst b a = true).head?.bind id := by
    intro l
    rw [← List.map_insertionSort (r := fun a b : SnapshotRow =>
      pg.ascNullsFirst b.sourceEventId a.sourceEventId = true) _ _ _ fun _ _ _ _ => Iff.rfl,
      List.head?_map, Option.bind_map]
    rfl
  rw [hids, hids, h]

namespace Roster.Coincides

variable {r r₁ r₂ r' : Roster}

theorem refl (r : Roster) : r.Coincides r := ⟨fun _ _ => rfl, fun _ _ _ => rfl⟩

theorem symm (h : r.Coincides r') : r'.Coincides r :=
  ⟨fun et id => (h.canonical et id).symm, fun et l id => (h.live et l id).symm⟩

theorem trans (h : r.Coincides r₁) (h' : r₁.Coincides r₂) : r.Coincides r₂ :=
  ⟨fun et id => (h'.canonical et id).trans (h.canonical et id),
    fun et l id => (h'.live et l id).trans (h.live et l id)⟩

theorem dedups (h : r.Coincides r') (pg : Postgres) (leaId : LeaId) (e : NormalizedEvent) :
    r'.dedups pg leaId e = r.dedups pg leaId e := by
  have hids := congrArg (List.map Prod.snd) (h.live e.entityType leaId e.naturalKey)
  rw [List.map_map, List.map_map] at hids
  rw [Roster.dedups, Roster.dedups, latestLiveSourceEventId, latestLiveSourceEventId,
    pg.sourceEventId_top hids]

theorem studentExists (h : r.Coincides r') (leaId : LeaId) (id : StudentId) :
    r'.studentExists leaId id = r.studentExists leaId id := by
  have hread : ∀ x : Roster, x.studentExists leaId id
      = ((x.canonical .student id).map CanonicalRow.undated).any fun p => p.1.owner id = leaId := by
    intro x
    rw [Roster.studentExists, Roster.canonical]
    cases x.students.lookup id <;> rfl
  rw [hread, hread, h.canonical]

/-- Two jobs that write the same row and the same payload. -/
theorem replace (h : r.Coincides r') {et : EntityType} (het : et ≠ .lea) {leaId : LeaId}
    {id : String} {g g' : Uuid} {i i' : Instant} {new new' : SnapshotRow} {row row' : CanonicalRow}
    (hkey : new'.naturalKey = new.naturalKey) (hlea : new'.leaId = new.leaId)
    (hlive : new'.supersededByGenerationId = new.supersededByGenerationId)
    (hpayload : new'.payload = new.payload) (hevent : new'.sourceEventId = new.sourceEventId)
    (htype : row'.entityType = row.entityType) (hrow : row'.undated = row.undated) :
    (r.replace et leaId id g i new row).Coincides (r'.replace et leaId id g' i' new' row') := by
  refine ⟨fun et' id' => ?_, fun et' l k => ?_⟩
  · simp only [Roster.replace, canonical_setCanonical, canonical_insertSnapshot,
      canonical_supersede, htype]
    split
    · simp only [Option.map_some, hrow]
    · exact h.canonical et' id'
  · have hat : new'.liveAt l k = new.liveAt l k := by
      rw [Bool.eq_iff_iff, SnapshotRow.liveAt_iff, SnapshotRow.liveAt_iff, hkey, hlea, hlive]
    simp only [Roster.replace, live_setCanonical, live_insertSnapshot, live_supersede,
      SnapshotRow.stored_of_ne het, hat, List.map_append]
    congr 1
    · split
      · rfl
      · exact h.live et' l k
    · split
      · simp only [List.map_cons, List.map_nil, hpayload, hevent]
      · rfl

end Roster.Coincides

/-! ### One event -/

/-- The row of an event depends on the clock in the instant of the deletion alone. -/
theorem undated_canonicalRow (event : NormalizedEvent) (pg : Postgres) (now now' : Instant) :
    (event.canonicalRow pg now').map CanonicalRow.undated
      = (event.canonicalRow pg now).map CanonicalRow.undated := by
  have hdeleted : ∀ i : Instant, (if event.deletedUpstream then some i else none).isSome
      = event.deletedUpstream := by
    intro i
    cases event.deletedUpstream <;> rfl
  simp only [NormalizedEvent.canonicalRow]
  split
  · simp only [Option.map_some, CanonicalRow.undated, CanonicalRow.withDeletedAt,
      CanonicalRow.deletedAt, hdeleted]
  · next entity _ _ =>
    cases pg.bindDate entity.beginDate with
    | none => rfl
    | some beginDate =>
      cases pg.bindDate? entity.endDate with
      | none => rfl
      | some endDate =>
        simp only [Option.bind_eq_bind, Option.bind_some, Option.map_some, CanonicalRow.undated,
          CanonicalRow.withDeletedAt, CanonicalRow.deletedAt, hdeleted]
  · simp only [Option.map_some, CanonicalRow.undated, CanonicalRow.withDeletedAt,
      CanonicalRow.deletedAt, hdeleted]
  · rfl

/-- The roster after an event that is not turned down. -/
def Roster.take (pg : Postgres) (leaId : LeaId) (syncJobId : Uuid) (now : Instant) (r : Roster)
    (event : NormalizedEvent) : Roster :=
  if r.dedups pg leaId event then r
  else match event.canonicalRow pg now with
    | none => r
    | some row =>
      r.replace event.entityType leaId event.naturalKey syncJobId now
        (event.snapshotRow leaId syncJobId now) row

/-- The enrollment of a student without a row. -/
def Roster.orphans (r : Roster) (leaId : LeaId) (event : NormalizedEvent) : Bool :=
  event.entityType = .enrollment && !r.studentExists leaId event.entity.studentId

/-- The roster, and the events in quarantine. -/
abbrev Settled := Roster × List NormalizedEvent

/-- What becomes of one event, whatever page it is on. -/
def settle (pg : Postgres) (leaId : LeaId) (syncJobId : Uuid) (now : Instant) (acc : Settled)
    (event : NormalizedEvent) : Settled :=
  if ¬ event.Cleared then acc
  else if acc.1.orphans leaId event then (acc.1, acc.2 ++ [event])
  else (acc.1.take pg leaId syncJobId now event, acc.2)

/-- The same rosters up to jobs and clocks, and the same quarantine. -/
def Settled.Coincide (acc acc' : Settled) : Prop := acc.1.Coincides acc'.1 ∧ acc.2 = acc'.2

section

variable {pg : Postgres} {leaId : LeaId} {syncJobId job' : Uuid} {now now' : Instant}

theorem applyEventRoster_eq_take {r r' : Roster} {event : NormalizedEvent}
    (h : applyEventRoster pg leaId syncJobId now r event = some r') :
    r' = r.take pg leaId syncJobId now event := by
  rw [Roster.take]
  rcases applyEventRoster_eq_replace h with ⟨hd, rfl⟩ | ⟨hd, row, hrow, rfl⟩
  · rw [if_pos hd]
  · rw [if_neg (by rw [hd]; simp), hrow]

theorem coincides_take {r r' : Roster} {event : NormalizedEvent} (h : r.Coincides r')
    (ht : event.entityType ≠ .lea) : (r.take pg leaId syncJobId now event).Coincides
      (r'.take pg leaId job' now' event) := by
  rw [Roster.take, Roster.take, h.dedups]
  split
  · exact h
  have hrow := undated_canonicalRow event pg now now'
  cases hn : event.canonicalRow pg now with
  | none =>
    rw [hn, Option.map_none, Option.map_eq_none_iff] at hrow
    rw [hrow]
    exact h
  | some row =>
    rw [hn, Option.map_some, Option.map_eq_some_iff] at hrow
    obtain ⟨row', hn', hrow⟩ := hrow
    rw [hn']
    have htype : row'.entityType = row.entityType :=
      (canonicalRow_entityType hn').trans (canonicalRow_entityType hn).symm
    exact h.replace ht rfl rfl rfl rfl rfl htype hrow

/-- **One event**, whoever settles it and when. -/
theorem settle_coincide {acc acc' : Settled} {event : NormalizedEvent} (h : acc.Coincide acc')
    (ht : event.entityType ≠ .lea) : (settle pg leaId syncJobId now acc event).Coincide
      (settle pg leaId job' now' acc' event) := by
  obtain ⟨hr, hq⟩ := h
  have horphans : acc'.1.orphans leaId event = acc.1.orphans leaId event := by
    rw [Roster.orphans, Roster.orphans, hr.studentExists]
  rw [settle, settle, horphans]
  split
  · exact ⟨hr, hq⟩
  split
  · exact ⟨hr, by rw [hq]⟩
  · exact ⟨coincides_take hr ht, hq⟩

end

/-! ### One page -/

/-- Where a run of `settle` stands after some events of a page. -/
theorem PageRun.Housed.settle_from {pg : Postgres} {run : PageRun} {s : Store} (h : run.Housed s)
    {before after : List NormalizedEvent} (hsplit : run.page.events = before ++ after)
    {r r' : Roster} (q : List NormalizedEvent)
    (hbefore : applyEvents pg run.leaId run.syncJobId run.now
      (before.filter (run.report s).accepts) (s.roster.ensureLeaExists run.leaId) = some r)
    (hafter : applyEvents pg run.leaId run.syncJobId run.now
      (after.filter (run.report s).accepts) r = some r') :
    Runs.run (settle pg run.leaId run.syncJobId run.now) (r, q) after
      = (r', q ++ after.filter (run.report s).quarantines) := by
  induction after generalizing before r q with
  | nil =>
    obtain rfl : r = r' := Option.some.inj hafter
    rw [Runs.run_nil, List.filter_nil, List.append_nil]
  | cons e after ih =>
    have hmem : e ∈ run.page.events := by
      rw [hsplit]; exact List.mem_append_right _ List.mem_cons_self
    have hnext : run.page.events = (before ++ [e]) ++ after := by
      rw [hsplit, List.append_assoc, List.singleton_append]
    have hacc : (run.report s).accepts e = true ↔
        e.Cleared ∧ (run.report s).quarantines e = false := accepts_iff h.ok h.ids hmem
    rw [Runs.run_cons, settle]
    by_cases hc : e.Cleared
    swap
    · -- passed over
      have hno : ¬ (run.report s).accepts e = true := fun ha => hc (hacc.mp ha).1
      have hquiet : ¬ (run.report s).quarantines e = true := by
        intro hq
        have hq : e.eventId ∈ (run.report s).quarantinedEventIds := by
          simpa only [ValidationReport.quarantines, decide_eq_true_eq] using hq
        exact hc (cleared_of_quarantined h.ok hmem hq)
      rw [List.filter_cons_of_neg hno] at hafter
      rw [if_pos hc, List.filter_cons_of_neg hquiet]
      refine ih hnext q ?_ hafter
      rw [List.filter_append, List.filter_cons_of_neg hno, List.filter_nil, List.append_nil]
      exact hbefore
    rw [if_neg (not_not.mpr hc)]
    -- validation quarantines what finds no student when its turn comes
    have horphan : (run.report s).quarantines e = true ↔ r.orphans run.leaId e = true := by
      rw [Roster.orphans]
      by_cases ht : e.entityType = .enrollment
      · rw [h.quarantines_iff hsplit ht hc hbefore]
        simp [ht]
      · have hquiet : (run.report s).quarantines e = false :=
          quarantines_of_ne_enrollment h.ok h.ids hmem ht
        rw [hquiet]
        simp [ht]
    by_cases hq : (run.report s).quarantines e = true
    · -- held back
      have hno : ¬ (run.report s).accepts e = true := fun ha => by
        rw [(hacc.mp ha).2] at hq
        cases hq
      rw [List.filter_cons_of_neg hno] at hafter
      rw [if_pos (horphan.mp hq), List.filter_cons_of_pos hq]
      refine (ih hnext (q ++ [e]) ?_ hafter).trans ?_
      · rw [List.filter_append, List.filter_cons_of_neg hno, List.filter_nil, List.append_nil]
        exact hbefore
      · rw [List.append_assoc, List.singleton_append]
    · -- applied
      have hyes : (run.report s).accepts e = true := hacc.mpr ⟨hc, Bool.not_eq_true _ ▸ hq⟩
      rw [List.filter_cons_of_pos hyes] at hafter
      obtain ⟨r₁, hone, hrest⟩ := applyEvents_cons_eq_some.mp hafter
      rw [if_neg fun ho => hq (horphan.mpr ho), List.filter_cons_of_neg hq,
        ← applyEventRoster_eq_take hone]
      refine ih hnext q ?_ hrest
      rw [List.filter_append, List.filter_cons_of_pos hyes, List.filter_nil]
      exact Runs.foldlM_append_eq_some.mpr
        ⟨r, hbefore, applyEvents_cons_eq_some.mpr ⟨r₁, hone, rfl⟩⟩

/-- **A committed page settles its events one after another.** -/
theorem settle_page {pg : Postgres} {run : PageRun} {s : Store} (h : run.Housed s) {r : Roster}
    (hr : applyEvents pg run.leaId run.syncJobId run.now (run.accepted s)
      (s.roster.ensureLeaExists run.leaId) = some r) (q : List NormalizedEvent) :
    Runs.run (settle pg run.leaId run.syncJobId run.now)
        (s.roster.ensureLeaExists run.leaId, q) run.page.events
      = (r, q ++ run.quarantined s) :=
  h.settle_from (List.nil_append _).symm q rfl hr

/-! ### A log -/

/-- What the events of a log come to, from an empty roster on, for a job of no name. -/
def settled (pg : Postgres) (leaId : LeaId) (log : List EdLinkEvent) : Settled :=
  Runs.run (settle pg leaId "" 0) (Roster.empty.ensureLeaExists leaId, []) (mapped leaId log)

theorem settled_append (pg : Postgres) (leaId : LeaId) (log log' : List EdLinkEvent) :
    settled pg leaId (log ++ log')
      = Runs.run (settle pg leaId "" 0) (settled pg leaId log) (mapped leaId log') := by
  rw [settled, mapped_append, Runs.run_append, settled]

/-- The id of the last event, as a cursor has it. -/
def lastId (log : List EdLinkEvent) : String := (log.getLast?.map (·.id)).getD ""

/-- **The cursor finds the place behind the event it names**, also in a log that does not
reach so far. -/
theorem drop_sliceStart {history delivered log : List EdLinkEvent}
    (hids : (history.map (·.id)).Nodup) (hnamed : ∀ e ∈ delivered.getLast?, e.id ≠ "")
    (hdelivered : delivered <+: history) (hlog : log <+: history) :
    log.drop (sliceStart log (lastId delivered)) = log.drop delivered.length := by
  rcases List.eq_nil_or_concat delivered with rfl | ⟨before, last, rfl⟩
  · rfl
  rw [List.concat_eq_append] at hdelivered hnamed ⊢
  have hlast : lastId (before ++ [last]) = last.id := by simp [lastId]
  have hlen : (before ++ [last]).length = before.length + 1 := List.length_append
  have hid : last.id ≠ "" := hnamed last (by simp)
  have hat : (history.map (·.id))[before.length]? = some last.id := by
    obtain ⟨rest, rfl⟩ := hdelivered
    simp
  -- an event of the log with this id stands there
  have hplace : ∀ i e, log[i]? = some e → (e.id = last.id ↔ i = before.length) := by
    intro i e hi
    obtain ⟨hlt, -⟩ := List.getElem?_eq_some_iff.mp hi
    have hsame : (history.map (·.id))[i]? = some e.id := by
      obtain ⟨rest, rfl⟩ := hlog
      rw [List.getElem?_map, List.getElem?_append_left hlt, hi]
      rfl
    constructor
    · intro hid
      have hi' : i < (history.map (·.id)).length := (List.getElem?_eq_some_iff.mp hsame).1
      exact (List.getElem?_inj hi' hids).mp (by rw [hsame, hat, hid])
    · rintro rfl
      exact Option.some.inj (hsame.symm.trans hat)
  rw [hlast, hlen, sliceStart, if_neg hid]
  split
  · next i hi =>
    obtain ⟨hilt, hmatch, -⟩ := List.findIdx?_eq_some_iff_getElem.mp hi
    rw [(hplace i _ (List.getElem?_eq_getElem hilt)).mp (of_decide_eq_true hmatch)]
  · next hnone =>
    -- the log ends before the event
    have hshort : log.length ≤ before.length := by
      by_contra hlong
      have hlt : before.length < log.length := by omega
      have hno := List.findIdx?_eq_none_iff.mp hnone _ (List.getElem_mem hlt)
      rw [(hplace before.length _ (List.getElem?_eq_getElem hlt)).mpr rfl] at hno
      simp at hno
    rw [List.drop_length, List.drop_of_length_le (by omega)]

section

variable {pg : Postgres} {leaId : LeaId} {poll : Poll} {s s' : Store}
  {history passed : List EdLinkEvent}

/-- A page starts where the cursor was left. -/
theorem Poll.raw_of_cursor (hids : (history.map (·.id)).Nodup)
    (hnamed : ∀ e ∈ passed.getLast?, e.id ≠ "") (hpassed : passed <+: history)
    (hlog : poll.log <+: history) (hcursor : (Poll.cursor leaId s).value = lastId passed) :
    poll.raw leaId s = (poll.log.drop passed.length).take poll.pageSize := by
  rw [← drop_sliceStart hids hnamed hpassed hlog, ← hcursor]
  rfl

/-- A committed page leaves the cursor at its own last event, or where it was if it is
empty. -/
theorem Poll.Applies.cursor_eq_lastId
    (h : poll.Applies pg leaId (poll.readablePage leaId s) s s')
    (hcursor : (Poll.cursor leaId s).value = lastId passed)
    (hnamed : ∀ e ∈ (poll.raw leaId s).getLast?, e.id ≠ "") :
    (Poll.cursor leaId s').value = lastId (passed ++ poll.raw leaId s) := by
  rw [h.cursor]
  show tokenOr ((poll.raw leaId s).getLast?.map (·.id)) (Poll.cursor leaId s).value = _
  rw [hcursor, lastId, lastId, List.getLast?_append]
  cases hlast : (poll.raw leaId s).getLast? with
  | none => rfl
  | some last => simp [tokenOr, hnamed last hlast]

end

/-! ### The committed pages -/

/-- A page that was committed, and the log it is from. -/
structure CommittedPage where
  log : List EdLinkEvent
  raw : List EdLinkEvent
deriving DecidableEq

/-- The page of the poll, if it was committed. -/
def Poll.committed (pg : Postgres) (leaId : LeaId) (poll : Poll) (s : Store) :
    List CommittedPage :=
  match (poll.exec pg leaId s).2 with
  | none => []
  | some outcome =>
    if outcome.status = .success then [{ log := poll.log, raw := poll.raw leaId s }] else []

/-- The committed pages of a run of polls, in order. -/
def committedPages (pg : Postgres) (leaId : LeaId) : Store → List Poll → List CommittedPage
  | _, [] => []
  | s, poll :: polls =>
    poll.committed pg leaId s ++ committedPages pg leaId (poll.step pg leaId s) polls

/-- The raw events of the pages. -/
def rawEvents (pages : List CommittedPage) : List EdLinkEvent := pages.flatMap (·.raw)

/-- A quarantine row without the job and its clock. -/
def QuarantineRow.undated (row : QuarantineRow) : QuarantineRow :=
  { row with syncJobId := "", createdAt := 0 }

/-- What these pages of the log came to. -/
structure Store.Paged (pg : Postgres) (leaId : LeaId) (history : List EdLinkEvent)
    (pages : List CommittedPage) (s : Store) : Prop where
  delivered : rawEvents pages <+: history
  cursor : (Poll.cursor leaId s).value = lastId (rawEvents pages)
  readable : Readable leaId (rawEvents pages)
  houses : ∀ id, s.roster.Houses leaId id
  lea : pages ≠ [] → (s.roster.leas.lookup leaId).isSome = true
  roster : (settled pg leaId (rawEvents pages)).1.Coincides (s.roster.ensureLeaExists leaId)
  quarantine : s.quarantine.map QuarantineRow.undated
    = (settled pg leaId (rawEvents pages)).2.map (quarantineRow leaId "" 0)
  /-- A page of the whole log is not empty before the end. -/
  progress : min history.length (pages.countP fun page => page.log = history)
    ≤ (rawEvents pages).length

section

variable {pg : Postgres} {leaId : LeaId} {poll : Poll} {s s' : Store}

/-- A poll commits its page, or leaves the roster, the quarantine and the cursor alone. -/
theorem Poll.committed_cases (pg : Postgres) (leaId : LeaId) (poll : Poll) (s : Store) :
    (poll.committed pg leaId s = [] ∧ (poll.step pg leaId s).roster = s.roster ∧
      (poll.step pg leaId s).quarantine = s.quarantine ∧
      Poll.cursor leaId (poll.step pg leaId s) = Poll.cursor leaId s) ∨
    (poll.committed pg leaId s = [{ log := poll.log, raw := poll.raw leaId s }] ∧
      ∃ page, poll.Applies pg leaId page s (poll.step pg leaId s)) := by
  rw [committed]
  cases hout : (poll.exec pg leaId s).2 with
  | none =>
    have hsame : poll.step pg leaId s = s := Poll.exec_eq_none (Prod.ext rfl hout)
    rw [hsame]
    exact Or.inl ⟨rfl, rfl, rfl, rfl⟩
  | some outcome =>
    have hexec : poll.exec pg leaId s = (poll.step pg leaId s, some outcome) := Prod.ext rfl hout
    rcases Poll.exec_eq_some hexec with ⟨hfailed, hr, hq, hc⟩ | ⟨page, happlies, -, hstatus⟩
    · refine Or.inl ⟨?_, hr, hq, hc⟩
      simp [hfailed]
    · refine Or.inr ⟨?_, page, happlies⟩
      simp [hstatus]

end

namespace Store.Paged

variable {pg : Postgres} {leaId : LeaId} {history : List EdLinkEvent} {pages : List CommittedPage}
  {s s' : Store} {poll : Poll}

theorem start (pg : Postgres) (leaId : LeaId) (history : List EdLinkEvent) :
    Store.empty.Paged pg leaId history [] where
  delivered := List.nil_prefix
  cursor := rfl
  readable e he := absurd he List.not_mem_nil
  houses _ := .empty
  lea h := absurd rfl h
  roster := .refl _
  quarantine := rfl
  progress := by simp

theorem congr (h : s.Paged pg leaId history pages) (hr : s'.roster = s.roster)
    (hq : s'.quarantine = s.quarantine) (hc : Poll.cursor leaId s' = Poll.cursor leaId s) :
    s'.Paged pg leaId history pages := by
  refine ⟨h.delivered, ?_, h.readable, ?_, ?_, ?_, ?_, h.progress⟩
  · rw [hc]; exact h.cursor
  · rw [hr]; exact h.houses
  · rw [hr]; exact h.lea
  · rw [hr]; exact h.roster
  · rw [hq]; exact h.quarantine

/-- **One committed page**: it starts where the pages before it ended, and settles its
events. -/
theorem applies (h : s.Paged pg leaId history pages) (hids : (history.map (·.id)).Nodup)
    (hne : ∀ e ∈ history, e.id ≠ "") (hlog : poll.log <+: history) (hsize : 1 ≤ poll.pageSize)
    {page : EventPage} (happlies : poll.Applies pg leaId page s s') :
    s'.Paged pg leaId history (pages ++ [{ log := poll.log, raw := poll.raw leaId s }]) := by
  obtain ⟨hread, rfl⟩ := Poll.readable_of_page happlies.fetched
  have hraw : poll.raw leaId s
      = (poll.log.drop (rawEvents pages).length).take poll.pageSize :=
    Poll.raw_of_cursor hids (fun e he => hne e (h.delivered.subset (List.mem_of_getLast? he)))
      h.delivered hlog h.cursor
  have hevents : rawEvents (pages ++ [{ log := poll.log, raw := poll.raw leaId s }])
      = rawEvents pages ++ poll.raw leaId s := by
    simp [rawEvents]
  have hdelivered : rawEvents pages ++ poll.raw leaId s <+: history := by
    have hnext : poll.raw leaId s <+: history.drop (rawEvents pages).length := by
      rw [hraw]
      exact (List.take_prefix _ _).trans (hlog.drop _)
    obtain ⟨rest, hrest⟩ := h.delivered
    rw [← hrest, List.drop_left] at hnext
    rw [← hrest]
    exact (List.prefix_append_right_inj _).mpr hnext
  have hidsRaw : ((poll.raw leaId s).map (·.id)).Nodup :=
    hids.sublist (((List.sublist_append_right _ _).trans hdelivered.sublist).map _)
  have hhoused : (poll.pageRun leaId (poll.readablePage leaId s)).Housed s :=
    Poll.housed hidsRaw fun _ _ _ => h.houses _
  have haccepted : ∀ e ∈ (poll.pageRun leaId (poll.readablePage leaId s)).accepted s,
      e.Cleared ∧ e.leaId = leaId := fun e he => by
    have hb : (poll.pageRun leaId (poll.readablePage leaId s)).blocked s = false :=
      pageBlocked_runPipeline rfl
    obtain ⟨hmem, hcleared⟩ := PageRun.cleared_of_mem_accepted hb he
    exact ⟨hcleared, hhoused.scope e hmem⟩
  have hlea : (s'.roster.leas.lookup leaId).isSome = true :=
    leas_lookup_applyEvents (Roster.leas_lookup_ensureLeaExists s.roster leaId) happlies.roster
  -- what the page came to, and what its events come to on their own
  have hpage := settle_page hhoused happlies.roster (settled pg leaId (rawEvents pages)).2
  have hsettled : (settled pg leaId (rawEvents pages ++ poll.raw leaId s)).Coincide
      (s'.roster, (settled pg leaId (rawEvents pages)).2 ++
        (poll.pageRun leaId (poll.readablePage leaId s)).quarantined s) := by
    rw [settled_append, ← hpage]
    refine Runs.run_simulates (R := Settled.Coincide) (fun e he _ _ hR => ?_) ⟨h.roster, rfl⟩
    exact settle_coincide hR (entityType_of_mem_mapped he)
  obtain ⟨hroster, hquarantine⟩ := hsettled
  constructor
  · rw [hevents]
    exact hdelivered
  · rw [hevents]
    refine happlies.cursor_eq_lastId h.cursor fun e he => hne e ?_
    exact hdelivered.subset (List.mem_append_right _ (List.mem_of_getLast? he))
  · rw [hevents]
    intro e he
    rcases List.mem_append.mp he with he | he
    · exact h.readable e he
    · exact hread e he
  · intro id
    exact houses_applyEvents
      ((h.houses id).sameAt (Roster.ensureLeaExists_sameAt _ _ (by decide) _)) haccepted
      happlies.roster
  · exact fun _ => hlea
  · rw [hevents, Roster.ensureLeaExists_eq_self hlea]
    exact hroster
  · rw [hevents, hquarantine, happlies.quarantine, List.map_append, List.map_append, h.quarantine,
      List.map_map]
    rfl
  · rw [hevents, List.countP_append, List.length_append]
    have hprogress := h.progress
    by_cases hwhole : poll.log = history
    · have hlen : (poll.raw leaId s).length
          = min poll.pageSize (history.length - (rawEvents pages).length) := by
        rw [hraw, hwhole, List.length_take, List.length_drop]
      simp only [List.countP_singleton, hwhole, decide_true, if_true]
      omega
    · simp only [List.countP_singleton, hwhole, decide_false, Bool.false_eq_true, if_false]
      omega

/-- **Along a run.** -/
theorem run (h : s.Paged pg leaId history pages) (hids : (history.map (·.id)).Nodup)
    (hne : ∀ e ∈ history, e.id ≠ "") {polls : List Poll}
    (hpolls : ∀ poll ∈ polls, poll.log <+: history ∧ 1 ≤ poll.pageSize) :
    (Runs.run (Poll.step pg leaId) s polls).Paged pg leaId history
      (pages ++ committedPages pg leaId s polls) := by
  induction polls generalizing s pages with
  | nil =>
    rw [committedPages, List.append_nil]
    exact h
  | cons poll polls ih =>
    obtain ⟨hlog, hsize⟩ := hpolls poll List.mem_cons_self
    have hone : (poll.step pg leaId s).Paged pg leaId history
        (pages ++ poll.committed pg leaId s) := by
      rcases Poll.committed_cases pg leaId poll s with ⟨hnone, hr, hq, hc⟩ | ⟨hpage, _, happlies⟩
      · rw [hnone, List.append_nil]
        exact h.congr hr hq hc
      · rw [hpage]
        exact h.applies hids hne hlog hsize happlies
    rw [Runs.run_cons, committedPages, ← List.append_assoc]
    exact ih hone fun p hp => hpolls p (List.mem_cons_of_mem _ hp)

end Store.Paged

/-! ### The whole log in one page -/

section

variable {leaId : LeaId} {history : List EdLinkEvent} {one : Poll}

theorem raw_of_whole (hlog : one.log = history) (hsize : history.length ≤ one.pageSize) :
    one.raw leaId Store.empty = history := by
  show (one.log.drop 0).take one.pageSize = history
  rw [hlog, List.drop_zero, List.take_of_length_le hsize]

/-- A page with the whole of a readable log commits. -/
theorem exec_of_whole (pg : Postgres) (hids : (history.map (·.id)).Nodup)
    (hread : Readable leaId history) (hlog : one.log = history)
    (hsize : history.length ≤ one.pageSize) (hcommits : one.commits = true) :
    ∃ s' outcome, one.exec pg leaId Store.empty = (s', some outcome) ∧
      outcome.hasMore = false ∧ ∃ page, one.Applies pg leaId page Store.empty s' := by
  have hraw : one.raw leaId Store.empty = history := raw_of_whole hlog hsize
  have hpage : one.page leaId Store.empty = some (one.readablePage leaId Store.empty) :=
    Poll.page_of_readable (by rw [hraw]; exact hread)
  have hadmitted : one.Admitted pg leaId Store.empty :=
    admitted_of_houses (by rw [hraw]; exact hids) fun _ _ _ => .empty
  have hsome : (processOnePage pg (one.pageRun leaId (one.readablePage leaId Store.empty))
      Store.empty).isSome = true :=
    (isSome_processOnePage rfl rfl).mpr (Poll.admitted_iff.mp hadmitted)
  obtain ⟨⟨s', outcome⟩, hprocess⟩ := Option.isSome_iff_exists.mp hsome
  have hexec : one.exec pg leaId Store.empty = (s', some outcome) := by
    rw [Poll.exec, hpage]
    simp only [hcommits, if_true, hprocess]
  have hb : (one.pageRun leaId (one.readablePage leaId Store.empty)).blocked Store.empty = false :=
    pageBlocked_runPipeline rfl
  have hmore : outcome.hasMore = false := by
    rw [hasMore_of_processOnePage hprocess hb]
    show decide (0 + one.pageSize < one.log.length) = false
    rw [hlog]
    exact decide_eq_false (by omega)
  refine ⟨s', outcome, hexec, hmore, ?_⟩
  rcases Poll.exec_eq_some hexec with ⟨hfailed, -⟩ | ⟨page, happlies, -⟩
  · rw [(processOnePage_eq_some hprocess).2, hb, if_neg (by simp)] at hfailed
    cases hfailed
  · exact ⟨page, happlies⟩

end

/-- **A log of distinct ids is delivered once and in order, and ends up as it does in
one page**, whatever the page sizes are and whichever transactions are lost. -/
theorem drained_in_any_pages (pg : Postgres) (leaId : LeaId) (history : List EdLinkEvent)
    (polls : List Poll) (hids : (history.map (·.id)).Nodup) (hne : ∀ e ∈ history, e.id ≠ "")
    (hpolls : ∀ poll ∈ polls, poll.log <+: history ∧ 1 ≤ poll.pageSize) :
    let s := Runs.run (Poll.step pg leaId) Store.empty polls
    let pages := committedPages pg leaId Store.empty polls
    rawEvents pages <+: history ∧
      (Poll.cursor leaId s).value = lastId (rawEvents pages) ∧
      (history.length ≤ pages.countP (fun page => page.log = history) →
        rawEvents pages = history) ∧
      (pages ≠ [] → rawEvents pages = history → ∀ one : Poll, one.log = history →
        1 ≤ one.pageSize → history.length ≤ one.pageSize → one.commits = true →
        ∃ s' outcome, one.exec pg leaId Store.empty = (s', some outcome) ∧
          outcome.hasMore = false ∧ one.raw leaId Store.empty = history ∧
          (Poll.cursor leaId s').value = (Poll.cursor leaId s).value ∧
          s.roster.Coincides s'.roster ∧
          s'.quarantine.map QuarantineRow.undated = s.quarantine.map QuarantineRow.undated) := by
  intro s pages
  have hpaged : s.Paged pg leaId history pages :=
    (Store.Paged.start pg leaId history).run hids hne hpolls
  refine ⟨hpaged.delivered, hpaged.cursor, fun henough => ?_, ?_⟩
  · -- every page of the whole log brings an event, until none is left
    have hprogress := hpaged.progress
    exact hpaged.delivered.eq_of_length_le (by omega)
  · intro hsome hall one hlog hone hsize hcommits
    have hread : Readable leaId history := by
      rw [← hall]
      exact hpaged.readable
    obtain ⟨s', outcome, hexec, hmore, page, happlies⟩ :=
      exec_of_whole pg hids hread hlog hsize hcommits
    have hraw : one.raw leaId Store.empty = history := raw_of_whole hlog hsize
    -- the one page is a run of pages as well
    have hwhole := (Store.Paged.start pg leaId history).applies hids hne
      (hlog ▸ List.prefix_rfl) hone happlies
    have hevents : rawEvents ([] ++ [{ log := one.log, raw := one.raw leaId Store.empty }])
        = history := by
      rw [hraw]
      exact List.append_nil _
    have hroster := hwhole.roster
    have hquarantine := hwhole.quarantine
    have hcursor := hwhole.cursor
    rw [hevents] at hroster hquarantine hcursor
    rw [Roster.ensureLeaExists_eq_self (hwhole.lea (List.cons_ne_nil _ _))] at hroster
    have hroster' := hpaged.roster
    rw [hall, Roster.ensureLeaExists_eq_self (hpaged.lea hsome)] at hroster'
    refine ⟨s', outcome, hexec, hmore, hraw, ?_, hroster'.symm.trans hroster, ?_⟩
    · rw [hcursor, hpaged.cursor, hall]
    · rw [hquarantine, hpaged.quarantine, hall]

/-! ### Three polls -/

namespace PageBoundaries

def person (eventId type id : String) : EdLinkEvent where
  id := eventId
  date := 0
  type := type
  data :=
    [("sourcedId", .str id), ("givenName", .str "Alex"), ("familyName", .str "Diaz"),
      ("roles", .arr [.str "student"])]

/-- Two students leave. -/
def leaving : List EdLinkEvent :=
  [person "evt_1" "person.deleted" "s1", person "evt_2" "person.deleted" "s2"]

/-- The first event has the id that is no cursor. -/
def nameless : List EdLinkEvent :=
  [person "" "person.created" "s1", person "evt_2" "person.created" "s2"]

/-- Pages of one event, and the second poll is lost. -/
def oneByOne (log : List EdLinkEvent) : List Poll :=
  [{ log := log, pageSize := 1, syncJobId := "job-1", now := 1 },
    { log := log, pageSize := 1, syncJobId := "job-2", now := 2, commits := false },
    { log := log, pageSize := 1, syncJobId := "job-3", now := 3 }]

def atOnce (log : List EdLinkEvent) : Poll where
  log := log
  pageSize := 2
  syncJobId := "job-4"
  now := 4

end PageBoundaries

open PageBoundaries in
theorem drained_in_any_pages_leaving :
    (Runs.run (Poll.step .reference "L1") Store.empty (oneByOne leaving)).roster.Coincides
      ((atOnce leaving).step .reference "L1" Store.empty).roster := by
  obtain ⟨-, -, henough, hsame⟩ := drained_in_any_pages .reference "L1" leaving (oneByOne leaving)
    (by decide) (by decide) (by decide +kernel)
  have hall := henough (by decide +kernel)
  obtain ⟨s', outcome, hexec, -, -, -, hroster, -⟩ :=
    hsame (by decide +kernel) hall (atOnce leaving) rfl (by decide) (by decide) rfl
  rw [Poll.step, hexec]
  exact hroster

open PageBoundaries in
/-- A page that ends with an event without an id is delivered again, and the rows of
deleted students have the clocks of their pages. -/
theorem pages_show :
    ¬ rawEvents (committedPages .reference "L1" Store.empty (oneByOne nameless)) <+: nameless ∧
    (Runs.run (Poll.step .reference "L1") Store.empty (oneByOne leaving)).roster.canonical
        .student "s1" ≠
      ((atOnce leaving).step .reference "L1" Store.empty).roster.canonical .student "s1" := by
  decide +kernel
