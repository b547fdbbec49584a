/-
Polls: the pages a worker fetches at the stored cursor, one after another.

A poll is one call of `_process_one_page` with the partner's log as it is then.  The
log is append-only, so what a poll sees of a history is a prefix of it.  A poll that
raises, or whose transaction is lost before the commit, leaves the database alone and
is made again by a later one.

* `drainLea` — the page loop, a run of polls;
* `Delivered.poll` — the window of a poll starts at or before what was delivered, and
  overlaps it or continues it.
-/
import EdlinkRostering.Connector
import EdlinkRostering.SyncWorker
import Mathlib.Data.List.Infix

/-- `EdLinkConnector.name`. -/
def connectorName : String := "edlink"

/-- One poll, with everything it is called with and draws; `commits` is false where
the transaction is lost. -/
structure Poll where
  log : List EdLinkEvent
  pageSize : Nat
  syncJobId : Uuid
  now : Instant
  commits : Bool := true

namespace Poll

/-- The cursor the poll reads. -/
def cursor (leaId : LeaId) (s : Store) : Cursor := s.readCursor leaId connectorName

/-- The events the partner returns. -/
def raw (poll : Poll) (leaId : LeaId) (s : Store) : List EdLinkEvent :=
  (getEvents poll.log (cursor leaId s).value poll.pageSize).events

/-- The page the connector makes of them. -/
def page (poll : Poll) (leaId : LeaId) (s : Store) : Option EventPage :=
  fetchChanges poll.log leaId (cursor leaId s) poll.pageSize

def pageRun (poll : Poll) (leaId : LeaId) (page : EventPage) : PageRun where
  leaId := leaId
  partner := connectorName
  page := page
  syncJobId := poll.syncJobId
  now := poll.now

/-- The state after the poll, and the outcome if it committed. -/
def exec (pg : Postgres) (leaId : LeaId) (poll : Poll) (s : Store) :
    Store × Option PageOutcome :=
  match poll.page leaId s with
  | none => (s, none)
  | some page =>
    if poll.commits then
      match processOnePage pg (poll.pageRun leaId page) s with
      | none => (s, none)
      | some (s', outcome) => (s', some outcome)
    else (s, none)

/-- The state after the poll. -/
def step (pg : Postgres) (leaId : LeaId) (s : Store) (poll : Poll) : Store :=
  (poll.exec pg leaId s).1

end Poll

/-- The page loop of `drain_lea`, with one poll for each turn it may take.  An
exception ends the call. -/
def drainLea (pg : Postgres) (leaId : LeaId) : List Poll → Store → Store × List PageOutcome
  | [], s => (s, [])
  | poll :: polls, s =>
    match poll.exec pg leaId s with
    | (s', none) => (s', [])
    | (s', some outcome) =>
      if !outcome.hasMore || outcome.status ≠ .success then (s', [outcome])
      else
        let rest := drainLea pg leaId polls s'
        (rest.1, outcome :: rest.2)

/-- A drain is a run of polls. -/
theorem drainLea_eq_run (pg : Postgres) (leaId : LeaId) (polls : List Poll) (s : Store) :
    ∃ made, made <+: polls ∧
      (drainLea pg leaId polls s).1 = Runs.run (Poll.step pg leaId) s made := by
  induction polls generalizing s with
  | nil => exact ⟨[], List.prefix_rfl, rfl⟩
  | cons poll polls ih =>
    have hone : [poll] <+: poll :: polls := ⟨polls, rfl⟩
    have hstep : Poll.step pg leaId s poll = (poll.exec pg leaId s).1 := rfl
    rw [drainLea]
    split
    · next s' h => exact ⟨[poll], hone, by rw [Runs.run_cons, hstep, h]; rfl⟩
    · next s' outcome h =>
      split
      · exact ⟨[poll], hone, by rw [Runs.run_cons, hstep, h]; rfl⟩
      · obtain ⟨made, hmade, heq⟩ := ih s'
        refine ⟨poll :: made, List.cons_prefix_cons.mpr ⟨rfl, hmade⟩, ?_⟩
        rw [Runs.run_cons, hstep, h]
        exact heq

/-! ### What one poll does -/

theorem readCursor_upsertCursorState (s s' : Store) (leaId : LeaId) (partner : String)
    (cursor : Cursor) (now : Instant)
    (h : s'.cursorState = (upsertCursorState s leaId partner cursor now).cursorState) :
    (s'.readCursor leaId partner).value = cursor.value := by
  rw [Store.readCursor, h, upsertCursorState, Table.lookup_insert_eq, if_pos rfl]
  by_cases hc : cursor.value = ""
  · simp [hc]
  · simp [hc]

/-- A poll that committed a page. -/
structure Poll.Applies (pg : Postgres) (leaId : LeaId) (poll : Poll) (page : EventPage)
    (s s' : Store) : Prop where
  fetched : poll.page leaId s = some page
  roster : applyEvents pg leaId poll.syncJobId poll.now
    ((poll.pageRun leaId page).accepted s) (s.roster.ensureLeaExists leaId) = some s'.roster
  quarantine : s'.quarantine = s.quarantine ++
    ((poll.pageRun leaId page).quarantined s).map
      (quarantineRow leaId poll.syncJobId poll.now)
  cursor : (Poll.cursor leaId s').value = page.nextCursor.value

theorem readCursor_congr {s s' : Store} (h : s'.cursorState = s.cursorState) (leaId : LeaId)
    (partner : String) : s'.readCursor leaId partner = s.readCursor leaId partner := by
  rw [Store.readCursor, h, Store.readCursor]

/-- A page that is not blocked hands on whether more events follow. -/
theorem hasMore_of_processOnePage {pg : Postgres} {run : PageRun} {s s' : Store}
    {outcome : PageOutcome} (h : processOnePage pg run s = some (s', outcome))
    (hb : run.blocked s = false) : outcome.hasMore = run.page.hasMore := by
  simp only [processOnePage, Option.bind_eq_bind, Option.bind_eq_some_iff] at h
  obtain ⟨started, -, h⟩ := h
  rw [show (run.report s).pageBlocked = run.blocked s from rfl, hb, if_neg (by simp),
    Option.bind_eq_some_iff] at h
  obtain ⟨⟨s₁, counts⟩, -, h⟩ := h
  obtain ⟨-, rfl⟩ := Prod.mk.inj (Option.some.inj h)
  rfl

/-- A poll that returns an outcome committed a page, or a blocked one. -/
theorem Poll.exec_eq_some {pg : Postgres} {leaId : LeaId} {poll : Poll} {s s' : Store}
    {outcome : PageOutcome} (h : poll.exec pg leaId s = (s', some outcome)) :
    (outcome.status = .failed ∧ s'.roster = s.roster ∧ s'.quarantine = s.quarantine ∧
      Poll.cursor leaId s' = Poll.cursor leaId s) ∨
    ∃ page, poll.Applies pg leaId page s s' ∧ outcome.hasMore = page.hasMore ∧
      outcome.status = .success := by
  rw [exec] at h
  split at h
  · exact absurd (Prod.mk.inj h).2 (by simp)
  next page hpage =>
  split at h
  swap
  · exact absurd (Prod.mk.inj h).2 (by simp)
  split at h
  · exact absurd (Prod.mk.inj h).2 (by simp)
  next s₁ outcome₁ hcommit =>
  obtain ⟨rfl, hout⟩ := Prod.mk.inj h
  obtain rfl := Option.some.inj hout
  obtain ⟨hcommits, hstatus⟩ := processOnePage_eq_some hcommit
  cases hb : (poll.pageRun leaId page).blocked s with
  | true =>
    obtain ⟨hr, hq, hc⟩ := hcommits.blocked hb
    rw [hb, if_pos rfl] at hstatus
    exact Or.inl ⟨hstatus, hr, hq, readCursor_congr hc _ _⟩
  | false =>
    rw [hb, if_neg (by simp)] at hstatus
    refine Or.inr ⟨page, ⟨hpage, hcommits.roster hb, hcommits.quarantine hb, ?_⟩,
      hasMore_of_processOnePage hcommit hb, hstatus⟩
    exact readCursor_upsertCursorState _ _ _ _ _ _ (hcommits.cursorState hb)

/-- A poll without an outcome leaves the state alone. -/
theorem Poll.exec_eq_none {pg : Postgres} {leaId : LeaId} {poll : Poll} {s s' : Store}
    (h : poll.exec pg leaId s = (s', none)) : s' = s := by
  rw [exec] at h
  split at h
  · exact (Prod.mk.inj h).1.symm
  split at h
  · split at h
    · exact (Prod.mk.inj h).1.symm
    · exact absurd (Prod.mk.inj h).2 (by simp)
  · exact (Prod.mk.inj h).1.symm

/-- A poll leaves the roster, the quarantine and the cursor alone, or applies a page. -/
theorem Poll.step_cases (pg : Postgres) (leaId : LeaId) (s : Store) (poll : Poll) :
    ((poll.step pg leaId s).roster = s.roster ∧
      (poll.step pg leaId s).quarantine = s.quarantine ∧
      Poll.cursor leaId (poll.step pg leaId s) = Poll.cursor leaId s) ∨
    ∃ page, poll.Applies pg leaId page s (poll.step pg leaId s) := by
  cases hout : (poll.exec pg leaId s).2 with
  | none =>
    have hsame : poll.step pg leaId s = s := Poll.exec_eq_none (Prod.ext rfl hout)
    rw [hsame]
    exact Or.inl ⟨rfl, rfl, rfl⟩
  | some outcome =>
    have hexec : poll.exec pg leaId s = (poll.step pg leaId s, some outcome) := Prod.ext rfl hout
    rcases Poll.exec_eq_some hexec with ⟨-, hr, hq, hc⟩ | ⟨page, happlies, -⟩
    · exact Or.inl ⟨hr, hq, hc⟩
    · exact Or.inr ⟨page, happlies⟩

/-! ### What was delivered -/

/-- The first `m` events of the history were delivered, and the cursor is one of
them or empty. -/
def Delivered (history : List EdLinkEvent) (m : Nat) (cursor : String) : Prop :=
  m ≤ history.length ∧ (cursor = "" ∨ ∃ e ∈ history.take m, e.id = cursor)

section

variable {history log : List EdLinkEvent} {m : Nat} {cursor : String}

theorem Delivered.start (history : List EdLinkEvent) : Delivered history 0 "" :=
  ⟨Nat.zero_le _, Or.inl rfl⟩

/-- A poll does not start after what was delivered. -/
theorem Delivered.sliceStart_le (h : Delivered history m cursor) (hlog : log <+: history) :
    sliceStart log cursor ≤ m := by
  rw [sliceStart]
  split
  · exact Nat.zero_le m
  next hne =>
  obtain ⟨e, he, hid⟩ := h.2.resolve_left hne
  -- where the cursor stands in the history
  obtain ⟨j, hj, hget⟩ := List.mem_take_iff_getElem.mp he
  have hseen : ∀ i, j < i → i ≤ log.length →
      ∃ (hlt : j < log.length), decide (log[j].id = cursor) = true := by
    intro i hji hi
    have hlt : j < log.length := by omega
    refine ⟨hlt, ?_⟩
    rw [hlog.getElem hlt, hget]
    exact decide_eq_true hid
  have hjm : j < m := by omega
  split
  · next i hi =>
    obtain ⟨hlt, -, hbefore⟩ := List.findIdx?_eq_some_iff_getElem.mp hi
    by_contra hlarge
    obtain ⟨_, hmatch⟩ := hseen i (by omega) (by omega)
    exact hbefore j (by omega) hmatch
  · next hnone =>
    by_contra hlarge
    obtain ⟨hlt, hmatch⟩ := hseen log.length (by omega) le_rfl
    have hno := List.findIdx?_eq_none_iff.mp hnone log[j] (List.getElem_mem hlt)
    rw [hno] at hmatch
    exact absurd hmatch (by simp)

/-- **The window of a poll**: what it repeats was delivered, and what is new continues
the delivered events. -/
theorem Delivered.window (h : Delivered history m cursor) (hlog : log <+: history) (n : Nat) :
    ∃ old new, (getEvents log cursor n).events = old ++ new ∧
      (∀ e ∈ old, e ∈ history.take m) ∧
      history.take (m + new.length) = history.take m ++ new ∧
      Delivered history (m + new.length)
        (tokenOr ((getEvents log cursor n).events.getLast?.map (·.id)) cursor) ∧
      ((getEvents log cursor n).hasMore = false → log = history →
        m + new.length = history.length) := by
  have hstart := h.sliceStart_le hlog
  have hevents : (getEvents log cursor n).events = (log.drop (sliceStart log cursor)).take n := rfl
  generalize hraw : (getEvents log cursor n).events = raw at hevents ⊢
  generalize hs : sliceStart log cursor = start at hstart hevents
  -- what the page repeats was delivered before
  have hold : ∀ e ∈ raw.take (m - start), e ∈ history.take m := by
    intro e he
    rw [hevents, List.take_take] at he
    have he' : e ∈ (log.drop start).take (m - start) :=
      (List.take_prefix_take_left (Nat.min_le_left _ _)).subset he
    rw [← List.drop_take] at he'
    exact (hlog.take m).subset (List.mem_of_mem_drop he')
  -- the rest of it comes next in the log
  have hnew : raw.drop (m - start) = (log.drop m).take (n - (m - start)) := by
    rw [hevents, List.drop_take, List.drop_drop, Nat.add_sub_cancel' hstart]
  have hprefix : raw.drop (m - start) <+: history.drop m := by
    rw [hnew]
    exact (List.take_prefix _ _).trans (hlog.drop m)
  have htake : history.take (m + (raw.drop (m - start)).length)
      = history.take m ++ raw.drop (m - start) := by
    rw [List.take_add, ← List.prefix_iff_eq_take.mp hprefix]
  have hmem : ∀ e ∈ raw, e ∈ history.take (m + (raw.drop (m - start)).length) := by
    intro e he
    rw [← List.take_append_drop (m - start) raw] at he
    rw [htake]
    rcases List.mem_append.mp he with he | he
    · exact List.mem_append_left _ (hold e he)
    · exact List.mem_append_right _ he
  refine ⟨raw.take (m - start), raw.drop (m - start), (List.take_append_drop _ _).symm, hold,
    htake, ⟨?_, ?_⟩, ?_⟩
  · -- the cursor stays within the history
    have hlen := hprefix.length_le
    have hrest : (history.drop m).length = history.length - m := List.length_drop
    have hm := h.1
    omega
  · -- the cursor stays, or moves to the last event of the page
    have hstay : cursor = "" ∨ ∃ e ∈ history.take (m + (raw.drop (m - start)).length),
        e.id = cursor := by
      rcases h.2 with hc | ⟨e, he, hid⟩
      · exact Or.inl hc
      · exact Or.inr ⟨e, by rw [htake]; exact List.mem_append_left _ he, hid⟩
    cases hlast : raw.getLast? with
    | none => exact hstay
    | some e =>
      by_cases hid : e.id = ""
      · simpa [tokenOr, hid] using hstay
      · refine Or.inr ⟨e, hmem e (List.mem_of_getLast? hlast), ?_⟩
        simp [tokenOr, hid]
  · -- a page that is not followed by another one reaches the end
    intro hmore hall
    have hstop : ¬ start + n < log.length := by
      rw [← hs]
      exact of_decide_eq_false hmore
    have hlen : (raw.drop (m - start)).length = min (n - (m - start)) (log.length - m) := by
      rw [hnew, List.length_take, List.length_drop]
    have hm := h.1
    rw [← hall] at hm ⊢
    omega

end
