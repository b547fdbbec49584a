/-
Tenant write isolation.

Snapshots are keyed by LEA and id, but canonical rows are inserted, soft-deleted
and restored by id alone, so an operation for one LEA can overwrite the row of
another that uses the same id.  `Op.KeepsOff` is the condition on the operation
and the state under which it does not, and `tenant_isolation` says that it is the
right one: under it every row of every other LEA stays, and an operation that
goes through without it loses one.

* `Store.Isolated` — every row of another LEA is unchanged;
* `tenant_isolation` — the operations that respect it, exactly.
-/
import EdlinkRostering.System

/-- Every canonical row, snapshot, cursor and quarantine row of an LEA other than
`leaId` is unchanged. -/
structure Store.Isolated (leaId : LeaId) (s s' : Store) : Prop where
  canonical : ∀ et id row, s.roster.canonical et id = some row → row.owner id ≠ leaId →
    s'.roster.canonical et id = some row
  snapshots : ∀ et, ∀ row ∈ (s.roster.snapshots et).rows, row.leaId ≠ leaId →
    row ∈ (s'.roster.snapshots et).rows
  cursorState : ∀ key row, s.cursorState.lookup key = some row → key.1 ≠ leaId →
    s'.cursorState.lookup key = some row
  quarantine : ∀ (i : Nat) (row : QuarantineRow), s.quarantine[i]? = some row →
    row.leaId ≠ leaId → s'.quarantine[i]? = some row

theorem Store.Isolated.refl (leaId : LeaId) (s : Store) : s.Isolated leaId s :=
  ⟨fun _ _ _ h _ => h, fun _ _ h _ => h, fun _ _ h _ => h, fun _ _ h _ => h⟩

/-- The canonical row under the id belongs to another LEA. -/
def Roster.foreign (r : Roster) (leaId : LeaId) (et : EntityType) (id : String) : Bool :=
  (r.canonical et id).any fun row => row.owner id ≠ leaId

theorem Roster.foreign_eq_false {r : Roster} {leaId : LeaId} {et : EntityType} {id : String} :
    r.foreign leaId et id = false ↔
      ∀ row, r.canonical et id = some row → row.owner id = leaId := by
  rw [foreign]
  cases r.canonical et id <;> simp

theorem Roster.foreign_eq_true {r : Roster} {leaId : LeaId} {et : EntityType} {id : String} :
    r.foreign leaId et id = true ↔
      ∃ row, r.canonical et id = some row ∧ row.owner id ≠ leaId := by
  rw [foreign]
  cases r.canonical et id <;> simp

theorem Roster.foreign_congr {r r' : Roster} {leaId : LeaId} {et : EntityType} {id : String}
    (h : r'.canonical et id = r.canonical et id) :
    r'.foreign leaId et id = r.foreign leaId et id := by
  rw [foreign, h, foreign]

/-- A row of `leas` belongs to the LEA it describes. -/
theorem Roster.owner_lea {r : Roster} {id : LeaId} {row : CanonicalRow}
    (h : r.canonical .lea id = some row) : row.owner id = id := by
  have ht := entityType_of_canonical h
  cases row with
  | lea row => rfl
  | student row | enrollment row => exact absurd ht (by simp [CanonicalRow.entityType])

/-! ### One write under one key -/

/-- The step from `r` to `r'` writes one canonical row and touches the snapshots
of `leaId` under its key alone. -/
structure Roster.WritesAt (leaId : LeaId) (et : EntityType) (id : String) (row : CanonicalRow)
    (r r' : Roster) : Prop where
  canonical : ∀ et' id', r'.canonical et' id'
    = if et' = et ∧ id' = id then some row else r.canonical et' id'
  live : ∀ et' id', ¬ (et' = et ∧ id' = id) → r'.live et' leaId id' = r.live et' leaId id'
  snapshots : ∀ et', ∀ x ∈ (r.snapshots et').rows, x.leaId ≠ leaId → x ∈ (r'.snapshots et').rows

/-- Superseding the snapshots of one LEA leaves the rows of the others. -/
theorem Roster.mem_supersede_insert {r : Roster} {et et' : EntityType} {leaId : LeaId}
    {k : String} {g : Uuid} {i : Instant} {new x : SnapshotRow}
    (hx : x ∈ (r.snapshots et').rows) (hl : x.leaId ≠ leaId) :
    x ∈ (((r.supersede et leaId k g i).insertSnapshot et new).snapshots et').rows := by
  refine mem_insertSnapshot.mpr (Or.inl (mem_supersede.mpr ⟨x, hx, ?_⟩))
  rw [if_neg]
  rintro ⟨-, h⟩
  exact hl (SnapshotRow.liveAt_iff.mp h).1

section

variable {pg : Postgres} {leaId : LeaId} {syncJobId : Uuid} {now : Instant}

theorem applyEventRoster_writesAt {r r' : Roster} {event : NormalizedEvent}
    (h : applyEventRoster pg leaId syncJobId now r event = some r') :
    (r.dedups pg leaId event = true ∧ r' = r) ∨
    (r.dedups pg leaId event = false ∧ ∃ row, event.canonicalRow pg now = some row ∧
      r.WritesAt leaId event.entityType event.naturalKey row r') := by
  rcases applyEventRoster_eq_some.mp h with ⟨hd, rfl⟩ | ⟨hd, row, hrow, -, rfl⟩
  · exact Or.inl ⟨hd, rfl⟩
  · refine Or.inr ⟨hd, row, hrow, fun et' id' => ?_, fun et' id' hne => ?_, fun et' x hx hl => ?_⟩
    · rw [Roster.canonical_setCanonical, Roster.canonical_pushSnapshot,
        canonicalRow_entityType hrow]
    · rw [Roster.live_setCanonical, Roster.live_pushSnapshot, if_neg fun h => hne ⟨h.1, h.2.2⟩,
        if_neg fun h => hne ⟨h.1, h.2.2⟩, List.append_nil]
    · rw [Roster.snapshots_setCanonical]
      exact Roster.mem_supersede_insert hx hl

theorem applyEntryCounted_writesAt {r r' : Roster} {entry : PartnerEntry} {n n' : Nat}
    (h : applyEntryCounted pg leaId syncJobId now (r, n) entry = some (r', n')) :
    ∃ id, entry.id = some id ∧ ((r.skips leaId id entry = true ∧ r' = r) ∨
      (r.skips leaId id entry = false ∧ ∃ row, row.owner id = leaId ∧
        r.WritesAt leaId entry.entityType id row r')) := by
  obtain ⟨id, hid, ⟨hs, rfl⟩ | ⟨hs, row, hrow, -, rfl⟩⟩ := applyEntryCounted_eq_some h
  · exact ⟨id, hid, Or.inl ⟨hs, rfl⟩⟩
  · obtain ⟨het, -, howner⟩ := canonicalRow_entry_type hrow
    refine ⟨id, hid, Or.inr ⟨hs, row, howner id, fun et' id' => ?_, fun et' id' hne => ?_,
      fun et' x hx hl => ?_⟩⟩
    · rw [Roster.canonical_setCanonical, Roster.pushEntry, Roster.canonical_insertSnapshot,
        Roster.canonical_supersede, het]
    · rw [Roster.live_setCanonical, Roster.pushEntry, Roster.live_insertSnapshot, if_neg,
        List.append_nil, Roster.live_supersede, if_neg fun h => hne ⟨h.1, h.2.2⟩]
      rintro ⟨he, hk⟩
      refine hne ⟨he, ?_⟩
      rw [← (SnapshotRow.liveAt_iff.mp hk).2.1, SnapshotRow.stored_naturalKey]
      rfl
    · rw [Roster.snapshots_setCanonical]
      exact Roster.mem_supersede_insert hx hl

end

/-! ### Runs of such writes -/

/-- Where `r` differs from `s` under a student or enrollment id, the row there
was not another LEA's, and is not now. -/
def Roster.Apart (leaId : LeaId) (s r : Roster) : Prop :=
  ∀ et ≠ .lea, ∀ id, (r.live et leaId id = s.live et leaId id ∧
      r.canonical et id = s.canonical et id) ∨
    (s.foreign leaId et id = false ∧ r.foreign leaId et id = false)

namespace Roster.Apart

variable {leaId : LeaId} {s r r' : Roster}

theorem of_eq (hl : ∀ et id, r.live et leaId id = s.live et leaId id)
    (hc : ∀ et ≠ .lea, ∀ id, r.canonical et id = s.canonical et id) : s.Apart leaId r :=
  fun et het id => Or.inl ⟨hl et id, hc et het id⟩

theorem canonical (h : s.Apart leaId r) {et : EntityType} (het : et ≠ .lea) {id : String}
    {row : CanonicalRow} (hrow : s.canonical et id = some row) (hf : row.owner id ≠ leaId) :
    r.canonical et id = some row := by
  rcases h et het id with ⟨-, hc⟩ | ⟨hs, -⟩
  · rw [hc, hrow]
  · exact absurd (Roster.foreign_eq_false.mp hs row hrow) hf

theorem write (h : s.Apart leaId r) {et : EntityType} {id : String} {row : CanonicalRow}
    (hw : r.WritesAt leaId et id row r')
    (hrow : et ≠ .lea → row.owner id = leaId ∧
      (r.live et leaId id = s.live et leaId id → s.foreign leaId et id = false)) :
    s.Apart leaId r' := by
  intro et' het' id'
  by_cases hk : et' = et ∧ id' = id
  · obtain ⟨rfl, rfl⟩ := hk
    obtain ⟨howner, hclear⟩ := hrow het'
    refine Or.inr ⟨?_, ?_⟩
    · rcases h et' het' id' with ⟨hl, -⟩ | ⟨hs, -⟩
      · exact hclear hl
      · exact hs
    · refine Roster.foreign_eq_false.mpr fun new hnew => ?_
      rw [hw.canonical, if_pos ⟨rfl, rfl⟩] at hnew
      rw [← Option.some.inj hnew]
      exact howner
  · have hc : r'.canonical et' id' = r.canonical et' id' := by rw [hw.canonical, if_neg hk]
    rw [hw.live et' id' hk, Roster.foreign_congr hc, hc]
    exact h et' het' id'

end Roster.Apart

/-- The row under the id is the writing LEA's own. -/
def Roster.Owned (leaId : LeaId) (et : EntityType) (id : String) (r : Roster) : Prop :=
  ∃ row, r.canonical et id = some row ∧ row.owner id = leaId

/-- Nothing was written under the id yet, or the row there is already the writing
LEA's own. -/
def Roster.UntouchedOrOwned (s : Roster) (leaId : LeaId) (et : EntityType) (id : String)
    (r : Roster) : Prop :=
  r.live et leaId id = s.live et leaId id ∨ r.Owned leaId et id

theorem Roster.WritesAt.owned {leaId : LeaId} {et et' : EntityType} {id id' : String}
    {row : CanonicalRow} {r r' : Roster} (hw : r.WritesAt leaId et id row r')
    (hrow : et = et' → row.owner id = leaId) (h : r.Owned leaId et' id') :
    r'.Owned leaId et' id' := by
  by_cases hk : et' = et ∧ id' = id
  · obtain ⟨rfl, rfl⟩ := hk
    exact ⟨row, by rw [hw.canonical, if_pos ⟨rfl, rfl⟩], hrow rfl⟩
  · obtain ⟨old, hold, howner⟩ := h
    exact ⟨old, by rw [hw.canonical, if_neg hk, hold], howner⟩

theorem Roster.WritesAt.untouchedOrOwned {leaId : LeaId} {et et' : EntityType}
    {id id' : String} {row : CanonicalRow} {s r r' : Roster}
    (hw : r.WritesAt leaId et id row r') (hrow : et = et' → row.owner id = leaId)
    (h : s.UntouchedOrOwned leaId et' id' r) : s.UntouchedOrOwned leaId et' id' r' := by
  rcases h with hl | h
  · by_cases hk : et' = et ∧ id' = id
    · obtain ⟨rfl, rfl⟩ := hk
      exact Or.inr ⟨row, by rw [hw.canonical, if_pos ⟨rfl, rfl⟩], hrow rfl⟩
    · exact Or.inl ((hw.live et' id' hk).trans hl)
  · exact Or.inr (hw.owned hrow h)

/-! ### Pages -/

/-- The last event for an LEA entity. -/
def lastLeaEvent (id : LeaId) (events : List NormalizedEvent) : Option NormalizedEvent :=
  (events.filter fun event => event.entityType = .lea && event.naturalKey = id).getLast?

/-- No accepted student or enrollment event that is not deduplicated has the id of
another LEA's row, and what the accepted events leave in the row of another LEA is
what stands there. -/
def PageRun.KeepsOff (pg : Postgres) (run : PageRun) (s : Store) : Prop :=
  run.blocked s = false →
    (∀ event ∈ run.accepted s, event.entityType ≠ .lea →
      s.roster.dedups pg run.leaId event = false →
      s.roster.foreign run.leaId event.entityType event.naturalKey = false) ∧
    ∀ event ∈ run.accepted s, event.foreignLea run.leaId = true →
      s.roster.canonical .lea event.naturalKey ≠ none →
      (lastLeaEvent event.naturalKey (run.accepted s)).bind (·.canonicalRow pg run.now)
        = s.roster.canonical .lea event.naturalKey

section

variable {pg : Postgres} {leaId : LeaId} {syncJobId : Uuid} {now : Instant}

/-- The worker looks for the snapshots of another LEA under the drained one, where
there are none. -/
theorem dedups_foreignLea {r : Roster} {event : NormalizedEvent}
    (h : event.foreignLea leaId = true) : r.dedups pg leaId event = false := by
  obtain ⟨ht, hk⟩ := Bool.and_eq_true_iff.mp h
  simp only [decide_eq_true_eq] at ht hk
  have hnil : r.live .lea leaId event.naturalKey = [] := by
    refine List.eq_nil_iff_forall_not_mem.mpr fun row hrow => ?_
    obtain ⟨hm, hl, hn, -⟩ := SnapshotTable.mem_live.mp hrow
    exact hk (by rw [← hn, ← r.leaKeyed row hm, hl])
  rw [Roster.dedups, Roster.latestLiveSourceEventId, ht, hnil]
  rfl

theorem mem_of_lastLeaEvent {id : LeaId} {events : List NormalizedEvent}
    {event : NormalizedEvent} (h : lastLeaEvent id events = some event) :
    event ∈ events ∧ event.entityType = .lea ∧ event.naturalKey = id := by
  obtain ⟨hm, hp⟩ := List.mem_filter.mp (List.mem_of_getLast? h)
  simp only [Bool.and_eq_true, decide_eq_true_eq] at hp
  exact ⟨hm, hp⟩

theorem lastLeaEvent_concat (id : LeaId) (events : List NormalizedEvent)
    (event : NormalizedEvent) : lastLeaEvent id (events ++ [event])
      = if event.entityType = .lea ∧ event.naturalKey = id then some event
        else lastLeaEvent id events := by
  rw [lastLeaEvent, List.filter_append, List.filter_singleton]
  by_cases h : event.entityType = .lea ∧ event.naturalKey = id
  · simp [h]
  · rw [if_neg h]
    have : (decide (event.entityType = .lea) && decide (event.naturalKey = id)) = false := by
      simpa using h
    simp [this, lastLeaEvent]

/-- The row of another LEA after a page is the row of its last accepted event. -/
theorem canonical_lea_applyEvents {id : LeaId} (hid : id ≠ leaId) {events : List NormalizedEvent}
    {r r' : Roster} (h : applyEvents pg leaId syncJobId now events r = some r') :
    r'.canonical .lea id = match lastLeaEvent id events with
      | none => r.canonical .lea id
      | some event => event.canonicalRow pg now := by
  induction events using List.reverseRecOn generalizing r' with
  | nil =>
    obtain rfl : r = r' := Option.some.inj h
    rfl
  | append_singleton events event ih =>
    obtain ⟨r₁, h₁, h₂⟩ := Runs.foldlM_append_eq_some.mp h
    obtain ⟨r₂, h₃, h₄⟩ := Runs.foldlM_cons_eq_some.mp h₂
    obtain rfl : r₂ = r' := Option.some.inj h₄
    rw [lastLeaEvent_concat]
    by_cases he : event.entityType = .lea ∧ event.naturalKey = id
    · have hf : event.foreignLea leaId = true := by
        simp [NormalizedEvent.foreignLea, he.1, he.2, hid]
      rcases applyEventRoster_writesAt h₃ with ⟨hd, -⟩ | ⟨-, row, hrow, hw⟩
      · rw [dedups_foreignLea hf] at hd
        exact absurd hd (by simp)
      · rw [if_pos he, hw.canonical, if_pos ⟨he.1.symm, he.2.symm⟩]
        exact hrow.symm
    · rw [if_neg he, ← ih h₁]
      rcases applyEventRoster_writesAt h₃ with ⟨-, rfl⟩ | ⟨-, row, -, hw⟩
      · rfl
      · rw [hw.canonical, if_neg fun h => he ⟨h.1.symm, h.2.symm⟩]

end

theorem dedups_congr {pg : Postgres} {leaId : LeaId} {r s : Roster} {event : NormalizedEvent}
    (h : r.live event.entityType leaId event.naturalKey
      = s.live event.entityType leaId event.naturalKey) :
    r.dedups pg leaId event = s.dedups pg leaId event := by
  simp only [Roster.dedups, Roster.latestLiveSourceEventId, h]

theorem Roster.ensureLeaExists_apart (r : Roster) (leaId : LeaId) :
    r.Apart leaId (r.ensureLeaExists leaId) := by
  refine .of_eq (fun et id => ?_) fun et het id => ?_
  · rw [live, snapshots_ensureLeaExists, live]
  · rw [canonical_ensureLeaExists, if_neg fun h => het h.1]

/-- The snapshots of other LEAs survive a page. -/
theorem snapshots_applyEvents {pg : Postgres} {leaId : LeaId} {syncJobId : Uuid} {now : Instant}
    {events : List NormalizedEvent} {r r' : Roster} {et : EntityType} {x : SnapshotRow}
    (h : applyEvents pg leaId syncJobId now events r = some r') (hl : x.leaId ≠ leaId)
    (hx : x ∈ (r.snapshots et).rows) : x ∈ (r'.snapshots et).rows := by
  refine Runs.foldlM_invariant (I := fun r => x ∈ (r.snapshots et).rows) ?_ hx h
  intro event _ r r' hx hstep
  rcases applyEventRoster_writesAt hstep with ⟨-, rfl⟩ | ⟨-, _, -, hw⟩
  · exact hx
  · exact hw.snapshots et x hx hl

/-- The event loop of a page as a run of writes of the drained LEA. -/
theorem PageRun.owner_of_accepted {pg : Postgres} {run : PageRun} {s : Store}
    {event : NormalizedEvent} {row : CanonicalRow} (hscope : run.page.ScopedTo run.leaId)
    (hb : run.blocked s = false) (he : event ∈ run.accepted s) (ht : event.entityType ≠ .lea)
    (hrow : event.canonicalRow pg run.now = some row) (id : String) :
    row.owner id = run.leaId := by
  obtain ⟨hmem, hc⟩ := PageRun.cleared_of_mem_accepted hb he
  rw [owner_of_cleared hc ht hrow id, hscope event hmem]

theorem page_isolated {pg : Postgres} {run : PageRun} {s s' : Store}
    (hscope : run.page.ScopedTo run.leaId) (hc : run.Commits pg s s')
    (hk : run.KeepsOff pg s) : s.Isolated run.leaId s' := by
  cases hb : run.blocked s with
  | true =>
    obtain ⟨hr, hq, hcs⟩ := hc.blocked hb
    exact ⟨by rw [hr]; exact fun _ _ _ h _ => h, by rw [hr]; exact fun _ _ h _ => h,
      by rw [hcs]; exact fun _ _ h _ => h, by rw [hq]; exact fun _ _ h _ => h⟩
  | false =>
    obtain ⟨hrows, hleas⟩ := hk hb
    have happly := hc.roster hb
    -- students and enrollments: the run of writes stays apart from the other LEAs
    have hapart : s.roster.Apart run.leaId s'.roster := by
      refine Runs.foldlM_invariant (I := fun r => s.roster.Apart run.leaId r) ?_
        (s.roster.ensureLeaExists_apart run.leaId) happly
      intro event he r r' hr hstep
      rcases applyEventRoster_writesAt hstep with ⟨-, rfl⟩ | ⟨hd, row, hrow, hw⟩
      · exact hr
      · refine hr.write hw fun ht => ⟨PageRun.owner_of_accepted hscope hb he ht hrow _,
          fun hl => hrows event he ht ?_⟩
        rw [← dedups_congr hl, hd]
    refine ⟨fun et id row hrow hf => ?_, fun et x hx hl => ?_, fun key row hrow hl => ?_,
      fun i row hrow hl => ?_⟩
    · by_cases het : et = .lea
      · subst het
        have hid : id ≠ run.leaId := Roster.owner_lea hrow ▸ hf
        rw [canonical_lea_applyEvents hid happly]
        cases hlast : lastLeaEvent id (run.accepted s) with
        | none =>
          show (s.roster.ensureLeaExists run.leaId).canonical .lea id = some row
          rw [Roster.canonical_ensureLeaExists, if_neg fun h => hid h.2.1, hrow]
        | some event =>
          obtain ⟨he, ht, rfl⟩ := mem_of_lastLeaEvent hlast
          have hf' : event.foreignLea run.leaId = true := by
            simp [NormalizedEvent.foreignLea, ht, hid]
          have := hleas event he hf' (by rw [hrow]; simp)
          rw [hlast, hrow] at this
          exact this
      · exact hapart.canonical het hrow hf
    · refine snapshots_applyEvents happly hl ?_
      rw [Roster.snapshots_ensureLeaExists]
      exact hx
    · rw [hc.cursorState hb, upsertCursorState, Table.lookup_insert_eq, if_neg, hrow]
      rintro rfl
      exact hl rfl
    · rw [hc.quarantine hb, List.getElem?_append_left, hrow]
      exact (List.getElem?_eq_some_iff.mp hrow).1

theorem page_keepsOff {pg : Postgres} {run : PageRun} {s s' : Store}
    (hscope : run.page.ScopedTo run.leaId) (hc : run.Commits pg s s')
    (hi : s.Isolated run.leaId s') : run.KeepsOff pg s := by
  intro hb
  have happly := hc.roster hb
  refine ⟨fun event he ht hd => ?_, fun event he hf hrow => ?_⟩
  · -- the first event that gets past the high-water mark makes the row our own
    by_contra hforeign
    obtain ⟨row, hrow, howner⟩ := Roster.foreign_eq_true.mp (by simpa using hforeign)
    have howned : s'.roster.Owned run.leaId event.entityType event.naturalKey := by
      refine Runs.foldlM_establishes
        (I := s.roster.UntouchedOrOwned run.leaId event.entityType event.naturalKey)
        (J := Roster.Owned run.leaId event.entityType event.naturalKey) he ?_ ?_ ?_ ?_ happly
      · -- a turn on another event leaves the key alone or writes it for the LEA
        intro e hmem r r' hr hstep
        rcases applyEventRoster_writesAt hstep with ⟨-, rfl⟩ | ⟨-, row, hrow, hw⟩
        · exact hr
        · exact hw.untouchedOrOwned (fun h => PageRun.owner_of_accepted hscope hb hmem
            (h ▸ ht) hrow _) hr
      · intro e hmem r r' hr hstep
        rcases applyEventRoster_writesAt hstep with ⟨-, rfl⟩ | ⟨-, row, hrow, hw⟩
        · exact hr
        · exact hw.owned (fun h => PageRun.owner_of_accepted hscope hb hmem (h ▸ ht) hrow _) hr
      · -- the turn on the event itself gets past the mark
        intro r r' hr hstep
        rcases applyEventRoster_writesAt hstep with ⟨hd', rfl⟩ | ⟨-, row, hrow, hw⟩
        · rcases hr with hl | hr
          · rw [dedups_congr hl, hd] at hd'
            exact absurd hd' (by simp)
          · exact hr
        · exact ⟨row, by rw [hw.canonical, if_pos ⟨rfl, rfl⟩],
            PageRun.owner_of_accepted hscope hb he ht hrow _⟩
      · exact Or.inl (by rw [Roster.live, Roster.snapshots_ensureLeaExists, Roster.live])
    obtain ⟨row', hrow', howner'⟩ := howned
    rw [hi.canonical _ _ row hrow howner, Option.some.injEq] at hrow'
    exact howner (hrow' ▸ howner')
  · have hne : event.naturalKey ≠ run.leaId := by
      simpa using (Bool.and_eq_true_iff.mp hf).2
    -- an event of another LEA writes the row of that LEA
    have ht : event.entityType = .lea := by simpa using (Bool.and_eq_true_iff.mp hf).1
    obtain ⟨row, hrow⟩ := Option.ne_none_iff_exists'.mp hrow
    have hkept := hi.canonical _ _ row hrow (by rw [Roster.owner_lea hrow]; exact hne)
    rw [canonical_lea_applyEvents hne happly] at hkept
    cases hlast : lastLeaEvent event.naturalKey (run.accepted s) with
    | none =>
      have : event ∈ (run.accepted s).filter fun e =>
          e.entityType = .lea && e.naturalKey = event.naturalKey :=
        List.mem_filter.mpr ⟨he, by simp [ht]⟩
      rw [List.getLast?_eq_none_iff.mp hlast] at this
      exact absurd this List.not_mem_nil
    | some last =>
      rw [hlast] at hkept
      rw [hrow]
      exact hkept

/-! ### Bulk loads -/

/-- No entry that is not passed over has the id of another LEA's row. -/
def BulkRun.KeepsOff (run : BulkRun) (s : Store) : Prop :=
  ∀ entry ∈ run.payload.entries, ∀ id ∈ entry.id,
    s.roster.skips run.leaId id entry = false →
    s.roster.foreign run.leaId entry.entityType id = false

theorem skips_congr {leaId : LeaId} {r s : Roster} {id : String} {entry : PartnerEntry}
    (h : r.live entry.entityType leaId id = s.live entry.entityType leaId id) :
    r.skips leaId id entry = s.skips leaId id entry := by
  simp only [Roster.skips, Roster.currentPayload, h]

/-- What a bulk load of `leaId` leaves of the rows of other LEAs. -/
structure Roster.KeepsForeign (s : Roster) (leaId : LeaId) (r : Roster) : Prop where
  apart : s.Apart leaId r
  leas : ∀ id row, id ≠ leaId → s.canonical .lea id = some row → r.canonical .lea id = some row
  snapshots : ∀ et, ∀ x ∈ (s.snapshots et).rows, x.leaId ≠ leaId → x ∈ (r.snapshots et).rows

namespace Roster.KeepsForeign

variable {s r : Roster} {leaId : LeaId}

theorem refl (s : Roster) : s.KeepsForeign leaId s :=
  ⟨.of_eq (fun _ _ => rfl) fun _ _ _ => rfl, fun _ _ _ h => h, fun _ _ h _ => h⟩

theorem ensureLeaExists (h : s.KeepsForeign leaId r) :
    s.KeepsForeign leaId (r.ensureLeaExists leaId) := by
  refine ⟨fun et het id => ?_, fun id row hid hrow => ?_, fun et x hx hl => ?_⟩
  · have hc : (r.ensureLeaExists leaId).canonical et id = r.canonical et id := by
      rw [Roster.canonical_ensureLeaExists, if_neg fun h => het h.1]
    rw [Roster.live, Roster.snapshots_ensureLeaExists, ← Roster.live, Roster.foreign_congr hc, hc]
    exact h.apart et het id
  · rw [Roster.canonical_ensureLeaExists, if_neg fun h => hid h.2.1]
    exact h.leas id row hid hrow
  · rw [Roster.snapshots_ensureLeaExists]
    exact h.snapshots et x hx hl

/-- An entry that is skipped, or whose canonical row is not another LEA's. -/
theorem entry {pg : Postgres} {syncJobId : Uuid} {createdAt : Instant} {e : PartnerEntry}
    {r' : Roster} {n n' : Nat} (h : s.KeepsForeign leaId r)
    (hk : ∀ id ∈ e.id, s.skips leaId id e = false →
      s.foreign leaId e.entityType id = false)
    (hstep : applyEntryCounted pg leaId syncJobId createdAt (r, n) e = some (r', n')) :
    s.KeepsForeign leaId r' := by
  obtain ⟨id, hid, ⟨-, rfl⟩ | ⟨hs, row, howner, hw⟩⟩ := applyEntryCounted_writesAt hstep
  · exact h
  · refine ⟨h.apart.write hw fun _ => ⟨howner, fun hl => hk id hid ?_⟩,
      fun id' row' hid' hrow' => ?_,
      fun et x hx hl => hw.snapshots et x (h.snapshots et x hx hl) hl⟩
    · rw [← skips_congr hl, hs]
    · rw [hw.canonical, if_neg fun h => e.entityType_ne_lea h.1.symm]
      exact h.leas id' row' hid' hrow'

end Roster.KeepsForeign

theorem bulkLoad_isolated {pg : Postgres} {run : BulkRun} {s : Store} (hk : run.KeepsOff s) :
    s.Isolated run.leaId (bulkLoad pg run s).1 := by
  have hframe := bulkLoad_frame pg run s
  have hroster : s.roster.KeepsForeign run.leaId (bulkLoad pg run s).1.roster :=
    bulkLoad_induction (P := s.roster.KeepsForeign run.leaId) (fun _ h => h.ensureLeaExists)
      (fun _ _ _ _ e _ he h hstep => h.entry (hk e he) hstep) (.refl _)
  refine ⟨fun et id row hrow hf => ?_, hroster.snapshots, fun key row hrow hl => ?_,
    fun i row hrow _ => ?_⟩
  · by_cases het : et = .lea
    · subst het
      exact hroster.leas id row (Roster.owner_lea hrow ▸ hf) hrow
    · exact hroster.apart.canonical het hrow hf
  · rw [hframe.cursorState key fun h => hl (by rw [h]), hrow]
  · rw [hframe.quarantine, hrow]

section

variable {pg : Postgres} {leaId : LeaId} {syncJobId : Uuid} {createdAt : Instant} {s : Roster}
  {et : EntityType} {id : String}

theorem untouchedOrOwned_applyEntryCounted {entry : PartnerEntry} {acc acc' : Roster × Nat}
    (h : applyEntryCounted pg leaId syncJobId createdAt acc entry = some acc')
    (hr : s.UntouchedOrOwned leaId et id acc.1) : s.UntouchedOrOwned leaId et id acc'.1 := by
  obtain ⟨_, _, ⟨-, heq⟩ | ⟨-, row, howner, hw⟩⟩ := applyEntryCounted_writesAt h
  · rw [heq]
    exact hr
  · exact hw.untouchedOrOwned (fun _ => howner) hr

theorem owned_applyEntryCounted {entry : PartnerEntry} {acc acc' : Roster × Nat}
    (h : applyEntryCounted pg leaId syncJobId createdAt acc entry = some acc')
    (hr : acc.1.Owned leaId et id) : acc'.1.Owned leaId et id := by
  obtain ⟨_, _, ⟨-, heq⟩ | ⟨-, row, howner, hw⟩⟩ := applyEntryCounted_writesAt h
  · rw [heq]
    exact hr
  · exact hw.owned (fun _ => howner) hr

theorem untouchedOrOwned_applyEntityType {entries : List PartnerEntry} {r r' : Roster}
    {written : Nat}
    (h : applyEntityType pg leaId syncJobId createdAt entries r = some (r', written))
    (hr : s.UntouchedOrOwned leaId et id r) : s.UntouchedOrOwned leaId et id r' :=
  Runs.foldlM_invariant (s := (r, 0)) (I := fun acc => s.UntouchedOrOwned leaId et id acc.1)
    (fun _ _ _ _ hr hstep => untouchedOrOwned_applyEntryCounted hstep hr) hr h

theorem owned_applyEntityType {entries : List PartnerEntry} {r r' : Roster} {written : Nat}
    (h : applyEntityType pg leaId syncJobId createdAt entries r = some (r', written))
    (hr : r.Owned leaId et id) : r'.Owned leaId et id :=
  Runs.foldlM_invariant (s := (r, 0)) (I := fun acc => acc.1.Owned leaId et id)
    (fun _ _ _ _ hr hstep => owned_applyEntryCounted hstep hr) hr h

/-- An entry that is not passed over in the first state owns its row at the end of
its transaction. -/
theorem applyEntityType_establishes {entries : List PartnerEntry} {entry : PartnerEntry}
    {r r' : Roster} {written : Nat} (he : entry ∈ entries) (hid : entry.id = some id)
    (hskip : s.skips leaId id entry = false)
    (hr : s.UntouchedOrOwned leaId entry.entityType id r)
    (h : applyEntityType pg leaId syncJobId createdAt entries r = some (r', written)) :
    r'.Owned leaId entry.entityType id := by
  refine Runs.foldlM_establishes (s := (r, 0))
    (I := fun acc => s.UntouchedOrOwned leaId entry.entityType id acc.1)
    (J := fun acc => acc.1.Owned leaId entry.entityType id) he
    (fun _ _ _ _ hr hstep => untouchedOrOwned_applyEntryCounted hstep hr)
    (fun _ _ _ _ hr hstep => owned_applyEntryCounted hstep hr) ?_ hr h
  rintro acc acc' hr hstep
  obtain ⟨_, hid', hcase⟩ := applyEntryCounted_writesAt hstep
  obtain rfl := Option.some.inj (hid.symm.trans hid')
  rcases hcase with ⟨hs, heq⟩ | ⟨-, row, howner, hw⟩
  · rcases hr with hl | hr
    · rw [skips_congr hl, hskip] at hs
      exact absurd hs (by simp)
    · rw [heq]
      exact hr
  · exact ⟨row, by rw [hw.canonical, if_pos ⟨rfl, rfl⟩], howner⟩

end

theorem bulkLoad_keepsOff {pg : Postgres} {run : BulkRun} {s s' : Store}
    {report : BulkLoadReport} (h : bulkLoad pg run s = (s', some report))
    (hi : s.Isolated run.leaId s') : run.KeepsOff s := by
  intro entry he id hid hskip
  by_contra hforeign
  obtain ⟨row, hrow, howner⟩ := Roster.foreign_eq_true.mp (by simpa using hforeign)
  obtain ⟨r₁, w₁, w₂, h₁, h₂⟩ := bulkLoad_eq_some h
  have hstart : s.roster.UntouchedOrOwned run.leaId entry.entityType id
      (s.roster.ensureLeaExists run.leaId) :=
    Or.inl (by rw [Roster.live, Roster.snapshots_ensureLeaExists, Roster.live])
  have howned : s'.roster.Owned run.leaId entry.entityType id := by
    rcases List.mem_append.mp he with he | he
    · exact owned_applyEntityType h₂ (applyEntityType_establishes he hid hskip hstart h₁)
    · exact applyEntityType_establishes he hid hskip
        (untouchedOrOwned_applyEntityType h₁ hstart) h₂
  obtain ⟨row', hrow', howner'⟩ := howned
  rw [hi.canonical _ _ row hrow howner, Option.some.injEq] at hrow'
  exact howner (hrow' ▸ howner')

/-! ### Reverts -/

/-- Every live snapshot of the job is the LEA's own, and so is the canonical row
under its id, if there is one. -/
def RevertRun.KeepsOff (run : RevertRun) (leaId : LeaId) (s : Store) : Prop :=
  ∀ et, ∀ row ∈ (s.roster.snapshots et).rows, row.generationId = run.syncJobId →
    row.supersededByGenerationId = none →
    row.leaId = leaId ∧ s.roster.foreign leaId et row.naturalKey = false

theorem revert_isolated {pg : Postgres} {run : RevertRun} {leaId : LeaId} {s s' : Store}
    {outcome : RevertOutcome} (hr : Reverts pg run s s' outcome) (hk : run.KeepsOff leaId s) :
    s.Isolated leaId s' := by
  obtain ⟨counts, hroster, -⟩ := hr.roster
  -- the live snapshots of the job stay among the keys they had at the start
  have hinv := revertTables_induction
    (P := fun r _ => (∀ et, ∀ row ∈ (r.snapshots et).rows, row.generationId = run.syncJobId →
        row.supersededByGenerationId = none →
        row.leaId = leaId ∧ s.roster.foreign leaId et row.naturalKey = false) ∧
      (∀ et id row, s.roster.canonical et id = some row → row.owner id ≠ leaId →
        r.canonical et id = some row) ∧
      ∀ et, ∀ x ∈ (s.roster.snapshots et).rows, x.leaId ≠ leaId → x ∈ (r.snapshots et).rows)
    ?_ ⟨hk, fun _ _ _ h _ => h, fun _ _ h _ => h⟩ hroster
  · obtain ⟨-, hcan, hsnap⟩ := hinv
    exact ⟨hcan, hsnap, by rw [hr.cursorState]; exact fun _ _ h _ => h,
      by rw [hr.quarantine]; exact fun _ _ h _ => h⟩
  · rintro et r counts r' counts' row ⟨hlive, hcan, hsnap⟩ hrow hgen hnone hturn
    obtain ⟨hl, hf⟩ := hlive et row hrow hgen hnone
    obtain ⟨hs, hc, -⟩ := revertRow_eq_some hturn
    generalize hp : r.findPriorLiveSnapshot pg et row.leaId row.naturalKey run.syncJobId = prior
      at hs hc
    refine ⟨fun et' x hx hgen' hnone' => ?_, fun et' id c hrow' howner => ?_,
      fun et' x hx hxl => ?_⟩
    · have hxlive : x ∈ r'.live et' x.leaId x.naturalKey :=
        SnapshotTable.mem_live.mpr ⟨hx, rfl, rfl, hnone'⟩
      rw [Roster.live, hs] at hxlive
      rcases (Roster.mem_live_rewind hrow hnone fun p h =>
        (Roster.prior_spec (h ▸ hp)).1).mp hxlive with ⟨hx', -⟩ | ⟨rfl, p, hpp, hxp, -, -⟩
      · exact hlive et' x (SnapshotTable.mem_live.mp hx').1 hgen' hnone'
      · obtain ⟨-, -, hpl, hpk⟩ := Roster.prior_spec (hpp ▸ hp)
        rw [hxp]
        exact ⟨hpl.trans hl, by rw [SnapshotRow.mark_naturalKey, hpk]; exact hf⟩
    · rw [hc.canonical_ne, hcan et' id c hrow' howner]
      rintro ⟨rfl, rfl⟩
      exact howner (Roster.foreign_eq_false.mp hf c hrow')
    · rw [hs]
      refine Roster.mem_rewind_of_key hrow (fun p h => (Roster.prior_spec (h ▸ hp)).2)
        (hsnap et' x hx hxl) fun h => hxl (h.2.1.trans hl)

/-- What the services write: payloads that name the LEA of their snapshot, and no
deletion at the instant of this revert. -/
structure RevertRun.Recorded (run : RevertRun) (s : Store) : Prop where
  payload : ∀ et ≠ .lea, ∀ row ∈ (s.roster.snapshots et).rows,
    Dict.requiredColumn row.payload "lea_id" (some row.leaId) = some row.leaId
  clock : ∀ et id row, s.roster.canonical et id = some row → row.deletedAt ≠ some run.now

/-- What holds at every turn of a revert that retires only snapshots of the LEA, of a row
it has come across: it is written for the LEA, soft-deleted now, or still to come. -/
structure RevertRun.Turning (run : RevertRun) (leaId : LeaId) (et : EntityType)
    (row : SnapshotRow) (r : Roster) : Prop where
  own : ∀ et, ∀ x ∈ (r.snapshots et).rows, x.generationId = run.syncJobId →
    x.supersededByGenerationId = none → x.leaId = leaId
  payload : ∀ et ≠ .lea, ∀ x ∈ (r.snapshots et).rows,
    Dict.requiredColumn x.payload "lea_id" (some x.leaId) = some x.leaId
  written : ∃ new, r.canonical et row.naturalKey = some new ∧
    (row ∈ (r.snapshots et).rows ∨ new.owner row.naturalKey = leaId ∨
      new.deletedAt = some run.now)

theorem RevertRun.Turning.turn {pg : Postgres} {run : RevertRun} {leaId : LeaId}
    {et et' : EntityType} {row x : SnapshotRow} {r r' : Roster} {counts counts' : RevertCounts}
    (h : run.Turning leaId et row r) (het : et ≠ .lea) (hx : x ∈ (r.snapshots et').rows)
    (hxg : x.generationId = run.syncJobId) (hxn : x.supersededByGenerationId = none)
    (hturn : revertRow pg run et' (r, counts) x = some (r', counts')) :
    run.Turning leaId et row r' := by
  obtain ⟨hs, hcan, -⟩ := revertRow_eq_some hturn
  have hxl := h.own et' x hx hxg hxn
  generalize hp : r.findPriorLiveSnapshot pg et' x.leaId x.naturalKey run.syncJobId = prior
    at hs hcan
  refine ⟨fun et y hy hyg hyn => ?_, fun et het y hy => ?_, ?_⟩
  · have hylive : y ∈ r'.live et y.leaId y.naturalKey :=
      SnapshotTable.mem_live.mpr ⟨hy, rfl, rfl, hyn⟩
    rw [Roster.live, hs] at hylive
    rcases (Roster.mem_live_rewind hx hxn fun p h =>
      (Roster.prior_spec (h ▸ hp)).1).mp hylive with ⟨hy', -⟩ | ⟨rfl, p, hpp, hyp, -, -⟩
    · exact h.own et y (SnapshotTable.mem_live.mp hy').1 hyg hyn
    · rw [hyp, SnapshotRow.mark_leaId, (Roster.prior_spec (hpp ▸ hp)).2.2.1, hxl]
  · rw [hs] at hy
    obtain ⟨old, hold, g, i, rfl⟩ := Roster.mem_rewind_old hy
    exact h.payload et het old hold
  · obtain ⟨new, hnew, hcase⟩ := h.written
    by_cases hk : et = et' ∧ row.naturalKey = x.naturalKey
    · obtain ⟨rfl, hk⟩ := hk
      rw [hk] at hnew ⊢
      rcases hcan.canonical_self hnew with ⟨-, hnew'⟩ | ⟨p, new', hpp, hpl, hnew'⟩
      · -- no snapshot to go back to
        exact ⟨_, hnew', Or.inr (Or.inr (CanonicalRow.deletedAt_withDeletedAt _ _))⟩
      · -- the payload of the prior snapshot names its LEA
        refine ⟨new', hnew', Or.inr (Or.inl ?_)⟩
        obtain ⟨-, hpm, hpleaId, -⟩ := Roster.prior_spec (hpp ▸ hp)
        have howner' := owner_of_payload het hpl x.naturalKey
        have hpayload := h.payload et het p hpm
        rw [hpleaId] at hpayload
        rw [howner', hxl] at hpayload
        exact Option.some.inj hpayload
    · refine ⟨new, by rw [hcan.canonical_ne hk, hnew], hcase.imp_left fun hmem => ?_⟩
      rw [hs]
      exact Roster.mem_rewind_of_key hx (fun p h => (Roster.prior_spec (h ▸ hp)).2) hmem
        fun h => hk ⟨h.1, h.2.2⟩

theorem revert_keepsOff {pg : Postgres} {run : RevertRun} {leaId : LeaId} {s s' : Store}
    {outcome : RevertOutcome} (hr : Reverts pg run s s' outcome) (hrec : run.Recorded s)
    (hi : s.Isolated leaId s') : run.KeepsOff leaId s := by
  obtain ⟨counts, hroster, -⟩ := hr.roster
  have hgen : run.revertGenerationId ≠ run.syncJobId := by
    obtain ⟨job, hjob, -⟩ := hr.target
    intro h
    rw [← h, hr.fresh] at hjob
    exact absurd hjob (by simp)
  have hretire : ∀ et, ∀ row ∈ (s.roster.snapshots et).rows, row.generationId = run.syncJobId →
      row.supersededByGenerationId = none → row ∉ (s'.roster.snapshots et).rows := by
    intro et row hrow hg hnone hmem
    have := revertTables_retires hgen hg hnone hrow hroster row hmem rfl
    rw [hnone] at this
    exact absurd this (by simp)
  have hown : ∀ et, ∀ row ∈ (s.roster.snapshots et).rows, row.generationId = run.syncJobId →
      row.supersededByGenerationId = none → row.leaId = leaId := by
    intro et row hrow hg hnone
    by_contra hne
    exact hretire et row hrow hg hnone (hi.snapshots et row hrow hne)
  intro et row hrow hg hnone
  refine ⟨hown et row hrow hg hnone, ?_⟩
  by_contra hforeign
  obtain ⟨c, hc, howner⟩ := Roster.foreign_eq_true.mp (by simpa using hforeign)
  have het : et ≠ .lea := by
    rintro rfl
    refine howner ?_
    rw [Roster.owner_lea hc, ← s.roster.leaKeyed row hrow, hown _ row hrow hg hnone]
  -- the row of the key is soft-deleted now or rewritten for the LEA by its last turn
  have hinv : run.Turning leaId et row s'.roster :=
    revertTables_induction (P := fun r _ => run.Turning leaId et row r)
      (fun _ _ _ _ _ _ h hx hxg hxn hturn => h.turn het hx hxg hxn hturn)
      ⟨hown, hrec.payload, c, hc, Or.inl hrow⟩ hroster
  obtain ⟨new, hnew, hcase⟩ := hinv.written
  rw [hi.canonical et _ c hc howner, Option.some.injEq] at hnew
  subst hnew
  rcases hcase with hmem | ho | hd
  · exact hretire et row hrow hg hnone hmem
  · exact howner ho
  · exact hrec.clock et _ c hc hd

/-! ### Releases -/

/-- The enrollment to be released does not have the id of another LEA's row. -/
def ReleaseRun.KeepsOff (run : ReleaseRun) (leaId : LeaId) (s : Store) : Prop :=
  match s.quarantine[run.quarantineId]? with
  | some { rawPayload := .obj payload, .. } =>
    ∀ id ∈ Dict.requiredColumn payload "id", s.roster.foreign leaId .enrollment id = false
  | _ => True

theorem markResolved_isolated {s : Store} {id : Nat} {row : QuarantineRow}
    (hrow : s.quarantine[id]? = some row) (resolvedAt : Instant) (status operator : String)
    (reason : Option String) {i : Nat} {x : QuarantineRow} (hx : s.quarantine[i]? = some x)
    (hl : x.leaId ≠ row.leaId) :
    (s.markResolved id resolvedAt status operator reason).quarantine[i]? = some x := by
  have hne : id ≠ i := by
    rintro rfl
    rw [hrow, Option.some.injEq] at hx
    exact hl (hx ▸ rfl)
  show (s.quarantine.modify id _)[i]? = some x
  rw [List.getElem?_modify_ne _ _ hne, hx]

theorem release_isolated_iff {run : ReleaseRun} {s s' : Store} {leaId : LeaId}
    {row : QuarantineRow} (hrow : s.quarantine[run.quarantineId]? = some row)
    (hl : row.leaId = leaId) (hr : Releases run s s') :
    s.Isolated leaId s' ↔ run.KeepsOff leaId s := by
  obtain ⟨row', payload, studentId, snapshot, id, enrollment, hrow', -, hp, -, -, -, hsnap, hen,
    hu, -⟩ := hr.released
  obtain rfl := Option.some.inj (hrow.symm.trans hrow')
  obtain ⟨-, hs'⟩ := Roster.upsert_eq_some.mp hu
  obtain ⟨hid, hlen⟩ := enrollmentOfPayload_id hen
  have hcan : ∀ et k, s'.roster.canonical et k
      = if et = .enrollment ∧ k = id then some (.enrollment enrollment)
        else s.roster.canonical et k := by
    intro et k
    rw [hs', Roster.canonical_setCanonical, Roster.canonical_insertSnapshot]
    rfl
  have hkeeps : run.KeepsOff leaId s ↔ s.roster.foreign leaId .enrollment id = false := by
    rw [ReleaseRun.KeepsOff, hrow]
    obtain ⟨_, _, _, _, _, _, _, _, _, _⟩ := row
    obtain rfl := hp
    simp [hid]
  rw [hkeeps]
  constructor
  · intro hi
    refine Roster.foreign_eq_false.mpr fun c hc => ?_
    by_contra hne
    have := hi.canonical _ _ c hc hne
    rw [hcan, if_pos ⟨rfl, rfl⟩, Option.some.injEq] at this
    exact hne (by rw [← this]; exact hlen.trans hl)
  · intro hf
    refine ⟨fun et k c hc hne => ?_, fun et x hx _ => ?_, ?_, fun i x hx hne => ?_⟩
    · rw [hcan, if_neg, hc]
      rintro ⟨rfl, rfl⟩
      exact hne (Roster.foreign_eq_false.mp hf c hc)
    · rw [hs', Roster.snapshots_setCanonical]
      exact Roster.mem_insertSnapshot.mpr (Or.inl hx)
    · rw [hr.cursorState]
      exact fun _ _ h _ => h
    · rw [hr.quarantine]
      exact markResolved_isolated hrow _ _ _ _ hx (hl ▸ hne)

/-! ### Every operation -/

/-- The operation is carried out for the LEA. -/
def Op.For (leaId : LeaId) (s : Store) : Op → Prop
  | .page run => run.leaId = leaId ∧ run.page.ScopedTo leaId
  | .bulkLoad run => run.leaId = leaId
  | .revert run => ∃ job, s.syncJobs.lookup run.syncJobId = some job ∧ job.leaId = leaId
  | .release run => ∃ row, s.quarantine[run.quarantineId]? = some row ∧ row.leaId = leaId
  | .reject run => ∃ row, s.quarantine[run.quarantineId]? = some row ∧ row.leaId = leaId
  | .retry run => ∃ job, s.syncJobs.lookup run.syncJobId = some job ∧ job.leaId = leaId

/-- The condition under which the operation leaves other LEAs alone. -/
def Op.KeepsOff (pg : Postgres) (leaId : LeaId) (s : Store) : Op → Prop
  | .page run => run.KeepsOff pg s
  | .bulkLoad run => run.KeepsOff s
  | .revert run => run.KeepsOff leaId s
  | .release run => run.KeepsOff leaId s
  | .reject _ | .retry _ => True

/-- The operation commits and reports success. -/
def Store.Completes (pg : Postgres) (s : Store) : Op → Prop
  | .page run => ∃ result, processOnePage pg run s = some result
  | .bulkLoad run => ∃ s' report, bulkLoad pg run s = (s', some report)
  | .revert run => ∃ result, revert pg run s = .ok result
  | .release run => ∃ result, release run s = .ok result
  | .reject run => ∃ result, reject run s = .ok result
  | .retry run => ∃ result, retry run s = .ok result

/-- What the converse asks of the state of a revert. -/
def Op.Recorded (s : Store) : Op → Prop
  | .revert run => run.Recorded s
  | _ => True

theorem exec_isolated {pg : Postgres} {leaId : LeaId} {s : Store} {op : Op}
    (hfor : op.For leaId s) (hk : op.KeepsOff pg leaId s) : s.Isolated leaId (s.exec pg op) := by
  rcases s.exec_cases pg op with he | he
  · rw [he]
    exact .refl leaId s
  · cases op with
    | page run =>
      obtain ⟨rfl, hscope⟩ := hfor
      exact page_isolated hscope he hk
    | bulkLoad run =>
      obtain rfl : run.leaId = leaId := hfor
      exact bulkLoad_isolated hk
    | revert run =>
      obtain ⟨_, hr⟩ := he
      exact revert_isolated hr hk
    | release run =>
      obtain ⟨row, hrow, hl⟩ := hfor
      exact (release_isolated_iff hrow hl he).mpr hk
    | reject run =>
      obtain ⟨row, hrow, rfl⟩ := hfor
      obtain ⟨_, -, -, he⟩ := he
      rw [he]
      exact ⟨fun _ _ _ h _ => h, fun _ _ h _ => h, fun _ _ h _ => h,
        fun i x hx hne => markResolved_isolated hrow _ _ _ _ hx hne⟩
    | retry run =>
      obtain ⟨job, hjob, rfl⟩ := hfor
      obtain ⟨target, htarget, hc, he⟩ := he
      obtain rfl := Option.some.inj (hjob.symm.trans htarget)
      refine ⟨by rw [he]; exact fun _ _ _ h _ => h, by rw [he]; exact fun _ _ h _ => h,
        fun key row hrow hne => ?_, by rw [he]; exact fun _ _ h _ => h⟩
      rw [hc, rewindCursor, Table.lookup_insert_eq, if_neg fun h => hne (by rw [h]), hrow]

theorem exec_keepsOff {pg : Postgres} {leaId : LeaId} {s : Store} {op : Op}
    (hfor : op.For leaId s) (hok : s.Completes pg op) (hrec : op.Recorded s)
    (hi : s.Isolated leaId (s.exec pg op)) : op.KeepsOff pg leaId s := by
  cases op with
  | page run =>
    obtain ⟨rfl, hscope⟩ := hfor
    obtain ⟨⟨s', outcome⟩, hok⟩ := hok
    have he : s.exec pg (.page run) = s' := by rw [Store.exec, hok]; rfl
    exact page_keepsOff hscope (processOnePage_eq_some hok).1 (he ▸ hi)
  | bulkLoad run =>
    obtain rfl : run.leaId = leaId := hfor
    obtain ⟨s', report, hok⟩ := hok
    have he : s.exec pg (.bulkLoad run) = s' := by rw [Store.exec, hok]
    exact bulkLoad_keepsOff hok (he ▸ hi)
  | revert run =>
    obtain ⟨⟨s', outcome⟩, hok⟩ := hok
    have he : s.exec pg (.revert run) = s' := by rw [Store.exec, hok]; rfl
    exact revert_keepsOff (revert_eq_ok hok) hrec (he ▸ hi)
  | release run =>
    obtain ⟨row, hrow, hl⟩ := hfor
    obtain ⟨⟨s', outcome⟩, hok⟩ := hok
    have he : s.exec pg (.release run) = s' := by rw [Store.exec, hok]; rfl
    exact (release_isolated_iff hrow hl (release_eq_ok hok)).mp (he ▸ hi)
  | reject run => exact trivial
  | retry run => exact trivial

/-- **Tenant write isolation.**  In every state an operation for an LEA leaves the
rows of every other LEA unchanged when it keeps off them, and an operation that
completes and leaves them unchanged keeps off them. -/
theorem tenant_isolation (pg : Postgres) (leaId : LeaId) (s : Store) (op : Op)
    (hfor : op.For leaId s) :
    (op.KeepsOff pg leaId s → s.Isolated leaId (s.exec pg op)) ∧
      (s.Completes pg op → op.Recorded s → s.Isolated leaId (s.exec pg op) →
        op.KeepsOff pg leaId s) :=
  ⟨exec_isolated hfor, exec_keepsOff hfor⟩

section

open Fixture

/-- LEA L1 has a student `s1`. -/
def firstTenant : List Op := [pageOp "L1" "job-1" [event "L1" "evt_001" (student "L1" "s1")]]

/-- LEA L2 reports a student of its own under the same id. -/
def secondTenant (id : StudentId) : Op :=
  pageOp "L2" "job-2" [event "L2" "evt_900" (student "L2" id (some "05"))]

theorem tenant_isolation_secondTenant :
    (after firstTenant).Isolated "L2" ((after firstTenant).exec Postgres.reference
      (secondTenant "s2")) :=
  (tenant_isolation Postgres.reference "L2" (after firstTenant) (secondTenant "s2")
    ⟨rfl, by decide⟩).1 (by
      show PageRun.KeepsOff _ _ _
      unfold PageRun.KeepsOff
      decide)

/-- The page takes the student away from the first tenant. -/
theorem shared_id_breaks_isolation :
    ¬ (after firstTenant).Isolated "L2" ((after firstTenant).exec Postgres.reference
      (secondTenant "s1")) := by
  intro h
  have hrow : ((after firstTenant).roster.canonical .student "s1").map (·.owner "s1")
      = some "L1" := by decide
  have hrow' : (((after firstTenant).exec Postgres.reference (secondTenant "s1")).roster.canonical
      .student "s1").map (·.owner "s1") = some "L2" := by decide
  obtain ⟨row, hc, howner⟩ := Option.map_eq_some_iff.mp hrow
  rw [h.canonical .student "s1" row hc (by rw [howner]; decide), Option.map_some,
    howner] at hrow'
  exact absurd hrow' (by decide)

end
