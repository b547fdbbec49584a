/-
What the event path leaves in the roster.

The high-water mark of a natural key lets an event through when its id is above the
mark, so the roster keeps, for each key, the event with the greatest id, whatever the
order of the log: `Registers.held` over the events the connector made.  Pages that
overlap, because a transaction was lost or a cursor moved back, repeat writes that
were seen.

* `standing` — the event a key is left with;
* `Roster.Shows.apply` — one accepted event;
* `Store.Drained.shows` — a drained history, whatever the pages were.
-/
import EdlinkRostering.Registers
import EdlinkRostering.Polls
import EdlinkRostering.Dispositions

/-- The key of an event: its canonical table and natural key. -/
def NormalizedEvent.key (event : NormalizedEvent) : EntityType × String :=
  (event.entityType, event.naturalKey)

/-- The event a key is left with. -/
def standing (et : EntityType) (k : String) (events : List NormalizedEvent) :
    Option NormalizedEvent :=
  Registers.held NormalizedEvent.key (·.sourceEventId) (et, k) events

theorem standing_concat (et : EntityType) (k : String) (events : List NormalizedEvent)
    (e : NormalizedEvent) : standing et k (events ++ [e])
      = if e.key = (et, k) ∧
          (standing et k events).any (fun held => e.sourceEventId ≤ held.sourceEventId) = false
        then some e else standing et k events :=
  Registers.held_concat events e

theorem mem_of_standing {et : EntityType} {k : String} {events : List NormalizedEvent}
    {e : NormalizedEvent} (h : standing et k events = some e) :
    e ∈ events ∧ e.entityType = et ∧ e.naturalKey = k := by
  obtain ⟨hmem, hkey⟩ := Registers.mem_of_held h
  obtain ⟨ht, hk⟩ := Prod.mk.inj hkey
  exact ⟨hmem, ht, hk⟩

/-! ### The roster after some events -/

/-- The roster shows the standing event of every student and enrollment key, and no
live row of the LEA where there is none. -/
structure Roster.Shows (pg : Postgres) (leaId : LeaId) (events : List NormalizedEvent)
    (r : Roster) : Prop where
  mark : ∀ et, et ≠ .lea → ∀ k, r.latestLiveSourceEventId pg et leaId k
    = (standing et k events).map (·.sourceEventId)
  absent : ∀ et, et ≠ .lea → ∀ k, standing et k events = none →
    ∀ row, r.canonical et k = some row → row.owner k = leaId → row.deletedAt ≠ none
  present : ∀ et, et ≠ .lea → ∀ k e, standing et k events = some e →
    ∃ now row, e.canonicalRow pg now = some row ∧ r.canonical et k = some row

namespace Roster.Shows

variable {pg : Postgres} {leaId : LeaId} {events events' : List NormalizedEvent} {r r' : Roster}
  {syncJobId : Uuid} {now : Instant} {e : NormalizedEvent}

/-- Only what stands is shown. -/
theorem congr (h : r.Shows pg leaId events)
    (hs : ∀ et, et ≠ .lea → ∀ k, standing et k events' = standing et k events) :
    r.Shows pg leaId events' where
  mark et het k := by rw [hs et het k]; exact h.mark et het k
  absent et het k hn := h.absent et het k ((hs et het k).symm.trans hn)
  present et het k e he := h.present et het k e ((hs et het k).symm.trans he)

theorem ensureLeaExists (h : r.Shows pg leaId events) :
    (r.ensureLeaExists leaId).Shows pg leaId events := by
  have hcanonical : ∀ et, et ≠ .lea → ∀ k,
      (r.ensureLeaExists leaId).canonical et k = r.canonical et k := by
    intro et het k
    rw [canonical_ensureLeaExists, if_neg fun h => het h.1]
  refine ⟨fun et het k => ?_, fun et het k hn => ?_, fun et het k e he => ?_⟩
  · rw [latestLiveSourceEventId, live, snapshots_ensureLeaExists, ← live,
      ← latestLiveSourceEventId]
    exact h.mark et het k
  · rw [hcanonical et het]
    exact h.absent et het k hn
  · rw [hcanonical et het]
    exact h.present et het k e he

/-- An event is deduplicated exactly when it would not take its register. -/
theorem dedups_eq (h : r.Shows pg leaId events) (he : e.entityType ≠ .lea) :
    r.dedups pg leaId e = (standing e.entityType e.naturalKey events).any
      fun held => e.sourceEventId ≤ held.sourceEventId := by
  rw [Roster.dedups, h.mark _ he, Option.any_map]

/-- **One accepted event.** -/
theorem apply (h : r.Shows pg leaId events) (he : e.entityType ≠ .lea)
    (happly : applyEventRoster pg leaId syncJobId now r e = some r') :
    r'.Shows pg leaId (events ++ [e]) := by
  have hdedups := h.dedups_eq he
  rcases applyEventRoster_eq_some.mp happly with ⟨hd, rfl⟩ | ⟨hd, row, hrow, -, rfl⟩
  · -- the event does not take its register
    refine h.congr fun et het k => ?_
    rw [standing_concat, if_neg]
    rintro ⟨hkey, hlow⟩
    obtain ⟨rfl, rfl⟩ := Prod.mk.inj hkey
    rw [← hdedups, hd] at hlow
    exact absurd hlow (by simp)
  · -- it does, and is written
    have hstanding : ∀ et k, standing et k (events ++ [e])
        = if et = e.entityType ∧ k = e.naturalKey then some e else standing et k events := by
      intro et k
      rw [standing_concat]
      by_cases hkey : et = e.entityType ∧ k = e.naturalKey
      · obtain ⟨rfl, rfl⟩ := hkey
        rw [if_pos ⟨rfl, hdedups.symm.trans hd⟩, if_pos ⟨rfl, rfl⟩]
      · rw [if_neg hkey, if_neg]
        rintro ⟨heq, -⟩
        obtain ⟨rfl, rfl⟩ := Prod.mk.inj heq
        exact hkey ⟨rfl, rfl⟩
    have hcanonical : ∀ et k, ((r.pushSnapshot leaId e syncJobId now).setCanonical e.naturalKey
        row).canonical et k
          = if et = e.entityType ∧ k = e.naturalKey then some row else r.canonical et k := by
      intro et k
      rw [canonical_setCanonical, canonical_pushSnapshot, canonicalRow_entityType hrow]
    refine ⟨fun et het k => ?_, fun et het k hn => ?_, fun et het k e' he' => ?_⟩
    · -- the mark of the key is the id of the event
      have hforeign : e.foreignLea leaId = false := by simp [NormalizedEvent.foreignLea, he]
      rw [latestLiveSourceEventId, live_setCanonical, ← latestLiveSourceEventId,
        mark_pushSnapshot, hstanding]
      by_cases hkey : et = e.entityType ∧ k = e.naturalKey
      · rw [if_pos ⟨hkey.1, hkey.2, hforeign⟩, if_pos hkey]
        rfl
      · rw [if_neg fun h => hkey ⟨h.1, h.2.1⟩, if_neg hkey]
        exact h.mark et het k
    · -- keys of which nothing stands
      rw [hstanding] at hn
      split at hn
      · exact absurd hn (by simp)
      · next hkey =>
        rw [hcanonical, if_neg hkey]
        exact h.absent et het k hn
    · -- keys of which something stands
      rw [hstanding] at he'
      rw [hcanonical]
      by_cases hkey : et = e.entityType ∧ k = e.naturalKey
      · rw [if_pos hkey] at he' ⊢
        obtain rfl := Option.some.inj he'
        exact ⟨now, row, hrow, rfl⟩
      · rw [if_neg hkey] at he' ⊢
        exact h.present et het k e' he'

/-- The accepted events of a page, one after another. -/
theorem applyEvents {page : List NormalizedEvent} (h : r.Shows pg leaId events)
    (hpage : ∀ e ∈ page, e.entityType ≠ .lea)
    (happly : applyEvents pg leaId syncJobId now page r = some r') :
    r'.Shows pg leaId (events ++ page) := by
  induction page generalizing events r with
  | nil =>
    obtain rfl : r = r' := Option.some.inj happly
    rwa [List.append_nil]
  | cons e page ih =>
    obtain ⟨r₁, h₁, h₂⟩ := applyEvents_cons_eq_some.mp happly
    have hnext := h.apply (hpage e List.mem_cons_self) h₁
    have hrest := ih hnext (fun e he => hpage e (List.mem_cons_of_mem _ he)) h₂
    rwa [List.append_assoc] at hrest

end Roster.Shows

/-! ### The events the connector makes -/

section

variable {leaId : LeaId} {raw : EdLinkEvent} {log : List EdLinkEvent} {e : NormalizedEvent}

/-- An event that is not dropped is about a person with the student role or about an
enrollment. -/
theorem normalize_eq_some (h : raw.normalize leaId = some (some e)) :
    ∃ operation, operationByAction raw.actionWord = some operation ∧
      ((raw.entityWord = "person" ∧
          ∃ student, personToStudent raw.data leaId = some (some student) ∧
            e = raw.envelope leaId operation .student (.student student)) ∨
        (raw.entityWord = "enrollment" ∧
          ∃ enrollment, enrollmentToCanonical raw.data leaId = some enrollment ∧
            e = raw.envelope leaId operation .enrollment (.enrollment enrollment))) := by
  rw [EdLinkEvent.normalize] at h
  split at h
  · exact absurd h (by simp)
  split at h
  · exact absurd h (by simp)
  next operation hop =>
  refine ⟨operation, hop, ?_⟩
  split at h
  · next hword =>
    obtain ⟨student?, hs, heq⟩ := Option.map_eq_some_iff.mp h
    obtain ⟨student, rfl, rfl⟩ := Option.map_eq_some_iff.mp heq
    exact Or.inl ⟨hword, student, hs, rfl⟩
  split at h
  · next hword =>
    obtain ⟨enrollment, hs, heq⟩ := Option.map_eq_some_iff.mp h
    exact Or.inr ⟨hword, enrollment, hs, (Option.some.inj heq).symm⟩
  · exact absurd h (by simp)

theorem normalize_person (leaId : LeaId) {operation : Operation} (hword : raw.entityWord = "person")
    (hop : operationByAction raw.actionWord = some operation) :
    raw.normalize leaId = (personToStudent raw.data leaId).map fun entity =>
      entity.map fun student => raw.envelope leaId operation .student (.student student) := by
  rw [EdLinkEvent.normalize, hop, hword]
  rfl

theorem normalize_enrollment (leaId : LeaId) {operation : Operation}
    (hword : raw.entityWord = "enrollment")
    (hop : operationByAction raw.actionWord = some operation) :
    raw.normalize leaId = (enrollmentToCanonical raw.data leaId).map fun enrollment =>
      some (raw.envelope leaId operation .enrollment (.enrollment enrollment)) := by
  rw [EdLinkEvent.normalize, hop, hword]
  rfl

theorem mem_mapped : e ∈ mapped leaId log ↔ ∃ raw ∈ log, raw.normalize leaId = some (some e) := by
  simp only [mapped, List.mem_filterMap, Option.join_eq_some_iff]

/-- The connector makes no LEA events. -/
theorem entityType_of_mem_mapped (h : e ∈ mapped leaId log) : e.entityType ≠ .lea := by
  obtain ⟨raw, -, hraw⟩ := mem_mapped.mp h
  obtain ⟨_, -, ⟨-, _, -, rfl⟩ | ⟨-, _, -, rfl⟩⟩ := normalize_eq_some hraw <;>
    simp [EdLinkEvent.envelope]

end

/-! ### Draining a history -/

/-- The poll sees the history so far, and no event of its page is rejected or
quarantined. -/
def Poll.Clean (leaId : LeaId) (history : List EdLinkEvent) (s : Store) (poll : Poll) : Prop :=
  poll.log <+: history ∧ ∀ page, poll.page leaId s = some page →
    (poll.pageRun leaId page).accepted s = page.events

/-- The whole history was drained: clean polls, and at last one that committed and saw
all of it with nothing more to come. -/
def Store.Drained (pg : Postgres) (leaId : LeaId) (history : List EdLinkEvent) (s s' : Store) :
    Prop :=
  ∃ polls last outcome,
    Runs.Guarded (Poll.step pg leaId) (Poll.Clean leaId history) s (polls ++ [last]) ∧
    last.log = history ∧
    last.exec pg leaId (Runs.run (Poll.step pg leaId) s polls) = (s', some outcome) ∧
    outcome.status = .success ∧ outcome.hasMore = false

/-- Some events of the history were delivered, and the roster shows them. -/
def Store.Shows (pg : Postgres) (leaId : LeaId) (history : List EdLinkEvent) (m : Nat)
    (s : Store) : Prop :=
  Delivered history m (Poll.cursor leaId s).value ∧ Readable leaId (history.take m) ∧
    s.roster.Shows pg leaId (mapped leaId (history.take m))

section

variable {pg : Postgres} {leaId : LeaId} {history : List EdLinkEvent} {m : Nat} {s s' : Store}

/-- **One committed page**: it repeats delivered events and delivers some more. -/
theorem Store.Shows.applies {poll : Poll} {page : EventPage} (h : s.Shows pg leaId history m)
    (hclean : poll.Clean leaId history s) (happlies : poll.Applies pg leaId page s s') :
    ∃ m', s'.Shows pg leaId history m' ∧
      (page.hasMore = false → poll.log = history → m' = history.length) := by
  obtain ⟨hdelivered, hread, hshows⟩ := h
  obtain ⟨hraw, hevents, hcursor, hmore, -⟩ := fetchChanges_eq_some happlies.fetched
  obtain ⟨old, new, hsplit, hold, htake, hnext, hall⟩ :=
    hdelivered.window hclean.1 poll.pageSize
  have hwindow : (poll.log.drop (sliceStart poll.log (Poll.cursor leaId s).value)).take
      poll.pageSize = old ++ new := hsplit
  rw [hwindow] at hraw hevents hcursor
  refine ⟨m + new.length, ⟨?_, ?_, ?_⟩, fun hlast => hall (hmore.symm.trans hlast)⟩
  · rw [happlies.cursor, hcursor, ← hsplit]
    exact hnext
  · intro e he
    rw [htake] at he
    rcases List.mem_append.mp he with he | he
    · exact hread e he
    · exact hraw e (List.mem_append_right _ he)
  · have happly := happlies.roster
    rw [hclean.2 page happlies.fetched, hevents] at happly
    have hpage := hshows.ensureLeaExists.applyEvents
      (fun e he => entityType_of_mem_mapped he) happly
    refine hpage.congr fun et _ k => ?_
    -- the repeated events were seen
    have hseen : ∀ e ∈ mapped leaId old, e ∈ mapped leaId (history.take m) := by
      intro e he
      obtain ⟨raw, hmem, hnorm⟩ := mem_mapped.mp he
      exact mem_mapped.mpr ⟨raw, hold raw hmem, hnorm⟩
    rw [htake, mapped_append, mapped_append]
    exact (Registers.held_append_seen hseen _).symm

theorem Store.Shows.congr (h : s.Shows pg leaId history m) (hr : s'.roster = s.roster)
    (hc : Poll.cursor leaId s' = Poll.cursor leaId s) : s'.Shows pg leaId history m := by
  refine ⟨?_, h.2.1, ?_⟩
  · rw [hc]
    exact h.1
  · rw [hr]
    exact h.2.2

/-- **A drained history**, whatever the pages were and whichever of them were lost. -/
theorem Store.Drained.shows (h : Store.Drained pg leaId history s s')
    (hs : s.Shows pg leaId history 0) :
    Readable leaId history ∧ s'.roster.Shows pg leaId (mapped leaId history) := by
  obtain ⟨polls, last, outcome, hguarded, hlog, hexec, hstatus, hmore⟩ := h
  obtain ⟨hpolls, hlast, -⟩ := Runs.Guarded.append.mp hguarded
  have hrun : ∃ m, (Runs.run (Poll.step pg leaId) s polls).Shows pg leaId history m := by
    refine Runs.Guarded.invariant (I := fun s => ∃ m, s.Shows pg leaId history m) ?_ ⟨0, hs⟩ hpolls
    rintro s poll ⟨m, hm⟩ hclean
    rcases Poll.step_cases pg leaId s poll with ⟨hr, -, hc⟩ | ⟨page, happlies⟩
    · exact ⟨m, hm.congr hr hc⟩
    · obtain ⟨m', hm', -⟩ := hm.applies hclean happlies
      exact ⟨m', hm'⟩
  obtain ⟨m, hm⟩ := hrun
  rcases Poll.exec_eq_some hexec with ⟨hfailed, -⟩ | ⟨page, happlies, hpage, -⟩
  · rw [hstatus] at hfailed
    exact absurd hfailed (by simp)
  · obtain ⟨m', hm', hall⟩ := hm.applies hlast happlies
    have hend : m' = history.length := hall (hpage.symm.trans hmore) hlog
    have hwhole : history.take m' = history := by rw [hend, List.take_length]
    obtain ⟨-, hread, hshows⟩ := hm'
    rw [hwhole] at hread hshows
    exact ⟨hread, hshows⟩

end
