/-
The last report of each key, along polls and bulk loads.

The partner reports a change of an entity as an event of its log or as an entry of a bulk
load.  A bulk load leaves the cursor at the end of the log, so the polls after it deliver
what came later.  The worker applies an accepted event unless its id is at or below the
mark of its key, which an event wrote or a bulk load, and a bulk load writes an entry
unless its payload is live, which it is also after the deletion of an enrollment.  Where
the marks keep no event back and no deleted enrollment is listed as it was, every row is
as it was reported last.

* `Roster.Anchored` — what an entry is passed over for is the row;
* `tracks_bulkLoad` — what a bulk load reports, wherever it stopped;
* `Feed.Faithful` — what the polls and bulk loads so far came to;
* `faithful_of_sound` — along every sound run.
-/
import EdlinkRostering.PageBoundaries
import EdlinkRostering.Reloads

/-! ### Reports -/

/-- A change the partner reported: an event that validation accepted, or an entry of a
bulk load. -/
inductive Change where
  | event (event : NormalizedEvent)
  | entry (entry : PartnerEntry)

namespace Change

/-- The change is one of the entity. -/
def about (et : EntityType) (k : String) : Change → Bool
  | .event e => e.entityType = et && e.naturalKey = k
  | .entry x => x.entityType = et && x.id = some k

/-- Writing the change over the row changes nothing but the instant of a deletion. -/
def shownBy (pg : Postgres) (leaId : LeaId) (row : CanonicalRow) : Change → Bool
  | .event e => (e.canonicalRow pg 0).map CanonicalRow.undated = some row.undated
  | .entry x => x.canonicalRow pg leaId (some row) = some row

end Change

/-- The last change of an entity. -/
def lastReport (et : EntityType) (k : String) (reports : List Change) : Option Change :=
  (reports.filter (Change.about et k)).getLast?

/-- The row under the key shows the change; where there is none, there is no row. -/
def Roster.reflects (pg : Postgres) (leaId : LeaId) (et : EntityType) (k : String) (r : Roster) :
    Option Change → Bool
  | none => (r.canonical et k).isNone
  | some change => (r.canonical et k).any fun row => change.shownBy pg leaId row

/-- Every student and enrollment row shows the last change of its entity. -/
def Roster.Current (pg : Postgres) (leaId : LeaId) (reports : List Change) (r : Roster) : Prop :=
  ∀ et, et ≠ .lea → ∀ k, r.reflects pg leaId et k (lastReport et k reports) = true

/-- The row shows every entry that its live snapshot would have passed over, unless the
snapshot is the deletion of an enrollment. -/
def Roster.Anchored (pg : Postgres) (leaId : LeaId) (r : Roster) : Prop :=
  ∀ (entry : PartnerEntry) (k : String), ∀ x ∈ r.live entry.entityType leaId k,
    x.payload.sameDict (entry.payload leaId) = true →
      (entry.entityType = .enrollment ∧ x.deletedUpstream = true) ∨
        r.reflects pg leaId entry.entityType k (some (.entry entry)) = true

/-- A deleted enrollment that is listed as it was, and passed over. -/
def Roster.keepsDeleted (r : Roster) (leaId : LeaId) : PartnerEntry → Bool
  | .student _ => false
  | .enrollment entry => entry.id.any fun k => r.skips leaId k (.enrollment entry) &&
      (r.live .enrollment leaId k).head?.any (·.deletedUpstream)

/-! ### Equal payloads -/

section

variable {pg : Postgres} {leaId : LeaId}

/-- A date column reads what JSON shows of a field. -/
theorem bindDate_congr {f g : DateField} (h : f.jsonSafe = g.jsonSafe) :
    pg.bindDate f = pg.bindDate g := by
  have hread : ∀ f : DateField, ∃ s, f.jsonSafe = .str s ∧ pg.bindDate f = pg.dateIn s := by
    intro f
    cases f with
    | date d => exact ⟨d.isoformat, rfl, (pg.dateIn_isoformat d).symm⟩
    | text s => exact ⟨s, rfl, rfl⟩
  obtain ⟨s, hs, hf⟩ := hread f
  obtain ⟨t, ht, hg⟩ := hread g
  have hst : s = t := Json.str.inj (hs.symm.trans (h.trans ht))
  rw [hf, hg, hst]

theorem bindDate?_congr {f g : Option DateField}
    (h : (f.map DateField.jsonSafe).getD .null = (g.map DateField.jsonSafe).getD .null) :
    pg.bindDate? f = pg.bindDate? g := by
  have hstr : ∀ f : DateField, f.jsonSafe ≠ .null := by
    intro f
    cases f <;> exact nofun
  cases f with
  | none =>
    cases g with
    | none => rfl
    | some g => exact absurd h.symm (hstr g)
  | some f =>
    cases g with
    | none => exact absurd h (hstr f)
    | some g =>
      have hfg : f.jsonSafe = g.jsonSafe := h
      rw [Postgres.bindDate?, bindDate_congr hfg]
      rfl

/-- Entries with the same payload are written alike. -/
theorem canonicalRow_of_sameDict {entry other : PartnerEntry}
    (ht : other.entityType = entry.entityType)
    (h : (entry.payload leaId).sameDict (other.payload leaId) = true) (old : Option CanonicalRow) :
    other.canonicalRow pg leaId old = entry.canonicalRow pg leaId old := by
  cases entry with
  | student a =>
    cases other with
    | enrollment _ => cases ht
    | student b =>
      simp [Dict.sameDict, PartnerEntry.payload] at h
      obtain ⟨-, hg, hf, hgrade, hp, hs⟩ := h
      simp only [PartnerEntry.canonicalRow, hg, hf, hgrade, hp, hs]
  | enrollment a =>
    cases other with
    | student _ => cases ht
    | enrollment b =>
      simp [Dict.sameDict, PartnerEntry.payload] at h
      obtain ⟨-, hs, hc, hbegin, hend⟩ := h
      simp only [PartnerEntry.canonicalRow, hs, hc, bindDate?_congr hbegin, bindDate?_congr hend]

/-- No entry has the payload of a student event, and one with the payload of an
enrollment event that is no deletion is written like it. -/
theorem canonicalRow_of_sameDict_event {event : NormalizedEvent} {entry : PartnerEntry}
    {row : CanonicalRow} {now : Instant} (hrow : event.canonicalRow pg now = some row)
    (ht : entry.entityType = event.entityType)
    (h : event.entityPayload.sameDict (entry.payload leaId) = true) :
    entry.entityType = .enrollment ∧ (event.deletedUpstream = false →
      ∀ old, entry.canonicalRow pg leaId old = some row) := by
  rw [NormalizedEvent.canonicalRow] at hrow
  rw [NormalizedEvent.entityPayload] at h
  cases entry with
  | student b =>
    -- the payload of the event has the external ids as well
    split at hrow
    · next heq =>
      rw [heq] at h
      simp [Dict.sameDict, CanonicalEntity.payload, PartnerEntry.payload] at h
    · next htype _ =>
      rw [htype] at ht
      cases ht
    · next htype _ =>
      rw [htype] at ht
      cases ht
    · cases hrow
  | enrollment b =>
    refine ⟨rfl, fun hdel old => ?_⟩
    split at hrow
    · next htype _ =>
      rw [htype] at ht
      cases ht
    · next entity _ heq =>
      rw [heq] at h
      simp [Dict.sameDict, CanonicalEntity.payload, PartnerEntry.payload] at h
      obtain ⟨-, hlea, hs, hc, hbegin, hend⟩ := h
      simp only [Option.bind_eq_bind, Option.bind_eq_some_iff] at hrow
      obtain ⟨beginDate, hb, endDate, he, hrow⟩ := hrow
      have hs : b.studentId = some entity.studentId := Json.ofOption_inj.mp hs
      have hc : b.classId = some entity.classId := Json.ofOption_inj.mp hc
      have hb : pg.bindDate? b.beginDate = some (some beginDate) := by
        rw [bindDate?_congr (g := some entity.beginDate) hbegin, Postgres.bindDate?, hb]
        rfl
      have he : pg.bindDate? b.endDate = some endDate := (bindDate?_congr hend).trans he
      rw [← Option.some.inj hrow, hdel]
      simp [PartnerEntry.canonicalRow, hs, hc, hb, he, hlea]
    · next htype _ =>
      rw [htype] at ht
      cases ht
    · cases hrow

end

/-! ### One event and one entry -/

section

variable {pg : Postgres} {leaId : LeaId} {syncJobId : Uuid} {now : Instant} {r r' : Roster}
  {reports : List Change} {et : EntityType} {k : String}

theorem lastReport_concat (change : Change) : lastReport et k (reports ++ [change])
    = if change.about et k then some change else lastReport et k reports := by
  rw [lastReport, lastReport, List.filter_append]
  cases h : change.about et k with
  | true => simp [h]
  | false => simp [h]

theorem reflects_congr (h : r'.canonical et k = r.canonical et k) (change : Option Change) :
    r'.reflects pg leaId et k change = r.reflects pg leaId et k change := by
  cases change <;> rw [Roster.reflects, Roster.reflects, h]

/-- An entry that was written over some row is written over its own. -/
theorem shownBy_entry {x : PartnerEntry} {old : Option CanonicalRow} {row : CanonicalRow}
    (h : x.canonicalRow pg leaId old = some row) :
    (Change.entry x).shownBy pg leaId row = true := by
  refine decide_eq_true ?_
  cases x with
  | student entry =>
    simp only [PartnerEntry.canonicalRow, Option.bind_eq_bind, Option.bind_eq_some_iff] at h
    obtain ⟨givenName, hg, familyName, hf, h⟩ := h
    rw [← Option.some.inj h]
    simp [PartnerEntry.canonicalRow, hg, hf]
  | enrollment entry => exact h

namespace Roster.Current

theorem start (pg : Postgres) (leaId : LeaId) : Roster.empty.Current pg leaId [] := by
  intro et het k
  cases et <;> rfl

theorem ensureLeaExists (h : r.Current pg leaId reports) :
    (r.ensureLeaExists leaId).Current pg leaId reports := by
  intro et het k
  rw [reflects_congr (Roster.ensureLeaExists_sameAt r leaId het k).canonical]
  exact h et het k

/-- A change whose row is shown, and that left the others alone. -/
theorem concat (h : r.Current pg leaId reports) {change : Change} {et₀ : EntityType} {k₀ : String}
    (habout : ∀ et k, change.about et k = true ↔ et = et₀ ∧ k = k₀)
    (hself : r'.reflects pg leaId et₀ k₀ (some change) = true)
    (hothers : ∀ et k, ¬ (et = et₀ ∧ k = k₀) → r'.canonical et k = r.canonical et k) :
    r'.Current pg leaId (reports ++ [change]) := by
  intro et het k
  rw [lastReport_concat]
  by_cases hkey : et = et₀ ∧ k = k₀
  · rw [if_pos ((habout et k).mpr hkey), hkey.1, hkey.2]
    exact hself
  · rw [if_neg fun ha => hkey ((habout et k).mp ha), reflects_congr (hothers et k hkey)]
    exact h et het k

end Roster.Current

namespace Roster.Anchored

theorem start (pg : Postgres) (leaId : LeaId) : Roster.empty.Anchored pg leaId :=
  fun _ _ _ hx => absurd hx List.not_mem_nil

theorem ensureLeaExists (h : r.Anchored pg leaId) :
    (r.ensureLeaExists leaId).Anchored pg leaId := by
  intro entry k x hx hsame
  have hat := Roster.ensureLeaExists_sameAt r leaId entry.entityType_ne_lea k
  rw [hat.live] at hx
  rw [reflects_congr hat.canonical]
  exact h entry k x hx hsame

/-- A snapshot and a row that agree take the place of those of an entity. -/
theorem replace (h : r.Anchored pg leaId) (het : et ≠ .lea) {g : Uuid} {i : Instant}
    {new : SnapshotRow} {row : CanonicalRow} (hkey : new.naturalKey = k)
    (hlea : new.leaId = leaId) (hlive : new.supersededByGenerationId = none)
    (hrow : row.entityType = et)
    (hnew : ∀ entry : PartnerEntry, entry.entityType = et →
      new.payload.sameDict (entry.payload leaId) = true →
        (entry.entityType = .enrollment ∧ new.deletedUpstream = true) ∨
          (Change.entry entry).shownBy pg leaId row = true) :
    (r.replace et leaId k g i new row).Anchored pg leaId := by
  intro entry k' x hx hsame
  by_cases hat : entry.entityType = et ∧ k' = k
  · obtain ⟨rfl, rfl⟩ := hat
    rw [Roster.live_replace het hkey hlea hlive, List.mem_singleton] at hx
    subst hx
    rw [Roster.reflects, Roster.canonical_replace hrow, Option.any_some]
    exact hnew entry rfl hsame
  · have hframe : Roster.SameAt entry.entityType k' r (r.replace et leaId k g i new row) :=
      Roster.replace_sameAt hkey hrow hat
    rw [hframe.live] at hx
    rw [reflects_congr hframe.canonical]
    exact h entry k' x hx hsame

end Roster.Anchored

/-- An entry that is passed over is shown, unless a deletion was live. -/
theorem Roster.Anchored.reflects_of_skips {x : PartnerEntry} (h : r.Anchored pg leaId)
    (hk : x.id = some k) (hd : r.keepsDeleted leaId x = false)
    (hskip : r.skips leaId k x = true) :
    r.reflects pg leaId x.entityType k (some (.entry x)) = true := by
  have hskip' := hskip
  rw [Roster.skips, Roster.currentPayload, Option.any_map, Option.any_eq_true] at hskip'
  obtain ⟨y, hy, hsame⟩ := hskip'
  rcases h x k y (List.mem_of_head? hy) hsame with ⟨henrollment, hdel⟩ | hshown
  · cases x with
    | student _ => cases henrollment
    | enrollment entry =>
      have hentry : entry.id = some k := hk
      have hy : (r.live .enrollment leaId k).head? = some y := hy
      rw [Roster.keepsDeleted, hentry, Option.any_some, hskip, hy, Option.any_some, hdel] at hd
      cases hd
  · exact hshown

/-- The rows show what was reported last, and the live snapshots say so. -/
structure Roster.Tracks (pg : Postgres) (leaId : LeaId) (reports : List Change) (r : Roster) :
    Prop where
  current : r.Current pg leaId reports
  anchored : r.Anchored pg leaId

namespace Roster.Tracks

theorem start (pg : Postgres) (leaId : LeaId) : Roster.empty.Tracks pg leaId [] :=
  ⟨.start pg leaId, .start pg leaId⟩

theorem ensureLeaExists (h : r.Tracks pg leaId reports) :
    (r.ensureLeaExists leaId).Tracks pg leaId reports :=
  ⟨h.current.ensureLeaExists, h.anchored.ensureLeaExists⟩

/-- **An event above the mark of its key.** -/
theorem event {e : NormalizedEvent} (h : r.Tracks pg leaId reports) (ht : e.entityType ≠ .lea)
    (hd : r.dedups pg leaId e = false)
    (hstep : applyEventRoster pg leaId syncJobId now r e = some r') :
    r'.Tracks pg leaId (reports ++ [.event e]) := by
  rcases applyEventRoster_eq_replace hstep with ⟨hdup, -⟩ | ⟨-, row, hrow, rfl⟩
  · rw [hd] at hdup
    exact nomatch hdup
  have htype := canonicalRow_entityType hrow
  have hkey : (e.snapshotRow leaId syncJobId now).naturalKey = e.naturalKey := rfl
  have hlea : (e.snapshotRow leaId syncJobId now).leaId = leaId := rfl
  have hlive : (e.snapshotRow leaId syncJobId now).supersededByGenerationId = none := rfl
  have habout : ∀ et k, (Change.event e).about et k = true ↔
      et = e.entityType ∧ k = e.naturalKey := by
    intro et k
    rw [Change.about, Bool.and_eq_true, decide_eq_true_eq, decide_eq_true_eq]
    exact and_congr eq_comm eq_comm
  refine ⟨h.current.concat habout ?_ fun et k hne => ?_, ?_⟩
  · rw [Roster.reflects, Roster.canonical_replace htype, Option.any_some]
    refine decide_eq_true ?_
    rw [undated_canonicalRow e pg now 0, hrow, Option.map_some]
  · exact (Roster.replace_sameAt hkey htype hne).canonical
  · refine h.anchored.replace ht hkey hlea hlive htype fun entry hentry hsame => ?_
    obtain ⟨henrollment, hwritten⟩ := canonicalRow_of_sameDict_event hrow hentry hsame
    cases hdel : e.deletedUpstream with
    | true => exact Or.inl ⟨henrollment, hdel⟩
    | false => exact Or.inr (decide_eq_true (hwritten hdel (some row)))

/-- **An entry that is no deleted enrollment as it was.** -/
theorem entry {x : PartnerEntry} {n n' : Nat} (h : r.Tracks pg leaId reports)
    (hd : r.keepsDeleted leaId x = false)
    (hstep : applyEntryCounted pg leaId syncJobId now (r, n) x = some (r', n')) :
    r'.Tracks pg leaId (reports ++ [.entry x]) := by
  obtain ⟨k₀, hk, hcases⟩ := applyEntryCounted_eq_replace hstep
  have habout : ∀ et k, (Change.entry x).about et k = true ↔ et = x.entityType ∧ k = k₀ := by
    intro et k
    rw [Change.about, hk, Bool.and_eq_true, decide_eq_true_eq, decide_eq_true_eq,
      Option.some.injEq]
    exact and_congr eq_comm eq_comm
  rcases hcases with ⟨hskip, rfl⟩ | ⟨-, row, hrow, rfl⟩
  · -- passed over: the live snapshot is no deletion, so its row shows the entry
    refine ⟨h.current.concat habout ?_ fun _ _ _ => rfl, h.anchored⟩
    exact h.anchored.reflects_of_skips hk hd hskip
  · -- written
    have htype := (canonicalRow_entry_type hrow).1
    have hself : (Change.entry x).shownBy pg leaId row = true := shownBy_entry hrow
    have hkey : (x.snapshotRow leaId k₀ syncJobId now).naturalKey = k₀ := rfl
    have hlea : (x.snapshotRow leaId k₀ syncJobId now).leaId = leaId := rfl
    have hlive : (x.snapshotRow leaId k₀ syncJobId now).supersededByGenerationId = none := rfl
    refine ⟨h.current.concat habout ?_ fun et k hne => ?_, ?_⟩
    · rw [Roster.reflects, Roster.canonical_replace htype, Option.any_some]
      exact hself
    · exact (Roster.replace_sameAt hkey htype hne).canonical
    · refine h.anchored.replace x.entityType_ne_lea hkey hlea hlive htype fun y hy hsame => ?_
      refine Or.inr (decide_eq_true ?_)
      rw [canonicalRow_of_sameDict hy hsame]
      exact of_decide_eq_true hself

/-- The events of a page. -/
theorem events {events : List NormalizedEvent} (h : r.Tracks pg leaId reports)
    (ht : ∀ e ∈ events, e.entityType ≠ .lea)
    (hd : Runs.Turns (applyEventRoster pg leaId syncJobId now)
      (fun r e => r.dedups pg leaId e = false) r events)
    (hr : applyEvents pg leaId syncJobId now events r = some r') :
    r'.Tracks pg leaId (reports ++ events.map .event) := by
  refine hd.invariant (I := fun done x => x.Tracks pg leaId (reports ++ done.map .event))
    ?_ ?_ hr
  · intro e he done r₁ r₂ h₁ hd₁ hstep
    rw [List.map_append, ← List.append_assoc]
    exact h₁.event (ht e he) hd₁ hstep
  · rw [List.map_nil, List.append_nil]
    exact h

/-- The entries of a type. -/
theorem entries {entries : List PartnerEntry} {n n' : Nat} (h : r.Tracks pg leaId reports)
    (hd : Runs.Turns (applyEntryCounted pg leaId syncJobId now)
      (fun acc x => acc.1.keepsDeleted leaId x = false) (r, n) entries)
    (hr : entries.foldlM (applyEntryCounted pg leaId syncJobId now) (r, n) = some (r', n')) :
    r'.Tracks pg leaId (reports ++ entries.map .entry) := by
  refine hd.invariant (I := fun done acc => acc.1.Tracks pg leaId (reports ++ done.map .entry))
    ?_ ?_ hr
  · rintro x hx done ⟨r₁, n₁⟩ ⟨r₂, n₂⟩ h₁ hd₁ hstep
    rw [List.map_append, ← List.append_assoc]
    exact h₁.entry hd₁ hstep
  · rw [List.map_nil, List.append_nil]
    exact h

end Roster.Tracks

end

/-! ### One bulk load -/

/-- The entries of the types that were committed. -/
def BulkRun.reported (pg : Postgres) (run : BulkRun) (s : Store) : List PartnerEntry :=
  (if .students ∈ run.done pg s then run.payload.students.map .student else []) ++
    if .enrollments ∈ run.done pg s then run.payload.enrollments.map .enrollment else []

section

variable {pg : Postgres} {run : BulkRun} {s : Store}

/-- **The entries of the committed types are reported.** -/
theorem tracks_bulkLoad {reports : List Change} (h : s.roster.Tracks pg run.leaId reports)
    (hd : ∀ acc ∈ run.loadStudents pg (s.roster.ensureLeaExists run.leaId),
      Runs.Turns (applyEntryCounted pg run.leaId run.syncJobId (run.clock .enrollments))
        (fun acc x => acc.1.keepsDeleted run.leaId x = false) (acc.1, 0)
        (run.payload.enrollments.map .enrollment)) :
    (bulkLoad pg run s).1.roster.Tracks pg run.leaId
      (reports ++ (run.reported pg s).map .entry) := by
  rw [BulkRun.reported]
  rcases bulkLoad_roster_cases pg run s with ⟨hs, he, hr⟩ | ⟨r₁, w₁, hload, hs, hrest⟩
  · rw [if_neg hs, if_neg he, List.append_nil, List.map_nil, List.append_nil]
    rcases hr with heq | heq
    · rw [heq]
      exact h
    · rw [heq]
      exact h.ensureLeaExists
  · have hstudents : r₁.Tracks pg run.leaId
        (reports ++ (run.payload.students.map PartnerEntry.student).map .entry) := by
      refine h.ensureLeaExists.entries (Runs.Turns.of_forall (fun _ x hx => ?_) _) hload
      obtain ⟨_, -, rfl⟩ := List.mem_map.mp hx
      rfl
    rw [if_pos hs]
    rcases hrest with ⟨he, heq⟩ | ⟨r₂, w₂, hload', he, heq⟩
    · rw [if_neg he, List.append_nil, heq]
      exact hstudents
    · rw [if_pos he, List.map_append, ← List.append_assoc, heq]
      exact hstudents.entries (hd _ hload) hload'

theorem readCursor_advanceCursor (run : BulkRun) (s : Store) :
    ((run.advanceCursor s).readCursor run.leaId run.partner).value = run.latest.value := by
  rw [Store.readCursor, BulkRun.advanceCursor, Table.lookup_insert_eq, if_pos rfl]
  by_cases h : run.latest.value = ""
  · simp [h]
  · simp [h]

/-- Only one stage moves the cursor. -/
theorem stage_cursor {stage : BulkStage} {p p' : BulkProgress}
    (h : run.stage pg p stage = some p') :
    (stage = .advanceCursor ∧
      (p'.store.readCursor run.leaId run.partner).value = run.latest.value) ∨
    (stage ≠ .advanceCursor ∧ p'.store.cursorState = p.store.cursorState) := by
  cases stage with
  | advanceCursor =>
    rw [← Option.some.inj h]
    exact Or.inl ⟨rfl, readCursor_advanceCursor run p.store⟩
  | students | enrollments =>
    simp only [BulkRun.stage, Option.bind_eq_bind, Option.bind_eq_some_iff] at h
    obtain ⟨⟨r, written⟩, -, h⟩ := h
    rw [← Option.some.inj h]
    exact Or.inr ⟨by simp, rfl⟩
  | _ =>
    rw [← Option.some.inj h]
    exact Or.inr ⟨by simp, rfl⟩

/-- **The cursor after a load**, if it was set and if it was not. -/
theorem bulkLoad_cursor (pg : Postgres) (run : BulkRun) (s : Store) :
    (.advanceCursor ∈ run.done pg s ∧
      ((bulkLoad pg run s).1.readCursor run.leaId run.partner).value = run.latest.value) ∨
    (.advanceCursor ∉ run.done pg s ∧ (bulkLoad pg run s).1.cursorState = s.cursorState) := by
  obtain ⟨-, p, p', hfold, -, hc, -, hc'⟩ := bulkLoad_done pg run s
  rw [readCursor_congr hc', hc', ← hc]
  by_cases hmem : .advanceCursor ∈ run.done pg s
  · refine Or.inl ⟨hmem, ?_⟩
    refine Runs.foldlM_establishes (I := fun _ : BulkProgress => True)
      (J := fun q => (q.store.readCursor run.leaId run.partner).value = run.latest.value) hmem
      (fun _ _ _ _ _ _ => trivial) ?_ ?_ trivial hfold
    · intro stage _ q q' hq hstage
      rcases stage_cursor hstage with ⟨-, hcursor⟩ | ⟨-, hsame⟩
      · exact hcursor
      · rw [readCursor_congr hsame]
        exact hq
    · intro q q' _ hstage
      rcases stage_cursor hstage with ⟨-, hcursor⟩ | ⟨hne, -⟩
      · exact hcursor
      · exact absurd rfl hne
  · refine Or.inr ⟨hmem, ?_⟩
    refine Runs.foldlM_invariant
      (I := fun q : BulkProgress => q.store.cursorState = p.store.cursorState) ?_ rfl hfold
    intro stage hstages q q' hq hstage
    rcases stage_cursor hstage with ⟨rfl, -⟩ | ⟨-, hsame⟩
    · exact absurd hstages hmem
    · exact hsame.trans hq

end

/-! ### Polls and bulk loads -/

/-- The last event of the log, if any, has an id. -/
def EndsNamed (log : List EdLinkEvent) : Prop := ∀ last ∈ log.getLast?, last.id ≠ ""

instance (log : List EdLinkEvent) : Decidable (EndsNamed log) := by
  unfold EndsNamed; infer_instance

theorem EndsNamed.append {passed raw : List EdLinkEvent} (h : EndsNamed passed)
    (hraw : EndsNamed raw) : EndsNamed (passed ++ raw) := by
  intro last hlast
  rw [List.getLast?_append] at hlast
  cases hr : raw.getLast? with
  | none =>
    rw [hr, Option.none_or] at hlast
    exact h last hlast
  | some e =>
    rw [hr, Option.some_or] at hlast
    exact hraw last (hr.trans hlast)

/-- `get_latest_cursor`. -/
def getLatestCursor (log : List EdLinkEvent) (now : Instant) : Cursor :=
  match log.getLast? with
  | none => { value := "", observedAt := some now }
  | some latest => { value := latest.id, observedAt := some latest.date }

/-- One bulk load of the LEA, with the partner's log as it is when the cursor is read. -/
structure FullLoad where
  log : List EdLinkEvent
  payload : PartnerPayload
  syncJobId : Uuid
  clock : BulkStage → Instant
  raises : BulkStage → Bool := fun _ => false
  error : String := ""

def FullLoad.run (load : FullLoad) (leaId : LeaId) : BulkRun where
  leaId := leaId
  partner := connectorName
  syncJobId := load.syncJobId
  payload := load.payload
  latest := getLatestCursor load.log (load.clock .latestCursor)
  clock := load.clock
  raises := load.raises
  error := load.error

inductive FeedOp where
  | poll (poll : Poll)
  | load (load : FullLoad)

/-- The partner's log at the time. -/
def FeedOp.log : FeedOp → List EdLinkEvent
  | .poll p => p.log
  | .load l => l.log

/-- The partner appends to its log, which comes to `log`. -/
def LogGrows (ops : List FeedOp) (log : List EdLinkEvent) : Prop :=
  (ops.map FeedOp.log ++ [log]).Pairwise (· <+: ·)

instance (ops : List FeedOp) (log : List EdLinkEvent) : Decidable (LogGrows ops log) := by
  unfold LogGrows; infer_instance

/-- The accepted events of the page, if it was committed. -/
def Poll.reported (pg : Postgres) (leaId : LeaId) (poll : Poll) (s : Store) :
    List NormalizedEvent :=
  (poll.committed pg leaId s).flatMap fun _ =>
    (poll.pageRun leaId (poll.readablePage leaId s)).accepted s

/-- The database, and how it came about. -/
structure Feed where
  store : Store := Store.empty
  /-- The events the cursor is behind. -/
  passed : List EdLinkEvent := []
  /-- The events of the committed pages. -/
  delivered : List EdLinkEvent := []
  /-- The log at whose end the last load left the cursor. -/
  loaded : List EdLinkEvent := []
  reports : List Change := []

namespace Feed

def step (pg : Postgres) (leaId : LeaId) (f : Feed) : FeedOp → Feed
  | .poll p =>
    let raw := rawEvents (p.committed pg leaId f.store)
    { f with
      store := p.step pg leaId f.store
      passed := f.passed ++ raw
      delivered := f.delivered ++ raw
      reports := f.reports ++ (p.reported pg leaId f.store).map .event }
  | .load l =>
    let moved := decide (.advanceCursor ∈ (l.run leaId).done pg f.store)
    { f with
      store := (bulkLoad pg (l.run leaId) f.store).1
      passed := if moved then l.log else f.passed
      loaded := if moved then l.log else f.loaded
      reports := f.reports ++ ((l.run leaId).reported pg f.store).map .entry }

/-- No accepted event is at or below the mark of its key, no deleted enrollment is listed
as it was, and the cursor is left at an event with an id. -/
def Sound (pg : Postgres) (leaId : LeaId) (f : Feed) : FeedOp → Prop
  | .poll p =>
    EndsNamed (p.raw leaId f.store) ∧
      Runs.Turns (applyEventRoster pg leaId p.syncJobId p.now)
        (fun r e => r.dedups pg leaId e = false) (f.store.roster.ensureLeaExists leaId)
        ((p.pageRun leaId (p.readablePage leaId f.store)).accepted f.store)
  | .load l =>
    EndsNamed l.log ∧
      ∀ acc ∈ (l.run leaId).loadStudents pg (f.store.roster.ensureLeaExists leaId),
        Runs.Turns (applyEntryCounted pg leaId l.syncJobId (l.clock .enrollments))
          (fun acc x => acc.1.keepsDeleted leaId x = false) (acc.1, 0)
          (l.payload.enrollments.map .enrollment)

instance (pg : Postgres) (leaId : LeaId) (f : Feed) :
    (op : FeedOp) → Decidable (f.Sound pg leaId op)
  | .poll _ | .load _ => by
    unfold Sound; infer_instance

/-- Nothing of the log comes after the cursor. -/
def Drained (leaId : LeaId) (f : Feed) (log : List EdLinkEvent) : Prop :=
  log.drop (sliceStart log (Poll.cursor leaId f.store).value) = []

instance (leaId : LeaId) (f : Feed) (log : List EdLinkEvent) : Decidable (f.Drained leaId log) := by
  unfold Drained; infer_instance

/-- No update was lost, and none is stale. -/
structure Faithful (pg : Postgres) (leaId : LeaId) (f : Feed) : Prop where
  /-- Events are delivered in the order of the log, and none twice. -/
  ordered : f.delivered.Sublist f.passed
  /-- What came after the last load was delivered. -/
  complete : ∃ earlier, f.delivered = earlier ++ f.passed.drop f.loaded.length
  /-- Every row shows the last change that was reported of it. -/
  current : f.store.roster.Current pg leaId f.reports

/-- What the polls and loads so far came to. -/
structure Kept (pg : Postgres) (leaId : LeaId) (f : Feed) : Prop where
  ordered : f.delivered.Sublist f.passed
  loaded : f.loaded <+: f.passed
  complete : ∃ earlier, f.delivered = earlier ++ f.passed.drop f.loaded.length
  named : EndsNamed f.passed
  cursor : (Poll.cursor leaId f.store).value = lastId f.passed
  tracks : f.store.roster.Tracks pg leaId f.reports

namespace Kept

variable {pg : Postgres} {leaId : LeaId} {f : Feed} {log : List EdLinkEvent}

theorem start (pg : Postgres) (leaId : LeaId) : Kept pg leaId {} where
  ordered := List.Sublist.slnil
  loaded := List.nil_prefix
  complete := ⟨[], rfl⟩
  named _ h := nomatch h
  cursor := rfl
  tracks := .start pg leaId

theorem faithful (h : f.Kept pg leaId) : f.Faithful pg leaId :=
  ⟨h.ordered, h.complete, h.tracks.current⟩

/-- The page of a poll starts where the cursor is. -/
theorem raw (h : f.Kept pg leaId) (hids : (log.map (·.id)).Nodup) {p : Poll}
    (hpassed : f.passed <+: p.log) (hlog : p.log <+: log) :
    p.raw leaId f.store = (p.log.drop f.passed.length).take p.pageSize :=
  Poll.raw_of_cursor hids h.named (hpassed.trans hlog) hlog h.cursor

/-- **A poll.** -/
theorem poll (h : f.Kept pg leaId) (hids : (log.map (·.id)).Nodup) {p : Poll}
    (hpassed : f.passed <+: p.log) (hlog : p.log <+: log) (hsound : f.Sound pg leaId (.poll p)) :
    (f.step pg leaId (.poll p)).Kept pg leaId ∧
      (f.step pg leaId (.poll p)).passed <+: p.log := by
  obtain ⟨hnamed, hturns⟩ := hsound
  have hraw := h.raw hids hpassed hlog
  rcases Poll.committed_cases pg leaId p f.store with ⟨hnone, hr, -, hc⟩ | ⟨hpage, page, happlies⟩
  · -- nothing was committed
    have hreported : p.reported pg leaId f.store = [] := by rw [Poll.reported, hnone]; rfl
    have hstep : f.step pg leaId (.poll p) = { f with store := p.step pg leaId f.store } := by
      rw [step, hnone, hreported]
      simp [rawEvents]
    rw [hstep]
    refine ⟨⟨h.ordered, h.loaded, h.complete, h.named, ?_, ?_⟩, hpassed⟩
    · rw [hc]
      exact h.cursor
    · rw [hr]
      exact h.tracks
  · -- the page comes next in the log
    obtain ⟨-, rfl⟩ := Poll.readable_of_page happlies.fetched
    have hreported : p.reported pg leaId f.store
        = (p.pageRun leaId (p.readablePage leaId f.store)).accepted f.store := by
      rw [Poll.reported, hpage, List.flatMap_singleton]
    have hstep : f.step pg leaId (.poll p) =
        { store := p.step pg leaId f.store
          passed := f.passed ++ p.raw leaId f.store
          delivered := f.delivered ++ p.raw leaId f.store
          loaded := f.loaded
          reports := f.reports ++ ((p.pageRun leaId (p.readablePage leaId f.store)).accepted
            f.store).map .event } := by
      rw [step, hpage, hreported]
      simp [rawEvents]
    rw [hstep]
    refine ⟨⟨?_, ?_, ?_, h.named.append hnamed, happlies.cursor_eq_lastId h.cursor hnamed, ?_⟩,
      ?_⟩
    · exact h.ordered.append (List.Sublist.refl _)
    · exact h.loaded.trans (List.prefix_append _ _)
    · obtain ⟨earlier, hearlier⟩ := h.complete
      refine ⟨earlier, ?_⟩
      rw [hearlier, List.drop_append_of_le_length h.loaded.length_le, List.append_assoc]
    · refine h.tracks.ensureLeaExists.events (fun e he => ?_) hturns happlies.roster
      exact entityType_of_mem_mapped (List.mem_filter.mp he).1
    · obtain ⟨rest, hrest⟩ := hpassed
      rw [hraw, ← hrest, List.drop_left]
      exact (List.prefix_append_right_inj _).mpr (List.take_prefix _ _)

/-- **A bulk load.** -/
theorem load (h : f.Kept pg leaId) {l : FullLoad} (hpassed : f.passed <+: l.log)
    (hsound : f.Sound pg leaId (.load l)) :
    (f.step pg leaId (.load l)).Kept pg leaId ∧
      (f.step pg leaId (.load l)).passed <+: l.log := by
  obtain ⟨hnamed, hturns⟩ := hsound
  have htracks : (bulkLoad pg (l.run leaId) f.store).1.roster.Tracks pg leaId
      (f.reports ++ ((l.run leaId).reported pg f.store).map .entry) :=
    tracks_bulkLoad h.tracks hturns
  rcases bulkLoad_cursor pg (l.run leaId) f.store with ⟨hmoved, hvalue⟩ | ⟨hmoved, hsame⟩
  · -- the cursor is at the end of the log
    have hstep : f.step pg leaId (.load l) =
        { store := (bulkLoad pg (l.run leaId) f.store).1
          passed := l.log
          delivered := f.delivered
          loaded := l.log
          reports := f.reports ++ ((l.run leaId).reported pg f.store).map .entry } := by
      rw [step, decide_eq_true hmoved]
      rfl
    rw [hstep]
    refine ⟨⟨h.ordered.trans hpassed.sublist, List.prefix_rfl, ?_, hnamed, ?_, htracks⟩,
      List.prefix_rfl⟩
    · exact ⟨f.delivered, by rw [List.drop_length, List.append_nil]⟩
    · refine Eq.trans hvalue ?_
      show (getLatestCursor l.log (l.clock .latestCursor)).value = lastId l.log
      rw [getLatestCursor, lastId]
      cases l.log.getLast? <;> rfl
  · -- the cursor is where it was
    have hstep : f.step pg leaId (.load l) =
        { f with
          store := (bulkLoad pg (l.run leaId) f.store).1
          reports := f.reports ++ ((l.run leaId).reported pg f.store).map .entry } := by
      rw [step, decide_eq_false hmoved]
      rfl
    rw [hstep]
    refine ⟨⟨h.ordered, h.loaded, h.complete, h.named, ?_, htracks⟩, hpassed⟩
    show ((bulkLoad pg (l.run leaId) f.store).1.readCursor leaId connectorName).value = _
    rw [readCursor_congr hsame]
    exact h.cursor

/-- **Along a run.** -/
theorem run (hids : (log.map (·.id)).Nodup) {ops : List FeedOp} (h : f.Kept pg leaId)
    (hgrows : LogGrows ops log) (hpassed : ∀ op ∈ ops, f.passed <+: op.log)
    (hlog : f.passed <+: log) (hsound : Runs.Guarded (step pg leaId) (Sound pg leaId) f ops) :
    (Runs.run (step pg leaId) f ops).Kept pg leaId ∧
      (Runs.run (step pg leaId) f ops).passed <+: log := by
  induction ops generalizing f with
  | nil => exact ⟨h, hlog⟩
  | cons op ops ih =>
    rw [LogGrows, List.map_cons, List.cons_append, List.pairwise_cons] at hgrows
    obtain ⟨hnext, hgrows⟩ := hgrows
    have hend : op.log <+: log := hnext log (List.mem_append_right _ List.mem_cons_self)
    have hone : (f.step pg leaId op).Kept pg leaId ∧ (f.step pg leaId op).passed <+: op.log := by
      have hop := hpassed op List.mem_cons_self
      cases op with
      | poll p => exact h.poll hids hop hend hsound.1
      | load l => exact h.load hop hsound.1
    refine ih hone.1 hgrows (fun op' hop' => ?_) (hone.2.trans hend) hsound.2
    exact hone.2.trans (hnext op'.log (List.mem_append_left _ (List.mem_map_of_mem hop')))

/-- A cursor with nothing behind it has passed the whole log. -/
theorem passed_of_drained (h : f.Kept pg leaId) (hids : (log.map (·.id)).Nodup)
    (hlog : f.passed <+: log) (hd : f.Drained leaId log) : f.passed = log := by
  rw [Drained, h.cursor, drop_sliceStart hids h.named hlog List.prefix_rfl] at hd
  exact hlog.eq_of_length_le (List.drop_eq_nil_iff.mp hd)

end Kept

end Feed

/-- **No update is lost or stale** in a run of polls and bulk loads, whatever the ids of the
events, if no accepted event is at or below the mark of its key when its turn comes, no
deleted enrollment is listed as it was, and every page and every log a load reads end with
an event that has an id. -/
theorem faithful_of_sound (pg : Postgres) (leaId : LeaId) (ops : List FeedOp)
    (log : List EdLinkEvent) (hgrows : LogGrows ops log) (hids : (log.map (·.id)).Nodup)
    (hsound : Runs.Guarded (Feed.step pg leaId) (Feed.Sound pg leaId) {} ops) :
    let f := Runs.run (Feed.step pg leaId) {} ops
    f.Faithful pg leaId ∧ (f.Drained leaId log → f.passed = log) := by
  intro f
  have hkept : f.Kept pg leaId ∧ f.passed <+: log :=
    Feed.Kept.run hids (.start pg leaId) hgrows (fun _ _ => List.nil_prefix) List.nil_prefix hsound
  exact ⟨hkept.1.faithful, hkept.1.passed_of_drained hids hkept.2⟩

/-! ### An update that is lost -/

namespace LastReports

def person (eventId type familyName : String) : EdLinkEvent where
  id := eventId
  date := 0
  type := type
  data :=
    [("sourcedId", .str "s1"), ("givenName", .str "Alex"), ("familyName", .str familyName),
      ("roles", .arr [.str "student"])]

def enrollment (eventId type : String) : EdLinkEvent where
  id := eventId
  date := 0
  type := type
  data :=
    [("sourcedId", .str "e1"), ("user", .str "s1"), ("class", .str "c1"),
      ("beginDate", .str "2026-08-03")]

def poll (log : List EdLinkEvent) (syncJobId : Uuid) : FeedOp :=
  .poll { log := log, pageSize := 10, syncJobId := syncJobId, now := 1 }

/-- A bulk load that lists the student, and the enrollment where it is asked to. -/
def load (log : List EdLinkEvent) (enrolled : Bool) : FeedOp :=
  .load
    { log := log
      payload :=
        { students := [{ id := some "s1", givenName := some "Alex", familyName := some "Silva" }]
          enrollments :=
            if enrolled then
              [ { id := some "e1", studentId := some "s1", classId := some "c1"
                  beginDate := some (.text "2026-08-03") } ]
            else [] }
      syncJobId := "job-2"
      clock := fun _ => 2 }

/-- A student is created and renamed. -/
def renamed (first second : String) : List EdLinkEvent :=
  [person first "person.created" "Diaz", person second "person.updated" "Ortiz"]

/-- The rename comes after a bulk load. -/
def loadedBetween (first second : String) : List FeedOp :=
  let before := (renamed first second).take 1
  [poll before "job-1", load before false, poll (renamed first second) "job-3"]

/-- An enrollment is deleted. -/
def dropsOut : List EdLinkEvent :=
  [person "evt_1" "person.created" "Diaz", enrollment "evt_2" "enrollment.created",
    enrollment "evt_3" "enrollment.deleted"]

/-- The partner lists the enrollment again. -/
def listedAgain : List FeedOp := [poll dropsOut "job-1", load dropsOut true]

/-- The run is drained, and a row does not show the last change of its entity. -/
def Loses (ops : List FeedOp) (log : List EdLinkEvent) (et : EntityType) (k : String) : Prop :=
  let f := Runs.run (Feed.step .reference "L1") {} ops
  LogGrows ops log ∧ (log.map (·.id)).Nodup ∧ f.Drained "L1" log ∧ et ≠ .lea ∧
    f.store.roster.reflects .reference "L1" et k (lastReport et k f.reports) = false

instance (ops : List FeedOp) (log : List EdLinkEvent) (et : EntityType) (k : String) :
    Decidable (Loses ops log et k) := by
  unfold Loses; infer_instance

theorem Loses.not_faithful {ops : List FeedOp} {log : List EdLinkEvent} {et : EntityType}
    {k : String} (h : Loses ops log et k) :
    ¬ (Runs.run (Feed.step .reference "L1") {} ops).Faithful .reference "L1" := by
  obtain ⟨-, -, -, het, hrow⟩ := h
  intro hf
  have hshown := hf.current et het k
  rw [hrow] at hshown
  exact nomatch hshown

end LastReports

open LastReports in
theorem faithful_of_sound_between :
    (Runs.run (Feed.step .reference "L1") {} (loadedBetween "evt_1" "evt_2")).Faithful
      .reference "L1" :=
  (faithful_of_sound .reference "L1" (loadedBetween "evt_1" "evt_2") (renamed "evt_1" "evt_2")
    (by decide +kernel) (by decide +kernel) (by decide +kernel)).1

open LastReports in
/-- The rename of a student is lost where its id is below the mark of the bulk load, and
where it is below the id of the event before it; and a bulk load leaves an enrollment it
lists deleted. -/
theorem updates_are_lost :
    (Loses (loadedBetween "0001" "0002") (renamed "0001" "0002") .student "s1" ∧
      Loses [poll (renamed "evt_9" "evt_10") "job-1"] (renamed "evt_9" "evt_10") .student "s1" ∧
      Loses listedAgain dropsOut .enrollment "e1") ∧
    ¬ (Runs.run (Feed.step .reference "L1") {} (loadedBetween "0001" "0002")).Faithful
      .reference "L1" := by
  have hlost : Loses (loadedBetween "0001" "0002") (renamed "0001" "0002") .student "s1" := by
    decide +kernel
  exact ⟨⟨hlost, by decide +kernel, by decide +kernel⟩, hlost.not_faithful⟩
