/-
A release against the event it releases.

`applyEvent` and `release` are two independent ways to write an enrollment event.
`Roster.SameEffect` compares what they leave in `enrollment_snapshots` and
`enrollments`, up to generation ids and timestamps.  They never agree in full: the
quarantined payload carries a `source_event_id` that the event's own payload does
not.  Apart from that key they agree exactly when nothing is live for the
enrollment and the event is no deletion, because a release neither supersedes nor
looks at the high-water mark, and always writes a row that is not deleted.

* `release_refines_apply_iff` — when a release does what applying the event does;
* `release_overwrites_newer` — a release over newer content does not.
-/
import EdlinkRostering.System

/-! ### Effects -/

/-- A snapshot without its generation ids and timestamps, with its payload read
through `φ`. -/
def SnapshotRow.content (φ : Dict → Dict) (row : SnapshotRow) : SnapshotRow :=
  { row with
    generationId := ""
    supersededByGenerationId := row.supersededByGenerationId.map fun _ => ""
    supersededAt := none
    sourceEventAt := none
    createdAt := 0
    payload := φ row.payload }

/-- A canonical row without the instant of its deletion. -/
def CanonicalRow.content (row : CanonicalRow) : CanonicalRow :=
  row.withDeletedAt (row.deletedAt.map fun _ => 0)

/-- The two rosters agree on `enrollment_snapshots` and on `enrollments`, up to
generation ids and timestamps, with payloads read through `φ`. -/
def Roster.SameEffect (φ : Dict → Dict) (r r' : Roster) : Prop :=
  (r.snapshots .enrollment).rows.map (·.content φ)
      = (r'.snapshots .enrollment).rows.map (·.content φ) ∧
    ∀ id, (r.canonical .enrollment id).map (·.content)
      = (r'.canonical .enrollment id).map (·.content)

/-- The payload without the key a quarantined payload carries on top. -/
def dropSourceEventId (payload : Dict) : Dict :=
  payload.filter fun kv => kv.1 ≠ "source_event_id"

/-- The quarantine row is what the worker wrote for the enrollment event. -/
structure QuarantineRow.WrittenFor (row : QuarantineRow) (event : NormalizedEvent) : Prop where
  entityType : event.entityType = .enrollment
  cleared : event.Cleared
  leaId : event.leaId = row.leaId
  rawPayload : row.rawPayload
    = .obj (event.entityPayload ++ [("source_event_id", .str event.sourceEventId)])

/-- The rows of a page's quarantined enrollment events are such rows. -/
theorem writtenFor_of_quarantined {run : PageRun} {s : Store} {event : NormalizedEvent}
    (hscope : run.page.ScopedTo run.leaId) (hb : run.blocked s = false)
    (he : event ∈ run.quarantined s) (ht : event.entityType = .enrollment) :
    (quarantineRow run.leaId run.syncJobId run.now event).WrittenFor event := by
  obtain ⟨hmem, hc⟩ := PageRun.cleared_of_mem_quarantined hb he
  exact ⟨ht, hc, hscope event hmem, rfl⟩

/-! ### What the quarantined payload says -/

section

variable {event : NormalizedEvent} {row : QuarantineRow}

/-- The enrollment of the event, as both writers read it. -/
theorem QuarantineRow.WrittenFor.enrollment (h : row.WrittenFor event) :
    ∃ (enrollment : Enrollment) (beginDate : Date) (endDate : Option Date),
      event.entity = .enrollment enrollment ∧ enrollment.leaId = row.leaId ∧
      enrollment.beginDate = .date beginDate ∧ enrollment.endDate = endDate.map .date := by
  obtain ⟨enrollment, beginDate, endDate, he, hl, hb, hn⟩ := cleared_enrollment h.cleared
    h.entityType
  exact ⟨enrollment, beginDate, endDate, he, hl.trans h.leaId, hb, hn⟩

/-- The canonical row of a release is the event's, without its deletion. -/
theorem enrollmentOfPayload_writtenFor (h : row.WrittenFor event) (pg : Postgres)
    (now : Instant) : ∃ enrollment,
      enrollmentOfPayload row.leaId
          (event.entityPayload ++ [("source_event_id", .str event.sourceEventId)])
        = some (event.naturalKey, enrollment) ∧ enrollment.deletedAt = none ∧
      event.canonicalRow pg now = some ((CanonicalRow.enrollment enrollment).withDeletedAt
        (if event.deletedUpstream then some now else none)) := by
  obtain ⟨enrollment, beginDate, endDate, he, hl, hb, hn⟩ := h.enrollment
  refine ⟨⟨row.leaId, enrollment.studentId, enrollment.classId, beginDate, endDate, none⟩,
    ?_, rfl, ?_⟩
  · have hbegin : parseIsoDate (some (.str beginDate.isoformat)) = some (some beginDate) :=
      parseIsoDate_jsonSafe (some beginDate)
    have hend := parseIsoDate_jsonSafe endDate
    rw [Option.map_map] at hend
    simp only [enrollmentOfPayload, NormalizedEvent.entityPayload, NormalizedEvent.naturalKey, he,
      CanonicalEntity.payload, CanonicalEntity.id, hb, hn, DateField.jsonSafe, List.cons_append,
      List.nil_append, Dict.requiredColumn, Dict.textColumn, Dict.get?_cons]
    simp [Json.bindText, hbegin, hend]
  · rw [NormalizedEvent.canonicalRow, h.entityType, he]
    simp [hb, hn, hl, CanonicalRow.withDeletedAt]

/-- The snapshot of a release is the event's, not deleted and with one more key. -/
theorem snapshotRow_writtenFor (h : row.WrittenFor event) (run : ReleaseRun) :
    run.snapshotRow row.leaId
        (event.entityPayload ++ [("source_event_id", .str event.sourceEventId)])
      = some
        { naturalKey := event.naturalKey, leaId := row.leaId
          generationId := run.releaseGenerationId, deletedUpstream := false
          sourceEventId := some event.sourceEventId, sourceEventAt := some run.now
          createdAt := run.now
          payload := event.entityPayload ++ [("source_event_id", .str event.sourceEventId)] } := by
  obtain ⟨enrollment, _, _, he, -⟩ := h.enrollment
  simp only [ReleaseRun.snapshotRow, NormalizedEvent.entityPayload, NormalizedEvent.naturalKey, he,
    CanonicalEntity.payload, CanonicalEntity.id, List.cons_append, List.nil_append,
    Dict.requiredColumn, Dict.textColumn, Dict.get?_cons]
  simp [Json.bindText]

/-- The event's own payload has no such key. -/
theorem dropSourceEventId_payload (h : row.WrittenFor event) :
    dropSourceEventId event.entityPayload = event.entityPayload ∧
      dropSourceEventId (event.entityPayload ++ [("source_event_id", .str event.sourceEventId)])
        = event.entityPayload := by
  obtain ⟨enrollment, _, _, he, -⟩ := h.enrollment
  simp [dropSourceEventId, NormalizedEvent.entityPayload, he, CanonicalEntity.payload]

end

/-! ### The two effects side by side -/

theorem content_mark {φ : Dict → Dict} {row : SnapshotRow} {g : Uuid} {i : Option Instant} :
    ((row.mark (some g) i).content φ).supersededByGenerationId = some "" := rfl

/-- Rows that differ in their marker only from some point on differ in content. -/
theorem live_of_sameContent {φ : Dict → Dict} {rows : List SnapshotRow} {p : SnapshotRow → Bool}
    {g : Uuid} {i : Option Instant}
    (h : rows.map (·.content φ)
      = (rows.map fun row => if p row then row.mark (some g) i else row).map (·.content φ)) :
    ∀ row ∈ rows, p row = true → row.supersededByGenerationId ≠ none := by
  intro row hrow hp hnone
  rw [List.map_map] at h
  have hcontent := List.map_inj_left.mp h row hrow
  simp only [Function.comp_apply, hp, if_true] at hcontent
  have := congrArg SnapshotRow.supersededByGenerationId hcontent
  rw [content_mark] at this
  simp [SnapshotRow.content, hnone] at this

section

variable {pg : Postgres} {run : ReleaseRun} {s s' : Store} {outcome : ReleaseOutcome}
  {row : QuarantineRow} {event : NormalizedEvent}

/-- What a release of the event's row leaves. -/
theorem release_writtenFor (hrow : s.quarantine[run.quarantineId]? = some row)
    (hw : row.WrittenFor event) (h : release run s = .ok (s', outcome)) (pg : Postgres)
    (now : Instant) : ∃ enrollment, enrollment.deletedAt = none ∧
      event.canonicalRow pg now = some ((CanonicalRow.enrollment enrollment).withDeletedAt
        (if event.deletedUpstream then some now else none)) ∧
      s.roster.admits event.naturalKey (.enrollment enrollment) = true ∧
      s'.roster = (s.roster.insertSnapshot .enrollment
        { naturalKey := event.naturalKey, leaId := row.leaId
          generationId := run.releaseGenerationId, deletedUpstream := false
          sourceEventId := some event.sourceEventId, sourceEventAt := some run.now
          createdAt := run.now
          payload := event.entityPayload ++ [("source_event_id", .str event.sourceEventId)]
          }).setCanonical event.naturalKey (.enrollment enrollment) := by
  obtain ⟨row', payload, _, snapshot, id, enrollment, hrow', -, hp, -, -, -, hsnap, hen, hu, -⟩ :=
    (release_eq_ok h).released
  obtain rfl := Option.some.inj (hrow.symm.trans hrow')
  obtain rfl := Json.obj.inj (hw.rawPayload.symm.trans hp)
  rw [snapshotRow_writtenFor hw run, Option.some.injEq] at hsnap
  obtain ⟨enrollment', hen', hnone, hcan⟩ := enrollmentOfPayload_writtenFor hw pg now
  obtain ⟨rfl, rfl⟩ := Prod.mk.inj (Option.some.inj (hen.symm.trans hen'))
  obtain ⟨hadm, hs'⟩ := Roster.upsert_eq_some.mp hu
  refine ⟨enrollment, hnone, hcan, ?_, ?_⟩
  · simpa [Roster.insertSnapshot] using hadm
  · rw [hs', ← hsnap]

theorem dedups_eq_false_of_not_live {r : Roster} {leaId : LeaId}
    (h : r.live event.entityType leaId event.naturalKey = []) :
    r.dedups pg leaId event = false := by
  rw [Roster.dedups, Roster.latestLiveSourceEventId, h]
  rfl

/-- The snapshot tables of the two writers, content for content. -/
theorem sameRows_iff (hw : row.WrittenFor event) (φ : Dict → Dict) (r : Roster) (syncJobId : Uuid)
    (now : Instant) (new : SnapshotRow) (hnew : new = { new with
      naturalKey := event.naturalKey, leaId := row.leaId, deletedUpstream := false
      supersededByGenerationId := none, sourceEventId := some event.sourceEventId
      payload := event.entityPayload ++ [("source_event_id", .str event.sourceEventId)] }) :
    ((r.insertSnapshot .enrollment new).snapshots .enrollment).rows.map (·.content φ)
        = ((r.pushSnapshot row.leaId event syncJobId now).snapshots .enrollment).rows.map
          (·.content φ) ↔
      r.live .enrollment row.leaId event.naturalKey = [] ∧ event.operation ≠ .deleted ∧
        φ (event.entityPayload ++ [("source_event_id", .str event.sourceEventId)])
          = φ event.entityPayload := by
  rw [Roster.pushSnapshot, hw.entityType, Roster.rows_insertSnapshot, Roster.rows_insertSnapshot,
    Roster.rows_supersede, SnapshotRow.stored_of_ne (by simp), SnapshotRow.stored_of_ne (by simp),
    List.length_map, List.map_append, List.map_append]
  have hlast : SnapshotRow.content φ
        { new with snapshotId := (r.snapshots .enrollment).rows.length }
      = SnapshotRow.content φ { event.snapshotRow row.leaId syncJobId now with
          snapshotId := (r.snapshots .enrollment).rows.length } ↔
      event.operation ≠ .deleted ∧
        φ (event.entityPayload ++ [("source_event_id", .str event.sourceEventId)])
          = φ event.entityPayload := by
    rw [hnew]
    simp [SnapshotRow.content, NormalizedEvent.snapshotRow, NormalizedEvent.deletedUpstream]
  constructor
  · intro h
    obtain ⟨hrows, hx⟩ := List.append_inj' h rfl
    refine ⟨?_, hlast.mp (List.singleton_inj.mp hx)⟩
    -- the release supersedes nothing, so nothing may have been live
    refine List.eq_nil_iff_forall_not_mem.mpr fun x hx => ?_
    obtain ⟨hm, hl, hk, hnone⟩ := SnapshotTable.mem_live.mp hx
    exact live_of_sameContent hrows x hm (SnapshotRow.liveAt_iff.mpr ⟨hl, hk, hnone⟩) hnone
  · rintro ⟨hlive, hx⟩
    -- and where nothing is live the replay supersedes nothing either
    have hkeep : (r.snapshots .enrollment).rows.map (fun x =>
        if x.liveAt row.leaId event.naturalKey then x.mark (some syncJobId) (some now) else x)
        = (r.snapshots .enrollment).rows := by
      refine (List.map_congr_left fun x hx => ?_).trans (List.map_id _)
      rw [if_neg]
      · rfl
      · intro hl
        exact List.eq_nil_iff_forall_not_mem.mp hlive x (List.mem_filter.mpr ⟨hx, hl⟩)
    rw [hkeep, List.map_singleton, List.map_singleton, hlast.mpr hx]

/-- **A release against its event.**  Applying the event to the state a release
succeeded in would not have failed either; the two never have the same effect; and
apart from the extra key of the quarantined payload they have the same effect
exactly when nothing was live for the enrollment and the event is no deletion. -/
theorem release_refines_apply_iff (hrow : s.quarantine[run.quarantineId]? = some row)
    (hw : row.WrittenFor event) (h : release run s = .ok (s', outcome)) (pg : Postgres)
    (syncJobId : Uuid) (now : Instant) :
    ∃ r' changed, applyEvent pg row.leaId syncJobId now s.roster event = some (r', changed) ∧
      ¬ s'.roster.SameEffect id r' ∧
      (s'.roster.SameEffect dropSourceEventId r' ↔
        s.roster.live .enrollment row.leaId event.naturalKey = [] ∧
          event.operation ≠ .deleted) := by
  obtain ⟨enrollment, hnone, hcan, hadm, hs'⟩ := release_writtenFor hrow hw h pg now
  obtain ⟨hdrop, hdrop'⟩ := dropSourceEventId_payload hw
  by_cases hd : s.roster.dedups pg row.leaId event = true
  · -- the replay writes nothing, the release a snapshot
    have hlen : ∀ φ, ¬ s'.roster.SameEffect φ s.roster := by
      rintro φ ⟨hrows, -⟩
      have := congrArg List.length hrows
      rw [hs', Roster.snapshots_setCanonical, Roster.rows_insertSnapshot] at this
      simp at this
    refine ⟨s.roster, false, applyEvent_eq_some.mpr (Or.inl ⟨hd, rfl, rfl⟩), hlen _,
      fun heff => absurd heff (hlen _), fun hlive => ?_⟩
    rw [dedups_eq_false_of_not_live (by rw [hw.entityType]; exact hlive.1)] at hd
    exact absurd hd (by simp)
  · have hadm' : (s.roster.pushSnapshot row.leaId event syncJobId now).admits event.naturalKey
        ((CanonicalRow.enrollment enrollment).withDeletedAt
          (if event.deletedUpstream then some now else none)) = true := by
      simpa [Roster.pushSnapshot, Roster.insertSnapshot, Roster.supersede] using hadm
    refine ⟨_, true, applyEvent_eq_some.mpr (Or.inr ⟨by simpa using hd, rfl, _, hcan,
      Roster.upsert_eq_some.mpr ⟨hadm', rfl⟩⟩), ?_, ?_⟩
    · -- the payload of the release has one more field
      rintro ⟨hrows, -⟩
      rw [hs', Roster.snapshots_setCanonical, Roster.snapshots_setCanonical,
        sameRows_iff hw id s.roster syncJobId now _ rfl] at hrows
      exact absurd hrows.2.2 (by simp)
    · rw [Roster.SameEffect, hs', Roster.snapshots_setCanonical, Roster.snapshots_setCanonical,
        sameRows_iff hw dropSourceEventId s.roster syncJobId now _ rfl]
      constructor
      · rintro ⟨⟨hlive, hop, -⟩, -⟩
        exact ⟨hlive, hop⟩
      · rintro ⟨hlive, hop⟩
        -- both write the same row
        refine ⟨⟨hlive, hop, hdrop'.trans hdrop.symm⟩, fun id => ?_⟩
        rw [Roster.canonical_setCanonical, Roster.canonical_setCanonical,
          Roster.canonical_insertSnapshot, Roster.canonical_pushSnapshot]
        have hdel : event.deletedUpstream = false := by
          simpa [NormalizedEvent.deletedUpstream] using hop
        have hsame : (CanonicalRow.enrollment enrollment).withDeletedAt
            (if event.deletedUpstream = true then some now else none)
              = .enrollment enrollment := by
          rw [hdel, if_neg (by simp), ← hnone]
          rfl
        rw [hsame]

end

section

open Fixture

/-- The first report of the enrollment, which is quarantined. -/
def orphan : NormalizedEvent := event "L1" "evt_001" (enrollment "L1" "e1" "s1")

/-- Its quarantine row. -/
def orphanRow : QuarantineRow := quarantineRow "L1" "job-1" 10 orphan

/-- The orphan is quarantined and its student arrives. -/
def orphanThenStudent : List Op :=
  [pageOp "L1" "job-1" [orphan], pageOp "L1" "job-2" [event "L1" "evt_002" (student "L1" "s1")]]

def releaseOrphan : ReleaseRun where
  quarantineId := 0
  operatorIdentity := "op"
  releaseGenerationId := "rel-1"
  now := 20

theorem orphanRow_writtenFor : orphanRow.WrittenFor orphan :=
  ⟨rfl, by decide, rfl, rfl⟩

/-- The refinement on that history: nothing is live for the enrollment, and the
release does what the event would have done. -/
theorem release_refines_releaseOrphan :
    ∃ s' outcome, release releaseOrphan (after orphanThenStudent) = .ok (s', outcome) ∧
      ∃ r' changed, applyEvent Postgres.reference "L1" "job-3" 30 (after orphanThenStudent).roster
          orphan = some (r', changed) ∧
        ¬ s'.roster.SameEffect id r' ∧ (s'.roster.SameEffect dropSourceEventId r' ↔
          (after orphanThenStudent).roster.live .enrollment "L1" "e1" = [] ∧
            orphan.operation ≠ .deleted) :=
  have hrow : (after orphanThenStudent).quarantine[releaseOrphan.quarantineId]? = some orphanRow :=
    by decide
  ⟨_, _, rfl, release_refines_apply_iff hrow orphanRow_writtenFor rfl Postgres.reference "job-3" 30⟩

/-- The student and a newer event for the enrollment arrive before the release. -/
def orphanThenNewer : List Op :=
  [pageOp "L1" "job-1" [orphan], pageOp "L1" "job-2" [event "L1" "evt_002" (student "L1" "s1"),
    event "L1" "evt_003" (enrollment "L1" "e1" "s1" "class-2") .updated]]

/-- The class a roster has the enrollment in. -/
def Roster.classOf (r : Roster) (enrollmentId : EnrollmentId) : Option String :=
  (r.enrollments.lookup enrollmentId).map (·.classId)

/-- The release succeeds, leaves a second live snapshot and moves the enrollment
back to the class it had when it was quarantined; the event itself is
deduplicated and changes nothing. -/
theorem release_overwrites_newer :
    ∃ outcome, release releaseOrphan (after orphanThenNewer)
        = .ok (after (orphanThenNewer ++ [.release releaseOrphan]), outcome) ∧
      applyEvent Postgres.reference "L1" "job-3" 30 (after orphanThenNewer).roster orphan
        = some ((after orphanThenNewer).roster, false) ∧
      (after orphanThenNewer).roster.classOf "e1" = some "class-2" ∧
      (after (orphanThenNewer ++ [.release releaseOrphan])).roster.classOf "e1" = some "class-1" ∧
      ¬ (after (orphanThenNewer ++ [.release releaseOrphan])).roster.SameEffect dropSourceEventId
        (after orphanThenNewer).roster := by
  refine ⟨⟨0, "job-1", "rel-1", "enrollment", "e1"⟩, rfl, rfl, by decide, by decide, fun h => ?_⟩
  have hlength := congrArg List.length h.1
  exact absurd hlength (by decide)

end
