/-
Layer 4 against the foreign key.

Layer 4 decides about every enrollment of a page before the page writes anything: a
student is known if the store has a row for it or an earlier event of the page reports
it.  The worker applies the page event by event, and `fk_enrollments_lea_student` looks
at the rows there are by then.  The two agree because a student row never leaves its
LEA's students, and because an event that is deduplicated has a live snapshot, and with
it a row.

* `mem_checkReferential_iff` — the walk of Layer 4, at one enrollment;
* `studentExists_applyEvents` — the students after a run of accepted events;
* `quarantined_iff_orphan` — the two agree on every page of a reachable store.
-/
import EdlinkRostering.Reflection
import EdlinkRostering.Severities
import EdlinkRostering.Dispositions

/-! ### The walk of Layer 4 -/

/-- **The walk, at one enrollment**: it is an orphan if the student is not known at the
start and no event before it reports the student. -/
theorem mem_checkReferential_iff {before after : List NormalizedEvent} {e : NormalizedEvent}
    {known : List StudentId}
    (hids : ((before ++ e :: after).map (·.eventId)).Nodup) (he : e.entityType = .enrollment) :
    e.eventId ∈ (checkReferential (before ++ e :: after) known).2 ↔
      e.entity.studentId ∉ known ∧
        ∀ x ∈ before, x.entityType = .student → x.naturalKey ≠ e.entity.studentId := by
  induction before generalizing known with
  | nil =>
    -- the later events cannot bar `e`, whose id none of them has
    have hlater : e.eventId ∉ (checkReferential after known).2 := by
      intro h
      obtain ⟨x, hx, hid⟩ := mem_checkReferential h
      have hnodup := (List.nodup_cons.mp (List.map_cons ▸ hids)).1
      exact hnodup (List.mem_map.mpr ⟨x, hx, hid⟩)
    simp only [List.nil_append, checkReferential, he, List.not_mem_nil, false_implies,
      implies_true, and_true]
    split
    · next hk => exact iff_of_false hlater (not_not.mpr hk)
    · next hk => exact iff_of_true List.mem_cons_self hk
  | cons a before ih =>
    have hrest : ((before ++ e :: after).map (·.eventId)).Nodup :=
      (List.nodup_cons.mp (List.map_cons ▸ hids)).2
    have hne : e.eventId ≠ a.eventId := by
      intro h
      refine (List.nodup_cons.mp (List.map_cons ▸ hids)).1 (List.mem_map.mpr ⟨e, ?_, h⟩)
      exact List.mem_append_right _ List.mem_cons_self
    rw [List.cons_append]
    cases ha : a.entityType with
    | student =>
      -- a student earlier on the page joins the known ones
      simp only [checkReferential, ha, ih hrest, List.mem_cons, not_or, forall_eq_or_imp,
        true_implies, and_assoc, ne_eq]
      rw [show a.naturalKey = a.entity.id from rfl, eq_comm (a := a.entity.id)]
      tauto
    | lea => simp [checkReferential, ih hrest, ha]
    | enrollment =>
      have hstep : e.eventId ∈ (checkReferential (before ++ e :: after) known).2 ↔ _ := ih hrest
      simp only [checkReferential, ha]
      split
      · simpa [ha] using hstep
      · simpa [ha, hne] using hstep

/-! ### The students of an LEA -/

/-- What holds of a student no other LEA reports: its row and its snapshots name the
LEA, and it has a row as soon as it has a snapshot. -/
structure Roster.Houses (leaId : LeaId) (id : StudentId) (r : Roster) : Prop where
  owned : ∀ row, r.students.lookup id = some row → row.leaId = leaId
  named : ∀ x ∈ r.history .student id, Dict.get? x.payload "lea_id" = some (.str leaId)
  rowed : r.history .student id ≠ [] → r.studentExists leaId id = true

namespace Roster.Houses

variable {leaId : LeaId} {id : StudentId} {r r' : Roster}

theorem empty : Roster.empty.Houses leaId id where
  owned _ h := nomatch h
  named _ h := absurd h List.not_mem_nil
  rowed h := absurd rfl h

theorem sameAt (h : r.Houses leaId id) (hs : SameAt .student id r r') : r'.Houses leaId id := by
  have hlookup := students_congr hs.canonical
  refine ⟨?_, ?_, ?_⟩
  · rw [hlookup]; exact h.owned
  · rw [hs.history]; exact h.named
  · rw [hs.history, studentExists, hlookup]; exact h.rowed

/-- A snapshot of the LEA's own student, with the row that goes with it. -/
theorem replace (h : r.Houses leaId id) {g : Uuid} {i : Instant} {new : SnapshotRow}
    {row : StudentRow} (hkey : new.naturalKey = id)
    (hnamed : Dict.get? new.payload "lea_id" = some (.str leaId)) (hlea : row.leaId = leaId) :
    (r.replace .student leaId id g i new (.student row)).Houses leaId id := by
  have hlookup : (r.replace .student leaId id g i new (.student row)).students.lookup id
      = some row := canonical_student_eq_some.mp (canonical_replace rfl)
  refine ⟨fun row' hrow' => ?_, fun x hx => ?_, fun _ => ?_⟩
  · rw [hlookup] at hrow'
    rw [← Option.some.inj hrow', hlea]
  · rcases (mem_history_replace (by decide) hkey).mp hx with ⟨old, hold, rfl⟩ | rfl
    · have hmark : Dict.get? old.payload "lea_id" = some (.str leaId) := h.named old hold
      split
      · exact hmark
      · exact hmark
    · exact hnamed
  · exact studentExists_iff.mpr ⟨row, hlookup, hlea⟩

/-- One turn of a revert on a snapshot of the student. -/
theorem turn {pg : Postgres} {run : RevertRun} {counts counts' : RevertCounts}
    {row : SnapshotRow} (h : r.Houses leaId row.naturalKey)
    (hrow : row ∈ (r.snapshots .student).rows)
    (hstep : revertRow pg run .student (r, counts) row = some (r', counts')) :
    r'.Houses leaId row.naturalKey := by
  obtain ⟨hsnapshots, hrewound, -⟩ := revertRow_eq_some hstep
  have hmem : row ∈ r.history .student row.naturalKey := mem_history.mpr ⟨hrow, rfl⟩
  obtain ⟨old, hold, holdLea⟩ := studentExists_iff.mp (h.rowed (List.ne_nil_of_mem hmem))
  -- the row there is afterwards names the LEA still
  have hrow' : ∃ row', r'.students.lookup row.naturalKey = some row' ∧ row'.leaId = leaId := by
    rcases hrewound.canonical_self (canonical_student_eq_some.mpr hold) with
      ⟨-, hcanonical⟩ | ⟨p, new, hp, hnew, hcanonical⟩
    · exact ⟨_, canonical_student_eq_some.mp hcanonical, holdLea⟩
    · have hprior : p ∈ r.history .student row.naturalKey := (prior_mem_history hp).1
      have howner := owner_of_payload (by decide) hnew row.naturalKey
      have hnamed := h.named p hprior
      have htype := entityType_of_canonical hcanonical
      cases new with
      | student new =>
        refine ⟨new, canonical_student_eq_some.mp hcanonical, ?_⟩
        simpa [Dict.requiredColumn, Dict.textColumn, hnamed, CanonicalRow.owner, eq_comm]
          using howner
      | lea new => cases htype
      | enrollment new => cases htype
  refine ⟨fun x hx => ?_, fun x hx => ?_, fun _ => studentExists_iff.mpr hrow'⟩
  · obtain ⟨row', hlookup, hlea⟩ := hrow'
    rw [hlookup] at hx
    rw [← Option.some.inj hx, hlea]
  · obtain ⟨hx, hk⟩ := mem_history.mp hx
    rw [hsnapshots] at hx
    obtain ⟨x', hx', g, i, rfl⟩ := mem_rewind_old hx
    exact h.named x' (mem_history.mpr ⟨hx', hk⟩)

end Roster.Houses

section

variable {pg : Postgres} {leaId : LeaId} {syncJobId : Uuid} {now : Instant}

/-- One accepted event of the LEA. -/
theorem houses_applyEventRoster {r r' : Roster} {e : NormalizedEvent} {id : StudentId}
    (h : r.Houses leaId id) (hc : e.Cleared) (hlea : e.leaId = leaId)
    (hstep : applyEventRoster pg leaId syncJobId now r e = some r') : r'.Houses leaId id := by
  rcases applyEventRoster_eq_replace hstep with ⟨-, rfl⟩ | ⟨-, row, hrow, rfl⟩
  · exact h
  · have htype := canonicalRow_entityType hrow
    by_cases hkey : EntityType.student = e.entityType ∧ id = e.naturalKey
    · obtain ⟨ht, rfl⟩ := hkey
      obtain ⟨student, hs, hl⟩ := cleared_student hc ht.symm
      have howner := owner_of_cleared hc (by rw [← ht]; decide) hrow e.naturalKey
      have hnamed : Dict.get? (e.snapshotRow leaId syncJobId now).payload "lea_id"
          = some (.str leaId) := by
        rw [NormalizedEvent.snapshotRow, NormalizedEvent.entityPayload, hs, ← hlea, ← hl]
        rfl
      cases row with
      | student row =>
        rw [← ht]
        exact h.replace rfl hnamed (howner.trans hlea)
      | lea row => cases htype.trans ht.symm
      | enrollment row => cases htype.trans ht.symm
    · refine h.sameAt (Roster.replace_sameAt ?_ htype hkey)
      rfl

/-- A run of accepted events of the LEA. -/
theorem houses_applyEvents {events : List NormalizedEvent} {r r' : Roster} {id : StudentId}
    (h : r.Houses leaId id) (hevents : ∀ e ∈ events, e.Cleared ∧ e.leaId = leaId)
    (hr : applyEvents pg leaId syncJobId now events r = some r') : r'.Houses leaId id := by
  refine Runs.foldlM_invariant (I := Roster.Houses leaId id) ?_ h hr
  intro e he r r' hr hstep
  exact houses_applyEventRoster hr (hevents e he).1 (hevents e he).2 hstep

end

/-! ### Along a run -/

/-- The operation is a page, a retry or a revert, a page is of one LEA, and it reports
none of these students unless it is of `leaId`. -/
def Op.KeepsApart (leaId : LeaId) (ids : List StudentId) : Op → Prop
  | .page run => run.page.ScopedTo run.leaId ∧ ∀ id ∈ ids, run.OwnsKey leaId .student id
  | .revert _ | .retry _ => True
  | .bulkLoad _ | .release _ | .reject _ => False

instance (leaId : LeaId) (ids : List StudentId) : (op : Op) → Decidable (op.KeepsApart leaId ids)
  | .page _ | .bulkLoad _ | .revert _ | .release _ | .reject _ | .retry _ => by
    unfold Op.KeepsApart; infer_instance

section

variable {pg : Postgres} {leaId : LeaId} {id : StudentId}

theorem houses_page {run : PageRun} {s s' : Store} (h : s.roster.Houses leaId id)
    (hscope : run.page.ScopedTo run.leaId) (hkey : run.OwnsKey leaId .student id)
    (hc : run.Commits pg s s') : s'.roster.Houses leaId id := by
  cases hb : run.blocked s with
  | true =>
    rw [(hc.blocked hb).1]
    exact h
  | false =>
    have hstart := h.sameAt (Roster.ensureLeaExists_sameAt s.roster run.leaId (by decide) id)
    rcases hkey with hlea | hkey
    · rw [← hlea] at hstart ⊢
      refine houses_applyEvents hstart (fun e he => ?_) (hc.roster hb)
      obtain ⟨hmem, hcleared⟩ := PageRun.cleared_of_mem_accepted hb he
      exact ⟨hcleared, hscope e hmem⟩
    · refine hstart.sameAt (applyEvents_sameAt (hc.roster hb) fun e he => ?_)
      exact hkey e (PageRun.cleared_of_mem_accepted hb he).1

theorem houses_exec {s : Store} {op : Op} {ids : List StudentId} (hid : id ∈ ids)
    (h : s.roster.Houses leaId id) (hop : op.KeepsApart leaId ids) :
    (s.exec pg op).roster.Houses leaId id := by
  rcases s.exec_cases pg op with he | he
  · rw [he]
    exact h
  · cases op with
    | page run => exact houses_page h hop.1 (hop.2 id hid) he
    | revert run =>
      obtain ⟨outcome, he⟩ := he
      obtain ⟨counts, htables, -⟩ := he.roster
      refine revertTables_induction_at .student id (fun r r' hr hs => hr.sameAt hs) ?_ h htables
      rintro r counts r' counts' row hr hrow rfl - - hstep
      exact hr.turn hrow hstep
    | retry run =>
      obtain ⟨target, -, -, he⟩ := he
      rw [he]
      exact h
    | bulkLoad run | release run | reject run => exact hop.elim

theorem houses_run {ops : List Op} {ids : List StudentId} (hid : id ∈ ids)
    (hops : ∀ op ∈ ops, op.KeepsApart leaId ids) :
    (Runs.run (Store.exec pg) Store.empty ops).roster.Houses leaId id :=
  Runs.Guarded.invariant (I := fun s : Store => s.roster.Houses leaId id)
    (fun _ _ hs hop => houses_exec hid hs hop) Roster.Houses.empty (Runs.Guarded.of_forall hops)

end

/-! ### The events of a page, one after another -/

theorem live_ne_nil_of_dedups {r : Roster} {pg : Postgres} {leaId : LeaId} {e : NormalizedEvent}
    (h : r.dedups pg leaId e = true) : r.live e.entityType leaId e.naturalKey ≠ [] := by
  intro hnil
  rw [Roster.dedups, Roster.latestLiveSourceEventId, hnil] at h
  simp [Postgres.top] at h

section

variable {pg : Postgres} {leaId : LeaId} {syncJobId : Uuid} {now : Instant}

/-- **The students after one accepted event**: those there were, and the one it reports. -/
theorem studentExists_applyEventRoster {r r' : Roster} {e : NormalizedEvent} (hc : e.Cleared)
    (hlea : e.leaId = leaId)
    (hhouses : e.entityType = .student → r.Houses leaId e.naturalKey)
    (h : applyEventRoster pg leaId syncJobId now r e = some r') (id : StudentId) :
    r'.studentExists leaId id = true ↔
      r.studentExists leaId id = true ∨ (e.entityType = .student ∧ e.naturalKey = id) := by
  rcases applyEventRoster_eq_replace h with ⟨hd, rfl⟩ | ⟨-, row, hrow, rfl⟩
  · refine ⟨Or.inl, fun h => ?_⟩
    rcases h with h | ⟨ht, rfl⟩
    · exact h
    · -- a deduplicated student has a live snapshot, and with it a row
      have hlive := live_ne_nil_of_dedups hd
      rw [ht, Roster.live_eq_history] at hlive
      exact (hhouses ht).rowed fun hnil => hlive (by rw [hnil]; rfl)
  · have htype := canonicalRow_entityType hrow
    by_cases hkey : EntityType.student = e.entityType ∧ id = e.naturalKey
    · -- the row of `id` is the one the event writes
      obtain ⟨ht, rfl⟩ := hkey
      have howner := owner_of_cleared hc (by rw [← ht]; decide) hrow e.naturalKey
      have hcanonical : (r.replace e.entityType leaId e.naturalKey syncJobId now
          (e.snapshotRow leaId syncJobId now) row).canonical e.entityType e.naturalKey
          = some row := Roster.canonical_replace htype
      rw [← ht] at hcanonical ⊢
      cases row with
      | student row =>
        refine iff_of_true (Roster.studentExists_iff.mpr ⟨row, ?_, howner.trans hlea⟩) (Or.inr ?_)
        · exact Roster.canonical_student_eq_some.mp hcanonical
        · exact ⟨rfl, rfl⟩
      | lea row => exact nomatch htype.trans ht.symm
      | enrollment row => exact nomatch htype.trans ht.symm
    · have hnew : (e.snapshotRow leaId syncJobId now).naturalKey = e.naturalKey := rfl
      have hsame : Roster.SameAt .student id r (r.replace e.entityType leaId e.naturalKey
          syncJobId now (e.snapshotRow leaId syncJobId now) row) :=
        Roster.replace_sameAt hnew htype hkey
      rw [Roster.studentExists, Roster.students_congr hsame.canonical, Roster.studentExists]
      have hno : ¬ (e.entityType = .student ∧ e.naturalKey = id) :=
        fun h => hkey ⟨h.1.symm, h.2.symm⟩
      rw [or_iff_left hno]

/-- **The students after a run of accepted events.** -/
theorem studentExists_applyEvents {events : List NormalizedEvent} {r r' : Roster}
    (hevents : ∀ e ∈ events, e.Cleared ∧ e.leaId = leaId)
    (hhouses : ∀ e ∈ events, e.entityType = .student → r.Houses leaId e.naturalKey)
    (h : applyEvents pg leaId syncJobId now events r = some r') (id : StudentId) :
    r'.studentExists leaId id = true ↔
      r.studentExists leaId id = true ∨
        ∃ e ∈ events, e.entityType = .student ∧ e.naturalKey = id := by
  induction events generalizing r with
  | nil =>
    obtain rfl := Option.some.inj h
    simp
  | cons e events ih =>
    obtain ⟨r₁, hstep, hrest⟩ := applyEvents_cons_eq_some.mp h
    obtain ⟨hc, hlea⟩ := hevents e List.mem_cons_self
    have hone := studentExists_applyEventRoster hc hlea (hhouses e List.mem_cons_self) hstep id
    have hhouses₁ : ∀ x ∈ events, x.entityType = .student → r₁.Houses leaId x.naturalKey :=
      fun x hx ht =>
        houses_applyEventRoster (hhouses x (List.mem_cons_of_mem _ hx) ht) hc hlea hstep
    rw [ih (fun x hx => hevents x (List.mem_cons_of_mem _ hx)) hhouses₁ hrest, hone, or_assoc]
    simp only [List.exists_mem_cons_iff]

end

/-! ### A page of a reachable store -/

/-- The students the page reports. -/
def PageRun.students (run : PageRun) : List StudentId :=
  (run.page.events.filter fun e => e.entityType = .student).map (·.naturalKey)

theorem PageRun.mem_students {run : PageRun} {e : NormalizedEvent} (he : e ∈ run.page.events)
    (ht : e.entityType = .student) : e.naturalKey ∈ run.students :=
  List.mem_map_of_mem (List.mem_filter.mpr ⟨he, decide_eq_true ht⟩)

section

variable {page : EventPage} {state : LEAState}

/-- Layer 4 sends an event to quarantine. -/
theorem quarantines_iff (hok : page.layer1Check.ok = true) {e : NormalizedEvent} :
    (runPipeline page state).quarantines e = true ↔
      e.eventId ∈ (checkReferential (surviving page) state.knownStudentIds).2 := by
  rw [ValidationReport.quarantines, decide_eq_true_eq, runPipeline, if_pos hok]
  simp only [List.mem_insertionSort, List.mem_dedup]

/-- With distinct ids an event survives Layers 2 and 3 on its own account. -/
theorem mem_surviving (hids : (page.events.map (·.eventId)).Nodup) {e : NormalizedEvent} :
    e ∈ surviving page ↔ e ∈ page.events ∧ e.Cleared := by
  rw [surviving, List.mem_filter, decide_eq_true_eq]
  exact and_congr_right fun he => by rw [mem_rejectedIds_iff hids he, not_not]

/-- Layer 4 only holds enrollments back. -/
theorem quarantines_of_ne_enrollment (hok : page.layer1Check.ok = true)
    (hids : (page.events.map (·.eventId)).Nodup) {e : NormalizedEvent} (he : e ∈ page.events)
    (ht : e.entityType ≠ .enrollment) : (runPipeline page state).quarantines e = false := by
  rw [← Bool.not_eq_true, quarantines_iff hok]
  intro h
  obtain ⟨x, hx, hid, hxt, -⟩ := mem_checkReferential_orphan h
  obtain rfl := List.inj_on_of_nodup_map hids (mem_surviving hids |>.mp hx).1 he hid
  exact ht hxt

/-- The worker applies what clears Layers 2 and 3 and is not held back. -/
theorem accepts_iff (hok : page.layer1Check.ok = true)
    (hids : (page.events.map (·.eventId)).Nodup) {e : NormalizedEvent} (he : e ∈ page.events) :
    (runPipeline page state).accepts e = true ↔
      e.Cleared ∧ (runPipeline page state).quarantines e = false := by
  have hquarantines : (runPipeline page state).quarantines e = false ↔
      e.eventId ∉ (checkReferential (surviving page) state.knownStudentIds).2 := by
    rw [← Bool.not_eq_true, quarantines_iff hok]
  have hcleared : e.eventId ∉ (rejectedIds page).2 ↔ e.Cleared := by
    rw [mem_rejectedIds_iff hids he, not_not]
  have hmem : e.eventId ∈ page.events.map (·.eventId) := List.mem_map_of_mem he
  rw [hquarantines, ← hcleared]
  simp [ValidationReport.accepts, runPipeline, hok, hmem]

/-- A student that clears Layers 2 and 3 is accepted. -/
theorem accepts_student (hok : page.layer1Check.ok = true)
    (hids : (page.events.map (·.eventId)).Nodup) {e : NormalizedEvent} (he : e ∈ page.events)
    (ht : e.entityType = .student) (hc : e.Cleared) :
    (runPipeline page state).accepts e = true :=
  (accepts_iff hok hids he).mpr
    ⟨hc, quarantines_of_ne_enrollment hok hids he (by rw [ht]; decide)⟩

/-- **Layer 4 at one enrollment of the page**: the student has neither a row nor an
accepted event before the enrollment. -/
theorem quarantines_enrollment_iff (hok : page.layer1Check.ok = true)
    (hids : (page.events.map (·.eventId)).Nodup) {before after : List NormalizedEvent}
    {e : NormalizedEvent} (hsplit : page.events = before ++ e :: after)
    (he : e.entityType = .enrollment) (hc : e.Cleared) :
    (runPipeline page state).quarantines e = true ↔
      e.entity.studentId ∉ state.knownStudentIds ∧
        ∀ x ∈ before.filter (runPipeline page state).accepts, x.entityType = .student →
          x.naturalKey ≠ e.entity.studentId := by
  have hmem : ∀ x ∈ before, x ∈ page.events := fun x hx => by
    rw [hsplit]; exact List.mem_append_left _ hx
  have hsurvives : surviving page
      = before.filter (fun x => x.eventId ∉ (rejectedIds page).2)
        ++ e :: after.filter (fun x => x.eventId ∉ (rejectedIds page).2) := by
    have he' : e ∈ page.events := by
      rw [hsplit]; exact List.mem_append_right _ List.mem_cons_self
    have hkept : e.eventId ∉ (rejectedIds page).2 := by
      rw [mem_rejectedIds_iff hids he', not_not]
      exact hc
    rw [surviving, hsplit, List.filter_append, List.filter_cons_of_pos (by simpa using hkept)]
  have hnodup : ((surviving page).map (·.eventId)).Nodup :=
    hids.sublist (List.filter_sublist.map _)
  rw [quarantines_iff hok, hsurvives, mem_checkReferential_iff (hsurvives ▸ hnodup) he]
  refine and_congr_right fun _ => ⟨fun h x hx ht => ?_, fun h x hx ht => ?_⟩
  · obtain ⟨hx, hacc⟩ := List.mem_filter.mp hx
    have hcleared := cleared_of_accepts hok (hmem x hx) hacc
    refine h x (List.mem_filter.mpr ⟨hx, ?_⟩) ht
    rw [decide_eq_true_eq, mem_rejectedIds_iff hids (hmem x hx), not_not]
    exact hcleared
  · obtain ⟨hx, hkept⟩ := List.mem_filter.mp hx
    rw [decide_eq_true_eq, mem_rejectedIds_iff hids (hmem x hx), not_not] at hkept
    exact h x (List.mem_filter.mpr ⟨hx, accepts_student hok hids (hmem x hx) ht hkept⟩) ht

end

/-- An LEA that has a row keeps it. -/
theorem leas_lookup_applyEvents {pg : Postgres} {leaId l : LeaId} {syncJobId : Uuid} {now : Instant}
    {events : List NormalizedEvent} {r r' : Roster} (h : (r.leas.lookup l).isSome = true)
    (hr : applyEvents pg leaId syncJobId now events r = some r') :
    (r'.leas.lookup l).isSome = true := by
  refine Runs.foldlM_invariant (I := fun r : Roster => (r.leas.lookup l).isSome = true) ?_ h hr
  intro e _ r r' hr hstep
  rcases applyEventRoster_eq_some.mp hstep with ⟨-, rfl⟩ | ⟨-, row, -, -, rfl⟩
  · exact hr
  · exact Roster.leas_lookup_setCanonical _ _ _ _ hr

/-- A page of one LEA that passed Layer 1, with distinct ids, whose students no other LEA
has. -/
structure PageRun.Housed (run : PageRun) (s : Store) : Prop where
  ok : run.page.layer1Check.ok = true
  ids : (run.page.events.map (·.eventId)).Nodup
  scope : run.page.ScopedTo run.leaId
  houses : ∀ x ∈ run.page.events, x.entityType = .student →
    s.roster.Houses run.leaId x.naturalKey

namespace PageRun.Housed

variable {pg : Postgres} {run : PageRun} {s : Store} {r : Roster}
  {before after : List NormalizedEvent} {e : NormalizedEvent}

theorem ofRun {ops : List Op} (hops : ∀ op ∈ ops, op.KeepsApart run.leaId run.students)
    (hscope : run.page.ScopedTo run.leaId) (hids : (run.page.events.map (·.eventId)).Nodup)
    (hok : run.page.layer1Check.ok = true) :
    run.Housed (Runs.run (Store.exec pg) Store.empty ops) :=
  ⟨hok, hids, hscope, fun _ hx ht => houses_run (PageRun.mem_students hx ht) hops⟩

theorem earlier (h : run.Housed s) (hsplit : run.page.events = before ++ e :: after) :
    ∀ x ∈ before.filter (run.report s).accepts,
      x ∈ run.page.events ∧ x.Cleared ∧ x.leaId = run.leaId := by
  intro x hx
  obtain ⟨hx, hacc⟩ := List.mem_filter.mp hx
  have hx : x ∈ run.page.events := by
    rw [hsplit]; exact List.mem_append_left _ hx
  exact ⟨hx, cleared_of_accepts h.ok hx hacc, h.scope x hx⟩

theorem start (h : run.Housed s) {x : NormalizedEvent} (hx : x ∈ run.page.events)
    (ht : x.entityType = .student) :
    (s.roster.ensureLeaExists run.leaId).Houses run.leaId x.naturalKey :=
  (h.houses x hx ht).sameAt (Roster.ensureLeaExists_sameAt _ _ (by decide) _)

/-- **Layer 4 and the rows there are by then**: an enrollment goes to quarantine exactly
if its student has no row when its turn comes. -/
theorem quarantines_iff (h : run.Housed s) (hsplit : run.page.events = before ++ e :: after)
    (he : e.entityType = .enrollment) (hc : e.Cleared)
    (hr : applyEvents pg run.leaId run.syncJobId run.now (before.filter (run.report s).accepts)
      (s.roster.ensureLeaExists run.leaId) = some r) :
    (run.report s).quarantines e = true ↔
      r.studentExists run.leaId e.entity.studentId = false := by
  have hstart : ∀ id, (s.roster.ensureLeaExists run.leaId).studentExists run.leaId id
      = s.roster.studentExists run.leaId id := by
    intro id
    have hsame := Roster.ensureLeaExists_sameAt s.roster run.leaId
      (show EntityType.student ≠ .lea by decide) id
    rw [Roster.studentExists, Roster.students_congr hsame.canonical, Roster.studentExists]
  have hexists := studentExists_applyEvents (fun x hx => (h.earlier hsplit x hx).2)
    (fun x hx ht => h.start (h.earlier hsplit x hx).1 ht) hr e.entity.studentId
  rw [hstart] at hexists
  have hlayer4 : (run.report s).quarantines e = true ↔ _ :=
    quarantines_enrollment_iff h.ok h.ids hsplit he hc
  -- the two sides look for the same student
  rw [← Bool.not_eq_true, hexists]
  refine hlayer4.trans ?_
  have hknown : e.entity.studentId ∈ (s.leaState run.leaId run.partner).knownStudentIds ↔
      s.roster.studentExists run.leaId e.entity.studentId = true :=
    Store.mem_readKnownStudentIds
  rw [hknown]
  simp only [not_or, not_exists, not_and, ne_eq]
  rfl

theorem leaExists (hr : applyEvents pg run.leaId run.syncJobId run.now
      (before.filter (run.report s).accepts) (s.roster.ensureLeaExists run.leaId) = some r) :
    (r.leas.lookup run.leaId).isSome = true :=
  leas_lookup_applyEvents (Roster.leas_lookup_ensureLeaExists s.roster run.leaId) hr

/-- An accepted enrollment finds its student. -/
theorem admits_enrollment (h : run.Housed s) (hsplit : run.page.events = before ++ e :: after)
    (he : e.entityType = .enrollment) (hacc : (run.report s).accepts e = true)
    (hr : applyEvents pg run.leaId run.syncJobId run.now (before.filter (run.report s).accepts)
      (s.roster.ensureLeaExists run.leaId) = some r) :
    ∃ row, e.canonicalRow pg run.now = some row ∧ r.admits e.naturalKey row = true := by
  have hmem : e ∈ run.page.events := by
    rw [hsplit]; exact List.mem_append_right _ List.mem_cons_self
  have hc := cleared_of_accepts h.ok hmem hacc
  have hstudent : r.studentExists run.leaId e.entity.studentId = true := by
    by_contra hno
    have hq := (h.quarantines_iff hsplit he hc hr).mpr (Bool.not_eq_true _ ▸ hno)
    rw [ValidationReport.quarantines, decide_eq_true_eq] at hq
    simp [ValidationReport.accepts, hq] at hacc
  obtain ⟨enrollment, beginDate, endDate, hs, hlea, hbegin, hend⟩ := cleared_enrollment hc he
  rw [NormalizedEvent.canonicalRow, he, hs]
  simp only [hbegin, hend, Postgres.bindDate_date, Postgres.bindDate?_map_date,
    Option.bind_eq_bind, Option.bind_some]
  refine ⟨_, rfl, ?_⟩
  show ((r.leas.lookup enrollment.leaId).isSome &&
    r.studentExists enrollment.leaId enrollment.studentId) = true
  rw [hlea, h.scope e hmem, leaExists hr]
  rw [hs] at hstudent
  exact hstudent

/-- An accepted student strands no enrollment of another LEA. -/
theorem admits_student (h : run.Housed s) (hsplit : run.page.events = before ++ e :: after)
    (he : e.entityType = .student) (hacc : (run.report s).accepts e = true)
    (hr : applyEvents pg run.leaId run.syncJobId run.now (before.filter (run.report s).accepts)
      (s.roster.ensureLeaExists run.leaId) = some r) :
    ∃ row, e.canonicalRow pg run.now = some row ∧ r.admits e.naturalKey row = true := by
  have hmem : e ∈ run.page.events := by
    rw [hsplit]; exact List.mem_append_right _ List.mem_cons_self
  obtain ⟨student, hs, hlea⟩ := cleared_student (cleared_of_accepts h.ok hmem hacc) he
  have hhouses : r.Houses run.leaId e.naturalKey :=
    houses_applyEvents (h.start hmem he) (fun x hx => (h.earlier hsplit x hx).2) hr
  rw [NormalizedEvent.canonicalRow, he, hs]
  refine ⟨_, rfl, ?_⟩
  show ((r.leas.lookup student.leaId).isSome && !r.strands e.naturalKey student.leaId) = true
  have hstays : r.strands e.naturalKey run.leaId = false :=
    Roster.strands_eq_false.mpr fun old hold hne => absurd (hhouses.owned old hold) hne
  rw [hlea, h.scope e hmem, leaExists hr, hstays]
  rfl

end PageRun.Housed

/-- **Layer 4 is the foreign key, ahead of time.**  On a page with distinct event ids
of a reachable store, an enrollment that clears Layers 2 and 3 is quarantined exactly if
its student has no row once the accepted events before it are applied, and an enrollment
that is accepted meets the constraints of its table there. -/
theorem quarantined_iff_orphan (pg : Postgres) (ops : List Op) (run : PageRun)
    (hops : ∀ op ∈ ops, op.KeepsApart run.leaId run.students)
    (hscope : run.page.ScopedTo run.leaId) (hids : (run.page.events.map (·.eventId)).Nodup)
    (hok : run.page.layer1Check.ok = true) (before after : List NormalizedEvent)
    (e : NormalizedEvent) (hsplit : run.page.events = before ++ e :: after)
    (he : e.entityType = .enrollment) (hc : e.Cleared) (r : Roster)
    (hr : let s := Runs.run (Store.exec pg) Store.empty ops
      applyEvents pg run.leaId run.syncJobId run.now (before.filter (run.report s).accepts)
        (s.roster.ensureLeaExists run.leaId) = some r) :
    let s := Runs.run (Store.exec pg) Store.empty ops
    (e ∈ run.quarantined s ↔ r.studentExists run.leaId e.entity.studentId = false) ∧
      (e ∈ run.accepted s → ∀ row, e.canonicalRow pg run.now = some row →
        (r.pushSnapshot run.leaId e run.syncJobId run.now).admits e.naturalKey row = true) := by
  intro s
  have hhoused : run.Housed s := .ofRun hops hscope hids hok
  have hmem : e ∈ run.page.events := by
    rw [hsplit]; exact List.mem_append_right _ List.mem_cons_self
  refine ⟨?_, fun hacc row hrow => ?_⟩
  · rw [PageRun.quarantined, List.mem_filter, hhoused.quarantines_iff hsplit he hc hr]
    exact and_iff_right hmem
  · obtain ⟨row', hrow', hadmits⟩ :=
      hhoused.admits_enrollment hsplit he (List.mem_filter.mp hacc).2 hr
    obtain rfl := Option.some.inj (hrow'.symm.trans hrow)
    rw [Roster.admits_pushSnapshot]
    exact hadmits

section

open Fixture

/-- A student arrives, and the job is reverted. -/
def createdThenReverted : List Op :=
  [pageOp "L1" "job-1" [event "L1" "evt_001" (student "L1" "s1")], revertOp "job-1" "rev-1"]

/-- The enrollment of a student who comes later in the page. -/
def tooEarly : NormalizedEvent := event "L1" "evt_003" (enrollment "L1" "e2" "s2")

/-- Enrollments of a student with a soft-deleted row, of one yet to come and of one who
has just come. -/
def mixedPage : PageRun where
  leaId := "L1"
  partner := "edlink"
  page := page [event "L1" "evt_002" (enrollment "L1" "e1" "s1"), tooEarly,
    event "L1" "evt_004" (student "L1" "s2"), event "L1" "evt_005" (enrollment "L1" "e3" "s2")]
  syncJobId := "job-2"
  now := 50

theorem quarantined_iff_orphan_tooEarly :
    tooEarly ∈ mixedPage.quarantined (after createdThenReverted) := by
  let before : List NormalizedEvent := [event "L1" "evt_002" (enrollment "L1" "e1" "s1")]
  let earlier := applyEvents Postgres.reference "L1" "job-2" 50
    (before.filter (mixedPage.report (after createdThenReverted)).accepts)
    ((after createdThenReverted).roster.ensureLeaExists "L1")
  have hread : earlier.map (fun r => r.studentExists "L1" "s2") = some false := by decide +kernel
  obtain ⟨r, hr, hno⟩ := Option.map_eq_some_iff.mp hread
  exact (quarantined_iff_orphan Postgres.reference createdThenReverted mixedPage (by decide)
    (by decide) (by decide) (by decide) before _ tooEarly rfl rfl (by decide) r hr).1.mpr hno

end
