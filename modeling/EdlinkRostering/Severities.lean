/-
Severities and what becomes of an event.

The pipeline rejects an event on account of any issue of Layers 2 and 3, whatever
its severity, and the worker follows the report.  An event is therefore lost to a
warning exactly when it clears Layer 2 and Layer 3 warns about it: a student whose
grade is not in the OneRoster list.

* `mem_issues_iff` — where an issue of the report comes from;
* `warnings_drop_nothing_iff` — when the report follows the severities;
* `warning_drops_student` — a student in grade `AD`.
-/
import EdlinkRostering.System

/-! ### What the report promises -/

/-- The events of the page are ok, quarantined or rejected, and never two of these. -/
structure EventPage.SplitBy (page : EventPage) (report : ValidationReport) : Prop where
  complete : ∀ e ∈ page.events, e.eventId ∈ report.okEventIds ∨
    e.eventId ∈ report.quarantinedEventIds ∨ e.eventId ∈ (rejectedIds page).2
  ok_quarantined : ∀ id ∈ report.okEventIds, id ∉ report.quarantinedEventIds
  ok_rejected : ∀ id ∈ report.okEventIds, id ∉ (rejectedIds page).2
  quarantined_rejected : ∀ id ∈ report.quarantinedEventIds, id ∉ (rejectedIds page).2

/-- An event is ok when no error and no quarantine issue carries its id. -/
def EventPage.FollowsSeverity (page : EventPage) (report : ValidationReport) : Prop :=
  ∀ e ∈ page.events, e.eventId ∈ report.okEventIds ↔
    ∀ i ∈ report.issues, i.eventId = some e.eventId →
      i.severity ≠ .error ∧ i.severity ≠ .quarantine

/-- The worker goes on with the page, applies exactly the ok events, quarantines
exactly the quarantined ones and counts every event once. -/
structure EventPage.HandedOver (page : EventPage) (report : ValidationReport) : Prop where
  unblocked : report.pageBlocked = false
  worker : ∀ (pg : Postgres) (leaId : LeaId) (syncJobId : Uuid) (now : Instant) (s s' : Store)
    (counts : PageCounts),
    processEvents pg leaId syncJobId now report page.events s = some (s', counts) →
      applyEvents pg leaId syncJobId now
          (page.events.filter fun e => e.eventId ∈ report.okEventIds) s.roster
        = some s'.roster ∧
      s'.quarantine = s.quarantine ++
        (page.events.filter fun e => e.eventId ∈ report.quarantinedEventIds).map
          (quarantineRow leaId syncJobId now) ∧
      counts.applied + counts.skipped + counts.quarantined = page.events.length

/-! ### Where an issue comes from -/

section

variable {e : NormalizedEvent} {i : ValidationIssue}

theorem mem_yieldIf {condition : Bool} {issue : ValidationIssue} (h : i ∈ yieldIf condition issue) :
    i = issue := by
  cases condition with
  | true => exact List.mem_singleton.mp h
  | false => exact absurd h List.not_mem_nil

/-- Layer 2 finds errors only, and each names its event. -/
theorem checkSchema_issue (h : i ∈ checkSchema e) :
    i.severity = .error ∧ i.eventId = some e.eventId := by
  have henvelope : i ∈ checkEnvelope e → i.severity = .error ∧ i.eventId = some e.eventId := by
    intro h
    rcases List.mem_append.mp h with h | h
    · rw [mem_yieldIf h]; exact ⟨rfl, rfl⟩
    · rw [mem_yieldIf h]; exact ⟨rfl, rfl⟩
  rw [checkSchema] at h
  split at h
  · rcases List.mem_append.mp h with h | h
    · simp only [checkStudent, List.mem_append, or_assoc] at h
      rcases h with h | h | h | h <;> rw [mem_yieldIf h] <;> exact ⟨rfl, rfl⟩
    · exact henvelope h
  · rw [List.mem_singleton.mp h]; exact ⟨rfl, rfl⟩
  · rcases List.mem_append.mp h with h | h
    · simp only [checkEnrollment, List.mem_append, or_assoc] at h
      rcases h with h | h | h | h <;> rw [mem_yieldIf h] <;> exact ⟨rfl, rfl⟩
    · exact henvelope h
  · rw [List.mem_singleton.mp h]; exact ⟨rfl, rfl⟩
  · exact henvelope h
  · rcases List.mem_cons.mp h with rfl | h
    · exact ⟨rfl, rfl⟩
    · exact henvelope h

/-- Layer 3 names the event, quarantines nothing, and finds one issue at most. -/
theorem checkParse_issue (h : i ∈ checkParse e) :
    i.eventId = some e.eventId ∧ i.severity ≠ .quarantine ∧ ∀ j ∈ checkParse e, j = i := by
  rw [checkParse] at h ⊢
  split at h
  · rw [checkStudentParse] at h ⊢
    split at h
    · exact absurd h List.not_mem_nil
    · have hi := mem_yieldIf h
      refine ⟨by rw [hi]; rfl, by rw [hi]; exact Severity.noConfusion, fun j hj => ?_⟩
      rw [hi, mem_yieldIf hj]
  · unfold checkEnrollmentParse at h ⊢
    split at h
    · have hi := List.mem_singleton.mp h
      refine ⟨by rw [hi]; rfl, by rw [hi]; exact Severity.noConfusion, fun j hj => ?_⟩
      rw [hi, List.mem_singleton.mp hj]
    · exact absurd h List.not_mem_nil
    · have hi := List.mem_singleton.mp h
      refine ⟨by rw [hi]; rfl, by rw [hi]; exact Severity.noConfusion, fun j hj => ?_⟩
      rw [hi, List.mem_singleton.mp hj]
    · have hi := mem_yieldIf h
      refine ⟨by rw [hi]; rfl, by rw [hi]; exact Severity.noConfusion, fun j hj => ?_⟩
      rw [hi, mem_yieldIf hj]
  · exact absurd h List.not_mem_nil

theorem mem_layer2_issues {events : List NormalizedEvent} {acc : Findings} :
    i ∈ (layer2 events acc).1 ↔ i ∈ acc.1 ∨ ∃ e ∈ events, i ∈ checkSchema e := by
  induction events generalizing acc with
  | nil => simp [layer2]
  | cons event events ih =>
    rw [show layer2 (event :: events) acc
      = layer2 events (acc.record event (checkSchema event)) from rfl, ih]
    simp only [Findings.record, List.mem_append, List.mem_cons, exists_eq_or_imp, or_assoc]

theorem mem_layer3_issues {events : List NormalizedEvent} {acc : Findings}
    (hids : (events.map (·.eventId)).Nodup) :
    i ∈ (layer3 events acc).1 ↔
      i ∈ acc.1 ∨ ∃ e ∈ events, e.eventId ∉ acc.2 ∧ i ∈ checkParse e := by
  induction events generalizing acc with
  | nil => simp [layer3]
  | cons event events ih =>
    rw [List.map_cons, List.nodup_cons] at hids
    obtain ⟨hnew, hids⟩ := hids
    -- a rejection of the first event is not one of the others
    have hother : ∀ e ∈ events, e.eventId ≠ event.eventId := by
      intro e he heq
      exact hnew (heq ▸ List.mem_map_of_mem he)
    by_cases hr : event.eventId ∈ acc.2
    · rw [show layer3 (event :: events) acc = layer3 events acc by
        simp only [layer3, List.foldl_cons, if_pos hr], ih hids]
      simp only [List.mem_cons, exists_eq_or_imp, hr, not_true_eq_false, false_and, false_or]
    · rw [show layer3 (event :: events) acc
        = layer3 events (acc.record event (checkParse event)) by
          simp only [layer3, List.foldl_cons, if_neg hr], ih hids]
      have hkeep : ∀ e ∈ events, (e.eventId ∉ (acc.record event (checkParse event)).2 ↔
          e.eventId ∉ acc.2) := by
        intro e he
        rw [Findings.record]
        split
        · rfl
        · simp [hother e he]
      simp only [Findings.record, List.mem_append, List.mem_cons, exists_eq_or_imp, or_assoc, hr,
        not_false_eq_true, true_and]
      refine or_congr_right (or_congr_right (exists_congr fun e => and_congr_right fun he => ?_))
      exact and_congr_left fun _ => hkeep e he

/-- What Layer 3 adds is about an event of the page, whatever the ids are. -/
theorem exists_of_mem_layer3_issues {events : List NormalizedEvent} {acc : Findings}
    (h : i ∈ (layer3 events acc).1) : i ∈ acc.1 ∨ ∃ e ∈ events, i ∈ checkParse e := by
  induction events generalizing acc with
  | nil => exact Or.inl h
  | cons event events ih =>
    rw [layer3, List.foldl_cons] at h
    rcases ih h with h | ⟨e, he, h⟩
    · split at h
      · exact Or.inl h
      · rcases List.mem_append.mp h with h | h
        · exact Or.inl h
        · exact Or.inr ⟨event, List.mem_cons_self, h⟩
    · exact Or.inr ⟨e, List.mem_cons_of_mem _ he, h⟩

/-- Layer 4 quarantines what it finds an issue with. -/
theorem checkReferential_issues {events : List NormalizedEvent} {known : List StudentId} :
    (∀ i ∈ (checkReferential events known).1, i.severity = .quarantine ∧
      ∃ id ∈ (checkReferential events known).2, i.eventId = some id) ∧
    ∀ id ∈ (checkReferential events known).2,
      ∃ i ∈ (checkReferential events known).1, i.eventId = some id := by
  induction events generalizing known with
  | nil => simp [checkReferential]
  | cons event events ih =>
    rw [checkReferential]
    split
    · exact ih
    · exact ih
    · split
      · exact ih
      · obtain ⟨hissues, hids⟩ := @ih known
        refine ⟨fun i hi => ?_, fun id hid => ?_⟩
        · rcases List.mem_cons.mp hi with rfl | hi
          · exact ⟨rfl, event.eventId, List.mem_cons_self, rfl⟩
          · obtain ⟨hs, id, hid, he⟩ := hissues i hi
            exact ⟨hs, id, List.mem_cons_of_mem _ hid, he⟩
        · rcases List.mem_cons.mp hid with rfl | hid
          · exact ⟨_, List.mem_cons_self, rfl⟩
          · obtain ⟨i, hi, he⟩ := hids id hid
            exact ⟨i, List.mem_cons_of_mem _ hi, he⟩

/-- Layer 5 never names an event, and never blocks. -/
theorem checkThresholds_issue {page : EventPage} {state : LEAState}
    (h : i ∈ checkThresholds page state) : i.eventId = none ∧ i.severity = .warning := by
  rw [checkThresholds] at h
  split at h
  · rcases List.mem_cons.mp h with rfl | h
    · exact ⟨rfl, rfl⟩
    · rw [List.mem_singleton.mp h]
      exact ⟨rfl, rfl⟩
  · simp only [List.mem_append, List.mem_singleton, or_assoc] at h
    rcases h with rfl | h | h | h
    · exact ⟨rfl, rfl⟩
    all_goals rw [mem_yieldIf h]; exact ⟨rfl, rfl⟩

end

section

variable {page : EventPage} {state : LEAState}

/-- With distinct ids an event is rejected on account of its own issues. -/
theorem mem_rejectedIds_iff (hids : (page.events.map (·.eventId)).Nodup) {e : NormalizedEvent}
    (he : e ∈ page.events) : e.eventId ∈ (rejectedIds page).2 ↔ ¬ e.Cleared := by
  rw [mem_rejectedIds]
  constructor
  · rintro ⟨e', he', hid, hc⟩
    rwa [← List.inj_on_of_nodup_map hids he' he hid]
  · exact fun hc => ⟨e, he, rfl, hc⟩

/-- The issues of Layers 2 and 3 of a page with distinct ids. -/
theorem mem_findings_iff (hids : (page.events.map (·.eventId)).Nodup) {i : ValidationIssue} :
    i ∈ (rejectedIds page).1 ↔ ∃ e ∈ page.events, i ∈ checkSchema e ∨
      (checkSchema e = [] ∧ i ∈ checkParse e) := by
  rw [rejectedIds, mem_layer3_issues hids, mem_layer2_issues]
  simp only [List.not_mem_nil, false_or]
  have hschema : ∀ e ∈ page.events,
      (e.eventId ∉ (layer2 page.events ([], [])).2 ↔ checkSchema e = []) := by
    intro e he
    rw [layer2_rejected]
    simp only [List.not_mem_nil, false_or, not_exists, not_and, not_not]
    constructor
    · exact fun h => h e he rfl
    · intro h e' he' hid
      rwa [List.inj_on_of_nodup_map hids he' he hid]
  constructor
  · rintro (⟨e, he, hi⟩ | ⟨e, he, hr, hi⟩)
    · exact ⟨e, he, Or.inl hi⟩
    · exact ⟨e, he, Or.inr ⟨(hschema e he).mp hr, hi⟩⟩
  · rintro ⟨e, he, hi | ⟨hs, hi⟩⟩
    · exact Or.inl ⟨e, he, hi⟩
    · exact Or.inr ⟨e, he, (hschema e he).mpr hs, hi⟩

variable (hok : page.layer1Check.ok = true)
include hok

/-- The three sets of a page that passed Layer 1. -/
theorem splitBy_runPipeline : page.SplitBy (runPipeline page state) := by
  have hquarantined : ∀ id, id ∈ (runPipeline page state).quarantinedEventIds ↔
      id ∈ (checkReferential (surviving page) state.knownStudentIds).2 := by
    intro id
    simp only [runPipeline, if_pos hok, List.mem_insertionSort, List.mem_dedup]
  have hmem : ∀ id, id ∈ (runPipeline page state).okEventIds ↔
      id ∈ page.events.map (·.eventId) ∧ id ∉ (rejectedIds page).2 ∧
        id ∉ (checkReferential (surviving page) state.knownStudentIds).2 := by
    intro id
    simp only [runPipeline, if_pos hok, List.mem_filter, Bool.and_eq_true, decide_eq_true_eq]
  refine ⟨fun e he => ?_, fun id hid => ?_, fun id hid => ((hmem id).mp hid).2.1, fun id hid => ?_⟩
  · rw [hmem, hquarantined]
    have hin : e.eventId ∈ page.events.map (·.eventId) := List.mem_map_of_mem he
    tauto
  · rw [hquarantined]
    exact ((hmem id).mp hid).2.2
  · obtain ⟨e, he, rfl⟩ := mem_checkReferential ((hquarantined id).mp hid)
    simpa using (List.mem_filter.mp he).2

/-- **Where an issue that names an event comes from.** -/
theorem mem_issues_iff (hids : (page.events.map (·.eventId)).Nodup) {e : NormalizedEvent}
    (he : e ∈ page.events) {i : ValidationIssue} (hi : i.eventId = some e.eventId) :
    i ∈ (runPipeline page state).issues ↔
      i ∈ checkSchema e ∨ (checkSchema e = [] ∧ i ∈ checkParse e) ∨
        i ∈ (checkReferential (surviving page) state.knownStudentIds).1 := by
  have hissues : (runPipeline page state).issues = (rejectedIds page).1 ++
      (checkReferential (surviving page) state.knownStudentIds).1 ++
      checkThresholds page state := by
    rw [runPipeline, if_pos hok]
  rw [hissues, List.mem_append, List.mem_append, mem_findings_iff hids]
  have hown : ∀ e' ∈ page.events, i.eventId = some e'.eventId → e' = e := fun e' he' h =>
    List.inj_on_of_nodup_map hids he' he (Option.some.inj (h.symm.trans hi))
  constructor
  · rintro ((⟨e', he', h | ⟨hs, h⟩⟩ | h) | h)
    · obtain rfl := hown e' he' (checkSchema_issue h).2
      exact Or.inl h
    · obtain rfl := hown e' he' (checkParse_issue h).1
      exact Or.inr (Or.inl ⟨hs, h⟩)
    · exact Or.inr (Or.inr h)
    · rw [(checkThresholds_issue h).1] at hi
      exact absurd hi (by simp)
  · rintro (h | h | h)
    · exact Or.inl (Or.inl ⟨e, he, Or.inl h⟩)
    · exact Or.inl (Or.inl ⟨e, he, Or.inr h⟩)
    · exact Or.inl (Or.inr h)

/-- A page that passed Layer 1 is not blocked: every error names an event. -/
theorem pageBlocked_runPipeline : (runPipeline page state).pageBlocked = false := by
  rw [runPipeline, if_pos hok]
  refine List.any_eq_false.mpr fun i hi => ?_
  simp only [Bool.and_eq_true, decide_eq_true_eq, not_and]
  intro herror hnone
  rcases List.mem_append.mp hi with hi | hi
  · rcases List.mem_append.mp hi with hi | hi
    · rcases exists_of_mem_layer3_issues hi with hi | ⟨e, -, h⟩
      · obtain h | ⟨e, -, h⟩ := mem_layer2_issues.mp hi
        · exact List.not_mem_nil h
        · rw [(checkSchema_issue h).2] at hnone
          exact absurd hnone (by simp)
      · rw [(checkParse_issue h).1] at hnone
        exact absurd hnone (by simp)
    · rw [(checkReferential_issues.1 i hi).1] at herror
      exact absurd herror (by simp)
  · rw [(checkThresholds_issue hi).2] at herror
    exact absurd herror (by simp)

omit hok in
/-- Every turn of the event loop counts its event once. -/
theorem processEvent_counts {pg : Postgres} {leaId : LeaId} {syncJobId : Uuid} {now : Instant}
    {report : ValidationReport} {event : NormalizedEvent} {acc acc' : Store × PageCounts}
    (h : processEvent pg leaId syncJobId now report acc event = some acc') :
    acc'.2.applied + acc'.2.skipped + acc'.2.quarantined
      = acc.2.applied + acc.2.skipped + acc.2.quarantined + 1 := by
  obtain ⟨s, counts⟩ := acc
  simp only [processEvent] at h
  split at h
  · -- quarantined
    rw [← Option.some.inj h]
    show counts.applied + counts.skipped + (counts.quarantined + 1)
      = counts.applied + counts.skipped + counts.quarantined + 1
    omega
  split at h
  · -- rejected
    rw [← Option.some.inj h]
    show counts.applied + (counts.skipped + 1) + counts.quarantined
      = counts.applied + counts.skipped + counts.quarantined + 1
    omega
  · rw [Option.bind_eq_bind, Option.bind_eq_some_iff] at h
    obtain ⟨⟨r, changed⟩, -, h⟩ := h
    rw [← Option.some.inj h]
    cases changed with
    | true =>
      show counts.applied + 1 + counts.skipped + counts.quarantined
        = counts.applied + counts.skipped + counts.quarantined + 1
      omega
    | false =>
      -- deduplicated
      show counts.applied + (counts.skipped + 1) + counts.quarantined
        = counts.applied + counts.skipped + counts.quarantined + 1
      omega

omit hok in
theorem processEvents_counts {pg : Postgres} {leaId : LeaId} {syncJobId : Uuid} {now : Instant}
    {report : ValidationReport} {events : List NormalizedEvent} {s s' : Store}
    {counts : PageCounts}
    (h : processEvents pg leaId syncJobId now report events s = some (s', counts)) :
    counts.applied + counts.skipped + counts.quarantined = events.length := by
  have hgeneral : ∀ (events : List NormalizedEvent) (acc acc' : Store × PageCounts),
      events.foldlM (processEvent pg leaId syncJobId now report) acc = some acc' →
      acc'.2.applied + acc'.2.skipped + acc'.2.quarantined
        = acc.2.applied + acc.2.skipped + acc.2.quarantined + events.length := by
    intro events
    induction events with
    | nil =>
      intro acc acc' h
      rw [← Option.some.inj h]
      rfl
    | cons event events ih =>
      intro acc acc' h
      obtain ⟨acc₁, h₁, h₂⟩ := Runs.foldlM_cons_eq_some.mp h
      have hturn := processEvent_counts h₁
      have hrest := ih acc₁ acc' h₂
      rw [List.length_cons]
      omega
  have htotal : counts.applied + counts.skipped + counts.quarantined
      = 0 + 0 + 0 + events.length := hgeneral events (s, {}) (s', counts) h
  omega

/-- The worker follows the report of such a page. -/
theorem handedOver_runPipeline :
    page.HandedOver (runPipeline page state) := by
  refine ⟨pageBlocked_runPipeline hok, ?_⟩
  intro pg leaId syncJobId now s s' counts h
  obtain ⟨hroster, hquarantine, -⟩ := processEvents_eq_some h
  have haccepts : page.events.filter (runPipeline page state).accepts
      = page.events.filter fun e => e.eventId ∈ (runPipeline page state).okEventIds := by
    refine List.filter_congr fun e _ => ?_
    rw [ValidationReport.accepts]
    by_cases hid : e.eventId ∈ (runPipeline page state).okEventIds
    · simp [hid, (splitBy_runPipeline hok).ok_quarantined _ hid]
    · simp [hid]
  rw [haccepts] at hroster
  exact ⟨hroster, hquarantine, processEvents_counts h⟩

/-- The report follows the severities when no event is lost to a warning alone. -/
theorem followsSeverity_iff (hids : (page.events.map (·.eventId)).Nodup) :
    page.FollowsSeverity (runPipeline page state) ↔
      ∀ e ∈ page.events, checkSchema e = [] → ∀ i ∈ checkParse e, i.severity ≠ .warning := by
  have hsplit : page.SplitBy (runPipeline page state) := splitBy_runPipeline hok
  have hquarantined : ∀ id, id ∈ (runPipeline page state).quarantinedEventIds ↔
      id ∈ (checkReferential (surviving page) state.knownStudentIds).2 := by
    intro id
    simp only [runPipeline, if_pos hok, List.mem_insertionSort, List.mem_dedup]
  constructor
  · -- an event lost to a warning has no issue that says so
    intro hfollows e he hs i hi hwarning
    have hrejected : e.eventId ∈ (rejectedIds page).2 := by
      rw [mem_rejectedIds_iff hids he]
      exact fun hc => absurd (hc.2 ▸ hi) List.not_mem_nil
    refine hsplit.ok_rejected e.eventId ((hfollows e he).mpr fun j hj hid => ?_) hrejected
    rcases (mem_issues_iff hok hids he hid).mp hj with h | ⟨-, h⟩ | h
    · rw [hs] at h
      exact absurd h List.not_mem_nil
    · rw [(checkParse_issue hi).2.2 j h, hwarning]
      exact ⟨Severity.noConfusion, Severity.noConfusion⟩
    · -- a rejected event does not get as far as Layer 4
      obtain ⟨-, id, hid', hjid⟩ := checkReferential_issues.1 j h
      obtain rfl := Option.some.inj (hjid.symm.trans hid)
      exact absurd hrejected (hsplit.quarantined_rejected _ ((hquarantined _).mpr hid'))
  · intro hcond e he
    constructor
    · -- an event that is handed over has no error and no quarantine
      intro hid i hi hie
      have hcleared : e.Cleared := by
        by_contra hc
        exact hsplit.ok_rejected _ hid ((mem_rejectedIds_iff hids he).mpr hc)
      rcases (mem_issues_iff hok hids he hie).mp hi with h | ⟨-, h⟩ | h
      · rw [hcleared.1] at h
        exact absurd h List.not_mem_nil
      · rw [hcleared.2] at h
        exact absurd h List.not_mem_nil
      · obtain ⟨-, id, hid', hjid⟩ := checkReferential_issues.1 i h
        obtain rfl := Option.some.inj (hjid.symm.trans hie)
        exact absurd ((hquarantined _).mpr hid') (hsplit.ok_quarantined _ hid)
    · -- an event without either is neither rejected nor quarantined
      intro hnone
      rcases hsplit.complete e he with hid | hid | hid
      · exact hid
      · obtain ⟨i, hi, hie⟩ := checkReferential_issues.2 _ ((hquarantined _).mp hid)
        have hin : i ∈ (runPipeline page state).issues :=
          (mem_issues_iff hok hids he hie).mpr (Or.inr (Or.inr hi))
        exact absurd (checkReferential_issues.1 i hi).1 (hnone i hin hie).2
      · -- what rejects the event is an error
        exfalso
        by_cases hs : checkSchema e = []
        · have hparse : checkParse e ≠ [] := fun hp =>
            (mem_rejectedIds_iff hids he).mp hid ⟨hs, hp⟩
          obtain ⟨i, hi⟩ := List.exists_mem_of_ne_nil _ hparse
          obtain ⟨hie, hq, -⟩ := checkParse_issue hi
          have hin : i ∈ (runPipeline page state).issues :=
            (mem_issues_iff hok hids he hie).mpr (Or.inr (Or.inl ⟨hs, hi⟩))
          have hw := hcond e he hs i hi
          have herror := (hnone i hin hie).1
          cases hsev : i.severity with
          | error => exact herror hsev
          | warning => exact hw hsev
          | quarantine => exact hq hsev
        · obtain ⟨i, hi⟩ := List.exists_mem_of_ne_nil _ hs
          obtain ⟨herror, hie⟩ := checkSchema_issue hi
          have hin : i ∈ (runPipeline page state).issues :=
            (mem_issues_iff hok hids he hie).mpr (Or.inl hi)
          exact (hnone i hin hie).1 herror

end

/-- **When warnings drop nothing.**  The report of a page that passed Layer 1 splits
its events, the worker follows it, and an event is lost to errors and quarantine
issues only, exactly when no event that clears Layer 2 gets a warning from Layer 3. -/
theorem warnings_drop_nothing_iff (page : EventPage) (state : LEAState)
    (hok : page.layer1Check.ok = true) (hids : (page.events.map (·.eventId)).Nodup) :
    (page.SplitBy (runPipeline page state) ∧ page.FollowsSeverity (runPipeline page state) ∧
      page.HandedOver (runPipeline page state)) ↔
    ∀ e ∈ page.events, checkSchema e = [] → ∀ i ∈ checkParse e, i.severity ≠ .warning := by
  constructor
  · rintro ⟨-, hfollows, -⟩
    exact (followsSeverity_iff hok hids).mp hfollows
  · intro hcond
    exact ⟨splitBy_runPipeline hok, (followsSeverity_iff hok hids).mpr hcond,
      handedOver_runPipeline hok⟩

section

open Fixture

/-- A student, an enrollment of that student and an enrollment of nobody. -/
def plainPage : EventPage :=
  page [event "L1" "evt_001" (student "L1" "s1" (some "05")),
    event "L1" "evt_002" (enrollment "L1" "e1" "s1"),
    event "L1" "evt_003" (enrollment "L1" "e2" "s9")]

/-- A student in adult education. -/
def adultPage : EventPage := page [event "L1" "evt_001" (student "L1" "s1" (some "AD"))]

theorem warnings_drop_nothing_plainPage :
    (plainPage.SplitBy (runPipeline plainPage { leaId := "L1" }) ∧
      plainPage.FollowsSeverity (runPipeline plainPage { leaId := "L1" }) ∧
      plainPage.HandedOver (runPipeline plainPage { leaId := "L1" })) ↔
    ∀ e ∈ plainPage.events, checkSchema e = [] → ∀ i ∈ checkParse e, i.severity ≠ .warning :=
  warnings_drop_nothing_iff plainPage { leaId := "L1" } rfl (by decide)

/-- The one issue that names the student is a warning, and the student is dropped. -/
theorem warning_drops_student :
    adultPage.layer1Check.ok = true ∧ (adultPage.events.map (·.eventId)).Nodup ∧
      ¬ adultPage.FollowsSeverity (runPipeline adultPage { leaId := "L1" }) := by
  refine ⟨rfl, by decide, fun hfollows => ?_⟩
  have hnone : ∀ i ∈ (runPipeline adultPage { leaId := "L1" }).issues,
      i.severity ≠ .error ∧ i.severity ≠ .quarantine := by
    decide
  have hok := (hfollows _ List.mem_cons_self).mpr fun i hi _ => hnone i hi
  have hempty : (runPipeline adultPage { leaId := "L1" }).okEventIds = [] := by decide
  rw [hempty] at hok
  exact List.not_mem_nil hok

end
