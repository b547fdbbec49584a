/-
The live snapshot and the canonical row.

A revert rewrites a canonical row from the payload of a snapshot alone, so the
payload of every live snapshot has to be a complete record of the row.  Four
writers make such pairs: events, bulk loads, releases and reverts themselves.

* `SnapshotRow.Reflects` — the row is what a rewrite from the payload gives;
* `reflects_event`, `reflects_entry`, `reflects_release` — the pairs of the writers;
* `Roster.Faithful` — what holds of an entity in every state, write by write;
* `live_snapshot_reflects` — along every run that avoids the bad writes;
* `bulk_load_forgets_external_ids` — a bulk load over an event's student.
-/
import EdlinkRostering.Histories
import EdlinkRostering.ForeignKeys
import EdlinkRostering.ReleaseRefinement
import EdlinkRostering.Supersession

/-- The instant of the deletion is the one column that does not come from the
payload. -/
theorem canonicalOfPayload_deletedAt {et : EntityType} {leaId : LeaId} {payload : Dict}
    {deletedAt : Option Instant} {row : CanonicalRow}
    (h : canonicalOfPayload et leaId payload deletedAt = some row) :
    row.deletedAt = deletedAt ∧ ∀ deletedAt',
      canonicalOfPayload et leaId payload deletedAt' = some (row.withDeletedAt deletedAt') := by
  cases et with
  | student =>
    simp only [canonicalOfPayload, Option.bind_eq_bind, Option.bind_eq_some_iff] at h
    obtain ⟨_, h₁, _, h₂, _, h₃, _, h₄, _, h₅, _, h₆, h⟩ := h
    rw [← Option.some.inj h]
    refine ⟨rfl, fun _ => ?_⟩
    simp [canonicalOfPayload, h₁, h₂, h₃, h₄, h₅, h₆, CanonicalRow.withDeletedAt]
  | enrollment =>
    simp only [canonicalOfPayload, Option.bind_eq_bind, Option.bind_eq_some_iff] at h
    obtain ⟨_, h₁, _, h₂, _, h₃, _, ⟨_, h₄, rfl⟩, _, h₅, h⟩ := h
    rw [← Option.some.inj h]
    refine ⟨rfl, fun _ => ?_⟩
    simp [canonicalOfPayload, h₁, h₂, h₃, h₄, h₅, CanonicalRow.withDeletedAt]
  | lea =>
    simp only [canonicalOfPayload, Option.bind_eq_bind, Option.bind_eq_some_iff] at h
    obtain ⟨_, h₁, _, h₂, _, h₃, _, h₄, h⟩ := h
    rw [← Option.some.inj h]
    refine ⟨rfl, fun _ => ?_⟩
    simp [canonicalOfPayload, h₁, h₂, h₃, h₄, CanonicalRow.withDeletedAt]

/-- The canonical row is what a rewrite from the snapshot's payload gives, and is
soft-deleted exactly when the snapshot is a deletion. -/
structure SnapshotRow.Reflects (x : SnapshotRow) (et : EntityType) (row : CanonicalRow) :
    Prop where
  payload : canonicalOfPayload et x.leaId x.payload row.deletedAt = some row
  deleted : row.deletedAt.isSome = x.deletedUpstream

/-! ### The writers -/

section

variable {pg : Postgres} {leaId : LeaId} {syncJobId : Uuid} {now : Instant}

@[simp] theorem bindText_ofOption (s : Option String) : (Json.ofOption s).bindText = some s := by
  cases s <;> rfl

@[simp] theorem bindText_str (s : String) : (Json.str s).bindText = some (some s) := rfl

/-- A date field that holds a date, or a text that Postgres and Python read alike. -/
def DateField.readAlike (pg : Postgres) : DateField → Bool
  | .date _ => true
  | .text s => Date.fromisoformat s = pg.dateIn s

theorem parseIsoDate_of_readAlike {field : DateField} (h : field.readAlike pg = true) :
    parseIsoDate (some field.jsonSafe) = (pg.bindDate field).map some := by
  cases field with
  | date d => exact parseIsoDate_jsonSafe (some d)
  | text s =>
    have hread : Date.fromisoformat s = pg.dateIn s := by simpa [DateField.readAlike] using h
    show (Date.fromisoformat s).map some = (pg.dateIn s).map some
    rw [hread]

theorem parseIsoDate?_of_readAlike {field : Option DateField}
    (h : field.all (·.readAlike pg) = true) :
    parseIsoDate (some ((field.map DateField.jsonSafe).getD .null)) = pg.bindDate? field := by
  cases field with
  | none => rfl
  | some field => exact parseIsoDate_of_readAlike h

theorem isSome_ite (b : Bool) (i : Instant) : (if b then some i else none).isSome = b := by
  cases b <;> rfl

/-- What an event writes. -/
theorem reflects_event (leaId : LeaId) (syncJobId : Uuid) {event : NormalizedEvent}
    {row : CanonicalRow} (hc : event.Cleared) (ht : event.entityType ≠ .lea)
    (hrow : event.canonicalRow pg now = some row) :
    (event.snapshotRow leaId syncJobId now).Reflects event.entityType row := by
  cases he : event.entityType with
  | lea => exact absurd he ht
  | student =>
    obtain ⟨student, hs, -⟩ := cleared_student hc he
    rw [NormalizedEvent.canonicalRow, he, hs] at hrow
    rw [← Option.some.inj hrow]
    refine ⟨?_, isSome_ite _ _⟩
    have hexternal : (if (Json.obj student.externalIds).truthy then
        Json.obj student.externalIds else .obj []) = .obj student.externalIds := by
      cases student.externalIds <;> rfl
    simp [canonicalOfPayload, NormalizedEvent.snapshotRow, NormalizedEvent.entityPayload, hs,
      CanonicalEntity.payload, Dict.requiredColumn, Dict.textColumn, Dict.externalIds,
      hexternal, CanonicalRow.deletedAt]
  | enrollment =>
    obtain ⟨enrollment, beginDate, endDate, hs, -, hb, hn⟩ := cleared_enrollment hc he
    rw [NormalizedEvent.canonicalRow, he, hs] at hrow
    simp only [hb, hn, Postgres.bindDate_date, Postgres.bindDate?_map_date, Option.bind_eq_bind,
      Option.bind_some, Option.some.injEq] at hrow
    rw [← hrow]
    refine ⟨?_, isSome_ite _ _⟩
    have hbegin : parseIsoDate (some (.str beginDate.isoformat)) = some (some beginDate) :=
      parseIsoDate_jsonSafe (some beginDate)
    have hend := parseIsoDate_jsonSafe endDate
    rw [Option.map_map] at hend
    simp [canonicalOfPayload, NormalizedEvent.snapshotRow, NormalizedEvent.entityPayload, hs,
      CanonicalEntity.payload, Dict.requiredColumn, Dict.textColumn, hb, hn,
      DateField.jsonSafe, hbegin, hend, CanonicalRow.deletedAt]

/-- The `external_ids` of a canonical row; a row that has none says `{}`. -/
def CanonicalRow.externalIds : CanonicalRow → Json
  | .student row => row.externalIds
  | _ => .obj []

/-- The row that stands under the entry's id has no external ids to lose, and the
entry's dates are read alike. -/
def PartnerEntry.harmless (pg : Postgres) (old : Option CanonicalRow) : PartnerEntry → Bool
  | .student _ => old.all fun row => row.externalIds = .obj []
  | .enrollment entry =>
    entry.beginDate.all (·.readAlike pg) && entry.endDate.all (·.readAlike pg)

theorem externalIds_entry {entry : StudentEntry} {old : Option CanonicalRow} {row : CanonicalRow}
    (h : (PartnerEntry.student entry).canonicalRow pg leaId old = some row)
    (hr : (PartnerEntry.student entry).harmless pg old = true) : row.externalIds = .obj [] := by
  simp only [PartnerEntry.canonicalRow, Option.bind_eq_bind, Option.bind_eq_some_iff] at h
  obtain ⟨givenName, -, familyName, -, h⟩ := h
  rw [← Option.some.inj h]
  cases old with
  | none => rfl
  | some old =>
    cases old with
    | student old => exact of_decide_eq_true hr
    | lea old => rfl
    | enrollment old => rfl

/-- What a bulk load writes, and that the next entry for the row is as harmless. -/
theorem reflects_entry {entry : PartnerEntry} {old : Option CanonicalRow} {row : CanonicalRow}
    {id : String} (hr : entry.harmless pg old = true)
    (hrow : entry.canonicalRow pg leaId old = some row) :
    (entry.snapshotRow leaId id syncJobId now).Reflects entry.entityType row ∧
      ∀ e : PartnerEntry, e.entityType = entry.entityType → e.harmless pg old = true →
        e.harmless pg (some row) = true := by
  cases entry with
  | student entry =>
    have hexternal := externalIds_entry hrow hr
    refine ⟨?_, fun e he _ => ?_⟩
    · simp only [PartnerEntry.canonicalRow, Option.bind_eq_bind, Option.bind_eq_some_iff] at hrow
      obtain ⟨givenName, hg, familyName, hf, hrow⟩ := hrow
      obtain rfl := Option.some.inj hrow
      refine ⟨?_, rfl⟩
      simp only [CanonicalRow.externalIds] at hexternal
      simp [canonicalOfPayload, PartnerEntry.snapshotRow, PartnerEntry.payload, hg, hf,
        PartnerEntry.entityType, Dict.requiredColumn, Dict.textColumn, Dict.externalIds,
        CanonicalRow.deletedAt, hexternal]
    · cases e with
      | student e => simpa [PartnerEntry.harmless] using hexternal
      | enrollment e => exact absurd he (by simp [PartnerEntry.entityType])
  | enrollment entry =>
    simp only [PartnerEntry.canonicalRow, Option.bind_eq_bind, Option.bind_eq_some_iff] at hrow
    obtain ⟨studentId, hs, classId, hc, beginDate, ⟨_, hb, rfl⟩, endDate, hn, hrow⟩ := hrow
    obtain rfl := Option.some.inj hrow
    obtain ⟨hrb, hre⟩ := (Bool.and_eq_true _ _ ▸ hr : _ ∧ _)
    refine ⟨⟨?_, rfl⟩, fun e he h => ?_⟩
    · have hbegin := (parseIsoDate?_of_readAlike hrb).trans hb
      have hend := (parseIsoDate?_of_readAlike hre).trans hn
      simp [canonicalOfPayload, PartnerEntry.snapshotRow, PartnerEntry.payload, hs, hc,
        PartnerEntry.entityType, Dict.requiredColumn, Dict.textColumn, hbegin, hend,
        CanonicalRow.deletedAt]
    · cases e with
      | student e => exact absurd he (by simp [PartnerEntry.entityType])
      | enrollment e => exact h

end

/-- What a release writes. -/
theorem reflects_release {event : NormalizedEvent} {row : QuarantineRow}
    {enrollment : EnrollmentRow} {new : SnapshotRow} (hw : row.WrittenFor event) {pg : Postgres}
    {now : Instant} (hnone : enrollment.deletedAt = none)
    (hcan : event.canonicalRow pg now = some ((CanonicalRow.enrollment enrollment).withDeletedAt
      (if event.deletedUpstream then some now else none)))
    (hlea : new.leaId = row.leaId) (hdel : new.deletedUpstream = false)
    (hpayload : new.payload
      = event.entityPayload ++ [("source_event_id", .str event.sourceEventId)]) :
    new.Reflects .enrollment (.enrollment enrollment) := by
  -- the payload is the event's with one more key, which the rewrite does not read
  have hread : ∀ deletedAt, canonicalOfPayload .enrollment row.leaId new.payload deletedAt
      = canonicalOfPayload .enrollment row.leaId event.entityPayload deletedAt := by
    intro deletedAt
    obtain ⟨e, _, _, he, -⟩ := hw.enrollment
    rw [hpayload, NormalizedEvent.entityPayload, he]
    simp [canonicalOfPayload, CanonicalEntity.payload, Dict.requiredColumn, Dict.textColumn]
  have hevent := reflects_event row.leaId "" hw.cleared
    (by rw [hw.entityType]; simp) hcan
  refine ⟨?_, by rw [hdel, CanonicalRow.deletedAt, hnone]; rfl⟩
  have hrewrite := (canonicalOfPayload_deletedAt hevent.payload).2 none
  rw [hw.entityType, CanonicalRow.withDeletedAt_withDeletedAt] at hrewrite
  rw [CanonicalRow.deletedAt, hnone, hlea, hread]
  refine hrewrite.trans (congrArg some ?_)
  show CanonicalRow.enrollment { enrollment with deletedAt := none } = .enrollment enrollment
  rw [← hnone]

/-! ### One entity -/

/-- What holds of a student or an enrollment in every state. -/
structure Roster.Faithful (et : EntityType) (leaId : LeaId) (id : String) (r : Roster) :
    Prop where
  /-- Its snapshots are of one LEA. -/
  owned : ∀ x ∈ r.history et id, x.leaId = leaId
  /-- A deletion has an instant. -/
  timed : ∀ x ∈ r.history et id, x.deletedUpstream = true → x.sourceEventAt ≠ none
  oneLive : ∀ x ∈ r.live et leaId id, ∀ y ∈ r.live et leaId id, x = y
  reflects : ∀ x ∈ r.live et leaId id, ∃ c, r.canonical et id = some c ∧ x.Reflects et c

namespace Roster.Faithful

variable {et : EntityType} {leaId : LeaId} {id : String} {r r' : Roster}

theorem empty : Roster.empty.Faithful et leaId id where
  owned _ h := absurd h List.not_mem_nil
  timed _ h := absurd h List.not_mem_nil
  oneLive _ h := absurd h List.not_mem_nil
  reflects _ h := absurd h List.not_mem_nil

theorem sameAt (h : r.Faithful et leaId id) (hs : SameAt et id r r') :
    r'.Faithful et leaId id where
  owned x hx := h.owned x (hs.history ▸ hx)
  timed x hx := h.timed x (hs.history ▸ hx)
  oneLive := by rw [hs.live]; exact h.oneLive
  reflects := by rw [hs.live, hs.canonical]; exact h.reflects

/-- A new live snapshot and its row, over whatever was live. -/
theorem replace (h : r.Faithful et leaId id) (het : et ≠ .lea) {g : Uuid} {i : Instant}
    {new : SnapshotRow} {row : CanonicalRow} (hkey : new.naturalKey = id)
    (hlea : new.leaId = leaId) (hlive : new.supersededByGenerationId = none)
    (htimed : new.deletedUpstream = true → new.sourceEventAt ≠ none)
    (hrow : row.entityType = et) (hnew : new.Reflects et row) :
    (r.replace et leaId id g i new row).Faithful et leaId id := by
  -- a mark on an old snapshot changes neither its LEA nor what it reports
  have hold : ∀ (P : SnapshotRow → Prop), (∀ x g i, P x → P (x.mark g i)) →
      (∀ x ∈ r.history et id, P x) → P { new with snapshotId := (r.snapshots et).rows.length } →
      ∀ x ∈ (r.replace et leaId id g i new row).history et id, P x := by
    intro P hmark hr hn x hx
    rcases (mem_history_replace het hkey).mp hx with ⟨old, hmem, rfl⟩ | rfl
    · split
      · exact hmark _ _ _ (hr old hmem)
      · exact hr old hmem
    · exact hn
  have hlive' : (r.replace et leaId id g i new row).live et leaId id = _ :=
    live_replace het hkey hlea hlive
  refine ⟨?_, ?_, ?_, ?_⟩
  · exact hold (fun x => x.leaId = leaId) (fun _ _ _ hx => hx) h.owned hlea
  · exact hold (fun x => x.deletedUpstream = true → x.sourceEventAt ≠ none)
      (fun _ _ _ hx => hx) h.timed htimed
  · intro x hx y hy
    rw [hlive', List.mem_singleton] at hx hy
    rw [hx, hy]
  · intro x hx
    rw [hlive', List.mem_singleton] at hx
    subst hx
    exact ⟨row, canonical_replace hrow, hnew.payload, hnew.deleted⟩

end Roster.Faithful

/-- Nothing is superseded where nothing is live. -/
theorem Roster.supersede_of_not_live {r : Roster} {et : EntityType} {leaId : LeaId} {id : String}
    (h : r.live et leaId id = []) (g : Uuid) (i : Instant) :
    r.supersede et leaId id g i = r := by
  have htable : (r.snapshots et).mark (fun row => row.liveAt leaId id) (some g) (some i)
      = r.snapshots et := by
    refine SnapshotTable.ext_rows (map_mark_eq_self fun x hx => ?_)
    refine Bool.eq_false_iff.mpr fun hl => ?_
    have hmem : x ∈ r.live et leaId id := List.mem_filter.mpr ⟨hx, hl⟩
    rw [h] at hmem
    exact List.not_mem_nil hmem
  cases r with
  | mk leas students enrollments snapshots leaKeyed =>
    simp only [supersede, modifySnapshots] at htable ⊢
    congr 1
    rw [htable, Function.update_eq_self]

/-! ### The operations on one entity -/

section

variable {pg : Postgres} {et : EntityType} {leaId : LeaId} {id : String}

/-- A page writes the entity for its own LEA, or does not name it. -/
def PageRun.OwnsKey (run : PageRun) (leaId : LeaId) (et : EntityType) (id : String) : Prop :=
  run.leaId = leaId ∨
    ∀ event ∈ run.page.events, ¬ (et = event.entityType ∧ id = event.naturalKey)

instance (run : PageRun) (leaId : LeaId) (et : EntityType) (id : String) :
    Decidable (run.OwnsKey leaId et id) := by
  unfold PageRun.OwnsKey; infer_instance

/-- What every write to another entity and every new live snapshot of the entity
keep survives a page. -/
theorem PageRun.Commits.induction_at {run : PageRun} {s s' : Store} (het : et ≠ .lea)
    (hkey : run.OwnsKey leaId et id) {P : Roster → Prop}
    (hsame : ∀ r r', P r → Roster.SameAt et id r r' → P r')
    (hreplace : ∀ r new row, P r → new.naturalKey = id → new.leaId = leaId →
      new.generationId = run.syncJobId → new.supersededByGenerationId = none →
      new.supersededAt = none → new.sourceEventAt ≠ none → row.entityType = et →
      new.Reflects et row → P (r.replace et leaId id run.syncJobId run.now new row))
    (hs : P s.roster) (hc : run.Commits pg s s') : P s'.roster := by
  cases hb : run.blocked s with
  | true =>
    rw [(hc.blocked hb).1]
    exact hs
  | false =>
    have hstart := hsame _ _ hs (Roster.ensureLeaExists_sameAt s.roster run.leaId het id)
    rcases hkey with rfl | hkey
    · refine Runs.foldlM_invariant (I := P) ?_ hstart (hc.roster hb)
      intro event he r r' hr hstep
      obtain ⟨-, hcleared⟩ := PageRun.cleared_of_mem_accepted hb he
      rcases applyEventRoster_eq_replace hstep with ⟨-, rfl⟩ | ⟨-, row, hrow, rfl⟩
      · exact hr
      · by_cases hat : et = event.entityType ∧ id = event.naturalKey
        · obtain ⟨rfl, rfl⟩ := hat
          have hnew := reflects_event run.leaId run.syncJobId hcleared het hrow
          exact hreplace r _ row hr rfl rfl rfl rfl rfl (Option.some_ne_none event.occurredAt)
            (canonicalRow_entityType hrow) hnew
        · refine hsame _ _ hr (Roster.replace_sameAt ?_ (canonicalRow_entityType hrow) hat)
          rfl
    · refine hsame _ _ hstart (applyEvents_sameAt (hc.roster hb) fun event he => ?_)
      exact hkey event (PageRun.cleared_of_mem_accepted hb he).1

theorem faithful_page {run : PageRun} {s s' : Store} (het : et ≠ .lea)
    (h : s.roster.Faithful et leaId id) (hkey : run.OwnsKey leaId et id)
    (hc : run.Commits pg s s') : s'.roster.Faithful et leaId id := by
  refine hc.induction_at het hkey (fun r r' hr hs => hr.sameAt hs) ?_ h
  intro r new row hr hk hl _ hlive _ htimed hrow hnew
  exact hr.replace het hk hl hlive (fun _ => htimed) hrow hnew

/-- The entries for the entity belong to its LEA and lose nothing of the row. -/
def BulkRun.Harmless (pg : Postgres) (run : BulkRun) (leaId : LeaId) (et : EntityType)
    (id : String) (old : Option CanonicalRow) : Prop :=
  ∀ entry ∈ run.payload.entries, entry.entityType = et → entry.id = some id →
    run.leaId = leaId ∧ entry.harmless pg old = true

instance (run : BulkRun) (leaId : LeaId) (et : EntityType) (id : String)
    (old : Option CanonicalRow) : Decidable (run.Harmless pg leaId et id old) := by
  unfold BulkRun.Harmless; infer_instance

theorem faithful_bulkLoad {run : BulkRun} {s : Store} (het : et ≠ .lea)
    (h : s.roster.Faithful et leaId id)
    (hkey : run.Harmless pg leaId et id (s.roster.canonical et id)) :
    (bulkLoad pg run s).1.roster.Faithful et leaId id := by
  let P (r : Roster) : Prop :=
    r.Faithful et leaId id ∧ run.Harmless pg leaId et id (r.canonical et id)
  have hsame : ∀ r r', P r → Roster.SameAt et id r r' → P r' := by
    intro r r' hr hs
    exact ⟨hr.1.sameAt hs, hs.canonical ▸ hr.2⟩
  have hrun : P (bulkLoad pg run s).1.roster := by
    refine bulkLoad_induction (P := P) (fun r hr => ?_) ?_ ⟨h, hkey⟩
    · exact hsame _ _ hr (Roster.ensureLeaExists_sameAt r run.leaId het id)
    · intro r r' n n' entry now hentry hr hstep
      obtain ⟨k, hid, ⟨-, rfl⟩ | ⟨-, row, hrow, rfl⟩⟩ := applyEntryCounted_eq_replace hstep
      · exact hr
      · obtain ⟨htype, -, -⟩ := canonicalRow_entry_type hrow
        by_cases hat : et = entry.entityType ∧ id = k
        · obtain ⟨rfl, rfl⟩ := hat
          obtain ⟨rfl, hharmless⟩ := hr.2 entry hentry rfl hid
          obtain ⟨hreflects, hnext⟩ := reflects_entry hharmless hrow
          refine ⟨hr.1.replace het rfl rfl rfl (fun _ => Option.some_ne_none now) htype
            hreflects, fun e he ht hk => ?_⟩
          rw [Roster.canonical_replace htype]
          exact ⟨rfl, hnext e ht (hr.2 e he ht hk).2⟩
        · refine hsame _ _ hr (Roster.replace_sameAt ?_ htype hat)
          rfl
  exact hrun.1

/-- The prior snapshot of a turn is a superseded one of the same entity. -/
theorem prior_mem_history {r : Roster} {row p : SnapshotRow} {g : Uuid}
    (h : r.findPriorLiveSnapshot pg et row.leaId row.naturalKey g = some p) :
    p ∈ r.history et row.naturalKey ∧ p.supersededByGenerationId = some g := by
  obtain ⟨hm, -, hk, hs⟩ := Roster.mem_of_findPrior h
  exact ⟨Roster.mem_history.mpr ⟨hm, hk⟩, hs⟩

/-- What a turn on the entity's live snapshot leaves live: the prior snapshot. -/
theorem mem_live_turn {run : RevertRun} {r r' : Roster} {counts counts' : RevertCounts}
    {row : SnapshotRow} (h : r.Faithful et leaId row.naturalKey)
    (hrow : row ∈ (r.snapshots et).rows) (hlive : row.supersededByGenerationId = none)
    (hstep : revertRow pg run et (r, counts) row = some (r', counts')) {x : SnapshotRow} :
    x ∈ r'.live et leaId row.naturalKey ↔
      ∃ p, r.findPriorLiveSnapshot pg et row.leaId row.naturalKey run.syncJobId = some p ∧
        x = p.mark none none := by
  have hown : row.leaId = leaId := h.owned row (Roster.mem_history.mpr ⟨hrow, rfl⟩)
  have hmem : row ∈ r.live et leaId row.naturalKey :=
    SnapshotTable.mem_live.mpr ⟨hrow, hown, rfl, hlive⟩
  rw [Roster.live, (revertRow_eq_some hstep).1]
  refine (Roster.mem_live_rewind hrow hlive fun p hp => (Roster.prior_spec hp).1).trans ?_
  constructor
  · rintro (⟨hx, hne⟩ | ⟨-, p, hp, rfl, -⟩)
    · exact absurd ⟨rfl, h.oneLive x hx row hmem⟩ hne
    · exact ⟨p, hp, rfl⟩
  · rintro ⟨p, hp, rfl⟩
    obtain ⟨-, -, hl, hk⟩ := Roster.prior_spec hp
    exact Or.inr ⟨rfl, p, hp, rfl, hl.trans hown, hk⟩

/-- One turn of a revert gives the key back to a snapshot that was complete, or
leaves nothing live. -/
theorem faithful_revertRow {run : RevertRun} {r r' : Roster} {counts counts' : RevertCounts}
    {row : SnapshotRow} (h : r.Faithful et leaId row.naturalKey)
    (hrow : row ∈ (r.snapshots et).rows) (hlive : row.supersededByGenerationId = none)
    (hstep : revertRow pg run et (r, counts) row = some (r', counts')) :
    r'.Faithful et leaId row.naturalKey := by
  obtain ⟨hsnap, hrewound, -⟩ := revertRow_eq_some hstep
  have hown : row.leaId = leaId := h.owned row (Roster.mem_history.mpr ⟨hrow, rfl⟩)
  -- a rewind adds no snapshot, it only moves markers
  have hold : ∀ x ∈ r'.history et row.naturalKey,
      ∃ old ∈ r.history et row.naturalKey, ∃ g i, x = old.mark g i := by
    intro x hx
    obtain ⟨hx, hk⟩ := Roster.mem_history.mp hx
    rw [hsnap] at hx
    obtain ⟨old, hm, g, i, rfl⟩ := Roster.mem_rewind_old hx
    exact ⟨old, Roster.mem_history.mpr ⟨hm, hk⟩, g, i, rfl⟩
  refine ⟨fun x hx => ?_, fun x hx => ?_, fun x hx y hy => ?_, fun x hx => ?_⟩
  · obtain ⟨old, hm, g, i, rfl⟩ := hold x hx
    exact h.owned old hm
  · obtain ⟨old, hm, g, i, rfl⟩ := hold x hx
    exact h.timed old hm
  · obtain ⟨p, hp, rfl⟩ := (mem_live_turn h hrow hlive hstep).mp hx
    obtain ⟨p', hp', rfl⟩ := (mem_live_turn h hrow hlive hstep).mp hy
    rw [Option.some.inj (hp.symm.trans hp')]
  · obtain ⟨p, hp, rfl⟩ := (mem_live_turn h hrow hlive hstep).mp hx
    obtain ⟨hpm, -⟩ := prior_mem_history hp
    obtain ⟨c, hc, -⟩ := h.reflects row
      (SnapshotTable.mem_live.mpr ⟨hrow, hown, rfl, hlive⟩)
    rw [hp] at hrewound
    rcases hrewound.canonical_self hc with ⟨hn, -⟩ | ⟨_, new, hpp, hnew, hcan⟩
    · exact absurd hn (by simp)
    · obtain rfl := Option.some.inj hpp
      obtain ⟨hdel, -⟩ := canonicalOfPayload_deletedAt hnew
      have hpown : p.leaId = row.leaId := (h.owned p hpm).trans hown.symm
      refine ⟨new, hcan, ?_, ?_⟩
      · rw [hdel]
        show canonicalOfPayload et p.leaId p.payload _ = _
        rw [hpown]
        exact hnew
      · rw [hdel]
        show _ = p.deletedUpstream
        cases hd : p.deletedUpstream with
        | false => rfl
        | true => exact Option.isSome_iff_ne_none.mpr (h.timed p hpm hd)

theorem faithful_revert {run : RevertRun} {s s' : Store} {outcome : RevertOutcome}
    (h : s.roster.Faithful et leaId id) (hr : Reverts pg run s s' outcome) :
    s'.roster.Faithful et leaId id := by
  obtain ⟨counts, htables, -⟩ := hr.roster
  refine revertTables_induction_at et id (fun r r' hr hs => hr.sameAt hs) ?_ h htables
  rintro r counts r' counts' row hr hrow rfl - hlive hstep
  exact faithful_revertRow hr hrow hlive hstep

/-- A release that finds nothing live writes a pair of its own. -/
theorem faithful_release (pg : Postgres) {run : ReleaseRun} {s s' : Store} (het : et ≠ .lea)
    (h : s.roster.Faithful et leaId id)
    (hq : ∀ row ∈ s.quarantine, row.entityType = "enrollment" → ∃ event, row.WrittenFor event ∧
      (et = .enrollment → event.naturalKey = id → row.leaId = leaId))
    (hclear : run.ClearsTheWay s) {outcome : ReleaseOutcome}
    (hr : release run s = .ok (s', outcome)) : s'.roster.Faithful et leaId id := by
  obtain ⟨row, payload, studentId, _, _, _, hrow, hres, hp, ht, hs, hst, -⟩ :=
    (release_eq_ok hr).released
  obtain ⟨event, hw, howner⟩ := hq row (List.mem_of_getElem? hrow) ht
  obtain ⟨enrollment, hnone, hcan, -, hs'⟩ := release_writtenFor hrow hw hr pg run.now
  have hchecks : checkReleasable row = .ok (payload, studentId) :=
    checkReleasable_eq_ok.mpr ⟨hp, ht, hs⟩
  have hlive : s.roster.live .enrollment row.leaId event.naturalKey = [] := by
    have hid : Dict.requiredColumn payload "id" = some event.naturalKey := by
      obtain rfl := Json.obj.inj (hw.rawPayload.symm.trans hp)
      exact (snapshotRow_eq_some (snapshotRow_writtenFor hw run)).1
    simp only [ReleaseRun.ClearsTheWay, hrow, hchecks, hid] at hclear
    exact hclear hres hst
  rw [hs', ← Roster.supersede_of_not_live hlive run.releaseGenerationId run.now]
  by_cases hat : et = .enrollment ∧ id = event.naturalKey
  · obtain ⟨rfl, rfl⟩ := hat
    obtain rfl := howner rfl rfl
    refine h.replace het rfl rfl rfl (fun _ => Option.some_ne_none run.now) rfl ?_
    exact reflects_release hw hnone hcan rfl rfl rfl
  · refine h.sameAt (Roster.replace_sameAt ?_ ?_ hat)
    · rfl
    · rfl

end

/-! ### Along a run -/

section

variable {pg : Postgres} {leaId : LeaId} {et : EntityType} {id : String}

/-- Every enrollment in quarantine is there as an event reported it, and those of
the entity are its LEA's. -/
def Store.QuarantineOwned (leaId : LeaId) (et : EntityType) (id : String) (s : Store) : Prop :=
  ∀ row ∈ s.quarantine, row.entityType = "enrollment" → ∃ event, row.WrittenFor event ∧
    (et = .enrollment → event.naturalKey = id → row.leaId = leaId)

/-- Resolving a row keeps what an event reported. -/
theorem quarantineOwned_markResolved {s : Store} (h : s.QuarantineOwned leaId et id) (q : Nat)
    (now : Instant) (status operator : String) (reason : Option String) :
    (s.markResolved q now status operator reason).QuarantineOwned leaId et id := by
  intro row hrow ht
  obtain ⟨n, hn⟩ := List.mem_iff_getElem?.mp hrow
  rw [Store.markResolved, List.getElem?_modify, Option.map_eq_map, Option.map_eq_some_iff] at hn
  obtain ⟨old, hold, rfl⟩ := hn
  have hmem : old ∈ s.quarantine := List.mem_of_getElem? hold
  by_cases hq : q = n
  · rw [if_pos hq] at ht ⊢
    obtain ⟨event, hw, howner⟩ := h old hmem ht
    exact ⟨event, ⟨hw.entityType, hw.cleared, hw.leaId, hw.rawPayload⟩, howner⟩
  · rw [if_neg hq] at ht ⊢
    exact h old hmem ht

theorem quarantineOwned_page {run : PageRun} {s s' : Store} (h : s.QuarantineOwned leaId et id)
    (hscope : run.page.ScopedTo run.leaId) (hkey : run.OwnsKey leaId et id)
    (hc : run.Commits pg s s') : s'.QuarantineOwned leaId et id := by
  cases hb : run.blocked s with
  | true =>
    rw [Store.QuarantineOwned, (hc.blocked hb).2.1]
    exact h
  | false =>
    intro row hrow ht
    rw [hc.quarantine hb, List.mem_append, List.mem_map] at hrow
    rcases hrow with hrow | ⟨event, he, rfl⟩
    · exact h row hrow ht
    · have htype : event.entityType = .enrollment := by
        cases hcase : event.entityType with
        | enrollment => rfl
        | lea | student => simp [quarantineRow, hcase, EntityType.value] at ht
      refine ⟨event, writtenFor_of_quarantined hscope hb he htype, fun hat hid => ?_⟩
      rcases hkey with hlea | hkey
      · exact hlea
      · exact absurd ⟨hat.trans htype.symm, hid.symm⟩
          (hkey event (PageRun.cleared_of_mem_quarantined hb he).1)

/-- The operation writes the entity for its own LEA only, keeps the external ids
and the dates of its row readable from the snapshot, and releases nothing over a
live snapshot. -/
def Op.KeepsMirror (pg : Postgres) (leaId : LeaId) (et : EntityType) (id : String) (s : Store) :
    Op → Prop
  | .page run => run.page.ScopedTo run.leaId ∧ run.OwnsKey leaId et id
  | .bulkLoad run => run.Harmless pg leaId et id (s.roster.canonical et id)
  | .release run => run.ClearsTheWay s
  | .revert _ | .reject _ | .retry _ => True

instance (pg : Postgres) (leaId : LeaId) (et : EntityType) (id : String) (s : Store) :
    (op : Op) → Decidable (op.KeepsMirror pg leaId et id s)
  | .page _ | .bulkLoad _ | .revert _ | .release _ | .reject _ | .retry _ => by
    unfold Op.KeepsMirror; infer_instance

/-- **What one operation keeps.** -/
theorem mirror_exec {s : Store} {op : Op} (het : et ≠ .lea)
    (h : s.roster.Faithful et leaId id) (hq : s.QuarantineOwned leaId et id)
    (hk : op.KeepsMirror pg leaId et id s) :
    (s.exec pg op).roster.Faithful et leaId id ∧ (s.exec pg op).QuarantineOwned leaId et id := by
  rcases s.exec_cases pg op with he | he
  · rw [he]
    exact ⟨h, hq⟩
  · cases op with
    | page run => exact ⟨faithful_page het h hk.2 he, quarantineOwned_page hq hk.1 hk.2 he⟩
    | bulkLoad run =>
      refine ⟨faithful_bulkLoad het h hk, ?_⟩
      rw [Store.QuarantineOwned, Store.exec, (bulkLoad_frame pg run s).quarantine]
      exact hq
    | revert run =>
      obtain ⟨outcome, he⟩ := he
      refine ⟨faithful_revert h he, ?_⟩
      rw [Store.QuarantineOwned, he.quarantine]
      exact hq
    | release run =>
      rw [Store.exec]
      cases hr : release run s with
      | error e => exact ⟨h, hq⟩
      | ok result =>
        refine ⟨faithful_release pg het h hq hk hr, ?_⟩
        show Store.QuarantineOwned leaId et id result.1
        rw [Store.QuarantineOwned, (release_eq_ok hr).quarantine]
        exact quarantineOwned_markResolved hq _ _ _ _ _
    | reject run =>
      obtain ⟨row, -, -, he⟩ := he
      rw [he]
      exact ⟨h, quarantineOwned_markResolved hq _ _ _ _ _⟩
    | retry run =>
      obtain ⟨target, -, -, he⟩ := he
      rw [he]
      exact ⟨h, hq⟩

theorem mirror_run (het : et ≠ .lea) {ops : List Op}
    (h : Runs.Guarded (Store.exec pg) (fun s op => op.KeepsMirror pg leaId et id s) Store.empty
      ops) :
    (Runs.run (Store.exec pg) Store.empty ops).roster.Faithful et leaId id := by
  have hrun := Runs.Guarded.invariant
    (I := fun s => s.roster.Faithful et leaId id ∧ s.QuarantineOwned leaId et id)
    (fun s op hs hk => mirror_exec het hs.1 hs.2 hk)
    ⟨Roster.Faithful.empty, fun _ hrow => absurd hrow List.not_mem_nil⟩ h
  exact hrun.1

/-! ### Rewriting a row from its snapshot -/

/-- Rewriting the canonical row of the snapshot's entity with
`_restore_canonical_from_payload` succeeds and leaves every canonical row as it is,
up to the instant of a deletion. -/
def Roster.RestoreKeeps (r : Roster) (et : EntityType) (x : SnapshotRow) : Prop :=
  ∃ r', r.restoreCanonicalFromPayload et x.naturalKey x.leaId x = some r' ∧
    ∀ et' id, (r'.canonical et' id).map (·.content) = (r.canonical et' id).map (·.content)

theorem content_withDeletedAt {c : CanonicalRow} {deletedAt : Option Instant}
    (h : deletedAt.isSome = c.deletedAt.isSome) :
    (c.withDeletedAt deletedAt).content = c.content := by
  have hnorm : deletedAt.map (fun _ => 0) = c.deletedAt.map fun _ => 0 := by
    cases hd : deletedAt <;> cases hc : c.deletedAt <;> simp [hd, hc] at h ⊢
  rw [CanonicalRow.content, CanonicalRow.withDeletedAt_withDeletedAt,
    CanonicalRow.deletedAt_withDeletedAt, hnorm, CanonicalRow.content]

theorem Roster.Faithful.restoreKeeps {r : Roster} (h : r.Faithful et leaId id)
    (href : r.Referential) {x : SnapshotRow} (hx : x ∈ r.live et leaId id) :
    r.RestoreKeeps et x := by
  obtain ⟨c, hc, hpayload, hdeleted⟩ := h.reflects x hx
  obtain ⟨hm, hl, rfl, -⟩ := SnapshotTable.mem_live.mp hx
  have htype : c.entityType = et := Roster.entityType_of_canonical hc
  have hinstant : (if x.deletedUpstream then x.sourceEventAt else none).isSome
      = c.deletedAt.isSome := by
    rw [hdeleted]
    cases hd : x.deletedUpstream with
    | false => rfl
    | true => exact Option.isSome_iff_ne_none.mpr (h.timed x (Roster.mem_history.mpr ⟨hm, rfl⟩) hd)
  have hrestore : r.restoreCanonicalFromPayload et x.naturalKey x.leaId x
      = (canonicalOfPayload et x.leaId x.payload
        (if x.deletedUpstream then x.sourceEventAt else none)).bind (r.update x.naturalKey) := rfl
  rw [Roster.RestoreKeeps, hrestore]
  generalize (if x.deletedUpstream then x.sourceEventAt else none) = deletedAt at hinstant ⊢
  rw [(canonicalOfPayload_deletedAt hpayload).2 deletedAt, Option.bind_some]
  -- the row that is written is the one that stands, with another instant
  have hupdate : r.update x.naturalKey (c.withDeletedAt deletedAt)
      = some (r.setCanonical x.naturalKey (c.withDeletedAt deletedAt)) := by
    refine Roster.update_eq_some.mpr (Or.inr ⟨?_, Roster.upsert_eq_some.mpr ⟨?_, rfl⟩⟩)
    · rw [CanonicalRow.entityType_withDeletedAt, htype, hc]
      exact Option.some_ne_none c
    · rw [Roster.admits_withDeletedAt]
      exact href et x.naturalKey c hc
  refine ⟨_, hupdate, fun et' id => ?_⟩
  rw [Roster.canonical_setCanonical, CanonicalRow.entityType_withDeletedAt, htype]
  by_cases hat : et' = et ∧ id = x.naturalKey
  · obtain ⟨rfl, rfl⟩ := hat
    rw [if_pos ⟨rfl, rfl⟩, hc, Option.map_some, Option.map_some, content_withDeletedAt hinstant]
  · rw [if_neg hat]

/-- **The live snapshot determines the canonical row.**  Along every run whose
bulk loads find no external ids to lose, whose dates are read alike and whose
releases find nothing live, the row of a live snapshot exists, is soft-deleted
exactly when the snapshot is a deletion, and survives a rewrite from it. -/
theorem live_snapshot_reflects (pg : Postgres) (leaId : LeaId) (et : EntityType) (het : et ≠ .lea)
    (id : String) (ops : List Op)
    (h : Runs.Guarded (Store.exec pg) (fun s op => op.KeepsMirror pg leaId et id s) Store.empty
      ops) :
    let r := (Runs.run (Store.exec pg) Store.empty ops).roster
    ∀ x ∈ r.live et leaId id,
      (∃ c, r.canonical et id = some c ∧ (c.deletedAt ≠ none ↔ x.deletedUpstream = true)) ∧
        r.RestoreKeeps et x := by
  intro r x hx
  have hfaithful : r.Faithful et leaId id := mirror_run het h
  have hreferential : r.Referential := Store.referential_run pg ops
  refine ⟨?_, hfaithful.restoreKeeps hreferential hx⟩
  obtain ⟨c, hc, -, hdeleted⟩ := hfaithful.reflects x hx
  refine ⟨c, hc, ?_⟩
  rw [← hdeleted, ← Option.isSome_iff_ne_none]

end

section

open Fixture

/-- A student arrives, is deleted and comes back with a bulk load. -/
def deletedThenLoaded : List Op :=
  [pageOp "L1" "job-1" [event "L1" "evt_001" (student "L1" "s1" (some "04"))],
    pageOp "L1" "job-2" [event "L1" "evt_002" (student "L1" "s1" (some "04")) .deleted],
    bulkOp "L1" "job-3" [⟨some "s1", some "Alex", some "Diaz", some "05", none, none⟩],
    revertOp "job-3" "rev-1"]

/-- The revert brings the deletion back, and the row with it. -/
theorem live_snapshot_reflects_deletedThenLoaded :
    let r := (after deletedThenLoaded).roster
    (r.live .student "L1" "s1").length = 1 ∧ ∀ x ∈ r.live .student "L1" "s1",
      (∃ c, r.canonical .student "s1" = some c ∧
        (c.deletedAt ≠ none ↔ x.deletedUpstream = true)) ∧ r.RestoreKeeps .student x :=
  ⟨by decide, live_snapshot_reflects Postgres.reference "L1" .student (by decide) "s1"
    deletedThenLoaded (by decide)⟩

/-- A student arrives with an external id and a bulk load changes its grade. -/
def externalThenLoaded : List Op :=
  [pageOp "L1" "job-1"
      [event "L1" "evt_001" (student "L1" "s1" (some "04") [("sis", .str "A7")])],
    bulkOp "L1" "job-2" [⟨some "s1", some "Alex", some "Diaz", some "05", none, none⟩]]

/-- The live snapshot has lost the external id that the row still has. -/
theorem bulk_load_forgets_external_ids :
    let r := (after externalThenLoaded).roster
    ∃ x ∈ r.live .student "L1" "s1", ¬ r.RestoreKeeps .student x := by
  intro r
  refine ⟨(r.live .student "L1" "s1").head (by decide), List.head_mem _, ?_⟩
  rintro ⟨r', hr', hkeep⟩
  have hread := congrArg (fun o => o.map fun x : Roster =>
    (x.canonical .student "s1").map (·.content)) hr'
  simp only [Option.map_some, hkeep] at hread
  exact absurd hread (by decide)

end
