/-
One resolution for each quarantine row.

Any number of release and reject calls on one quarantine row run as transactions,
interleaved statement by statement.  A release reads the row under a lock; a reject
reads it without one and updates it later, whatever has become of it.  If every
such update still finds the row unresolved, at most one call succeeds and the state
is the one that call leaves alone.

* `Store.Audited.exec` — along the sequential runs, a row is `released` exactly when
  one job with one snapshot was written for it;
* `one_resolution` — the same, and one resolution, in every interleaving;
* `late_reject_resolves_twice` — a reject that updates after a release commits.
-/
import EdlinkRostering.Generations
import EdlinkRostering.Transactions

open ReadCommitted

/-! ### The audit trail of a row -/

/-- `g` is the job of a release of the row. -/
def Store.IsReleaseOf (s : Store) (quarantineId : Nat) (g : Uuid) : Prop :=
  ∃ job, s.syncJobs.lookup g = some job ∧ job.status = .quarantineRelease ∧
    job.errorSummary = some ("release of quarantine row " ++ toString quarantineId)

/-- Exactly one release of the row was written, with exactly one enrollment
snapshot. -/
def Store.ReleasedOnce (s : Store) (quarantineId : Nat) : Prop :=
  ∃ g, (∀ g', s.IsReleaseOf quarantineId g' ↔ g' = g) ∧
    (s.roster.generations .enrollment).count g = 1

/-- `resolution_status = 'released'`. -/
def Store.RowReleased (s : Store) (quarantineId : Nat) : Prop :=
  ∃ row, s.quarantine[quarantineId]? = some row ∧ row.resolutionStatus = some "released"

/-- Releases, their jobs and their snapshots match, and what is unresolved has no
resolution. -/
structure Store.Audited (s : Store) : Prop where
  generated : s.Generated
  released : ∀ q, s.RowReleased q → s.ReleasedOnce q
  unreleased : ∀ q g, s.IsReleaseOf q g → s.RowReleased q
  unresolved : ∀ (q : Nat) row, s.quarantine[q]? = some row → row.resolvedAt = none →
    row.resolutionStatus = none

theorem Store.Audited.iff {s : Store} (h : s.Audited) (q : Nat) :
    s.RowReleased q ↔ s.ReleasedOnce q := by
  constructor
  · exact h.released q
  · rintro ⟨g, hg, -⟩
    exact h.unreleased q g ((hg g).mpr rfl)

theorem toString_injective {a b : Nat} (h : toString a = toString b) : a = b := by
  have hdigits := congrArg (fun s : String => Nat.ofDigitChars 10 s.toList 0) h
  simpa using hdigits

theorem releaseSummary_injective {a b : Nat}
    (h : "release of quarantine row " ++ toString a = "release of quarantine row " ++ toString b) :
    a = b :=
  toString_injective ((String.append_right_inj _).mp h)

/-- The database before any row is written. -/
theorem Store.Audited.empty : Store.empty.Audited where
  generated := .empty
  released _ h := by
    obtain ⟨row, hrow, -⟩ := h
    exact absurd hrow (by simp [Store.empty])
  unreleased _ _ h := by
    obtain ⟨job, hjob, -⟩ := h
    exact absurd hjob (by simp [Store.empty])
  unresolved _ _ h := absurd h (by simp [Store.empty])

section

variable {s s' : Store} {pg : Postgres}

/-- An operation that releases nothing. -/
theorem Store.Audited.frame (h : s.Audited) (hgen : s'.Generated)
    (hjobs : ∀ q g, s'.IsReleaseOf q g ↔ s.IsReleaseOf q g)
    (hcount : ∀ q g, s.IsReleaseOf q g →
      (s'.roster.generations .enrollment).count g = (s.roster.generations .enrollment).count g)
    (hrows : ∀ q, s'.RowReleased q ↔ s.RowReleased q)
    (hres : ∀ (q : Nat) row, s'.quarantine[q]? = some row → row.resolvedAt = none →
      row.resolutionStatus = none) : s'.Audited where
  generated := hgen
  released q hq := by
    obtain ⟨g, hg, hone⟩ := h.released q ((hrows q).mp hq)
    refine ⟨g, fun g' => (hjobs q g').trans (hg g'), ?_⟩
    rw [hcount q g ((hg g).mpr rfl)]
    exact hone
  unreleased q g hg := (hrows q).mpr (h.unreleased q g ((hjobs q g).mp hg))
  unresolved := hres

theorem Store.isReleaseOf_congr {g : Uuid} (h : s'.syncJobs.lookup g = s.syncJobs.lookup g)
    (q : Nat) : s'.IsReleaseOf q g ↔ s.IsReleaseOf q g := by
  rw [IsReleaseOf, h, IsReleaseOf]

/-- A new job that is no release changes nobody's releases. -/
theorem Store.Grows.isReleaseOf {op : Op} {g : Uuid} (h : Store.Grows op g s s')
    (hop : ∀ job, op.Inserts job → job.status ≠ .quarantineRelease) (q : Nat) (g' : Uuid) :
    s'.IsReleaseOf q g' ↔ s.IsReleaseOf q g' := by
  by_cases hg : g' = g
  · subst hg
    obtain ⟨job, hjob, hins⟩ := h.inserted
    constructor
    · rintro ⟨job', hjob', hstatus, -⟩
      rw [hjob, Option.some.injEq] at hjob'
      exact absurd hstatus (hjob' ▸ hop job hins)
    · rintro ⟨job', hjob', -⟩
      rw [h.fresh] at hjob'
      exact absurd hjob' (by simp)
  · exact isReleaseOf_congr (h.others g' hg) q

theorem Store.Grows.count {op : Op} {g : Uuid} (h : Store.Grows op g s s') {q : Nat} {g' : Uuid}
    (hg' : s.IsReleaseOf q g') :
    (s'.roster.generations .enrollment).count g' = (s.roster.generations .enrollment).count g' := by
  obtain ⟨job, hjob, -⟩ := hg'
  refine h.roster.count (fun hne => ?_) _
  rw [hne, h.fresh] at hjob
  exact absurd hjob (by simp)

/-- The rows of the quarantine of an operation that appends unresolved ones. -/
theorem rowReleased_append {rows : List QuarantineRow}
    (hq : s'.quarantine = s.quarantine ++ rows) (hrows : ∀ row ∈ rows, row.resolutionStatus = none)
    (q : Nat) : s'.RowReleased q ↔ s.RowReleased q := by
  simp only [Store.RowReleased, hq, List.getElem?_append]
  split
  · exact Iff.rfl
  · next hlt =>
    constructor
    · rintro ⟨row, hrow, hstatus⟩
      have := hrows row (List.mem_of_getElem? hrow)
      rw [hstatus] at this
      exact absurd this (by simp)
    · rintro ⟨row, hrow, -⟩
      exact absurd (List.getElem?_eq_some_iff.mp hrow).1 hlt

theorem Store.Audited.append (h : s.Audited) {op : Op} {g : Uuid} (hg : Store.Grows op g s s')
    (hgen : s'.Generated) (hop : ∀ job, op.Inserts job → job.status ≠ .quarantineRelease)
    {rows : List QuarantineRow} (hq : s'.quarantine = s.quarantine ++ rows)
    (hrows : ∀ row ∈ rows, row.resolutionStatus = none) : s'.Audited := by
  refine h.frame hgen (hg.isReleaseOf hop) (fun q g' hg' => hg.count hg')
    (rowReleased_append hq hrows) fun q row hrow hres => ?_
  rw [hq, List.getElem?_append] at hrow
  split at hrow
  · exact h.unresolved q row hrow hres
  · exact hrows row (List.mem_of_getElem? hrow)

theorem Store.markResolved_getElem? (s : Store) (q q' : Nat) (at' : Instant)
    (status operator : String) (reason : Option String) :
    (s.markResolved q at' status operator reason).quarantine[q']? =
      if q' = q then (s.quarantine[q]?).map fun row =>
        { row with
          resolvedAt := some at', resolutionStatus := some status
          resolutionOperator := some operator, reason := reason.getD row.reason }
      else s.quarantine[q']? := by
  rw [Store.markResolved]
  by_cases hq : q' = q
  · rw [if_pos hq, hq, List.getElem?_modify_eq]
    rfl
  · rw [if_neg hq, List.getElem?_modify_ne _ _ (Ne.symm hq)]

theorem Store.rowReleased_markResolved {q : Nat} {row : QuarantineRow}
    (hrow : s.quarantine[q]? = some row) (at' : Instant) (status operator : String)
    (reason : Option String) (q' : Nat) :
    (s.markResolved q at' status operator reason).RowReleased q' ↔
      if q' = q then status = "released" else s.RowReleased q' := by
  rw [RowReleased, markResolved_getElem?]
  by_cases hq : q' = q
  · rw [if_pos hq, if_pos hq, hrow]
    simp
  · rw [if_neg hq, if_neg hq, RowReleased]

theorem Store.unresolved_markResolved (h : s.Audited) {q : Nat} {at' : Instant}
    {status operator : String} {reason : Option String} (q' : Nat) (row : QuarantineRow)
    (hrow : (s.markResolved q at' status operator reason).quarantine[q']? = some row)
    (hres : row.resolvedAt = none) : row.resolutionStatus = none := by
  rw [markResolved_getElem?] at hrow
  split at hrow
  · obtain ⟨old, -, rfl⟩ := Option.map_eq_some_iff.mp hrow
    exact absurd hres (by simp)
  · exact h.unresolved q' row hrow hres

/-- A reject turns an unresolved row into a rejected one. -/
theorem Store.Audited.reject (h : s.Audited) {run : RejectRun} {row : QuarantineRow}
    (hrow : s.quarantine[run.quarantineId]? = some row) (hres : row.resolvedAt = none) :
    (s.markResolved run.quarantineId run.now "rejected" run.operatorIdentity
      (some (run.fullReason row))).Audited := by
  refine h.frame h.generated (fun _ _ => Iff.rfl) (fun _ _ _ => rfl) (fun q => ?_)
    fun q' row' hrow' hres' => unresolved_markResolved h q' row' hrow' hres'
  rw [rowReleased_markResolved hrow]
  by_cases hq : q = run.quarantineId
  · subst hq
    rw [if_pos rfl]
    constructor
    · exact fun hstatus => absurd hstatus (by decide)
    · rintro ⟨row', hrow', hstatus⟩
      rw [hrow, Option.some.injEq] at hrow'
      rw [← hrow', h.unresolved _ _ hrow hres] at hstatus
      exact absurd hstatus (by simp)
  · rw [if_neg hq]

/-- A release adds the one job and the one snapshot of its row. -/
theorem Store.Audited.release (h : s.Audited) {run : ReleaseRun} (hr : Releases run s s')
    (hg : Store.Grows (.release run) run.releaseGenerationId s s') (hgen : s'.Generated) :
    s'.Audited := by
  obtain ⟨row, payload, studentId, snapshot, id, enrollment, hrow, hres, -, -, -, -, hsnap, -, hu,
    hjobs⟩ := hr.released
  -- the row had no release so far
  have hnone : ∀ g, ¬ s.IsReleaseOf run.quarantineId g := by
    intro g hg
    obtain ⟨row', hrow', hstatus⟩ := h.unreleased _ _ hg
    rw [hrow, Option.some.injEq] at hrow'
    rw [← hrow', h.unresolved _ _ hrow hres] at hstatus
    exact absurd hstatus (by simp)
  have hrel : ∀ q g, s'.IsReleaseOf q g ↔
      s.IsReleaseOf q g ∨ (q = run.quarantineId ∧ g = run.releaseGenerationId) := by
    intro q g
    by_cases hg' : g = run.releaseGenerationId
    · subst hg'
      have hold : ¬ s.IsReleaseOf q run.releaseGenerationId := by
        rintro ⟨job, hjob, -⟩
        rw [hr.fresh] at hjob
        exact absurd hjob (by simp)
      have hnew : s'.IsReleaseOf q run.releaseGenerationId ↔ q = run.quarantineId := by
        rw [IsReleaseOf, hjobs, Table.lookup_insert_eq, if_pos rfl]
        constructor
        · rintro ⟨job, hjob, -, hsummary⟩
          rw [← Option.some.inj hjob] at hsummary
          exact (releaseSummary_injective (Option.some.inj hsummary)).symm
        · rintro rfl
          exact ⟨_, rfl, rfl, rfl⟩
      rw [hnew]
      simp [hold]
    · rw [isReleaseOf_congr (hg.others g hg')]
      simp [hg']
  have hrows : ∀ q, s'.RowReleased q ↔ s.RowReleased q ∨ q = run.quarantineId := by
    intro q
    have hmark := rowReleased_markResolved hrow run.now "released" run.operatorIdentity none q
    have hsame : s'.RowReleased q ↔ (s.markResolved run.quarantineId run.now "released"
        run.operatorIdentity).RowReleased q := by
      rw [RowReleased, hr.quarantine, RowReleased]
    rw [hsame, hmark]
    by_cases hq : q = run.quarantineId
    · simp [hq]
    · simp [hq]
  refine ⟨hgen, fun q hq => ?_, fun q g hg' => ?_, fun q row' hrow' hres' => ?_⟩
  · by_cases hqr : q = run.quarantineId
    · subst hqr
      refine ⟨run.releaseGenerationId, fun g => ?_, ?_⟩
      · rw [hrel]
        simp [hnone g]
      · obtain ⟨-, hr'⟩ := Roster.upsert_eq_some.mp hu
        rw [hr', Roster.generations_congr (Roster.snapshots_setCanonical _ _ _),
          Roster.generations_insertSnapshot, if_pos rfl, List.count_append,
          h.generated.count_fresh hr.fresh, (snapshotRow_eq_some hsnap).2.2.1]
        simp
    · obtain ⟨g, hg', hone⟩ := h.released q (((hrows q).mp hq).resolve_right hqr)
      refine ⟨g, fun g' => ?_, ?_⟩
      · rw [hrel, hg']
        simp [hqr]
      · rw [hg.count ((hg' g).mpr rfl)]
        exact hone
  · rw [hrows]
    rcases (hrel q g).mp hg' with hold | ⟨hq, -⟩
    · exact Or.inl (h.unreleased q g hold)
    · exact Or.inr hq
  · rw [hr.quarantine] at hrow'
    exact unresolved_markResolved h q row' hrow' hres'

end

theorem Store.Audited.exec {s : Store} (h : s.Audited) (pg : Postgres) (op : Op) :
    (s.exec pg op).Audited := by
  have hgen := h.generated.exec pg op
  rcases s.exec_cases pg op with he | he
  · rw [he]; exact h
  · cases op with
    | page run =>
      have hstatus : ∀ job, (Op.page run).Inserts job → job.status ≠ .quarantineRelease := by
        rintro job ⟨-, hs | hs⟩ <;> simp [hs]
      cases hb : run.blocked s with
      | true =>
        exact h.append (grows_page he) hgen hstatus
          (by rw [(he.blocked hb).2.1, List.append_nil]) fun _ hm => absurd hm List.not_mem_nil
      | false =>
        refine h.append (grows_page he) hgen hstatus (he.quarantine hb) fun row hrow => ?_
        obtain ⟨event, -, rfl⟩ := List.mem_map.mp hrow
        rfl
    | bulkLoad run =>
      rcases grows_bulkLoad pg run s with hsame | hgrows
      · rw [Store.exec, hsame]; exact h
      · exact h.append hgrows hgen (fun job hj => hj.2.2)
          (by rw [List.append_nil]; exact (bulkLoad_frame pg run s).quarantine)
          fun _ hm => absurd hm List.not_mem_nil
    | revert run =>
      obtain ⟨_, hr⟩ := he
      refine h.append (grows_revert hr) hgen (fun job hj => ?_)
        (by rw [hr.quarantine, List.append_nil]) fun _ hm => absurd hm List.not_mem_nil
      rw [show job.status = .revert from hj]
      simp
    | release run => exact h.release he (grows_release he) hgen
    | reject run =>
      obtain ⟨row, hrow, hres, he⟩ := he
      rw [he]
      exact h.reject hrow hres
    | retry run =>
      obtain ⟨target, -, -, he⟩ := he
      rw [he]
      exact h.frame h.generated (fun _ _ => Iff.rfl) (fun _ _ _ => rfl) (fun _ => Iff.rfl)
        h.unresolved

/-- Every state the operations lead to, one after another. -/
theorem Store.audited_run (pg : Postgres) (ops : List Op) :
    (Runs.run (Store.exec pg) Store.empty ops).Audited :=
  Runs.run_invariant (I := Store.Audited) (fun _ op h => h.exec pg op) Store.Audited.empty ops

/-! ### The calls -/

/-- A call that resolves a quarantine row. -/
inductive ResolveCall where
  | release (run : ReleaseRun)
  | reject (run : RejectRun)

namespace ResolveCall

def quarantineId : ResolveCall → Nat
  | .release run => run.quarantineId
  | .reject run => run.quarantineId

/-- The transaction of the call before its first statement. -/
def pc : ResolveCall → ResolvePc
  | .release run => .release run .load
  | .reject run => .reject run .load

/-- The call, alone. -/
def op : ResolveCall → Op
  | .release run => .release run
  | .reject run => .reject run

/-- The row with the resolution of the call recorded on it. -/
def resolve (call : ResolveCall) (row : QuarantineRow) : QuarantineRow :=
  match call with
  | .release run =>
    { row with
      resolvedAt := some run.now, resolutionStatus := some "released"
      resolutionOperator := some run.operatorIdentity }
  | .reject run =>
    { row with
      resolvedAt := some run.now, resolutionStatus := some "rejected"
      resolutionOperator := some run.operatorIdentity, reason := run.fullReason row }

/-- The call found the row unresolved and left its resolution on it. -/
def Resolves (call : ResolveCall) (s s' : Store) : Prop :=
  ∃ row, s.quarantine[call.quarantineId]? = some row ∧ row.resolvedAt = none ∧
    s'.quarantine[call.quarantineId]? = some (call.resolve row)

end ResolveCall

/-- A call that ends well, alone, is the operation. -/
theorem resolves_of_resume (pg : Postgres) {call : ResolveCall} {s s' : Store}
    {result : ResolveOutcome}
    (h : call.pc.resume s = .ok (s', result)) :
    s' = s.exec pg call.op ∧ call.Resolves s s' := by
  cases call with
  | release run =>
    have h' : (release run s).map (fun p => (p.1, ResolveOutcome.released p.2))
        = .ok (s', result) := h
    cases hr : release run s with
    | error e => rw [hr] at h'; exact absurd h' (by simp [Except.map])
    | ok p =>
      obtain ⟨s₁, outcome⟩ := p
      rw [hr] at h'
      obtain rfl : s₁ = s' := (Prod.mk.inj (Except.ok.inj h')).1
      refine ⟨by rw [ResolveCall.op, Store.exec, hr, commit], ?_⟩
      obtain ⟨row, _, _, _, _, _, hrow, hres, -⟩ := (release_eq_ok hr).released
      refine ⟨row, hrow, hres, ?_⟩
      rw [(release_eq_ok hr).quarantine]
      show (s.markResolved run.quarantineId _ _ _).quarantine[run.quarantineId]? = _
      rw [Store.markResolved_getElem?, if_pos rfl, hrow]
      rfl
  | reject run =>
    have h' : (reject run s).map (fun p => (p.1, ResolveOutcome.rejected p.2))
        = .ok (s', result) := h
    cases hr : reject run s with
    | error e => rw [hr] at h'; exact absurd h' (by simp [Except.map])
    | ok p =>
      obtain ⟨s₁, outcome⟩ := p
      rw [hr] at h'
      obtain rfl : s₁ = s' := (Prod.mk.inj (Except.ok.inj h')).1
      refine ⟨by rw [ResolveCall.op, Store.exec, hr, commit], ?_⟩
      obtain ⟨row, hrow, hres, rfl⟩ := reject_eq_ok hr
      refine ⟨row, hrow, hres, ?_⟩
      show (s.markResolved run.quarantineId _ _ _ _).quarantine[run.quarantineId]? = _
      rw [Store.markResolved_getElem?, if_pos rfl, hrow]
      rfl

/-! ### The interleavings -/

/-- Calls in flight. -/
abbrev ResolveConfig (ι : Type) :=
  Config ι Store RowLock ResolvePc ResolveOutcome QuarantineError

namespace ResolvePc

def quarantineId : ResolvePc → Nat
  | .release run _ => run.quarantineId
  | .reject run _ => run.quarantineId

/-- The transaction has the row to itself: a release that found it, a reject that
has updated it. -/
def Critical : ResolvePc → Prop
  | .release _ .load => False
  | .release _ (.loaded none) => False
  | .release _ _ => True
  | .reject _ .commit => True
  | .reject _ _ => False

/-- The transaction has not read the row, or holds a reading it will not act on
once the row is resolved. -/
def Barred : ResolvePc → Prop
  | .release _ .load => True
  | .release run (.loaded row) => ∃ error, checkUnresolved run.quarantineId row = .error error
  | .release _ _ => False
  | .reject _ .commit => False
  | .reject _ _ => True

/-- What holds of a transaction on the row `q` while nothing is committed. -/
structure Sound (q : Nat) (pc : ResolvePc) (held : List RowLock)
    (writes : List (Store → Store)) : Prop where
  row : pc.quarantineId = q
  lock : pc.Critical → RowLock.quarantine q ∈ held
  idle : ¬ pc.Critical → ∀ s, view s writes = s

variable {q : Nat} {pc next : ResolvePc} {held locks : List RowLock} {s : Store}
  {writes : List (Store → Store)} {write : Store → Store}

/-- A transaction that has the row keeps it. -/
theorem Sound.keep (h : pc.Sound q held writes) (hpc : pc.Critical) (hnext : next.Critical)
    (hrow : next.quarantineId = pc.quarantineId) :
    next.Sound q (held ++ locks) (writes ++ [write]) :=
  ⟨hrow.trans h.row, fun _ => List.mem_append_left _ (h.lock hpc), fun hn => absurd hnext hn⟩

/-- A transaction without the row that only reads. -/
theorem Sound.read (h : pc.Sound q held writes) (hpc : ¬ pc.Critical) (hnext : ¬ next.Critical)
    (hrow : next.quarantineId = pc.quarantineId) :
    next.Sound q (held ++ locks) (writes ++ [fun s => s]) :=
  ⟨hrow.trans h.row, fun hn => absurd hn hnext, fun _ s => by rw [view_concat, h.idle hpc]⟩

theorem Sound.enter (h : pc.Sound q held writes) (hnext : next.Critical)
    (hrow : next.quarantineId = pc.quarantineId)
    (hlock : RowLock.quarantine pc.quarantineId ∈ locks) :
    next.Sound q (held ++ locks) (writes ++ [write]) :=
  ⟨hrow.trans h.row, fun _ => List.mem_append_right _ (h.row ▸ hlock), fun hn => absurd hnext hn⟩

theorem Sound.exec (h : pc.Sound q held writes)
    (hs : pc.statement s = .exec locks write next) :
    next.Sound q (held ++ locks) (writes ++ [write]) := by
  cases pc with
  | release run pc =>
    cases pc with
    | load =>
      obtain ⟨rfl, rfl, rfl⟩ := Statement.exec.inj hs
      cases hrow : s.quarantine[run.quarantineId]? with
      | none => exact h.read (fun hc => hc) (fun hc => hc) rfl
      | some row => exact h.enter trivial rfl (by simp [ResolvePc.quarantineId])
    | loaded row =>
      cases row with
      | none => exact absurd hs (by simp [statement, ReleasePc.statement, checkUnresolved])
      | some row =>
        simp only [statement, ReleasePc.statement] at hs
        split at hs
        · exact absurd hs (by simp)
        · split at hs
          · exact absurd hs (by simp)
          · split at hs
            · obtain ⟨rfl, rfl, rfl⟩ := Statement.exec.inj hs
              exact h.keep trivial trivial rfl
            · exact absurd hs (by simp)
    | insertJob row payload =>
      simp only [statement, ReleasePc.statement] at hs
      split at hs
      · obtain ⟨rfl, rfl, rfl⟩ := Statement.exec.inj hs
        exact h.keep trivial trivial rfl
      · exact absurd hs (by simp)
    | insertSnapshot row payload =>
      simp only [statement, ReleasePc.statement] at hs
      split at hs
      · exact absurd hs (by simp)
      · obtain ⟨rfl, rfl, rfl⟩ := Statement.exec.inj hs
        exact h.keep trivial trivial rfl
    | upsertEnrollment row payload =>
      simp only [statement, ReleasePc.statement] at hs
      split at hs
      · exact absurd hs (by simp)
      · split at hs
        · obtain ⟨rfl, rfl, rfl⟩ := Statement.exec.inj hs
          exact h.keep trivial trivial rfl
        · exact absurd hs (by simp)
    | markResolved row =>
      obtain ⟨rfl, rfl, rfl⟩ := Statement.exec.inj hs
      exact h.keep trivial trivial rfl
    | commit row => exact absurd hs (by simp [statement, ReleasePc.statement])
  | reject run pc =>
    cases pc with
    | load =>
      simp only [statement, RejectPc.statement] at hs
      split at hs
      · exact absurd hs (by simp)
      · obtain ⟨rfl, rfl, rfl⟩ := Statement.exec.inj hs
        exact h.read (fun hc => hc) (fun hc => hc) rfl
    | markResolved row =>
      obtain ⟨rfl, rfl, rfl⟩ := Statement.exec.inj hs
      exact h.enter trivial rfl (by simp [ResolvePc.quarantineId])
    | commit => exact absurd hs (by simp [statement, RejectPc.statement])

/-- Only who has the row commits. -/
theorem critical_of_commit {result : ResolveOutcome} (hs : pc.statement s = .commit result) :
    pc.Critical := by
  cases pc with
  | release run pc =>
    cases pc with
    | load => exact absurd hs (by simp [statement, ReleasePc.statement])
    | loaded row =>
      cases row with
      | none => exact absurd hs (by simp [statement, ReleasePc.statement, checkUnresolved])
      | some row => trivial
    | _ => trivial
  | reject run pc =>
    cases pc with
    | load =>
      simp only [statement, RejectPc.statement] at hs
      split at hs <;> exact absurd hs (by simp)
    | markResolved row => exact absurd hs (by simp [statement, RejectPc.statement])
    | commit => trivial

theorem barred_of_not_critical (h : ¬ pc.Critical) : pc.Barred := by
  cases pc with
  | release run pc =>
    cases pc with
    | load => trivial
    | loaded row =>
      cases row with
      | none => exact ⟨_, rfl⟩
      | some row => exact absurd trivial h
    | _ => exact absurd trivial h
  | reject run pc =>
    cases pc with
    | commit => exact absurd trivial h
    | _ => trivial

end ResolvePc

/-- A reject's update finds the row unresolved. -/
def ResolveConfig.OnTime {ι : Type} (c : ResolveConfig ι) : Move ι → Bool
  | .step i =>
    match c.txn i with
    | .running (.reject run (.markResolved _)) _ writes =>
      ((view c.store writes).quarantine[run.quarantineId]?).all (·.resolvedAt.isNone)
    | _ => true
  | .kill _ => true

/-- The row is resolved, and no open transaction is going to act on it. -/
structure ResolveConfig.Closed {ι : Type} (q : Nat) (c : ResolveConfig ι) : Prop where
  resolved : ∃ row, c.store.quarantine[q]? = some row ∧ row.resolvedAt ≠ none
  barred : c.All fun _ pc _ writes => pc.quarantineId = q ∧ pc.Barred ∧ ∀ s, view s writes = s

section

variable {ι : Type} [Fintype ι] [DecidableEq ι] {q : Nat} {c : ResolveConfig ι}

/-- What a barred transaction does next once the row is resolved. -/
theorem barred_exec {pc next : ResolvePc} {s : Store} {locks : List RowLock}
    {write : Store → Store} (hb : pc.Barred) {row : QuarantineRow}
    (hrow : s.quarantine[pc.quarantineId]? = some row) (hres : row.resolvedAt ≠ none)
    (hs : pc.statement s = .exec locks write next) :
    (∃ run row, pc = .reject run (.markResolved row)) ∨
      (next.quarantineId = pc.quarantineId ∧ next.Barred ∧ write = fun s => s) := by
  have hcheck : ∀ id, checkUnresolved id (some row) = .error (.alreadyResolved id) := by
    intro id
    rw [checkUnresolved, if_pos (Option.isSome_iff_ne_none.mpr hres)]
  cases pc with
  | release run pc =>
    cases pc with
    | load =>
      obtain ⟨rfl, rfl, rfl⟩ := Statement.exec.inj hs
      refine Or.inr ⟨rfl, ⟨.alreadyResolved run.quarantineId, ?_⟩, rfl⟩
      rw [show s.quarantine[run.quarantineId]? = some row from hrow]
      exact hcheck run.quarantineId
    | loaded row' =>
      obtain ⟨error, he⟩ := hb
      simp only [ResolvePc.statement, ReleasePc.statement, he] at hs
      exact absurd hs (by simp)
    | _ => exact absurd hb id
  | reject run pc =>
    cases pc with
    | load =>
      simp only [ResolvePc.statement, RejectPc.statement] at hs
      rw [show s.quarantine[run.quarantineId]? = some row from hrow, hcheck] at hs
      exact absurd hs (by simp)
    | markResolved row' => exact Or.inl ⟨run, row', rfl⟩
    | commit => exact absurd hb id

theorem ResolvePc.Barred.not_critical {pc : ResolvePc} (hb : pc.Barred) {s : Store}
    {result : ResolveOutcome} (hs : pc.statement s = .commit result) : False := by
  cases pc with
  | release run pc =>
    cases pc with
    | load => exact absurd hs (by simp [ResolvePc.statement, ReleasePc.statement])
    | loaded row =>
      obtain ⟨error, he⟩ := hb
      simp only [ResolvePc.statement, ReleasePc.statement, he] at hs
      exact absurd hs (by simp)
    | _ => exact hb
  | reject run pc =>
    cases pc with
    | load => exact absurd (ResolvePc.critical_of_commit hs) id
    | markResolved row => exact absurd (ResolvePc.critical_of_commit hs) id
    | commit => exact hb

omit [Fintype ι] in
theorem ResolveConfig.Closed.set (h : ResolveConfig.Closed q c) {i : ι}
    {t : Txn Store RowLock ResolvePc ResolveOutcome QuarantineError}
    (ht : ∀ pc held writes, t = .running pc held writes →
      pc.quarantineId = q ∧ pc.Barred ∧ ∀ s, view s writes = s) :
    ResolveConfig.Closed q (c.set i t) :=
  ⟨h.resolved, h.barred.set ht⟩

/-- Once the row is resolved nothing more is committed. -/
theorem ResolveConfig.Closed.step (h : ResolveConfig.Closed q c) {m : Move ι}
    (hm : ResolveConfig.OnTime c m = true) :
    ResolveConfig.Closed q (c.step (fun _ => ResolvePc.statement) m) ∧
      (c.step (fun _ => ResolvePc.statement) m).store = c.store ∧
      ∀ i result, (c.step (fun _ => ResolvePc.statement) m).txn i = .committed result ↔
        c.txn i = .committed result := by
  have hsame : ∀ {i : ι} {t : Txn Store RowLock ResolvePc ResolveOutcome QuarantineError}
      {pc : ResolvePc} {held : List RowLock} {writes : List (Store → Store)},
      c.txn i = .running pc held writes → (∀ result, t ≠ .committed result) → ∀ j result,
        (c.set i t).txn j = .committed result ↔ c.txn j = .committed result := by
    intro i t pc held writes hi ht j result
    rw [Config.txn_set]
    split
    · next hj => simp [hj, hi, ht]
    · rfl
  obtain ⟨row, hrow, hres⟩ := h.resolved
  have hdoes := Config.does_step (fun _ : ι => ResolvePc.statement) c m
  generalize c.step (fun _ => ResolvePc.statement) m = c' at hdoes
  cases hdoes with
  | stay => exact ⟨h, rfl, fun _ _ => Iff.rfl⟩
  | @exec i pc held writes locks write next running statement _ =>
    obtain ⟨hq, hb, hidle⟩ := h.barred i pc held writes running
    rw [hidle] at statement
    subst hq
    rcases barred_exec hb hrow hres statement with ⟨run, row', rfl⟩ | ⟨hid, hb', rfl⟩
    · -- the guard: this update would come late
      simp only [ResolveConfig.OnTime, running, hidle] at hm
      rw [show c.store.quarantine[run.quarantineId]? = some row from hrow] at hm
      simp only [Option.all_some, Option.isNone_iff_eq_none] at hm
      exact absurd hm hres
    · -- a transaction that does not have the row goes on without it
      refine ⟨h.set fun pc' held' writes' ht => ?_, rfl, hsame running (by simp)⟩
      obtain ⟨rfl, rfl, rfl⟩ := Txn.running.inj ht
      exact ⟨hid, hb', fun s => by rw [view_concat, hidle]⟩
  | @commit i pc held writes result running statement =>
    exact (ResolvePc.Barred.not_critical (h.barred i pc held writes running).2.1 statement).elim
  | fail running => exact ⟨h.set (by simp), rfl, hsame running (by simp)⟩
  | kill running => exact ⟨h.set (by simp), rfl, hsame running (by simp)⟩

/-- The state of the interleaving: nothing is committed, or one call is and the row
is closed. -/
inductive Resolving (calls : ι → ResolveCall) (q : Nat) (s : Store) (c : ResolveConfig ι) : Prop
  | opened (pristine : c.Pristine (fun _ => ResolvePc.resume) (fun i => (calls i).pc) s)
      (exclusive : c.Exclusive) (sound : c.All fun _ => ResolvePc.Sound q)
  | closed (i : ι) (result : ResolveOutcome) (committed : c.txn i = .committed result)
      (alone : (calls i).pc.resume s = .ok (c.store, result))
      (only : ∀ j result, c.txn j = .committed result → j = i)
      (closed : ResolveConfig.Closed q c)

variable {calls : ι → ResolveCall} {s : Store}

omit [Fintype ι] [DecidableEq ι] in
theorem resolving_start (hq : ∀ i, (calls i).quarantineId = q) :
    Resolving calls q s (Config.start s fun i => (calls i).pc) := by
  refine .opened Config.pristine_start (Config.exclusive_start _ _) (Config.all_start fun i => ?_)
  have hid : (calls i).pc.quarantineId = q := by
    rw [← hq i]
    cases calls i with
    | release run => rfl
    | reject run => rfl
  refine ⟨hid, fun hc => ?_, fun _ _ => rfl⟩
  cases hcall : calls i with
  | release run => rw [hcall] at hc; exact absurd hc id
  | reject run => rw [hcall] at hc; exact absurd hc id

theorem Resolving.step (h : Resolving calls q s c) {m : Move ι}
    (hq : ∀ i, (calls i).quarantineId = q) (hm : ResolveConfig.OnTime c m = true) :
    Resolving calls q s (c.step (fun _ => ResolvePc.statement) m) := by
  cases h with
  | opened pristine exclusive sound =>
    have hdenotes : ∀ i : ι, Denotes ((fun _ : ι => ResolvePc.statement) i) _ :=
      fun _ => ResolvePc.denotes
    rcases pristine.step hdenotes m
      with hp | ⟨i, pc, held, writes, result, running, statement, alone, hstep⟩
    · exact .opened hp (exclusive.step m)
        (sound.step fun i pc held writes locks write next _ _ hsound hs => hsound.exec hs)
    · -- the first commit: nobody else has the row
      rw [hstep]
      have hi := sound i pc held writes running
      have hlock := hi.lock (ResolvePc.critical_of_commit statement)
      refine .closed i result (by simp) alone (fun j result' hj => ?_) ⟨?_, ?_⟩
      · by_contra hne
        exact pristine.uncommitted j result' ((Config.txn_set_of_ne c hne _).symm.trans hj)
      · obtain ⟨row, -, -, hrow⟩ := (resolves_of_resume Postgres.reference alone).2
        rw [hq i] at hrow
        refine ⟨_, hrow, ?_⟩
        cases calls i <;> simp [ResolveCall.resolve]
      · intro j pc' held' writes' hj
        have hne : j ≠ i := by
          rintro rfl
          exact absurd ((Config.txn_set_self c j _).symm.trans hj) (by simp)
        have hj' : c.txn j = .running pc' held' writes' :=
          (Config.txn_set_of_ne c hne _).symm.trans hj
        have hs := sound j pc' held' writes' hj'
        have hfree : ¬ pc'.Critical := fun hc =>
          hne (exclusive.unique (by rw [hj']; exact hs.lock hc) (by rw [running]; exact hlock))
        exact ⟨hs.row, ResolvePc.barred_of_not_critical hfree, hs.idle hfree⟩
  | closed i result committed alone only closed =>
    obtain ⟨hclosed, hstore, hsame⟩ := closed.step hm
    -- the row is closed, and later moves commit nothing
    refine .closed i result ((hsame i result).mpr committed) ?_
      (fun j result' hj => only j result' ((hsame j result').mp hj)) hclosed
    rw [hstore]
    exact alone

/-- What any interleaving of calls leaves, if no reject updates a row that is
resolved by then. -/
theorem resolving_run (hq : ∀ i, (calls i).quarantineId = q) {moves : List (Move ι)}
    (hg : Runs.Guarded (Config.step fun _ => ResolvePc.statement)
      (fun c m => ResolveConfig.OnTime c m = true) (Config.start s fun i => (calls i).pc) moves) :
    Resolving calls q s (Runs.run (Config.step fun _ => ResolvePc.statement)
      (Config.start s fun i => (calls i).pc) moves) :=
  hg.invariant (I := Resolving calls q s) (fun _ _ h hm => h.step hq hm) (resolving_start hq)

end

/-- **One resolution for each quarantine row.**  After every run of operations and
every interleaving of any number of calls on one row, killed sessions included, in
which no reject updates the row once it is resolved: at most one call succeeded; the
row carries that call's resolution, and the state is the one the call leaves alone;
the row is `released` exactly when one release job with one enrollment snapshot was
written for it. -/
theorem one_resolution {ι : Type} [Fintype ι] [DecidableEq ι] (pg : Postgres) (ops : List Op)
    (q : Nat) (calls : ι → ResolveCall) (hq : ∀ i, (calls i).quarantineId = q)
    (moves : List (Move ι))
    (hg : Runs.Guarded (Config.step fun _ => ResolvePc.statement)
      (fun c m => ResolveConfig.OnTime c m = true)
      (Config.start (Runs.run (Store.exec pg) Store.empty ops) fun i => (calls i).pc) moves) :
    let s := Runs.run (Store.exec pg) Store.empty ops
    let c : ResolveConfig ι := Runs.run (Config.step fun _ => ResolvePc.statement)
      (Config.start s fun i => (calls i).pc) moves
    (∀ i j a b, c.txn i = .committed a → c.txn j = .committed b → i = j) ∧
      (∀ i a, c.txn i = .committed a →
        (calls i).Resolves s c.store ∧ c.store = s.exec pg (calls i).op) ∧
      ((∀ i a, c.txn i ≠ .committed a) → c.store = s) ∧
      (c.store.RowReleased q ↔ c.store.ReleasedOnce q) := by
  intro s c
  have hs : s.Audited := Store.audited_run pg ops
  cases resolving_run hq hg with
  | opened pristine _ _ =>
    -- no call has succeeded
    have hstore : c.store = s := pristine.store
    refine ⟨fun i _ a _ hi _ => absurd hi (pristine.uncommitted i a),
      fun i a hi => absurd hi (pristine.uncommitted i a), fun _ => hstore, ?_⟩
    rw [hstore]
    exact hs.iff q
  | closed i result committed alone only _ =>
    -- one call has, and it is as if it had been alone
    obtain ⟨hexec, hresolves⟩ := resolves_of_resume pg alone
    refine ⟨fun j k a b hj hk => (only j a hj).trans (only k b hk).symm, fun j a hj => ?_,
      fun hnone => absurd committed (hnone i result), ?_⟩
    · obtain rfl := only j a hj
      exact ⟨hresolves, hexec⟩
    · have hc : c.store.Audited := by
        have hexec' : c.store = s.exec pg (calls i).op := hexec
        rw [hexec']
        exact hs.exec pg _
      exact hc.iff q

section

open Fixture

/-- An enrollment is quarantined and its student arrives. -/
def quarantinedThenStudent : List Op :=
  [pageOp "L1" "job-1" [event "L1" "evt_001" (enrollment "L1" "e1" "s1")],
    pageOp "L1" "job-2" [event "L1" "evt_002" (student "L1" "s1")]]

/-- A reject and two releases of that row. -/
def threeCalls : Fin 3 → ResolveCall
  | 0 => .reject { quarantineId := 0, operatorIdentity := "op-a", reason := "typo", now := 20 }
  | 1 => .release
    { quarantineId := 0, operatorIdentity := "op-b", releaseGenerationId := "rel-1", now := 21 }
  | 2 => .release
    { quarantineId := 0, operatorIdentity := "op-c", releaseGenerationId := "rel-2", now := 22 }

/-- The reject reads, the first release takes the row, the others wait for it; the
reject's session is killed. -/
def waiting : List (Move (Fin 3)) :=
  [.step 0, .step 1, .step 1, .step 0, .step 2, .step 1, .step 1, .step 1, .step 1, .step 1,
    .kill 0, .step 2, .step 2]

theorem one_resolution_waiting :
    let s := Runs.run (Store.exec Postgres.reference) Store.empty quarantinedThenStudent
    let c : ResolveConfig (Fin 3) := Runs.run (Config.step fun _ => ResolvePc.statement)
      (Config.start s fun i => (threeCalls i).pc) waiting
    (∀ i j a b, c.txn i = .committed a → c.txn j = .committed b → i = j) ∧
      (∀ i a, c.txn i = .committed a →
        (threeCalls i).Resolves s c.store ∧
          c.store = s.exec Postgres.reference (threeCalls i).op) ∧
      ((∀ i a, c.txn i ≠ .committed a) → c.store = s) ∧
      (c.store.RowReleased 0 ↔ c.store.ReleasedOnce 0) :=
  one_resolution Postgres.reference quarantinedThenStudent 0 threeCalls (by decide) waiting
    (by decide)

/-- The reject reads, the first release runs to its end, the reject updates. -/
def lateReject : List (Move (Fin 3)) :=
  .step 0 :: List.replicate 7 (.step 1) ++ [.step 0, .step 0]

/-- Both calls succeed, and a row whose snapshot was written ends as rejected. -/
theorem late_reject_resolves_twice :
    let c : ResolveConfig (Fin 3) := Runs.run (Config.step fun _ => ResolvePc.statement)
      (Config.start (after quarantinedThenStudent) fun i => (threeCalls i).pc) lateReject
    (∃ a b, c.txn 0 = .committed a ∧ c.txn 1 = .committed b) ∧
      (c.store.quarantine[0]?).map (·.resolutionStatus) = some (some "rejected") ∧
      (c.store.syncJobs.lookup "rel-1").map (·.status) = some .quarantineRelease ∧
      (c.store.roster.generations .enrollment).count "rel-1" = 1 := by
  refine ⟨⟨_, _, rfl, rfl⟩, by decide, by decide, by decide⟩

end
