/-
The lifecycle of a connector authorization under concurrent verbs.

A row is valid when it is revoked exactly if `revoked_at` is set and its interval is in
bounds.  Each statement takes a valid row to a valid one and a revoked row to a revoked
one, but for the activation: it goes by the id it read, and whatever was committed
in between stands.  Rows are locked from the statement to the commit, so what holds of
the statements holds of every interleaving.

* `authorization_lifecycle` — the invariant, where activations find their row live;
* `activation_revives_row` — an activation that does not.
-/
import EdlinkRostering.Authorizations

namespace Authorizations

open ReadCommitted RowLocks

/-- What every row of `connector_authorization` is meant to satisfy. -/
structure AuthorizationRow.Valid (row : AuthorizationRow) : Prop where
  revoked_iff : row.status = .revoked ↔ row.revokedAt.isSome = true
  interval_ge : 60 ≤ row.pollIntervalSeconds
  interval_le : row.pollIntervalSeconds ≤ 3600

instance (row : AuthorizationRow) : Decidable row.Valid :=
  decidable_of_iff ((row.status = .revoked ↔ row.revokedAt.isSome = true) ∧
      60 ≤ row.pollIntervalSeconds ∧ row.pollIntervalSeconds ≤ 3600)
    ⟨fun h => ⟨h.1, h.2.1, h.2.2⟩, fun h => ⟨h.revoked_iff, h.interval_ge, h.interval_le⟩⟩

/-- The row after is valid, and revoked if it was. -/
def Follows (old new : Option AuthorizationRow) : Prop :=
  (∀ row ∈ new, row.Valid) ∧
    ∀ row ∈ old, row.status = .revoked → ∃ row' ∈ new, row'.status = .revoked

theorem Follows.trans (x y z : Option AuthorizationRow) (h : Follows x y) (h' : Follows y z) :
    Follows x z := by
  refine ⟨h'.1, fun row hrow hrevoked => ?_⟩
  obtain ⟨row', hrow', hrevoked'⟩ := h.2 row hrow hrevoked
  exact h'.2 row' hrow' hrevoked'

theorem Follows.refl {x : Option AuthorizationRow} (h : ∀ row ∈ x, row.Valid) : Follows x x :=
  ⟨h, fun row hrow hrevoked => ⟨row, hrow, hrevoked⟩⟩

theorem Follows.right (x y : Option AuthorizationRow) (h : Follows x y) : Follows y y :=
  .refl h.1

/-- The row under an id. -/
def getRow (id : Uuid) (s : AuthzStore) : Option AuthorizationRow := s.authorizations.lookup id

theorem getRow_modifyRow (s : AuthzStore) (id k : Uuid)
    (f : AuthorizationRow → AuthorizationRow) :
    getRow k (s.modifyRow id f) = if k = id then (getRow id s).map f else getRow k s :=
  Table.lookup_modify s.authorizations id k f

theorem getRow_insertRow (s : AuthzStore) (id k : Uuid) (row : AuthorizationRow) :
    getRow k (s.insertRow id row) = if k = id then some row else getRow k s :=
  Table.lookup_insert_eq s.authorizations id k row

/-! ### The statements, row by row -/

section

variable {held locks : List AuthzLock} {s : AuthzStore}

/-- The rows of a store are valid. -/
def ValidRows (s : AuthzStore) : Prop := ∀ id, ∀ row ∈ getRow id s, row.Valid

abbrev RespectsRows := Respects getRow AuthzLock.row Follows

/-- A statement that writes no row. -/
theorem respects_of_rows (hs : ValidRows s) {write : AuthzStore → AuthzStore}
    (h : ∀ s, (write s).authorizations = s.authorizations) :
    RespectsRows held s locks write := by
  have hget : ∀ k s, getRow k (write s) = getRow k s := fun k s => by rw [getRow, h, getRow]
  refine ⟨fun k _ s => hget k s, fun k s s' hk => ?_, fun k => ?_⟩
  · rw [hget, hget]
    exact hk
  · rw [hget]
    exact .refl (hs k)

/-- An `UPDATE` of one row. -/
theorem respects_modifyRow (hs : ValidRows s) {id : Uuid} {f : AuthorizationRow → AuthorizationRow}
    (hlock : .row id ∈ held ++ locks)
    (hf : ∀ row ∈ getRow id s, row.Valid →
      (f row).Valid ∧ (row.status = .revoked → (f row).status = .revoked)) :
    RespectsRows held s locks (·.modifyRow id f) := by
  refine ⟨fun k hk s => ?_, fun k s s' hget => ?_, fun k => ?_⟩
  · have hne : k ≠ id := by
      rintro rfl
      exact hk hlock
    rw [getRow_modifyRow, if_neg hne]
  · rw [getRow_modifyRow, getRow_modifyRow]
    split
    · next h => rw [← h, hget]
    · exact hget
  · rw [getRow_modifyRow]
    split
    · next h =>
      subst h
      refine ⟨fun row hrow => ?_, fun row hrow hrevoked => ?_⟩
      · obtain ⟨old, hold, rfl⟩ := Option.map_eq_some_iff.mp hrow
        exact (hf old hold (hs k old hold)).1
      · exact ⟨f row, Option.map_eq_some_iff.mpr ⟨row, hrow, rfl⟩,
          (hf row hrow (hs k row hrow)).2 hrevoked⟩
    · exact .refl (hs k)

/-- An `INSERT` under a new id. -/
theorem respects_insertRow (hs : ValidRows s) {id : Uuid} {row : AuthorizationRow}
    (hlock : .row id ∈ held ++ locks) (hnew : getRow id s = none) (hrow : row.Valid) :
    RespectsRows held s locks (·.insertRow id row) := by
  refine ⟨fun k hk s => ?_, fun k s s' hget => ?_, fun k => ?_⟩
  · have hne : k ≠ id := by
      rintro rfl
      exact hk hlock
    rw [getRow_insertRow, if_neg hne]
  · rw [getRow_insertRow, getRow_insertRow, hget]
  · rw [getRow_insertRow]
    split
    · next h =>
      subst h
      refine ⟨fun r hr => ?_, fun r hr => ?_⟩
      · obtain rfl := Option.some.inj hr
        exact hrow
      · exact absurd (hnew.symm.trans hr) (by simp)
    · exact .refl (hs k)

/-- An `UPDATE` of several rows, one after the other. -/
theorem respects_foldl {f : AuthorizationRow → AuthorizationRow}
    (hf : ∀ row, row.Valid → (f row).Valid ∧ (row.status = .revoked → (f row).status = .revoked)) :
    ∀ {rows : List (Uuid × AuthorizationRow)} {s : AuthzStore}, ValidRows s →
      (∀ r ∈ rows, .row r.1 ∈ held ++ locks) →
      RespectsRows held s locks fun s => rows.foldl (fun s r => s.modifyRow r.1 f) s := by
  intro rows
  induction rows with
  | nil => exact fun hs _ => respects_of_rows hs fun _ => rfl
  | cons r rows ih =>
    intro s hs hlocks
    have hfirst : RespectsRows held s locks (·.modifyRow r.1 f) :=
      respects_modifyRow hs (hlocks r List.mem_cons_self) fun row _ => hf row
    have hrest := ih (s := s.modifyRow r.1 f) (fun id => (hfirst.2.2 id).1)
      fun r' hr' => hlocks r' (List.mem_cons_of_mem _ hr')
    refine ⟨fun k hk s => ?_, fun k s s' hget => ?_, fun k => ?_⟩
    · exact (hrest.1 k hk _).trans (hfirst.1 k hk s)
    · exact hrest.2.1 k _ _ (hfirst.2.1 k s s' hget)
    · exact (hfirst.2.2 k).trans _ _ _ (hrest.2.2 k)

end

/-! ### The intervals a verb is about to write -/

/-- The intervals a verb carries have been validated. -/
def Verb.Checked (verb : Verb) : AuthzPc → Prop
  | .awaitIndex interval => validInterval interval = true
  | .insert interval => validInterval interval = true
  | .activate _ interval => validInterval interval = true
  | .load => ∀ call new, verb = .adjustPollInterval call new → validInterval new = true
  | .update _ => ∀ call new, verb = .adjustPollInterval call new → validInterval new = true
  | _ => True

theorem validInterval_iff {seconds : Int} :
    validInterval seconds = true ↔ 60 ≤ seconds ∧ seconds ≤ 3600 := by
  rw [validInterval, Bool.and_eq_true, decide_eq_true_iff, decide_eq_true_iff]
  exact Iff.rfl

theorem chooseInterval_valid {given : Option Int} {default interval : Int}
    (hdefault : validInterval default = true)
    (h : chooseInterval given default = some interval) : validInterval interval = true := by
  cases given with
  | none =>
    obtain rfl := Option.some.inj h
    exact hdefault
  | some seconds =>
    simp only [chooseInterval] at h
    split at h
    · next hvalid =>
      obtain rfl := Option.some.inj h
      exact hvalid
    · exact absurd h (by simp)

theorem Verb.checked_begin (verb : Verb) : verb.Checked verb.begin := by
  cases verb with
  | authorize => exact trivial
  | revoke =>
    intro call new h
    exact nomatch h
  | adjustPollInterval call new =>
    simp only [Verb.begin]
    split
    · next hvalid =>
      intro call' new' h
      obtain ⟨-, rfl⟩ := Verb.adjustPollInterval.inj h
      exact hvalid
    · exact trivial
  | pollAndPersist => exact trivial

/-- The live row a verb has loaded is a row of the store. -/
theorem loadLiveRow_valid {s : AuthzStore} (hs : ValidRows s) {leaId : LeaId} {partner : String}
    {current : LiveRow} (h : s.loadLiveRow leaId partner = some current) :
    validInterval current.pollIntervalSeconds = true := by
  obtain ⟨r, hr, rfl⟩ := Option.map_eq_some_iff.mp h
  have hmem := (List.mem_filter.mp (List.mem_of_head? hr)).1
  have hvalid := hs r.1 r.2 (Table.mem_rows.mp hmem)
  exact validInterval_iff.mpr ⟨hvalid.interval_ge, hvalid.interval_le⟩

theorem Verb.checked_loaded (verb : Verb) {current : Option LiveRow}
    (hcurrent : ∀ row ∈ current, validInterval row.pollIntervalSeconds = true)
    (hload : verb.Checked .load) : verb.Checked (verb.loaded current) := by
  cases verb with
  | authorize call given notes newId =>
    cases current with
    | none =>
      simp only [Verb.loaded]
      cases hchoose : chooseInterval given 300 with
      | none => exact trivial
      | some interval => exact chooseInterval_valid (by decide) hchoose
    | some row =>
      simp only [Verb.loaded]
      split
      · cases hchoose : chooseInterval given row.pollIntervalSeconds with
        | none => exact trivial
        | some interval => exact chooseInterval_valid (hcurrent row rfl) hchoose
      · exact trivial
  | revoke call =>
    cases current with
    | none => exact trivial
    | some row => exact hload
  | adjustPollInterval call new =>
    cases current with
    | none => exact trivial
    | some row => exact hload
  | pollAndPersist => cases current <;> exact trivial

/-! ### One statement -/

/-- An activation finds its row live. -/
def AuthzPc.FindsLive (pc : AuthzPc) (s : AuthzStore) : Prop :=
  match pc with
  | .activate current _ => ∀ row ∈ getRow current.id s, row.revokedAt = none
  | _ => True

instance (s : AuthzStore) : (pc : AuthzPc) → Decidable (pc.FindsLive s)
  | .activate current _ =>
    decidable_of_iff ((getRow current.id s).all fun row => row.revokedAt = none)
      (by simp [AuthzPc.FindsLive, Option.all_eq_true])
  | .assertLea | .load | .awaitIndex _ | .insert _ | .update _ | .poll | .audit _ _
  | .commit _ | .fail _ => .isTrue trivial

section

variable {held locks : List AuthzLock} {s : AuthzStore} {write : AuthzStore → AuthzStore}
  {next : AuthzPc}

/-- An activation of a live row. -/
theorem activateRow_valid {call : Call} {interval : Int} {notes : Option String}
    (hinterval : validInterval interval = true) {row : AuthorizationRow}
    (hlive : row.revokedAt = none) (hrow : row.Valid) :
    (activateRow call interval notes row).Valid ∧
      (row.status = .revoked → (activateRow call interval notes row).status = .revoked) := by
  obtain ⟨hge, hle⟩ := validInterval_iff.mp hinterval
  refine ⟨⟨?_, hge, hle⟩, fun hrevoked => ?_⟩
  · simp [activateRow, hlive]
  · have hset := hrow.revoked_iff.mp hrevoked
    rw [hlive] at hset
    exact absurd hset (by simp)

theorem authorize_respects {call : Call} {given : Option Int} {notes : Option String}
    {newId : Uuid} {pc : AuthzPc} (hs : ValidRows s)
    (hchecked : (Verb.authorize call given notes newId).Checked pc) (hlive : pc.FindsLive s)
    (h : (Verb.authorize call given notes newId).authorizeStatement s pc = .exec locks write next) :
    RespectsRows held s locks write := by
  cases pc with
  | assertLea =>
    simp only [Verb.authorizeStatement] at h
    split at h
    · obtain ⟨rfl, rfl, rfl⟩ := Statement.exec.inj h
      exact respects_of_rows hs fun _ => rfl
    · exact nomatch h
  | awaitIndex interval =>
    obtain ⟨rfl, rfl, rfl⟩ := Statement.exec.inj h
    exact respects_of_rows hs fun _ => rfl
  | insert interval =>
    simp only [Verb.authorizeStatement] at h
    split at h
    · exact nomatch h
    · next hnew =>
      obtain ⟨rfl, rfl, rfl⟩ := Statement.exec.inj h
      obtain ⟨hge, hle⟩ := validInterval_iff.mp hchecked
      have hnone : getRow newId s = none := by
        cases hget : getRow newId s with
        | none => rfl
        | some row =>
          rw [getRow] at hget
          exact absurd (by rw [hget]; rfl) hnew
      exact respects_insertRow hs (List.mem_append_right _ List.mem_cons_self) hnone
        ⟨by simp, hge, hle⟩
  | activate current interval =>
    obtain ⟨rfl, rfl, rfl⟩ := Statement.exec.inj h
    exact respects_modifyRow hs (List.mem_append_right _ List.mem_cons_self)
      fun row hrow hvalid => activateRow_valid hchecked (hlive row hrow) hvalid
  | load | update | poll | audit | commit | fail => exact nomatch h

theorem updateStatement_respects {verb : Verb} {current : LiveRow} (hs : ValidRows s)
    (hchecked : verb.Checked (.update current))
    (h : verb.updateStatement current = .exec locks write next) :
    RespectsRows held s locks write := by
  cases verb with
  | revoke call =>
    obtain ⟨rfl, rfl, rfl⟩ := Statement.exec.inj h
    refine respects_modifyRow hs (List.mem_append_right _ List.mem_cons_self)
      fun row _ hvalid => ⟨⟨?_, hvalid.interval_ge, hvalid.interval_le⟩, fun _ => rfl⟩
    simp [revokeRow]
  | adjustPollInterval call new =>
    obtain ⟨rfl, rfl, rfl⟩ := Statement.exec.inj h
    obtain ⟨hge, hle⟩ := validInterval_iff.mp (hchecked call new rfl)
    exact respects_modifyRow hs (List.mem_append_right _ List.mem_cons_self)
      fun row _ hvalid => ⟨⟨hvalid.revoked_iff, hge, hle⟩, fun hr => hr⟩
  | authorize | pollAndPersist => exact nomatch h

theorem pollStatement_respects {verb : Verb} (hs : ValidRows s)
    (h : verb.pollStatement s = .exec locks write next) : RespectsRows held s locks write := by
  cases verb with
  | pollAndPersist leaId partner snapshot =>
    simp only [Verb.pollStatement] at h
    split at h
    · obtain ⟨rfl, rfl, rfl⟩ := Statement.exec.inj h
      exact respects_of_rows hs fun _ => rfl
    split at h
    · exact nomatch h
    · obtain ⟨rfl, rfl, rfl⟩ := Statement.exec.inj h
      have hobserve : ∀ row : AuthorizationRow, row.Valid → (observe snapshot row).Valid ∧
          (row.status = .revoked → (observe snapshot row).status = .revoked) :=
        fun row hvalid => ⟨⟨hvalid.revoked_iff, hvalid.interval_ge, hvalid.interval_le⟩, id⟩
      exact respects_foldl hobserve hs fun r hr =>
        List.mem_append_right _ (List.mem_map_of_mem hr)
  | authorize | revoke | adjustPollInterval => exact nomatch h

/-- **Every statement respects the rows**, an activation where it finds its row live. -/
theorem Verb.respects (verb : Verb) {pc : AuthzPc} (hs : ValidRows s) (hchecked : verb.Checked pc)
    (hlive : pc.FindsLive s) (h : verb.statement pc s = .exec locks write next) :
    RespectsRows held s locks write := by
  have hauthorize : verb.authorizeStatement s pc = .exec locks write next →
      RespectsRows held s locks write := by
    intro h
    cases verb with
    | authorize => exact authorize_respects hs hchecked hlive h
    | revoke | adjustPollInterval | pollAndPersist => exact nomatch h
  cases pc with
  | load =>
    obtain ⟨rfl, rfl, rfl⟩ := Statement.exec.inj h
    exact respects_of_rows hs fun _ => rfl
  | update current => exact updateStatement_respects hs hchecked h
  | poll => exact pollStatement_respects hs h
  | audit row outcome =>
    obtain ⟨rfl, rfl, rfl⟩ := Statement.exec.inj h
    exact respects_of_rows hs fun _ => rfl
  | commit | fail => exact nomatch h
  | assertLea | awaitIndex | insert | activate => exact hauthorize h

/-- The intervals stay validated from one statement to the next. -/
theorem Verb.checked_next (verb : Verb) {pc : AuthzPc} (hs : ValidRows s)
    (hchecked : verb.Checked pc) (h : verb.statement pc s = .exec locks write next) :
    verb.Checked next := by
  cases pc with
  | load =>
    obtain ⟨rfl, rfl, rfl⟩ := Statement.exec.inj h
    -- the row that was read is valid
    exact verb.checked_loaded (fun _ hrow => loadLiveRow_valid hs hrow) hchecked
  | audit row outcome =>
    obtain ⟨rfl, rfl, rfl⟩ := Statement.exec.inj h
    exact trivial
  | commit | fail => exact nomatch h
  | update current =>
    cases verb with
    | revoke | adjustPollInterval =>
      obtain ⟨rfl, rfl, rfl⟩ := Statement.exec.inj h
      exact trivial
    | authorize | pollAndPersist => exact nomatch h
  | poll =>
    cases verb with
    | pollAndPersist leaId partner snapshot =>
      simp only [Verb.statement, Verb.pollStatement] at h
      split at h
      · obtain ⟨rfl, rfl, rfl⟩ := Statement.exec.inj h
        exact trivial
      split at h
      · exact nomatch h
      · obtain ⟨rfl, rfl, rfl⟩ := Statement.exec.inj h
        exact trivial
    | authorize | revoke | adjustPollInterval => exact nomatch h
  | assertLea =>
    cases verb with
    | authorize call given notes newId =>
      simp only [Verb.statement, Verb.authorizeStatement] at h
      split at h
      · obtain ⟨rfl, rfl, rfl⟩ := Statement.exec.inj h
        exact fun _ _ h => nomatch h
      · exact nomatch h
    | revoke | adjustPollInterval | pollAndPersist => exact nomatch h
  | awaitIndex interval =>
    cases verb with
    | authorize call given notes newId =>
      obtain ⟨rfl, rfl, rfl⟩ := Statement.exec.inj h
      exact hchecked
    | revoke | adjustPollInterval | pollAndPersist => exact nomatch h
  | insert interval =>
    cases verb with
    | authorize call given notes newId =>
      simp only [Verb.statement, Verb.authorizeStatement] at h
      split at h
      · exact nomatch h
      · obtain ⟨rfl, rfl, rfl⟩ := Statement.exec.inj h
        exact trivial
    | revoke | adjustPollInterval | pollAndPersist => exact nomatch h
  | activate current interval =>
    cases verb with
    | authorize call given notes newId =>
      obtain ⟨rfl, rfl, rfl⟩ := Statement.exec.inj h
      exact trivial
    | revoke | adjustPollInterval | pollAndPersist => exact nomatch h

end

/-! ### Runs -/

abbrev AuthzConfig (ι : Type) := Config ι AuthzStore AuthzLock AuthzPc Outcome AuthzError

variable {ι : Type} [Fintype ι] [DecidableEq ι]

/-- One move of the transactions that run the verbs. -/
def exec (verbs : ι → Verb) (c : AuthzConfig ι) (m : Move ι) : AuthzConfig ι :=
  c.step (fun i => (verbs i).statement) m

/-- Every verb before its first statement. -/
def begin (verbs : ι → Verb) (store : AuthzStore) : AuthzConfig ι :=
  Config.start store fun i => (verbs i).begin

/-- The row an activation waits for. -/
def AuthzPc.activationLocks : AuthzPc → List AuthzLock
  | .activate current _ => [.row current.id]
  | _ => []

/-- If it is an activation whose turn it is, it finds its row live. -/
def TurnFindsLive (c : AuthzConfig ι) (i : ι) :
    Txn AuthzStore AuthzLock AuthzPc Outcome AuthzError → Prop
  | .running pc _ writes => c.Free i pc.activationLocks → pc.FindsLive (view c.store writes)
  | _ => True

instance (c : AuthzConfig ι) (i : ι) :
    (t : Txn AuthzStore AuthzLock AuthzPc Outcome AuthzError) → Decidable (TurnFindsLive c i t)
  | .running pc _ writes =>
    inferInstanceAs (Decidable (c.Free i pc.activationLocks → pc.FindsLive (view c.store writes)))
  | .committed _ | .failed _ | .killed => .isTrue trivial

/-- The move does not activate a row that has been revoked. -/
def FindsLive (c : AuthzConfig ι) : Move ι → Prop
  | .kill _ => True
  | .step i => TurnFindsLive c i (c.txn i)

instance (c : AuthzConfig ι) : (m : Move ι) → Decidable (FindsLive c m)
  | .kill _ => .isTrue trivial
  | .step i => inferInstanceAs (Decidable (TurnFindsLive c i (c.txn i)))

/-- The transactions respect the rows, and write intervals they have validated. -/
structure Sound (verbs : ι → Verb) (c : AuthzConfig ι) : Prop where
  related : Related getRow AuthzLock.row Follows c
  checked : c.All fun i pc _ _ => (verbs i).Checked pc

omit [Fintype ι] [DecidableEq ι] in
theorem Sound.validRows {verbs : ι → Verb} {c : AuthzConfig ι} (h : Sound verbs c) :
    ValidRows c.store := fun id => (h.related.refl id).1

omit [Fintype ι] [DecidableEq ι] in
theorem sound_begin (verbs : ι → Verb) {store : AuthzStore} (h : ValidRows store) :
    Sound verbs (begin verbs store) where
  related := related_start fun k => .refl (h k)
  checked := Config.all_start fun i => (verbs i).checked_begin

/-- A move that activates no revoked row keeps the invariant, and what is committed
follows what was. -/
theorem Sound.step {verbs : ι → Verb} {c : AuthzConfig ι} (h : Sound verbs c) {m : Move ι}
    (hm : FindsLive c m) : Sound verbs (exec verbs c m) ∧
      ∀ id, Follows (getRow id c.store) (getRow id (exec verbs c m).store) := by
  have hview : ∀ {i pc held writes}, c.txn i = .running pc held writes →
      ValidRows (view c.store writes) := fun hrunning id => (h.related.view hrunning id).1
  have hrelated : Related getRow AuthzLock.row Follows (exec verbs c m) ∧
      ∀ id, Follows (getRow id c.store) (getRow id (exec verbs c m).store) :=
    h.related.step Follows.trans Follows.right (by
      intro i pc held writes locks write next hi hrunning hstatement hfree
      subst hi
      refine (verbs i).respects (hview hrunning) (h.checked i pc held writes hrunning) ?_ hstatement
      cases pc with
      | activate current interval =>
        simp only [FindsLive, hrunning, TurnFindsLive] at hm
        refine hm ?_
        have hlocks : locks = [.row current.id] := by
          cases hv : verbs i <;> rw [hv] at hstatement <;>
            first | exact (Statement.exec.inj hstatement).1.symm | exact nomatch hstatement
        rw [AuthzPc.activationLocks, ← hlocks]
        exact hfree
      | assertLea | load | awaitIndex | insert | update | poll | audit | commit | fail =>
        exact trivial)
  refine ⟨⟨hrelated.1, ?_⟩, hrelated.2⟩
  refine h.checked.step fun i pc held writes locks write next _ hrunning hchecked hstatement => ?_
  exact (verbs i).checked_next (hview hrunning) hchecked hstatement

/-- What is committed later follows what was committed before. -/
theorem Sound.follows {verbs : ι → Verb} {c : AuthzConfig ι} (h : Sound verbs c)
    {moves : List (Move ι)} (hmoves : Runs.Guarded (exec verbs) FindsLive c moves) (id : Uuid) :
    Follows (getRow id c.store) (getRow id (Runs.run (exec verbs) c moves).store) := by
  induction moves generalizing c with
  | nil => exact h.related.refl id
  | cons m moves ih =>
    have hstep := h.step hmoves.1
    exact (hstep.2 id).trans _ _ _ (ih hstep.1 hmoves.2)

/-- **The lifecycle of an authorization.**  In every interleaving of the verbs' statements
in which an activation that runs finds its row live, each row is revoked exactly if
`revoked_at` is set, with its interval in bounds; a row once revoked stays so; and the
sweep selects no revoked row. -/
theorem authorization_lifecycle (verbs : ι → Verb) (store : AuthzStore) (moves : List (Move ι))
    (hstart : ∀ id row, store.authorizations.lookup id = some row → row.Valid)
    (h : Runs.Guarded (exec verbs) FindsLive (begin verbs store) moves) :
    let c := Runs.run (exec verbs) (begin verbs store) moves
    (∀ id row, c.store.authorizations.lookup id = some row → row.Valid) ∧
    (∀ earlier later, moves = earlier ++ later → ∀ id row,
      (Runs.run (exec verbs) (begin verbs store) earlier).store.authorizations.lookup id
        = some row → row.status = .revoked →
      ∃ row', c.store.authorizations.lookup id = some row' ∧ row'.status = .revoked) ∧
    (∀ r ∈ c.store.activeRows, r.2.revokedAt = none) ∧
    ∀ pg, ∀ p ∈ activeAuthorizations pg c.store, ∃ id row,
      c.store.authorizations.lookup id = some row ∧ (row.leaId, row.partner) = p ∧
        row.status = .active ∧ row.revokedAt = none := by
  intro c
  have hbegin : Sound verbs (begin verbs store) := sound_begin verbs hstart
  have hsound : Sound verbs c :=
    h.invariant (I := Sound verbs) (fun c m hc hm => (hc.step hm).1) hbegin
  have hlive : ∀ r ∈ c.store.activeRows, r.2.revokedAt = none := by
    intro r hr
    obtain ⟨hmem, hactive⟩ := List.mem_filter.mp hr
    have hvalid := hsound.validRows r.1 r.2 (Table.mem_rows.mp hmem)
    rw [decide_eq_true_eq] at hactive
    by_contra hset
    have hrevoked := hvalid.revoked_iff.mpr (Option.isSome_iff_ne_none.mpr hset)
    rw [hactive] at hrevoked
    exact nomatch hrevoked
  refine ⟨fun id row hrow => hsound.validRows id row hrow, ?_, hlive, ?_⟩
  · intro earlier later heq id row hrow hrevoked
    subst heq
    obtain ⟨hearlier, hlater⟩ := Runs.Guarded.append.mp h
    have hmid : Sound verbs (Runs.run (exec verbs) (begin verbs store) earlier) :=
      hearlier.invariant (I := Sound verbs) (fun c m hc hm => (hc.step hm).1) hbegin
    obtain ⟨row', hrow', hrevoked'⟩ := (hmid.follows hlater id).2 row hrow hrevoked
    refine ⟨row', ?_, hrevoked'⟩
    rwa [← Runs.run_append] at hrow'
  · intro pg p hp
    obtain ⟨r, hr, rfl⟩ := List.mem_map.mp ((List.mem_insertionSort _).mp hp)
    obtain ⟨hmem, hactive⟩ := List.mem_filter.mp hr
    exact ⟨r.1, r.2, Table.mem_rows.mp hmem, rfl, of_decide_eq_true hactive, hlive r hr⟩

/-! ### Two operators on a pending row -/

def pendingStore : AuthzStore where
  leas := AList.insert "L1" none ∅
  authorizations := AList.insert "authz-1"
    { leaId := "L1", partner := "edlink", status := .pending } ∅
  auditLog := []

def call (operatorId : Uuid) (now : Instant) : Call where
  leaId := "L1"
  partner := "edlink"
  operatorId := operatorId
  reason := "onboarding"
  now := now

/-- One operator authorizes, another revokes. -/
def twoOperators : Fin 2 → Verb
  | 0 => .authorize (call "op-1" 10) none none "authz-2"
  | 1 => .revoke (call "op-2" 11)

/-- The activation comes first, and the revoke waits for it. -/
def revokeAfter : List (Move (Fin 2)) :=
  [.first, .second, .first, .first, .second, .first, .first, .second, .second, .second]

/-- The row the two operators leave. -/
def revokedRow : AuthorizationRow :=
  revokeRow (call "op-2" 11) (activateRow (call "op-1" 10) 300 none
    { leaId := "L1", partner := "edlink", status := .pending })

theorem validRows_pendingStore (id : Uuid) (row : AuthorizationRow)
    (h : pendingStore.authorizations.lookup id = some row) : row.Valid := by
  rw [pendingStore, Table.lookup_insert_eq] at h
  split at h
  · obtain rfl := Option.some.inj h
    decide
  · exact nomatch h

theorem authorization_lifecycle_revokeAfter :
    (Runs.run (exec twoOperators) (begin twoOperators pendingStore)
        revokeAfter).store.authorizations.lookup "authz-1" = some revokedRow ∧
      revokedRow.Valid := by
  have hrow : (Runs.run (exec twoOperators) (begin twoOperators pendingStore)
      revokeAfter).store.authorizations.lookup "authz-1" = some revokedRow := by decide
  exact ⟨hrow, (authorization_lifecycle twoOperators pendingStore revokeAfter
    validRows_pendingStore (by decide)).1 "authz-1" revokedRow hrow⟩

/-- The revoke is committed between the read and the activation. -/
def revokeBetween : List (Move (Fin 2)) :=
  [.first, .first, .second, .second, .second, .second, .first, .first, .first]

/-- The activation goes by the id it read: the row is active again with `revoked_at` set, and
the sweep selects it. -/
theorem activation_revives_row :
    let c := Runs.run (exec twoOperators) (begin twoOperators pendingStore) revokeBetween
    (∃ row ∈ c.store.authorizations.lookup "authz-1", ¬ row.Valid) ∧
      ("L1", "edlink") ∈ activeAuthorizations Postgres.reference c.store := by
  decide

end Authorizations
