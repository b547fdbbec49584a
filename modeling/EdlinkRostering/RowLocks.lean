/-
Transactions that lock the rows they write.

The store is seen as rows `get k s`, each with a lock.  A write is confined when it
leaves the rows its transaction has not locked, and local when what it makes of a row
depends on that row alone.  Then what a transaction will make of a row it holds does not
change while others commit, so a relation between a row and what a statement makes of it
can be followed through every interleaving.

* `RowLocks.get_step_of_held` — a held row stays as it is;
* `RowLocks.Related.step` — a relation that every statement keeps is kept by every move.
-/
import EdlinkRostering.ReadCommitted

namespace ReadCommitted

namespace RowLocks

variable {σ κ μ ν : Type*} (get : μ → σ → ν) (lock : μ → κ)

/-- A write leaves the rows outside the locks. -/
def Confined (held : List κ) (write : σ → σ) : Prop :=
  ∀ k, lock k ∉ held → ∀ s, get k (write s) = get k s

/-- What a write makes of a row depends on the row alone. -/
def Local (write : σ → σ) : Prop :=
  ∀ k s s', get k s = get k s' → get k (write s) = get k (write s')

/-- The writes of a transaction keep to its locks. -/
def Kept (held : List κ) (writes : List (σ → σ)) : Prop :=
  ∀ write ∈ writes, Confined get lock held write ∧ Local get write

variable {get lock} {held : List κ} {writes : List (σ → σ)} {k : μ} {s s' : σ}

theorem Kept.concat {locks : List κ} {write : σ → σ} (h : Kept get lock held writes)
    (hconfined : Confined get lock (held ++ locks) write) (hlocal : Local get write) :
    Kept get lock (held ++ locks) (writes ++ [write]) := by
  intro w hw
  rcases List.mem_append.mp hw with hold | hnew
  · refine ⟨fun k hk => (h w hold).1 k fun hheld => hk ?_, (h w hold).2⟩
    exact List.mem_append_left _ hheld
  · obtain rfl := List.mem_singleton.mp hnew
    exact ⟨hconfined, hlocal⟩

/-- A row outside the locks is seen as it is committed. -/
theorem Kept.get_view (h : Kept get lock held writes) (hk : lock k ∉ held) (s : σ) :
    get k (view s writes) = get k s := by
  induction writes generalizing s with
  | nil => rfl
  | cons write writes ih =>
    have hrest := ih (fun w hw => h w (List.mem_cons_of_mem _ hw)) (write s)
    have hwrite := (h write List.mem_cons_self).1 k hk s
    exact hrest.trans hwrite

/-- Two stores with the same row show the same row. -/
theorem Kept.get_view_congr (h : Kept get lock held writes) (hs : get k s = get k s') :
    get k (view s writes) = get k (view s' writes) := by
  induction writes generalizing s s' with
  | nil => exact hs
  | cons write writes ih =>
    have hwrite := (h write List.mem_cons_self).2 k s s' hs
    exact ih (fun w hw => h w (List.mem_cons_of_mem _ hw)) hwrite

variable {ι π α ε : Type*} [Fintype ι] [DecidableEq ι] [DecidableEq κ]
  {program : ι → π → σ → Statement σ κ π α ε} {c : Config ι σ κ π α ε}

/-- **A held row stays as it is** while its transaction is open. -/
theorem get_step_of_held (hexclusive : c.Exclusive)
    (hkept : c.All fun _ _ held writes => Kept get lock held writes) {m : Move ι} {i : ι}
    (hk : lock k ∈ ((c.step program m).txn i).held) :
    get k (c.step program m).store = get k c.store := by
  have hdoes := c.does_step program m
  generalize c.step program m = c' at hdoes hk
  cases hdoes with
  | stay | exec | fail | kill => rfl
  | @commit j pc held writes result running _ =>
    -- the row is not one the committing transaction holds
    have hne : i ≠ j := by
      rintro rfl
      rw [show ({ c.set i (.committed result) with store := view c.store writes } :
        Config ι σ κ π α ε).txn i = .committed result from c.txn_set_self i _] at hk
      exact absurd hk List.not_mem_nil
    have hold : lock k ∈ (c.txn i).held := by
      rwa [show ({ c.set j (.committed result) with store := view c.store writes } :
        Config ι σ κ π α ε).txn i = c.txn i from c.txn_set_of_ne hne _] at hk
    have hother := hexclusive i j hne _ hold
    rw [running] at hother
    exact (hkept j pc held writes running).get_view hother c.store

variable (get lock) (R : ν → ν → Prop)

/-- What every open transaction has made of the rows is related to the committed rows. -/
structure Related (c : Config ι σ κ π α ε) : Prop where
  exclusive : c.Exclusive
  kept : c.All fun _ _ held writes => Kept get lock held writes
  refl : ∀ k, R (get k c.store) (get k c.store)
  related : c.All fun _ _ _ writes => ∀ k, R (get k c.store) (get k (view c.store writes))

/-- A statement that keeps to its locks and relates each row it finds to what it makes of
it. -/
def Respects (held : List κ) (s : σ) (locks : List κ) (write : σ → σ) : Prop :=
  Confined get lock (held ++ locks) write ∧ Local get write ∧ ∀ k, R (get k s) (get k (write s))

variable {get lock R}

omit [Fintype ι] [DecidableEq ι] [DecidableEq κ] in
theorem related_start {store : σ} {pc : ι → π} (h : ∀ k, R (get k store) (get k store)) :
    Related get lock R (Config.start store pc : Config ι σ κ π α ε) where
  exclusive := Config.exclusive_start store pc
  kept := Config.all_start fun _ _ hw => absurd hw List.not_mem_nil
  refl := h
  related := Config.all_start fun _ => h

omit [Fintype ι] [DecidableEq ι] [DecidableEq κ] in
/-- Every open transaction sees related rows. -/
theorem Related.view (h : Related get lock R c) {i : ι} {pc : π} {held : List κ}
    {writes : List (σ → σ)} (hi : c.txn i = .running pc held writes) (k : μ) :
    R (get k c.store) (get k (view c.store writes)) :=
  h.related i pc held writes hi k

/-- **A relation every statement keeps is kept by every move**, and relates the committed
rows before and after it. -/
theorem Related.step (htrans : ∀ x y z, R x y → R y z → R x z) (hright : ∀ x y, R x y → R y y)
    (h : Related get lock R c) {m : Move ι}
    (hexec : ∀ i pc held writes locks write next, m = .step i →
      c.txn i = .running pc held writes →
      program i pc (ReadCommitted.view c.store writes) = .exec locks write next →
      c.Free i locks →
      Respects get lock R held (ReadCommitted.view c.store writes) locks write) :
    Related get lock R (c.step program m) ∧
      ∀ k, R (get k c.store) (get k (c.step program m).store) := by
  have hexclusive : (c.step program m).Exclusive := h.exclusive.step m
  have hheld : ∀ k i, lock k ∈ ((c.step program m).txn i).held →
      get k (c.step program m).store = get k c.store :=
    fun k i hk => get_step_of_held h.exclusive h.kept hk
  have hdoes := c.does_step program m
  generalize c.step program m = c' at hdoes hexclusive hheld
  cases hdoes with
  | stay => exact ⟨h, h.refl⟩
  | @exec i pc held writes locks write next running statement free =>
    obtain ⟨hconfined, hlocal, hwrite⟩ :=
      hexec i pc held writes locks write next rfl running statement free
    refine ⟨⟨hexclusive, ?_, h.refl, ?_⟩, h.refl⟩
    · -- the writes so far stay within the locks
      refine h.kept.set fun pc' held' writes' ht => ?_
      obtain ⟨rfl, rfl, rfl⟩ := Txn.running.inj ht
      exact (h.kept i pc held writes running).concat hconfined hlocal
    · -- the write keeps the relation of the rows it sees
      refine h.related.set fun pc' held' writes' ht k => ?_
      obtain ⟨rfl, rfl, rfl⟩ := Txn.running.inj ht
      rw [view_concat]
      exact htrans _ _ _ (h.view running k) (hwrite k)
  | @commit i pc held writes result running _ =>
    have hrows := h.related i pc held writes running
    refine ⟨⟨hexclusive, ?_, fun k => hright _ _ (hrows k), ?_⟩, hrows⟩
    · exact h.kept.set (by simp)
    · intro j pc' held' writes' hj k
      have hkept : Kept get lock held' writes' :=
        (h.kept.set (i := i) (t := .committed result) (by simp)) j pc' held' writes' hj
      by_cases hk : lock k ∈ held'
      · -- the row is held, so neither it nor what is made of it has changed
        have hstore := hheld k j (by rw [hj]; exact hk)
        have hjold : c.txn j = .running pc' held' writes' := by
          have hj' : (c.set i (.committed result)).txn j = .running pc' held' writes' := hj
          rw [c.txn_set] at hj'
          split at hj'
          · exact absurd hj' (by simp)
          · exact hj'
        have hview := hkept.get_view_congr hstore
        rw [hview, hstore]
        exact h.view hjold k
      · -- a row that is not held is seen as it is committed
        rw [hkept.get_view hk]
        exact hright _ _ (hrows k)
  | fail _ _ => exact ⟨⟨hexclusive, h.kept.set (by simp), h.refl, h.related.set (by simp)⟩, h.refl⟩
  | kill _ => exact ⟨⟨hexclusive, h.kept.set (by simp), h.refl, h.related.set (by simp)⟩, h.refl⟩

end RowLocks

end ReadCommitted
