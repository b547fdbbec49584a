/-
Transactions under READ COMMITTED, statement by statement.

A transaction is a program over a local state of its own.  Each statement sees what
is committed when it runs and what the transaction has written itself, and nothing
of the others.  A statement that locks rows waits while another open transaction
holds one of them.  COMMIT publishes the writes and releases the locks; an error or
a killed session drops both.

* `Config.does_step` — what one move can do;
* `Config.Exclusive.step` — no lock has two holders;
* `Config.All.step` — what every statement keeps, every open transaction meets;
* `Config.Pristine.step` — until the first commit every transaction runs as if it
  were alone, and the first to commit leaves what it would have left alone.
-/
import Mathlib.Data.Fintype.Basic
import EdlinkRostering.Runs

namespace ReadCommitted

/-- What a transaction does next, given what it sees: a statement that locks rows,
writes and leads on to `next`; COMMIT; or an error. -/
inductive Statement (σ κ π α ε : Type*) where
  | exec (locks : List κ) (write : σ → σ) (next : π)
  | commit (result : α)
  | raise (error : ε)

/-- The statement in a program with more kinds of transaction. -/
def Statement.map {σ κ π α ε π' α' ε' : Type*} (pc : π → π') (result : α → α') (error : ε → ε') :
    Statement σ κ π α ε → Statement σ κ π' α' ε'
  | .exec locks write next => .exec locks write (pc next)
  | .commit a => .commit (result a)
  | .raise e => .raise (error e)

/-- The state of one transaction. -/
inductive Txn (σ κ π α ε : Type*) where
  | running (pc : π) (held : List κ) (writes : List (σ → σ))
  | committed (result : α)
  | failed (error : ε)
  | killed

/-- The committed store and the transactions. -/
structure Config (ι σ κ π α ε : Type*) where
  store : σ
  txn : ι → Txn σ κ π α ε

/-- One transaction makes its next statement, or its session is killed. -/
inductive Move (ι : Type*) where
  | step (i : ι)
  | kill (i : ι)

/-- Of two transactions, the first makes its next statement. -/
def Move.first : Move (Fin 2) := .step 0

/-- Of two transactions, the second makes its next statement. -/
def Move.second : Move (Fin 2) := .step 1

/-- What a transaction with these writes sees of a store. -/
def view {σ : Type*} (store : σ) (writes : List (σ → σ)) : σ :=
  writes.foldl (fun s write => write s) store

@[simp] theorem view_nil {σ : Type*} (store : σ) : view store [] = store := rfl

@[simp] theorem view_concat {σ : Type*} (store : σ) (writes : List (σ → σ)) (write : σ → σ) :
    view store (writes ++ [write]) = write (view store writes) := by
  simp [view]

theorem Statement.map_eq_exec {σ κ π α ε π' α' ε' : Type*} {pc : π → π'} {result : α → α'}
    {error : ε → ε'} {t : Statement σ κ π α ε} {locks : List κ} {write : σ → σ} {next : π'} :
    t.map pc result error = .exec locks write next ↔
      ∃ n, t = .exec locks write n ∧ next = pc n := by
  cases t with
  | exec l w n => simp [Statement.map, and_assoc, eq_comm]
  | commit a => simp [Statement.map]
  | raise e => simp [Statement.map]

theorem Statement.map_eq_commit {σ κ π α ε π' α' ε' : Type*} {pc : π → π'} {result : α → α'}
    {error : ε → ε'} {t : Statement σ κ π α ε} {r : α'} :
    t.map pc result error = .commit r ↔ ∃ a, t = .commit a ∧ r = result a := by
  cases t with
  | exec l w n => simp [Statement.map]
  | commit a => simp [Statement.map, eq_comm]
  | raise e => simp [Statement.map]

/-- The locks a transaction holds. -/
def Txn.held {σ κ π α ε : Type*} : Txn σ κ π α ε → List κ
  | .running _ held _ => held
  | _ => []

variable {ι σ κ π α ε : Type*}

namespace Config

/-- Every transaction before its first statement. -/
def start (store : σ) (pc : ι → π) : Config ι σ κ π α ε where
  store := store
  txn i := .running (pc i) [] []

/-- No other transaction holds one of the locks. -/
def Free (c : Config ι σ κ π α ε) (i : ι) (locks : List κ) : Prop :=
  ∀ j, j ≠ i → ∀ k ∈ locks, k ∉ (c.txn j).held

instance [Fintype ι] [DecidableEq ι] [DecidableEq κ] (c : Config ι σ κ π α ε) (i : ι)
    (locks : List κ) : Decidable (c.Free i locks) :=
  inferInstanceAs (Decidable (∀ j, j ≠ i → ∀ k ∈ locks, k ∉ (c.txn j).held))

/-- One transaction in a new state. -/
def set [DecidableEq ι] (c : Config ι σ κ π α ε) (i : ι) (t : Txn σ κ π α ε) :
    Config ι σ κ π α ε :=
  { c with txn := Function.update c.txn i t }

section

variable [DecidableEq ι]

@[simp] theorem store_set (c : Config ι σ κ π α ε) (i : ι) (t : Txn σ κ π α ε) :
    (c.set i t).store = c.store := rfl

@[simp] theorem txn_set_self (c : Config ι σ κ π α ε) (i : ι) (t : Txn σ κ π α ε) :
    (c.set i t).txn i = t := by
  simp [set]

theorem txn_set_of_ne (c : Config ι σ κ π α ε) {i j : ι} (h : j ≠ i) (t : Txn σ κ π α ε) :
    (c.set i t).txn j = c.txn j := by
  simp [set, h]

/-- The state of a transaction after another one, or itself, has moved. -/
theorem txn_set (c : Config ι σ κ π α ε) (i j : ι) (t : Txn σ κ π α ε) :
    (c.set i t).txn j = if j = i then t else c.txn j := by
  by_cases h : j = i
  · rw [if_pos h, h, txn_set_self]
  · rw [if_neg h, txn_set_of_ne c h]

end

variable [Fintype ι] [DecidableEq ι] [DecidableEq κ]

/-- One move.  A statement that has to wait, and a move of a transaction that has
ended, changes nothing. -/
def step (program : ι → π → σ → Statement σ κ π α ε) (c : Config ι σ κ π α ε) :
    Move ι → Config ι σ κ π α ε
  | .step i =>
    match c.txn i with
    | .running pc held writes =>
      match program i pc (view c.store writes) with
      | .exec locks write next =>
        if c.Free i locks then c.set i (.running next (held ++ locks) (writes ++ [write])) else c
      | .commit result => { c.set i (.committed result) with store := view c.store writes }
      | .raise error => c.set i (.failed error)
    | _ => c
  | .kill i =>
    match c.txn i with
    | .running _ _ _ => c.set i .killed
    | _ => c

variable (program : ι → π → σ → Statement σ κ π α ε) (c : Config ι σ κ π α ε)

/-- What one move can do. -/
inductive Does : Move ι → Config ι σ κ π α ε → Prop where
  | stay {m} : Does m c
  | exec {i pc held writes locks write next} (running : c.txn i = .running pc held writes)
      (statement : program i pc (view c.store writes) = .exec locks write next)
      (free : c.Free i locks) :
      Does (.step i) (c.set i (.running next (held ++ locks) (writes ++ [write])))
  | commit {i pc held writes result} (running : c.txn i = .running pc held writes)
      (statement : program i pc (view c.store writes) = .commit result) :
      Does (.step i) { c.set i (.committed result) with store := view c.store writes }
  | fail {i pc held writes error} (running : c.txn i = .running pc held writes)
      (statement : program i pc (view c.store writes) = .raise error) :
      Does (.step i) (c.set i (.failed error))
  | kill {i pc held writes} (running : c.txn i = .running pc held writes) :
      Does (.kill i) (c.set i .killed)

theorem does_step (m : Move ι) : Does program c m (c.step program m) := by
  cases m with
  | step i =>
    simp only [step]
    split
    · next pc held writes hi =>
      split
      · next locks write next hs =>
        split
        · next hfree => exact .exec hi hs hfree
        · exact .stay
      · next result hs => exact .commit hi hs
      · next error hs => exact .fail hi hs
    · exact .stay
  | kill i =>
    simp only [step]
    split
    · next pc held writes hi => exact .kill hi
    · exact .stay

variable {program c}

/-! ### Locks -/

/-- No lock has two holders. -/
def Exclusive (c : Config ι σ κ π α ε) : Prop :=
  ∀ i j, i ≠ j → ∀ k ∈ (c.txn i).held, k ∉ (c.txn j).held

omit [Fintype ι] [DecidableEq ι] [DecidableEq κ] in
theorem exclusive_start (store : σ) (pc : ι → π) :
    (start store pc : Config ι σ κ π α ε).Exclusive :=
  fun _ _ _ _ hk => absurd hk List.not_mem_nil

omit [Fintype ι] [DecidableEq κ] in
/-- A transaction that holds nothing new keeps the locks apart. -/
theorem Exclusive.set {i : ι} {t : Txn σ κ π α ε} (h : c.Exclusive)
    (ht : ∀ k ∈ t.held, k ∈ (c.txn i).held ∨ ∀ j, j ≠ i → k ∉ (c.txn j).held) :
    (c.set i t).Exclusive := by
  intro j j' hne k hk hk'
  rw [txn_set] at hk hk'
  by_cases hj : j = i
  · rw [if_pos hj] at hk
    rw [if_neg fun hj' => hne (hj.trans hj'.symm)] at hk'
    rcases ht k hk with hold | hfree
    · exact h i j' (hj ▸ hne) k hold hk'
    · exact hfree j' (fun hj' => hne (hj.trans hj'.symm)) hk'
  · rw [if_neg hj] at hk
    by_cases hj' : j' = i
    · rw [if_pos hj'] at hk'
      rcases ht k hk' with hold | hfree
      · exact h j i hj k hk hold
      · exact hfree j hj hk
    · rw [if_neg hj'] at hk'
      exact h j j' hne k hk hk'

theorem Exclusive.step (h : c.Exclusive) (m : Move ι) : (c.step program m).Exclusive := by
  have hnil : ∀ {i : ι} {t : Txn σ κ π α ε}, t.held = [] → (c.set i t).Exclusive :=
    fun ht => h.set fun k hk => absurd (ht ▸ hk) List.not_mem_nil
  have hdoes := does_step program c m
  generalize c.step program m = c' at hdoes
  cases hdoes with
  | stay => exact h
  | exec running _ free =>
    refine h.set fun k hk => ?_
    rcases List.mem_append.mp hk with hold | hnew
    · exact Or.inl (by rw [running]; exact hold)
    · exact Or.inr fun j hj => free j hj k hnew
  | commit => exact hnil rfl
  | fail => exact hnil rfl
  | kill => exact hnil rfl

omit [Fintype ι] [DecidableEq ι] [DecidableEq κ] in
/-- Two transactions that hold one lock are the same. -/
theorem Exclusive.unique (h : c.Exclusive) {i j : ι} {k : κ} (hi : k ∈ (c.txn i).held)
    (hj : k ∈ (c.txn j).held) : i = j := by
  by_contra hne
  exact h i j hne k hi hj

/-! ### Invariants of the transactions -/

/-- Every open transaction meets a condition. -/
def All (P : ι → π → List κ → List (σ → σ) → Prop) (c : Config ι σ κ π α ε) : Prop :=
  ∀ i pc held writes, c.txn i = .running pc held writes → P i pc held writes

variable {P : ι → π → List κ → List (σ → σ) → Prop}

omit [Fintype ι] [DecidableEq ι] [DecidableEq κ] in
theorem all_start {store : σ} {pc : ι → π} (h : ∀ i, P i (pc i) [] []) :
    (start store pc : Config ι σ κ π α ε).All P := by
  intro i pc' held writes hi
  obtain ⟨rfl, rfl, rfl⟩ := Txn.running.inj hi
  exact h i

omit [Fintype ι] [DecidableEq κ] in
theorem All.set {i : ι} {t : Txn σ κ π α ε} (h : c.All P)
    (ht : ∀ pc held writes, t = .running pc held writes → P i pc held writes) :
    (c.set i t).All P := by
  intro j pc held writes hj
  rw [txn_set] at hj
  by_cases hji : j = i
  · rw [if_pos hji] at hj
    subst hji
    exact ht pc held writes hj
  · rw [if_neg hji] at hj
    exact h j pc held writes hj

/-- A condition that every statement keeps is kept by every move. -/
theorem All.step (h : c.All P) {m : Move ι}
    (hexec : ∀ i pc held writes locks write next, m = .step i →
      c.txn i = .running pc held writes → P i pc held writes →
      program i pc (view c.store writes) = .exec locks write next →
      P i next (held ++ locks) (writes ++ [write])) : (c.step program m).All P := by
  have hdoes := does_step program c m
  generalize c.step program m = c' at hdoes
  cases hdoes with
  | stay => exact h
  | exec running statement _ =>
    refine h.set fun pc' held' writes' ht => ?_
    obtain ⟨rfl, rfl, rfl⟩ := Txn.running.inj ht
    exact hexec _ _ _ _ _ _ _ rfl running (h _ _ _ _ running) statement
  | commit => exact h.set (by simp)
  | fail => exact h.set (by simp)
  | kill => exact h.set (by simp)

end Config

/-! ### Running alone -/

/-- What is left to do, given by `rest`, is the statement and then what is left. -/
def Statement.Means (resume : π → σ → Except ε (σ × α)) (s : σ) (rest : Except ε (σ × α)) :
    Statement σ κ π α ε → Prop
  | .exec _ write next => rest = resume next (write s)
  | .commit result => rest = .ok (s, result)
  | .raise error => rest = .error error

/-- `resume` says what the program would do from each point if it were alone. -/
def Denotes (program : π → σ → Statement σ κ π α ε) (resume : π → σ → Except ε (σ × α)) : Prop :=
  ∀ pc s, (program pc s).Means resume s (resume pc s)

/-- The program from a point on with nobody else, when `fuel` statements are enough. -/
def alone (program : π → σ → Statement σ κ π α ε) : Nat → π → σ → Option (Except ε (σ × α))
  | 0, _, _ => none
  | fuel + 1, pc, s =>
    match program pc s with
    | .exec _ write next => alone program fuel next (write s)
    | .commit result => some (.ok (s, result))
    | .raise error => some (.error error)

/-- A program whose statements go down a rank comes to its end. -/
theorem alone_isSome {program : π → σ → Statement σ κ π α ε} {rank : π → Nat}
    (hrank : ∀ pc s locks write next, program pc s = .exec locks write next → rank next < rank pc)
    (fuel : Nat) : ∀ pc s, rank pc < fuel → (alone program fuel pc s).isSome = true := by
  induction fuel with
  | zero =>
    intro pc s h
    exact absurd h (Nat.not_lt_zero _)
  | succ fuel ih =>
    intro pc s h
    rw [alone]
    split
    · next locks write next hs =>
      have hlt := hrank pc s locks write next hs
      exact ih next (write s) (by omega)
    · rfl
    · rfl

section

variable {program : π → σ → Statement σ κ π α ε} {resume : π → σ → Except ε (σ × α)}

theorem Denotes.exec (h : Denotes program resume) {pc : π} {s : σ} {locks : List κ}
    {write : σ → σ} {next : π} (hs : program pc s = .exec locks write next) :
    resume pc s = resume next (write s) := by
  have := h pc s
  rw [hs] at this
  exact this

theorem Denotes.commit (h : Denotes program resume) {pc : π} {s : σ} {result : α}
    (hs : program pc s = .commit result) : resume pc s = .ok (s, result) := by
  have := h pc s
  rw [hs] at this
  exact this

theorem Denotes.raise (h : Denotes program resume) {pc : π} {s : σ} {error : ε}
    (hs : program pc s = .raise error) : resume pc s = .error error := by
  have := h pc s
  rw [hs] at this
  exact this

end

namespace Config

variable [DecidableEq ι]

/-- Nothing has been committed: the store is as it was found, and every transaction
is on the way it would take alone. -/
structure Pristine (resume : ι → π → σ → Except ε (σ × α)) (pc₀ : ι → π) (s₀ : σ)
    (c : Config ι σ κ π α ε) : Prop where
  store : c.store = s₀
  running : c.All fun i pc _ writes => resume i pc (view s₀ writes) = resume i (pc₀ i) s₀
  failed : ∀ i error, c.txn i = .failed error → resume i (pc₀ i) s₀ = .error error
  uncommitted : ∀ i result, c.txn i ≠ .committed result

variable {resume : ι → π → σ → Except ε (σ × α)} {pc₀ : ι → π} {s₀ : σ}
  {program : ι → π → σ → Statement σ κ π α ε} {c : Config ι σ κ π α ε}

omit [DecidableEq ι] in
theorem pristine_start : (start s₀ pc₀ : Config ι σ κ π α ε).Pristine resume pc₀ s₀ where
  store := rfl
  running := all_start fun _ => rfl
  failed _ _ h := absurd h (by simp [start])
  uncommitted _ _ h := absurd h (by simp [start])

/-- A transaction that has not committed goes on. -/
theorem Pristine.set {i : ι} {t : Txn σ κ π α ε} (h : c.Pristine resume pc₀ s₀)
    (hrunning : ∀ pc held writes, t = .running pc held writes →
      resume i pc (view s₀ writes) = resume i (pc₀ i) s₀)
    (hfailed : ∀ error, t = .failed error → resume i (pc₀ i) s₀ = .error error)
    (hcommitted : ∀ result, t ≠ .committed result) : (c.set i t).Pristine resume pc₀ s₀ where
  store := h.store
  running := h.running.set hrunning
  failed j error hj := by
    rw [txn_set] at hj
    by_cases hji : j = i
    · rw [if_pos hji] at hj
      exact hji ▸ hfailed error hj
    · rw [if_neg hji] at hj
      exact h.failed j error hj
  uncommitted j result hj := by
    rw [txn_set] at hj
    by_cases hji : j = i
    · rw [if_pos hji] at hj
      exact hcommitted result hj
    · rw [if_neg hji] at hj
      exact h.uncommitted j result hj

/-- One move while nothing is committed: still nothing is, or a transaction has
ended as it would have alone. -/
theorem Pristine.step [Fintype ι] [DecidableEq κ] (hd : ∀ i, Denotes (program i) (resume i))
    (h : c.Pristine resume pc₀ s₀) (m : Move ι) :
    (c.step program m).Pristine resume pc₀ s₀ ∨
      ∃ i pc held writes result, c.txn i = .running pc held writes ∧
        program i pc (view c.store writes) = .commit result ∧
        resume i (pc₀ i) s₀ = .ok (view c.store writes, result) ∧
        c.step program m
          = { c.set i (.committed result) with store := view c.store writes } := by
  have hdoes := does_step program c m
  generalize c.step program m = c' at hdoes
  cases hdoes with
  | stay => exact Or.inl h
  | @exec i pc held writes locks write next running statement _ =>
    refine Or.inl (h.set (fun pc' held' writes' ht => ?_) (by simp) (by simp))
    obtain ⟨rfl, rfl, rfl⟩ := Txn.running.inj ht
    rw [h.store] at statement
    rw [view_concat, ← (hd i).exec statement]
    exact h.running i pc held writes running
  | @commit i pc held writes result running statement =>
    refine Or.inr ⟨i, pc, held, writes, result, running, statement, ?_, rfl⟩
    rw [← h.running i pc held writes running, ← h.store]
    exact (hd i).commit statement
  | @fail i pc held writes error running statement =>
    refine Or.inl (h.set (by simp) (fun error' ht => ?_) (by simp))
    obtain rfl := Txn.failed.inj ht
    rw [← h.running i pc held writes running, ← h.store]
    exact (hd i).raise statement
  | kill => exact Or.inl (h.set (by simp) (by simp) (by simp))

end Config

end ReadCommitted
