/-
Runs of a step function: total and guarded, or partial.

A system whose operations run to completion one after another is a function
`step : σ → ω → σ`; a run is a list of operations.  A guard says which operations
are considered in which state.  A loop whose body can raise is a partial step
function `f : σ → α → Option σ` folded over a list.

* `Runs.Guarded.invariant` — what every guarded operation preserves holds after
  every guarded run;
* `Runs.holds_throughout_iff` — what holds all along a run when every step does it well;
* `Runs.Passed` — the states a run has passed through, in their order;
* `Runs.run_simulates` — two step functions that keep a relation keep it along a run;
* `Runs.foldlM_isSome_iff` — a loop completes if no turn raises;
* `Runs.foldlM_simulates` — two loops whose bodies keep a relation keep it;
* `Runs.foldlM_invariant` — what the body of a loop preserves holds after it;
* `Runs.foldlM_establishes` — what one turn establishes and the others keep does
  too;
* `Runs.Turns.invariant` — the invariant rule for a loop that meets a condition at every
  turn.
-/
import Mathlib.Data.List.Basic

namespace Runs

variable {σ ω : Type*} (step : σ → ω → σ) (guard : σ → ω → Prop)

/-- The state after the operations, run in order. -/
def run (s : σ) (ops : List ω) : σ := ops.foldl step s

/-- Every operation meets the guard in the state it finds. -/
def Guarded : σ → List ω → Prop
  | _, [] => True
  | s, op :: ops => guard s op ∧ Guarded (step s op) ops

instance Guarded.decidable [∀ s op, Decidable (guard s op)] :
    ∀ (s : σ) (ops : List ω), Decidable (Guarded step guard s ops)
  | _, [] => .isTrue trivial
  | s, op :: ops => @instDecidableAnd _ _ _ (Guarded.decidable (step s op) ops)

variable {step guard}

@[simp] theorem run_nil (s : σ) : run step s [] = s := rfl

@[simp] theorem run_cons (s : σ) (op : ω) (ops : List ω) :
    run step s (op :: ops) = run step (step s op) ops := rfl

theorem run_append (s : σ) (ops ops' : List ω) :
    run step s (ops ++ ops') = run step (run step s ops) ops' :=
  List.foldl_append

theorem Guarded.append {s : σ} {ops ops' : List ω} :
    Guarded step guard s (ops ++ ops') ↔
      Guarded step guard s ops ∧ Guarded step guard (run step s ops) ops' := by
  induction ops generalizing s with
  | nil => simp [Guarded]
  | cons op ops ih => simp [Guarded, ih, and_assoc]

/-- A guard that does not look at the state. -/
theorem Guarded.of_forall {guard : ω → Prop} {s : σ} {ops : List ω} (h : ∀ op ∈ ops, guard op) :
    Guarded step (fun _ => guard) s ops := by
  induction ops generalizing s with
  | nil => exact trivial
  | cons op ops ih =>
    exact ⟨h op List.mem_cons_self, ih fun op' h' => h op' (List.mem_cons_of_mem _ h')⟩

/-- The invariant rule: it holds initially and every guarded operation keeps it. -/
theorem Guarded.invariant {I : σ → Prop} (hstep : ∀ s op, I s → guard s op → I (step s op))
    {s : σ} {ops : List ω} (hs : I s) (h : Guarded step guard s ops) : I (run step s ops) := by
  induction ops generalizing s with
  | nil => exact hs
  | cons op ops ih => exact ih (hstep s op hs h.1) h.2

/-- The same for an invariant that every operation keeps. -/
theorem run_invariant {I : σ → Prop} (hstep : ∀ s op, I s → I (step s op)) {s : σ} (hs : I s)
    (ops : List ω) : I (run step s ops) := by
  induction ops generalizing s with
  | nil => exact hs
  | cons op ops ih => exact ih (hstep s op hs)

/-- A property that a step keeps exactly when it meets a guard holds all along a run
exactly when every step of the run meets that guard. -/
theorem holds_throughout_iff {I P : σ → Prop} {guard' : σ → ω → Prop}
    (hinv : ∀ s op, I s → guard s op → I (step s op))
    (hstep : ∀ s op, I s → guard s op → P s → (P (step s op) ↔ guard' s op)) {s : σ}
    {ops : List ω} (hI : I s) (hP : P s) (h : Guarded step guard s ops) :
    (∀ before, before <+: ops → P (run step s before)) ↔ Guarded step guard' s ops := by
  induction ops generalizing s with
  | nil =>
    refine ⟨fun _ => trivial, fun _ before hbefore => ?_⟩
    rw [List.prefix_nil.mp hbefore]
    exact hP
  | cons op ops ih =>
    have hhead := hstep s op hI h.1 hP
    constructor
    · intro hall
      have hnext : P (step s op) := hall [op] ⟨ops, rfl⟩
      refine ⟨hhead.mp hnext, (ih (hinv s op hI h.1) hnext h.2).mp fun before hbefore => ?_⟩
      exact hall (op :: before) (List.cons_prefix_cons.mpr ⟨rfl, hbefore⟩)
    · rintro ⟨hop, hrest⟩ before hbefore
      cases before with
      | nil => exact hP
      | cons op' before =>
        obtain ⟨rfl, hprefix⟩ := List.cons_prefix_cons.mp hbefore
        exact (ih (hinv s op' hI h.1) (hhead.mpr hop) h.2).mpr hrest before hprefix

/-- Two step functions that keep a relation, on the same operations. -/
theorem run_simulates {τ : Type*} {R : σ → τ → Prop} {step' : τ → ω → τ} {ops : List ω}
    (hstep : ∀ op ∈ ops, ∀ s t, R s t → R (step s op) (step' t op)) {s : σ} {t : τ} (hR : R s t) :
    R (run step s ops) (run step' t ops) := by
  induction ops generalizing s t with
  | nil => exact hR
  | cons op ops ih =>
    exact ih (fun op' h => hstep op' (List.mem_cons_of_mem _ h))
      (hstep op List.mem_cons_self s t hR)

/-- The run has passed through states with these properties, the latest first. -/
def Passed (step : σ → ω → σ) (s : σ) : List (σ → Prop) → List ω → Prop
  | [], _ => True
  | P :: Ps, ops => ∃ before, before <+: ops ∧ P (run step s before) ∧ Passed step s Ps before

/-- What a run has passed through it has passed through later. -/
theorem Passed.mono {s : σ} {Ps : List (σ → Prop)} {ops ops' : List ω}
    (h : Passed step s Ps ops) (hextends : ops <+: ops') : Passed step s Ps ops' := by
  cases Ps with
  | nil => exact trivial
  | cons P Ps =>
    obtain ⟨before, hbefore, hP, hrest⟩ := h
    exact ⟨before, hbefore.trans hextends, hP, hrest⟩

/-- The run is in a state with the property now. -/
theorem Passed.now {s : σ} {P : σ → Prop} {Ps : List (σ → Prop)} {ops : List ω}
    (h : Passed step s Ps ops) (hP : P (run step s ops)) : Passed step s (P :: Ps) ops :=
  ⟨ops, List.prefix_refl ops, hP, h⟩

/-! ### Loops that can raise -/

section

variable {α : Type*} {f : σ → α → Option σ}

theorem foldlM_cons_eq_some {a : α} {l : List α} {s s' : σ} :
    (a :: l).foldlM f s = some s' ↔ ∃ s₁, f s a = some s₁ ∧ l.foldlM f s₁ = some s' := by
  rw [List.foldlM_cons, Option.bind_eq_bind, Option.bind_eq_some_iff]

theorem foldlM_append_eq_some {l l' : List α} {s s' : σ} :
    (l ++ l').foldlM f s = some s' ↔ ∃ s₁, l.foldlM f s = some s₁ ∧ l'.foldlM f s₁ = some s' := by
  rw [List.foldlM_append, Option.bind_eq_bind, Option.bind_eq_some_iff]

/-- A loop completes if no turn it gets to raises. -/
theorem foldlM_isSome_iff {l : List α} {s : σ} :
    (l.foldlM f s).isSome = true ↔ ∀ before a after s₁, l = before ++ a :: after →
      before.foldlM f s = some s₁ → (f s₁ a).isSome = true := by
  induction l generalizing s with
  | nil => simp
  | cons b l ih =>
    constructor
    · intro h before a after s₁ hsplit hbefore
      obtain ⟨s', hs'⟩ := Option.isSome_iff_exists.mp h
      rw [hsplit] at hs'
      obtain ⟨s₂, h₂, hrest⟩ := foldlM_append_eq_some.mp hs'
      obtain rfl : s₂ = s₁ := Option.some.inj (h₂.symm.trans hbefore)
      obtain ⟨s₃, h₃, -⟩ := foldlM_cons_eq_some.mp hrest
      rw [h₃]
      rfl
    · intro h
      obtain ⟨s₁, h₁⟩ := Option.isSome_iff_exists.mp (h [] b l s rfl rfl)
      have hrest : (l.foldlM f s₁).isSome = true := ih.mpr fun before a after s₂ hsplit hbefore =>
        h (b :: before) a after s₂ (by rw [hsplit, List.cons_append])
          (foldlM_cons_eq_some.mpr ⟨s₁, h₁, hbefore⟩)
      rw [List.foldlM_cons, h₁]
      exact hrest

/-- Two loops whose bodies keep a relation. -/
theorem foldlM_simulates {τ : Type*} {R : σ → τ → Prop} {g : τ → α → Option τ} {l : List α}
    (hstep : ∀ a ∈ l, ∀ s t s', R s t → f s a = some s' → ∃ t', g t a = some t' ∧ R s' t')
    {s s' : σ} {t : τ} (hR : R s t) (h : l.foldlM f s = some s') :
    ∃ t', l.foldlM g t = some t' ∧ R s' t' := by
  induction l generalizing s t with
  | nil =>
    obtain rfl : s = s' := Option.some.inj h
    exact ⟨t, rfl, hR⟩
  | cons a l ih =>
    obtain ⟨s₁, h₁, h₂⟩ := foldlM_cons_eq_some.mp h
    obtain ⟨t₁, ht₁, hR₁⟩ := hstep a List.mem_cons_self s t s₁ hR h₁
    obtain ⟨t', ht', hR'⟩ := ih (fun b hb => hstep b (List.mem_cons_of_mem _ hb)) hR₁ h₂
    exact ⟨t', foldlM_cons_eq_some.mpr ⟨t₁, ht₁, ht'⟩, hR'⟩

/-- The invariant rule for a loop. -/
theorem foldlM_invariant {I : σ → Prop} {l : List α}
    (hstep : ∀ a ∈ l, ∀ s s', I s → f s a = some s' → I s') {s s' : σ} (hs : I s)
    (h : l.foldlM f s = some s') : I s' := by
  induction l generalizing s with
  | nil =>
    obtain rfl : s = s' := Option.some.inj h
    exact hs
  | cons a l ih =>
    obtain ⟨s₁, h₁, h₂⟩ := foldlM_cons_eq_some.mp h
    exact ih (fun b hb => hstep b (List.mem_cons_of_mem _ hb))
      (hstep a List.mem_cons_self s s₁ hs h₁) h₂

/-- A turn that leads from `I` to `J`, both kept by every turn, leaves `J` at the
end. -/
theorem foldlM_establishes {I J : σ → Prop} {l : List α} {a : α} (ha : a ∈ l)
    (hI : ∀ b ∈ l, ∀ s s', I s → f s b = some s' → I s')
    (hJ : ∀ b ∈ l, ∀ s s', J s → f s b = some s' → J s')
    (hstep : ∀ s s', I s → f s a = some s' → J s') {s s' : σ} (hs : I s)
    (h : l.foldlM f s = some s') : J s' := by
  obtain ⟨l₁, l₂, rfl⟩ := List.append_of_mem ha
  obtain ⟨s₁, h₁, h₂⟩ := foldlM_append_eq_some.mp h
  obtain ⟨s₂, h₃, h₄⟩ := foldlM_cons_eq_some.mp h₂
  have hI₁ : I s₁ := foldlM_invariant (fun b hb => hI b (List.mem_append_left _ hb)) hs h₁
  have hJ₂ : J s₂ := hstep s₁ s₂ hI₁ h₃
  exact foldlM_invariant
    (fun b hb => hJ b (List.mem_append_right _ (List.mem_cons_of_mem _ hb))) hJ₂ h₄

/-- The loop meets the condition at every turn it gets to. -/
def Turns (f : σ → α → Option σ) (p : σ → α → Prop) : σ → List α → Prop
  | _, [] => True
  | s, a :: l => p s a ∧ ∀ s₁ ∈ f s a, Turns f p s₁ l

instance Turns.decidable {p : σ → α → Prop} [∀ s a, Decidable (p s a)] :
    ∀ (s : σ) (l : List α), Decidable (Turns f p s l)
  | _, [] => .isTrue trivial
  | s, a :: l =>
    have : DecidablePred fun s₁ => Turns f p s₁ l := fun s₁ => Turns.decidable s₁ l
    inferInstanceAs (Decidable (p s a ∧ ∀ s₁ ∈ f s a, Turns f p s₁ l))

theorem Turns.of_forall {p : σ → α → Prop} {l : List α} (h : ∀ s, ∀ a ∈ l, p s a) (s : σ) :
    Turns f p s l := by
  induction l generalizing s with
  | nil => exact trivial
  | cons a l ih =>
    exact ⟨h s a List.mem_cons_self,
      fun s₁ _ => ih (fun s b hb => h s b (List.mem_cons_of_mem _ hb)) s₁⟩

theorem Turns.invariant_from {p : σ → α → Prop} {I : List α → σ → Prop} {l : List α}
    (hstep : ∀ a ∈ l, ∀ before s s', I before s → p s a → f s a = some s' →
      I (before ++ [a]) s')
    {before : List α} {s s' : σ} (h : Turns f p s l) (hs : I before s)
    (hl : l.foldlM f s = some s') : I (before ++ l) s' := by
  induction l generalizing before s with
  | nil =>
    obtain rfl : s = s' := Option.some.inj hl
    rw [List.append_nil]
    exact hs
  | cons a l ih =>
    obtain ⟨s₁, h₁, h₂⟩ := foldlM_cons_eq_some.mp hl
    have hnext : I (before ++ [a]) s₁ := hstep a List.mem_cons_self before s s₁ hs h.1 h₁
    rw [← List.singleton_append, ← List.append_assoc]
    exact ih (fun b hb => hstep b (List.mem_cons_of_mem _ hb)) (h.2 s₁ h₁) hnext h₂

/-- The invariant may speak of the turns that were made. -/
theorem Turns.invariant {p : σ → α → Prop} {I : List α → σ → Prop} {l : List α}
    (hstep : ∀ a ∈ l, ∀ before s s', I before s → p s a → f s a = some s' →
      I (before ++ [a]) s')
    {s s' : σ} (h : Turns f p s l) (hs : I [] s) (hl : l.foldlM f s = some s') : I l s' :=
  invariant_from hstep h hs hl

end

end Runs
