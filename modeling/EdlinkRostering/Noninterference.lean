/-
Noninterference: a part of a system that only its own operations move.

A projection `π` reads a part of the state.  An operation that is `mine` steps the part as
it steps the whole, and every other one leaves the part where it is.  Then the part of a
run is the run of the part, with the operations of the others left out, however the two
were interleaved.

* `run_project` — a run;
* `foldlM_project` — a loop that can raise, all of whose turns step the part.
-/
import EdlinkRostering.Runs

namespace Noninterference

variable {σ τ ω : Type*}

/-- The part of a run is the run of the part. -/
theorem run_project {step : σ → ω → σ} {step' : τ → ω → τ} {I : σ → Prop} {π : σ → τ}
    {mine : ω → Bool} (hinv : ∀ s op, I s → I (step s op))
    (hmine : ∀ s op, I s → mine op = true → π (step s op) = step' (π s) op)
    (hothers : ∀ s op, I s → mine op = false → π (step s op) = π s) {s : σ} (hs : I s)
    (ops : List ω) : π (Runs.run step s ops) = Runs.run step' (π s) (ops.filter mine) := by
  induction ops generalizing s with
  | nil => rfl
  | cons op ops ih =>
    rw [Runs.run_cons, ih (hinv s op hs)]
    cases hop : mine op with
    | true => rw [List.filter_cons_of_pos hop, Runs.run_cons, hmine s op hs hop]
    | false => rw [List.filter_cons_of_neg (by simp [hop]), hothers s op hs hop]

/-- A loop whose body steps the part goes through the loop of the part. -/
theorem foldlM_project {α : Type*} {f : σ → α → Option σ} {g : τ → α → Option τ} {I : σ → Prop}
    {π : σ → τ} {l : List α} (hinv : ∀ a ∈ l, ∀ s s', I s → f s a = some s' → I s')
    (hstep : ∀ a ∈ l, ∀ s, I s → (f s a).map π = g (π s) a) {s : σ} (hs : I s) :
    (l.foldlM f s).map π = l.foldlM g (π s) := by
  induction l generalizing s with
  | nil => rfl
  | cons a l ih =>
    have hhead := hstep a List.mem_cons_self s hs
    rw [List.foldlM_cons, List.foldlM_cons, ← hhead]
    cases hfa : f s a with
    | none => rfl
    | some s₁ =>
      exact ih (fun b hb => hinv b (List.mem_cons_of_mem _ hb))
        (fun b hb => hstep b (List.mem_cons_of_mem _ hb)) (hinv a List.mem_cons_self s s₁ hs hfa)

end Noninterference
