/-
Loops that run until they stop.

The body of a `while True` turns a state into the next one, or stops with what the
loop leaves behind.  A loop need not stop, so it is run on fuel.

* `Loop.total` — the rule of total correctness: an invariant that every turn keeps,
  a measure that every turn but the last lowers;
* `Loop.holds` — the rule of partial correctness, without the measure.
-/
import Mathlib.Order.Basic

namespace Loop

/-- What one turn of the loop ends in. -/
inductive Turn (σ β : Type*) where
  | again (s : σ)
  | stop (result : β)

variable {σ β : Type*} (body : σ → Turn σ β)

/-- At most `fuel` turns from a state; `none` when the loop is still running then. -/
def run : ℕ → σ → Option β
  | 0, _ => none
  | fuel + 1, s =>
    match body s with
    | .again s' => run fuel s'
    | .stop result => some result

variable {body}

theorem run_again {s s' : σ} (h : body s = .again s') (fuel : ℕ) :
    run body (fuel + 1) s = run body fuel s' := by
  rw [run, h]

theorem run_stop {s : σ} {result : β} (h : body s = .stop result) (fuel : ℕ) :
    run body (fuel + 1) s = some result := by
  rw [run, h]

/-- The rule of total correctness.  A turn from a state of the invariant stops with a
result that is right, or goes on in a state of the invariant that is closer to the end. -/
theorem total {I : σ → Prop} {m : σ → ℕ} {Q : β → Prop}
    (hagain : ∀ s s', I s → body s = .again s' → I s' ∧ m s' < m s)
    (hstop : ∀ s result, I s → body s = .stop result → Q result) {fuel : ℕ} {s : σ} (hI : I s)
    (hfuel : m s < fuel) : ∃ result, run body fuel s = some result ∧ Q result := by
  induction fuel generalizing s with
  | zero => exact absurd hfuel (Nat.not_lt_zero _)
  | succ fuel ih =>
    cases hb : body s with
    | again s' =>
      obtain ⟨hI', hless⟩ := hagain s s' hI hb
      rw [run_again hb]
      exact ih hI' (by omega)
    | stop result => exact ⟨result, run_stop hb fuel, hstop s result hI hb⟩

/-- The rule of partial correctness: what a loop stops with is right, if it stops. -/
theorem holds {I : σ → Prop} {Q : β → Prop}
    (hagain : ∀ s s', I s → body s = .again s' → I s')
    (hstop : ∀ s result, I s → body s = .stop result → Q result) {fuel : ℕ} {s : σ} {result : β}
    (hI : I s) (h : run body fuel s = some result) : Q result := by
  induction fuel generalizing s with
  | zero => exact nomatch h
  | succ fuel ih =>
    cases hb : body s with
    | again s' =>
      rw [run_again hb] at h
      exact ih (hagain s s' hI hb) h
    | stop r =>
      rw [run_stop hb] at h
      exact Option.some.inj h ▸ hstop s r hI hb

end Loop
