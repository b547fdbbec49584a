/-
Dicts that remember the order in which their keys were set.

A dict is the list of its items, oldest key first.  `modify` is what a `defaultdict`
does when an item is updated: the key is set at the end when it is not there yet, and
keeps its place otherwise.  As with tables, a proof looks at `get?` only.

* `OrderedDict.get?_modify`, `OrderedDict.get?_pop` — what the two writes do to every
  look-up.
-/
import Mathlib.Data.List.Basic

/-- A `dict` with keys `κ` and values `ρ`, in insertion order. -/
abbrev OrderedDict (κ ρ : Type*) := List (κ × ρ)

namespace OrderedDict

variable {κ ρ : Type*} [DecidableEq κ]

/-- `d.get(key)`. -/
def get? : OrderedDict κ ρ → κ → Option ρ
  | [], _ => none
  | (k', v) :: rest, k => if k' = k then some v else get? rest k

/-- The item under a key becomes `f` of what it was; a new key goes to the end. -/
def modify : OrderedDict κ ρ → κ → (Option ρ → ρ) → OrderedDict κ ρ
  | [], k, f => [(k, f none)]
  | (k', v) :: rest, k, f =>
    if k' = k then (k', f (some v)) :: rest else (k', v) :: modify rest k f

/-- `d.pop(key, …)`, without what it returns. -/
def pop (d : OrderedDict κ ρ) (k : κ) : OrderedDict κ ρ := d.filter fun item => item.1 ≠ k

theorem get?_modify (d : OrderedDict κ ρ) (k k' : κ) (f : Option ρ → ρ) :
    (d.modify k f).get? k' = if k' = k then some (f (d.get? k)) else d.get? k' := by
  induction d with
  | nil =>
    show (if k = k' then some (f none) else none) = if k' = k then some (f none) else none
    by_cases h : k = k'
    · rw [if_pos h, if_pos h.symm]
    · rw [if_neg h, if_neg (Ne.symm h)]
  | cons item d ih =>
    obtain ⟨k₀, v⟩ := item
    rw [modify]
    by_cases h₀ : k₀ = k
    · subst h₀
      rw [if_pos rfl, get?, get?, get?, if_pos rfl]
      by_cases h : k₀ = k'
      · rw [if_pos h, if_pos h.symm]
      · rw [if_neg h, if_neg (Ne.symm h), if_neg h]
    · rw [if_neg h₀, get?, get?, get?, if_neg h₀, ih]
      by_cases h : k₀ = k'
      · rw [if_pos h, if_neg (fun hk => h₀ (h.trans hk)), if_pos h]
      · rw [if_neg h, if_neg h]

/-- The same for a `defaultdict`. -/
theorem getD_modify (d : OrderedDict κ ρ) (k k' : κ) (f : Option ρ → ρ) (default : ρ) :
    ((d.modify k f).get? k').getD default
      = if k' = k then f (d.get? k') else (d.get? k').getD default := by
  rw [get?_modify]
  by_cases h : k' = k
  · rw [if_pos h, if_pos h, h]
    rfl
  · rw [if_neg h, if_neg h]

theorem get?_pop (d : OrderedDict κ ρ) (k k' : κ) :
    (d.pop k).get? k' = if k' = k then none else d.get? k' := by
  induction d with
  | nil => split <;> rfl
  | cons item d ih =>
    obtain ⟨k₀, v⟩ := item
    rw [pop, List.filter_cons]
    by_cases h₀ : k₀ = k
    · rw [if_neg (by simpa using h₀)]
      rw [pop] at ih
      rw [ih, get?, h₀]
      by_cases h : k' = k
      · rw [if_pos h, if_pos h]
      · rw [if_neg h, if_neg h, if_neg (Ne.symm h)]
    · rw [if_pos (by simpa using h₀), get?, get?]
      rw [pop] at ih
      rw [ih]
      by_cases h : k₀ = k'
      · rw [if_pos h, if_neg (fun hk => h₀ (h.trans hk)), if_pos h]
      · rw [if_neg h, if_neg h]

end OrderedDict
