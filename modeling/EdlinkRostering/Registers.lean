/-
Registers that keep the greatest write.

A write names a register by its key and carries a stamp.  It takes the register when
its stamp is not at or below the stamp that stands there, so a write that is repeated
changes nothing and an earlier stamp that comes late is lost.

* `Registers.le_held` — what stands is at or above every write of its key;
* `Registers.held_append_seen` — writes that were seen before do not matter;
* `Registers.held_eq_getLast?` — where the stamps of a key rise, its last write stands.
-/
import Mathlib.Order.Lattice
import Mathlib.Data.List.Induction

namespace Registers

variable {α κ τ : Type*} [DecidableEq κ] [LinearOrder τ] (key : α → κ) (stamp : α → τ)

/-- The register `k` after one more write. -/
def offer (k : κ) (standing : Option α) (write : α) : Option α :=
  if key write = k ∧ standing.any (fun held => stamp write ≤ stamp held) = false then some write
  else standing

/-- The register `k` after the writes. -/
def held (k : κ) (writes : List α) : Option α := writes.foldl (offer key stamp k) none

variable {key stamp} {k : κ} {writes : List α} {w : α}

@[simp] theorem held_nil : held key stamp k [] = none := rfl

theorem held_append (writes writes' : List α) : held key stamp k (writes ++ writes')
    = writes'.foldl (offer key stamp k) (held key stamp k writes) :=
  List.foldl_append

theorem held_concat (writes : List α) (w : α) : held key stamp k (writes ++ [w])
    = offer key stamp k (held key stamp k writes) w :=
  held_append writes [w]

/-- What stands is a write of the key. -/
theorem mem_of_held (h : held key stamp k writes = some w) : w ∈ writes ∧ key w = k := by
  induction writes using List.reverseRecOn with
  | nil => exact absurd h (by simp)
  | append_singleton writes v ih =>
    rw [held_concat, offer] at h
    split at h
    · next hv =>
      obtain rfl := Option.some.inj h
      exact ⟨List.mem_append_right _ List.mem_cons_self, hv.1⟩
    · obtain ⟨hmem, hkey⟩ := ih h
      exact ⟨List.mem_append_left _ hmem, hkey⟩

variable (key stamp) in
/-- **What stands is at or above every write of its key.** -/
theorem le_held (hw : w ∈ writes) :
    ∃ h, held key stamp (key w) writes = some h ∧ stamp w ≤ stamp h := by
  induction writes using List.reverseRecOn with
  | nil => exact absurd hw List.not_mem_nil
  | append_singleton writes v ih =>
    rw [held_concat, offer]
    by_cases hlow : (held key stamp (key w) writes).any (fun h => stamp v ≤ stamp h) = true
    · -- the last write is lost
      rw [if_neg fun h => by rw [hlow] at h; exact absurd h.2 (by simp)]
      rcases List.mem_append.mp hw with hw | hw
      · exact ih hw
      · obtain rfl := List.mem_singleton.mp hw
        obtain ⟨h, hh, hle⟩ := (Option.any_eq_true _ _).mp hlow
        exact ⟨h, hh, by simpa using hle⟩
    · rw [Bool.not_eq_true] at hlow
      by_cases hkey : key v = key w
      · rw [if_pos ⟨hkey, hlow⟩]
        refine ⟨v, rfl, ?_⟩
        rcases List.mem_append.mp hw with hw | hw
        · obtain ⟨h, hh, hle⟩ := ih hw
          rw [hh] at hlow
          have hlt : ¬ stamp v ≤ stamp h := by simpa using hlow
          exact le_trans hle (le_of_lt (not_le.mp hlt))
        · obtain rfl := List.mem_singleton.mp hw
          exact le_refl _
      · rw [if_neg fun h => hkey h.1]
        rcases List.mem_append.mp hw with hw | hw
        · exact ih hw
        · exact absurd (List.mem_singleton.mp hw ▸ rfl) hkey

/-- A write that was seen changes nothing. -/
theorem offer_of_mem (hw : w ∈ writes) :
    offer key stamp k (held key stamp k writes) w = held key stamp k writes := by
  rw [offer, if_neg]
  rintro ⟨rfl, hlow⟩
  obtain ⟨h, hh, hle⟩ := le_held key stamp hw
  rw [hh] at hlow
  exact absurd hlow (by simpa using hle)

/-- **Repeated writes do not matter.** -/
theorem held_append_seen {old : List α} (hold : ∀ w ∈ old, w ∈ writes) (new : List α) :
    held key stamp k (writes ++ (old ++ new)) = held key stamp k (writes ++ new) := by
  have hseen : old.foldl (offer key stamp k) (held key stamp k writes)
      = held key stamp k writes := by
    clear new
    induction old with
    | nil => rfl
    | cons w old ih =>
      rw [List.foldl_cons, offer_of_mem (hold w List.mem_cons_self)]
      exact ih fun v hv => hold v (List.mem_cons_of_mem _ hv)
  rw [held_append, held_append, List.foldl_append, hseen]

/-- **Where the stamps of a key rise, its last write stands.** -/
theorem held_eq_getLast?
    (hrise : (writes.filter fun w => key w = k).Pairwise fun v w => stamp v < stamp w) :
    held key stamp k writes = (writes.filter fun w => key w = k).getLast? := by
  induction writes using List.reverseRecOn with
  | nil => rfl
  | append_singleton writes v ih =>
    rw [List.filter_append, List.pairwise_append] at hrise
    rw [held_concat, List.filter_append, offer]
    by_cases hkey : key v = k
    · have hlow : (held key stamp k writes).any (fun h => stamp v ≤ stamp h) = false := by
        rw [ih hrise.1]
        cases hlast : (writes.filter fun w => key w = k).getLast? with
        | none => rfl
        | some w =>
          have hlt := hrise.2.2 w (List.mem_of_getLast? hlast) v (by simp [hkey])
          simpa using hlt
      rw [if_pos ⟨hkey, hlow⟩]
      simp [hkey]
    · rw [if_neg fun h => hkey h.1, ih hrise.1]
      simp [hkey]

end Registers
