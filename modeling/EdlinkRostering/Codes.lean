/-
Unambiguous codes.

A code `enc : α → List χ` can be read from the left when a text that starts with
`enc a` starts with no other code word, and the rest is then determined too.
Concatenation keeps the property, and so does a list with a terminator that no code
word starts with.  A list of records can also be read from the right, when each record
ends in a field of fixed length that determines the rest of the record.

* `Codes.Readable.flatMap` — a terminated list of code words;
* `Codes.eq_of_flatMap_eq` — records that end in a fixed field.
-/
import Mathlib.Data.List.Induction

namespace Codes

variable {α β χ : Type*}

/-- A text that starts with a code word determines the word and the rest. -/
def Readable (enc : α → List χ) : Prop :=
  ∀ a b s t, enc a ++ s = enc b ++ t → a = b ∧ s = t

/-- No code word starts with `x`, and none is empty. -/
def Avoids (enc : α → List χ) (x : χ) : Prop := ∀ a, ∃ y w, enc a = y :: w ∧ y ≠ x

/-- A list of code words and a terminator that none of them starts with. -/
theorem Readable.flatMap {enc : α → List χ} {x : χ} (h : Readable enc) (hx : Avoids enc x) :
    Readable fun l : List α => l.flatMap enc ++ [x] := by
  intro l
  induction l with
  | nil =>
    intro l' s t heq
    cases l' with
    | nil => exact ⟨rfl, (List.cons.inj heq).2⟩
    | cons b l' =>
      obtain ⟨y, w, hy, hne⟩ := hx b
      simp only [List.flatMap_nil, List.flatMap_cons, hy, List.nil_append, List.cons_append] at heq
      exact absurd (List.cons.inj heq).1.symm hne
  | cons a l ih =>
    intro l' s t heq
    cases l' with
    | nil =>
      obtain ⟨y, w, hy, hne⟩ := hx a
      simp only [List.flatMap_nil, List.flatMap_cons, hy, List.nil_append, List.cons_append] at heq
      exact absurd (List.cons.inj heq).1 hne
    | cons b l' =>
      simp only [List.flatMap_cons, List.append_assoc] at heq
      obtain ⟨rfl, hrest⟩ := h a b _ _ heq
      have hrest' : (l.flatMap enc ++ [x]) ++ s = (l'.flatMap enc ++ [x]) ++ t := by
        simpa only [List.append_assoc] using hrest
      obtain ⟨rfl, hst⟩ := ih l' s t hrest'
      exact ⟨rfl, hst⟩

/-- **Reading records from the right.**  Every record ends in a field of length `n`, and
no two records of the lists agree on it.  Then equal concatenations are of equal lists. -/
theorem eq_of_flatMap_eq {enc : α → List χ} {tail : α → List χ} {n : ℕ} (hn : 0 < n)
    (hlen : ∀ a, (tail a).length = n) (hsuffix : ∀ a, tail a <:+ enc a) :
    ∀ {l l' : List α}, (∀ a ∈ l, ∀ b ∈ l', tail a = tail b → a = b) →
      l.flatMap enc = l'.flatMap enc → l = l' := by
  -- a record is never empty
  have hne : ∀ a, enc a ≠ [] := by
    intro a hnil
    have hle := (hsuffix a).length_le
    rw [hlen a, hnil, List.length_nil] at hle
    omega
  intro l
  induction l using List.reverseRecOn with
  | nil =>
    intro l' _ h
    cases l' with
    | nil => rfl
    | cons b l' =>
      rw [List.flatMap_nil, List.flatMap_cons] at h
      exact absurd (List.append_eq_nil_iff.mp h.symm).1 (hne b)
  | append_singleton l a ih =>
    intro l' hinj h
    induction l' using List.reverseRecOn with
    | nil =>
      rw [List.flatMap_append, List.flatMap_singleton, List.flatMap_nil] at h
      exact absurd (List.append_eq_nil_iff.mp h).2 (hne a)
    | append_singleton l' b _ =>
      simp only [List.flatMap_append, List.flatMap_singleton] at h
      -- the fields at the end are the same, so the records are
      have htail : tail a = tail b := by
        have ha : tail a <:+ l.flatMap enc ++ enc a := (hsuffix a).trans (List.suffix_append _ _)
        have hb : tail b <:+ l.flatMap enc ++ enc a := by
          rw [h]
          exact (hsuffix b).trans (List.suffix_append _ _)
        have hlen' : (tail a).length = (tail b).length := by rw [hlen a, hlen b]
        exact (List.suffix_of_suffix_length_le ha hb (Nat.le_of_eq hlen')).eq_of_length hlen'
      obtain rfl := hinj a (by simp) b (by simp) htail
      have hrest := ih (fun x hx y hy => hinj x (by simp [hx]) y (by simp [hy]))
        (List.append_cancel_right h)
      rw [hrest]

end Codes
