/-
Keyset pagination.

A listing is a list of rows in strict order of a key.  A page is the first `limit` rows
after a cursor, and the cursor of the next page is the key of the page's last row, or
nothing when the page is not full.  `walk` follows the cursors, with a bound on the number
of requests.

* `Keyset.walk_eq_listing` — following the cursors to the end returns the whole listing,
  in `length / limit + 1` requests;
* `List.filter_insertionSort` — a filter and a stable sort commute;
* `List.take_map_filter_eq_iff` — when two filters of one listing have the same first rows.
-/
import Mathlib.Data.List.Sort
import Mathlib.Data.Nat.Basic

namespace List

variable {α : Type*} {r : α → α → Prop} [DecidableRel r] [IsTrans α r]

theorem filter_orderedInsert (p : α → Bool) (a : α) {l : List α} (hl : l.Pairwise r) :
    (l.orderedInsert r a).filter p
      = if p a then (l.filter p).orderedInsert r a else l.filter p := by
  induction l with
  | nil => cases hp : p a <;> simp [hp]
  | cons b l ih =>
    obtain ⟨hb, hl⟩ := List.pairwise_cons.mp hl
    by_cases hab : r a b
    · -- everything kept of the list comes after `a`, so `a` is inserted in front
      have hfront : ∀ c ∈ (b :: l).filter p, r a c := by
        intro c hc
        rcases List.mem_cons.mp (List.mem_of_mem_filter hc) with rfl | hc
        · exact hab
        · exact IsTrans.trans _ _ _ hab (hb c hc)
      have hinsert : ((b :: l).filter p).orderedInsert r a = a :: (b :: l).filter p := by
        cases hkept : (b :: l).filter p with
        | nil => rfl
        | cons c m => exact orderedInsert_cons_of_le r m (hfront c (by rw [hkept]; simp))
      rw [orderedInsert_cons_of_le r l hab, hinsert, List.filter_cons]
    · rw [orderedInsert_of_not_le r l hab, List.filter_cons, ih hl, List.filter_cons]
      cases hpa : p a <;> cases hpb : p b <;> simp [hab]

/-- A filter and a stable sort commute. -/
theorem filter_insertionSort [Std.Total r] (p : α → Bool) (l : List α) :
    (l.insertionSort r).filter p = (l.filter p).insertionSort r := by
  induction l with
  | nil => rfl
  | cons a l ih =>
    rw [insertionSort_cons, filter_orderedInsert p a (pairwise_insertionSort r l), ih,
      List.filter_cons]
    cases p a <;> rfl

/-- The splits of a list at one of its elements. -/
theorem forall_split_cons {α : Type*} {P : List α → α → Prop} {a : α} {l : List α} :
    (∀ front b back, a :: l = front ++ b :: back → P front b) ↔
      P [] a ∧ ∀ front b back, l = front ++ b :: back → P (a :: front) b := by
  constructor
  · intro h
    refine ⟨h [] a l rfl, fun front b back hl => h (a :: front) b back ?_⟩
    rw [hl, List.cons_append]
  · rintro ⟨hhead, htail⟩ front b back hl
    cases front with
    | nil =>
      obtain ⟨rfl, -⟩ := List.cons.inj hl
      exact hhead
    | cons c front =>
      obtain ⟨rfl, hrest⟩ := List.cons.inj hl
      exact htail front b back hrest

/-- Two filters of one list have the same first `n` values exactly when every element
they tell apart comes after `n` kept ones. -/
theorem take_map_filter_eq_iff {α β : Type*} {f : α → β} {p q : α → Bool} {l : List α}
    (hnodup : (l.map f).Nodup) (n : Nat) :
    ((l.filter p).map f).take n = ((l.filter q).map f).take n ↔
      ∀ front d back, l = front ++ d :: back → p d ≠ q d → n ≤ (front.filter q).length := by
  induction l generalizing n with
  | nil => simp
  | cons a l ih =>
    rw [List.map_cons, List.nodup_cons] at hnodup
    rw [forall_split_cons]
    by_cases hpq : p a = q a
    · -- both sides keep the row, or both pass over it
      cases hq : q a with
      | false =>
        rw [hq] at hpq
        simp only [List.filter_cons, hpq, hq, Bool.false_eq_true, if_false, ne_eq,
          not_true_eq_false, false_imp_iff, true_and]
        exact ih hnodup.2 n
      | true =>
        rw [hq] at hpq
        cases n with
        | zero => simp
        | succ n =>
          simp only [List.filter_cons, hpq, hq, if_true, List.map_cons, List.take_succ_cons,
            List.cons.injEq, true_and, ne_eq, not_true_eq_false, false_imp_iff,
            List.length_cons, Nat.add_le_add_iff_right]
          exact ih hnodup.2 n
    · -- one side begins with `a`, the other has it nowhere
      have habsent : ∀ (r : α → Bool) (m : Nat), f a ∉ ((l.filter r).map f).take m := by
        intro r m hmem
        obtain ⟨b, hb, heq⟩ := List.mem_map.mp (List.mem_of_mem_take hmem)
        exact hnodup.1 (List.mem_map.mpr ⟨b, List.mem_of_mem_filter hb, heq⟩)
      constructor
      · -- a page that is not empty would show the difference
        intro htake
        have hzero : n = 0 := by
          cases n with
          | zero => rfl
          | succ n =>
            exfalso
            cases hq : q a with
            | false =>
              have hp : p a = true := by simpa [hq] using hpq
              have hmem : f a ∈ (((a :: l).filter p).map f).take (n + 1) := by simp [hp]
              rw [htake, List.filter_cons_of_neg (by simp [hq])] at hmem
              exact habsent q _ hmem
            | true =>
              have hp : p a = false := by simpa [hq] using hpq
              have hmem : f a ∈ (((a :: l).filter q).map f).take (n + 1) := by simp [hq]
              rw [← htake, List.filter_cons_of_neg (by simp [hp])] at hmem
              exact habsent p _ hmem
        subst hzero
        exact ⟨fun _ => Nat.zero_le _, fun _ _ _ _ _ => Nat.zero_le _⟩
      · rintro ⟨hhead, -⟩
        obtain rfl : n = 0 := Nat.le_zero.mp (hhead hpq)
        rfl

end List

namespace Keyset

variable {κ ρ : Type*} (newer : κ → κ → Prop) [DecidableRel newer] (key : ρ → κ)

/-- The rows of a listing that come after a cursor. -/
def remaining (listing : List ρ) : Option κ → List ρ
  | none => listing
  | some cursor => listing.filter fun row => newer cursor (key row)

/-- The cursor after a page: the key of its last row, or nothing when it is not full. -/
def nextCursor (limit : Nat) (page : List ρ) : Option κ :=
  if page.length < limit then none else page.getLast?.map key

/-- Follow the cursors for at most `fuel` requests. -/
def walk (fetch : Option κ → List ρ × Option κ) : Nat → Option κ → Option (List (List ρ))
  | 0, _ => none
  | fuel + 1, cursor =>
    match fetch cursor with
    | (page, none) => some [page]
    | (page, some next) => (walk fetch fuel (some next)).map (page :: ·)

/-- A full page has a last row, which is its cursor. -/
theorem full_page {limit : Nat} (hlimit : 1 ≤ limit) {rest : List ρ}
    (hfull : ¬ rest.length < limit) : ∃ front last, rest.take limit = front ++ [last] ∧
      rest = front ++ last :: rest.drop limit ∧
      nextCursor key limit (rest.take limit) = some (key last) := by
  have hlength : (rest.take limit).length = limit := by
    rw [List.length_take]
    omega
  obtain ⟨front, last, hlast⟩ : ∃ front last, rest.take limit = front ++ [last] := by
    have hne : rest.take limit ≠ [] := by
      intro hnil
      rw [hnil, List.length_nil] at hlength
      omega
    exact ⟨_, _, (List.dropLast_append_getLast hne).symm⟩
  have hsplit : rest = front ++ last :: rest.drop limit := by
    have hrejoin := List.take_append_drop limit rest
    rw [hlast, List.append_assoc] at hrejoin
    exact hrejoin.symm
  refine ⟨front, last, hlast, hsplit, ?_⟩
  rw [nextCursor, if_neg (by omega), hlast]
  simp

variable {newer key} [IsTrans κ newer] [Std.Irrefl newer]

/-- What comes after a row of a strict listing is the rest of the list. -/
theorem remaining_of_split {before after : List ρ} {row : ρ}
    (hstrict : (before ++ row :: after).Pairwise fun a b => newer (key a) (key b)) :
    remaining newer key (before ++ row :: after) (some (key row)) = after := by
  obtain ⟨-, hrest, hcross⟩ := List.pairwise_append.mp hstrict
  obtain ⟨hafter, -⟩ := List.pairwise_cons.mp hrest
  have hbefore : before.filter (fun b => newer (key row) (key b)) = [] := by
    rw [List.filter_eq_nil_iff]
    intro b hb hlater
    have hearlier : newer (key b) (key row) := hcross b hb row List.mem_cons_self
    exact irrefl _ (IsTrans.trans _ _ _ hearlier (of_decide_eq_true hlater))
  have hself : ¬newer (key row) (key row) := irrefl _
  rw [remaining, List.filter_append, hbefore, List.nil_append, List.filter_cons_of_neg (by simpa),
    List.filter_eq_self]
  intro b hb
  exact decide_eq_true (hafter b hb)

variable {listing : List ρ} {limit : Nat} {fetch : Option κ → List ρ × Option κ}

/-- The walk from a cursor with `rest` still to come, by induction on the bound. -/
theorem walk_of_remaining
    (hfetch : ∀ cursor, fetch cursor
      = ((remaining newer key listing cursor).take limit,
          nextCursor key limit ((remaining newer key listing cursor).take limit)))
    (hstrict : listing.Pairwise fun a b => newer (key a) (key b)) (hlimit : 1 ≤ limit)
    (fuel : Nat) : ∀ (cursor : Option κ) (seen rest : List ρ),
      remaining newer key listing cursor = rest → listing = seen ++ rest →
        rest.length / limit < fuel →
          ∃ pages, walk fetch fuel cursor = some pages ∧ pages.flatten = rest
            ∧ pages.length = rest.length / limit + 1 := by
  induction fuel with
  | zero =>
    intro _ _ _ _ _ hfuel
    exact absurd hfuel (Nat.not_lt_zero _)
  | succ fuel ih =>
    intro cursor seen rest hrest hsplit hfuel
    rw [walk, hfetch cursor, hrest]
    by_cases hshort : rest.length < limit
    · -- the last page: it is not full
      have hpage : rest.take limit = rest := List.take_of_length_le (by omega)
      have hnext : nextCursor key limit rest = none := by rw [nextCursor, if_pos hshort]
      have hpages : rest.length / limit = 0 := Nat.div_eq_of_lt hshort
      rw [hpage, hnext]
      exact ⟨[rest], rfl, by simp, by simp [hpages]⟩
    · -- a full page: its last row splits the listing
      obtain ⟨front, last, -, hparts, hnext⟩ := full_page key hlimit hshort
      have hlisting : listing = (seen ++ front) ++ last :: rest.drop limit := by
        rw [List.append_assoc, ← hparts, hsplit]
      have hremaining : remaining newer key listing (some (key last)) = rest.drop limit := by
        rw [hlisting] at hstrict ⊢
        exact remaining_of_split hstrict
      have hlength : (rest.drop limit).length / limit + 1 = rest.length / limit := by
        rw [List.length_drop, ← Nat.div_eq_sub_div (by omega) (by omega)]
      obtain ⟨pages, hwalk, hflatten, hcount⟩ := ih (some (key last)) (seen ++ rest.take limit)
        (rest.drop limit) hremaining (by rw [hsplit]; simp) (by omega)
      rw [hnext]
      refine ⟨rest.take limit :: pages, by simp [hwalk], ?_, ?_⟩
      · rw [List.flatten_cons, hflatten, List.take_append_drop]
      · rw [List.length_cons, hcount, hlength]

/-- **Following the cursors returns the whole listing.** -/
theorem walk_eq_listing
    (hfetch : ∀ cursor, fetch cursor
      = ((remaining newer key listing cursor).take limit,
          nextCursor key limit ((remaining newer key listing cursor).take limit)))
    (hstrict : listing.Pairwise fun a b => newer (key a) (key b)) (hlimit : 1 ≤ limit)
    {fuel : Nat} (hfuel : listing.length / limit < fuel) :
    ∃ pages, walk fetch fuel none = some pages ∧ pages.flatten = listing
      ∧ pages.length = listing.length / limit + 1 :=
  walk_of_remaining hfetch hstrict hlimit fuel none [] listing rfl rfl hfuel

end Keyset
