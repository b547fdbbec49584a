/-
Keyset pagination over a listing that changes.

Between two requests of a walk the listing may be another one.  The pages together are still
in strict order of the key, no key that all of the listings have is passed over, and every
row is one that the listing of its own request has.

* `Keyset.walkAlong` — a walk whose requests see one state after another;
* `Keyset.walkAlong_complete` — what its pages hold.
-/
import EdlinkRostering.Keyset

namespace Keyset

section

variable {σ κ ρ : Type*} (newer : κ → κ → Prop) [DecidableRel newer] (key : ρ → κ)

/-- Follow the cursors.  The first requests see the states of a list, one each; the state
after them is seen by `fuel` more. -/
def walkAlong (fetch : σ → Option κ → List ρ × Option κ) (last : σ) (fuel : Nat) :
    List σ → Option κ → Option (List (List ρ))
  | [], cursor => walk (fetch last) fuel cursor
  | s :: states, cursor =>
    match fetch s cursor with
    | (page, none) => some [page]
    | (page, some next) => (walkAlong fetch last fuel states (some next)).map (page :: ·)

/-- What the rows of a walk are, where its requests saw `listings`. -/
structure Walked (listings : List (List ρ)) (cursor : Option κ) (rows : List ρ) : Prop where
  strict : rows.Pairwise fun a b => newer (key a) (key b)
  /-- No key that all of the listings have is passed over. -/
  found : ∀ k, (∀ l ∈ listings, ∃ row ∈ l, key row = k) → (∀ c ∈ cursor, newer c k) →
    ∃ row ∈ rows, key row = k
  /-- Every row is one of a listing that was seen. -/
  seen : ∀ row ∈ rows, ∃ l ∈ listings, row ∈ remaining newer key l cursor

end

variable {σ κ ρ : Type*} {newer : κ → κ → Prop} [DecidableRel newer] {key : ρ → κ}

/-- A row comes after a cursor by its key. -/
theorem mem_remaining_iff {l : List ρ} {cursor : Option κ} {row : ρ} :
    row ∈ remaining newer key l cursor ↔ row ∈ l ∧ ∀ c ∈ cursor, newer c (key row) := by
  cases cursor with
  | none => simp [remaining]
  | some c => simp [remaining]

theorem remaining_sublist (l : List ρ) (cursor : Option κ) :
    (remaining newer key l cursor).Sublist l := by
  cases cursor with
  | none => exact List.Sublist.refl l
  | some c => exact List.filter_sublist

variable [IsTrans κ newer]

/-- What comes after a cursor is the end of a strict listing. -/
theorem exists_append_remaining {l : List ρ} (cursor : Option κ)
    (hstrict : l.Pairwise fun a b => newer (key a) (key b)) :
    ∃ seen, l = seen ++ remaining newer key l cursor := by
  cases cursor with
  | none => exact ⟨[], rfl⟩
  | some c =>
    induction l with
    | nil => exact ⟨[], rfl⟩
    | cons a l ih =>
      obtain ⟨ha, hl⟩ := List.pairwise_cons.mp hstrict
      by_cases hc : newer c (key a)
      · -- everything behind `a` comes after the cursor as well
        have hall : (a :: l).filter (fun row => newer c (key row)) = a :: l := by
          rw [List.filter_eq_self]
          intro b hb
          rcases List.mem_cons.mp hb with rfl | hb
          · exact decide_eq_true hc
          · exact decide_eq_true (IsTrans.trans _ _ _ hc (ha b hb))
        exact ⟨[], by rw [remaining, hall, List.nil_append]⟩
      · obtain ⟨seen, hseen⟩ := ih hl
        refine ⟨a :: seen, ?_⟩
        rw [remaining, List.filter_cons_of_neg (by simpa using hc), List.cons_append]
        exact congrArg (a :: ·) hseen

variable [Std.Irrefl newer]

/-- What comes after the last row of a page is what the page leaves. -/
theorem remaining_of_page {l front back : List ρ} {cursor : Option κ} {row : ρ}
    (hstrict : l.Pairwise fun a b => newer (key a) (key b))
    (h : remaining newer key l cursor = front ++ row :: back) :
    remaining newer key l (some (key row)) = back := by
  obtain ⟨seen, hseen⟩ := exists_append_remaining cursor hstrict
  rw [h, ← List.append_assoc] at hseen
  rw [hseen] at hstrict ⊢
  exact remaining_of_split hstrict

/-- A walk of one listing from a cursor on. -/
theorem walk_from {l : List ρ} {limit fuel : Nat} {fetch : Option κ → List ρ × Option κ}
    (hfetch : ∀ cursor, fetch cursor
      = ((remaining newer key l cursor).take limit,
          nextCursor key limit ((remaining newer key l cursor).take limit)))
    (hstrict : l.Pairwise fun a b => newer (key a) (key b)) (hlimit : 1 ≤ limit)
    (cursor : Option κ) (hfuel : (remaining newer key l cursor).length / limit < fuel) :
    ∃ pages, walk fetch fuel cursor = some pages
      ∧ pages.flatten = remaining newer key l cursor := by
  obtain ⟨seen, hseen⟩ := exists_append_remaining cursor hstrict
  obtain ⟨pages, hwalk, hflatten, -⟩ :=
    walk_of_remaining hfetch hstrict hlimit fuel cursor seen _ rfl hseen hfuel
  exact ⟨pages, hwalk, hflatten⟩

omit [IsTrans κ newer] [Std.Irrefl newer] in
/-- The walk of one listing. -/
theorem walked_singleton {l : List ρ} (hstrict : l.Pairwise fun a b => newer (key a) (key b))
    (cursor : Option κ) : Walked newer key [l] cursor (remaining newer key l cursor) where
  strict := hstrict.sublist (remaining_sublist l cursor)
  found k hk hnewer := by
    obtain ⟨row, hrow, rfl⟩ := hk l (List.mem_singleton_self l)
    exact ⟨row, mem_remaining_iff.mpr ⟨hrow, hnewer⟩, rfl⟩
  seen row hrow := ⟨l, List.mem_singleton_self l, hrow⟩

/-- A full page, and the walk from its last row on. -/
theorem Walked.page {l front back : List ρ} {listings : List (List ρ)} {cursor : Option κ}
    {row : ρ} {rows : List ρ} (hstrict : l.Pairwise fun a b => newer (key a) (key b))
    (hsplit : remaining newer key l cursor = front ++ row :: back)
    (h : Walked newer key listings (some (key row)) rows) :
    Walked newer key (l :: listings) cursor (front ++ [row] ++ rows) := by
  have hpage : (front ++ [row]).Sublist (remaining newer key l cursor) := by
    rw [hsplit, List.append_cons front row back]
    exact List.sublist_append_left _ back
  have hafter : ∀ c ∈ cursor, newer c (key row) := by
    have hrow : row ∈ remaining newer key l cursor := hpage.subset (by simp)
    exact (mem_remaining_iff.mp hrow).2
  refine ⟨?_, ?_, ?_⟩
  · rw [List.pairwise_append]
    have hordered := (hstrict.sublist (remaining_sublist l cursor)).sublist hpage
    refine ⟨hordered, h.strict, ?_⟩
    intro a ha b hb
    -- the later rows come after the last one of the page
    obtain ⟨l', -, hb⟩ := h.seen b hb
    have hb : newer (key row) (key b) := (mem_remaining_iff.mp hb).2 _ rfl
    rcases List.mem_append.mp ha with ha | ha
    · exact IsTrans.trans _ _ _
        ((List.pairwise_append.mp hordered).2.2 a ha row List.mem_cons_self) hb
    · rwa [List.mem_singleton.mp ha]
  · intro k hk hnewer
    obtain ⟨x, hx, rfl⟩ := hk l List.mem_cons_self
    have hremains := mem_remaining_iff.mpr ⟨hx, hnewer⟩
    rw [hsplit, List.append_cons] at hremains
    rcases List.mem_append.mp hremains with hx | hx
    · exact ⟨x, List.mem_append_left _ hx, rfl⟩
    · -- the page leaves it; its key is in the listings that follow, and the walk finds it there
      rw [← remaining_of_page hstrict hsplit] at hx
      have hlater := (mem_remaining_iff.mp hx).2
      obtain ⟨y, hy, hkey⟩ := h.found (key x)
        (fun l' hl' => hk l' (List.mem_cons_of_mem _ hl')) hlater
      exact ⟨y, List.mem_append_right _ hy, hkey⟩
  · intro x hx
    rcases List.mem_append.mp hx with hx | hx
    · exact ⟨l, List.mem_cons_self, hpage.subset hx⟩
    · obtain ⟨l', hl', hx⟩ := h.seen x hx
      obtain ⟨hmem, hnewer⟩ := mem_remaining_iff.mp hx
      refine ⟨l', List.mem_cons_of_mem _ hl', mem_remaining_iff.mpr ⟨hmem, ?_⟩⟩
      intro c hc
      exact IsTrans.trans _ _ _ (hafter c hc) (hnewer _ rfl)

variable {listing : σ → List ρ} {limit : Nat} {fetch : σ → Option κ → List ρ × Option κ} {last : σ}

/-- **A walk along a listing that changes.**  It ends once the listing stays, it is in strict
order, it passes over no key that was there all along, and it shows only rows that were
there. -/
theorem walkAlong_complete
    (hfetch : ∀ s cursor, fetch s cursor
      = ((remaining newer key (listing s) cursor).take limit,
          nextCursor key limit ((remaining newer key (listing s) cursor).take limit)))
    (hlimit : 1 ≤ limit) {fuel : Nat} (hfuel : (listing last).length / limit < fuel)
    (states : List σ) (cursor : Option κ)
    (hstrict : ∀ s ∈ states ++ [last], (listing s).Pairwise fun a b => newer (key a) (key b)) :
    ∃ pages, walkAlong fetch last fuel states cursor = some pages
      ∧ Walked newer key ((states ++ [last]).map listing) cursor pages.flatten := by
  induction states generalizing cursor with
  | nil =>
    have hshort : (remaining newer key (listing last) cursor).length / limit < fuel :=
      (Nat.div_le_div_right (remaining_sublist _ cursor).length_le).trans_lt hfuel
    have hlast := hstrict last List.mem_cons_self
    obtain ⟨pages, hwalk, hflatten⟩ := walk_from (hfetch last) hlast hlimit cursor hshort
    refine ⟨pages, hwalk, ?_⟩
    rw [hflatten]
    exact walked_singleton hlast cursor
  | cons s states ih =>
    have hhere := hstrict s List.mem_cons_self
    rw [walkAlong, hfetch s cursor]
    by_cases hshort : (remaining newer key (listing s) cursor).length < limit
    · -- the page is not full, and the walk is over
      have hpage : (remaining newer key (listing s) cursor).take limit
          = remaining newer key (listing s) cursor := List.take_of_length_le (by omega)
      rw [hpage, nextCursor, if_pos hshort]
      refine ⟨[remaining newer key (listing s) cursor], rfl, ?_⟩
      have hone := walked_singleton hhere cursor
      rw [List.flatten_singleton]
      refine ⟨hone.strict, fun k hk => hone.found k ?_, ?_⟩
      · intro l hl
        rw [List.mem_singleton.mp hl]
        exact hk (listing s) List.mem_cons_self
      · intro row hrow
        exact ⟨listing s, List.mem_cons_self, hrow⟩
    · -- a full page: its last row is the cursor of the rest
      obtain ⟨front, row, hpage, hsplit, hnext⟩ := full_page key hlimit hshort
      obtain ⟨pages, hwalk, hwalked⟩ := ih (some (key row))
        (fun s' hs' => hstrict s' (List.mem_cons_of_mem _ hs'))
      rw [hnext, hpage]
      refine ⟨(front ++ [row]) :: pages, by simp [hwalk], ?_⟩
      rw [List.flatten_cons]
      exact hwalked.page hhere hsplit

end Keyset
