/-
Tables with a primary key.

A `Table κ ρ` holds at most one row for each key, by construction: it is
Mathlib's `AList`, an association list that carries the proof that no key
repeats.  `insert` is `INSERT … ON CONFLICT (key) DO UPDATE` of the whole row,
`modify` is `UPDATE … WHERE key = k`.  Both are described through `lookup`, so
that a proof never looks at the list.

* `Table.lookup_insert_eq` and `Table.lookup_modify` — what the two writes do to
  every lookup;
* `Table.countP_insert` — what a write does to a count over the rows;
* `Table.restrict` — the rows that satisfy a predicate, as a table.
-/
import Mathlib.Data.List.AList

/-- A table with primary key `κ` and rows `ρ`. -/
abbrev Table (κ ρ : Type) := AList fun _ : κ => ρ

namespace Table

variable {κ ρ : Type} [DecidableEq κ]

theorem lookup_insert_eq (t : Table κ ρ) (k k' : κ) (row : ρ) :
    AList.lookup k' (AList.insert k row t) = if k' = k then some row else AList.lookup k' t := by
  by_cases h : k' = k
  · subst h
    rw [if_pos rfl, AList.lookup_insert]
  · rw [if_neg h, AList.lookup_insert_ne h]

/-- `UPDATE … SET … WHERE key = k`. -/
def modify (t : Table κ ρ) (k : κ) (f : ρ → ρ) : Table κ ρ :=
  match AList.lookup k t with
  | none => t
  | some row => AList.insert k (f row) t

theorem lookup_modify (t : Table κ ρ) (k k' : κ) (f : ρ → ρ) :
    AList.lookup k' (modify t k f)
      = if k' = k then (AList.lookup k t).map f else AList.lookup k' t := by
  unfold modify
  cases h : AList.lookup k t with
  | none =>
    by_cases hk : k' = k
    · rw [if_pos hk, hk, h]; rfl
    · rw [if_neg hk]
  | some row => rw [lookup_insert_eq]; rfl

/-- The rows of a table with their keys, as a `SELECT` without `WHERE` returns
them. -/
def rows (t : Table κ ρ) : List (κ × ρ) := t.entries.map fun e => (e.1, e.2)

theorem mem_rows {t : Table κ ρ} {k : κ} {row : ρ} :
    (k, row) ∈ rows t ↔ AList.lookup k t = some row := by
  rw [← Option.mem_def, AList.mem_lookup_iff, rows, List.mem_map]
  constructor
  · rintro ⟨⟨k', row'⟩, h, he⟩
    simp only [Prod.mk.injEq] at he
    obtain ⟨rfl, rfl⟩ := he
    exact h
  · exact fun h => ⟨⟨k, row⟩, h, rfl⟩

omit [DecidableEq κ] in
theorem keys_nodup (t : Table κ ρ) : ((rows t).map Prod.fst).Nodup := by
  have h := AList.keys_nodup t
  rw [AList.keys, List.keys] at h
  rw [rows, List.map_map]
  exact h

/-- A row under a new key comes before the others. -/
theorem rows_insert_of_lookup_eq_none {t : Table κ ρ} {k : κ} (row : ρ)
    (h : AList.lookup k t = none) : rows (AList.insert k row t) = (k, row) :: rows t := by
  rw [rows, AList.entries_insert, List.map_cons, List.kerase_of_notMem_keys, rows]
  exact fun hk => AList.lookup_eq_none.mp h (AList.mem_keys.mp hk)

/-- A write changes a count by the row it writes less the row it replaces. -/
theorem countP_insert (t : Table κ ρ) (k : κ) (row : ρ) (q : κ × ρ → Bool) :
    (rows (AList.insert k row t)).countP q + ((AList.lookup k t).any fun old => q (k, old)).toNat
      = (rows t).countP q + (q (k, row)).toNat := by
  have hcons : ∀ (a : κ × ρ) (l : List (κ × ρ)),
      (a :: l).countP q = l.countP q + (q a).toNat := by
    intro a l
    rw [List.countP_cons]
    cases q a <;> rfl
  have hrows : rows (AList.insert k row t)
      = (k, row) :: (List.kerase k t.entries).map fun e => (e.1, e.2) := by
    rw [rows, AList.entries_insert]
    rfl
  rw [hrows, hcons]
  by_cases hk : k ∈ t
  · obtain ⟨old, l₁, l₂, hnot, hentries, hrest⟩ := List.exists_of_kerase (AList.mem_keys.mp hk)
    have hold : AList.lookup k t = some old := by
      rw [← mem_rows, rows, hentries, List.map_append, List.mem_append]
      exact Or.inr (List.mem_map.mpr ⟨⟨k, old⟩, List.mem_cons_self, rfl⟩)
    rw [hold, Option.any_some, hrest, rows, hentries, List.map_append, List.map_append,
      List.map_cons, List.countP_append, List.countP_append, hcons (k, old)]
    omega
  · rw [AList.lookup_eq_none.mpr hk, Option.any_none, List.kerase_of_notMem_keys (fun h => hk
      (AList.mem_keys.mpr h))]
    rfl

/-! ### Restriction -/

/-- The rows that satisfy a predicate. -/
def restrict (t : Table κ ρ) (p : κ → ρ → Bool) : Table κ ρ where
  entries := t.entries.filter fun e => p e.1 e.2
  nodupKeys := t.nodupKeys.sublist List.filter_sublist

variable {t : Table κ ρ} {p : κ → ρ → Bool}

omit [DecidableEq κ] in
theorem rows_restrict : rows (restrict t p) = (rows t).filter fun r => p r.1 r.2 := by
  rw [rows, rows, restrict, List.filter_map]
  rfl

theorem lookup_restrict (k : κ) :
    AList.lookup k (restrict t p) = (AList.lookup k t).filter (p k) := by
  refine Option.ext fun row => ?_
  rw [← mem_rows, rows_restrict, List.mem_filter, mem_rows, Option.filter_eq_some_iff]

omit [DecidableEq κ] in
/-- A filter that keeps only rows of the restriction does not see the others. -/
theorem filter_rows_restrict {q : κ × ρ → Bool} (h : ∀ k row, q (k, row) = true → p k row = true) :
    (rows (restrict t p)).filter q = (rows t).filter q := by
  rw [rows_restrict, List.filter_filter]
  refine List.filter_congr fun r _ => ?_
  cases hq : q r with
  | false => rfl
  | true => exact h r.1 r.2 hq

omit [DecidableEq κ] in
theorem countP_rows_restrict {q : κ × ρ → Bool} (h : ∀ k row, q (k, row) = true → p k row = true) :
    (rows (restrict t p)).countP q = (rows t).countP q := by
  rw [List.countP_eq_length_filter, List.countP_eq_length_filter, filter_rows_restrict h]

omit [DecidableEq κ] in
theorem find?_rows_restrict {q : κ × ρ → Bool} (h : ∀ k row, q (k, row) = true → p k row = true) :
    (rows (restrict t p)).find? q = (rows t).find? q := by
  rw [← List.head?_filter, ← List.head?_filter, filter_rows_restrict h]

omit [DecidableEq κ] in
/-- The same for a join: what is outside the restriction gives nothing. -/
theorem filterMap_rows_restrict {β : Type} {f : κ × ρ → Option β}
    (h : ∀ k row, p k row = false → f (k, row) = none) :
    (rows (restrict t p)).filterMap f = (rows t).filterMap f := by
  rw [rows_restrict, List.filterMap_filter]
  refine List.filterMap_congr fun r _ => ?_
  cases hp : p r.1 r.2 with
  | false => exact (h r.1 r.2 hp).symm
  | true => rfl

/-- The row of a key, erased before or after the others are filtered. -/
theorem filter_kerase (k : κ) (q : (Sigma fun _ : κ => ρ) → Bool)
    {l : List (Sigma fun _ : κ => ρ)} (hl : l.NodupKeys) :
    (l.kerase k).filter q = (l.filter q).kerase k := by
  induction l with
  | nil => rfl
  | cons e l ih =>
    obtain ⟨hnot, hrest⟩ := List.nodupKeys_cons.mp hl
    by_cases hk : k = e.1
    · rw [List.kerase_cons_eq hk]
      have hgone : k ∉ (l.filter q).keys := by
        intro hmem
        rw [hk] at hmem
        exact hnot ((List.filter_sublist.map _).subset hmem)
      cases hq : q e with
      | true => rw [List.filter_cons_of_pos hq, List.kerase_cons_eq hk]
      | false =>
        rw [List.filter_cons_of_neg (by simp [hq]), List.kerase_of_notMem_keys hgone]
    · rw [List.kerase_cons_ne hk]
      cases hq : q e with
      | true =>
        rw [List.filter_cons_of_pos hq, List.filter_cons_of_pos hq, List.kerase_cons_ne hk,
          ih hrest]
      | false =>
        rw [List.filter_cons_of_neg (by simp [hq]), List.filter_cons_of_neg (by simp [hq]),
          ih hrest]

/-- A write goes to the restriction if its row does; the row it replaces is of the same kind. -/
theorem restrict_insert {k : κ} {v : ρ}
    (hold : ∀ old, AList.lookup k t = some old → p k old = p k v) :
    restrict (AList.insert k v t) p
      = if p k v then AList.insert k v (restrict t p) else restrict t p := by
  refine AList.ext ?_
  have hentries : (restrict (AList.insert k v t) p).entries
      = (⟨k, v⟩ :: t.entries.kerase k).filter fun e => p e.1 e.2 := rfl
  have hrest : (t.entries.kerase k).filter (fun e => p e.1 e.2)
      = (restrict t p).entries.kerase k := filter_kerase k _ t.nodupKeys
  rw [hentries, List.filter_cons, hrest]
  dsimp only
  cases hp : p k v with
  | true => rfl
  | false =>
    -- the replaced row, if there is one, is outside as well
    refine List.kerase_of_notMem_keys fun hk => ?_
    obtain ⟨e, he, rfl⟩ := List.mem_map.mp hk
    obtain ⟨hmem, hq⟩ := List.mem_filter.mp he
    have hlookup := hold e.2 (AList.mem_lookup_iff.mpr hmem)
    rw [hp] at hlookup
    exact absurd (hlookup.symm.trans hq) (by simp)

/-- An update that keeps a row inside or outside the restriction. -/
theorem restrict_modify {k : κ} {f : ρ → ρ}
    (hf : ∀ row, AList.lookup k t = some row → p k (f row) = p k row) :
    restrict (modify t k f) p = modify (restrict t p) k f := by
  unfold modify
  rw [lookup_restrict]
  cases hrow : AList.lookup k t with
  | none => rfl
  | some row =>
    have hinsert := restrict_insert (t := t) (p := p) (k := k) (v := f row) (fun old hold => by
      rw [hrow] at hold
      rw [← Option.some.inj hold, hf row hrow])
    dsimp only
    rw [hinsert, hf row hrow, Option.filter_some]
    cases p k row <;> rfl

end Table
