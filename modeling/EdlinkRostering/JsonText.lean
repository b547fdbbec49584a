/-
The text `json.dumps` writes.

`dumps` is `json.dumps(value, separators=(",", ":"), sort_keys=True)` with the
default `ensure_ascii`: every character outside the printable ASCII range is written
as one or two `\u` escapes.  A value is read back from the front of the text only
where the reconciliation needs it, against a text or a null.

* `readable_escape` — the escaped characters are an unambiguous code;
* `dumps_str_append` and `dumps_null_append` — what starts like a text or a null is
  one.
-/
import EdlinkRostering.Json
import EdlinkRostering.Codes
import Mathlib.Data.List.Sort
import Mathlib.Data.String.Basic

namespace Json

/-! ### Escapes -/

/-- `'{0:04x}'.format(n)`, for a UTF-16 code unit. -/
def hex4 (n : Nat) : List Char :=
  [Nat.digitChar (n / 4096 % 16), Nat.digitChar (n / 256 % 16), Nat.digitChar (n / 16 % 16),
    Nat.digitChar (n % 16)]

/-- `\uXXXX`. -/
def escapeUnit (n : Nat) : List Char := '\\' :: 'u' :: hex4 n

/-- The two-character escapes of `ESCAPE_DCT`. -/
def shortEscape (c : Char) : Option Char :=
  if c = '"' then some '"'
  else if c = '\\' then some '\\'
  else if c = '\n' then some 'n'
  else if c = '\r' then some 'r'
  else if c = '\t' then some 't'
  else if c = '\x0c' then some 'f'
  else if c = '\x08' then some 'b'
  else none

/-- One character of `py_encode_basestring_ascii`. -/
def escape (c : Char) : List Char :=
  match shortEscape c with
  | some letter => ['\\', letter]
  | none =>
    if 32 ≤ c.toNat ∧ c.toNat ≤ 126 then [c]
    else if c.toNat < 65536 then escapeUnit c.toNat
    -- a surrogate pair
    else escapeUnit (55296 + (c.toNat - 65536) / 1024) ++
      escapeUnit (56320 + (c.toNat - 65536) % 1024)

/-- A quoted string. -/
def quote (s : String) : List Char := '"' :: (s.toList.flatMap escape ++ ['"'])

/-! ### The writer -/

/-- The text of a float: `repr`, but for the three values JSON has no number for. -/
def floatText (repr : String) : String :=
  if repr = "nan" then "NaN"
  else if repr = "inf" then "Infinity"
  else if repr = "-inf" then "-Infinity"
  else repr

/-- `sort_keys`. -/
def sortKeys {α : Type} (fields : List (String × α)) : List (String × α) :=
  fields.insertionSort fun a b => a.1 ≤ b.1

mutual

/-- `json.dumps`, as a list of characters. -/
def dumps : Json → List Char
  | .null => "null".toList
  | .bool b => if b then "true".toList else "false".toList
  | .int n => (toString n).toList
  | .float r => (floatText r).toList
  | .str s => quote s
  | .arr elems => '[' :: (List.intercalate [','] (dumpsList elems) ++ [']'])
  | .obj fields => '\x7b' ::
      (List.intercalate [','] ((sortKeys (dumpsFields fields)).map Prod.snd) ++ ['\x7d'])

def dumpsList : List Json → List (List Char)
  | [] => []
  | v :: vs => dumps v :: dumpsList vs

/-- The fields with their keys, before they are sorted. -/
def dumpsFields : List (String × Json) → List (String × List Char)
  | [] => []
  | (k, v) :: rest => (k, quote k ++ ':' :: dumps v) :: dumpsFields rest

end

/-- A float is carried by what `repr` prints: a sign or a digit comes first, or it is one
of the values without digits. -/
def printed : Json → Bool
  | .float r => r = "nan" || r = "inf" || (r.toList.head?.any fun c => c = '-' || c.isDigit)
  | _ => true

/-! ### The escapes are unambiguous -/

theorem digitChar_injective (a b : Nat) (ha : a < 16) (hb : b < 16)
    (h : Nat.digitChar a = Nat.digitChar b) : a = b := by
  have key : ∀ a < 16, ∀ b < 16, Nat.digitChar a = Nat.digitChar b → a = b := by decide
  exact key a ha b hb h

theorem hex4_injective {m n : Nat} (hm : m < 65536) (hn : n < 65536) (h : hex4 m = hex4 n) :
    m = n := by
  simp only [hex4, List.cons.injEq, and_true] at h
  obtain ⟨h₃, h₂, h₁, h₀⟩ := h
  have h₃ := digitChar_injective _ _ (Nat.mod_lt _ (by omega)) (Nat.mod_lt _ (by omega)) h₃
  have h₂ := digitChar_injective _ _ (Nat.mod_lt _ (by omega)) (Nat.mod_lt _ (by omega)) h₂
  have h₁ := digitChar_injective _ _ (Nat.mod_lt _ (by omega)) (Nat.mod_lt _ (by omega)) h₁
  have h₀ := digitChar_injective _ _ (Nat.mod_lt _ (by omega)) (Nat.mod_lt _ (by omega)) h₀
  omega

theorem escapeUnit_append {m n : Nat} (hm : m < 65536) (hn : n < 65536) {s t : List Char}
    (h : escapeUnit m ++ s = escapeUnit n ++ t) : m = n ∧ s = t := by
  obtain ⟨hunit, hst⟩ := List.append_inj h rfl
  simp only [escapeUnit, List.cons.injEq, true_and] at hunit
  exact ⟨hex4_injective hm hn hunit, hst⟩

/-- The three forms of an escaped character. -/
inductive Escaped : Char → List Char → Prop
  | plain (c : Char) (h : c ≠ '\\') (hq : c ≠ '"') : Escaped c [c]
  | short (c letter : Char) (h : shortEscape c = some letter) : Escaped c ['\\', letter]
  | unit (c : Char) (h : c.toNat < 65536) : Escaped c (escapeUnit c.toNat)
  | pair (c : Char) (h : 65536 ≤ c.toNat) :
    Escaped c (escapeUnit (55296 + (c.toNat - 65536) / 1024) ++
      escapeUnit (56320 + (c.toNat - 65536) % 1024))

theorem escaped_escape (c : Char) : Escaped c (escape c) := by
  cases hs : shortEscape c with
  | some letter =>
    rw [escape, hs]
    exact .short c letter hs
  | none =>
    simp only [escape, hs]
    split
    · refine .plain c ?_ ?_
      · rintro rfl
        exact absurd hs (by decide)
      · rintro rfl
        exact absurd hs (by decide)
    · split
      · next h => exact .unit c h
      · next h => exact .pair c (by omega)

/-- A letter of `ESCAPE_DCT` stands for one character, and is not `u`. -/
theorem shortEscape_eq_some {c d letter : Char} (hc : shortEscape c = some letter) :
    letter ≠ 'u' ∧ (shortEscape d = some letter → c = d) := by
  have hcases : ∀ {e : Char}, shortEscape e = some letter →
      (e = '"' ∧ letter = '"') ∨ (e = '\\' ∧ letter = '\\') ∨ (e = '\n' ∧ letter = 'n') ∨
      (e = '\r' ∧ letter = 'r') ∨ (e = '\t' ∧ letter = 't') ∨ (e = '\x0c' ∧ letter = 'f') ∨
      (e = '\x08' ∧ letter = 'b') := by
    intro e he
    unfold shortEscape at he
    split at he
    · next h => exact Or.inl ⟨h, (Option.some.inj he).symm⟩
    split at he
    · next h => exact Or.inr (Or.inl ⟨h, (Option.some.inj he).symm⟩)
    split at he
    · next h => exact Or.inr (Or.inr (Or.inl ⟨h, (Option.some.inj he).symm⟩))
    split at he
    · next h => exact Or.inr (Or.inr (Or.inr (Or.inl ⟨h, (Option.some.inj he).symm⟩)))
    split at he
    · next h => exact Or.inr (Or.inr (Or.inr (Or.inr (Or.inl ⟨h, (Option.some.inj he).symm⟩))))
    split at he
    · next h =>
      exact Or.inr (Or.inr (Or.inr (Or.inr (Or.inr (Or.inl ⟨h, (Option.some.inj he).symm⟩)))))
    split at he
    · next h =>
      exact Or.inr (Or.inr (Or.inr (Or.inr (Or.inr (Or.inr ⟨h, (Option.some.inj he).symm⟩)))))
    · exact absurd he (by simp)
  refine ⟨?_, fun hd => ?_⟩
  · rcases hcases hc with ⟨-, rfl⟩ | ⟨-, rfl⟩ | ⟨-, rfl⟩ | ⟨-, rfl⟩ | ⟨-, rfl⟩ | ⟨-, rfl⟩ | ⟨-, rfl⟩
      <;> decide
  · rcases hcases hc with ⟨rfl, rfl⟩ | ⟨rfl, rfl⟩ | ⟨rfl, rfl⟩ | ⟨rfl, rfl⟩ | ⟨rfl, rfl⟩ |
      ⟨rfl, rfl⟩ | ⟨rfl, rfl⟩ <;>
    rcases hcases hd with ⟨rfl, h⟩ | ⟨rfl, h⟩ | ⟨rfl, h⟩ | ⟨rfl, h⟩ | ⟨rfl, h⟩ | ⟨rfl, h⟩ |
      ⟨rfl, h⟩ <;> first | rfl | exact absurd h (by decide)

/-- The code point of a character in the basic plane is not half of a surrogate pair. -/
theorem toNat_not_surrogate (c : Char) : c.toNat < 55296 ∨ 57344 ≤ c.toNat := by
  have hvalid := c.valid
  have hnat : c.toNat = c.val.toNat := rfl
  rcases hvalid with h | h
  · exact Or.inl h
  · exact Or.inr (by omega)

/-- No character lies beyond plane 16. -/
theorem toNat_lt (c : Char) : c.toNat < 1114112 := by
  have hvalid := c.valid
  have hnat : c.toNat = c.val.toNat := rfl
  rcases hvalid with h | h <;> omega

/-- **An escaped character is read back from the front of a text.** -/
theorem readable_escape : Codes.Readable escape := by
  intro a b s t h
  have ha := escaped_escape a
  have hb := escaped_escape b
  generalize escape a = u at h ha
  generalize escape b = v at h hb
  -- the second character of a short escape is never `u`
  have hshort : ∀ {c letter : Char} {n : Nat} {s t : List Char}, shortEscape c = some letter →
      letter :: s = 'u' :: (hex4 n ++ t) → False := by
    intro c letter n s t hc heq
    exact (shortEscape_eq_some (d := c) hc).1 (List.cons.inj heq).1
  cases ha with
  | plain ha _ =>
    cases hb with
    | plain _ _ => exact ⟨(List.cons.inj h).1, (List.cons.inj h).2⟩
    | short letter _ => exact absurd (List.cons.inj h).1 ha
    | unit _ => exact absurd (List.cons.inj h).1 ha
    | pair _ => exact absurd (List.cons.inj h).1 ha
  | short letter hla =>
    cases hb with
    | plain hb _ => exact absurd (List.cons.inj h).1.symm hb
    | short letter' hlb =>
      obtain ⟨rfl, hst⟩ := List.cons.inj (List.cons.inj h).2
      exact ⟨(shortEscape_eq_some hla).2 hlb, hst⟩
    | unit _ => exact (hshort hla (List.cons.inj h).2).elim
    | pair _ => exact (hshort hla (by simpa [escapeUnit] using (List.cons.inj h).2)).elim
  | unit hua =>
    cases hb with
    | plain hb _ => exact absurd (List.cons.inj h).1.symm hb
    | short letter hlb => exact (hshort hlb (List.cons.inj h).2.symm).elim
    | unit hub =>
      obtain ⟨hn, hst⟩ := escapeUnit_append hua hub h
      exact ⟨Char.toNat_inj.mp hn, hst⟩
    | pair hpb =>
      rw [List.append_assoc] at h
      have hlt := toNat_lt b
      have hn := (escapeUnit_append hua (by omega) h).1
      have hs := toNat_not_surrogate a
      omega
  | pair hpa =>
    rw [List.append_assoc] at h
    have hla := toNat_lt a
    cases hb with
    | plain hb _ => exact absurd (List.cons.inj h).1.symm hb
    | short letter hlb =>
      exact (hshort hlb (by simpa [escapeUnit] using (List.cons.inj h).2.symm)).elim
    | unit hub =>
      have hn := (escapeUnit_append (by omega) hub h).1
      have hs := toNat_not_surrogate b
      omega
    | pair hpb =>
      rw [List.append_assoc] at h
      have hlb := toNat_lt b
      obtain ⟨hhigh, hrest⟩ := escapeUnit_append (by omega) (by omega) h
      obtain ⟨hlow, hst⟩ := escapeUnit_append (by omega) (by omega) hrest
      exact ⟨Char.toNat_inj.mp (by omega), hst⟩

/-- The closing quote is told from the characters before it. -/
theorem avoids_escape : Codes.Avoids escape '"' := by
  intro c
  have hc := escaped_escape c
  generalize escape c = u at hc
  cases hc with
  | plain _ hq => exact ⟨c, [], rfl, hq⟩
  | short letter _ => exact ⟨'\\', [letter], rfl, by decide⟩
  | unit _ => exact ⟨'\\', _, rfl, by decide⟩
  | pair _ => exact ⟨'\\', _, rfl, by decide⟩

theorem readable_quote : Codes.Readable quote := by
  intro a b s t h
  obtain ⟨hab, hst⟩ := readable_escape.flatMap avoids_escape a.toList b.toList s t
    (List.cons.inj h).2
  exact ⟨String.toList_inj.mp hab, hst⟩

/-! ### The first character of a value -/

/-- The number texts start with a sign or a digit. -/
theorem head_int (n : Int) : ∃ y w, (toString n).toList = y :: w ∧ (y = '-' ∨ y.isDigit) := by
  have hnat : ∀ m : Nat, ∃ y w, m.repr.toList = y :: w ∧ y.isDigit := by
    intro m
    have hdigits : m.repr.toList = Nat.toDigits 10 m := Nat.toList_repr
    cases hm : Nat.toDigits 10 m with
    | nil => exact absurd hm Nat.toDigits_ne_nil
    | cons y w =>
      refine ⟨y, w, by rw [hdigits, hm], ?_⟩
      exact Nat.isDigit_of_mem_toDigits (by decide) (by decide) (hm ▸ List.mem_cons_self)
  rw [Int.toString_eq_repr, Int.repr_eq_if]
  split
  · obtain ⟨y, w, hy, hd⟩ := hnat n.toNat
    exact ⟨y, w, hy, Or.inr hd⟩
  · exact ⟨'-', (-n).toNat.repr.toList, by rw [String.toList_append]; rfl, Or.inl rfl⟩

theorem head_float {r : String} (h : printed (.float r)) :
    ∃ y w, (floatText r).toList = y :: w ∧ (y = 'N' ∨ y = 'I' ∨ y = '-' ∨ y.isDigit) := by
  rw [floatText]
  split
  · exact ⟨_, _, rfl, Or.inl rfl⟩
  split
  · exact ⟨_, _, rfl, Or.inr (Or.inl rfl)⟩
  split
  · exact ⟨_, _, rfl, Or.inr (Or.inr (Or.inl rfl))⟩
  · next hnan hinf _ =>
    simp only [printed, hnan, hinf, decide_false, Bool.false_or] at h
    cases hr : r.toList with
    | nil => simp [hr] at h
    | cons y w =>
      refine ⟨y, w, rfl, Or.inr (Or.inr ?_)⟩
      simpa [hr] using h

/-- A quote starts a text and nothing else, an `n` only `null`. -/
theorem dumps_head (v : Json) (hv : printed v) :
    ∃ y w, dumps v = y :: w ∧ (y = '"' → ∃ k, v = .str k) ∧ (y = 'n' → v = .null) := by
  cases v with
  | null => exact ⟨'n', _, rfl, fun h => absurd h (by decide), fun _ => rfl⟩
  | bool b =>
    cases b with
    | false => exact ⟨'f', _, rfl, fun h => absurd h (by decide), fun h => absurd h (by decide)⟩
    | true => exact ⟨'t', _, rfl, fun h => absurd h (by decide), fun h => absurd h (by decide)⟩
  | int n =>
    obtain ⟨y, w, hy, hd⟩ := head_int n
    refine ⟨y, w, hy, ?_, ?_⟩
    · rintro rfl
      exact absurd hd (by decide)
    · rintro rfl
      exact absurd hd (by decide)
  | float r =>
    obtain ⟨y, w, hy, hd⟩ := head_float hv
    refine ⟨y, w, hy, ?_, ?_⟩
    · rintro rfl
      exact absurd hd (by decide)
    · rintro rfl
      exact absurd hd (by decide)
  | str s => exact ⟨'"', _, rfl, fun _ => ⟨s, rfl⟩, fun h => absurd h (by decide)⟩
  | arr elems => exact ⟨'[', _, by rw [dumps], fun h => absurd h (by decide),
      fun h => absurd h (by decide)⟩
  | obj fields => exact ⟨'\x7b', _, by rw [dumps], fun h => absurd h (by decide),
      fun h => absurd h (by decide)⟩

/-- What starts like a text is that text. -/
theorem dumps_str_append {v : Json} {k : String} {s t : List Char} (hv : printed v)
    (h : dumps v ++ s = dumps (.str k) ++ t) : v = .str k ∧ s = t := by
  obtain ⟨y, w, hy, hstr, -⟩ := dumps_head v hv
  have hhead : y = '"' := by
    rw [hy, dumps, quote] at h
    exact (List.cons.inj h).1
  obtain ⟨k', rfl⟩ := hstr hhead
  rw [dumps, dumps] at h
  obtain ⟨rfl, hst⟩ := readable_quote k' k s t h
  exact ⟨rfl, hst⟩

/-- What starts like a null is one. -/
theorem dumps_null_append {v : Json} {s t : List Char} (hv : printed v)
    (h : dumps v ++ s = dumps .null ++ t) : v = .null ∧ s = t := by
  obtain ⟨y, w, hy, -, hnull⟩ := dumps_head v hv
  have hhead : y = 'n' := by
    rw [hy, dumps] at h
    exact (List.cons.inj h).1
  obtain rfl := hnull hhead
  exact ⟨rfl, List.append_cancel_left h⟩

end Json
