/-
Calendar dates: `datetime.date` with `isoformat` and `fromisoformat`.

A `Date` carries the proof that it names a day of the proleptic Gregorian
calendar, so that `isoformat` never has anything to check.  `fromisoformat`
reads what CPython reads: `YYYY-MM-DD`, `YYYYMMDD`, and the ISO week forms
`YYYY-Www`, `YYYYWww`, `YYYY-Www-D` and `YYYYWwwD`.  It looks at the length
first (7, 8 or 10 bytes of UTF-8) and does not look at what is left once the day
has been read, so a ten-byte text such as `20200101xx` is read as its first
eight bytes.

* `Date.fromisoformat_isoformat` — the round trip through the text form.
-/
import Mathlib.Tactic.IntervalCases
import Mathlib.Data.List.Basic

/-- `calendar.isleap`. -/
def isLeap (year : Nat) : Bool :=
  year % 4 = 0 && (year % 100 ≠ 0 || year % 400 = 0)

def daysInMonth (year month : Nat) : Nat :=
  if month = 2 then (if isLeap year then 29 else 28)
  else if month ∈ [4, 6, 9, 11] then 30
  else 31

def daysInYear (year : Nat) : Nat := if isLeap year then 366 else 365

/-- `datetime.date`: a day between 0001-01-01 and 9999-12-31. -/
structure Date where
  year : Nat
  month : Nat
  day : Nat
  year_pos : 1 ≤ year
  year_le : year ≤ 9999
  month_pos : 1 ≤ month
  month_le : month ≤ 12
  day_pos : 1 ≤ day
  day_le : day ≤ daysInMonth year month
deriving DecidableEq

namespace Date

theorem daysInMonth_le (year month : Nat) : daysInMonth year month ≤ 31 := by
  unfold daysInMonth
  split
  · split <;> omega
  · split <;> omega

theorem day_lt (d : Date) : d.day < 100 :=
  lt_of_le_of_lt (le_trans d.day_le (daysInMonth_le _ _)) (by omega)

/-- The constructor `date(year, month, day)`; `none` is its `ValueError`. -/
def mk? (year month day : Nat) : Option Date :=
  if h : 1 ≤ year ∧ year ≤ 9999 ∧ 1 ≤ month ∧ month ≤ 12 ∧ 1 ≤ day ∧
      day ≤ daysInMonth year month then
    some ⟨year, month, day, h.1, h.2.1, h.2.2.1, h.2.2.2.1, h.2.2.2.2.1, h.2.2.2.2.2⟩
  else none

theorem mk?_self (d : Date) : mk? d.year d.month d.day = some d := by
  rw [mk?, dif_pos ⟨d.year_pos, d.year_le, d.month_pos, d.month_le, d.day_pos, d.day_le⟩]

/-- The order of dates: year, then month, then day. -/
def before (a b : Date) : Bool :=
  a.year < b.year || (a.year = b.year &&
    (a.month < b.month || (a.month = b.month && a.day < b.day)))

/-! ### Printing -/

/-- The decimal digit of `n % 10`. -/
def digit (n : Nat) : Char := Nat.digitChar (n % 10)

def digits2 (n : Nat) : List Char := [digit (n / 10), digit n]

def digits4 (n : Nat) : List Char :=
  [digit (n / 1000), digit (n / 100), digit (n / 10), digit n]

/-- `date.isoformat`: `YYYY-MM-DD`. -/
def isoformat (d : Date) : String :=
  String.ofList (digits4 d.year ++ '-' :: (digits2 d.month ++ '-' :: digits2 d.day))

/-! ### Reading -/

/-- The value of an ASCII digit. -/
def digitVal (c : Char) : Option Nat :=
  if 48 ≤ c.toNat ∧ c.toNat ≤ 57 then some (c.toNat - 48) else none

/-- `parse_digits`: reads exactly `n` digits, onto the value `acc` read so far. -/
def parseDigits : Nat → Nat → List Char → Option (Nat × List Char)
  | 0, acc, cs => some (acc, cs)
  | _ + 1, _, [] => none
  | n + 1, acc, c :: cs =>
    match digitVal c with
    | none => none
    | some v => parseDigits n (acc * 10 + v) cs

/-- The days of the months from `month` on, to place the `n`-th day (from 0) of
what is left of the year. -/
def walkMonths (year : Nat) : Nat → Nat → Nat → Option Date
  | 0, _, _ => none
  | fuel + 1, month, n =>
    if n < daysInMonth year month then mk? year month (n + 1)
    else walkMonths year fuel (month + 1) (n - daysInMonth year month)

/-- The day `n` days (from 0) after the first of January. -/
def ofDayOfYear (year n : Nat) : Option Date := walkMonths year 12 1 n

/-- `weekday` of the first of January, Monday being 0. -/
def firstWeekday (year : Nat) : Nat :=
  let y := year - 1
  (y * 365 + y / 4 - y / 100 + y / 400) % 7

/-- `iso_to_ymd`: the day `day` of ISO week `week`. -/
def ofIsoWeek (year week day : Nat) : Option Date :=
  let first := firstWeekday year
  let weeks := if first = 3 || (first = 2 && isLeap year) then 53 else 52
  if year < 1 || 9999 < year || week < 1 || weeks < week || day < 1 || 7 < day then none
  else
    -- the Monday of week 1 lies in the year before when January 1 is a
    -- Tuesday, Wednesday or Thursday
    let n := (week - 1) * 7 + (day - 1)
    if first ≤ 3 then
      if n < first then ofDayOfYear (year - 1) (daysInYear (year - 1) - first + n)
      else if n - first < daysInYear year then ofDayOfYear year (n - first)
      else ofDayOfYear (year + 1) (n - first - daysInYear year)
    else
      let m := n + (7 - first)
      if m < daysInYear year then ofDayOfYear year m
      else ofDayOfYear (year + 1) (m - daysInYear year)

/-- The length of the UTF-8 encoding. -/
def utf8Length (cs : List Char) : Nat := (cs.map Char.utf8Size).sum

/-- Drops the separator where one is in use. -/
def separator (used : Bool) : List Char → Option (List Char)
  | cs => if used then (match cs with | '-' :: rest => some rest | _ => none) else some cs

/-- The part of `parse_isoformat_date` behind the year and its separator. -/
def parseAfterYear (year : Nat) (sep : Bool) : List Char → Option Date
  | 'W' :: cs => do
    let (week, rest) ← parseDigits 2 0 cs
    match rest with
    | [] => ofIsoWeek year week 1
    | rest =>
      let rest ← separator sep rest
      let (day, _) ← parseDigits 1 0 rest
      ofIsoWeek year week day
  | cs => do
    let (month, rest) ← parseDigits 2 0 cs
    let rest ← separator sep rest
    let (day, _) ← parseDigits 2 0 rest
    mk? year month day

/-- `date.fromisoformat`; `none` is its `ValueError`. -/
def fromisoformat (s : String) : Option Date := do
  let cs := s.toList
  if utf8Length cs = 7 || utf8Length cs = 8 || utf8Length cs = 10 then
    let (year, rest) ← parseDigits 4 0 cs
    match rest with
    | '-' :: rest => parseAfterYear year true rest
    | rest => parseAfterYear year false rest
  else none

/-! ### The round trip -/

theorem digitVal_digit (n : Nat) : digitVal (digit n) = some (n % 10) := by
  have h : n % 10 < 10 := Nat.mod_lt _ (by omega)
  unfold digit
  interval_cases n % 10 <;> rfl

theorem utf8Size_digit (n : Nat) : (digit n).utf8Size = 1 := by
  have h : n % 10 < 10 := Nat.mod_lt _ (by omega)
  unfold digit
  interval_cases n % 10 <;> rfl

theorem parseDigits_digits2 {n : Nat} (h : n < 100) (rest : List Char) :
    parseDigits 2 0 (digits2 n ++ rest) = some (n, rest) := by
  simp [digits2, parseDigits, digitVal_digit]
  omega

theorem parseDigits_digits4 {n : Nat} (h : n < 10000) (rest : List Char) :
    parseDigits 4 0 (digits4 n ++ rest) = some (n, rest) := by
  simp [digits4, parseDigits, digitVal_digit]
  omega

/-- A printed month does not start like a week number. -/
theorem digit_ne_W (n : Nat) : digit n ≠ 'W' := by
  have h : n % 10 < 10 := Nat.mod_lt _ (by omega)
  unfold digit
  interval_cases n % 10 <;> decide

theorem parseAfterYear_digits2 (year : Nat) (sep : Bool) (n : Nat) (rest : List Char) :
    parseAfterYear year sep (digits2 n ++ rest) = (do
      let (month, rest) ← parseDigits 2 0 (digits2 n ++ rest)
      let rest ← separator sep rest
      let (day, _) ← parseDigits 2 0 rest
      mk? year month day) := by
  have hW := digit_ne_W (n / 10)
  simp only [digits2, List.cons_append, List.nil_append]
  rw [parseAfterYear]
  intro cs h
  exact hW (List.cons.inj h).1

/-- **The text form is faithful**: what `isoformat` prints, `fromisoformat`
reads back as the same day. -/
theorem fromisoformat_isoformat (d : Date) : fromisoformat d.isoformat = some d := by
  have hlen : utf8Length (digits4 d.year ++ '-' :: (digits2 d.month ++ '-' :: digits2 d.day))
      = 10 := by
    simp [utf8Length, digits4, digits2, utf8Size_digit]
    decide
  have hy : d.year < 10000 := by have := d.year_le; omega
  have hm : d.month < 100 := by have := d.month_le; omega
  rw [fromisoformat, isoformat, String.toList_ofList, hlen]
  simp only [Option.bind_eq_bind, parseDigits_digits4 hy, Option.bind_some]
  rw [if_pos (by simp), parseAfterYear_digits2]
  have hd := parseDigits_digits2 d.day_lt []
  rw [List.append_nil] at hd
  simp [parseDigits_digits2 hm, separator, hd, mk?_self]

end Date

example : Date.fromisoformat "2020-W53-7" = Date.mk? 2021 1 3 := by decide
