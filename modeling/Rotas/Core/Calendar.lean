import Rotas.Core.Text
import Mathlib.Algebra.Order.Ring.Int

/-!
# Rotas.Core.Calendar

The dates of the language, from the year 1 to the year 9999.

* `daysInMonth`, `daysBefore` — the days of a month, and those before it.
* `Date`      — a day of the calendar, with its number `Date.toordinal`.
* `isoformat` — its text, in ten characters; two dates of one text are one date.
-/

namespace Rotas

def isLeap (year : Nat) : Bool := year % 4 = 0 && (year % 100 ≠ 0 || year % 400 = 0)

def daysInMonth (year month : Nat) : Nat :=
  if month = 2 then (if isLeap year then 29 else 28)
  else if month = 4 ∨ month = 6 ∨ month = 9 ∨ month = 11 then 30 else 31

/-- The days of the years before this one, and of the months of this year before this one. -/
def daysBefore (year month : Nat) : Nat :=
  (year - 1) * 365 + (year - 1) / 4 - (year - 1) / 100 + (year - 1) / 400 +
    ((List.range' 1 (month - 1)).map (daysInMonth year)).sum

theorem daysInMonth_le (year month : Nat) : daysInMonth year month ≤ 31 := by
  unfold daysInMonth
  split
  · split <;> omega
  · split <;> omega

structure Date where
  year : Nat
  month : Nat
  day : Nat
  inYears : 1 ≤ year ∧ year ≤ 9999
  inYear : 1 ≤ month ∧ month ≤ 12
  inMonth : 1 ≤ day ∧ day ≤ daysInMonth year month
  deriving DecidableEq

namespace Date

/-- The days from the first one of the year 1, which is the day 1. -/
def toordinal (d : Date) : Nat := daysBefore d.year d.month + d.day

/-- `date.isoformat()`, as in `2026-03-31`. -/
def isoformat (d : Date) : String :=
  .ofList (zfill 4 d.year ++ '-' :: (zfill 2 d.month ++ '-' :: zfill 2 d.day))

/-- `(expiry - today).days`. -/
def daysTo (today expiry : Date) : Int := expiry.toordinal - today.toordinal

end Date

/-- A number of at most as many digits is padded to the width. -/
theorem length_zfill {w n : Nat} (hw : 0 < w) (hn : n < 10 ^ w) : (zfill w n).length = w := by
  have hlen : (digits n).length ≤ w := (Nat.length_toDigits_le_iff (by decide) hw).mpr hn
  rw [zfill, List.length_append, List.length_replicate]
  simp only [Int.toNat_natCast]
  omega

namespace Date

variable {d d' : Date}

theorem length_year (d : Date) : (zfill 4 d.year).length = 4 :=
  length_zfill (by decide) (Nat.lt_of_le_of_lt d.inYears.2 (by decide))

theorem length_month (d : Date) : (zfill 2 d.month).length = 2 :=
  length_zfill (by decide) (Nat.lt_of_le_of_lt d.inYear.2 (by decide))

theorem length_day (d : Date) : (zfill 2 d.day).length = 2 :=
  length_zfill (by decide)
    (Nat.lt_of_le_of_lt (d.inMonth.2.trans (daysInMonth_le _ _)) (by decide))

theorem length_isoformat (d : Date) : d.isoformat.length = 10 := by
  simp only [isoformat, String.length_ofList, List.length_append, List.length_cons, length_year,
    length_month, length_day]

theorem isoformat_injective (h : d.isoformat = d'.isoformat) : d = d' := by
  have hchars := congrArg String.toList h
  simp only [isoformat, String.toList_ofList] at hchars
  obtain ⟨hyear, hrest⟩ := List.append_inj hchars (by rw [length_year, length_year])
  obtain ⟨hmonth, hday⟩ := List.append_inj (List.cons.inj hrest).2
    (by rw [length_month, length_month])
  obtain ⟨year, month, day, _, _, _⟩ := d
  obtain ⟨year', month', day', _, _, _⟩ := d'
  cases zfill_injective hyear
  cases zfill_injective hmonth
  cases zfill_injective (List.cons.inj hday).2
  rfl

end Date

/-- The last day of February of a leap year. -/
example : (Date.mk 2024 2 29 (by decide) (by decide) (by decide)).isoformat = "2024-02-29" := by
  decide

end Rotas
