import Rotas.Core.Calendar
import Mathlib.Data.List.Lex

/-!
# Rotas.Core.Datetime

The times of the language, in UTC and to the microsecond, as the database driver hands them over.

* `Datetime`      — a time; times are ordered as they follow one another.
* `isoformat`     — its text, with a fraction of a second unless that is zero.
* `fromisoformat` — reads such a text; `fromisoformat_isoformat` reads a time back.
-/

namespace Rotas

structure Datetime where
  date : Date
  hour : Nat
  minute : Nat
  second : Nat
  microsecond : Nat
  inDay : hour < 24 ∧ minute < 60 ∧ second < 60 ∧ microsecond < 1000000
  deriving DecidableEq

/-! ## Reading -/

def readNumber (width : Nat) (cs : List Char) : Option (Nat × List Char) :=
  if (cs.take width).length = width ∧ (cs.take width).all Char.isDigit then
    some (Nat.ofDigitChars 10 (cs.take width) 0, cs.drop width)
  else none

def skip (c : Char) : List Char → Option (List Char)
  | [] => none
  | d :: cs => if d = c then some cs else none

def readDate (cs : List Char) : Option (Date × List Char) := do
  let (year, cs) ← readNumber 4 cs
  let cs ← skip '-' cs
  let (month, cs) ← readNumber 2 cs
  let cs ← skip '-' cs
  let (day, cs) ← readNumber 2 cs
  if h : (1 ≤ year ∧ year ≤ 9999) ∧ (1 ≤ month ∧ month ≤ 12) ∧
      1 ≤ day ∧ day ≤ daysInMonth year month then
    some (⟨year, month, day, h.1, h.2.1, h.2.2⟩, cs)
  else none

/-- A fraction of six digits, or none. -/
def readFraction : List Char → Option (Nat × List Char)
  | '.' :: cs => readNumber 6 cs
  | cs => some (0, cs)

namespace Datetime

/-- The offset of UTC, as `isoformat` writes it. -/
def utc : List Char := ['+', '0', '0', ':', '0', '0']

def fraction (t : Datetime) : List Char :=
  if t.microsecond = 0 then [] else '.' :: zfill 6 t.microsecond

/-- `datetime.isoformat()`, as in `2026-03-31T08:05:00+00:00`. -/
def isoformat (t : Datetime) : String :=
  .ofList (t.date.isoformat.toList ++ 'T' :: (zfill 2 t.hour ++ ':' :: (zfill 2 t.minute ++
    ':' :: (zfill 2 t.second ++ (t.fraction ++ utc)))))

/-- `datetime.fromisoformat(s)` of a time in UTC, written in the one of its forms that `isoformat`
writes; any character stands between the date and the time. -/
def fromisoformat (s : String) : Option Datetime := do
  let (date, cs) ← readDate s.toList
  let cs ← cs.tail?
  let (hour, cs) ← readNumber 2 cs
  let cs ← skip ':' cs
  let (minute, cs) ← readNumber 2 cs
  let cs ← skip ':' cs
  let (second, cs) ← readNumber 2 cs
  let (microsecond, cs) ← readFraction cs
  if h : cs = utc ∧ hour < 24 ∧ minute < 60 ∧ second < 60 ∧ microsecond < 1000000 then
    some ⟨date, hour, minute, second, microsecond, h.2⟩
  else none

/-! ## The order of time -/

def key (t : Datetime) : List Nat :=
  [t.date.year, t.date.month, t.date.day, t.hour, t.minute, t.second, t.microsecond]

theorem key_injective : Function.Injective key := by
  rintro ⟨⟨year, month, day, _, _, _⟩, hour, minute, second, microsecond, _⟩
    ⟨⟨year', month', day', _, _, _⟩, hour', minute', second', microsecond', _⟩ h
  simp only [key, List.cons.injEq] at h
  obtain ⟨rfl, rfl, rfl, rfl, rfl, rfl, rfl, -⟩ := h
  rfl

instance : LinearOrder Datetime := LinearOrder.lift' key key_injective

end Datetime

/-! ## Reading back -/

section Reading

variable {w n : Nat} {c : Char} {cs : List Char}

theorem readNumber_zfill (hw : 0 < w) (hn : n < 10 ^ w) :
    readNumber w (zfill w n ++ cs) = some (n, cs) := by
  have hlen := length_zfill hw hn
  have htake : (zfill w n ++ cs).take w = zfill w n := List.take_left' hlen
  have hread : Nat.ofDigitChars 10 (zfill w n) 0 = n := by
    rw [zfill, ofDigitChars_replicate_zero, digits, Nat.ofDigitChars_ten_toDigits]
  have hdigits : (zfill w n).all Char.isDigit = true :=
    List.all_eq_true.mpr fun c hc => isDigit_of_mem_zfill hc
  rw [readNumber, htake, if_pos ⟨hlen, hdigits⟩, hread, List.drop_left' hlen]

@[simp] theorem skip_cons : skip c (c :: cs) = some cs := if_pos rfl

theorem readDate_isoformat (d : Date) (cs : List Char) :
    readDate (d.isoformat.toList ++ cs) = some (d, cs) := by
  obtain ⟨year, month, day, hyear, hmonth, hday⟩ := d
  have hday31 := hday.2.trans (daysInMonth_le _ _)
  have hyear' : readNumber 4 (zfill 4 year ++ '-' :: (zfill 2 month ++ '-' ::
      (zfill 2 day ++ cs))) = some (year, '-' :: (zfill 2 month ++ '-' :: (zfill 2 day ++ cs))) :=
    readNumber_zfill (by decide) (by omega)
  have hmonth' : readNumber 2 (zfill 2 month ++ '-' :: (zfill 2 day ++ cs)) =
      some (month, '-' :: (zfill 2 day ++ cs)) :=
    readNumber_zfill (by decide) (by omega)
  have hday' : readNumber 2 (zfill 2 day ++ cs) = some (day, cs) :=
    readNumber_zfill (by decide) (by omega)
  simp only [Date.isoformat, String.toList_ofList, List.append_assoc, List.cons_append, readDate,
    hyear', hmonth', hday', skip_cons, Option.bind_eq_bind, Option.bind_some]
  exact dif_pos ⟨hyear, hmonth, hday⟩

end Reading

namespace Datetime

variable (t : Datetime)

theorem readFraction_fraction : readFraction (t.fraction ++ utc) = some (t.microsecond, utc) := by
  unfold fraction
  split
  · rename_i h
    rw [h]
    rfl
  · exact readNumber_zfill (by decide) t.inDay.2.2.2

theorem fromisoformat_isoformat : fromisoformat t.isoformat = some t := by
  obtain ⟨hhour, hminute, hsecond, hmicro⟩ := t.inDay
  have hsecond' : readNumber 2 (zfill 2 t.second ++ (t.fraction ++ utc)) =
      some (t.second, t.fraction ++ utc) :=
    readNumber_zfill (by decide) (by omega)
  have hminute' : readNumber 2 (zfill 2 t.minute ++ ':' :: (zfill 2 t.second ++
      (t.fraction ++ utc))) = some (t.minute, ':' :: (zfill 2 t.second ++ (t.fraction ++ utc))) :=
    readNumber_zfill (by decide) (by omega)
  have hhour' : readNumber 2 (zfill 2 t.hour ++ ':' :: (zfill 2 t.minute ++ ':' ::
      (zfill 2 t.second ++ (t.fraction ++ utc)))) = some (t.hour, ':' :: (zfill 2 t.minute ++
        ':' :: (zfill 2 t.second ++ (t.fraction ++ utc)))) :=
    readNumber_zfill (by decide) (by omega)
  simp only [fromisoformat, isoformat, String.toList_ofList, readDate_isoformat, List.tail?,
    hhour', hminute', hsecond', readFraction_fraction, skip_cons, Option.bind_eq_bind,
    Option.bind_some]
  exact dif_pos ⟨trivial, hhour, hminute, hsecond, hmicro⟩

theorem notMem_isoformat {a : Char} (ha : a.isDigit = false)
    (hsep : a ∉ ['-', 'T', ':', '.', '+']) : a ∉ t.isoformat.toList := by
  have hnumber : ∀ (w : Int) (n : Nat), a ∉ zfill w n := fun w n =>
    not_mem_of_isDigit (fun c hc => isDigit_of_mem_zfill hc) ha
  have hzero : a ≠ '0' := by
    rintro rfl
    cases ha
  have hfraction : a ∉ t.fraction := by
    unfold fraction
    split
    · exact List.not_mem_nil
    · simp_all
  simp_all [isoformat, Date.isoformat, utc]

end Datetime

/-- A time with a fraction of a second. -/
example : (Datetime.mk ⟨2026, 3, 31, by decide, by decide, by decide⟩ 8 5 0 250
    (by decide)).isoformat = "2026-03-31T08:05:00.000250+00:00" := by
  decide

end Rotas
