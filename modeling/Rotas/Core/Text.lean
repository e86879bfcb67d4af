import Mathlib.Data.String.Basic

/-!
# Rotas.Core.Text

The text functions of the language and of the database that the services call.

* `strip`   — `str.strip()`: the whitespace of the language, at both ends.
* `zfill`   — `str(n).zfill(width)` of a natural number.
* `fixed2`  — `f"{x:.2f}"` of a number of hundredths.
* `sqlTrim` — `trim(x)` of the database: blanks only.
* `truthy`  — `s or …`: a text that is there and not empty.
* `ilike`   — `x ILIKE pattern` of the database.
* `Locale`  — case mapping: `str.lower`, `str.casefold` and the database's `lower` under its
  collation. Their tables are not spelled out; `Locale.ascii` maps the ASCII letters.
* `split_last` — a text is cut at its last separator in one way.
-/

namespace Rotas

/-- What `str.strip` takes for whitespace. -/
def isSpace (c : Char) : Bool :=
  let n := c.toNat
  (0x09 ≤ n && n ≤ 0x0d) || (0x1c ≤ n && n ≤ 0x20) || n = 0x85 || n = 0xa0 || n = 0x1680 ||
    (0x2000 ≤ n && n ≤ 0x200a) || n = 0x2028 || n = 0x2029 || n = 0x202f || n = 0x205f || n = 0x3000

/-- Drop the characters that satisfy `p` at both ends. -/
def stripBy (p : Char → Bool) (s : String) : String :=
  .ofList ((s.toList.dropWhile p).reverse.dropWhile p).reverse

def strip (s : String) : String := stripBy isSpace s

def sqlTrim (s : String) : String := stripBy (· == ' ') s

/-- `str(n)` of a natural number, as its decimal digits. -/
def digits (n : Nat) : List Char := Nat.toDigits 10 n

/-- `str(n).zfill(width)`; a width below the number of digits, or a negative one, adds nothing. -/
def zfill (width : Int) (n : Nat) : List Char :=
  List.replicate (width.toNat - (digits n).length) '0' ++ digits n

def fixed2 (hundredths : Int) : String :=
  (if hundredths < 0 then "-" else "") ++ toString (hundredths.natAbs / 100) ++ "." ++
    .ofList (zfill 2 (hundredths.natAbs % 100))

/-- An optional text that counts as true: there, and not empty. -/
def truthy (s : Option String) : Option String := s.filter (· ≠ "")

class Locale where
  lower : String → String
  casefold : String → String
  sqlLower : String → String

/-- Case mapping of the ASCII letters only. -/
@[reducible] def Locale.ascii : Locale := ⟨String.toLower, String.toLower, String.toLower⟩

/-- The same, over the list of the characters. -/
@[reducible] def Locale.chars : Locale :=
  let lower (s : String) : String := .ofList (s.toList.map Char.toLower)
  ⟨lower, lower, lower⟩

/-- `x LIKE pattern`, with the backslash as the escape character. -/
def like : List Char → List Char → Bool
  | [], cs => cs.isEmpty
  | '%' :: ps, cs => cs.tails.any (like ps)
  | '_' :: ps, _ :: cs => like ps cs
  | '\\' :: p :: ps, c :: cs => p = c && like ps cs
  | p :: ps, c :: cs => p = c && like ps cs
  | _ :: _, [] => false

def ilike [Locale] (s pattern : String) : Bool :=
  like (Locale.sqlLower pattern).toList (Locale.sqlLower s).toList

/-! ## Reading a number back -/

theorem digits_injective {n m : Nat} (h : digits n = digits m) : n = m := by
  have hread := congrArg (fun cs => Nat.ofDigitChars 10 cs 0) h
  simpa only [digits, Nat.ofDigitChars_ten_toDigits] using hread

theorem ofDigitChars_replicate_zero (k : Nat) (cs : List Char) :
    Nat.ofDigitChars 10 (List.replicate k '0' ++ cs) 0 = Nat.ofDigitChars 10 cs 0 := by
  induction k with
  | zero => rfl
  | succ k ih => simpa [List.replicate_succ, Nat.ofDigitChars] using ih

/-- A padded number still says which number it is, whatever the padding. -/
theorem zfill_injective {w w' : Int} {n m : Nat} (h : zfill w n = zfill w' m) : n = m := by
  have hread := congrArg (fun cs => Nat.ofDigitChars 10 cs 0) h
  simpa only [zfill, ofDigitChars_replicate_zero, digits, Nat.ofDigitChars_ten_toDigits] using hread

theorem isDigit_of_mem_zfill {w : Int} {n : Nat} {c : Char} (h : c ∈ zfill w n) :
    c.isDigit = true := by
  rcases List.mem_append.mp h with h | h
  · rw [List.eq_of_mem_replicate h]; rfl
  · exact Nat.isDigit_of_mem_toDigits (by decide) (by decide) h

theorem repr_injective {n m : Nat} (h : Nat.repr n = Nat.repr m) : n = m := by
  have hchars := congrArg String.toList h
  rw [Nat.toList_repr, Nat.toList_repr] at hchars
  exact digits_injective hchars

theorem repr_ne_minus {n m : Nat} : Nat.repr n ≠ "-" ++ Nat.repr m := by
  intro h
  have hchars := congrArg String.toList h
  rw [String.toList_append, Nat.toList_repr] at hchars
  have hmem : '-' ∈ Nat.toDigits 10 n := by
    rw [hchars]
    exact List.mem_cons_self
  exact absurd (Nat.isDigit_of_mem_toDigits (by decide) (by decide) hmem) (by decide)

theorem toString_int_injective {a b : Int} (h : toString a = toString b) : a = b := by
  cases a with
  | ofNat m =>
    cases b with
    | ofNat n => exact congrArg Int.ofNat (repr_injective h)
    | negSucc n => exact absurd h repr_ne_minus
  | negSucc m =>
    cases b with
    | ofNat n => exact absurd h.symm repr_ne_minus
    | negSucc n =>
      have hsign : "-" ++ Nat.repr (m + 1) = "-" ++ Nat.repr (n + 1) := h
      have hchars := congrArg String.toList hsign
      rw [String.toList_append, String.toList_append] at hchars
      have hrepr := String.toList_injective (List.append_cancel_left hchars)
      rw [Nat.succ.inj (repr_injective hrepr)]

/-! ## Separators -/

section Separator

variable {a : Char}

theorem split_first {x : List Char} : ∀ {y u v : List Char}, a ∉ x → a ∉ y →
    x ++ a :: u = y ++ a :: v → x = y ∧ u = v := by
  induction x with
  | nil =>
    intro y u v _ hy h
    cases y with
    | nil => simpa using h
    | cons c y =>
      simp only [List.nil_append, List.cons_append, List.cons.injEq] at h
      exact absurd (h.1 ▸ List.mem_cons_self) hy
  | cons c x ih =>
    intro y u v hx hy h
    cases y with
    | nil =>
      simp only [List.cons_append, List.nil_append, List.cons.injEq] at h
      exact absurd (h.1 ▸ List.mem_cons_self) hx
    | cons d y =>
      simp only [List.cons_append, List.cons.injEq] at h
      simp only [List.mem_cons, not_or] at hx hy
      obtain ⟨rfl, huv⟩ := ih hx.2 hy.2 h.2
      exact ⟨by rw [h.1], huv⟩

theorem split_last {l l' r r' : List Char} (hr : a ∉ r) (hr' : a ∉ r')
    (h : l ++ a :: r = l' ++ a :: r') : l = l' ∧ r = r' := by
  have hrev : r.reverse ++ a :: l.reverse = r'.reverse ++ a :: l'.reverse := by
    simpa using congrArg List.reverse h
  obtain ⟨h₁, h₂⟩ := split_first (by simpa using hr) (by simpa using hr') hrev
  exact ⟨List.reverse_injective h₂, List.reverse_injective h₁⟩

theorem not_mem_of_isDigit {cs : List Char} (h : ∀ c ∈ cs, c.isDigit = true)
    (ha : a.isDigit = false) : a ∉ cs := by
  intro hm
  rw [h a hm] at ha
  cases ha

end Separator

end Rotas
