import Mathlib.Data.List.Basic

/-!
# Rotas.Lib.Base64

Base64 of bytes, as the language's `base64` module writes and reads it.

* `b64encode` — three bytes to four characters, the last group padded with `=`.
* `b64decode` — reads the text character by character; what is not in the alphabet is passed over,
  and the reading ends at a group that the padding completes.
* `b64decode_b64encode` — what was written is read back.
-/

namespace Rotas

/-- The character of six bits. -/
def b64char (v : Nat) : Char :=
  if v < 26 then Char.ofNat (v + 65)
  else if v < 52 then Char.ofNat (v - 26 + 97)
  else if v < 62 then Char.ofNat (v - 52 + 48)
  else if v = 62 then '+' else '/'

/-- The six bits of a character of the alphabet. -/
def b64value (c : Char) : Option Nat :=
  if 'A' ≤ c ∧ c ≤ 'Z' then some (c.toNat - 65)
  else if 'a' ≤ c ∧ c ≤ 'z' then some (c.toNat - 97 + 26)
  else if '0' ≤ c ∧ c ≤ '9' then some (c.toNat - 48 + 52)
  else if c = '+' then some 62
  else if c = '/' then some 63
  else none

def b64encode : List UInt8 → List Char
  | [] => []
  | [a] =>
    let a := a.toNat
    [b64char (a / 4), b64char (a % 4 * 16), '=', '=']
  | [a, b] =>
    let a := a.toNat
    let b := b.toNat
    [b64char (a / 4), b64char (a % 4 * 16 + b / 16), b64char (b % 16 * 4), '=']
  | a :: b :: c :: bytes =>
    let a := a.toNat
    let b := b.toNat
    let c := c.toNat
    b64char (a / 4) :: b64char (a % 4 * 16 + b / 16) :: b64char (b % 16 * 4 + c / 64) ::
      b64char (c % 64) :: b64encode bytes

/-- What is read of a group: its characters so far, with the bits that no byte has taken. -/
inductive Quad where
  | start
  | one (left : Nat)
  | two (left : Nat)
  | three (left : Nat)

/-- Two characters and two `=`, or three and one. -/
def Quad.paddedBy : Quad → Nat → Bool
  | .two _, pads => 2 ≤ pads
  | .three _, pads => 1 ≤ pads
  | _, _ => false

/-- The `=` read since the last character. Before the third character of a group they do not
count. -/
def Quad.pad : Quad → Nat → Nat
  | .two _, pads | .three _, pads => pads + 1
  | _, pads => pads

def a2bBase64 : Quad → Nat → List Char → Option (List UInt8)
  | .start, _, [] => some []
  | _, _, [] => none
  | q, pads, c :: cs =>
    if c = '=' then
      if q.paddedBy (q.pad pads) then some [] else a2bBase64 q (q.pad pads) cs
    else match b64value c with
      | none => a2bBase64 q pads cs
      | some v => match q with
        | .start => a2bBase64 (.one v) 0 cs
        | .one left => (a2bBase64 (.two (v % 16)) 0 cs).map (.ofNat (left * 4 + v / 16) :: ·)
        | .two left => (a2bBase64 (.three (v % 4)) 0 cs).map (.ofNat (left * 16 + v / 4) :: ·)
        | .three left => (a2bBase64 .start 0 cs).map (.ofNat (left * 64 + v) :: ·)

def b64decode (cs : List Char) : Option (List UInt8) := a2bBase64 .start 0 cs

/-! ## Reading back -/

theorem b64char_spec : ∀ v < 64, b64char v ≠ '=' ∧ b64value (b64char v) = some v := by
  decide

section Characters

variable {v left pads : Nat} {cs : List Char}

theorem a2b_start (hv : v < 64) :
    a2bBase64 .start pads (b64char v :: cs) = a2bBase64 (.one v) 0 cs := by
  obtain ⟨hne, hvalue⟩ := b64char_spec v hv
  rw [a2bBase64, if_neg hne, hvalue]

theorem a2b_one (hv : v < 64) : a2bBase64 (.one left) pads (b64char v :: cs) =
    (a2bBase64 (.two (v % 16)) 0 cs).map (.ofNat (left * 4 + v / 16) :: ·) := by
  obtain ⟨hne, hvalue⟩ := b64char_spec v hv
  rw [a2bBase64, if_neg hne, hvalue]

theorem a2b_two (hv : v < 64) : a2bBase64 (.two left) pads (b64char v :: cs) =
    (a2bBase64 (.three (v % 4)) 0 cs).map (.ofNat (left * 16 + v / 4) :: ·) := by
  obtain ⟨hne, hvalue⟩ := b64char_spec v hv
  rw [a2bBase64, if_neg hne, hvalue]

theorem a2b_three (hv : v < 64) : a2bBase64 (.three left) pads (b64char v :: cs) =
    (a2bBase64 .start 0 cs).map (.ofNat (left * 64 + v) :: ·) := by
  obtain ⟨hne, hvalue⟩ := b64char_spec v hv
  rw [a2bBase64, if_neg hne, hvalue]

end Characters

theorem ofNat_eq_byte {n : Nat} {a : UInt8} (h : n = a.toNat) : UInt8.ofNat n = a := by
  rw [h, UInt8.ofNat_toNat]

theorem b64decode_b64encode (bytes : List UInt8) :
    b64decode (b64encode bytes) = some bytes := by
  induction bytes using b64encode.induct with
  | case1 => rfl
  | case2 a =>
    have ha := a.toNat_lt
    have hbyte : UInt8.ofNat (a.toNat / 4 * 4 + a.toNat % 4 * 16 / 16) = a :=
      ofNat_eq_byte (by omega)
    simp only [b64decode, b64encode]
    rw [a2b_start (by omega), a2b_one (by omega), hbyte]
    rfl
  | case3 a b =>
    have ha := a.toNat_lt
    have hb := b.toNat_lt
    have hfirst : UInt8.ofNat (a.toNat / 4 * 4 + (a.toNat % 4 * 16 + b.toNat / 16) / 16) = a :=
      ofNat_eq_byte (by omega)
    have hsecond : UInt8.ofNat
        ((a.toNat % 4 * 16 + b.toNat / 16) % 16 * 16 + b.toNat % 16 * 4 / 4) = b :=
      ofNat_eq_byte (by omega)
    simp only [b64decode, b64encode]
    rw [a2b_start (by omega), a2b_one (by omega), a2b_two (by omega), hfirst, hsecond]
    rfl
  | case4 a b c bytes ih =>
    have ha := a.toNat_lt
    have hb := b.toNat_lt
    have hc := c.toNat_lt
    have hfirst : UInt8.ofNat (a.toNat / 4 * 4 + (a.toNat % 4 * 16 + b.toNat / 16) / 16) = a :=
      ofNat_eq_byte (by omega)
    have hsecond : UInt8.ofNat ((a.toNat % 4 * 16 + b.toNat / 16) % 16 * 16 +
        (b.toNat % 16 * 4 + c.toNat / 64) / 4) = b :=
      ofNat_eq_byte (by omega)
    have hthird : UInt8.ofNat
        ((b.toNat % 16 * 4 + c.toNat / 64) % 4 * 64 + c.toNat % 64) = c :=
      ofNat_eq_byte (by omega)
    simp only [b64decode, b64encode] at ih ⊢
    rw [a2b_start (by omega), a2b_one (by omega), a2b_two (by omega), a2b_three (by omega), ih,
      hfirst, hsecond, hthird]
    rfl

theorem b64encode_ne_nil {bytes : List UInt8} (h : bytes ≠ []) : b64encode bytes ≠ [] := by
  intro hnil
  have hread := b64decode_b64encode bytes
  rw [hnil] at hread
  exact h (Option.some.inj hread).symm

end Rotas
