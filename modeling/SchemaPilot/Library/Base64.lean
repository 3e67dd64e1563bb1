import Mathlib.Data.UInt
import Mathlib.Tactic.Common

/-!
# Base64 with the alphabet for URLs

`base64.urlsafe_b64encode` and `base64.urlsafe_b64decode`. The decoder does not validate: it passes over
characters outside the alphabet, takes `+` and `/` as well as `-` and `_`, and stops at the padding.
What is encoded is decoded to itself (`decode_encode`).
-/

namespace SchemaPilot.Library.Base64

def sextetChar (n : ℕ) : Char :=
  if n < 26 then Char.ofNat (65 + n)
  else if n < 52 then Char.ofNat (97 + (n - 26))
  else if n < 62 then Char.ofNat (48 + (n - 52))
  else if n = 62 then '-'
  else '_'

/-- The six bits of a character of the alphabet. -/
def sextet? (c : Char) : Option ℕ :=
  if c.isUpper then some (c.toNat - 65)
  else if c.isLower then some (c.toNat - 97 + 26)
  else if c.isDigit then some (c.toNat - 48 + 52)
  else if c = '-' ∨ c = '+' then some 62
  else if c = '_' ∨ c = '/' then some 63
  else none

theorem sextet?_sextetChar : ∀ n < 64, sextet? (sextetChar n) = some n := by
  decide

theorem sextetChar_ne_padding : ∀ n < 64, sextetChar n ≠ '=' := by
  decide

/-- `base64.urlsafe_b64encode`. -/
def encode : List UInt8 → List Char
  | [] => []
  | [a] => [sextetChar (a.toNat / 4), sextetChar (a.toNat % 4 * 16), '=', '=']
  | [a, b] =>
    [sextetChar (a.toNat / 4), sextetChar (a.toNat % 4 * 16 + b.toNat / 16),
      sextetChar (b.toNat % 16 * 4), '=']
  | a :: b :: c :: rest =>
    sextetChar (a.toNat / 4) :: sextetChar (a.toNat % 4 * 16 + b.toNat / 16) ::
      sextetChar (b.toNat % 16 * 4 + c.toNat / 64) :: sextetChar (c.toNat % 64) :: encode rest

/-- The decoder after `quad` characters of a group of four, `left` being the bits of the last one that
no byte has taken, and `pads` the padding since. -/
def decodeFrom : (quad left pads : ℕ) → List Char → Option (List UInt8)
  | quad, _, _, [] => if quad = 0 then some [] else none
  | quad, left, pads, c :: rest =>
    if c = '=' then
      if 2 ≤ quad ∧ 4 ≤ quad + (pads + 1) then some []
      else decodeFrom quad left (if 2 ≤ quad then pads + 1 else pads) rest
    else
      match sextet? c with
      | none => decodeFrom quad left pads rest
      | some value =>
        if quad = 0 then decodeFrom 1 value 0 rest
        else if quad = 1 then
          (decodeFrom 2 (value % 16) 0 rest).map (UInt8.ofNat (left * 4 + value / 16) :: ·)
        else if quad = 2 then
          (decodeFrom 3 (value % 4) 0 rest).map (UInt8.ofNat (left * 16 + value / 4) :: ·)
        else (decodeFrom 0 0 0 rest).map (UInt8.ofNat (left * 64 + value) :: ·)

/-- `base64.urlsafe_b64decode`, `none` where it raises. -/
def decode (chars : List Char) : Option (List UInt8) := decodeFrom 0 0 0 chars

section Steps

variable {value left pads : ℕ} {rest : List Char}

theorem decodeFrom_zero (hvalue : value < 64) :
    decodeFrom 0 left pads (sextetChar value :: rest) = decodeFrom 1 value 0 rest := by
  rw [decodeFrom, if_neg (sextetChar_ne_padding value hvalue), sextet?_sextetChar value hvalue]
  rfl

theorem decodeFrom_one (hvalue : value < 64) :
    decodeFrom 1 left pads (sextetChar value :: rest) =
      (decodeFrom 2 (value % 16) 0 rest).map (UInt8.ofNat (left * 4 + value / 16) :: ·) := by
  rw [decodeFrom, if_neg (sextetChar_ne_padding value hvalue), sextet?_sextetChar value hvalue]
  rfl

theorem decodeFrom_two (hvalue : value < 64) :
    decodeFrom 2 left pads (sextetChar value :: rest) =
      (decodeFrom 3 (value % 4) 0 rest).map (UInt8.ofNat (left * 16 + value / 4) :: ·) := by
  rw [decodeFrom, if_neg (sextetChar_ne_padding value hvalue), sextet?_sextetChar value hvalue]
  rfl

theorem decodeFrom_three (hvalue : value < 64) :
    decodeFrom 3 left pads (sextetChar value :: rest) =
      (decodeFrom 0 0 0 rest).map (UInt8.ofNat (left * 64 + value) :: ·) := by
  rw [decodeFrom, if_neg (sextetChar_ne_padding value hvalue), sextet?_sextetChar value hvalue]
  rfl

end Steps

theorem decode_encode (bytes : List UInt8) : decode (encode bytes) = some bytes := by
  unfold decode
  induction bytes using encode.induct with
  | case1 => rfl
  | case2 a =>
    have ha : a.toNat < 256 := a.toNat_lt
    rw [encode, decodeFrom_zero (by omega), decodeFrom_one (by omega)]
    have hbyte : a.toNat / 4 * 4 + a.toNat % 4 * 16 / 16 = a.toNat := by omega
    rw [hbyte, UInt8.ofNat_toNat]
    rfl
  | case3 a b =>
    have ha : a.toNat < 256 := a.toNat_lt
    have hb : b.toNat < 256 := b.toNat_lt
    rw [encode, decodeFrom_zero (by omega), decodeFrom_one (by omega), decodeFrom_two (by omega)]
    have hfirst : a.toNat / 4 * 4 + (a.toNat % 4 * 16 + b.toNat / 16) / 16 = a.toNat := by omega
    have hsecond : (a.toNat % 4 * 16 + b.toNat / 16) % 16 * 16 + b.toNat % 16 * 4 / 4 = b.toNat := by
      omega
    rw [hfirst, hsecond, UInt8.ofNat_toNat, UInt8.ofNat_toNat]
    rfl
  | case4 a b c rest ih =>
    have ha : a.toNat < 256 := a.toNat_lt
    have hb : b.toNat < 256 := b.toNat_lt
    have hc : c.toNat < 256 := c.toNat_lt
    rw [encode, decodeFrom_zero (by omega), decodeFrom_one (by omega), decodeFrom_two (by omega),
      decodeFrom_three (by omega), ih]
    have hfirst : a.toNat / 4 * 4 + (a.toNat % 4 * 16 + b.toNat / 16) / 16 = a.toNat := by omega
    have hsecond : (a.toNat % 4 * 16 + b.toNat / 16) % 16 * 16 +
        (b.toNat % 16 * 4 + c.toNat / 64) / 4 = b.toNat := by omega
    have hthird : (b.toNat % 16 * 4 + c.toNat / 64) % 4 * 64 + c.toNat % 64 = c.toNat := by omega
    rw [hfirst, hsecond, hthird, UInt8.ofNat_toNat, UInt8.ofNat_toNat, UInt8.ofNat_toNat]
    rfl

/-- Distinct bytes have distinct codes. -/
theorem encode_injective {first second : List UInt8} (h : encode first = encode second) :
    first = second := by
  have hdecoded := decode_encode first
  rw [h, decode_encode second] at hdecoded
  exact (Option.some.inj hdecoded).symm

/-- The characters of a code are of the alphabet, or padding. -/
theorem mem_encode {bytes : List UInt8} {c : Char} (hc : c ∈ encode bytes) :
    c = '=' ∨ ∃ n < 64, c = sextetChar n := by
  induction bytes using encode.induct with
  | case1 => exact absurd hc List.not_mem_nil
  | case2 a =>
    have ha : a.toNat < 256 := a.toNat_lt
    simp only [encode, List.mem_cons, List.not_mem_nil, or_false] at hc
    rcases hc with rfl | rfl | rfl | rfl
    · exact Or.inr ⟨_, by omega, rfl⟩
    · exact Or.inr ⟨_, by omega, rfl⟩
    · exact Or.inl rfl
    · exact Or.inl rfl
  | case3 a b =>
    have ha : a.toNat < 256 := a.toNat_lt
    have hb : b.toNat < 256 := b.toNat_lt
    simp only [encode, List.mem_cons, List.not_mem_nil, or_false] at hc
    rcases hc with rfl | rfl | rfl | rfl
    · exact Or.inr ⟨_, by omega, rfl⟩
    · exact Or.inr ⟨_, by omega, rfl⟩
    · exact Or.inr ⟨_, by omega, rfl⟩
    · exact Or.inl rfl
  | case4 a b c' rest ih =>
    have ha : a.toNat < 256 := a.toNat_lt
    have hb : b.toNat < 256 := b.toNat_lt
    have hc' : c'.toNat < 256 := c'.toNat_lt
    simp only [encode, List.mem_cons] at hc
    rcases hc with rfl | rfl | rfl | rfl | hrest
    · exact Or.inr ⟨_, by omega, rfl⟩
    · exact Or.inr ⟨_, by omega, rfl⟩
    · exact Or.inr ⟨_, by omega, rfl⟩
    · exact Or.inr ⟨_, by omega, rfl⟩
    · exact ih hrest

end SchemaPilot.Library.Base64
