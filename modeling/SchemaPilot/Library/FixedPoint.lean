import SchemaPilot.Library.DecimalText
import SchemaPilot.Library.PositionalOrder
import Mathlib.Data.Int.Log
import Mathlib.Data.Rat.Floor

/-!
# Floats in fixed-point notation

`format(x, "0<width>.<decimals>f")` writes the exact value of a float, rounded half to even, with zeros before
it up to a width (`Double.fixedText`). Non-negative numbers with the same number of whole digits are in the
order of their texts (`unsigned_lt_iff`); a number with more whole digits is compared by the first of them
(`unsigned_lt_of_width_lt`).
-/

namespace SchemaPilot.Library

open DecimalText

/-- A float by its exact value. Zero has a sign, too. -/
inductive Double where
  | finite (negative : Bool) (magnitude : ℚ)
  | infinity (negative : Bool)
  | nan

/-- The whole number nearest to a non-negative one, an even one where there are two. -/
def roundHalfEven (q : ℚ) : ℕ :=
  let whole := ⌊q⌋₊
  let rest := q - whole
  if rest < 1 / 2 then whole
  else if 1 / 2 < rest then whole + 1
  else whole + whole % 2

/-- The double nearest to a non-negative number that does not overflow. -/
def nearestDouble (q : ℚ) : ℚ :=
  if q = 0 then 0
  else
    let exponent := max (Int.log 2 q - 52) (-1074)
    roundHalfEven (q / (2 : ℚ) ^ exponent) * (2 : ℚ) ^ exponent

namespace Double

/-- `0.0`. -/
def zero : Double := finite false 0

def ofLiteral : FloatLiteral → Double
  | .nan => nan
  | .infinity negative => infinity negative
  | .decimal negative digits exponent =>
    if Overflows digits exponent then infinity negative
    else finite negative (nearestDouble (digits * (10 : ℚ) ^ exponent))

/-- `float(value)` of a whole number, nothing for an `OverflowError`. -/
def ofInt? (value : ℤ) : Option Double :=
  if Overflows value.natAbs 0 then none
  else some (finite (decide (value < 0)) (nearestDouble value.natAbs))

theorem isSome_ofInt? (value : ℤ) : (ofInt? value).isSome = true ↔ ¬Overflows value.natAbs 0 := by
  rw [ofInt?]
  split_ifs with hoverflow
  · exact iff_of_false Bool.false_ne_true (not_not.mpr hoverflow)
  · exact iff_of_true rfl hoverflow

theorem ofInt?_of_not_overflows {value : ℤ} (h : ¬Overflows value.natAbs 0) :
    ofInt? value = some (finite (decide (value < 0)) (nearestDouble value.natAbs)) := if_neg h

attribute [irreducible] ofInt?

/-- A text with its sign, and zeros between them up to a width. -/
def zeroFilled (width : ℕ) (negative : Bool) (body : List Char) : List Char :=
  let sign := if negative then ['-'] else []
  sign ++ (List.replicate (width - sign.length - body.length) '0' ++ body)

def fixedBody (decimals units : ℕ) : List Char :=
  Nat.toDigits 10 (units / 10 ^ decimals) ++ '.' :: paddedDigits decimals units

/-- `format(x, "0<width>.<decimals>f")`, for some decimals. -/
def fixedText (width decimals : ℕ) : Double → List Char
  | finite negative magnitude =>
    zeroFilled width negative (fixedBody decimals (roundHalfEven (magnitude * 10 ^ decimals)))
  | infinity negative => zeroFilled width negative "inf".toList
  | nan => zeroFilled width false "nan".toList

end Double

namespace DecimalText

theorem paddedDigits_zero (width : ℕ) : paddedDigits width 0 = List.replicate width '0' := by
  induction width with
  | zero => rfl
  | succ width ih => rw [paddedDigits, Nat.zero_div, ih, List.replicate_succ']; rfl

/-- The last digits are the last of more digits. -/
theorem paddedDigits_add (more width n : ℕ) :
    paddedDigits (more + width) n = paddedDigits more (n / 10 ^ width) ++ paddedDigits width n := by
  induction width generalizing n with
  | zero => rw [Nat.add_zero, Nat.pow_zero, Nat.div_one, paddedDigits, List.append_nil]
  | succ width ih =>
    rw [← Nat.add_assoc, paddedDigits, ih, paddedDigits, List.append_assoc, Nat.div_div_eq_div_mul,
      ← Nat.pow_succ']

theorem toDigits_eq_paddedDigits (n : ℕ) :
    Nat.toDigits 10 n = paddedDigits (Nat.toDigits 10 n).length n := by
  have hone : ∀ n < 10, Nat.toDigits 10 n = paddedDigits 1 n := by
    intro n hlt
    rw [Nat.toDigits_of_lt_base hlt, paddedDigits, paddedDigits, Nat.mod_eq_of_lt hlt]
    rfl
  obtain ⟨width, hwidth⟩ := Nat.exists_eq_add_one_of_ne_zero
    (List.length_pos_iff.mpr (Nat.toDigits_ne_nil (b := 10) (n := n))).ne'
  have hlt : n < 10 ^ (width + 1) :=
    (Nat.length_toDigits_le_iff (by decide) (Nat.succ_pos width)).mp hwidth.le
  rw [hwidth]
  by_cases hle : 10 ^ width ≤ n
  · have hfirst : n / 10 ^ width < 10 := by
      rw [Nat.div_lt_iff_lt_mul (Nat.pow_pos (by decide)), Nat.mul_comm]
      exact hlt
    rw [← toDigits_append_paddedDigits hle, hone _ hfirst, Nat.add_comm, paddedDigits_add]
  · cases width with
    | zero => exact hone n hlt
    | succ width =>
      have hshort := (Nat.length_toDigits_le_iff (b := 10) (by decide) (Nat.succ_pos width)).mpr
        (not_le.mp hle)
      omega

theorem lt_pow_length_toDigits (n : ℕ) : n < 10 ^ (Nat.toDigits 10 n).length :=
  (Nat.length_toDigits_le_iff (by decide) (List.length_pos_iff.mpr Nat.toDigits_ne_nil)).mp le_rfl

/-- The digits of a number, zeros before them up to a width. -/
theorem replicate_append_toDigits (width n : ℕ) :
    List.replicate (width - (Nat.toDigits 10 n).length) '0' ++ Nat.toDigits 10 n =
      paddedDigits (max width (Nat.toDigits 10 n).length) n := by
  have hmax : max width (Nat.toDigits 10 n).length =
      width - (Nat.toDigits 10 n).length + (Nat.toDigits 10 n).length := by
    omega
  rw [hmax, paddedDigits_add, Nat.div_eq_of_lt (lt_pow_length_toDigits n), paddedDigits_zero,
    ← toDigits_eq_paddedDigits]

theorem paddedDigits_lt {width first second : ℕ} (h : first < second) (hsecond : second < 10 ^ width) :
    paddedDigits width first < paddedDigits width second := by
  induction width generalizing first second with
  | zero => exact absurd hsecond (by omega)
  | succ width ih =>
    rw [paddedDigits, paddedDigits]
    rw [Nat.pow_succ] at hsecond
    rcases Nat.lt_or_ge (first / 10) (second / 10) with hlt | hge
    · exact append_lt_append_of_length_eq (by rw [length_paddedDigits, length_paddedDigits])
        (ih hlt (by omega))
    · have hsame : first / 10 = second / 10 := by omega
      have hall : ∀ b < 10, ∀ a < b, Nat.digitChar a < Nat.digitChar b := by decide
      have hdigit := hall _ (Nat.mod_lt second (by decide)) (first % 10) (by omega)
      rw [hsame]
      exact List.append_left_lt (List.cons_lt_cons_iff.mpr (Or.inl hdigit))

/-- Padded digits are in the order of the numbers. -/
theorem paddedDigits_lt_iff {width first second : ℕ} (hfirst : first < 10 ^ width)
    (hsecond : second < 10 ^ width) :
    paddedDigits width first < paddedDigits width second ↔ first < second := by
  refine ⟨fun h ↦ ?_, fun h ↦ paddedDigits_lt h hsecond⟩
  by_contra hge
  rcases Nat.lt_or_eq_of_le (Nat.le_of_not_lt hge) with hlt | rfl
  · exact lt_asymm h (paddedDigits_lt hlt hfirst)
  · exact lt_irrefl _ h

theorem paddedDigits_inj {width first second : ℕ} (hfirst : first < 10 ^ width)
    (hsecond : second < 10 ^ width) :
    paddedDigits width first = paddedDigits width second ↔ first = second := by
  refine ⟨fun h ↦ ?_, congrArg _⟩
  rcases Nat.lt_trichotomy first second with hlt | heq | hlt
  · exact absurd h (paddedDigits_lt hlt hsecond).ne
  · exact heq
  · exact absurd h.symm (paddedDigits_lt hlt hfirst).ne

theorem paddedDigits_mod (width n : ℕ) : paddedDigits width (n % 10 ^ width) = paddedDigits width n := by
  induction width generalizing n with
  | zero => rfl
  | succ width ih =>
    have hdiv : n % 10 ^ (width + 1) / 10 = n / 10 % 10 ^ width := by
      rw [Nat.pow_succ', Nat.mod_mul_right_div_self]
    have hmod : n % 10 ^ (width + 1) % 10 = n % 10 :=
      Nat.mod_mod_of_dvd n (Dvd.intro_left (10 ^ width) (Nat.pow_succ 10 width).symm)
    rw [paddedDigits, hdiv, ih, hmod, paddedDigits]

/-- A number of units of the last decimal, its whole part padded. -/
def unsignedText (width decimals units : ℕ) : List Char :=
  paddedDigits width (units / 10 ^ decimals) ++ '.' :: paddedDigits decimals units

variable {width decimals first second : ℕ} {tail tail' : List Char}

/-- With as many whole digits, numbers are in the order of their texts. -/
theorem unsigned_lt_iff (hfirst : first / 10 ^ decimals < 10 ^ width)
    (hsecond : second / 10 ^ decimals < 10 ^ width) :
    unsignedText width decimals first ++ tail < unsignedText width decimals second ++ tail' ↔
      first < second ∨ first = second ∧ tail < tail' := by
  have hpos : 0 < 10 ^ decimals := Nat.pow_pos (by decide)
  have hwhole : (paddedDigits width (first / 10 ^ decimals)).length =
      (paddedDigits width (second / 10 ^ decimals)).length := by
    rw [length_paddedDigits, length_paddedDigits]
  have hdecimals : (paddedDigits decimals (first % 10 ^ decimals)).length =
      (paddedDigits decimals (second % 10 ^ decimals)).length := by
    rw [length_paddedDigits, length_paddedDigits]
  have hfirstMod := Nat.mod_lt first hpos
  have hsecondMod := Nat.mod_lt second hpos
  rw [unsignedText, unsignedText, List.append_assoc, List.append_assoc, List.cons_append,
    List.cons_append, append_lt_append_iff_of_length_eq hwhole, List.cons_lt_cons_iff,
    ← paddedDigits_mod decimals first, ← paddedDigits_mod decimals second,
    append_lt_append_iff_of_length_eq hdecimals, paddedDigits_lt_iff hfirst hsecond,
    paddedDigits_inj hfirst hsecond, paddedDigits_lt_iff hfirstMod hsecondMod,
    paddedDigits_inj hfirstMod hsecondMod]
  have hfirstSplit := Nat.div_add_mod first (10 ^ decimals)
  have hsecondSplit := Nat.div_add_mod second (10 ^ decimals)
  constructor
  · rintro (hlt | ⟨hsame, hpoint | ⟨-, hlt | ⟨hrest, htail⟩⟩⟩)
    · exact Or.inl (Nat.lt_of_div_lt_div hlt)
    · exact absurd hpoint (lt_irrefl _)
    · rw [hsame] at hfirstSplit
      exact Or.inl (by omega)
    · rw [hsame, hrest, hsecondSplit] at hfirstSplit
      exact Or.inr ⟨hfirstSplit.symm, htail⟩
  · rintro (hlt | ⟨rfl, htail⟩)
    · rcases Nat.lt_or_eq_of_le (Nat.div_le_div_right (c := 10 ^ decimals) hlt.le) with hwhole | hsame
      · exact Or.inl hwhole
      · rw [hsame] at hfirstSplit
        exact Or.inr ⟨hsame, Or.inr ⟨rfl, Or.inl (by omega)⟩⟩
    · exact Or.inr ⟨rfl, Or.inr ⟨rfl, Or.inr ⟨rfl, htail⟩⟩⟩

/-- With more whole digits, the first of them are compared. -/
theorem unsigned_lt_of_width_lt {more : ℕ} (hmore : 0 < more)
    (hfirst : first / 10 ^ decimals < 10 ^ width)
    (hsecond : second / 10 ^ decimals < 10 ^ (width + more)) :
    (unsignedText width decimals first ++ tail <
        unsignedText (width + more) decimals second ++ tail' ↔
      first / 10 ^ decimals ≤ second / 10 ^ decimals / 10 ^ more) ∧
    (unsignedText (width + more) decimals second ++ tail' <
        unsignedText width decimals first ++ tail ↔
      second / 10 ^ decimals / 10 ^ more < first / 10 ^ decimals) := by
  have hleading : second / 10 ^ decimals / 10 ^ more < 10 ^ width := by
    rw [Nat.div_lt_iff_lt_mul (Nat.pow_pos (by decide)), ← Nat.pow_add]
    exact hsecond
  have hlength : (paddedDigits width (first / 10 ^ decimals)).length =
      (paddedDigits width (second / 10 ^ decimals / 10 ^ more)).length := by
    rw [length_paddedDigits, length_paddedDigits]
  -- after the leading digits a point is compared with a digit
  obtain ⟨digit, others, hdigits⟩ := List.exists_cons_of_length_pos
    ((length_paddedDigits more (second / 10 ^ decimals)).symm ▸ hmore)
  have hdigit : digit.isDigit = true :=
    isDigit_of_mem_paddedDigits (hdigits ▸ List.mem_cons_self)
  have hpoint : '.' < digit := by
    rw [Char.isDigit, Bool.and_eq_true, decide_eq_true_iff, decide_eq_true_iff] at hdigit
    exact lt_of_lt_of_le (by decide) hdigit.1
  rw [unsignedText, unsignedText, paddedDigits_add, hdigits]
  simp only [List.append_assoc, List.cons_append]
  rw [append_lt_append_iff_of_length_eq hlength, append_lt_append_iff_of_length_eq hlength.symm,
    paddedDigits_lt_iff hfirst hleading, paddedDigits_lt_iff hleading hfirst,
    paddedDigits_inj hfirst hleading, paddedDigits_inj hleading hfirst, List.cons_lt_cons_iff,
    List.cons_lt_cons_iff]
  constructor
  · rw [Nat.le_iff_lt_or_eq]
    exact or_congr_right ⟨fun h ↦ h.1, fun h ↦ ⟨h, Or.inl hpoint⟩⟩
  · refine ⟨?_, Or.inl⟩
    rintro (hlt | ⟨-, hlt | ⟨hsame, -⟩⟩)
    · exact hlt
    · exact absurd hlt (lt_asymm hpoint)
    · exact absurd hsame.symm hpoint.ne

end DecimalText

namespace Double

/-- The number of digits that are written before the point. -/
def wholeWidth (width decimals : ℕ) (negative : Bool) (units : ℕ) : ℕ :=
  max (width - decimals - 1 - if negative then 1 else 0) (Nat.toDigits 10 (units / 10 ^ decimals)).length

theorem whole_lt_pow_wholeWidth (width decimals : ℕ) (negative : Bool) (units : ℕ) :
    units / 10 ^ decimals < 10 ^ wholeWidth width decimals negative units :=
  (lt_pow_length_toDigits _).trans_le (Nat.pow_le_pow_right (by decide) (le_max_right _ _))

/-- A number with more whole digits is greater. -/
theorem lt_of_wholeWidth_lt {width decimals : ℕ} {negative : Bool} {first second : ℕ}
    (h : wholeWidth width decimals negative first < wholeWidth width decimals negative second) :
    first < second := by
  have hfirst := whole_lt_pow_wholeWidth width decimals negative first
  have hwidth : wholeWidth width decimals negative first <
      (Nat.toDigits 10 (second / 10 ^ decimals)).length := by
    have hmax : ∀ units, wholeWidth width decimals negative units =
        max (width - decimals - 1 - if negative then 1 else 0)
          (Nat.toDigits 10 (units / 10 ^ decimals)).length := fun _ ↦ rfl
    rw [hmax, hmax] at h
    rw [hmax]
    omega
  have hpos : 0 < wholeWidth width decimals negative first :=
    (List.length_pos_iff.mpr Nat.toDigits_ne_nil).trans_le (le_max_right _ _)
  have hsecond : 10 ^ wholeWidth width decimals negative first ≤ second / 10 ^ decimals := by
    by_contra hlt
    have hle := (Nat.length_toDigits_le_iff (by decide) hpos).mpr (not_le.mp hlt)
    omega
  exact Nat.lt_of_div_lt_div (hfirst.trans_le hsecond)

/-- A text with its zeros is a number with its whole part padded. -/
theorem zeroFilled_fixedBody (width decimals : ℕ) (negative : Bool) (units : ℕ) :
    zeroFilled width negative (fixedBody decimals units) =
      (if negative then ['-'] else []) ++
        unsignedText (wholeWidth width decimals negative units) decimals units := by
  have hcount : width - (if negative then ['-'] else []).length - (fixedBody decimals units).length =
      (width - decimals - 1 - if negative then 1 else 0) -
        (Nat.toDigits 10 (units / 10 ^ decimals)).length := by
    rw [fixedBody, List.length_append, List.length_cons, length_paddedDigits]
    cases negative
    · simp only [Bool.false_eq_true, if_false, List.length_nil]
      omega
    · simp only [if_true, List.length_singleton]
      omega
  rw [zeroFilled, hcount, fixedBody, ← List.append_assoc (List.replicate _ _), replicate_append_toDigits]
  rfl

end Double

end SchemaPilot.Library
