import SchemaPilot.Library.DigitRun
import SchemaPilot.Library.FloatLiteral

/-!
# Decimal texts

Numbers written with a fixed number of digits (`paddedDigits`) and with a mark before every three digits
(`groupedDigits`), and what `float` reads of such digits and at most one point
(`floatLiteral?_point`, `floatLiteral?_whole`). Two points are none too few (`floatLiteral?_points`).
-/

namespace SchemaPilot.Library.DecimalText

open Json

/-! ### Writing -/

/-- The last `width` digits of a number. -/
def paddedDigits : ℕ → ℕ → List Char
  | 0, _ => []
  | width + 1, n => paddedDigits width (n / 10) ++ [Nat.digitChar (n % 10)]

/-- The digits of a number, a mark before every three of them from the end. -/
def groupedDigits (mark : Char) (n : ℕ) : List Char :=
  if n < 1000 then Nat.toDigits 10 n
  else groupedDigits mark (n / 1000) ++ mark :: paddedDigits 3 n
termination_by n
decreasing_by omega

@[simp] theorem length_paddedDigits (width n : ℕ) : (paddedDigits width n).length = width := by
  induction width generalizing n with
  | zero => rfl
  | succ width ih => rw [paddedDigits, List.length_append, ih, List.length_singleton]

theorem isDigit_of_mem_toDigits {n : ℕ} {c : Char} (h : c ∈ Nat.toDigits 10 n) :
    c.isDigit = true :=
  Nat.isDigit_of_mem_toDigits (by norm_num) (by norm_num) h

theorem isDigit_of_mem_paddedDigits {width n : ℕ} {c : Char} (h : c ∈ paddedDigits width n) :
    c.isDigit = true := by
  induction width generalizing n with
  | zero => exact absurd h List.not_mem_nil
  | succ width ih =>
    rw [paddedDigits, List.mem_append, List.mem_singleton] at h
    rcases h with h | rfl
    · exact ih h
    · rw [Nat.isDigit_digitChar]
      exact decide_eq_true (Nat.mod_lt n (by norm_num))

/-- A number of more than `width` digits ends in its last ones. -/
theorem toDigits_append_paddedDigits {width n : ℕ} (h : 10 ^ width ≤ n) :
    Nat.toDigits 10 (n / 10 ^ width) ++ paddedDigits width n = Nat.toDigits 10 n := by
  induction width generalizing n with
  | zero => rw [Nat.pow_zero, Nat.div_one, paddedDigits, List.append_nil]
  | succ width ih =>
    have hpow : 0 < 10 ^ width := Nat.pow_pos (by norm_num)
    have hle : 10 ^ width ≤ n / 10 := by
      rw [Nat.le_div_iff_mul_le (by norm_num), ← Nat.pow_succ]
      exact h
    rw [paddedDigits, ← List.append_assoc, Nat.pow_succ', ← Nat.div_div_eq_div_mul, ih hle,
      ← Nat.toDigits_of_base_le (by norm_num) (by rw [Nat.pow_succ] at h; omega)]

/-- The marks aside, grouped digits are those of the number. -/
theorem filter_groupedDigits {mark : Char} (hmark : mark.isDigit = false) (n : ℕ) :
    (groupedDigits mark n).filter (· ≠ mark) = Nat.toDigits 10 n := by
  have hdigits : ∀ chars : List Char, (∀ c ∈ chars, c.isDigit = true) →
      chars.filter (· ≠ mark) = chars := by
    intro chars hchars
    refine List.filter_eq_self.mpr fun c hc ↦ decide_eq_true ?_
    rintro rfl
    rw [hchars c hc] at hmark
    cases hmark
  induction n using Nat.strong_induction_on with
  | _ n ih =>
    rw [groupedDigits]
    split_ifs with hlt
    · exact hdigits _ fun _ ↦ isDigit_of_mem_toDigits
    · have hle : 10 ^ 3 ≤ n := Nat.le_of_not_lt hlt
      rw [List.filter_append, ih (n / 1000) (by omega), List.filter_cons,
        hdigits _ fun c hc ↦ isDigit_of_mem_paddedDigits hc, if_neg (by simp)]
      exact toDigits_append_paddedDigits hle

theorem groupedDigits_ne_nil (mark : Char) (n : ℕ) : groupedDigits mark n ≠ [] := by
  rw [groupedDigits]
  split_ifs
  · exact Nat.toDigits_ne_nil
  · exact List.append_ne_nil_of_right_ne_nil _ (List.cons_ne_nil _ _)

theorem mem_groupedDigits {mark c : Char} {n : ℕ} (h : c ∈ groupedDigits mark n) :
    c.isDigit = true ∨ c = mark := by
  induction n using Nat.strong_induction_on with
  | _ n ih =>
    rw [groupedDigits] at h
    split_ifs at h with hlt
    · exact Or.inl (isDigit_of_mem_toDigits h)
    · rw [List.mem_append, List.mem_cons] at h
      rcases h with h | rfl | h
      · exact ih (n / 1000) (by omega) h
      · exact Or.inr rfl
      · exact Or.inl (isDigit_of_mem_paddedDigits h)

/-- A number below a million has one mark at most. -/
theorem groupedDigits_eq_of_lt {mark : Char} {n : ℕ} (hle : 1000 ≤ n) (hlt : n < 1000000) :
    groupedDigits mark n = Nat.toDigits 10 (n / 1000) ++ mark :: paddedDigits 3 n := by
  rw [groupedDigits, if_neg (by omega), groupedDigits, if_pos (by omega)]

/-- What is before the first mark, and what is after it. -/
theorem exists_groups (mark : Char) {n : ℕ} (h : 1000 ≤ n) : ∃ whole rest,
    groupedDigits mark n = whole ++ mark :: rest ∧ (∀ c ∈ whole, c.isDigit = true) ∧
      (∀ c ∈ rest, c.isDigit = true ∨ c = mark) ∧ (1000000 ≤ n → mark ∈ rest) := by
  induction n using Nat.strong_induction_on with
  | _ n ih =>
    by_cases hlt : n < 1000000
    · exact ⟨_, _, groupedDigits_eq_of_lt h hlt, fun _ ↦ isDigit_of_mem_toDigits,
        fun _ hc ↦ Or.inl (isDigit_of_mem_paddedDigits hc), fun hle ↦ absurd hlt (by omega)⟩
    · obtain ⟨whole, rest, hgroups, hwhole, hrest, -⟩ := ih (n / 1000) (by omega) (by omega)
      refine ⟨whole, rest ++ mark :: paddedDigits 3 n, ?_, hwhole, fun c hc ↦ ?_,
        fun _ ↦ List.mem_append_right _ List.mem_cons_self⟩
      · rw [groupedDigits, if_neg (by omega), hgroups, List.append_assoc, List.cons_append]
      · rcases List.mem_append.mp hc with hc | hc
        · exact hrest c hc
        · rcases List.mem_cons.mp hc with rfl | hc
          · exact Or.inr rfl
          · exact Or.inl (isDigit_of_mem_paddedDigits hc)

/-- Another mark in the place of the marks. -/
theorem map_groupedDigits {mark mark' : Char} {replace : Char → Char}
    (hdigit : ∀ c, c.isDigit = true → replace c = c) (hmark : replace mark = mark') (n : ℕ) :
    (groupedDigits mark n).map replace = groupedDigits mark' n := by
  have hdigits : ∀ chars : List Char, (∀ c ∈ chars, c.isDigit = true) →
      chars.map replace = chars := fun chars hchars ↦
    (List.map_congr_left fun c hc ↦ hdigit c (hchars c hc)).trans (List.map_id chars)
  induction n using Nat.strong_induction_on with
  | _ n ih =>
    rw [groupedDigits, groupedDigits.eq_1 mark']
    split_ifs with hlt
    · exact hdigits _ fun _ ↦ isDigit_of_mem_toDigits
    · rw [List.map_append, List.map_cons, ih (n / 1000) (by omega), hmark,
        hdigits _ fun _ ↦ isDigit_of_mem_paddedDigits]

/-- A text is split at its first mark. -/
theorem takeWhile_mark {mark : Char} {before : List Char} (h : mark ∉ before) (rest : List Char) :
    (before ++ mark :: rest).takeWhile (· != mark) = before ∧
      (before ++ mark :: rest).dropWhile (· != mark) = mark :: rest := by
  have hbefore : ∀ c ∈ before, (c != mark) = true := fun c hc ↦
    bne_iff_ne.mpr fun heq ↦ h (heq ▸ hc)
  rw [List.takeWhile_append_of_pos hbefore, List.dropWhile_append_of_pos hbefore,
    List.takeWhile_cons_of_neg (by simp), List.dropWhile_cons_of_neg (by simp)]
  exact ⟨List.append_nil before, rfl⟩

/-! ### Numbers denoted -/

/-- Characters are the digits of a number. -/
def Denotes (chars : List Char) (n : ℕ) : Prop :=
  ∃ digits, List.Forall₂ (fun c digit ↦ digitValue? c = some digit) chars digits ∧
    ofDigits digits = n

theorem Denotes.append {first second : List Char} {m n : ℕ} (hfirst : Denotes first m)
    (hsecond : Denotes second n) : Denotes (first ++ second) (m * 10 ^ second.length + n) := by
  obtain ⟨digits, hdigits, rfl⟩ := hfirst
  obtain ⟨others, hothers, rfl⟩ := hsecond
  exact ⟨digits ++ others, List.rel_append hdigits hothers, by
    rw [ofDigits_append, hothers.length_eq]⟩

theorem denotes_toDigits (n : ℕ) : Denotes (Nat.toDigits 10 n) n := exists_digits_toDigits n

theorem denotes_paddedDigits (width n : ℕ) : Denotes (paddedDigits width n) (n % 10 ^ width) := by
  induction width generalizing n with
  | zero => exact ⟨[], List.Forall₂.nil, by rw [Nat.pow_zero, Nat.mod_one]; rfl⟩
  | succ width ih =>
    have hmod : n % 10 < 10 := Nat.mod_lt n (by norm_num)
    have hlast : Denotes [Nat.digitChar (n % 10)] (n % 10) :=
      ⟨[n % 10], List.Forall₂.cons (digitValue?_digitChar hmod) List.Forall₂.nil,
        ofDigits_singleton _⟩
    have hsum := (ih (n / 10)).append hlast
    rwa [List.length_singleton, Nat.pow_one, Nat.mul_comm, Nat.add_comm, ← Nat.mod_mul,
      ← Nat.pow_succ'] at hsum

/-- Leading zeros do not change a number. -/
theorem Denotes.zeros_append {chars : List Char} {n : ℕ} (h : Denotes chars n) (zeros : ℕ) :
    Denotes (List.replicate zeros '0' ++ chars) n := by
  induction zeros with
  | zero => exact h
  | succ zeros ih =>
    obtain ⟨digits, hdigits, hvalue⟩ := ih
    refine ⟨0 :: digits, List.Forall₂.cons (by decide) hdigits, ?_⟩
    rw [← List.singleton_append, ofDigits_append, ofDigits_singleton, Nat.zero_mul, Nat.zero_add,
      hvalue]

/-! ### Reading -/

def signChars (negative : Bool) : List Char := if negative then ['-'] else []

def isDecimalChar (c : Char) : Bool := c.isDigit || c == '.'

theorem stripNumber_eq_self {chars : List Char} (h : ∀ c ∈ chars, isNumberBlank c = false) :
    stripNumber chars = chars := by
  have hdrop : chars.dropWhile isNumberBlank = chars := by
    rw [List.dropWhile_eq_self_iff]
    intro hpos
    rw [h _ (List.getElem_mem hpos)]
    exact Bool.false_ne_true
  rw [stripNumber, hdrop, List.rdropWhile_eq_self_iff]
  intro hne
  rw [h _ (List.getLast_mem hne)]
  exact Bool.false_ne_true

theorem isDecimalChar_iff {c : Char} : isDecimalChar c = true ↔ c.isDigit = true ∨ c = '.' := by
  rw [isDecimalChar, Bool.or_eq_true, beq_iff_eq]

/-- A digit of ASCII is one of ten. -/
theorem exists_digitChar {c : Char} (h : c.isDigit = true) :
    ∃ digit < 10, c = Nat.digitChar digit := by
  rw [Char.isDigit, Bool.and_eq_true, decide_eq_true_iff, decide_eq_true_iff] at h
  have hlow : 48 ≤ c.toNat := h.1
  have hhigh : c.toNat ≤ 57 := h.2
  refine ⟨c.toNat - 48, by omega, Char.toNat_inj.mp ?_⟩
  rw [Nat.toNat_digitChar_of_lt_ten (by omega)]
  omega

/-- What a digit or a point is not. -/
theorem isDecimalChar_cases {c : Char} (h : isDecimalChar c = true) :
    isNumberBlank c = false ∧ isExponentChar c = false ∧ c ≠ '-' ∧ c ≠ '+' ∧ c ≠ '_' ∧
      Text.lowerAscii c ≠ 'n' := by
  rcases isDecimalChar_iff.mp h with hdigit | rfl
  · obtain ⟨digit, hlt, rfl⟩ := exists_digitChar hdigit
    have hall : ∀ digit < 10, isNumberBlank (Nat.digitChar digit) = false ∧
        isExponentChar (Nat.digitChar digit) = false ∧ Nat.digitChar digit ≠ '-' ∧
        Nat.digitChar digit ≠ '+' ∧ Nat.digitChar digit ≠ '_' ∧
        Text.lowerAscii (Nat.digitChar digit) ≠ 'n' := by decide
    exact hall digit hlt
  · decide

theorem intOfString?_of_denotes {chars : List Char} {n : ℕ} (hn : Denotes chars n)
    (h : ∀ c ∈ chars, c.isDigit = true) (hne : chars ≠ []) (hlength : chars.length ≤ 4300) :
    intOfString? (String.ofList chars) = some (n : ℤ) := by
  obtain ⟨digits, hdigits, rfl⟩ := hn
  have hcases : ∀ c ∈ chars, isNumberBlank c = false ∧ isExponentChar c = false ∧ c ≠ '-' ∧
      c ≠ '+' ∧ c ≠ '_' ∧ Text.lowerAscii c ≠ 'n' := fun c hc ↦
    isDecimalChar_cases (isDecimalChar_iff.mpr (Or.inl (h c hc)))
  have hrun : digitRun? chars = some digits :=
    (digitRun?_eq_some_iff fun hmem ↦ (hcases _ hmem).2.2.2.2.1 rfl).mpr ⟨hne, hdigits⟩
  unfold intOfString?
  rw [String.toList_ofList, stripNumber_eq_self fun c hc ↦ (hcases c hc).1]
  dsimp only
  split
  · exact absurd rfl (hcases _ List.mem_cons_self).2.2.1
  · exact absurd rfl (hcases _ List.mem_cons_self).2.2.2.1
  · rw [hrun, Option.bind_some, if_pos (hdigits.length_eq ▸ hlength)]
    rfl

section Decimal

variable {negative : Bool} {chars : List Char}

/-- A sign and digits with points are read as a decimal number. -/
theorem floatLiteral?_decimal (h : ∀ c ∈ chars, isDecimalChar c = true) :
    floatLiteral? (String.ofList (signChars negative ++ chars)) = decimalLiteral? negative chars := by
  have hstrip : stripNumber (signChars negative ++ chars) = signChars negative ++ chars := by
    refine stripNumber_eq_self fun c hc ↦ ?_
    rcases List.mem_append.mp hc with hsign | hc
    · cases negative with
      | false => exact absurd hsign List.not_mem_nil
      | true => rw [List.mem_singleton.mp hsign]; decide
    · exact (isDecimalChar_cases (h c hc)).1
  -- every special value is a word with an n
  have hword : ∀ word : String, 'n' ∈ word.toList →
      String.ofList (chars.map Text.lowerAscii) ≠ word := by
    rintro word hn rfl
    rw [String.toList_ofList] at hn
    obtain ⟨c, hc, hlower⟩ := List.mem_map.mp hn
    exact (isDecimalChar_cases (h c hc)).2.2.2.2.2 hlower
  have hunsigned : unsignedLiteral? negative chars = decimalLiteral? negative chars := by
    rw [unsignedLiteral?, if_neg (hword "nan" (by decide)),
      if_neg (not_or.mpr ⟨hword "inf" (by decide), hword "infinity" (by decide)⟩)]
  rw [floatLiteral?, String.toList_ofList, hstrip, ← hunsigned]
  cases negative with
  | true => rfl
  | false =>
    change signedLiteral? chars = _
    unfold signedLiteral?
    split
    · exact absurd rfl (isDecimalChar_cases (h _ List.mem_cons_self)).2.2.1
    · exact absurd rfl (isDecimalChar_cases (h _ List.mem_cons_self)).2.2.2.1
    · rfl

/-- A decimal number without an exponent. -/
theorem decimalLiteral?_eq (h : ∀ c ∈ chars, isDecimalChar c = true) :
    decimalLiteral? negative chars =
      (digitPart? (chars.takeWhile (· != '.'))).bind fun whole ↦
        (digitPart? (chars.dropWhile (· != '.')).tail).bind fun fraction ↦
          if whole = [] ∧ fraction = [] then none
          else some (.decimal negative (ofDigits (whole ++ fraction)) (-fraction.length)) := by
  have hplain : ∀ c ∈ chars, (!isExponentChar c) = true := by
    intro c hc
    rw [(isDecimalChar_cases (h c hc)).2.1]
    rfl
  rw [decimalLiteral?, List.takeWhile_eq_self_iff.mpr hplain,
    List.dropWhile_eq_nil_iff.mpr hplain]
  simp [exponentPart?]

end Decimal

/-- The digits before or after a point. -/
theorem digitPart?_eq_of_denotes {chars : List Char} {n : ℕ} (hn : Denotes chars n)
    (h : ∀ c ∈ chars, c.isDigit = true) : ∃ digits, digitPart? chars = some digits ∧
      digits.length = chars.length ∧ ofDigits digits = n := by
  obtain ⟨digits, hdigits, rfl⟩ := hn
  refine ⟨digits, ?_, hdigits.length_eq.symm, rfl⟩
  rw [digitPart?]
  split_ifs with hnil
  · subst hnil
    rw [List.forall₂_nil_left_iff.mp hdigits]
  · refine (digitRun?_eq_some_iff fun hmem ↦ ?_).mpr ⟨hnil, hdigits⟩
    exact absurd (h _ hmem) (by decide)

section Points

variable (negative : Bool) {whole fraction : List Char} {m n : ℕ}

theorem bne_point_of_isDigit {c : Char} (h : c.isDigit = true) : (c != '.') = true := by
  rw [bne_iff_ne]
  rintro rfl
  exact absurd h (by decide)

theorem isDecimalChar_of_mem_point (hwhole : ∀ c ∈ whole, c.isDigit = true) {rest : List Char}
    (hrest : ∀ c ∈ rest, isDecimalChar c = true) :
    ∀ c ∈ whole ++ '.' :: rest, isDecimalChar c = true := by
  intro c hc
  rcases List.mem_append.mp hc with hc | hc
  · exact isDecimalChar_iff.mpr (Or.inl (hwhole c hc))
  · rcases List.mem_cons.mp hc with rfl | hc
    · decide
    · exact hrest c hc

/-- Digits are read as their number. -/
theorem floatLiteral?_whole (hwhole : ∀ c ∈ whole, c.isDigit = true) (hne : whole ≠ [])
    (hm : Denotes whole m) : floatLiteral? (String.ofList (signChars negative ++ whole)) =
      some (.decimal negative m 0) := by
  have hdecimal : ∀ c ∈ whole, isDecimalChar c = true := fun c hc ↦
    isDecimalChar_iff.mpr (Or.inl (hwhole c hc))
  have hpoint : ∀ c ∈ whole, (c != '.') = true := fun c hc ↦ bne_point_of_isDigit (hwhole c hc)
  obtain ⟨digits, hdigits, hlength, rfl⟩ := digitPart?_eq_of_denotes hm hwhole
  have hdigitsNe : digits ≠ [] := fun hnil ↦ hne (List.length_eq_zero_iff.mp (by
    rw [← hlength, hnil]
    rfl))
  rw [floatLiteral?_decimal hdecimal, decimalLiteral?_eq hdecimal,
    List.takeWhile_eq_self_iff.mpr hpoint, List.dropWhile_eq_nil_iff.mpr hpoint, hdigits]
  simp [digitPart?, hdigitsNe]

theorem takeWhile_point (hwhole : ∀ c ∈ whole, c.isDigit = true) (rest : List Char) :
    (whole ++ '.' :: rest).takeWhile (· != '.') = whole ∧
      (whole ++ '.' :: rest).dropWhile (· != '.') = '.' :: rest :=
  takeWhile_mark (fun hmem ↦ absurd (hwhole _ hmem) (by decide)) rest

/-- Digits with a point are read as a decimal number. -/
theorem floatLiteral?_point (hwhole : ∀ c ∈ whole, c.isDigit = true) (hne : whole ≠ [])
    (hfraction : ∀ c ∈ fraction, c.isDigit = true) (hm : Denotes whole m)
    (hn : Denotes fraction n) :
    floatLiteral? (String.ofList (signChars negative ++ (whole ++ '.' :: fraction))) =
      some (.decimal negative (m * 10 ^ fraction.length + n) (-fraction.length)) := by
  have hdecimal := isDecimalChar_of_mem_point hwhole fun c hc ↦
    isDecimalChar_iff.mpr (Or.inl (hfraction c hc))
  obtain ⟨digits, hdigits, hlength, rfl⟩ := digitPart?_eq_of_denotes hm hwhole
  obtain ⟨others, hothers, hlength', rfl⟩ := digitPart?_eq_of_denotes hn hfraction
  have hdigitsNe : digits ≠ [] := fun hnil ↦ hne (List.length_eq_zero_iff.mp (by
    rw [← hlength, hnil]
    rfl))
  rw [floatLiteral?_decimal hdecimal, decimalLiteral?_eq hdecimal, (takeWhile_point hwhole _).1,
    (takeWhile_point hwhole _).2, List.tail_cons, hdigits, hothers, ← hlength']
  simp [hdigitsNe, ofDigits_append]

/-- Two points are not read. -/
theorem floatLiteral?_points (hwhole : ∀ c ∈ whole, c.isDigit = true) {rest : List Char}
    (hrest : ∀ c ∈ rest, isDecimalChar c = true) (hpoint : '.' ∈ rest) :
    floatLiteral? (String.ofList (signChars negative ++ (whole ++ '.' :: rest))) = none := by
  have hdecimal := isDecimalChar_of_mem_point hwhole hrest
  have hnone : digitPart? rest = none := by
    rw [digitPart?, if_neg (List.ne_nil_of_mem hpoint), Option.eq_none_iff_forall_ne_some]
    intro digits hdigits
    have hplain : '_' ∉ rest := fun hmem ↦ (isDecimalChar_cases (hrest _ hmem)).2.2.2.2.1 rfl
    have hrun := ((digitRun?_eq_some_iff hplain).mp hdigits).2
    exact absurd ((forall_mem_of_forall₂_digitValue? hrun).1 _ hpoint) (by decide)
  rw [floatLiteral?_decimal hdecimal, decimalLiteral?_eq hdecimal, (takeWhile_point hwhole _).2,
    List.tail_cons, hnone]
  exact Option.bind_fun_none _

end Points

end SchemaPilot.Library.DecimalText
