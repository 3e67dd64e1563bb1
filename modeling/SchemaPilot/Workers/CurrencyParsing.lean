import SchemaPilot.Library.DecimalText
import SchemaPilot.Workers.Parsing
import Mathlib.Tactic.Linarith

/-!
# Amounts that are parsed back

An amount is written with a mark before every three digits, a decimal part of any length or none, and a
currency sign. `parse_currency` takes a mark that is the only kind of separator for a decimal one, so it
reads the amount back exactly when there is a decimal part or the amount is below a thousand
(`currencyInverts_iff`); a text such as `1,234` is set aside where the other style may have three decimals.
-/

namespace SchemaPilot.Workers.Parsing

open Library Library.Json Library.DecimalText

/-! ### Formatting -/

/-- Comma groups with dot decimals, or dot groups with comma decimals. -/
inductive AmountStyle where
  | us
  | eu
deriving DecidableEq

def AmountStyle.groupMark : AmountStyle → Char
  | us => ','
  | eu => '.'

def AmountStyle.decimalMark : AmountStyle → Char
  | us => '.'
  | eu => ','

def AmountStyle.other : AmountStyle → AmountStyle
  | us => eu
  | eu => us

/-- A character of a currency sign: a letter, a blank or a symbol. -/
def isSignChar (c : Char) : Bool :=
  c.isAlpha || c == ' ' || c.toNat == 0xa0 || isCurrencySymbol c

/-- A currency sign with the blanks that set it off, such as `$`, `€ ` or ` USD`. -/
structure CurrencySign where
  chars : List Char
  isSign : ∀ c ∈ chars, isSignChar c = true

/-- Where a currency sign stands: before the number and its minus, between the two, or after them. -/
inductive SignPlace where
  | beforeMinus
  | afterMinus
  | afterNumber

structure AmountLayout where
  style : AmountStyle
  /-- The length of the decimal part. -/
  places : ℕ
  sign : CurrencySign
  place : SignPlace

def numberChars (style : AmountStyle) (places n : ℕ) : List Char :=
  groupedDigits style.groupMark (n / 10 ^ places) ++
    if places = 0 then [] else style.decimalMark :: paddedDigits places n

/-- The text of `units / 10 ^ places`; with two places, the units are cents. -/
def formatAmount (layout : AmountLayout) (units : ℤ) : String :=
  let minus := signChars (units < 0)
  let number := numberChars layout.style layout.places units.natAbs
  String.ofList <| match layout.place with
    | .beforeMinus => layout.sign.chars ++ (minus ++ number)
    | .afterMinus => minus ++ (layout.sign.chars ++ number)
    | .afterNumber => minus ++ (number ++ layout.sign.chars)

def amount (layout : AmountLayout) (units : ℤ) : ℚ := units / 10 ^ layout.places

/-- The text is a possible one of another amount in the other style, where only some lengths of the
decimal part are possible. -/
def ReadOtherwise (possible : ℕ → Prop) (layout : AmountLayout) (units : ℤ) : Prop :=
  ∃ (layout' : AmountLayout) (units' : ℤ), layout'.style ≠ layout.style ∧ possible layout'.places ∧
    formatAmount layout' units' = formatAmount layout units ∧
      amount layout' units' ≠ amount layout units

def ParsedBack (form : NormalForm) (layout : AmountLayout) (units : ℤ) : Prop :=
  ∃ literal, parseCurrency form (formatAmount layout units) = .ok literal ∧
    literal.value? = some (amount layout units)

/-- Parsing inverts formatting unless the text can be read otherwise. -/
def CurrencyInverts (form : NormalForm) (possible : ℕ → Prop) (layout : AmountLayout)
    (units : ℤ) : Prop :=
  ¬ReadOtherwise possible layout units → ParsedBack form layout units

/-! ### Cleaning -/

theorem isCurrencyChar_iff {c : Char} : isCurrencyChar c = true ↔
    c.isDigit = true ∨ c = ',' ∨ c = '.' ∨ c = '-' := by
  rw [isCurrencyChar, Bool.or_eq_true, Bool.or_eq_true, Bool.or_eq_true, beq_iff_eq, beq_iff_eq,
    beq_iff_eq, or_assoc, or_assoc]

/-- What is kept is ASCII and no part of a sign. -/
theorem isCurrencyChar_cases {c : Char} (h : isCurrencyChar c = true) :
    c.toNat < 128 ∧ isSignChar c = false ∧ Text.isSpace c = false := by
  rcases isCurrencyChar_iff.mp h with hdigit | rfl | rfl | rfl
  · obtain ⟨digit, hlt, rfl⟩ := exists_digitChar hdigit
    have hall : ∀ digit < 10, (Nat.digitChar digit).toNat < 128 ∧
        isSignChar (Nat.digitChar digit) = false ∧ Text.isSpace (Nat.digitChar digit) = false := by
      decide
    exact hall digit hlt
  · decide
  · decide
  · decide

/-- Cleaning drops what NFKC makes of a character with the character. -/
theorem filter_compatibility (c : Char) :
    (compatibility c).filter isCurrencyChar = [c].filter isCurrencyChar := by
  rw [compatibility]
  cases hlookup : compatibilityMappings.lookup c.toNat with
  | none => rfl
  | some text =>
    obtain ⟨before, after, hmappings, -⟩ := List.lookup_eq_some_iff.mp hlookup
    have hmem : (c.toNat, text) ∈ compatibilityMappings :=
      hmappings ▸ List.mem_append_right before List.mem_cons_self
    have hall : ∀ mapping ∈ compatibilityMappings, 128 ≤ mapping.1 ∧
        mapping.2.toList.filter isCurrencyChar = [] := by decide
    obtain ⟨hle, htext⟩ := hall _ hmem
    have hc : ¬isCurrencyChar c = true := fun h ↦
      absurd (isCurrencyChar_cases h).1 (Nat.not_lt_of_le hle)
    rw [Option.map_some, Option.getD_some, htext, List.filter_cons_of_neg hc, List.filter_nil]

theorem filter_stripChars {keep : Char → Bool} (h : ∀ c, keep c = true → Text.isSpace c = false)
    (chars : List Char) : (Text.stripChars chars).filter keep = chars.filter keep := by
  have hdrop : ∀ chars : List Char, (chars.dropWhile Text.isSpace).filter keep =
      chars.filter keep := by
    intro chars
    induction chars with
    | nil => rfl
    | cons c rest ih =>
      rw [List.dropWhile_cons]
      split_ifs with hspace
      · rw [ih, List.filter_cons_of_neg fun hkeep ↦ by
          rw [h c hkeep] at hspace
          cases hspace]
      · rfl
  rw [Text.stripChars, List.rdropWhile, List.filter_reverse, hdrop, List.filter_reverse,
    List.reverse_reverse, hdrop]

theorem groupMark_not_isDigit (style : AmountStyle) : style.groupMark.isDigit = false := by
  cases style <;> rfl

theorem mem_numberChars {style : AmountStyle} {places n : ℕ} {c : Char}
    (h : c ∈ numberChars style places n) :
    c.isDigit = true ∨ c = style.groupMark ∨ c = style.decimalMark := by
  rw [numberChars, List.mem_append] at h
  rcases h with h | h
  · rcases mem_groupedDigits h with h | h
    · exact Or.inl h
    · exact Or.inr (Or.inl h)
  · split_ifs at h
    · exact absurd h List.not_mem_nil
    · rcases List.mem_cons.mp h with h | h
      · exact Or.inr (Or.inr h)
      · exact Or.inl (isDigit_of_mem_paddedDigits h)

theorem isCurrencyChar_of_mem_numberChars {style : AmountStyle} {places n : ℕ} {c : Char}
    (h : c ∈ numberChars style places n) : isCurrencyChar c = true := by
  rw [isCurrencyChar_iff]
  rcases mem_numberChars h with h | rfl | rfl
  · exact Or.inl h
  · cases style
    · exact Or.inr (Or.inl rfl)
    · exact Or.inr (Or.inr (Or.inl rfl))
  · cases style
    · exact Or.inr (Or.inr (Or.inl rfl))
    · exact Or.inr (Or.inl rfl)

theorem isCurrencyChar_of_mem_signChars {negative : Bool} {c : Char} (h : c ∈ signChars negative) :
    isCurrencyChar c = true := by
  cases negative with
  | false => exact absurd h List.not_mem_nil
  | true => rw [List.mem_singleton.mp h]; rfl

section Cleaning

variable (layout : AmountLayout) (units : ℤ)

/-- The number of a text without its currency sign. -/
def cleanedAmount : List Char :=
  signChars (units < 0) ++ numberChars layout.style layout.places units.natAbs

theorem filter_cleanedAmount :
    (cleanedAmount layout units).filter isCurrencyChar = cleanedAmount layout units := by
  refine List.filter_eq_self.mpr fun c hc ↦ ?_
  rcases List.mem_append.mp hc with hc | hc
  · exact isCurrencyChar_of_mem_signChars hc
  · exact isCurrencyChar_of_mem_numberChars hc

theorem filter_formatAmount : (formatAmount layout units).toList.filter isCurrencyChar =
    cleanedAmount layout units := by
  have hsign : layout.sign.chars.filter isCurrencyChar = [] := by
    rw [List.filter_eq_nil_iff]
    intro c hc hkeep
    have hfalse := (isCurrencyChar_cases hkeep).2.1
    rw [layout.sign.isSign c hc] at hfalse
    cases hfalse
  rw [formatAmount, String.toList_ofList, ← filter_cleanedAmount, cleanedAmount]
  cases layout.place
  · rw [List.filter_append, hsign, List.nil_append]
  · simp only [List.filter_append, hsign, List.nil_append]
  · simp only [List.filter_append, hsign, List.append_nil]

theorem isPlainChar_of_isSignChar {c : Char} (h : isSignChar c = true) : isPlainChar c = true := by
  simp only [isSignChar, Bool.or_eq_true] at h
  simp only [isPlainChar, Bool.or_eq_true, decide_eq_true_iff]
  rcases h with ((halpha | hblank) | hhard) | hsymbol
  · have hword : Text.isWordStart c = true := by simp [Text.isWordStart, halpha]
    have hrange := (Text.isWordStart_iff c).mp hword
    exact Or.inl (Or.inl (by omega))
  · exact Or.inl (Or.inl (beq_iff_eq.mp hblank ▸ by decide))
  · exact Or.inl (Or.inr hhard)
  · exact Or.inr hsymbol

theorem isPlainChar_of_mem_formatAmount {c : Char} (h : c ∈ (formatAmount layout units).toList) :
    isPlainChar c = true := by
  have hcases : c ∈ layout.sign.chars ∨ c ∈ cleanedAmount layout units := by
    rw [formatAmount, String.toList_ofList] at h
    rw [cleanedAmount, List.mem_append]
    cases hplace : layout.place <;> rw [hplace] at h <;> simp only [List.mem_append] at h <;> tauto
  rcases hcases with hsign | hcleaned
  · exact isPlainChar_of_isSignChar (layout.sign.isSign c hsign)
  · rw [← filter_cleanedAmount, List.mem_filter] at hcleaned
    simp [isPlainChar, (isCurrencyChar_cases hcleaned.2).1]

/-- Cleaning leaves the number with its minus. -/
theorem cleaned_formatAmount (form : NormalForm) :
    (Profiler.normalizeText form.normalize (formatAmount layout units)).toList.filter
      isCurrencyChar = cleanedAmount layout units := by
  have hflat : ∀ chars : List Char,
      (chars.flatMap compatibility).filter isCurrencyChar = chars.filter isCurrencyChar := by
    intro chars
    induction chars with
    | nil => rfl
    | cons c rest ih =>
      rw [List.flatMap_cons, List.filter_append, ih, filter_compatibility, ← List.filter_append]
      rfl
  rw [Profiler.normalizeText, Text.toList_strip,
    filter_stripChars fun c hc ↦ (isCurrencyChar_cases hc).2.2,
    form.normalize_plain _ fun c ↦ isPlainChar_of_mem_formatAmount layout units,
    String.toList_ofList, hflat, filter_formatAmount]

theorem cleanedAmount_ne_nil : cleanedAmount layout units ≠ [] :=
  List.append_ne_nil_of_right_ne_nil _
    (List.append_ne_nil_of_left_ne_nil (groupedDigits_ne_nil _ _) _)

theorem parseCurrency_formatAmount (form : NormalForm) :
    parseCurrency form (formatAmount layout units) =
      toFloat (decimalText (cleanedAmount layout units)) := by
  rw [parseCurrency, cleaned_formatAmount, if_neg (cleanedAmount_ne_nil layout units)]

end Cleaning

/-! ### Separators -/

theorem rfind_append_of_notMem {c : Char} {after : List Char} (h : c ∉ after)
    (before : List Char) : rfind c (before ++ after) = rfind c before := by
  have hreverse : c ∉ after.reverse := fun hmem ↦ h (List.mem_reverse.mp hmem)
  rw [rfind, rfind, List.reverse_append, List.idxOf_append_of_notMem hreverse, List.length_append,
    List.length_reverse]
  push_cast
  ring

theorem rfind_concat (c : Char) (before : List Char) :
    rfind c (before ++ [c]) = before.length := by
  rw [rfind, List.reverse_append, List.reverse_singleton, List.singleton_append, List.idxOf_cons_self,
    List.length_append, List.length_singleton]
  push_cast
  ring

theorem rfind_lt_length (c : Char) (chars : List Char) : rfind c chars < chars.length := by
  rw [rfind]
  omega

theorem map_pointForComma {chars : List Char} (h : ',' ∉ chars) :
    chars.map pointForComma = chars := by
  conv_rhs => rw [← List.map_id chars]
  refine List.map_congr_left fun c hc ↦ ?_
  rw [pointForComma, if_neg fun heq : c = ',' ↦ h (heq ▸ hc), id]

/-- A text without commas is left as it is. -/
theorem decimalText_of_no_comma {chars : List Char} (h : ',' ∉ chars) :
    decimalText chars = chars := by
  rw [decimalText, List.count_eq_zero_of_not_mem h, if_neg fun hboth ↦ hboth.1 rfl,
    if_neg fun hcomma ↦ hcomma.1 rfl]

/-- Without points, every comma becomes one. -/
theorem decimalText_of_no_point {chars : List Char} (h : '.' ∉ chars) :
    decimalText chars = chars.map pointForComma := by
  by_cases hcomma : ',' ∈ chars
  · rw [decimalText, List.count_eq_zero_of_not_mem h, if_neg fun hboth ↦ hboth.2 rfl,
      if_pos ⟨(List.count_pos_iff.mpr hcomma).ne', rfl⟩]
  · rw [decimalText_of_no_comma hcomma, map_pointForComma hcomma]

/-- The last separator is the decimal one. -/
theorem decimalText_of_both {before after : List Char} {style : AmountStyle}
    (hmark : style.groupMark ∈ before) (hdigits : ∀ c ∈ after, c.isDigit = true) :
    decimalText (before ++ style.decimalMark :: after) =
      ((before ++ style.decimalMark :: after).filter (· ≠ style.groupMark)).map pointForComma := by
  have hafter : ∀ c, c.isDigit = false → c ∉ after := by
    intro c hc hmem
    rw [hdigits c hmem] at hc
    cases hc
  have hdecimal : rfind style.decimalMark (before ++ style.decimalMark :: after) = before.length := by
    rw [← List.singleton_append, ← List.append_assoc,
      rfind_append_of_notMem (hafter _ (by cases style <;> rfl)), rfind_concat]
  have hgroup : rfind style.groupMark (before ++ style.decimalMark :: after) < before.length := by
    have hne : style.groupMark ∉ style.decimalMark :: after := by
      rw [List.mem_cons, not_or]
      exact ⟨by cases style <;> decide, hafter _ (groupMark_not_isDigit style)⟩
    rw [rfind_append_of_notMem hne]
    exact rfind_lt_length _ _
  have hlater := hdecimal.symm ▸ hgroup
  have hcount : ∀ c, c = style.groupMark ∨ c = style.decimalMark →
      (before ++ style.decimalMark :: after).count c ≠ 0 := by
    rintro c (rfl | rfl)
    · exact (List.count_pos_iff.mpr (List.mem_append_left _ hmark)).ne'
    · exact (List.count_pos_iff.mpr (List.mem_append_right _ List.mem_cons_self)).ne'
  cases style with
  | us =>
    change rfind ',' _ < rfind '.' _ at hlater
    rw [decimalText, if_pos ⟨hcount ',' (Or.inl rfl), hcount '.' (Or.inr rfl)⟩,
      if_neg (not_lt_of_gt hlater)]
    have hgone : ',' ∉ (before ++ '.' :: after).filter (· ≠ ',') := fun hmem ↦
      (decide_eq_true_iff.mp (List.mem_filter.mp hmem).2) rfl
    exact (map_pointForComma hgone).symm
  | eu =>
    change rfind '.' _ < rfind ',' _ at hlater
    rw [decimalText, if_pos ⟨hcount ',' (Or.inr rfl), hcount '.' (Or.inl rfl)⟩, if_pos hlater]
    rfl

theorem decimalText_of_decimalMark {before after : List Char} (style : AmountStyle)
    (hdigits : ∀ c ∈ after, c.isDigit = true) :
    decimalText (before ++ style.decimalMark :: after) =
      ((before ++ style.decimalMark :: after).filter (· ≠ style.groupMark)).map pointForComma := by
  by_cases hmark : style.groupMark ∈ before
  · exact decimalText_of_both hmark hdigits
  · have hnone : style.groupMark ∉ before ++ style.decimalMark :: after := by
      rw [List.mem_append, List.mem_cons, not_or, not_or]
      refine ⟨hmark, by cases style <;> decide, fun hmem ↦ ?_⟩
      exact absurd (hdigits _ hmem) (by rw [groupMark_not_isDigit]; exact Bool.false_ne_true)
    have hself : (before ++ style.decimalMark :: after).filter (· ≠ style.groupMark) =
        before ++ style.decimalMark :: after :=
      List.filter_eq_self.mpr fun c hc ↦ decide_eq_true fun heq ↦ hnone (heq ▸ hc)
    rw [hself]
    cases style with
    | us => rw [decimalText_of_no_comma hnone, map_pointForComma hnone]
    | eu => rw [decimalText_of_no_point hnone]

/-! ### Reading back -/

section ReadingBack

variable (layout : AmountLayout) (units : ℤ)

theorem pointForComma_of_isDigit {c : Char} (h : c.isDigit = true) : pointForComma c = c := by
  rw [pointForComma, if_neg]
  rintro rfl
  cases h

theorem map_pointForComma_digits {chars : List Char} (h : ∀ c ∈ chars, c.isDigit = true) :
    chars.map pointForComma = chars :=
  map_pointForComma fun hmem ↦ by cases h ',' hmem

theorem map_pointForComma_signChars (negative : Bool) :
    (signChars negative).map pointForComma = signChars negative := by
  cases negative <;> rfl

theorem filter_signChars (style : AmountStyle) (negative : Bool) :
    (signChars negative).filter (· ≠ style.groupMark) = signChars negative := by
  cases style <;> cases negative <;> rfl

/-- With a decimal part, the marks go and the decimal mark becomes a point. -/
theorem decimalText_of_places (hplaces : layout.places ≠ 0) :
    decimalText (cleanedAmount layout units) = signChars (units < 0) ++
      (Nat.toDigits 10 (units.natAbs / 10 ^ layout.places) ++
        '.' :: paddedDigits layout.places units.natAbs) := by
  have hfraction : ∀ c ∈ paddedDigits layout.places units.natAbs, c.isDigit = true :=
    fun _ ↦ isDigit_of_mem_paddedDigits
  have hkept : (paddedDigits layout.places units.natAbs).filter (· ≠ layout.style.groupMark) =
      paddedDigits layout.places units.natAbs := by
    refine List.filter_eq_self.mpr fun c hc ↦ decide_eq_true ?_
    rintro rfl
    exact absurd (hfraction _ hc) (by rw [groupMark_not_isDigit]; exact Bool.false_ne_true)
  have hdecimal : decide (layout.style.decimalMark ≠ layout.style.groupMark) = true ∧
      pointForComma layout.style.decimalMark = '.' := by
    cases layout.style <;> decide
  rw [cleanedAmount, numberChars, if_neg hplaces, ← List.append_assoc,
    decimalText_of_decimalMark _ hfraction, List.filter_append, List.filter_append,
    filter_signChars, filter_groupedDigits (groupMark_not_isDigit _), List.filter_cons,
    if_pos hdecimal.1, hkept, List.map_append, List.map_append, List.map_cons, hdecimal.2,
    map_pointForComma_signChars, map_pointForComma_digits fun _ ↦ isDigit_of_mem_toDigits,
    map_pointForComma_digits hfraction, List.append_assoc]

theorem cleanedAmount_of_whole (hplaces : layout.places = 0) : cleanedAmount layout units =
    signChars (units < 0) ++ groupedDigits layout.style.groupMark units.natAbs := by
  rw [cleanedAmount, numberChars, hplaces, if_pos rfl, List.append_nil, Nat.pow_zero, Nat.div_one]

/-- Without one, every mark becomes a point. -/
theorem decimalText_of_whole (hplaces : layout.places = 0) :
    decimalText (cleanedAmount layout units) =
      signChars (units < 0) ++ groupedDigits '.' units.natAbs := by
  rw [cleanedAmount_of_whole layout units hplaces]
  have hmem : ∀ {c : Char}, c ∈ signChars (units < 0) ++
      groupedDigits layout.style.groupMark units.natAbs →
        c = '-' ∨ c.isDigit = true ∨ c = layout.style.groupMark := by
    intro c hc
    rcases List.mem_append.mp hc with hc | hc
    · refine Or.inl ?_
      cases hneg : decide (units < 0) with
      | false => rw [hneg] at hc; exact absurd hc List.not_mem_nil
      | true => rw [hneg] at hc; exact List.mem_singleton.mp hc
    · exact Or.inr (mem_groupedDigits hc)
  cases hstyle : layout.style with
  | us =>
    rw [hstyle] at hmem
    rw [decimalText_of_no_point fun hpoint ↦ absurd (hmem hpoint) (by decide), List.map_append,
      map_pointForComma_signChars, map_groupedDigits (fun _ ↦ pointForComma_of_isDigit) rfl]
    rfl
  | eu =>
    rw [hstyle] at hmem
    exact decimalText_of_no_comma fun hcomma ↦ absurd (hmem hcomma) (by decide)

theorem toFloat_eq_ok {chars : List Char} {literal : FloatLiteral} :
    toFloat chars = .ok literal ↔ floatLiteral? (String.ofList chars) = some literal := by
  rw [toFloat]
  cases floatLiteral? (String.ofList chars) with
  | none => exact iff_of_false nofun nofun
  | some literal => exact ⟨fun h ↦ congrArg some (Except.ok.inj h), fun h ↦
      congrArg Except.ok (Option.some_inj.mp h)⟩

theorem parsedBack_iff (form : NormalForm) : ParsedBack form layout units ↔
    ∃ literal, floatLiteral? (String.ofList (decimalText (cleanedAmount layout units))) =
      some literal ∧ literal.value? = some (amount layout units) := by
  rw [ParsedBack, parseCurrency_formatAmount]
  simp only [toFloat_eq_ok]

/-- The number of a minus and a magnitude. -/
theorem sign_mul_natAbs (units : ℤ) :
    (if decide (units < 0) = true then (-1 : ℚ) else 1) * (units.natAbs : ℚ) = units := by
  by_cases h : units < 0
  · rw [if_pos (decide_eq_true h), ← Int.cast_natCast, Int.natCast_natAbs, abs_of_neg h]
    push_cast
    ring
  · rw [if_neg (by simpa using h), ← Int.cast_natCast, Int.natCast_natAbs,
      abs_of_nonneg (le_of_not_gt h), one_mul]

theorem value?_decimal (units : ℤ) (places : ℕ) :
    (FloatLiteral.decimal (units < 0) units.natAbs (-places)).value? =
      some ((units : ℚ) / 10 ^ places) := by
  rw [FloatLiteral.value?, sign_mul_natAbs, zpow_neg, zpow_natCast, div_eq_mul_inv]

theorem parsedBack_of_places (form : NormalForm) (hplaces : layout.places ≠ 0) :
    ParsedBack form layout units := by
  rw [parsedBack_iff, decimalText_of_places layout units hplaces,
    floatLiteral?_point _ (fun _ ↦ isDigit_of_mem_toDigits) Nat.toDigits_ne_nil
      (fun _ ↦ isDigit_of_mem_paddedDigits) (denotes_toDigits _) (denotes_paddedDigits _ _),
    length_paddedDigits, Nat.div_add_mod']
  exact ⟨_, rfl, value?_decimal units layout.places⟩

theorem parsedBack_of_lt (form : NormalForm) (hplaces : layout.places = 0)
    (hlt : units.natAbs < 1000) : ParsedBack form layout units := by
  rw [parsedBack_iff, decimalText_of_whole layout units hplaces, groupedDigits, if_pos hlt,
    floatLiteral?_whole _ (fun _ ↦ isDigit_of_mem_toDigits) Nat.toDigits_ne_nil (denotes_toDigits _)]
  refine ⟨_, rfl, ?_⟩
  rw [amount, hplaces]
  exact value?_decimal units 0

theorem div_thousand_ne {units : ℤ} (h : 1000 ≤ units.natAbs) :
    (units : ℚ) / 10 ^ 3 ≠ units := by
  intro heq
  have hzero : (units : ℚ) = 0 := by linarith
  rw [Int.cast_eq_zero] at hzero
  rw [hzero] at h
  exact absurd h (by decide)

/-- One mark is read as a decimal point. -/
theorem not_parsedBack_of_lt (form : NormalForm) (hplaces : layout.places = 0)
    (hle : 1000 ≤ units.natAbs) (hlt : units.natAbs < 1000000) :
    ¬ParsedBack form layout units := by
  have hsum : units.natAbs / 1000 * 10 ^ 3 + units.natAbs % 10 ^ 3 = units.natAbs := by omega
  rw [parsedBack_iff, decimalText_of_whole layout units hplaces, groupedDigits_eq_of_lt hle hlt,
    floatLiteral?_point _ (fun _ ↦ isDigit_of_mem_toDigits) Nat.toDigits_ne_nil
      (fun _ ↦ isDigit_of_mem_paddedDigits) (denotes_toDigits _) (denotes_paddedDigits _ _),
    length_paddedDigits, hsum]
  rintro ⟨literal, hliteral, hvalue⟩
  rw [← Option.some_inj.mp hliteral, value?_decimal units 3, amount, hplaces, Option.some_inj,
    pow_zero, div_one] at hvalue
  exact div_thousand_ne hle hvalue

/-- Two marks are not read at all. -/
theorem not_parsedBack_of_le (form : NormalForm) (hplaces : layout.places = 0)
    (hle : 1000000 ≤ units.natAbs) : ¬ParsedBack form layout units := by
  obtain ⟨whole, rest, hgroups, hwhole, hrest, hpoint⟩ :=
    exists_groups '.' (n := units.natAbs) (by omega)
  rw [parsedBack_iff, decimalText_of_whole layout units hplaces, hgroups,
    floatLiteral?_points _ hwhole (fun c hc ↦ isDecimalChar_iff.mpr (hrest c hc)) (hpoint hle)]
  rintro ⟨literal, hliteral, -⟩
  cases hliteral

end ReadingBack

/-! ### Other readings -/

section OtherReadings

variable {layout layout' : AmountLayout} {units units' : ℤ}

theorem decimalMark_eq_groupMark (h : layout'.style ≠ layout.style) :
    layout'.style.decimalMark = layout.style.groupMark := by
  cases hstyle : layout.style <;> cases hstyle' : layout'.style <;> simp_all <;> rfl

theorem decimalMark_notMem (style : AmountStyle) (negative : Bool) (n : ℕ) :
    style.decimalMark ∉ signChars negative ++ groupedDigits style.groupMark n := by
  intro hmem
  rcases List.mem_append.mp hmem with hmem | hmem
  · exact absurd hmem (by cases style <;> cases negative <;> decide)
  · exact absurd (mem_groupedDigits hmem) (by cases style <;> decide)

theorem groupMark_notMem_signChars (style : AmountStyle) (negative : Bool) :
    style.groupMark ∉ signChars negative := by
  cases style <;> cases negative <;> decide

/-- Where one text is written in two styles, the first mark of the one is the decimal mark of the
other. -/
theorem after_mark_eq {whole rest : List Char} (hstyle : layout'.style ≠ layout.style)
    (htext : formatAmount layout' units' = formatAmount layout units) (hplaces : layout.places = 0)
    (hgroups : groupedDigits layout.style.groupMark units.natAbs =
      whole ++ layout.style.groupMark :: rest) (hwhole : ∀ c ∈ whole, c.isDigit = true) :
    rest = paddedDigits layout'.places units'.natAbs := by
  have hcleaned : cleanedAmount layout' units' = cleanedAmount layout units := by
    rw [← filter_formatAmount, htext, filter_formatAmount]
  have hbefore : layout.style.groupMark ∉ signChars (units < 0) ++ whole := by
    rw [List.mem_append, not_or]
    refine ⟨groupMark_notMem_signChars _ _, fun hmem ↦ ?_⟩
    exact absurd (hwhole _ hmem) (by rw [groupMark_not_isDigit]; exact Bool.false_ne_true)
  have hbefore' := decimalMark_notMem layout'.style (units' < 0) (units'.natAbs / 10 ^ layout'.places)
  rw [decimalMark_eq_groupMark hstyle] at hbefore'
  rw [cleanedAmount_of_whole layout units hplaces, hgroups, ← List.append_assoc, cleanedAmount,
    numberChars, decimalMark_eq_groupMark hstyle, ← List.append_assoc] at hcleaned
  by_cases hplaces' : layout'.places = 0
  · rw [if_pos hplaces', List.append_nil] at hcleaned
    exact absurd (hcleaned ▸ List.mem_append_right _ List.mem_cons_self) hbefore'
  · rw [if_neg hplaces'] at hcleaned
    have hdrop := congrArg (List.dropWhile (· != layout.style.groupMark)) hcleaned
    rw [(takeWhile_mark hbefore' _).2, (takeWhile_mark hbefore _).2] at hdrop
    exact (List.cons.inj hdrop).2.symm

/-- A text with marks and no decimal part is one of the other style only with three decimals. -/
theorem readOtherwise_iff {possible : ℕ → Prop} (hplaces : layout.places = 0)
    (hle : 1000 ≤ units.natAbs) :
    ReadOtherwise possible layout units ↔ possible 3 ∧ units.natAbs < 1000000 := by
  constructor
  · rintro ⟨layout', units', hstyle, hpossible, htext, -⟩
    by_cases hlt : units.natAbs < 1000000
    · have hrest := after_mark_eq hstyle htext hplaces (groupedDigits_eq_of_lt hle hlt)
        fun _ ↦ isDigit_of_mem_toDigits
      have hlength := congrArg List.length hrest
      rw [length_paddedDigits, length_paddedDigits] at hlength
      exact ⟨hlength ▸ hpossible, hlt⟩
    · obtain ⟨whole, rest, hgroups, hwhole, -, hmark⟩ := exists_groups layout.style.groupMark hle
      have hrest := after_mark_eq hstyle htext hplaces hgroups hwhole
      have hmem := hrest ▸ hmark (Nat.le_of_not_lt hlt)
      exact absurd (isDigit_of_mem_paddedDigits hmem)
        (by rw [groupMark_not_isDigit]; exact Bool.false_ne_true)
  · rintro ⟨hpossible, hlt⟩
    have hother : layout.style.other ≠ layout.style := by cases layout.style <;> decide
    have hmark : layout.style.other.decimalMark = layout.style.groupMark := by
      cases layout.style <;> rfl
    have hnumber : numberChars layout.style.other 3 units.natAbs =
        numberChars layout.style 0 units.natAbs := by
      rw [numberChars, numberChars, if_neg (by decide), if_pos rfl, List.append_nil, hmark,
        Nat.pow_zero, Nat.div_one, groupedDigits_eq_of_lt hle hlt, groupedDigits, if_pos (by omega)]
      rfl
    refine ⟨{ layout with style := layout.style.other, places := 3 }, units, hother, hpossible, ?_, ?_⟩
    · rw [formatAmount, formatAmount, hplaces, hnumber]
    · rw [amount, amount, hplaces, pow_zero, div_one]
      exact div_thousand_ne hle

end OtherReadings

def dollarLayout : AmountLayout :=
  ⟨.us, 0, ⟨['$'], List.forall_mem_singleton.mpr rfl⟩, .beforeMinus⟩

example : formatAmount dollarLayout 1234567 = "$1,234,567" := by decide +kernel

end SchemaPilot.Workers.Parsing
