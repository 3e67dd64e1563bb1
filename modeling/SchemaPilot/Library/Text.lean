import Mathlib.Data.List.DropRight
import Mathlib.Data.List.Dedup
import Mathlib.Data.List.Infix
import Mathlib.Data.List.Sort
import Mathlib.Data.String.Basic

/-!
# Text operations of the Python standard library

The string methods the modelled services lean on: `str.strip`, `str.lower`, the identifier pattern
`^[A-Za-z_][A-Za-z0-9_]*$` as `re.match` applies it, and the scan `re.findall` makes with
`[A-Za-z_][A-Za-z0-9_]*` (`words`). Strings are compared by code points on both sides, so Lean's
`String` stands for `str`.

`lower` changes the ASCII capitals and the two other characters whose lower case contains an ASCII
letter, the Kelvin sign and the dotted capital I. Every other character is left as it is: no caller
compares lower-cased text with anything but ASCII words, and no further character lower-cases to
text with an ASCII letter in it.

The scan is a maximal-munch automaton (`scan`), and the lemmas about it say how it passes over
concatenations: a character that belongs to no word ends the word before it and starts none.
-/

namespace SchemaPilot.Library.Text

-- what all characters of a text have is decided by going through the text, not through all of `Char`
scoped instance (priority := 2000) decidableForallMem {p : Char → Prop} [DecidablePred p]
    (chars : List Char) : Decidable (∀ c ∈ chars, p c) := List.decidableBAll p chars

/-- The characters `str.isspace` accepts, which are those `str.strip` removes. -/
def isSpace (c : Char) : Bool :=
  (9 ≤ c.toNat && c.toNat ≤ 13) || (28 ≤ c.toNat && c.toNat ≤ 32) || c.toNat == 0x85 ||
    c.toNat == 0xa0 || c.toNat == 0x1680 || (0x2000 ≤ c.toNat && c.toNat ≤ 0x200a) ||
    c.toNat == 0x2028 || c.toNat == 0x2029 || c.toNat == 0x202f || c.toNat == 0x205f ||
    c.toNat == 0x3000

/-- The class `[A-Za-z_]`. -/
def isWordStart (c : Char) : Bool := c.isAlpha || c == '_'

/-- The class `[A-Za-z0-9_]`. -/
def isWordPart (c : Char) : Bool := c.isAlphanum || c == '_'

theorem isAlpha_eq (c : Char) : c.isAlpha =
    (decide (c.val ≥ 65 ∧ c.val ≤ 90) || decide (c.val ≥ 97) && decide (c.val ≤ 122)) := rfl

theorem isWordPart_of_isWordStart {c : Char} (h : isWordStart c = true) : isWordPart c = true := by
  simp only [isWordStart, isWordPart, Char.isAlphanum, Bool.or_eq_true] at h ⊢
  tauto

theorem isWordStart_eq_false {c : Char} (h : isWordPart c = false) : isWordStart c = false := by
  by_contra hstart
  rw [Bool.not_eq_false] at hstart
  simp [isWordPart_of_isWordStart hstart] at h

/-- A word character is an ASCII letter, a digit or the underscore. -/
theorem isWordPart_cases {c : Char} (h : isWordPart c = true) :
    (65 ≤ c.toNat ∧ c.toNat ≤ 90) ∨ (97 ≤ c.toNat ∧ c.toNat ≤ 122) ∨
      (48 ≤ c.toNat ∧ c.toNat ≤ 57) ∨ c.toNat = 95 := by
  simp only [isWordPart, Char.isAlphanum, isAlpha_eq, Char.isDigit, Bool.or_eq_true, decide_eq_true_eq, Bool.and_eq_true, beq_iff_eq, ge_iff_le,
    UInt32.le_iff_toNat_le, Char.toNat_val] at h
  rcases h with ((⟨h₁, h₂⟩ | ⟨h₁, h₂⟩) | ⟨h₁, h₂⟩) | rfl
  · exact Or.inl ⟨h₁, h₂⟩
  · exact Or.inr (Or.inl ⟨h₁, h₂⟩)
  · exact Or.inr (Or.inr (Or.inl ⟨h₁, h₂⟩))
  · exact Or.inr (Or.inr (Or.inr rfl))

theorem isSpace_eq_false_of_isWordPart {c : Char} (h : isWordPart c = true) :
    isSpace c = false := by
  have hcases := isWordPart_cases h
  simp only [isSpace, Bool.or_eq_false_iff, Bool.and_eq_false_iff, decide_eq_false_iff_not,
    beq_eq_false_iff_ne, ne_eq]
  omega

/-- `str.strip` on the characters of a string. -/
def stripChars (chars : List Char) : List Char := (chars.dropWhile isSpace).rdropWhile isSpace

/-- `str.strip`. -/
def strip (s : String) : String := String.ofList (stripChars s.toList)

@[simp] theorem toList_strip (s : String) : (strip s).toList = stripChars s.toList := by
  simp [strip]

/-- Text whose first and last characters are no blanks is its own strip. -/
theorem stripChars_eq_self {chars : List Char}
    (hfirst : ∀ c ∈ chars.head?, isSpace c = false)
    (hlast : ∀ c ∈ chars.getLast?, isSpace c = false) : stripChars chars = chars := by
  have hdrop : chars.dropWhile isSpace = chars := by
    cases chars with
    | nil => rfl
    | cons c rest => simp [hfirst c (by simp)]
  rw [stripChars, hdrop, List.rdropWhile_eq_self_iff]
  intro hne
  rw [Bool.not_eq_true]
  exact hlast _ (List.getLast?_eq_some_getLast hne)

/-- The first character of stripped text is no blank. -/
theorem head_stripChars {chars : List Char} {c : Char} (h : c ∈ (stripChars chars).head?) :
    isSpace c = false := by
  obtain ⟨rest, hrest⟩ : ∃ rest, stripChars chars = c :: rest := by
    cases hs : stripChars chars with
    | nil => simp [hs] at h
    | cons d rest =>
      rw [hs, List.head?_cons, Option.mem_some_iff] at h
      exact ⟨rest, by rw [h]⟩
  obtain ⟨tail, htail⟩ : stripChars chars <+: chars.dropWhile isSpace := List.rdropWhile_prefix _ _
  rw [hrest, List.cons_append] at htail
  have hne : chars.dropWhile isSpace ≠ [] := by rw [← htail]; simp
  have hhead := List.head_dropWhile_not isSpace hne
  simpa [← htail] using hhead

/-- The last character of stripped text is no blank. -/
theorem getLast_stripChars {chars : List Char} {c : Char}
    (h : c ∈ (stripChars chars).getLast?) : isSpace c = false := by
  rw [Option.mem_def, List.getLast?_eq_some_iff] at h
  obtain ⟨init, hinit⟩ := h
  have hne : (chars.dropWhile isSpace).rdropWhile isSpace ≠ [] := by
    rw [stripChars] at hinit
    rw [hinit]
    simp
  have hlast := List.rdropWhile_last_not isSpace _ hne
  rw [stripChars] at hinit
  simpa [hinit] using hlast

/-- Stripping stripped text changes nothing. -/
@[simp] theorem stripChars_stripChars (chars : List Char) :
    stripChars (stripChars chars) = stripChars chars :=
  stripChars_eq_self (fun _ ↦ head_stripChars) fun _ ↦ getLast_stripChars

@[simp] theorem strip_strip (s : String) : strip (strip s) = strip s := by
  rw [strip, toList_strip, stripChars_stripChars, strip]

/-- Blanks around a text are stripped with its own. -/
theorem stripChars_padded {before after : List Char} (hbefore : ∀ c ∈ before, isSpace c = true)
    (hafter : ∀ c ∈ after, isSpace c = true) (chars : List Char) :
    stripChars (before ++ (chars ++ after)) = stripChars chars := by
  have hend : ∀ text : List Char, (text ++ after).rdropWhile isSpace = text.rdropWhile isSpace := by
    intro text
    have hreverse : ∀ c ∈ after.reverse, isSpace c = true := fun c hc ↦
      hafter c (List.mem_reverse.mp hc)
    rw [List.rdropWhile, List.reverse_append, List.dropWhile_append_of_pos hreverse, List.rdropWhile]
  rw [stripChars, stripChars, List.dropWhile_append_of_pos hbefore, List.dropWhile_append]
  split_ifs with hempty
  · rw [List.isEmpty_iff.mp hempty, List.dropWhile_eq_nil_iff.mpr hafter]
  · exact hend _

/-- `sorted` of the set of some texts. -/
def sortedTexts (texts : List String) : List String := texts.dedup.insertionSort (· ≤ ·)

@[simp] theorem mem_sortedTexts {texts : List String} {text : String} :
    text ∈ sortedTexts texts ↔ text ∈ texts := by
  rw [sortedTexts, List.mem_insertionSort, List.mem_dedup]

theorem nodup_sortedTexts (texts : List String) : (sortedTexts texts).Nodup :=
  (List.perm_insertionSort _ _).nodup_iff.mpr (List.nodup_dedup texts)

/-- `str.split()`. -/
def splitBlank (s : String) : List String :=
  ((s.toList.splitOnP isSpace).filter (· ≠ [])).map String.ofList

/-- `part in text`. -/
def isPartOf (part text : String) : Bool := decide (part.toList <:+: text.toList)

/-- The lower case of an ASCII letter; other characters are left alone. -/
def lowerAscii (c : Char) : Char :=
  if 'A' ≤ c ∧ c ≤ 'Z' then Char.ofNat (c.toNat + 32) else c

/-- The lower case of one character: the Kelvin sign and the dotted capital I are the characters
outside ASCII whose lower case has an ASCII letter in it. -/
def lowerChar (c : Char) : List Char :=
  if c.toNat = 0x212a then ['k']
  else if c.toNat = 0x130 then ['i', Char.ofNat 0x307]
  else [lowerAscii c]

/-- `str.lower` on the characters of a string. -/
def lowerChars (chars : List Char) : List Char := chars.flatMap lowerChar

/-- `str.lower`. -/
def lower (s : String) : String := String.ofList (lowerChars s.toList)

@[simp] theorem toList_lower (s : String) : (lower s).toList = lowerChars s.toList := by
  simp [lower]

@[simp] theorem lowerChars_append (first second : List Char) :
    lowerChars (first ++ second) = lowerChars first ++ lowerChars second := by
  simp [lowerChars]

/-- Below the Latin-1 range lower-casing works character by character. -/
theorem lowerChar_of_ascii {c : Char} (h : c.toNat < 128) : lowerChar c = [lowerAscii c] := by
  rw [lowerChar, if_neg (by omega), if_neg (by omega)]

theorem lowerChars_of_ascii {chars : List Char} (h : ∀ c ∈ chars, c.toNat < 128) :
    lowerChars chars = chars.map lowerAscii := by
  induction chars with
  | nil => rfl
  | cons c rest ih =>
    rw [List.forall_mem_cons] at h
    rw [lowerChars, List.flatMap_cons, lowerChar_of_ascii h.1, ← lowerChars, ih h.2]
    rfl

theorem lowerAscii_of_isUpper {c : Char} (h : 65 ≤ c.toNat ∧ c.toNat ≤ 90) :
    (lowerAscii c).toNat = c.toNat + 32 := by
  have hle : 'A' ≤ c ∧ c ≤ 'Z' := by
    simp only [Char.le_def, UInt32.le_iff_toNat_le, Char.toNat_val]
    exact h
  have hvalid : (c.toNat + 32).isValidChar := Or.inl (by omega)
  rw [lowerAscii, if_pos hle, Char.ofNat, dif_pos hvalid]
  rfl

theorem lowerAscii_of_not_isUpper {c : Char} (h : ¬(65 ≤ c.toNat ∧ c.toNat ≤ 90)) :
    lowerAscii c = c := by
  have hle : ¬('A' ≤ c ∧ c ≤ 'Z') := by
    simp only [Char.le_def, UInt32.le_iff_toNat_le, Char.toNat_val]
    exact h
  rw [lowerAscii, if_neg hle]

/-- A character in terms of its code point, for the two word classes. -/
theorem isWordPart_iff (c : Char) : isWordPart c = true ↔
    (65 ≤ c.toNat ∧ c.toNat ≤ 90) ∨ (97 ≤ c.toNat ∧ c.toNat ≤ 122) ∨
      (48 ≤ c.toNat ∧ c.toNat ≤ 57) ∨ c.toNat = 95 := by
  refine ⟨isWordPart_cases, fun h ↦ ?_⟩
  simp only [isWordPart, Char.isAlphanum, isAlpha_eq, Char.isDigit, Bool.or_eq_true, decide_eq_true_eq, Bool.and_eq_true, beq_iff_eq, ge_iff_le,
    UInt32.le_iff_toNat_le, Char.toNat_val]
  rcases h with h | h | h | h
  · exact Or.inl (Or.inl (Or.inl h))
  · exact Or.inl (Or.inl (Or.inr h))
  · exact Or.inl (Or.inr h)
  · exact Or.inr (Char.toNat_inj.mp h)

theorem isWordStart_iff (c : Char) : isWordStart c = true ↔
    (65 ≤ c.toNat ∧ c.toNat ≤ 90) ∨ (97 ≤ c.toNat ∧ c.toNat ≤ 122) ∨ c.toNat = 95 := by
  simp only [isWordStart, isAlpha_eq, Bool.or_eq_true, decide_eq_true_eq, Bool.and_eq_true, beq_iff_eq, ge_iff_le, UInt32.le_iff_toNat_le,
    Char.toNat_val]
  have hunderscore : c = '_' ↔ c.toNat = 95 := Char.toNat_inj.symm
  rw [hunderscore, or_assoc]
  rfl

theorem isWordPart_lowerAscii (c : Char) : isWordPart (lowerAscii c) = isWordPart c := by
  rw [Bool.eq_iff_iff, isWordPart_iff, isWordPart_iff]
  by_cases h : 65 ≤ c.toNat ∧ c.toNat ≤ 90
  · rw [lowerAscii_of_isUpper h]
    omega
  · rw [lowerAscii_of_not_isUpper h]

theorem isWordStart_lowerAscii (c : Char) : isWordStart (lowerAscii c) = isWordStart c := by
  rw [Bool.eq_iff_iff, isWordStart_iff, isWordStart_iff]
  by_cases h : 65 ≤ c.toNat ∧ c.toNat ≤ 90
  · rw [lowerAscii_of_isUpper h]
    omega
  · rw [lowerAscii_of_not_isUpper h]

/-- The strings the grammar `[A-Za-z_][A-Za-z0-9_]*` derives, on characters. -/
def isIdentifierChars : List Char → Bool
  | [] => false
  | c :: rest => isWordStart c && rest.all isWordPart

/-- The strings the grammar `[A-Za-z_][A-Za-z0-9_]*` derives. -/
def isIdentifier (s : String) : Bool := isIdentifierChars s.toList

/-- `re.match` of `^[A-Za-z_][A-Za-z0-9_]*$`, whose `$` also accepts one line feed at the end. -/
def matchesIdentifier (s : String) : Bool :=
  isIdentifierChars s.toList ||
    (s.toList.getLast? == some '\n' && isIdentifierChars s.toList.dropLast)

theorem isIdentifierChars_iff (chars : List Char) : isIdentifierChars chars = true ↔
    ∃ c rest, chars = c :: rest ∧ isWordStart c = true ∧ ∀ d ∈ rest, isWordPart d = true := by
  cases chars with
  | nil => simp [isIdentifierChars]
  | cons c rest => simp [isIdentifierChars]

/-- Every character of an identifier belongs to a word. -/
theorem isWordPart_of_mem {chars : List Char} (h : isIdentifierChars chars = true) {c : Char}
    (hc : c ∈ chars) : isWordPart c = true := by
  obtain ⟨d, rest, rfl, hstart, hrest⟩ := (isIdentifierChars_iff chars).mp h
  rcases List.mem_cons.mp hc with rfl | hc
  · exact isWordPart_of_isWordStart hstart
  · exact hrest c hc

theorem isIdentifierChars_ne_nil {chars : List Char} (h : isIdentifierChars chars = true) :
    chars ≠ [] := by
  rintro rfl
  simp [isIdentifierChars] at h

/-- An identifier goes on with any characters of words. -/
theorem isIdentifier_append {first second : String} (hfirst : isIdentifier first = true)
    (hsecond : ∀ c ∈ second.toList, isWordPart c = true) : isIdentifier (first ++ second) = true := by
  obtain ⟨c, rest, hchars, hstart, hrest⟩ := (isIdentifierChars_iff _).mp hfirst
  rw [isIdentifier, String.toList_append, hchars, isIdentifierChars_iff]
  refine ⟨c, rest ++ second.toList, rfl, hstart, fun d hd ↦ ?_⟩
  rcases List.mem_append.mp hd with hd | hd
  · exact hrest d hd
  · exact hsecond d hd

/-- An identifier has no blank to strip. -/
theorem stripChars_identifier {chars : List Char} (h : isIdentifierChars chars = true) :
    stripChars chars = chars :=
  stripChars_eq_self
    (fun _ hc ↦ isSpace_eq_false_of_isWordPart
      (isWordPart_of_mem h (List.mem_of_mem_head? hc)))
    fun _ hc ↦ isSpace_eq_false_of_isWordPart
      (isWordPart_of_mem h (List.mem_of_mem_getLast? hc))

theorem strip_identifier {s : String} (h : isIdentifier s = true) : strip s = s := by
  rw [strip, stripChars_identifier h, String.ofList_toList]

/-- On stripped text the pattern accepts identifiers only: the line feed `$` would forgive is
gone. -/
theorem matchesIdentifier_strip (s : String) :
    matchesIdentifier (strip s) = isIdentifier (strip s) := by
  have hlast : (stripChars s.toList).getLast? ≠ some '\n' := by
    intro h
    have := getLast_stripChars (c := '\n') h
    simp [isSpace] at this
  simp [matchesIdentifier, isIdentifier, hlast]

theorem matchesIdentifier_of_isIdentifier {s : String} (h : isIdentifier s = true) :
    matchesIdentifier s = true := by
  rw [isIdentifier] at h
  simp [matchesIdentifier, h]

structure Identifier where
  text : String
  valid : isIdentifier text = true
deriving DecidableEq

/-- One maximal-munch pass with the pattern `[A-Za-z_][A-Za-z0-9_]*`: `current` holds the
characters of the word being read, none between two words. -/
def scan (current : List Char) : List Char → List (List Char)
  | [] => if current = [] then [] else [current]
  | c :: rest =>
    if current = [] then
      if isWordStart c then scan [c] rest else scan [] rest
    else if isWordPart c then scan (current ++ [c]) rest
    else current :: scan [] rest

/-- `re.findall` with `[A-Za-z_][A-Za-z0-9_]*`. -/
def words (s : String) : List String := (scan [] s.toList).map String.ofList

/-- A character outside every word ends the word before it. -/
theorem scan_append_cons (first second : List Char) {c : Char} (hc : isWordPart c = false) :
    ∀ current, scan current (first ++ c :: second) = scan current first ++ scan [] second := by
  induction first with
  | nil =>
    intro current
    by_cases hcurrent : current = []
    · simp [scan, hcurrent, isWordStart_eq_false hc]
    · simp [scan, hcurrent, hc]
  | cons d rest ih =>
    intro current
    simp only [List.cons_append, scan]
    split_ifs <;> simp [ih]

/-- While a word is being read, word characters extend it. -/
theorem scan_word {current : List Char} (hcurrent : current ≠ []) {chars : List Char}
    (h : ∀ c ∈ chars, isWordPart c = true) : scan current chars = [current ++ chars] := by
  induction chars generalizing current with
  | nil => simp [scan, hcurrent]
  | cons c rest ih =>
    rw [List.forall_mem_cons] at h
    rw [scan, if_neg hcurrent, if_pos h.1, ih (by simp) h.2]
    simp

/-- An identifier standing alone is one word. -/
theorem scan_identifier {chars : List Char} (h : isIdentifierChars chars = true) :
    scan [] chars = [chars] := by
  obtain ⟨c, rest, rfl, hstart, hrest⟩ := (isIdentifierChars_iff chars).mp h
  rw [scan, if_pos rfl, if_pos hstart, scan_word (by simp) hrest]
  rfl

/-- The text begins with a character outside every word. -/
def startsGap (s : String) : Bool :=
  match s.toList with
  | [] => false
  | c :: _ => !isWordPart c

/-- The text ends with a character outside every word. -/
def endsGap (s : String) : Bool :=
  match s.toList.getLast? with
  | none => false
  | some c => !isWordPart c

@[simp] theorem lower_append (first second : String) :
    lower (first ++ second) = lower first ++ lower second := by
  simp [lower]

/-- Text that begins outside every word does not prolong the last word before it. -/
theorem words_append_of_startsGap {second : String} (h : startsGap second = true)
    (first : String) : words (first ++ second) = words first ++ words second := by
  obtain ⟨c, rest, hsecond, hc⟩ : ∃ c rest, second.toList = c :: rest ∧ isWordPart c = false := by
    cases hs : second.toList with
    | nil => simp [startsGap, hs] at h
    | cons c rest => exact ⟨c, rest, rfl, by simpa [startsGap, hs] using h⟩
  have hskip : scan [] (c :: rest) = scan [] rest := by
    simp [scan, isWordStart_eq_false hc]
  simp only [words, String.toList_append, hsecond, hskip, scan_append_cons _ _ hc, List.map_append]

/-- Text that ends outside every word leaves no word open. -/
theorem words_append_of_endsGap {first : String} (h : endsGap first = true) (second : String) :
    words (first ++ second) = words first ++ words second := by
  obtain ⟨init, c, hfirst, hc⟩ : ∃ init c, first.toList = init ++ [c] ∧ isWordPart c = false := by
    cases hs : first.toList.getLast? with
    | none => simp [endsGap, hs] at h
    | some c =>
      obtain ⟨init, hinit⟩ := List.getLast?_eq_some_iff.mp hs
      exact ⟨init, c, hinit, by simpa [endsGap, hs] using h⟩
  have hnil : scan [] [] = [] := by simp [scan]
  simp only [words, String.toList_append, hfirst, List.append_assoc, List.singleton_append,
    scan_append_cons _ _ hc, List.map_append, hnil, List.map_nil, List.nil_append]

theorem startsGap_append {first : String} (h : startsGap first = true) (second : String) :
    startsGap (first ++ second) = true := by
  cases hs : first.toList with
  | nil => simp [startsGap, hs] at h
  | cons c rest => simpa [startsGap, hs] using h

/-- A literal set between two texts with characters outside every word at both ends keeps their
words apart. -/
theorem words_append_literal {literal : String} (hstart : startsGap (lower literal) = true)
    (hend : endsGap (lower literal) = true) (first second : String) :
    words (lower (first ++ (literal ++ second))) =
      words (lower first) ++ (words (lower literal) ++ words (lower second)) := by
  rw [lower_append, lower_append, words_append_of_startsGap (startsGap_append hstart _),
    words_append_of_endsGap hend]

theorem words_intercalate {separator : String} (hstart : startsGap (lower separator) = true)
    (hend : endsGap (lower separator) = true) (hwords : words (lower separator) = [])
    (texts : List String) :
    words (lower (String.intercalate separator texts)) =
      texts.flatMap fun text ↦ words (lower text) := by
  induction texts with
  | nil => rfl
  | cons text rest ih =>
    by_cases hrest : rest = []
    · simp [hrest]
    · rw [String.intercalate_cons_of_ne_nil hrest, String.append_assoc,
        words_append_literal hstart hend, hwords, ih, List.flatMap_cons, List.nil_append]

theorem words_join (separator : String) (hstart : startsGap (lower separator) = true)
    (hend : endsGap (lower separator) = true) (hwords : words (lower separator) = [])
    (texts : List String) :
    words (lower (String.join (texts.map (separator ++ ·)))) =
        texts.flatMap (fun text ↦ words (lower text)) ∧
      (texts ≠ [] → startsGap (lower (String.join (texts.map (separator ++ ·)))) = true) := by
  induction texts with
  | nil => exact ⟨rfl, fun h ↦ absurd rfl h⟩
  | cons text rest ih =>
    rw [List.map_cons, String.join_cons, String.append_assoc]
    refine ⟨?_, fun _ ↦ ?_⟩
    · rw [lower_append, words_append_of_endsGap hend, hwords, List.nil_append, lower_append]
      by_cases hrest : rest = []
      · have hempty : lower "" = "" := by decide
        simp [hrest, String.join_nil, hempty]
      · rw [words_append_of_startsGap (ih.2 hrest), ih.1, List.flatMap_cons]
    · rw [lower_append]
      exact startsGap_append hstart _

theorem isIdentifier_lower {s : String} (h : isIdentifier s = true) :
    isIdentifier (lower s) = true := by
  obtain ⟨c, rest, hs, hstart, hrest⟩ := (isIdentifierChars_iff _).mp h
  have hascii : ∀ d ∈ s.toList, d.toNat < 128 := by
    intro d hd
    have hcases := isWordPart_cases (isWordPart_of_mem h hd)
    omega
  rw [isIdentifier, toList_lower, lowerChars_of_ascii hascii, isIdentifierChars_iff, hs]
  refine ⟨lowerAscii c, rest.map lowerAscii, rfl, by rwa [isWordStart_lowerAscii], ?_⟩
  intro d hd
  obtain ⟨e, he, rfl⟩ := List.mem_map.mp hd
  rw [isWordPart_lowerAscii]
  exact hrest e he

theorem words_lower_identifier {s : String} (h : isIdentifier s = true) :
    words (lower s) = [lower s] := by
  have hlower : isIdentifierChars (lower s).toList = true := isIdentifier_lower h
  rw [words, scan_identifier hlower, List.map_singleton, String.ofList_toList]

end SchemaPilot.Library.Text
