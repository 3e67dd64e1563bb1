import SchemaPilot.SharedDomain.SelectItems

/-!
# Texts of select items

What the patterns meet in the text of an expression: no `from` (`plain_expr`), an `as` only before a closing
parenthesis (`asClosed_expr`), every column as a word of its own (`column_mem_scan`), and no blank or comma at the ends
(`trimmed_expr`).
-/

namespace SchemaPilot.SharedDomain

open Library Library.Text

variable {first second chars word : List Char} {c : Char}

/-! ### Words -/

/-- ASCII and blanks, without the word `from`. -/
def Plain (chars : List Char) : Prop :=
  (∀ c ∈ chars, isSpace c = true ∨ c.toNat < 128) ∧ ∀ word ∈ scan [] chars, matchesKeyword fromKeyword word = false

theorem toNat_lt_of_isWordPart (h : isWordPart c = true) : c.toNat < 128 := by
  have hcases := isWordPart_cases h
  omega

theorem scan_of_no_word (h : ∀ c ∈ chars, isWordStart c = false) : scan [] chars = [] := by
  induction chars with
  | nil => rfl
  | cons c rest ih =>
    rw [List.forall_mem_cons] at h
    rw [scan, if_pos rfl, if_neg (by rw [h.1]; decide), ih h.2]

theorem isWordStart_of_isDigit (h : c.isDigit = true) : isWordStart c = false ∧ isWordPart c = true := by
  have hcode : 48 ≤ c.toNat ∧ c.toNat ≤ 57 := by
    simpa [Char.isDigit, UInt32.le_iff_toNat_le] using h
  constructor
  · by_contra hstart
    have hcases := (isWordStart_iff c).mp (by simpa using hstart)
    omega
  · exact (isWordPart_iff c).mpr (by omega)

theorem Digits.scan_eq (digits : Digits) : scan [] digits.chars = [] :=
  scan_of_no_word fun c hc ↦ (isWordStart_of_isDigit (digits.digit c hc)).1

theorem Keyword.isIdentifierChars {keyword : List Char} (word : Keyword keyword) (hne : keyword ≠ [])
    (hletters : ∀ letter ∈ keyword, isWordStart letter = true) : isIdentifierChars word.chars = true := by
  have hstart : ∀ c ∈ word.chars, isWordStart c = true := by
    intro c hc
    rw [← isWordStart_lowerAscii]
    refine hletters _ ?_
    rw [← word.spelled]
    exact List.mem_map_of_mem hc
  cases hchars : word.chars with
  | nil =>
    have hspelled := word.spelled
    rw [hchars] at hspelled
    exact absurd hspelled.symm hne
  | cons c rest =>
    rw [hchars, List.forall_mem_cons] at hstart
    exact (isIdentifierChars_iff _).mpr ⟨c, rest, rfl, hstart.1, fun d hd ↦ isWordPart_of_isWordStart (hstart.2 d hd)⟩

theorem plain_identifier (h : isIdentifierChars chars = true) (hfrom : matchesKeyword fromKeyword chars = false) :
    Plain chars := by
  refine ⟨fun c hc ↦ Or.inr (toNat_lt_of_isWordPart (isWordPart_of_mem h hc)), fun word hword ↦ ?_⟩
  rw [scan_identifier h, List.mem_singleton] at hword
  rw [hword, hfrom]

theorem plain_keyword {keyword : List Char} (word : Keyword keyword) (hne : keyword ≠ [])
    (hletters : ∀ letter ∈ keyword, isWordStart letter = true) (hfrom : keyword ≠ fromKeyword) : Plain word.chars := by
  have hvalid := word.isIdentifierChars hne hletters
  refine plain_identifier hvalid ?_
  rw [Bool.eq_false_iff, Ne, matchesKeyword_iff fun c hc ↦ toNat_lt_of_isWordPart (isWordPart_of_mem hvalid hc),
    word.spelled]
  exact hfrom

theorem ofParts_plain : OfParts Plain where
  append first second hapart hfirst hsecond := by
    refine ⟨List.forall_mem_append.mpr ⟨hfirst.1, hsecond.1⟩, ?_⟩
    rw [scan_append hapart]
    exact List.forall_mem_append.mpr ⟨hfirst.2, hsecond.2⟩
  blanks blanks := by
    refine ⟨fun c hc ↦ Or.inl (blanks.blank c hc), ?_⟩
    rw [scan_blanks blanks.blank]
    simp
  mark c hc := by
    have hmarks : ∀ mark ∈ marks, mark.toNat < 128 ∧ isWordStart mark = false := by decide
    obtain ⟨hascii, hstart⟩ := hmarks c hc
    refine ⟨List.forall_mem_singleton.mpr (Or.inr hascii), ?_⟩
    rw [scan_of_no_word (List.forall_mem_singleton.mpr hstart)]
    simp
  name name := plain_identifier name.valid (name.unreserved _ (by simp))
  digits digits := by
    refine ⟨fun c hc ↦ Or.inr (toNat_lt_of_isWordPart (isWordStart_of_isDigit (digits.digit c hc)).2), ?_⟩
    rw [digits.scan_eq]
    simp
  castWord keyword := plain_keyword keyword (by decide) (by decide) (by decide)
  asWord keyword := plain_keyword keyword (by decide) (by decide) (by decide)

theorem startsApart_of_startsBlank (h : chars = [] ∨ startsBlank chars = true) : StartsApart chars := by
  intro c hc
  rcases h with rfl | h
  · cases hc
  · cases chars with
    | nil => cases hc
    | cons d rest =>
      cases hc
      exact isWordPart_eq_false_of_isSpace h

theorem mem_scan_token {keyword : List Char} (hmatch : matchesKeyword keyword (token chars) = true)
    (hne : keyword ≠ []) (hletters : ∀ letter ∈ keyword, isWordStart letter = true)
    (hlegible : ∀ c ∈ chars, isSpace c = true ∨ c.toNat < 128) : token chars ∈ scan [] chars := by
  obtain ⟨hchars, hword, hrest⟩ := token_spec chars
  have hstart : ∀ c ∈ token chars, isWordStart c = true := by
    intro c hc
    rcases mem_of_matchesKeyword hletters hmatch hc with hstart | hlong
    · exact hstart
    · have hmem : c ∈ chars := by
        rw [hchars]
        exact List.mem_append_right _ (List.mem_append_left _ hc)
      rcases hlegible c hmem with hblank | hascii
      · rw [hword c hc] at hblank
        cases hblank
      · omega
  have hvalid : isIdentifierChars (token chars) = true := by
    cases htoken : token chars with
    | nil =>
      rw [htoken] at hmatch
      cases keyword with
      | nil => exact absurd rfl hne
      | cons letter letters => cases hmatch
    | cons c rest =>
      rw [htoken, List.forall_mem_cons] at hstart
      exact (isIdentifierChars_iff _).mpr
        ⟨c, rest, rfl, hstart.1, fun d hd ↦ isWordPart_of_isWordStart (hstart.2 d hd)⟩
  have hblanks : Apart (chars.takeWhile isSpace) (token chars ++ afterToken chars) :=
    Or.inl fun c hc ↦ isWordPart_eq_false_of_isSpace (List.mem_takeWhile_imp (List.mem_of_getLast? hc))
  have hscan := congrArg (scan []) hchars
  rw [scan_append hblanks, scan_append (Or.inr (startsApart_of_startsBlank hrest)), scan_identifier hvalid] at hscan
  rw [hscan]
  exact List.mem_append_right _ (List.mem_append_left _ (List.mem_singleton_self _))

theorem SetsOff.exists_word {keyword : List Char} (h : SetsOff keyword chars) (hne : keyword ≠ [])
    (hletters : ∀ letter ∈ keyword, isWordStart letter = true)
    (hlegible : ∀ c ∈ chars, isSpace c = true ∨ c.toNat < 128) :
    ∃ word ∈ scan [] chars, matchesKeyword keyword word = true := by
  obtain ⟨before, after, rfl, hstarts, hmatch⟩ := h
  refine ⟨token after, ?_, hmatch⟩
  rw [scan_append (Or.inr (startsApart_of_startsBlank (Or.inr hstarts)))]
  exact List.mem_append_right _
    (mem_scan_token hmatch hne hletters fun c hc ↦ hlegible c (List.mem_append_right _ hc))

theorem Plain.not_setsOff_from (h : Plain chars) : ¬SetsOff fromKeyword chars := by
  intro hsets
  obtain ⟨word, hword, hmatch⟩ := hsets.exists_word (by decide) (by decide) h.1
  rw [h.2 word hword] at hmatch
  cases hmatch

/-! ### Every `as` is in parentheses -/

/-- A part of the text from a blank on, or the whole of it, has a closing parenthesis where it has an `as`. -/
def AsClosed (chars : List Char) : Prop :=
  ∀ before after, chars = before ++ after → before = [] ∨ startsBlank after = true →
    (∃ word ∈ scan [] after, matchesKeyword asKeyword word = true) → ')' ∈ after

theorem AsClosed.append (hfirst : AsClosed first) (hsecond : AsClosed second) (hapart : Apart first second) :
    AsClosed (first ++ second) := by
  intro before after hsplit hstarts hword
  rcases List.append_eq_append_iff.mp hsplit with ⟨middle, hbefore, hafter⟩ | ⟨middle, hbefore, hafter⟩
  · refine hsecond middle after hafter (hstarts.imp_left fun hnil ↦ ?_) hword
    rw [hnil] at hbefore
    exact (List.append_eq_nil_iff.mp hbefore.symm).2
  · rw [hafter] at hword ⊢
    by_cases hmiddle : middle = []
    · rw [hmiddle, List.nil_append] at hword ⊢
      exact hsecond [] second rfl (Or.inl rfl) hword
    · have hapartMiddle : Apart middle second := by
        refine hapart.imp_left fun hends c hc ↦ hends c ?_
        rw [hbefore, List.getLast?_append, Option.mem_def.mp hc]
        rfl
      rw [scan_append hapartMiddle] at hword
      obtain ⟨word, hmem, hmatch⟩ := hword
      rcases List.mem_append.mp hmem with hmem | hmem
      · refine List.mem_append_left _ (hfirst before middle hbefore (hstarts.imp_right fun hblank ↦ ?_)
          ⟨word, hmem, hmatch⟩)
        rwa [hafter, startsBlank_append hmiddle] at hblank
      · exact List.mem_append_right _ (hsecond [] second rfl (Or.inl rfl) ⟨word, hmem, hmatch⟩)

theorem asClosed_of_getLast? (h : chars.getLast? = some ')') : AsClosed chars := by
  rintro before after rfl - ⟨word, hword, -⟩
  cases hafter : after with
  | nil =>
    rw [hafter] at hword
    cases hword
  | cons c rest =>
    rw [hafter, List.getLast?_append_of_ne_nil _ (List.cons_ne_nil c rest)] at h
    exact List.mem_of_getLast? h

/-- A text without blanks or words has no `as` but the whole of it. -/
theorem asClosed_of_no_as (hwords : ∀ word ∈ scan [] chars, matchesKeyword asKeyword word = false)
    (hblank : ∀ c ∈ chars, isSpace c = false) : AsClosed chars := by
  rintro before after rfl hstarts ⟨word, hword, hmatch⟩
  rcases hstarts with rfl | hstarts
  · rw [hwords word hword] at hmatch
    cases hmatch
  · cases after with
    | nil => cases hstarts
    | cons c rest =>
      have hc : isSpace c = true := hstarts
      rw [hblank c (List.mem_append_right _ List.mem_cons_self)] at hc
      cases hc

theorem Blanks.asClosed (blanks : Blanks) : AsClosed blanks.chars := by
  rintro before after hsplit - ⟨word, hword, -⟩
  have hafter : ∀ c ∈ after, isSpace c = true := fun c hc ↦
    blanks.blank c (by rw [hsplit]; exact List.mem_append_right _ hc)
  rw [scan_blanks hafter] at hword
  cases hword

theorem asClosed_mark (hc : c ∈ marks) : AsClosed [c] := by
  have hmarks : ∀ mark ∈ marks, isWordStart mark = false ∧ isSpace mark = false := by decide
  obtain ⟨hstart, hblank⟩ := hmarks c hc
  refine asClosed_of_no_as ?_ (List.forall_mem_singleton.mpr hblank)
  rw [scan_of_no_word (List.forall_mem_singleton.mpr hstart)]
  simp

theorem Digits.asClosed (digits : Digits) : AsClosed digits.chars := by
  refine asClosed_of_no_as ?_ fun c hc ↦
    isSpace_eq_false_of_isWordPart (isWordStart_of_isDigit (digits.digit c hc)).2
  rw [digits.scan_eq]
  simp

theorem Name.asClosed (name : Name) : AsClosed name.chars := by
  refine asClosed_of_no_as ?_ fun c hc ↦ isSpace_eq_false_of_isWordPart (isWordPart_of_mem name.valid hc)
  rw [scan_identifier name.valid, List.forall_mem_singleton]
  exact name.unreserved _ (by simp)

theorem asClosed_parenthesized (name : List Char) (gap : Blanks) (inner : List Char) :
    AsClosed (name ++ (gap.chars ++ enclosed inner)) := by
  refine asClosed_of_getLast? ?_
  rw [List.getLast?_append_of_ne_nil _ (by simp [enclosed]), List.getLast?_append_of_ne_nil _ (by simp [enclosed]),
    enclosed, ← List.cons_append, List.getLast?_concat]

/-- An `as` of an expression is followed by a closing parenthesis. -/
theorem asClosed_expr (expr : Expr) : AsClosed expr.text := by
  cases expr with
  | column name => exact name.asClosed
  | number whole fraction =>
    cases fraction with
    | none => exact whole.asClosed
    | some fraction =>
      exact whole.asClosed.append
        ((asClosed_mark (by decide)).append fraction.asClosed (apart_mark (by decide) _))
        (Or.inr (startsApart_mark (by decide) _))
  | nullary function gap inside => exact asClosed_parenthesized _ gap _
  | call function gap args => exact asClosed_parenthesized _ gap _
  | cast keyword gap before inner asBefore asWord asAfter type after =>
    exact asClosed_parenthesized _ gap _
  | group before inner after =>
    exact asClosed_parenthesized [] ⟨[], fun _ hc ↦ absurd hc List.not_mem_nil⟩ _
  | negate gap inner =>
    exact (asClosed_mark (by decide)).append (gap.asClosed.append (asClosed_expr inner) (gap.apart _))
      (apart_mark (by decide) _)
  | binary left before operator after right =>
    have hsymbol := isWordPart_of_mem_marks _ operator.symbol_mem
    refine (asClosed_expr left).append (before.asClosed.append ?_ (before.apart _))
      (Or.inr (startsApart_blanks before.blank (startsApart_mark hsymbol _)))
    exact (asClosed_mark operator.symbol_mem).append (after.asClosed.append (asClosed_expr right) (after.apart _))
      (apart_mark hsymbol _)

/-! ### Columns and ends -/

theorem mem_scan_left (h : word ∈ scan [] first) (hapart : Apart first second) : word ∈ scan [] (first ++ second) := by
  rw [scan_append hapart]
  exact List.mem_append_left _ h

theorem mem_scan_right (h : word ∈ scan [] second) (hapart : Apart first second) : word ∈ scan [] (first ++ second) := by
  rw [scan_append hapart]
  exact List.mem_append_right _ h

theorem mem_scan_mark (h : word ∈ scan [] chars) (hc : c ∈ marks) : word ∈ scan [] (c :: chars) := by
  rw [scan_cons_of_not_word (isWordPart_of_mem_marks c hc)]
  exact h

theorem mem_scan_enclosed (h : word ∈ scan [] chars) : word ∈ scan [] (enclosed chars) :=
  mem_scan_mark (mem_scan_left h (Or.inr (startsApart_mark (by decide) _))) (by decide)

theorem mem_scan_parenthesized {name : List Char} (gap : Blanks) (h : word ∈ scan [] chars) :
    word ∈ scan [] (name ++ (gap.chars ++ enclosed chars)) :=
  mem_scan_right (mem_scan_right (mem_scan_enclosed h) (gap.apart _))
    (Or.inr (startsApart_blanks gap.blank (startsApart_mark (by decide) _)))

mutual

theorem column_mem_scan : ∀ expr : Expr, ∀ column ∈ expr.columns, column.chars ∈ scan [] expr.text
  | .column name, column, hcolumn => by
    rw [Expr.columns, List.mem_singleton] at hcolumn
    rw [hcolumn, Expr.text, scan_identifier name.valid]
    exact List.mem_singleton_self _
  | .number _ _, column, hcolumn => absurd hcolumn List.not_mem_nil
  | .nullary _ _ _, column, hcolumn => absurd hcolumn List.not_mem_nil
  | .call function gap args, column, hcolumn =>
    mem_scan_parenthesized gap (argument_column_mem_scan args column hcolumn)
  | .cast keyword gap before inner asBefore asWord asAfter type after, column, hcolumn =>
    mem_scan_parenthesized gap (mem_scan_right (mem_scan_left (column_mem_scan inner column hcolumn)
      (Or.inr (asBefore.startsApart _))) (before.apart _))
  | .group before inner after, column, hcolumn =>
    mem_scan_enclosed (mem_scan_right (mem_scan_left (column_mem_scan inner column hcolumn)
      (Or.inr after.startsApart)) (before.apart _))
  | .negate gap inner, column, hcolumn =>
    mem_scan_mark (mem_scan_right (column_mem_scan inner column hcolumn) (gap.apart _)) (by decide)
  | .binary left before operator after right, column, hcolumn => by
    have hapart : Apart left.text (before.chars ++ operator.symbol :: (after.chars ++ right.text)) :=
      Or.inr (startsApart_blanks before.blank (startsApart_mark (isWordPart_of_mem_marks _ operator.symbol_mem) _))
    rcases List.mem_append.mp hcolumn with hcolumn | hcolumn
    · exact mem_scan_left (column_mem_scan left column hcolumn) hapart
    · have hright := column_mem_scan right column hcolumn
      exact mem_scan_right (mem_scan_right (mem_scan_mark (mem_scan_right hright (after.apart _)) operator.symbol_mem)
        (before.apart _)) hapart

theorem argument_column_mem_scan : ∀ arguments : Arguments, ∀ column ∈ arguments.columns,
    column.chars ∈ scan [] arguments.text
  | .last before argument after, column, hcolumn =>
    mem_scan_right (mem_scan_left (column_mem_scan argument column hcolumn) (Or.inr after.startsApart))
      (before.apart _)
  | .more before argument after rest, column, hcolumn => by
    have hapart : Apart argument.text (after.chars ++ ',' :: rest.text) :=
      Or.inr (startsApart_blanks after.blank (startsApart_mark (by decide) _))
    rcases List.mem_append.mp hcolumn with hcolumn | hcolumn
    · exact mem_scan_right (mem_scan_left (column_mem_scan argument column hcolumn) hapart) (before.apart _)
    · have hrest := argument_column_mem_scan rest column hcolumn
      exact mem_scan_right (mem_scan_right (mem_scan_right (mem_scan_mark hrest (by decide)) (after.apart _)) hapart)
        (before.apart _)

end

def Solid (c : Char) : Prop := isSpace c = false ∧ c ≠ ','

theorem solid_of_isWordPart (h : isWordPart c = true) : Solid c := by
  refine ⟨isSpace_eq_false_of_isWordPart h, ?_⟩
  rintro rfl
  cases h

/-- A text that neither begins nor ends with a blank or a comma. -/
structure Trimmed (chars : List Char) : Prop where
  head : ∃ c rest, chars = c :: rest ∧ Solid c
  last : ∃ init c, chars = init ++ [c] ∧ Solid c

theorem trimmed_word (hne : chars ≠ []) (h : ∀ c ∈ chars, isWordPart c = true) : Trimmed chars := by
  constructor
  · obtain ⟨c, rest, rfl⟩ := List.exists_cons_of_ne_nil hne
    exact ⟨c, rest, rfl, solid_of_isWordPart (h c List.mem_cons_self)⟩
  · refine ⟨chars.dropLast, chars.getLast hne, (List.dropLast_concat_getLast hne).symm, ?_⟩
    exact solid_of_isWordPart (h _ (List.getLast_mem hne))

theorem trimmed_identifier (h : isIdentifierChars chars = true) : Trimmed chars :=
  trimmed_word (isIdentifierChars_ne_nil h) fun _ hc ↦ isWordPart_of_mem h hc

theorem Digits.trimmed (digits : Digits) : Trimmed digits.chars :=
  trimmed_word digits.nonempty fun c hc ↦ (isWordStart_of_isDigit (digits.digit c hc)).2

/-- A text that begins like a trimmed one and ends like a trimmed one is trimmed. -/
theorem Trimmed.append (h : Trimmed first) (middle : List Char) (hsecond : Trimmed second) :
    Trimmed (first ++ (middle ++ second)) := by
  obtain ⟨c, rest, rfl, hc⟩ := h.head
  obtain ⟨init, d, rfl, hd⟩ := hsecond.last
  refine ⟨⟨c, rest ++ (middle ++ (init ++ [d])), rfl, hc⟩, ⟨c :: rest ++ (middle ++ init), d, ?_, hd⟩⟩
  simp only [List.append_assoc]

theorem trimmed_enclosed (chars : List Char) : Trimmed (enclosed chars) :=
  ⟨⟨'(', chars ++ [')'], rfl, by decide, by decide⟩, ⟨'(' :: chars, ')', rfl, by decide, by decide⟩⟩

theorem trimmed_parenthesized {name : List Char} (hname : isIdentifierChars name = true) (gap : Blanks)
    (chars : List Char) : Trimmed (name ++ (gap.chars ++ enclosed chars)) :=
  (trimmed_identifier hname).append gap.chars (trimmed_enclosed chars)

/-- An expression neither begins nor ends with a blank or a comma. -/
theorem trimmed_expr (expr : Expr) : Trimmed expr.text := by
  cases expr with
  | column name => exact trimmed_identifier name.valid
  | number whole fraction =>
    cases fraction with
    | none => exact whole.trimmed
    | some fraction => exact whole.trimmed.append ['.'] fraction.trimmed
  | nullary function gap inside => exact trimmed_parenthesized function.valid gap _
  | call function gap args => exact trimmed_parenthesized function.valid gap _
  | cast keyword gap before inner asBefore asWord asAfter type after =>
    exact trimmed_parenthesized (keyword.isIdentifierChars (by decide) (by decide)) gap _
  | group before inner after => exact trimmed_enclosed _
  | negate gap inner =>
    have hsign : Trimmed ['-'] :=
      ⟨⟨'-', [], rfl, by decide, by decide⟩, ⟨[], '-', rfl, by decide, by decide⟩⟩
    exact hsign.append gap.chars (trimmed_expr inner)
  | binary left before operator after right =>
    have htext := (trimmed_expr left).append (before.chars ++ operator.symbol :: after.chars) (trimmed_expr right)
    simpa only [Expr.text, List.append_assoc, List.cons_append] using htext

theorem Trimmed.nonempty (h : Trimmed chars) : chars ≠ [] := by
  obtain ⟨c, rest, rfl, -⟩ := h.head
  exact List.cons_ne_nil c rest

theorem Trimmed.startsBlank_eq (h : Trimmed chars) : startsBlank chars = false := by
  obtain ⟨c, rest, rfl, hc, -⟩ := h.head
  exact hc

theorem Trimmed.last_append (h : Trimmed second) (first : List Char) :
    ∀ c ∈ (first ++ second).getLast?, isSpace c = false := by
  obtain ⟨init, d, rfl, hd, -⟩ := h.last
  intro c hc
  rw [← List.append_assoc, List.getLast?_concat] at hc
  cases hc
  exact hd

end SchemaPilot.SharedDomain
