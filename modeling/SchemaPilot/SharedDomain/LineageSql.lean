import SchemaPilot.Library.Except
import SchemaPilot.Library.JoinedText
import SchemaPilot.SharedDomain.Errors

/-!
# Column lineage

`shared_domain/lineage_sql.py` reads the select clause of a statement with patterns. The pattern `\s+as\s+` matches
where a blank stands and the text between this run of blanks and the next one is the word, and `.+?` ends at the first
such place (`splitAtKeyword`).
-/

namespace SchemaPilot.SharedDomain

open Library Library.Text

/-! ### Patterns -/

/-- A letter of a pattern with `re.IGNORECASE`, under which `s` matches the long s too. -/
def matchesLetter (letter c : Char) : Bool := lowerAscii c == letter || (letter == 's' && c.toNat == 0x17f)

def matchesKeyword : List Char → List Char → Bool
  | [], [] => true
  | letter :: letters, c :: chars => matchesLetter letter c && matchesKeyword letters chars
  | _, _ => false

def startsBlank (chars : List Char) : Bool := chars.head?.any isSpace

/-- The text up to the next blank, after the blanks a text begins with. -/
def token (chars : List Char) : List Char := (chars.dropWhile isSpace).takeWhile fun c ↦ !isSpace c

/-- What follows `token`. -/
def afterToken (chars : List Char) : List Char := (chars.dropWhile isSpace).dropWhile fun c ↦ !isSpace c

/-- `\s+keyword\s+` at the beginning of a text: what follows the match. -/
def matchSetOff (keyword chars : List Char) : Option (List Char) :=
  if startsBlank chars ∧ matchesKeyword keyword (token chars) ∧ afterToken chars ≠ [] then
    some ((afterToken chars).dropWhile isSpace)
  else none

/-- The first match of `\s+keyword\s+`: what stands before it, and what follows it. -/
def splitAtKeyword (keyword : List Char) : List Char → Option (List Char × List Char)
  | [] => none
  | c :: rest =>
    match matchSetOff keyword (c :: rest) with
    | some after => some ([], after)
    | none => (splitAtKeyword keyword rest).map fun split ↦ (c :: split.1, split.2)

def selectKeyword : List Char := "select".toList

def fromKeyword : List Char := "from".toList

def asKeyword : List Char := "as".toList

/-- `(?P<select>.+?)\s+from\s+` at the beginning of a text: the group. -/
def lazyClause : List Char → Option (List Char)
  | [] => none
  | c :: rest => (splitAtKeyword fromKeyword rest).map fun split ↦ c :: split.1

/-- `_SELECT_RE` at the beginning of a text, the blanks after `select` as many as possible first. -/
def clauseAt (chars : List Char) : Option (List Char) :=
  if matchesKeyword selectKeyword (chars.take selectKeyword.length) then
    let after := chars.drop selectKeyword.length
    (List.range (after.takeWhile isSpace).length).reverse.findSome? fun count ↦ lazyClause (after.drop (count + 1))
  else none

/-- `_SELECT_RE.search`: the group of the first match. -/
def searchSelect : List Char → Option (List Char)
  | [] => none
  | c :: rest =>
    match clauseAt (c :: rest) with
    | some clause => some clause
    | none => searchSelect rest

/-! ### Lineage -/

structure ColumnLineage where
  outputColumn : String
  expression : String
  sourceColumns : List String
deriving DecidableEq

def aggregateNames : List String := ["sum", "avg", "count", "min", "max"]

def sourceColumns (expression : List Char) : List String :=
  (sortedTexts ((words (String.ofList expression)).map lower)).filter (· ∉ aggregateNames)

def lineageEntry (outputColumn : String) (expression : List Char) : ColumnLineage :=
  ⟨outputColumn, String.ofList (stripChars expression), sourceColumns expression⟩

/-- The name of an output column without an alias. -/
def positionalName (index : ℕ) : String := "col_" ++ toString (index + 1)

/-- The body of the loop of `derive_column_lineage`. -/
def partLineage (index : ℕ) (part : List Char) : Except Exn ColumnLineage :=
  if isPartOf " as " (lower (String.ofList part)) then
    match splitAtKeyword asKeyword part with
    | some (expression, name) => .ok (lineageEntry (String.ofList (stripChars name)) expression)
    | none => .error (.other "ValueError")
  else .ok (lineageEntry (positionalName index) part)

def clauseParts (clause : List Char) : List (List Char) :=
  ((clause.splitOn ',').map stripChars).filter (· ≠ [])

/-- `derive_column_lineage`. -/
def deriveColumnLineage (sqlText : String) : Except Exn (List ColumnLineage) :=
  match searchSelect (stripChars sqlText.toList) with
  | none => .ok []
  | some clause => (clauseParts clause).zipIdx.mapM fun part ↦ partLineage part.2 part.1

example : deriveColumnLineage "select amount as total_amount, region from invoices" =
    .ok [⟨"total_amount", "amount", ["amount"]⟩, ⟨"col_2", "region", ["region"]⟩] := by
  rfl

/-! ### Words set off by blanks -/

section Keywords

variable {keyword chars first word gap gap' rest more before after : List Char} {c : Char}

/-- A text holds the keyword between blanks, or after a blank at its end. -/
def SetsOff (keyword chars : List Char) : Prop :=
  ∃ before after, chars = before ++ after ∧ startsBlank after = true ∧ matchesKeyword keyword (token after) = true

theorem SetsOff.of_append (h : SetsOff keyword chars) (before : List Char) : SetsOff keyword (before ++ chars) := by
  obtain ⟨first, after, rfl, hafter⟩ := h
  exact ⟨before ++ first, after, (List.append_assoc _ _ _).symm, hafter⟩

theorem startsBlank_append (h : chars ≠ []) (more : List Char) :
    startsBlank (chars ++ more) = startsBlank chars := by
  cases chars with
  | nil => exact absurd rfl h
  | cons c rest => rfl

/-- Blanks before a text are passed over. -/
theorem token_append_blanks (h : ∀ c ∈ gap, isSpace c = true) (chars : List Char) :
    token (gap ++ chars) = token chars ∧ afterToken (gap ++ chars) = afterToken chars := by
  rw [token, afterToken, List.dropWhile_append_of_pos h]
  exact ⟨rfl, rfl⟩

/-- A text with a character that is no blank has its token in itself where a blank follows. -/
theorem token_append (hsome : ∃ c ∈ chars, isSpace c = false) (hrest : rest = [] ∨ startsBlank rest = true) :
    token (chars ++ rest) = token chars ∧ afterToken (chars ++ rest) = afterToken chars ++ rest := by
  have hne : chars.dropWhile isSpace ≠ [] := by
    intro hnil
    obtain ⟨c, hc, hblank⟩ := hsome
    rw [List.dropWhile_eq_nil_iff.mp hnil c hc] at hblank
    cases hblank
  have hstop : rest.takeWhile (fun c ↦ !isSpace c) = [] ∧ rest.dropWhile (fun c ↦ !isSpace c) = rest := by
    rcases hrest with rfl | hrest
    · exact ⟨rfl, rfl⟩
    · cases rest with
      | nil => exact ⟨rfl, rfl⟩
      | cons c more =>
        have hblank : isSpace c = true := hrest
        exact ⟨List.takeWhile_cons_of_neg (by rw [hblank]; decide),
          List.dropWhile_cons_of_neg (by rw [hblank]; decide)⟩
  rw [token, afterToken, token, afterToken, List.dropWhile_append, if_neg (by simpa using hne),
    List.takeWhile_append, List.dropWhile_append, hstop.1, hstop.2, List.append_nil]
  constructor
  · split_ifs with hlength
    · exact ((List.takeWhile_prefix _).eq_of_length hlength).symm
    · rfl
  · split_ifs with hempty
    · rw [List.isEmpty_iff.mp hempty, List.nil_append]
    · rfl

theorem token_append_word (hword : ∀ c ∈ word, isSpace c = false) (hne : word ≠ [])
    (hrest : rest = [] ∨ startsBlank rest = true) :
    token (word ++ rest) = word ∧ afterToken (word ++ rest) = rest := by
  obtain ⟨c, hc⟩ := List.exists_mem_of_ne_nil word hne
  obtain ⟨htoken, hafter⟩ := token_append ⟨c, hc, hword c hc⟩ hrest
  have hdrop : word.dropWhile isSpace = word := by
    cases word with
    | nil => rfl
    | cons c more => exact List.dropWhile_cons_of_neg (by rw [hword c List.mem_cons_self]; decide)
  have hpass : ∀ c ∈ word, (!isSpace c) = true := fun c hc ↦ by rw [hword c hc]; rfl
  rw [htoken, hafter, token, afterToken, hdrop, List.takeWhile_eq_self_iff.mpr hpass,
    List.dropWhile_eq_nil_iff.mpr hpass]
  exact ⟨rfl, rfl⟩

/-- A text is blanks, its token, and what follows the token. -/
theorem token_spec (chars : List Char) :
    chars = chars.takeWhile isSpace ++ (token chars ++ afterToken chars) ∧
      (∀ c ∈ token chars, isSpace c = false) ∧ (afterToken chars = [] ∨ startsBlank (afterToken chars) = true) := by
  refine ⟨?_, fun c hc ↦ ?_, ?_⟩
  · rw [token, afterToken, List.takeWhile_append_dropWhile, List.takeWhile_append_dropWhile]
  · simpa using List.mem_takeWhile_imp hc
  · have hstop := List.head?_dropWhile_not (fun c ↦ !isSpace c) (chars.dropWhile isSpace)
    rw [← afterToken] at hstop
    cases hrest : afterToken chars with
    | nil => exact Or.inl rfl
    | cons c rest =>
      rw [hrest] at hstop
      rw [List.head?_cons] at hstop
      have hblank : isSpace c = true := by simpa using hstop
      exact Or.inr hblank

theorem matchSetOff_eq_some_iff :
    matchSetOff keyword chars = some after ↔ startsBlank chars = true ∧ matchesKeyword keyword (token chars) = true ∧
      afterToken chars ≠ [] ∧ after = (afterToken chars).dropWhile isSpace := by
  rw [matchSetOff]
  split_ifs with h
  · rw [Option.some.injEq]
    exact ⟨fun heq ↦ ⟨h.1, h.2.1, h.2.2, heq.symm⟩, fun heq ↦ heq.2.2.2.symm⟩
  · exact iff_of_false (by simp) fun hall ↦ h ⟨hall.1, hall.2.1, hall.2.2.1⟩

theorem splitAtKeyword_of_match (h : matchSetOff keyword (c :: rest) = some after) :
    splitAtKeyword keyword (c :: rest) = some ([], after) := by
  unfold splitAtKeyword
  rw [h]

theorem splitAtKeyword_of_no_match (h : matchSetOff keyword (c :: rest) = none) :
    splitAtKeyword keyword (c :: rest) =
      (splitAtKeyword keyword rest).map fun split ↦ (c :: split.1, split.2) := by
  conv_lhs => unfold splitAtKeyword
  rw [h]

theorem splitAtKeyword_spec (h : splitAtKeyword keyword chars = some (before, after)) :
    (∃ rest, chars = before ++ rest ∧ matchSetOff keyword rest = some after) ∧
      ∀ first last, chars = first ++ last → matchSetOff keyword last ≠ none → before.length ≤ first.length := by
  induction chars generalizing before with
  | nil => cases h
  | cons c rest ih =>
    cases hmatch : matchSetOff keyword (c :: rest) with
    | some found =>
      rw [splitAtKeyword_of_match hmatch, Option.some.injEq, Prod.mk.injEq] at h
      obtain ⟨rfl, rfl⟩ := h
      exact ⟨⟨c :: rest, rfl, hmatch⟩, fun _ _ _ _ ↦ Nat.zero_le _⟩
    | none =>
      rw [splitAtKeyword_of_no_match hmatch] at h
      obtain ⟨⟨before', after'⟩, hsplit, h⟩ := Option.map_eq_some_iff.mp h
      rw [Prod.mk.injEq] at h
      obtain ⟨rfl, rfl⟩ := h
      obtain ⟨⟨last, hrest, hlast⟩, hfirst⟩ := ih hsplit
      refine ⟨⟨last, by rw [hrest]; rfl, hlast⟩, fun first last heq hany ↦ ?_⟩
      cases first with
      | nil =>
        rw [List.nil_append] at heq
        exact absurd hmatch (heq ▸ hany)
      | cons d first =>
        obtain ⟨-, hrest'⟩ := List.cons.inj heq
        exact Nat.succ_le_succ (hfirst first last hrest' hany)

/-- A text that does not set off the keyword is what stands before a keyword that follows it. -/
theorem splitAtKeyword_append (hclear : ¬SetsOff keyword first) (hlast : ∀ c ∈ first.getLast?, isSpace c = false)
    (hgap : startsBlank gap = true) (hblanks : ∀ c ∈ gap, isSpace c = true)
    (hword : ∀ c ∈ word, isSpace c = false) (hmatch : matchesKeyword keyword word = true) (hne : word ≠ [])
    (hrest : startsBlank rest = true) :
    splitAtKeyword keyword (first ++ (gap ++ (word ++ rest))) = some (first, rest.dropWhile isSpace) := by
  induction first with
  | nil =>
    obtain ⟨htoken, hafter⟩ := token_append_word hword hne (Or.inr hrest)
    obtain ⟨htokenGap, hafterGap⟩ := token_append_blanks hblanks (word ++ rest)
    have hfound : matchSetOff keyword (gap ++ (word ++ rest)) = some (rest.dropWhile isSpace) := by
      refine matchSetOff_eq_some_iff.mpr ⟨?_, ?_, ?_, ?_⟩
      · rw [startsBlank_append (by rintro rfl; cases hgap), hgap]
      · rw [htokenGap, htoken, hmatch]
      · rw [hafterGap, hafter]
        rintro rfl
        cases hrest
      · rw [hafterGap, hafter]
    cases gap with
    | nil => cases hgap
    | cons c more => exact splitAtKeyword_of_match hfound
  | cons c first ih =>
    have hmissed : matchSetOff keyword ((c :: first) ++ (gap ++ (word ++ rest))) = none := by
      cases hany : matchSetOff keyword ((c :: first) ++ (gap ++ (word ++ rest))) with
      | none => rfl
      | some found =>
        obtain ⟨hstarts, hfound, -, -⟩ := matchSetOff_eq_some_iff.mp hany
        have hsome : ∃ d ∈ c :: first, isSpace d = false :=
          ⟨_, List.getLast_mem (List.cons_ne_nil c first), hlast _ (List.getLast?_eq_some_getLast _)⟩
        have hstop : startsBlank (gap ++ (word ++ rest)) = true := by
          rw [startsBlank_append (by rintro rfl; cases hgap), hgap]
        rw [(token_append hsome (Or.inr hstop)).1] at hfound
        exact absurd ⟨[], c :: first, rfl, hstarts, hfound⟩ hclear
    have hclearRest : ¬SetsOff keyword first := fun h ↦ hclear (h.of_append [c])
    have hlastRest : ∀ d ∈ first.getLast?, isSpace d = false := by
      intro d hd
      refine hlast d ?_
      rw [List.getLast?_cons, Option.mem_def.mp hd]
      rfl
    rw [List.cons_append] at hmissed ⊢
    rw [splitAtKeyword_of_no_match hmissed, ih hclearRest hlastRest]
    rfl

theorem length_of_matchesKeyword (h : matchesKeyword keyword word = true) : word.length = keyword.length := by
  induction keyword generalizing word with
  | nil =>
    cases word with
    | nil => rfl
    | cons c chars => cases h
  | cons letter letters ih =>
    cases word with
    | nil => cases h
    | cons c chars =>
      rw [matchesKeyword, Bool.and_eq_true] at h
      rw [List.length_cons, List.length_cons, ih h.2]

/-- A character that a letter matches is a letter, or the long s. -/
theorem matchesLetter_cases {letter : Char} (hletter : isWordStart letter = true) (h : matchesLetter letter c = true) :
    isWordStart c = true ∨ c.toNat = 0x17f := by
  rw [matchesLetter, Bool.or_eq_true, Bool.and_eq_true, beq_iff_eq, beq_iff_eq, beq_iff_eq] at h
  rcases h with rfl | ⟨-, h⟩
  · exact Or.inl ((isWordStart_lowerAscii c).symm.trans hletter)
  · exact Or.inr h

theorem mem_of_matchesKeyword (hletters : ∀ letter ∈ keyword, isWordStart letter = true)
    (h : matchesKeyword keyword word = true) (hc : c ∈ word) : isWordStart c = true ∨ c.toNat = 0x17f := by
  induction keyword generalizing word with
  | nil =>
    cases word with
    | nil => exact absurd hc List.not_mem_nil
    | cons c chars => cases h
  | cons letter letters ih =>
    cases word with
    | nil => cases h
    | cons d chars =>
      rw [matchesKeyword, Bool.and_eq_true] at h
      rw [List.forall_mem_cons] at hletters
      rcases List.mem_cons.mp hc with rfl | hc
      · exact matchesLetter_cases hletters.1 h.1
      · exact ih hletters.2 h.2 hc

theorem isSpace_longS (h : c.toNat = 0x17f) : isSpace c = false := by
  rw [isSpace, h]
  decide

theorem isSpace_eq_false_of_matchesKeyword (hletters : ∀ letter ∈ keyword, isWordStart letter = true)
    (h : matchesKeyword keyword word = true) (hc : c ∈ word) : isSpace c = false := by
  rcases mem_of_matchesKeyword hletters h hc with hword | hlong
  · exact isSpace_eq_false_of_isWordPart (isWordPart_of_isWordStart hword)
  · exact isSpace_longS hlong

/-- On ASCII a keyword is matched without regard to case. -/
theorem matchesKeyword_iff (hascii : ∀ c ∈ word, c.toNat < 128) :
    matchesKeyword keyword word = true ↔ word.map lowerAscii = keyword := by
  induction keyword generalizing word with
  | nil => cases word <;> simp [matchesKeyword]
  | cons letter letters ih =>
    cases word with
    | nil => simp [matchesKeyword]
    | cons c chars =>
      rw [List.forall_mem_cons] at hascii
      have hletter : matchesLetter letter c = true ↔ lowerAscii c = letter := by
        have hlong : c.toNat ≠ 0x17f := by omega
        rw [matchesLetter, Bool.or_eq_true, Bool.and_eq_true, beq_iff_eq, beq_iff_eq, beq_iff_eq,
          or_iff_left fun hboth ↦ hlong hboth.2]
      rw [matchesKeyword, Bool.and_eq_true, hletter, ih hascii.2, List.map_cons, List.cons.injEq]

/-- The clause of a statement is found where `select` and `from` stand between blanks. -/
theorem searchSelect_statement {select clause fromWord : List Char}
    (hselect : matchesKeyword selectKeyword select = true) (hgap : startsBlank gap = true)
    (hblanks : ∀ c ∈ gap, isSpace c = true) (hne : clause ≠ []) (hhead : startsBlank clause = false)
    (hlast : ∀ c ∈ clause.getLast?, isSpace c = false) (hclear : ¬SetsOff fromKeyword clause)
    (hgap' : startsBlank gap' = true) (hblanks' : ∀ c ∈ gap', isSpace c = true)
    (hfrom : matchesKeyword fromKeyword fromWord = true) (hrest : startsBlank rest = true) :
    searchSelect (select ++ (gap ++ (clause ++ (gap' ++ (fromWord ++ rest))))) = some clause := by
  have hclause : lazyClause (clause ++ (gap' ++ (fromWord ++ rest))) = some clause := by
    cases clause with
    | nil => exact absurd rfl hne
    | cons c first =>
      have hfirst : ∀ d ∈ first.getLast?, isSpace d = false := by
        intro d hd
        refine hlast d ?_
        rw [List.getLast?_cons, Option.mem_def.mp hd]
        rfl
      have hword : fromWord ≠ [] := by
        rintro rfl
        exact absurd (length_of_matchesKeyword hfrom) (by decide)
      rw [List.cons_append, lazyClause, splitAtKeyword_append (fun h ↦ hclear (h.of_append [c])) hfirst hgap' hblanks'
        (fun d hd ↦ isSpace_eq_false_of_matchesKeyword (by decide) hfrom hd) hfrom hword hrest]
      rfl
  have hlength := length_of_matchesKeyword hselect
  have hat : clauseAt (select ++ (gap ++ (clause ++ (gap' ++ (fromWord ++ rest))))) = some clause := by
    have hcount : ((gap ++ (clause ++ (gap' ++ (fromWord ++ rest)))).takeWhile isSpace).length = gap.length := by
      rw [List.takeWhile_append_of_pos hblanks]
      cases clause with
      | nil => exact absurd rfl hne
      | cons c first =>
        have hc : isSpace c = false := hhead
        rw [List.cons_append, List.takeWhile_cons_of_neg (by rw [hc]; decide), List.append_nil]
    obtain ⟨count, hcountEq⟩ : ∃ count, gap.length = count + 1 := by
      cases gap with
      | nil => cases hgap
      | cons c more => exact ⟨more.length, rfl⟩
    rw [clauseAt, List.take_left' hlength, if_pos hselect, List.drop_left' hlength]
    dsimp only
    rw [hcount, hcountEq, List.range_succ, List.reverse_append, List.reverse_singleton, List.singleton_append,
      List.findSome?_cons, List.drop_left' hcountEq, hclause]
  cases hchars : select ++ (gap ++ (clause ++ (gap' ++ (fromWord ++ rest)))) with
  | nil =>
    have hnone : clauseAt [] = none := rfl
    rw [hchars, hnone] at hat
    cases hat
  | cons c chars =>
    rw [hchars] at hat
    unfold searchSelect
    rw [hat]

end Keywords

end SchemaPilot.SharedDomain
