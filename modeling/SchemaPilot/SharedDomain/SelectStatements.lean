import SchemaPilot.SharedDomain.SelectTexts

/-!
# Select statements

The pattern finds the clause of a statement (`searchSelect_text`), and the clause has as many parts as items only where
no item has a comma of its own (`length_flatMap_clauseParts`).
-/

namespace SchemaPilot.SharedDomain

open Library Library.Text

/-! ### Statements -/

/-- An alias with the blanks around its `as`. -/
structure ItemAlias where
  before : Gap
  asWord : Keyword asKeyword
  after : Gap
  name : Name

structure SelectItem where
  expression : Expr
  named : Option ItemAlias

def aliasText : Option ItemAlias → List Char
  | none => []
  | some itemAlias =>
    itemAlias.before.chars ++ (itemAlias.asWord.chars ++ (itemAlias.after.chars ++ itemAlias.name.chars))

def SelectItem.text (item : SelectItem) : List Char := item.expression.text ++ aliasText item.named

def SelectItem.outputName (item : SelectItem) (index : ℕ) : String :=
  match item.named with
  | none => positionalName index
  | some itemAlias => String.ofList itemAlias.name.chars

/-- The texts between the commas that separate items, the first one begun. -/
def paddedTexts : List Char → List (Blanks × Blanks × SelectItem) → List (List Char)
  | text, [] => [text]
  | text, (before, after, item) :: rest => (text ++ before.chars) :: paddedTexts (after.chars ++ item.text) rest

/-- A single `select ... from` statement, with the blanks before and after each comma, and anything behind `from`. -/
structure SelectStatement where
  lead : Blanks
  selectWord : Keyword selectKeyword
  afterSelect : Gap
  first : SelectItem
  others : List (Blanks × Blanks × SelectItem)
  beforeFrom : Gap
  fromWord : Keyword fromKeyword
  afterFrom : Gap
  rest : List Char
  rest_solid : ∃ c ∈ rest, isSpace c = false

namespace SelectStatement

variable (statement : SelectStatement)

def items : List SelectItem := statement.first :: statement.others.map fun other ↦ other.2.2

def clause : List Char := List.intercalate [','] (paddedTexts statement.first.text statement.others)

def text : String :=
  String.ofList (statement.lead.chars ++ (statement.selectWord.chars ++ (statement.afterSelect.chars ++
    (statement.clause ++ (statement.beforeFrom.chars ++ (statement.fromWord.chars ++
      (statement.afterFrom.chars ++ statement.rest)))))))

end SelectStatement

/-! ### The clause -/

section Clause

variable {text : List Char} {others : List (Blanks × Blanks × SelectItem)}

theorem paddedTexts_ne_nil (text : List Char) (others : List (Blanks × Blanks × SelectItem)) :
    paddedTexts text others ≠ [] := by
  cases others <;> exact List.cons_ne_nil _ _

def joined (text : List Char) (others : List (Blanks × Blanks × SelectItem)) : List Char :=
  List.intercalate [','] (paddedTexts text others)

theorem joined_nil (text : List Char) : joined text [] = text := List.intercalate_singleton

theorem joined_cons (text : List Char) (before after : Blanks) (item : SelectItem)
    (rest : List (Blanks × Blanks × SelectItem)) :
    joined text ((before, after, item) :: rest) =
      text ++ (before.chars ++ ',' :: joined (after.chars ++ item.text) rest) := by
  rw [joined, paddedTexts, List.intercalate_cons_of_ne_nil (paddedTexts_ne_nil _ _), joined, List.append_assoc,
    List.append_assoc, List.singleton_append]

theorem plain_aliasText : ∀ named : Option ItemAlias, Plain (aliasText named)
  | none => ofParts_plain.nil
  | some itemAlias => by
    refine ofParts_plain.after_blanks itemAlias.before.toBlanks ?_
    refine ofParts_plain.append _ _ (Or.inr (itemAlias.after.startsApart _)) (ofParts_plain.asWord _) ?_
    exact ofParts_plain.after_blanks itemAlias.after.toBlanks (ofParts_plain.name itemAlias.name)

/-- An alias does not prolong the words of its expression. -/
theorem SelectItem.apart (item : SelectItem) : Apart item.expression.text (aliasText item.named) := by
  refine Or.inr ?_
  cases item.named with
  | none => exact fun c hc ↦ by cases hc
  | some itemAlias => exact itemAlias.before.startsApart _

theorem SelectItem.plain (item : SelectItem) : Plain item.text :=
  ofParts_plain.append _ _ item.apart (ofParts_plain.expr item.expression) (plain_aliasText item.named)

theorem SelectItem.trimmed (item : SelectItem) : Trimmed item.text := by
  rw [SelectItem.text]
  cases item.named with
  | none =>
    rw [aliasText, List.append_nil]
    exact trimmed_expr item.expression
  | some itemAlias =>
    have htext := (trimmed_expr item.expression).append
      (itemAlias.before.chars ++ (itemAlias.asWord.chars ++ itemAlias.after.chars))
      (trimmed_identifier itemAlias.name.valid)
    simpa only [aliasText, List.append_assoc] using htext

theorem plain_joined (htext : Plain text) : Plain (joined text others) := by
  induction others generalizing text with
  | nil => rwa [joined_nil]
  | cons other rest ih =>
    obtain ⟨before, after, item⟩ := other
    rw [joined_cons]
    refine ofParts_plain.append _ _ (Or.inr (startsApart_blanks before.blank (startsApart_mark (by decide) _))) htext ?_
    exact ofParts_plain.after_blanks before
      (ofParts_plain.after_mark (by decide) (ih (ofParts_plain.after_blanks after item.plain)))

theorem joined_append (lead text : List Char) (others : List (Blanks × Blanks × SelectItem)) :
    joined (lead ++ text) others = lead ++ joined text others := by
  cases others with
  | nil => rw [joined_nil, joined_nil]
  | cons other rest =>
    obtain ⟨before, after, item⟩ := other
    rw [joined_cons, joined_cons, List.append_assoc]

theorem trimmed_joined (htext : Trimmed text) : Trimmed (joined text others) := by
  induction others generalizing text with
  | nil => rwa [joined_nil]
  | cons other rest ih =>
    obtain ⟨before, after, item⟩ := other
    have hjoined := htext.append (before.chars ++ ',' :: after.chars) (ih item.trimmed)
    rw [joined_cons, joined_append]
    simpa only [List.append_assoc, List.cons_append] using hjoined

theorem rdropWhile_append {second : List Char} (h : ∃ c ∈ second, isSpace c = false) (first : List Char) :
    (first ++ second).rdropWhile isSpace = first ++ second.rdropWhile isSpace := by
  obtain ⟨c, hc, hblank⟩ := h
  have hne : second.reverse.dropWhile isSpace ≠ [] := by
    intro hnil
    rw [List.dropWhile_eq_nil_iff.mp hnil c (List.mem_reverse.mpr hc)] at hblank
    cases hblank
  rw [List.rdropWhile, List.rdropWhile, List.reverse_append, List.dropWhile_append, if_neg (by simpa using hne),
    List.reverse_append, List.reverse_reverse]

theorem Keyword.matches {keyword : List Char} (word : Keyword keyword) (hne : keyword ≠ [])
    (hletters : ∀ letter ∈ keyword, isWordStart letter = true) : matchesKeyword keyword word.chars = true :=
  (matchesKeyword_iff fun _ hc ↦ toNat_lt_of_isWordPart (isWordPart_of_mem (word.isIdentifierChars hne hletters) hc)).mpr
    word.spelled

/-- The pattern finds the clause of a statement. -/
theorem searchSelect_text (statement : SelectStatement) :
    searchSelect (stripChars statement.text.toList) = some statement.clause := by
  have hclause : statement.clause = joined statement.first.text statement.others := rfl
  have htrimmed : Trimmed statement.clause := hclause ▸ trimmed_joined statement.first.trimmed
  have hplain : Plain statement.clause := hclause ▸ plain_joined statement.first.plain
  have hselect := statement.selectWord.isIdentifierChars (by decide) (by decide)
  have hstripped : stripChars statement.text.toList = statement.selectWord.chars ++ (statement.afterSelect.chars ++
      (statement.clause ++ (statement.beforeFrom.chars ++ (statement.fromWord.chars ++
        (statement.afterFrom.chars ++ statement.rest.rdropWhile isSpace))))) := by
    have hbody : ∀ rest : List Char, (statement.selectWord.chars ++ rest).dropWhile isSpace =
        statement.selectWord.chars ++ rest := by
      intro rest
      obtain ⟨c, more, hchars, hstart, -⟩ := (isIdentifierChars_iff _).mp hselect
      rw [hchars, List.cons_append, List.dropWhile_cons_of_neg]
      rw [isSpace_eq_false_of_isWordPart (isWordPart_of_isWordStart hstart)]
      decide
    have hreassoc := rdropWhile_append statement.rest_solid (statement.selectWord.chars ++
      (statement.afterSelect.chars ++ (statement.clause ++ (statement.beforeFrom.chars ++
        (statement.fromWord.chars ++ statement.afterFrom.chars)))))
    simp only [List.append_assoc] at hreassoc
    rw [SelectStatement.text, String.toList_ofList, stripChars, List.dropWhile_append_of_pos statement.lead.blank,
      hbody, hreassoc]
  have hafter : startsBlank (statement.afterFrom.chars ++ statement.rest.rdropWhile isSpace) = true := by
    have hgap := statement.afterFrom.starts
    rwa [startsBlank_append]
    intro hnil
    rw [hnil] at hgap
    cases hgap
  rw [hstripped]
  exact searchSelect_statement (statement.selectWord.matches (by decide) (by decide)) statement.afterSelect.starts
    statement.afterSelect.blank htrimmed.nonempty htrimmed.startsBlank_eq (htrimmed.last_append []) hplain.not_setsOff_from
    statement.beforeFrom.starts statement.beforeFrom.blank (statement.fromWord.matches (by decide) (by decide)) hafter

end Clause

/-! ### The parts of a clause -/

section Parts

variable {text padded chars : List Char} {c : Char} {items : List SelectItem} {paddeds : List (List Char)}

def Pads (text padded : List Char) : Prop :=
  ∃ lead trail, (∀ c ∈ lead, isSpace c = true) ∧ (∀ c ∈ trail, isSpace c = true) ∧ padded = lead ++ (text ++ trail)

theorem forall₂_pads (others : List (Blanks × Blanks × SelectItem)) :
    ∀ (item : SelectItem) (lead : List Char), (∀ c ∈ lead, isSpace c = true) →
      List.Forall₂ (fun item padded ↦ Pads item.text padded) (item :: others.map fun other ↦ other.2.2)
        (paddedTexts (lead ++ item.text) others) := by
  induction others with
  | nil =>
    intro item lead hlead
    exact .cons ⟨lead, [], hlead, fun _ hc ↦ absurd hc List.not_mem_nil, by rw [List.append_nil]⟩ .nil
  | cons other rest ih =>
    intro item lead hlead
    obtain ⟨before, after, next⟩ := other
    exact .cons ⟨lead, before.chars, hlead, before.blank, List.append_assoc _ _ _⟩ (ih next after.chars after.blank)

theorem clauseParts_clause (statement : SelectStatement) : clauseParts statement.clause =
    (paddedTexts statement.first.text statement.others).flatMap clauseParts := by
  rw [clauseParts, SelectStatement.clause, splitOn_intercalate_eq_flatMap ',' (paddedTexts_ne_nil _ _),
    List.map_flatMap, List.filter_flatMap]
  rfl

theorem exists_part (hc : c ∈ chars) (hne : c ≠ ',') : ∃ part ∈ chars.splitOn ',', c ∈ part := by
  induction chars with
  | nil => exact absurd hc List.not_mem_nil
  | cons d rest ih =>
    rw [List.splitOn_cons_eq_if_modifyHead]
    split_ifs with hd
    · have hrest : c ∈ rest := (List.mem_cons.mp hc).resolve_left fun heq ↦ hne (heq.trans (beq_iff_eq.mp hd))
      obtain ⟨part, hpart, hmem⟩ := ih hrest
      exact ⟨part, List.mem_cons_of_mem _ hpart, hmem⟩
    · obtain ⟨first, others, hparts⟩ := List.exists_cons_of_ne_nil (List.splitOn_ne_nil ',' rest)
      rw [hparts] at ih ⊢
      rw [List.modifyHead_cons]
      rcases List.mem_cons.mp hc with rfl | hc
      · exact ⟨c :: first, List.mem_cons_self, List.mem_cons_self⟩
      · obtain ⟨part, hpart, hmem⟩ := ih hc
        rcases List.mem_cons.mp hpart with rfl | hpart
        · exact ⟨d :: part, List.mem_cons_self, List.mem_cons_of_mem d hmem⟩
        · exact ⟨part, List.mem_cons_of_mem _ hpart, hmem⟩

theorem mem_dropWhile_isSpace (hc : c ∈ chars) (hblank : isSpace c = false) : c ∈ chars.dropWhile isSpace := by
  rw [← List.takeWhile_append_dropWhile (p := isSpace) (l := chars)] at hc
  refine (List.mem_append.mp hc).resolve_left fun htake ↦ ?_
  rw [List.mem_takeWhile_imp htake] at hblank
  cases hblank

theorem mem_stripChars (hc : c ∈ chars) (hblank : isSpace c = false) : c ∈ stripChars chars := by
  rw [stripChars, List.rdropWhile, List.mem_reverse]
  exact mem_dropWhile_isSpace (List.mem_reverse.mpr (mem_dropWhile_isSpace hc hblank)) hblank

/-- A text with more than blanks and commas has parts. -/
theorem clauseParts_ne_nil (hc : c ∈ chars) (hsolid : Solid c) : clauseParts chars ≠ [] := by
  obtain ⟨part, hpart, hmem⟩ := exists_part hc hsolid.2
  refine List.ne_nil_of_mem (List.mem_filter.mpr ⟨List.mem_map_of_mem hpart, ?_⟩)
  exact decide_eq_true (List.ne_nil_of_mem (mem_stripChars hmem hsolid.1))

theorem Trimmed.stripChars_eq (h : Trimmed text) : stripChars text = text := by
  refine stripChars_eq_self (fun c hc ↦ ?_) (h.last_append [])
  obtain ⟨d, rest, rfl, hd, -⟩ := h.head
  cases hc
  exact hd

theorem clauseParts_of_no_comma (h : Pads text padded) (htext : Trimmed text) (hcomma : ',' ∉ text) :
    clauseParts padded = [text] := by
  obtain ⟨lead, trail, hlead, htrail, rfl⟩ := h
  have hpadded : ',' ∉ lead ++ (text ++ trail) := by
    have hblank : isSpace ',' = false := by decide
    rw [List.mem_append, List.mem_append]
    rintro (hmem | hmem | hmem)
    · exact Bool.false_ne_true (hblank.symm.trans (hlead _ hmem))
    · exact hcomma hmem
    · exact Bool.false_ne_true (hblank.symm.trans (htrail _ hmem))
  rw [clauseParts, List.splitOn_eq_singleton hpadded, List.map_singleton, stripChars_padded hlead htrail,
    htext.stripChars_eq]
  exact List.filter_cons_of_pos (decide_eq_true htext.nonempty)

theorem clauseParts_append_comma (first last : List Char) :
    clauseParts (first ++ ',' :: last) = clauseParts first ++ clauseParts last := by
  rw [clauseParts, List.splitOn_append_cons_self, List.map_append, List.filter_append]
  rfl

/-- A text with a comma has more than one part. -/
theorem one_lt_length_clauseParts (h : Pads text padded) (htext : Trimmed text) (hcomma : ',' ∈ text) :
    1 < (clauseParts padded).length := by
  obtain ⟨lead, trail, -, -, rfl⟩ := h
  obtain ⟨first, last, hsplit, -⟩ := List.eq_append_cons_of_mem hcomma
  obtain ⟨c, rest, hhead, hc⟩ := htext.head
  obtain ⟨init, d, hlast, hd⟩ := htext.last
  have hcmem : c ∈ first := by
    cases first with
    | nil =>
      rw [hhead, List.nil_append] at hsplit
      exact absurd (List.cons.inj hsplit).1 hc.2
    | cons e more =>
      rw [hhead, List.cons_append] at hsplit
      exact (List.cons.inj hsplit).1 ▸ List.mem_cons_self
  have hdmem : d ∈ last := by
    have hend := congrArg List.getLast? (hlast.symm.trans hsplit)
    rw [List.getLast?_concat, List.getLast?_append_of_ne_nil _ (List.cons_ne_nil _ _), List.getLast?_cons] at hend
    cases hvalue : last.getLast? with
    | none =>
      rw [hvalue] at hend
      exact absurd (Option.some.inj hend) hd.2
    | some e =>
      rw [hvalue] at hend
      exact Option.some.inj hend ▸ List.mem_of_getLast? hvalue
  have hpadded : lead ++ (text ++ trail) = (lead ++ first) ++ ',' :: (last ++ trail) := by
    rw [hsplit]
    simp only [List.append_assoc, List.cons_append]
  have hfirst := clauseParts_ne_nil (List.mem_append_right lead hcmem) hc
  have hrest := clauseParts_ne_nil (List.mem_append_left trail hdmem) hd
  rw [hpadded, clauseParts_append_comma, List.length_append]
  have := List.length_pos_of_ne_nil hfirst
  have := List.length_pos_of_ne_nil hrest
  omega

/-- Without commas the parts are the items. -/
theorem flatMap_clauseParts (h : List.Forall₂ (fun item padded ↦ Pads item.text padded) items paddeds)
    (hcomma : ∀ item ∈ items, ',' ∉ item.text) : paddeds.flatMap clauseParts = items.map SelectItem.text := by
  induction h with
  | nil => rfl
  | @cons item padded items paddeds hpads _ ih =>
    rw [List.forall_mem_cons] at hcomma
    rw [List.flatMap_cons, clauseParts_of_no_comma hpads item.trimmed hcomma.1, ih hcomma.2]
    rfl

/-- There are as many parts as items only where no item has a comma. -/
theorem length_flatMap_clauseParts (h : List.Forall₂ (fun item padded ↦ Pads item.text padded) items paddeds) :
    items.length ≤ (paddeds.flatMap clauseParts).length ∧
      ((paddeds.flatMap clauseParts).length = items.length → ∀ item ∈ items, ',' ∉ item.text) := by
  induction h with
  | nil => exact ⟨le_rfl, fun _ _ hitem ↦ absurd hitem List.not_mem_nil⟩
  | @cons item padded items paddeds hpads _ ih =>
    obtain ⟨hle, hrest⟩ := ih
    rw [List.flatMap_cons, List.length_append, List.length_cons, List.forall_mem_cons]
    by_cases hcomma : ',' ∈ item.text
    · have hmany := one_lt_length_clauseParts hpads item.trimmed hcomma
      exact ⟨by omega, fun heq ↦ absurd heq (by omega)⟩
    · rw [clauseParts_of_no_comma hpads item.trimmed hcomma, List.length_singleton]
      exact ⟨by omega, fun heq ↦ ⟨hcomma, hrest (by omega)⟩⟩

end Parts

end SchemaPilot.SharedDomain
