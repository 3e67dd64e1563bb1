import SchemaPilot.Library.ItemByItem
import SchemaPilot.Library.JsonText
import SchemaPilot.SharedDomain.SelectStatements

/-!
# Complete lineage

Column lineage of a statement is complete exactly where every item of it is `Readable` (`lineageComplete_iff`): the
clause is split at every comma, also within calls and types, the alias is looked for at ` as ` and taken from the first
`as` between blanks, which may belong to a cast, and a column with the name of an aggregate function is left out.
-/

namespace SchemaPilot.SharedDomain

open Library Library.Text

/-- An entry has the name of the output column and, in lower case, every column its item references. -/
def EntryComplete (index : ℕ) (item : SelectItem) (entry : ColumnLineage) : Prop :=
  entry.outputColumn = item.outputName index ∧
    ∀ column ∈ item.expression.columns, lower (String.ofList column.chars) ∈ entry.sourceColumns

/-- The lineage of a statement has one complete entry for each item, in order. -/
def LineageComplete (statement : SelectStatement) : Prop :=
  ∃ lineage, deriveColumnLineage statement.text = .ok lineage ∧
    List.Forall₂ (fun item entry ↦ EntryComplete item.2 item.1 entry) statement.items.zipIdx lineage

/-- The text of an item has ` as `, in any case, between single spaces. -/
def SelectItem.showsAs (item : SelectItem) : Bool := isPartOf " as " (lower (String.ofList item.text))

/-- The name of the output column is found: without an alias there is no ` as `; with one, its own is the first `as`
between blanks, or there is no ` as ` and the alias is the positional name. -/
def SelectItem.NameFound (item : SelectItem) (index : ℕ) : Prop :=
  match item.named with
  | none => item.showsAs = false
  | some itemAlias =>
    (item.showsAs = true ∧ ¬SetsOff asKeyword item.expression.text) ∨
      (item.showsAs = false ∧ String.ofList itemAlias.name.chars = positionalName index)

/-- An item without a comma of its own, without columns named like an aggregate function, whose name is found. -/
structure Readable (index : ℕ) (item : SelectItem) : Prop where
  comma : ',' ∉ item.text
  columns : ∀ column ∈ item.expression.columns, lower (String.ofList column.chars) ∉ aggregateNames
  name : item.NameFound index

/-- An item has a complete entry by itself. -/
def CompleteAlone (index : ℕ) (item : SelectItem) : Prop :=
  ∃ entry, partLineage index item.text = .ok entry ∧ EntryComplete index item entry

section Names

variable {item : SelectItem} {index : ℕ} {itemAlias : ItemAlias} {before after rest : List Char}

/-- A closing parenthesis behind an `as` is part of the name that is read. -/
theorem closing_mem_name (hmatch : matchSetOff asKeyword rest = some after) (hclosing : ')' ∈ rest) :
    ')' ∈ stripChars after := by
  obtain ⟨-, hword, -, rfl⟩ := matchSetOff_eq_some_iff.mp hmatch
  have hblank : isSpace ')' = false := by decide
  rw [(token_spec rest).1, List.mem_append, List.mem_append] at hclosing
  rcases hclosing with hclosing | hclosing | hclosing
  · rw [List.mem_takeWhile_imp hclosing] at hblank
    cases hblank
  · exact absurd (mem_of_matchesKeyword (by decide) hword hclosing) (by decide)
  · exact mem_stripChars (mem_dropWhile_isSpace hclosing hblank) hblank

theorem closing_not_mem_outputName (item : SelectItem) (index : ℕ) : ')' ∉ (item.outputName index).toList := by
  rw [SelectItem.outputName]
  cases item.named with
  | none =>
    dsimp only
    rw [positionalName, String.toList_append, List.mem_append]
    rintro (hmem | hmem)
    · exact absurd hmem (by decide)
    · exact absurd (Json.natRepr_digit hmem) (by decide)
  | some itemAlias =>
    dsimp only
    rw [String.toList_ofList]
    intro hmem
    exact absurd (isWordPart_of_mem itemAlias.name.valid hmem) (by decide)

/-- An `as` between blanks in an expression is followed by a closing parenthesis. -/
theorem closing_mem_of_as {expr : Expr} (htext : expr.text = before ++ rest)
    (hstarts : startsBlank rest = true) (hmatch : matchesKeyword asKeyword (token rest) = true) : ')' ∈ rest := by
  have hplain := (ofParts_plain.expr expr).1
  rw [htext] at hplain
  refine asClosed_expr expr before rest htext (Or.inr hstarts) ⟨token rest, ?_, hmatch⟩
  exact mem_scan_token hmatch (by decide) (by decide) fun c hc ↦ hplain c (List.mem_append_right _ hc)

theorem startsBlank_aliasText (hnamed : item.named = some itemAlias) : startsBlank (aliasText item.named) = true := by
  have hgap := itemAlias.before.starts
  rw [hnamed, aliasText]
  rwa [startsBlank_append]
  intro hnil
  rw [hnil] at hgap
  cases hgap

theorem token_append_alias {last : List Char} (hexpr : item.expression.text = before ++ last) (hne : last ≠ []) :
    token (last ++ aliasText item.named) = token last ∧
      afterToken (last ++ aliasText item.named) = afterToken last ++ aliasText item.named := by
  have hend := (trimmed_expr item.expression).last_append []
  rw [List.nil_append, hexpr, List.getLast?_append_of_ne_nil _ hne] at hend
  refine token_append ⟨_, List.getLast_mem hne, hend _ (List.getLast?_eq_some_getLast hne)⟩ ?_
  cases hnamed : item.named with
  | none => exact Or.inl rfl
  | some itemAlias => exact Or.inr (hnamed ▸ startsBlank_aliasText hnamed)

/-- The alias is read where its expression has no `as` between blanks. -/
theorem splitAtKeyword_item (hnamed : item.named = some itemAlias)
    (hclear : ¬SetsOff asKeyword item.expression.text) :
    splitAtKeyword asKeyword item.text = some (item.expression.text, itemAlias.name.chars) := by
  have hname := trimmed_identifier itemAlias.name.valid
  have hword := itemAlias.asWord.isIdentifierChars (by decide) (by decide)
  have hrest : startsBlank (itemAlias.after.chars ++ itemAlias.name.chars) = true := by
    have hafter := itemAlias.after.starts
    rwa [startsBlank_append]
    intro hnil
    rw [hnil] at hafter
    cases hafter
  have hdrop : itemAlias.name.chars.dropWhile isSpace = itemAlias.name.chars := by
    obtain ⟨c, more, hchars, hc, -⟩ := hname.head
    rw [hchars, List.dropWhile_cons_of_neg (by rw [hc]; decide)]
  rw [SelectItem.text, hnamed, aliasText, splitAtKeyword_append hclear
    ((trimmed_expr item.expression).last_append []) itemAlias.before.starts itemAlias.before.blank
    (fun c hc ↦ isSpace_eq_false_of_isWordPart (isWordPart_of_mem hword hc))
    (itemAlias.asWord.matches (by decide) (by decide)) (isIdentifierChars_ne_nil hword) hrest,
    List.dropWhile_append_of_pos itemAlias.after.blank, hdrop]

/-- A name without a closing parenthesis is read behind the expression only. -/
theorem exists_suffix_alias (htext : item.text = before ++ rest) (hmatch : matchSetOff asKeyword rest = some after)
    (hclosing : ')' ∉ rest) : ∃ middle, aliasText item.named = middle ++ rest := by
  obtain ⟨hstarts, hword, -, -⟩ := matchSetOff_eq_some_iff.mp hmatch
  rcases List.append_eq_append_iff.mp htext with ⟨middle, -, halias⟩ | ⟨middle, hexpr, rfl⟩
  · exact ⟨middle, halias⟩
  by_cases hnil : middle = []
  · exact ⟨[], by rw [hnil]; rfl⟩
  · rw [startsBlank_append hnil] at hstarts
    rw [(token_append_alias hexpr hnil).1] at hword
    exact absurd (List.mem_append_left _ (closing_mem_of_as hexpr hstarts hword)) hclosing

/-- Where the name that is read has no closing parenthesis, it is an alias that can be read. -/
theorem alias_of_no_closing (hsplit : splitAtKeyword asKeyword item.text = some (before, after))
    (hclosing : ')' ∉ stripChars after) :
    ∃ itemAlias, item.named = some itemAlias ∧ ¬SetsOff asKeyword item.expression.text := by
  obtain ⟨⟨rest, htext, hmatch⟩, hfirst⟩ := splitAtKeyword_spec hsplit
  obtain ⟨middle, halias⟩ := exists_suffix_alias htext hmatch fun h ↦ hclosing (closing_mem_name hmatch h)
  cases hnamed : item.named with
  | none =>
    have hstarts := (matchSetOff_eq_some_iff.mp hmatch).1
    rw [hnamed, aliasText] at halias
    rw [(List.append_eq_nil_iff.mp halias.symm).2] at hstarts
    cases hstarts
  | some itemAlias =>
    refine ⟨itemAlias, rfl, ?_⟩
    rintro ⟨first, last, hexpr, hlast, hmatches⟩
    have hblank := startsBlank_aliasText hnamed
    have hne : last ≠ [] := by
      rintro rfl
      cases hlast
    obtain ⟨htoken, hafter⟩ := token_append_alias hexpr hne
    have hfound : matchSetOff asKeyword (last ++ aliasText item.named) ≠ none := by
      rw [matchSetOff_eq_some_iff.mpr ⟨(startsBlank_append hne _).trans hlast, htoken ▸ hmatches, ?_, rfl⟩]
      · exact Option.some_ne_none _
      · rw [hafter]
        intro hnil
        rw [(List.append_eq_nil_iff.mp hnil).2] at hblank
        cases hblank
    -- an earlier match in the expression would have been the first one
    have hlength := hfirst first _ (by rw [SelectItem.text, hexpr, List.append_assoc]) hfound
    have hlengths := congrArg List.length htext
    have hpos := List.length_pos_of_ne_nil hne
    rw [SelectItem.text, hexpr, halias] at hlengths
    simp only [List.length_append] at hlengths
    omega

end Names

section Lineage

variable {item : SelectItem} {index : ℕ} {part expression : List Char} {entry : ColumnLineage}

theorem mem_sourceColumns {word : List Char} (hword : word ∈ scan [] expression) :
    lower (String.ofList word) ∈ sourceColumns expression ↔ lower (String.ofList word) ∉ aggregateNames := by
  have hmem : String.ofList word ∈ words (String.ofList expression) := by
    rw [words, String.toList_ofList]
    exact List.mem_map_of_mem hword
  rw [sourceColumns, List.mem_filter, mem_sortedTexts, decide_eq_true_eq]
  exact and_iff_right (List.mem_map_of_mem hmem)

theorem columns_iff (hcolumns : ∀ column ∈ item.expression.columns, column.chars ∈ scan [] expression) :
    (∀ column ∈ item.expression.columns, lower (String.ofList column.chars) ∈ sourceColumns expression) ↔
      ∀ column ∈ item.expression.columns, lower (String.ofList column.chars) ∉ aggregateNames :=
  forall₂_congr fun column hcolumn ↦ mem_sourceColumns (hcolumns column hcolumn)

theorem readable_iff (hcomma : ',' ∉ item.text) : Readable index item ↔
    (∀ column ∈ item.expression.columns, lower (String.ofList column.chars) ∉ aggregateNames) ∧
      item.NameFound index :=
  ⟨fun h ↦ ⟨h.columns, h.name⟩, fun ⟨hcolumns, hname⟩ ↦ ⟨hcomma, hcolumns, hname⟩⟩

/-- Without ` as ` the name is the positional one. -/
theorem hidden_iff (hcomma : ',' ∉ item.text) (hshows : item.showsAs = false) :
    CompleteAlone index item ↔ Readable index item := by
  have hpart : partLineage index item.text = .ok (lineageEntry (positionalName index) item.text) := by
    have hno : ¬isPartOf " as " (lower (String.ofList item.text)) := Bool.eq_false_iff.mp hshows
    rw [partLineage, if_neg hno]
  have hname : positionalName index = item.outputName index ↔ item.NameFound index := by
    rw [SelectItem.outputName, SelectItem.NameFound, hshows]
    cases item.named with
    | none => simp
    | some itemAlias => simp [eq_comm]
  have hcolumns : ∀ column ∈ item.expression.columns, column.chars ∈ scan [] item.text := fun column hcolumn ↦
    mem_scan_left (column_mem_scan item.expression column hcolumn) item.apart
  rw [readable_iff hcomma, ← columns_iff hcolumns, ← hname, and_comm]
  constructor
  · rintro ⟨entry, hentry, hcomplete⟩
    rw [hpart] at hentry
    cases hentry
    exact hcomplete
  · exact fun hcomplete ↦ ⟨_, hpart, hcomplete⟩

/-- With ` as ` the name stands behind the first `as` between blanks. -/
theorem shown_iff (hcomma : ',' ∉ item.text) (hshows : item.showsAs = true) :
    CompleteAlone index item ↔ Readable index item := by
  have hpart : partLineage index item.text = _ := if_pos hshows
  have hcolumns := columns_iff (column_mem_scan item.expression)
  rw [readable_iff hcomma]
  constructor
  · rintro ⟨entry, hentry, hcomplete⟩
    rw [hpart] at hentry
    cases hsplit : splitAtKeyword asKeyword item.text with
    | none =>
      rw [hsplit] at hentry
      cases hentry
    | some split =>
      obtain ⟨expression, name⟩ := split
      rw [hsplit] at hentry
      cases hentry
      obtain ⟨houtput, hsources⟩ := hcomplete
      have hclosing : ')' ∉ stripChars name := by
        intro hmem
        refine closing_not_mem_outputName item index ?_
        rw [← houtput, lineageEntry, String.toList_ofList]
        exact hmem
      obtain ⟨itemAlias, hnamed, hclear⟩ := alias_of_no_closing hsplit hclosing
      rw [splitAtKeyword_item hnamed hclear] at hsplit
      cases hsplit
      rw [SelectItem.NameFound, hnamed]
      exact ⟨hcolumns.mp hsources, Or.inl ⟨hshows, hclear⟩⟩
  · rintro ⟨hnames, hfound⟩
    rw [SelectItem.NameFound] at hfound
    cases hnamed : item.named with
    | none =>
      rw [hnamed, hshows] at hfound
      cases hfound
    | some itemAlias =>
      rw [hnamed, hshows] at hfound
      rcases hfound with ⟨-, hclear⟩ | ⟨hfalse, -⟩
      · rw [splitAtKeyword_item hnamed hclear] at hpart
        refine ⟨_, hpart, ?_, hcolumns.mpr hnames⟩
        rw [SelectItem.outputName, hnamed, stripChars_identifier itemAlias.name.valid]
        rfl
      · cases hfalse

/-- An item without commas has a complete entry exactly where it is readable. -/
theorem completeAlone_iff (hcomma : ',' ∉ item.text) : CompleteAlone index item ↔ Readable index item := by
  cases hshows : item.showsAs with
  | false => exact hidden_iff hcomma hshows
  | true => exact shown_iff hcomma hshows

end Lineage

variable (statement : SelectStatement)

theorem deriveColumnLineage_text : deriveColumnLineage statement.text =
    (clauseParts statement.clause).zipIdx.mapM fun part ↦ partLineage part.2 part.1 := by
  rw [deriveColumnLineage, searchSelect_text]

theorem SelectStatement.pads : List.Forall₂ (fun item padded ↦ Pads item.text padded) statement.items
    (paddedTexts statement.first.text statement.others) :=
  forall₂_pads statement.others statement.first [] fun _ hc ↦ absurd hc List.not_mem_nil

/-- Where no item has a comma, each is read by itself. -/
theorem deriveColumnLineage_eq_ok_iff (hcomma : ∀ item ∈ statement.items, ',' ∉ item.text)
    (lineage : List ColumnLineage) : deriveColumnLineage statement.text = .ok lineage ↔
      List.Forall₂ (fun item entry ↦ partLineage item.2 item.1.text = .ok entry) statement.items.zipIdx lineage := by
  rw [deriveColumnLineage_text, clauseParts_clause, flatMap_clauseParts statement.pads hcomma, List.zipIdx_map,
    mapM_eq_ok_iff, List.forall₂_map_left_iff]
  rfl

/-- **Lineage is complete exactly for readable items.** The lineage of a statement has one entry for each item, in
order, with its name and every column it references, exactly where every item is readable at its place. -/
theorem lineageComplete_iff :
    LineageComplete statement ↔ ∀ item ∈ statement.items.zipIdx, Readable item.2 item.1 := by
  constructor
  · rintro ⟨lineage, hderive, hcomplete⟩
    have hcomma : ∀ item ∈ statement.items, ',' ∉ item.text := by
      refine (length_flatMap_clauseParts statement.pads).2 ?_
      have hlength := hcomplete.length_eq
      rw [deriveColumnLineage_text, mapM_eq_ok_iff] at hderive
      rw [← clauseParts_clause, ← List.length_zipIdx, hderive.length_eq, ← hlength, List.length_zipIdx]
    rw [deriveColumnLineage_eq_ok_iff statement hcomma] at hderive
    rintro ⟨item, index⟩ hitem
    rw [← completeAlone_iff (hcomma item (List.fst_mem_of_mem_zipIdx hitem))]
    have hboth := List.forall₂_iff_zip.mpr ⟨hderive.length_eq, fun hpair ↦
      And.intro ((List.forall₂_iff_zip.mp hderive).2 hpair) ((List.forall₂_iff_zip.mp hcomplete).2 hpair)⟩
    obtain ⟨entry, -, hentry⟩ := exists_mem_of_forall₂ hboth hitem
    exact ⟨entry, hentry⟩
  · intro hreadable
    have hcomma : ∀ item ∈ statement.items, ',' ∉ item.text := by
      intro item hitem
      rw [← List.zipIdx_map_fst 0 statement.items] at hitem
      obtain ⟨indexed, hindexed, rfl⟩ := List.mem_map.mp hitem
      exact (hreadable indexed hindexed).comma
    obtain ⟨lineage, hlineage⟩ := exists_forall₂ fun item hitem ↦
      (completeAlone_iff (hreadable item hitem).comma).mpr (hreadable item hitem)
    exact ⟨lineage, (deriveColumnLineage_eq_ok_iff statement hcomma lineage).mpr (hlineage.imp fun _ _ h ↦ h.1),
      hlineage.imp fun _ _ h ↦ h.2⟩

def exampleName (word : String) (hvalid : isIdentifierChars word.toList = true)
    (hunreserved : ∀ keyword ∈ [selectKeyword, fromKeyword, asKeyword], matchesKeyword keyword word.toList = false) :
    Name := ⟨word.toList, hvalid, hunreserved⟩

def noBlanks : Blanks := ⟨[], fun _ hc ↦ absurd hc List.not_mem_nil⟩

def oneBlank : Gap := ⟨⟨[' '], by decide⟩, rfl⟩

/-- `coalesce(a, b) as c`. -/
def coalesceItem : SelectItem where
  expression := .call (exampleName "coalesce" (by decide) (by decide)) noBlanks
    (.more noBlanks (.column (exampleName "a" (by decide) (by decide))) noBlanks
      (.last oneBlank.toBlanks (.column (exampleName "b" (by decide) (by decide))) noBlanks))
  named := some ⟨oneBlank, ⟨"as".toList, by decide⟩, oneBlank, exampleName "c" (by decide) (by decide)⟩

/-- `select coalesce(a, b) as c from t`. -/
def coalesceStatement : SelectStatement where
  lead := noBlanks
  selectWord := ⟨"select".toList, by decide⟩
  afterSelect := oneBlank
  first := coalesceItem
  others := []
  beforeFrom := oneBlank
  fromWord := ⟨"from".toList, by decide⟩
  afterFrom := oneBlank
  rest := ['t']
  rest_solid := ⟨'t', by decide⟩

/-- The call is taken for two items, `coalesce(a` and `b) as c`. -/
theorem coalesce_two_entries : coalesceStatement.text = "select coalesce(a, b) as c from t" ∧
    deriveColumnLineage coalesceStatement.text =
      .ok [⟨"col_1", "coalesce(a", ["a", "coalesce"]⟩, ⟨"c", "b)", ["b"]⟩] ∧
    ¬LineageComplete coalesceStatement := by
  have hderive : deriveColumnLineage coalesceStatement.text =
      .ok [⟨"col_1", "coalesce(a", ["a", "coalesce"]⟩, ⟨"c", "b)", ["b"]⟩] := by rfl
  refine ⟨by decide, hderive, ?_⟩
  rintro ⟨lineage, hlineage, hcomplete⟩
  rw [hderive] at hlineage
  cases hlineage
  exact absurd hcomplete.length_eq (by decide)

end SchemaPilot.SharedDomain
