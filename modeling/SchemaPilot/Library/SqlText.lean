import SchemaPilot.Library.Sql
import SchemaPilot.Library.Text

/-!
# The words of a SELECT block

The text of a block whose names are all identifiers and that has neither literals nor a condition
(`Select.Named`) is read by the word scan as the names and keywords it is made of
(`Select.words_render`). Besides word characters it holds blanks and a little punctuation only
(`Select.tight_render`), and it has no blank to strip (`Select.strip_render`).
-/

namespace SchemaPilot.Library.Sql

open Text

/-! ### Named syntax and its words -/

def ColumnRef.Named (ref : ColumnRef) : Prop :=
  (∀ table ∈ ref.table, isIdentifier table = true) ∧ isIdentifier ref.column = true

def ColumnRef.words (ref : ColumnRef) : List String := ref.table.toList ++ [ref.column]

/-- The names of a scalar expression are identifiers, and it has no literals. -/
def Scalar.Named : Scalar → Prop
  | column ref => ref.Named
  | literal _ => False
  | call function argument => isIdentifier function = true ∧ argument.Named

def Scalar.words : Scalar → List String
  | column ref => ref.words
  | literal _ => []
  | call function argument => function :: argument.words

/-- The names of an output expression are identifiers. -/
def ItemExpr.Named : ItemExpr → Prop
  | scalar expression => expression.Named
  | countStar => True
  | aggregate function argument => isIdentifier function = true ∧ argument.Named

def ItemExpr.words : ItemExpr → List String
  | scalar expression => expression.words
  | countStar => ["count"]
  | aggregate function argument => function :: argument.words

def aliasWords : Option String → List String
  | some label => ["as", label]
  | none => []

/-- The names of an output column are identifiers. -/
def Item.Named (item : Item) : Prop :=
  item.expression.Named ∧ ∀ label ∈ item.label, isIdentifier label = true

def Item.words (item : Item) : List String := item.expression.words ++ aliasWords item.label

def TableRef.Named (ref : TableRef) : Prop :=
  isIdentifier ref.schema = true ∧ isIdentifier ref.table = true ∧
    ∀ label ∈ ref.label, isIdentifier label = true

def TableRef.words (ref : TableRef) : List String :=
  ref.schema :: ref.table :: aliasWords ref.label

def JoinKind.wordList : JoinKind → List String
  | inner => ["inner", "join"]
  | left => ["left", "join"]
  | right => ["right", "join"]
  | full => ["full", "outer", "join"]

def Join.Named (join : Join) : Prop := join.table.Named ∧ join.left.Named ∧ join.right.Named

def Join.words (join : Join) : List String :=
  join.kind.wordList ++ join.table.words ++ "on" :: (join.left.words ++ join.right.words)

/-- The names of a block are identifiers, and it has no condition. -/
structure Select.Named (select : Select) : Prop where
  items : ∀ item ∈ select.items, item.Named
  source : select.source.Named
  joins : ∀ join ∈ select.joins, join.Named
  condition : select.condition = none
  groupBy : ∀ ref ∈ select.groupBy, ref.Named

def Select.words (select : Select) : List String :=
  "select" :: select.items.flatMap Item.words ++
    "from" :: (select.source.words ++ select.joins.flatMap Join.words ++
      if select.groupBy = [] then []
      else "group" :: "by" :: select.groupBy.flatMap ColumnRef.words)

/-! ### The scan of the text -/

/-- The lower-case words of a text are those of a list. -/
def Reads (text : String) (names : List String) : Prop :=
  Text.words (lower text) = names.map lower

instance (text : String) (names : List String) : Decidable (Reads text names) :=
  inferInstanceAs (Decidable (_ = _))

theorem Reads.identifier {name : String} (h : isIdentifier name = true) : Reads name [name] :=
  words_lower_identifier h

theorem Reads.between {first second : String} {names names' : List String} (literal : String)
    (between : List String) (hfirst : Reads first names) (hsecond : Reads second names')
    (hliteral : startsGap (lower literal) = true ∧ endsGap (lower literal) = true ∧
      Text.words (lower literal) = between.map lower) :
    Reads (first ++ (literal ++ second)) (names ++ (between ++ names')) := by
  unfold Reads at hfirst hsecond ⊢
  rw [words_append_literal hliteral.1 hliteral.2.1, hfirst, hsecond, hliteral.2.2, List.map_append,
    List.map_append]

/-- A text followed by one that is empty or begins outside every word. -/
theorem Reads.append {first second : String} {names names' : List String}
    (hfirst : Reads first names) (hsecond : Reads second names')
    (hgap : second = "" ∨ startsGap (lower second) = true) :
    Reads (first ++ second) (names ++ names') := by
  unfold Reads at hfirst hsecond ⊢
  rcases hgap with rfl | hgap
  · have hempty : Text.words (lower "") = [] := by decide
    rw [hempty] at hsecond
    rw [String.append_empty, hfirst, List.map_append, ← hsecond, List.append_nil]
  · rw [lower_append, words_append_of_startsGap hgap, hfirst, hsecond, List.map_append]

theorem ColumnRef.reads_render {ref : ColumnRef} (h : ref.Named) : Reads ref.render ref.words := by
  obtain ⟨_ | table, column⟩ := ref
  · exact Reads.identifier h.2
  · have hwords := Reads.between "." [] (Reads.identifier (h.1 table rfl))
      (Reads.identifier h.2) (by decide)
    show Reads (table ++ "." ++ column) [table, column]
    rw [String.append_assoc]
    exact hwords

theorem Reads.call {function argument : String} {names : List String}
    (hfunction : isIdentifier function = true) (hargument : Reads argument names) :
    Reads (function ++ "(" ++ argument ++ ")") (function :: names) := by
  have hclosed : Reads (argument ++ ")") (names ++ []) :=
    hargument.append (by decide) (Or.inr (by decide))
  rw [List.append_nil] at hclosed
  rw [String.append_assoc, String.append_assoc]
  exact Reads.between "(" [] (Reads.identifier hfunction) hclosed (by decide)

theorem Scalar.reads_render : ∀ {expression : Scalar}, expression.Named →
    Reads expression.render expression.words
  | column _, h => ColumnRef.reads_render h
  | call _ _, h => Reads.call h.1 (Scalar.reads_render h.2)

theorem ItemExpr.reads_render {expression : ItemExpr} (h : expression.Named) :
    Reads expression.render expression.words := by
  cases expression with
  | scalar expression => exact Scalar.reads_render h
  | countStar => exact (by decide : Reads "count(*)" ["count"])
  | aggregate function argument => exact Reads.call h.1 (Scalar.reads_render h.2)

theorem Reads.aliased {text : String} {names : List String} (htext : Reads text names)
    {label : Option String} (hlabel : ∀ name ∈ label, isIdentifier name = true) :
    Reads (text ++ renderAlias label) (names ++ aliasWords label) := by
  cases label with
  | none =>
    show Reads (text ++ "") (names ++ [])
    rw [String.append_empty, List.append_nil]
    exact htext
  | some name =>
    have hname := Reads.identifier (hlabel name rfl)
    show Reads (text ++ (" as " ++ name)) (names ++ (["as"] ++ [name]))
    exact Reads.between " as " ["as"] htext hname (by decide)

theorem Item.reads_render {item : Item} (h : item.Named) : Reads item.render item.words :=
  (ItemExpr.reads_render h.1).aliased h.2

theorem TableRef.reads_render {ref : TableRef} (h : ref.Named) : Reads ref.render ref.words := by
  have hname : Reads (ref.schema ++ "." ++ ref.table) [ref.schema, ref.table] := by
    rw [String.append_assoc]
    exact Reads.between "." [] (Reads.identifier h.1) (Reads.identifier h.2.1) (by decide)
  exact hname.aliased h.2.2

theorem Join.reads_render {join : Join} (h : join.Named) : Reads join.render join.words := by
  have hkind : Reads join.kind.words join.kind.wordList := by
    cases join.kind <;> decide
  have hcolumns := Reads.between " = " [] (ColumnRef.reads_render h.2.1)
    (ColumnRef.reads_render h.2.2) (by decide)
  have htable := Reads.between " on " ["on"] (TableRef.reads_render h.1) hcolumns (by decide)
  have hwords := Reads.between " " [] hkind htable (by decide)
  unfold Join.render Join.words
  simpa [String.append_assoc] using hwords

theorem Reads.flatMap {α : Type} {values : List α} {render : α → String} {names : α → List String}
    (h : ∀ value ∈ values, Reads (render value) (names value)) :
    (values.map render).flatMap (fun text ↦ Text.words (lower text)) =
      (values.flatMap names).map lower := by
  induction values with
  | nil => rfl
  | cons value rest ih =>
    obtain ⟨hvalue, hrest⟩ := List.forall_mem_cons.mp h
    have hwords : Text.words (lower (render value)) = (names value).map lower := hvalue
    simp [hwords, ih hrest]

/-- Texts with commas between them. -/
theorem Reads.commas {α : Type} {values : List α} {render : α → String} {names : α → List String}
    (h : ∀ value ∈ values, Reads (render value) (names value)) :
    Reads (String.intercalate ", " (values.map render)) (values.flatMap names) := by
  unfold Reads
  rw [words_intercalate (by decide) (by decide) (by decide)]
  exact Reads.flatMap h

/-- The parts of a block without a condition, put together. -/
theorem Reads.block {items source joins groups : String}
    {itemNames sourceNames joinNames groupNames : List String} (hitems : Reads items itemNames)
    (hsource : Reads source sourceNames) (hjoins : Reads joins joinNames)
    (hgroups : Reads groups groupNames) (hjoinsGap : joins = "" ∨ startsGap (lower joins) = true)
    (hgroupsGap : groups = "" ∨ startsGap (lower groups) = true) :
    Reads ("select " ++ items ++ " from " ++ source ++ joins ++ "" ++ groups)
      ("select" :: itemNames ++ "from" :: (sourceNames ++ joinNames ++ groupNames)) := by
  have htables := (hsource.append hjoins hjoinsGap).append hgroups hgroupsGap
  have hfrom := Reads.between " from " ["from"] hitems htables (by decide)
  have hlead : Text.words (lower "select ") = [lower "select"] := by decide
  have hselect : Reads ("select " ++ (items ++ (" from " ++ (source ++ joins ++ groups))))
      ("select" :: (itemNames ++ (["from"] ++ (sourceNames ++ joinNames ++ groupNames)))) := by
    unfold Reads at hfrom ⊢
    rw [lower_append, words_append_of_endsGap (by decide), hfrom, hlead]
    rfl
  simpa [String.append_assoc] using hselect

/-- The lower-case words of the text of a block are its words in lower case. -/
theorem Select.words_render {select : Select} (h : select.Named) :
    Text.words (lower select.render) = select.words.map lower := by
  have hitems := Reads.commas fun item hitem ↦ Item.reads_render (h.items item hitem)
  have hjoins : Reads (String.join (select.joins.map fun join ↦ " " ++ join.render))
      (select.joins.flatMap Join.words) ∧
      (select.joins.map Join.render ≠ [] →
        startsGap (lower (String.join (select.joins.map fun join ↦ " " ++ join.render))) = true) := by
    have hread := words_join " " (by decide) (by decide) (by decide)
      (select.joins.map Join.render)
    rw [List.map_map] at hread
    exact ⟨hread.1.trans (Reads.flatMap fun join hjoin ↦ Join.reads_render (h.joins join hjoin)),
      hread.2⟩
  have hgroups : Reads (if select.groupBy = [] then ""
        else " group by " ++ String.intercalate ", " (select.groupBy.map ColumnRef.render))
      (if select.groupBy = [] then []
        else "group" :: "by" :: select.groupBy.flatMap ColumnRef.words) := by
    by_cases hnone : select.groupBy = []
    · rw [if_pos hnone, if_pos hnone]
      decide
    · rw [if_neg hnone, if_neg hnone]
      have hrefs := Reads.commas fun ref href ↦ ColumnRef.reads_render (h.groupBy ref href)
      have hlead : Reads " group by " ["group", "by"] := by decide
      unfold Reads at hlead hrefs ⊢
      rw [lower_append, words_append_of_endsGap (by decide), hlead, hrefs, ← List.map_append]
      rfl
  have hempty : select.joins.map Join.render = [] →
      String.join (select.joins.map fun join ↦ " " ++ join.render) = "" := by
    intro hnil
    rw [List.map_eq_nil_iff.mp hnil]
    rfl
  have hjoinsGap := (em (select.joins.map Join.render = [])).imp hempty hjoins.2
  have hgroupsGap : (if select.groupBy = [] then ""
        else " group by " ++ String.intercalate ", " (select.groupBy.map ColumnRef.render)) = "" ∨
      startsGap (lower (if select.groupBy = [] then ""
        else " group by " ++ String.intercalate ", " (select.groupBy.map ColumnRef.render))) =
          true := by
    by_cases hnone : select.groupBy = []
    · exact Or.inl (if_pos hnone)
    · rw [if_neg hnone, lower_append]
      exact Or.inr (startsGap_append (by decide) _)
  unfold Select.render Select.words
  rw [h.condition]
  exact Reads.block hitems (TableRef.reads_render h.source) hjoins.1 hgroups hjoinsGap hgroupsGap

/-! ### The characters of the text -/

/-- A word character, a blank or punctuation of the blocks. -/
def isSqlChar (c : Char) : Bool := isWordPart c || " .,()=*".toList.contains c

def Clean (text : String) : Prop := text.toList.all isSqlChar = true

/-- The text is made of such characters, and does not end with a blank. -/
def Tight (text : String) : Prop := Clean text ∧ ∃ c ∈ text.toList.getLast?, c ≠ ' '

instance (text : String) : Decidable (Clean text) := inferInstanceAs (Decidable (_ = _))

theorem Clean.append {first second : String} (hfirst : Clean first) (hsecond : Clean second) :
    Clean (first ++ second) := by
  unfold Clean at hfirst hsecond ⊢
  rw [String.toList_append, List.all_append, hfirst, hsecond]
  rfl

theorem Tight.prepend {first second : String} (hsecond : Tight second) (hfirst : Clean first) :
    Tight (first ++ second) := by
  refine ⟨hfirst.append hsecond.1, ?_⟩
  obtain ⟨c, hc, hblank⟩ := hsecond.2
  refine ⟨c, ?_, hblank⟩
  rw [Option.mem_def] at hc ⊢
  rw [String.toList_append, List.getLast?_append, hc]
  rfl

theorem Tight.identifier {name : String} (h : isIdentifier name = true) : Tight name := by
  have hword : ∀ c ∈ name.toList, isWordPart c = true := fun _ hc ↦ isWordPart_of_mem h hc
  refine ⟨List.all_eq_true.mpr fun c hc ↦ by simp [isSqlChar, hword c hc], ?_⟩
  have hne : name.toList ≠ [] := isIdentifierChars_ne_nil h
  refine ⟨name.toList.getLast hne, List.getLast?_eq_some_getLast hne, fun hblank ↦ ?_⟩
  have hlast := hword _ (List.getLast_mem hne)
  rw [hblank] at hlast
  exact absurd hlast (by decide)

theorem Tight.call {function argument : String} (hfunction : isIdentifier function = true)
    (hargument : Clean argument) : Tight (function ++ "(" ++ argument ++ ")") := by
  have hclose : Tight ")" := ⟨by decide, ')', rfl, by decide⟩
  exact hclose.prepend
    (((Tight.identifier hfunction).1.append (by decide)).append hargument)

theorem Tight.aliased {text : String} (htext : Tight text) {label : Option String}
    (hlabel : ∀ name ∈ label, isIdentifier name = true) : Tight (text ++ renderAlias label) := by
  cases label with
  | none =>
    show Tight (text ++ "")
    rw [String.append_empty]
    exact htext
  | some name =>
    have hname : Tight (" as " ++ name) := (Tight.identifier (hlabel name rfl)).prepend (by decide)
    exact hname.prepend htext.1

theorem ColumnRef.tight_render {ref : ColumnRef} (h : ref.Named) : Tight ref.render := by
  obtain ⟨_ | table, column⟩ := ref
  · exact Tight.identifier h.2
  · exact (Tight.identifier h.2).prepend
      ((Tight.identifier (h.1 table rfl)).1.append (by decide))

theorem Scalar.tight_render : ∀ {expression : Scalar}, expression.Named → Tight expression.render
  | column _, h => ColumnRef.tight_render h
  | call _ _, h => Tight.call h.1 (Scalar.tight_render h.2).1

theorem ItemExpr.tight_render {expression : ItemExpr} (h : expression.Named) :
    Tight expression.render := by
  cases expression with
  | scalar expression => exact Scalar.tight_render h
  | countStar => exact ⟨by decide, ')', rfl, by decide⟩
  | aggregate function argument => exact Tight.call h.1 (Scalar.tight_render h.2).1

theorem TableRef.tight_render {ref : TableRef} (h : ref.Named) : Tight ref.render := by
  have hname : Tight (ref.schema ++ "." ++ ref.table) :=
    (Tight.identifier h.2.1).prepend ((Tight.identifier h.1).1.append (by decide))
  exact hname.aliased h.2.2

theorem Join.tight_render {join : Join} (h : join.Named) : Tight join.render := by
  have hkind : Clean join.kind.words := by
    cases join.kind <;> decide
  have htable := (hkind.append (by decide : Clean " ")).append (TableRef.tight_render h.1).1
  exact (ColumnRef.tight_render h.2.2).prepend
    (((htable.append (by decide)).append (ColumnRef.tight_render h.2.1).1).append (by decide))

theorem Tight.commas {texts : List String} (h : ∀ text ∈ texts, Tight text) (hne : texts ≠ []) :
    Tight (String.intercalate ", " texts) := by
  induction texts with
  | nil => exact absurd rfl hne
  | cons text rest ih =>
    obtain ⟨htext, hrest⟩ := List.forall_mem_cons.mp h
    by_cases hnil : rest = []
    · rw [hnil, String.intercalate_singleton]
      exact htext
    · rw [String.intercalate_cons_of_ne_nil hnil]
      exact (ih hrest hnil).prepend (htext.1.append (by decide))

/-- Texts led by a blank each, after another text. -/
theorem Tight.blanks {first : String} (hfirst : Tight first) (texts : List String)
    (h : ∀ text ∈ texts, Tight text) :
    Tight (first ++ String.join (texts.map (" " ++ ·))) := by
  induction texts generalizing first with
  | nil =>
    show Tight (first ++ "")
    rw [String.append_empty]
    exact hfirst
  | cons text rest ih =>
    obtain ⟨htext, hrest⟩ := List.forall_mem_cons.mp h
    rw [List.map_cons, String.join_cons, ← String.append_assoc]
    have hlead : Tight (" " ++ text) := htext.prepend (by decide)
    exact ih (hlead.prepend hfirst.1) hrest

theorem Select.tight_render {select : Select} (h : select.Named) (hitems : select.items ≠ []) :
    Tight select.render := by
  have hlist : Tight (String.intercalate ", " (select.items.map Item.render)) := by
    refine Tight.commas ?_ (by simpa using hitems)
    intro text htext
    obtain ⟨item, hitem, rfl⟩ := List.mem_map.mp htext
    exact (ItemExpr.tight_render (h.items item hitem).1).aliased (h.items item hitem).2
  have hlead : Clean ("select " ++ String.intercalate ", " (select.items.map Item.render) ++
      " from ") := ((by decide : Clean "select ").append hlist.1).append (by decide)
  have htables := ((TableRef.tight_render h.source).prepend hlead).blanks
    (select.joins.map Join.render) (by
      intro text htext
      obtain ⟨join, hjoin, rfl⟩ := List.mem_map.mp htext
      exact Join.tight_render (h.joins join hjoin))
  rw [List.map_map] at htables
  unfold Select.render
  rw [h.condition]
  show Tight (_ ++ "" ++ _)
  rw [String.append_empty]
  by_cases hnone : select.groupBy = []
  · rw [if_pos hnone, String.append_empty]
    exact htables
  · rw [if_neg hnone]
    have hrefs : Tight (String.intercalate ", " (select.groupBy.map ColumnRef.render)) := by
      refine Tight.commas ?_ (by simpa using hnone)
      intro text htext
      obtain ⟨ref, href, rfl⟩ := List.mem_map.mp htext
      exact ColumnRef.tight_render (h.groupBy ref href)
    exact (hrefs.prepend (by decide : Clean " group by ")).prepend htables.1

/-- The text of a block begins with its keyword. -/
theorem Select.prefix_render (select : Select) :
    "select ".toList <+: select.render.toList := by
  unfold Select.render
  simp only [String.toList_append, List.append_assoc]
  exact List.prefix_append _ _

/-- The text of a block has no blank to strip. -/
theorem Select.strip_render {select : Select} (h : select.Named) (hitems : select.items ≠ []) :
    strip select.render = select.render := by
  obtain ⟨hclean, c, hc, hblank⟩ := Select.tight_render h hitems
  have hspace : ∀ d ∈ select.render.toList, isSpace d = true → d = ' ' := by
    intro d hd hspace
    have hd' := List.all_eq_true.mp hclean d hd
    by_cases hword : isWordPart d = true
    · rw [isSpace_eq_false_of_isWordPart hword] at hspace
      exact absurd hspace Bool.false_ne_true
    · have hpunctuation : d ∈ " .,()=*".toList := by simpa [isSqlChar, hword] using hd'
      have hall : " .,()=*".toList.all (fun d ↦ !isSpace d || d == ' ') = true := by decide
      simpa [hspace] using List.all_eq_true.mp hall d hpunctuation
  rw [strip, stripChars_eq_self, String.ofList_toList]
  · obtain ⟨rest, hrest⟩ := Select.prefix_render select
    rw [← hrest]
    intro d hd
    have hfirst : d = 's' := by simpa using hd.symm
    rw [hfirst]
    decide
  · intro d hd
    rw [Option.mem_def] at hc hd
    rw [hc] at hd
    cases hd
    by_contra hfalse
    exact hblank (hspace c (List.mem_of_getLast? hc) (by simpa using hfalse))

end SchemaPilot.Library.Sql
