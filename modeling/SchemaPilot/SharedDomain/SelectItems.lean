import SchemaPilot.SharedDomain.LineageSql

/-!
# Select items

The statements column lineage is about: items built of columns, numbers, calls, casts and arithmetic, nested at any
depth and laid out with any blanks, each with an alias or none. The texts of expressions are put together of parts
that do not prolong each other's words (`Apart`), so what holds of the words of the parts holds of the whole.
-/

namespace SchemaPilot.SharedDomain

open Library Library.Text

/-! ### Syntax -/

structure Blanks where
  chars : List Char
  blank : ∀ c ∈ chars, isSpace c = true

structure Gap extends Blanks where
  starts : startsBlank chars = true

structure Keyword (keyword : List Char) where
  chars : List Char
  spelled : chars.map lowerAscii = keyword

/-- The name of a column, a function, a type or an alias: no reserved word. -/
structure Name where
  chars : List Char
  valid : isIdentifierChars chars = true
  unreserved : ∀ keyword ∈ [selectKeyword, fromKeyword, asKeyword], matchesKeyword keyword chars = false

structure Digits where
  chars : List Char
  nonempty : chars ≠ []
  digit : ∀ c ∈ chars, c.isDigit = true

inductive Operator where
  | add | subtract | multiply | divide | modulo
deriving DecidableEq

def Operator.symbol : Operator → Char
  | .add => '+'
  | .subtract => '-'
  | .multiply => '*'
  | .divide => '/'
  | .modulo => '%'

def castKeyword : List Char := "cast".toList

inductive Parameters where
  | last (before : Blanks) (digits : Digits) (after : Blanks)
  | more (before : Blanks) (digits : Digits) (after : Blanks) (rest : Parameters)

/-- A type, with its numbers in parentheses or without: `decimal(10, 2)`. -/
inductive TypeName where
  | plain (name : Name)
  | sized (name : Name) (gap : Blanks) (parameters : Parameters)

mutual

inductive Expr where
  | column (name : Name)
  | number (whole : Digits) (fraction : Option Digits)
  | nullary (function : Name) (gap inside : Blanks)
  | call (function : Name) (gap : Blanks) (arguments : Arguments)
  | cast (keyword : Keyword castKeyword) (gap before : Blanks) (inner : Expr) (asBefore : Gap)
      (asWord : Keyword asKeyword) (asAfter : Gap) (type : TypeName) (after : Blanks)
  | group (before : Blanks) (inner : Expr) (after : Blanks)
  | negate (gap : Blanks) (inner : Expr)
  | binary (left : Expr) (before : Blanks) (operator : Operator) (after : Blanks) (right : Expr)

inductive Arguments where
  | last (before : Blanks) (argument : Expr) (after : Blanks)
  | more (before : Blanks) (argument : Expr) (after : Blanks) (rest : Arguments)

end

def enclosed (inner : List Char) : List Char := '(' :: (inner ++ [')'])

def Parameters.text : Parameters → List Char
  | .last before digits after => before.chars ++ (digits.chars ++ after.chars)
  | .more before digits after rest => before.chars ++ (digits.chars ++ (after.chars ++ ',' :: rest.text))

def TypeName.text : TypeName → List Char
  | .plain name => name.chars
  | .sized name gap parameters => name.chars ++ (gap.chars ++ enclosed parameters.text)

mutual

def Expr.text : Expr → List Char
  | .column name => name.chars
  | .number whole none => whole.chars
  | .number whole (some fraction) => whole.chars ++ '.' :: fraction.chars
  | .nullary function gap inside => function.chars ++ (gap.chars ++ enclosed inside.chars)
  | .call function gap arguments => function.chars ++ (gap.chars ++ enclosed arguments.text)
  | .cast keyword gap before inner asBefore asWord asAfter type after =>
    keyword.chars ++ (gap.chars ++ enclosed (before.chars ++ (inner.text ++ (asBefore.chars ++ (asWord.chars ++
      (asAfter.chars ++ (type.text ++ after.chars)))))))
  | .group before inner after => enclosed (before.chars ++ (inner.text ++ after.chars))
  | .negate gap inner => '-' :: (gap.chars ++ inner.text)
  | .binary left before operator after right =>
    left.text ++ (before.chars ++ operator.symbol :: (after.chars ++ right.text))

def Arguments.text : Arguments → List Char
  | .last before argument after => before.chars ++ (argument.text ++ after.chars)
  | .more before argument after rest => before.chars ++ (argument.text ++ (after.chars ++ ',' :: rest.text))

end

mutual

def Expr.columns : Expr → List Name
  | .column name => [name]
  | .number _ _ => []
  | .nullary _ _ _ => []
  | .call _ _ arguments => arguments.columns
  | .cast _ _ _ inner _ _ _ _ _ => inner.columns
  | .group _ inner _ => inner.columns
  | .negate _ inner => inner.columns
  | .binary left _ _ _ right => left.columns ++ right.columns

def Arguments.columns : Arguments → List Name
  | .last _ argument _ => argument.columns
  | .more _ argument _ rest => argument.columns ++ rest.columns

end

/-! ### Texts put together -/

section Texts

variable {first second chars : List Char} {c : Char}

def StartsApart (chars : List Char) : Prop := ∀ c ∈ chars.head?, isWordPart c = false

def EndsApart (chars : List Char) : Prop := ∀ c ∈ chars.getLast?, isWordPart c = false

/-- Two texts do not prolong each other's words. -/
def Apart (first second : List Char) : Prop := EndsApart first ∨ StartsApart second

theorem isWordPart_eq_false_of_isSpace (h : isSpace c = true) : isWordPart c = false := by
  by_contra hword
  rw [isSpace_eq_false_of_isWordPart (by simpa using hword)] at h
  cases h

theorem scan_cons_of_not_word (hc : isWordPart c = false) (chars : List Char) :
    scan [] (c :: chars) = scan [] chars :=
  scan_append_cons [] chars hc []

theorem scan_append (h : Apart first second) : scan [] (first ++ second) = scan [] first ++ scan [] second := by
  rcases h with hends | hstarts
  · rcases List.eq_nil_or_concat first with rfl | ⟨init, c, rfl⟩
    · rfl
    · rw [List.concat_eq_append] at hends ⊢
      have hc : isWordPart c = false := hends c (by simp)
      rw [List.append_assoc, List.singleton_append, scan_append_cons _ _ hc, scan_append_cons _ _ hc]
      simp [scan]
  · cases second with
    | nil => simp [scan]
    | cons c rest =>
      have hc : isWordPart c = false := hstarts c rfl
      rw [scan_append_cons _ _ hc, scan_cons_of_not_word hc]

theorem scan_blanks (h : ∀ c ∈ chars, isSpace c = true) : scan [] chars = [] := by
  induction chars with
  | nil => rfl
  | cons c rest ih =>
    rw [List.forall_mem_cons] at h
    rw [scan_cons_of_not_word (isWordPart_eq_false_of_isSpace h.1), ih h.2]

theorem startsApart_mark (hc : isWordPart c = false) (chars : List Char) : StartsApart (c :: chars) := by
  intro d hd
  cases hd
  exact hc

theorem startsApart_blanks (h : ∀ c ∈ first, isSpace c = true) (hsecond : StartsApart second) :
    StartsApart (first ++ second) := by
  cases first with
  | nil => exact hsecond
  | cons c rest => exact startsApart_mark (isWordPart_eq_false_of_isSpace (h c List.mem_cons_self)) _

theorem Blanks.apart (blanks : Blanks) (second : List Char) : Apart blanks.chars second :=
  Or.inl fun _ hc ↦ isWordPart_eq_false_of_isSpace (blanks.blank _ (List.mem_of_getLast? hc))

theorem Blanks.startsApart (blanks : Blanks) : StartsApart blanks.chars := by
  intro c hc
  exact isWordPart_eq_false_of_isSpace (blanks.blank c (List.mem_of_mem_head? hc))

theorem apart_mark (hc : isWordPart c = false) (second : List Char) : Apart [c] second := by
  refine Or.inl fun d hd ↦ ?_
  cases hd
  exact hc

theorem Gap.startsApart (gap : Gap) (second : List Char) : StartsApart (gap.chars ++ second) := by
  obtain ⟨⟨chars, hblank⟩, hstarts⟩ := gap
  cases chars with
  | nil => cases hstarts
  | cons c rest => exact startsApart_mark (isWordPart_eq_false_of_isSpace (hblank c List.mem_cons_self)) _

end Texts

/-! ### What holds of the parts -/

/-- The characters expressions have beside names, digits and blanks. -/
def marks : List Char := ['(', ')', ',', '.', '+', '-', '*', '/', '%']

theorem isWordPart_of_mem_marks : ∀ c ∈ marks, isWordPart c = false := by decide

theorem Operator.symbol_mem (operator : Operator) : operator.symbol ∈ marks := by
  cases operator <;> decide

/-- What holds of the parts of texts and of texts set beside each other. -/
structure OfParts (P : List Char → Prop) : Prop where
  append : ∀ first second, Apart first second → P first → P second → P (first ++ second)
  blanks : ∀ blanks : Blanks, P blanks.chars
  mark : ∀ c ∈ marks, P [c]
  name : ∀ name : Name, P name.chars
  digits : ∀ digits : Digits, P digits.chars
  castWord : ∀ keyword : Keyword castKeyword, P keyword.chars
  asWord : ∀ keyword : Keyword asKeyword, P keyword.chars

namespace OfParts

variable {P : List Char → Prop} (h : OfParts P)
include h

theorem nil : P [] := h.blanks ⟨[], fun _ hc ↦ absurd hc List.not_mem_nil⟩

theorem after_blanks (blanks : Blanks) {chars : List Char} (hchars : P chars) : P (blanks.chars ++ chars) :=
  h.append _ _ (blanks.apart _) (h.blanks blanks) hchars

theorem after_mark {c : Char} (hc : c ∈ marks) {chars : List Char} (hchars : P chars) : P (c :: chars) :=
  h.append [c] chars (apart_mark (isWordPart_of_mem_marks c hc) _) (h.mark c hc) hchars

theorem parameters : ∀ parameters : Parameters, P parameters.text
  | .last before digits after =>
    h.after_blanks before (h.append _ _ (Or.inr after.startsApart) (h.digits digits) (h.blanks after))
  | .more before digits after rest =>
    h.after_blanks before (h.append _ _ (Or.inr (startsApart_blanks after.blank (startsApart_mark (by decide) _)))
      (h.digits digits) (h.after_blanks after (h.after_mark (by decide) (parameters rest))))

theorem enclosed {inner : List Char} (hinner : P inner) : P (enclosed inner) :=
  h.after_mark (by decide) (h.append _ _ (Or.inr (startsApart_mark (by decide) _)) hinner (h.mark ')' (by decide)))

/-- Text in parentheses after a name and blanks. -/
theorem parenthesized {name inner : List Char} (hname : P name) (gap : Blanks) (hinner : P inner) :
    P (name ++ (gap.chars ++ SharedDomain.enclosed inner)) :=
  h.append _ _ (Or.inr (startsApart_blanks gap.blank (startsApart_mark (by decide) _))) hname
    (h.after_blanks gap (h.enclosed hinner))

theorem type : ∀ type : TypeName, P type.text
  | .plain name => h.name name
  | .sized name gap parameters => h.parenthesized (h.name name) gap (h.parameters parameters)

mutual

/-- What holds of the parts holds of the text of an expression. -/
theorem expr : ∀ expr : Expr, P expr.text
  | .column name => h.name name
  | .number whole none => h.digits whole
  | .number whole (some fraction) =>
    h.append _ _ (Or.inr (startsApart_mark (by decide) _)) (h.digits whole)
      (h.after_mark (by decide) (h.digits fraction))
  | .nullary function gap inside => h.parenthesized (h.name function) gap (h.blanks inside)
  | .call function gap args => h.parenthesized (h.name function) gap (arguments args)
  | .cast keyword gap before inner asBefore asWord asAfter type after => by
    refine h.parenthesized (h.castWord keyword) gap (h.after_blanks before ?_)
    refine h.append _ _ (Or.inr (asBefore.startsApart _)) (expr inner) (h.after_blanks asBefore.toBlanks ?_)
    refine h.append _ _ (Or.inr (asAfter.startsApart _)) (h.asWord asWord) (h.after_blanks asAfter.toBlanks ?_)
    exact h.append _ _ (Or.inr after.startsApart) (h.type type) (h.blanks after)
  | .group before inner after =>
    h.enclosed (h.after_blanks before (h.append _ _ (Or.inr after.startsApart) (expr inner) (h.blanks after)))
  | .negate gap inner => h.after_mark (by decide) (h.after_blanks gap (expr inner))
  | .binary left before operator after right => by
    refine h.append _ _ (Or.inr (startsApart_blanks before.blank
      (startsApart_mark (isWordPart_of_mem_marks _ operator.symbol_mem) _))) (expr left) ?_
    exact h.after_blanks before (h.after_mark operator.symbol_mem (h.after_blanks after (expr right)))

theorem arguments : ∀ arguments : Arguments, P arguments.text
  | .last before argument after =>
    h.after_blanks before (h.append _ _ (Or.inr after.startsApart) (expr argument) (h.blanks after))
  | .more before argument after rest =>
    h.after_blanks before (h.append _ _ (Or.inr (startsApart_blanks after.blank (startsApart_mark (by decide) _)))
      (expr argument) (h.after_blanks after (h.after_mark (by decide) (arguments rest))))

end

end OfParts

end SchemaPilot.SharedDomain
