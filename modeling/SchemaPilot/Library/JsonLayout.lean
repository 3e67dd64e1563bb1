import SchemaPilot.Library.JsonParse

/-!
# Layouts of JSON texts

`json.dumps` puts blanks after commas and colons and at the brackets, as `separators` and `indent` say.
The text without blanks is the one `print` writes (`render_compact`).
-/

namespace SchemaPilot.Library.Json

/-- Characters that JSON passes over. -/
abbrev Blanks := {chars : List Char // ∀ c ∈ chars, isBlank c = true}

def noBlanks : Blanks := ⟨[], by simp⟩

def oneSpace : Blanks := ⟨[' '], by simp [isBlank]⟩

def newLine (spaces : ℕ) : Blanks := ⟨'\n' :: List.replicate spaces ' ', by
  intro c hc
  rcases List.mem_cons.mp hc with rfl | hc
  · rfl
  · rw [List.eq_of_mem_replicate hc]
    rfl⟩

/-- Where `json.dumps` puts blanks, by the level of nesting. -/
structure Layout where
  /-- After the comma before an item or a field. -/
  gap : ℕ → Blanks
  /-- After an opening bracket, and before the closing one. -/
  edge : ℕ → Blanks
  /-- After a colon. -/
  colon : Blanks

/-- `separators=(",", ":")`. -/
def compact : Layout := ⟨fun _ ↦ noBlanks, fun _ ↦ noBlanks, noBlanks⟩

/-- The layout of `json.dumps` without any. -/
def spaced : Layout := ⟨fun _ ↦ oneSpace, fun _ ↦ noBlanks, oneSpace⟩

/-- `indent=2`. -/
def indented : Layout := ⟨fun level ↦ newLine (2 * level), fun level ↦ newLine (2 * level), oneSpace⟩

mutual

/-- The text of a value at a level, fields in the order they come. -/
def render (layout : Layout) (level : ℕ) : Json → List Char
  | str value => '"' :: printChars value.toList
  | arr [] => ['[', ']']
  | arr (item :: rest) =>
    '[' :: ((layout.edge (level + 1)).1 ++
      (render layout (level + 1) item ++ renderItems layout level rest))
  | obj [] => ['{', '}']
  | obj ((key, value) :: rest) =>
    '{' :: ((layout.edge (level + 1)).1 ++ '"' :: (printChars key.toList ++ ':' ::
      (layout.colon.1 ++ (render layout (level + 1) value ++ renderFields layout level rest))))
  | value => atomText value

def renderItems (layout : Layout) (level : ℕ) : List Json → List Char
  | [] => (layout.edge level).1 ++ [']']
  | item :: rest =>
    ',' :: ((layout.gap (level + 1)).1 ++
      (render layout (level + 1) item ++ renderItems layout level rest))

def renderFields (layout : Layout) (level : ℕ) : List (String × Json) → List Char
  | [] => (layout.edge level).1 ++ ['}']
  | (key, value) :: rest =>
    ',' :: ((layout.gap (level + 1)).1 ++ '"' :: (printChars key.toList ++ ':' ::
      (layout.colon.1 ++ (render layout (level + 1) value ++ renderFields layout level rest))))

end

/-- `json.dumps(value, sort_keys=True)` with a layout. -/
def dumpsIn (layout : Layout) (value : Json) : String := String.ofList (render layout 0 (canon value))

mutual

theorem render_compact (v : Json) : ∀ level, render compact level v = print v := by
  intro level
  match v with
  | .arr [] => rfl
  | .arr (item :: rest) =>
    rw [render, print, render_compact item, renderItems_compact rest]
    rfl
  | .obj [] => rfl
  | .obj ((key, value) :: rest) =>
    rw [render, print, render_compact value, renderFields_compact rest]
    rfl
  | .str _ => rfl
  | .null => rfl
  | .bool _ => rfl
  | .int _ => rfl
  | .float _ => rfl
  | .special _ => rfl

theorem renderItems_compact (items : List Json) :
    ∀ level, renderItems compact level items = printItems items := by
  intro level
  match items with
  | [] => rfl
  | item :: rest =>
    rw [renderItems, printItems, render_compact item, renderItems_compact rest]
    rfl

theorem renderFields_compact (fields : List (String × Json)) :
    ∀ level, renderFields compact level fields = printFields fields := by
  intro level
  match fields with
  | [] => rfl
  | (key, value) :: rest =>
    rw [renderFields, printFields, render_compact value, renderFields_compact rest]
    rfl

end

theorem dumpsIn_compact (value : Json) : dumpsIn compact value = dumps value := by
  rw [dumpsIn, render_compact, dumps]

theorem isBlank_of_isAtomChar {c : Char} (h : isAtomChar c = true) : isBlank c = false := by
  by_contra hblank
  rw [Bool.not_eq_false, isBlank, Bool.or_eq_true, Bool.or_eq_true, Bool.or_eq_true] at hblank
  rcases hblank with ((hblank | hblank) | hblank) | hblank
  all_goals
    rw [beq_iff_eq.mp hblank] at h
    exact absurd h (by decide)

theorem render_of_isAtom {v : Json} (h : isAtom v = true) (layout : Layout) (level : ℕ) :
    render layout level v = atomText v := by
  cases v with
  | str value => simp [isAtom] at h
  | arr items => simp [isAtom] at h
  | obj fields => simp [isAtom] at h
  | _ => rfl

/-- Where a value begins, no blank is passed over. -/
theorem render_head (layout : Layout) (level : ℕ) (v : Json) (rest : List Char) :
    ∃ c tail, render layout level v ++ rest = c :: tail ∧ isBlank c = false ∧ c ≠ ']' ∧ c ≠ '}' := by
  cases hv : isAtom v with
  | true =>
    obtain ⟨c, tail, htail⟩ := List.exists_cons_of_ne_nil (atomText_ne_nil hv)
    have hchar := isAtomChar_atomText v (c := c) (by rw [htail]; exact List.mem_cons_self)
    refine ⟨c, tail ++ rest, by rw [render_of_isAtom hv, htail, List.cons_append],
      isBlank_of_isAtomChar hchar, ?_, ?_⟩
    · rintro rfl
      exact absurd hchar (by decide)
    · rintro rfl
      exact absurd hchar (by decide)
  | false =>
    cases v with
    | str value => exact ⟨'"', _, rfl, by decide, by decide, by decide⟩
    | arr items => cases items <;> exact ⟨'[', _, rfl, by decide, by decide, by decide⟩
    | obj fields => cases fields <;> exact ⟨'{', _, rfl, by decide, by decide, by decide⟩
    | _ => simp [isAtom] at hv

theorem length_render_pos (layout : Layout) (level : ℕ) (v : Json) :
    0 < (render layout level v).length := by
  obtain ⟨c, tail, htail, -⟩ := render_head layout level v []
  rw [List.append_nil] at htail
  rw [htail]
  exact Nat.succ_pos _

/-- Blanks and a character that is none of an atom end an atom. -/
theorem delimited_blanks (blanks : Blanks) {c : Char} (hc : isAtomChar c = false)
    (rest : List Char) : Delimited (blanks.1 ++ c :: rest) := by
  obtain ⟨chars, hchars⟩ := blanks
  cases chars with
  | nil => exact delimited_cons hc rest
  | cons d chars =>
    refine delimited_cons ?_ _
    by_contra hatom
    rw [Bool.not_eq_false] at hatom
    exact absurd (hchars d List.mem_cons_self) (by rw [isBlank_of_isAtomChar hatom]; decide)

theorem delimited_renderItems (layout : Layout) (level : ℕ) (items : List Json) (rest : List Char) :
    Delimited (renderItems layout level items ++ rest) := by
  cases items with
  | nil =>
    rw [renderItems, List.append_assoc]
    exact delimited_blanks _ (by decide) rest
  | cons item items => exact delimited_cons (by decide) _

theorem delimited_renderFields (layout : Layout) (level : ℕ) (fields : Fields) (rest : List Char) :
    Delimited (renderFields layout level fields ++ rest) := by
  cases fields with
  | nil =>
    rw [renderFields, List.append_assoc]
    exact delimited_blanks _ (by decide) rest
  | cons field fields => exact delimited_cons (by decide) _

variable (reader : FloatReader)

theorem skipBlanks_blanks (blanks : Blanks) (chars : List Char) :
    skipBlanks (blanks.1 ++ chars) = skipBlanks chars :=
  List.dropWhile_append_of_pos blanks.2

theorem expect_blanks (c : Char) (blanks : Blanks) (chars : List Char) :
    expect c (blanks.1 ++ chars) = expect c chars := by
  rw [expect, skipBlanks_blanks, expect]

theorem parseValue_blanks (fuel : ℕ) (blanks : Blanks) (chars : List Char) :
    parseValue reader fuel (blanks.1 ++ chars) = parseValue reader fuel chars := by
  cases fuel with
  | zero => rfl
  | succ fuel => rw [parseValue, skipBlanks_blanks, parseValue]

theorem parseItems_blanks (fuel : ℕ) (blanks : Blanks) (chars : List Char) :
    parseItems reader fuel (blanks.1 ++ chars) = parseItems reader fuel chars := by
  cases fuel with
  | zero => rfl
  | succ fuel => rw [parseItems, parseValue_blanks, parseItems]

theorem parseFields_blanks (fuel : ℕ) (blanks : Blanks) (chars : List Char) :
    parseFields reader fuel (blanks.1 ++ chars) = parseFields reader fuel chars := by
  cases fuel with
  | zero => rfl
  | succ fuel => rw [parseFields, expect_blanks, parseFields]

end SchemaPilot.Library.Json
