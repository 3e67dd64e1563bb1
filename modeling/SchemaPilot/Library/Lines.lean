import SchemaPilot.Library.Text

/-!
# Lines of a text

`str.splitlines` takes a text apart at its line breaks, of which it knows more than the ends of lines of a
file: those are read as one character by `open` in text mode (`universalNewlines`).
-/

namespace SchemaPilot.Library.Text

/-- The characters at which `str.splitlines` ends a line. -/
def isLineBreak (c : Char) : Bool :=
  (10 ≤ c.toNat && c.toNat ≤ 13) || (28 ≤ c.toNat && c.toNat ≤ 30) || c.toNat == 0x85 ||
    c.toNat == 0x2028 || c.toNat == 0x2029

/-- The characters of a text read with the ends of its lines translated. -/
def universalNewlines : List Char → List Char
  | [] => []
  | '\r' :: '\n' :: text => '\n' :: universalNewlines text
  | c :: text => (if c = '\r' then '\n' else c) :: universalNewlines text

/-- `str.splitlines`. -/
def splitlines : List Char → List (List Char)
  | [] => []
  | '\r' :: '\n' :: text => [] :: splitlines text
  | c :: text =>
    if isLineBreak c then [] :: splitlines text
    else
      match splitlines text with
      | [] => [[c]]
      | line :: lines => (c :: line) :: lines

theorem universalNewlines_eq_self {text : List Char} (h : '\r' ∉ text) :
    universalNewlines text = text := by
  induction text with
  | nil => rfl
  | cons c rest ih =>
    rw [List.mem_cons, not_or] at h
    have hc : c ≠ '\r' := Ne.symm h.1
    rw [universalNewlines.eq_3 _ _ fun _ hreturn ↦ absurd hreturn hc, if_neg hc, ih h.2]

theorem ne_return_of_not_isLineBreak {c : Char} (h : isLineBreak c = false) : c ≠ '\r' := by
  rintro rfl
  cases h

/-- A line is read up to the break behind it. -/
theorem splitlines_append {line : List Char} (hline : ∀ c ∈ line, isLineBreak c = false)
    (text : List Char) : splitlines (line ++ '\n' :: text) = line :: splitlines text := by
  induction line with
  | nil =>
    rw [List.nil_append, splitlines.eq_3 _ _ fun _ h ↦ absurd h (by decide)]
    rfl
  | cons c rest ih =>
    rw [List.forall_mem_cons] at hline
    rw [List.cons_append, splitlines.eq_3 _ _ fun _ h ↦ absurd h (ne_return_of_not_isLineBreak hline.1),
      if_neg (by rw [hline.1]; decide), ih hline.2]

/-- The last line needs no break. -/
theorem splitlines_line {line : List Char} (hline : ∀ c ∈ line, isLineBreak c = false)
    (hne : line ≠ []) : splitlines line = [line] := by
  induction line with
  | nil => exact absurd rfl hne
  | cons c rest ih =>
    rw [List.forall_mem_cons] at hline
    rw [splitlines.eq_3 _ _ fun _ h ↦ absurd h (ne_return_of_not_isLineBreak hline.1),
      if_neg (by rw [hline.1]; decide)]
    cases rest with
    | nil => rfl
    | cons d tail => rw [ih hline.2 (List.cons_ne_nil d tail)]

theorem isLineBreak_of_mem_splitlines (text : List Char) : ∀ line ∈ splitlines text,
    ∀ c ∈ line, isLineBreak c = false := by
  fun_induction splitlines text with
  | case1 => exact fun _ hline ↦ absurd hline List.not_mem_nil
  | case2 text ih =>
    exact List.forall_mem_cons.mpr ⟨fun _ hc ↦ absurd hc List.not_mem_nil, ih⟩
  | case3 c text hreturn hbreak ih =>
    exact List.forall_mem_cons.mpr ⟨fun _ hc ↦ absurd hc List.not_mem_nil, ih⟩
  | case4 c text hreturn hbreak hlines ih =>
    exact List.forall_mem_singleton.mpr (List.forall_mem_singleton.mpr (by simpa using hbreak))
  | case5 c text hreturn hbreak line lines hlines ih =>
    rw [hlines, List.forall_mem_cons] at ih
    exact List.forall_mem_cons.mpr
      ⟨List.forall_mem_cons.mpr ⟨by simpa using hbreak, ih.1⟩, ih.2⟩

end SchemaPilot.Library.Text
