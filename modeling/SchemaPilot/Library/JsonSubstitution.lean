import SchemaPilot.Library.JsonLexing
import SchemaPilot.Library.JsonPieces

/-!
# Substitution in JSON texts

A substitution in the text of a value that replaces no escape in part and begins no match in a gap changes the
literals one by one as long as no match runs over a closing quote (`sub_piecesText`). Where a match does,
the text after it stands on the other side of its quotes, up to the end, and the mark of a later replacement
stands outside of them: such a text cannot be read (`fits_of_run_sub`).
-/

namespace SchemaPilot.Library.Json

def IsGap (chars : List Char) : Prop :=
  (∀ c ∈ chars, isBlank c = true ∨ c ∈ "[]{},:".toList) ∨ ∃ v, isAtom v = true ∧ chars = atomText v

/-- Some text of the pieces comes to a character outside of a class before the next quote, or ends. -/
def Breaks (inRun : Char → Bool) : List Piece → Prop
  | [] => True
  | .quoted _ :: _ => False
  | .gap chars :: rest => (∃ c ∈ chars, inRun c = false) ∨ Breaks inRun rest

/-- Gaps are gaps, and a run of a class that begins in a gap after a literal ends in one. -/
def Separated (inRun : Char → Bool) : List Piece → Prop
  | [] => True
  | .quoted _ :: rest => Breaks inRun rest ∧ Separated inRun rest
  | .gap chars :: rest => IsGap chars ∧ Separated inRun rest

theorem isGap_blanks (before : List Char) (blanks : Blanks) (after : List Char)
    (hbefore : ∀ c ∈ before, c ∈ "[]{},:".toList) (hafter : ∀ c ∈ after, c ∈ "[]{},:".toList) :
    IsGap (before ++ (blanks.1 ++ after)) :=
  Or.inl (List.forall_mem_append.mpr ⟨fun c hc ↦ Or.inr (hbefore c hc),
    List.forall_mem_append.mpr ⟨fun c hc ↦ Or.inl (blanks.2 c hc), fun c hc ↦ Or.inr (hafter c hc)⟩⟩)

/-- Punctuation and the blanks behind it. -/
theorem isGap_cons {c : Char} (hc : c ∈ "[]{},:".toList) (blanks : Blanks) :
    IsGap (c :: blanks.1) := by
  have hgap := isGap_blanks [c] blanks [] (by simpa using hc) (by simp)
  rwa [List.append_nil] at hgap

/-- Blanks and the punctuation behind them. -/
theorem isGap_concat {c : Char} (hc : c ∈ "[]{},:".toList) (blanks : Blanks) :
    IsGap (blanks.1 ++ [c]) :=
  isGap_blanks [] blanks [c] (by simp) (by simpa using hc)

variable {inRun : Char → Bool}

section Pieces

variable {layout : Layout}

mutual

/-- The pieces of a value are separated where those that follow are and begin with a break. -/
theorem separated_pieces (hcomma : inRun ',' = false)
    (hcolon : ∃ c ∈ layout.colon.1, inRun c = false) (level : ℕ) (v : Json) {rest : List Piece}
    (hbreaks : Breaks inRun rest) (hrest : Separated inRun rest) :
    Separated inRun (pieces layout level v ++ rest) := by
  match v with
  | .str _ => exact ⟨hbreaks, hrest⟩
  | .arr [] => exact ⟨Or.inl (by decide), hrest⟩
  | .arr (item :: items) =>
    obtain ⟨hitems, hitemsBreak⟩ := separated_piecesItems hcomma hcolon level items hbreaks hrest
    have hitem := separated_pieces hcomma hcolon (level + 1) item hitemsBreak hitems
    rw [← List.append_assoc] at hitem
    exact ⟨isGap_cons (by decide) _, hitem⟩
  | .obj [] => exact ⟨Or.inl (by decide), hrest⟩
  | .obj ((key, value) :: fields) =>
    obtain ⟨hfields, hfieldsBreak⟩ := separated_piecesFields hcomma hcolon level fields hbreaks hrest
    have hvalue := separated_pieces hcomma hcolon (level + 1) value hfieldsBreak hfields
    rw [← List.append_assoc] at hvalue
    obtain ⟨c, hc, hstop⟩ := hcolon
    exact ⟨isGap_cons (by decide) _, Or.inl ⟨c, List.mem_cons_of_mem _ hc, hstop⟩,
      isGap_cons (by decide) _, hvalue⟩
  | .null => exact ⟨Or.inr ⟨_, rfl, rfl⟩, hrest⟩
  | .bool _ => exact ⟨Or.inr ⟨_, rfl, rfl⟩, hrest⟩
  | .int _ => exact ⟨Or.inr ⟨_, rfl, rfl⟩, hrest⟩
  | .float _ => exact ⟨Or.inr ⟨_, rfl, rfl⟩, hrest⟩
  | .special _ => exact ⟨Or.inr ⟨_, rfl, rfl⟩, hrest⟩

theorem separated_piecesItems (hcomma : inRun ',' = false)
    (hcolon : ∃ c ∈ layout.colon.1, inRun c = false) (level : ℕ) (items : List Json)
    {rest : List Piece} (hbreaks : Breaks inRun rest) (hrest : Separated inRun rest) :
    Separated inRun (piecesItems layout level items ++ rest) ∧
      Breaks inRun (piecesItems layout level items ++ rest) := by
  match items with
  | [] => exact ⟨⟨isGap_concat (by decide) _, hrest⟩, Or.inr hbreaks⟩
  | item :: items =>
    obtain ⟨hitems, hitemsBreak⟩ := separated_piecesItems hcomma hcolon level items hbreaks hrest
    have hitem := separated_pieces hcomma hcolon (level + 1) item hitemsBreak hitems
    rw [← List.append_assoc] at hitem
    exact ⟨⟨isGap_cons (by decide) _, hitem⟩, Or.inl ⟨',', List.mem_cons_self, hcomma⟩⟩

theorem separated_piecesFields (hcomma : inRun ',' = false)
    (hcolon : ∃ c ∈ layout.colon.1, inRun c = false) (level : ℕ) (fields : List (String × Json))
    {rest : List Piece} (hbreaks : Breaks inRun rest) (hrest : Separated inRun rest) :
    Separated inRun (piecesFields layout level fields ++ rest) ∧
      Breaks inRun (piecesFields layout level fields ++ rest) := by
  match fields with
  | [] => exact ⟨⟨isGap_concat (by decide) _, hrest⟩, Or.inr hbreaks⟩
  | (key, value) :: fields =>
    obtain ⟨hfields, hfieldsBreak⟩ := separated_piecesFields hcomma hcolon level fields hbreaks hrest
    have hvalue := separated_pieces hcomma hcolon (level + 1) value hfieldsBreak hfields
    rw [← List.append_assoc] at hvalue
    obtain ⟨c, hc, hstop⟩ := hcolon
    exact ⟨⟨isGap_cons (by decide) _, Or.inl ⟨c, List.mem_cons_of_mem _ hc, hstop⟩,
      isGap_cons (by decide) _, hvalue⟩, Or.inl ⟨',', List.mem_cons_self, hcomma⟩⟩

end

theorem separated_pieces_self (hcomma : inRun ',' = false)
    (hcolon : ∃ c ∈ layout.colon.1, inRun c = false) (level : ℕ) (v : Json) :
    Separated inRun (pieces layout level v) := by
  have hnil : Breaks inRun [] ∧ Separated inRun [] := ⟨trivial, trivial⟩
  have h := separated_pieces hcomma hcolon level v hnil.1 hnil.2
  rwa [List.append_nil] at h

end Pieces

abbrev escapedChars (chars : List Char) : List Char := chars.flatMap escapeChar

theorem escapeChar_ne_nil (c : Char) : escapeChar c ≠ [] := by
  obtain ⟨d, tail, hcons, -⟩ := head_escapeChar c []
  rw [List.append_nil] at hcons
  rw [hcons]
  exact List.cons_ne_nil d tail

theorem mem_hexDigits {width : ℕ} : ∀ {n : ℕ} {d : Char}, d ∈ hexDigits n width →
    d ∈ "0123456789abcdef".toList := by
  have hdigit : ∀ n < 16, hexDigit n ∈ "0123456789abcdef".toList := by decide
  induction width with
  | zero => exact fun h ↦ absurd h List.not_mem_nil
  | succ width ih =>
    intro n d h
    rw [hexDigits, List.mem_append, List.mem_singleton] at h
    rcases h with h | rfl
    · exact ih h
    · exact hdigit _ (Nat.mod_lt n (by decide))

/-- A character stands for itself, or an escape stands for it. -/
theorem escapeChar_shape (c : Char) : (escapeChar c = [c] ∧ c ≠ '"' ∧ c ≠ '\\') ∨
    ∃ more, escapeChar c = '\\' :: more ∧ ∀ d ∈ more, d ∈ "\"\\nrtfbu0123456789abcdef".toList := by
  have hhex : ∀ d ∈ "0123456789abcdef".toList, d ∈ "\"\\nrtfbu0123456789abcdef".toList := by decide
  have hshort : ∀ first ∈ shortEscapes, first.2 ∈ "\"\\nrtfbu0123456789abcdef".toList := by decide
  have hmarks : 'u' ∈ "\"\\nrtfbu0123456789abcdef".toList ∧
      '\\' ∈ "\"\\nrtfbu0123456789abcdef".toList := by decide
  rcases escapeChar_cases c with ⟨hc, hquote, hslash, -⟩ | ⟨letter, hletter, hc⟩ | ⟨-, hc⟩ | ⟨-, hc⟩
  · exact Or.inl ⟨hc, hquote, hslash⟩
  · exact Or.inr ⟨[letter], hc, List.forall_mem_singleton.mpr (hshort _ hletter)⟩
  · exact Or.inr ⟨_, hc, List.forall_mem_cons.mpr ⟨hmarks.1, fun d hd ↦ hhex d (mem_hexDigits hd)⟩⟩
  · exact Or.inr ⟨_, hc, List.forall_mem_cons.mpr ⟨hmarks.1, List.forall_mem_append.mpr
      ⟨fun d hd ↦ hhex d (mem_hexDigits hd), List.forall_mem_cons.mpr ⟨hmarks.2,
        List.forall_mem_cons.mpr ⟨hmarks.1, fun d hd ↦ hhex d (mem_hexDigits hd)⟩⟩⟩⟩⟩

/-- What follows the first character of an escape. -/
theorem mem_inner_of_escapeChar {c d : Char} {more : List Char} (h : escapeChar c = d :: more) :
    ∀ x ∈ more, x ∈ "\"\\nrtfbu0123456789abcdef".toList := by
  rcases escapeChar_shape c with ⟨hc, -⟩ | ⟨tail, hc, htail⟩
  · rw [hc, List.cons.injEq] at h
    rw [← h.2]
    exact fun _ hx ↦ absurd hx List.not_mem_nil
  · rw [hc, List.cons.injEq] at h
    rw [← h.2]
    exact htail

/-- What is left of a literal after a part without backslashes is one. -/
theorem drop_escapedChars_of_plain {chars : List Char} {n : ℕ}
    (hle : n ≤ (escapedChars chars).length) (hplain : '\\' ∉ (escapedChars chars).take n) :
    (escapedChars chars).drop n = escapedChars (chars.drop n) := by
  induction chars generalizing n with
  | nil =>
    rw [List.drop_nil]
    exact List.drop_nil
  | cons c rest ih =>
    cases n with
    | zero => rfl
    | succ n =>
      rcases escapeChar_shape c with ⟨hc, -⟩ | ⟨more, hc, -⟩
      · rw [escapedChars, List.flatMap_cons, hc, List.singleton_append] at hle hplain ⊢
        rw [List.take_succ_cons, List.mem_cons, not_or] at hplain
        rw [List.drop_succ_cons, List.drop_succ_cons]
        exact ih (Nat.le_of_succ_le_succ hle) hplain.2
      · rw [escapedChars, List.flatMap_cons, hc, List.cons_append, List.take_succ_cons] at hplain
        exact absurd List.mem_cons_self hplain

/-- What is left of a literal is one where it does not begin within an escape. -/
theorem exists_drop_escapedChars {chars : List Char} {n : ℕ} (hle : n ≤ (escapedChars chars).length)
    (hhead : ∀ d ∈ ((escapedChars chars).drop n).head?, d ∉ "\"\\nrtfbu0123456789abcdef".toList) :
    ∃ k, (escapedChars chars).drop n = escapedChars (chars.drop k) := by
  induction chars generalizing n with
  | nil => exact ⟨0, by rw [Nat.le_zero.mp hle]; rfl⟩
  | cons c rest ih =>
    have htext : escapedChars (c :: rest) = escapeChar c ++ escapedChars rest := List.flatMap_cons
    rw [htext] at hle hhead ⊢
    by_cases hlong : (escapeChar c).length ≤ n
    · obtain ⟨m, rfl⟩ := Nat.exists_eq_add_of_le hlong
      rw [List.length_append, Nat.add_le_add_iff_left] at hle
      rw [List.drop_length_add_append] at hhead ⊢
      obtain ⟨k, hk⟩ := ih hle hhead
      exact ⟨k + 1, by rw [hk, List.drop_succ_cons]⟩
    · cases n with
      | zero => exact ⟨0, htext.symm⟩
      | succ n =>
        rcases escapeChar_shape c with ⟨hc, -⟩ | ⟨more, hc, hmore⟩
        · rw [hc, List.length_singleton] at hlong
          omega
        · rw [hc, List.length_cons] at hlong
          have hlt : n < more.length := by omega
          rw [hc, List.cons_append, List.drop_succ_cons, List.drop_append_of_le_length hlt.le,
            List.drop_eq_getElem_cons hlt] at hhead
          exact absurd (hmore _ (List.getElem_mem hlt)) (hhead _ rfl)

/-- A pattern begins no match in a gap or within an escape, ends none within an escape, and a match that
reaches a closing quote goes on over a run of a class. -/
structure RespectsLiterals (p : Pattern Char) (inRun : Char → Bool) : Prop where
  runsOver : p.RunsOver '"' inRun
  gap : ∀ chars, IsGap chars → p.Inert chars
  inner : ∀ c d more, escapeChar c = d :: more → p.Inert more
  boundary : ∀ chars after, p.extent (escapedChars chars ++ after) ≤ (escapedChars chars).length →
    ∃ k, (escapedChars chars).drop (p.extent (escapedChars chars ++ after)) =
      escapedChars (chars.drop k)

section Substituted

variable {p : Pattern Char} {marks : List Char}

/-- The literal of a text whose matches are replaced is that of a text, up to a match that runs over the
closing quote. -/
theorem sub_literal (h : RespectsLiterals p inRun) (marks chars : List Char) :
    (p.Fits '"' (escapedChars chars) ∧
      ∃ more, p.sub (escapedChars marks) (escapedChars chars) = escapedChars more) ∨
    (¬p.Fits '"' (escapedChars chars) ∧ ∃ more, ∀ after,
      p.sub (escapedChars marks) (escapedChars chars ++ '"' :: after) =
        escapedChars more ++
          (escapedChars marks ++ p.sub (escapedChars marks) (after.dropWhile inRun))) := by
  induction hlength : chars.length using Nat.strong_induction_on generalizing chars with
  | _ n ih =>
    cases chars with
    | nil => exact Or.inl ⟨Pattern.fits_nil, [], rfl⟩
    | cons c rest =>
      rw [List.length_cons] at hlength
      by_cases hover : (escapedChars (c :: rest)).length <
          p.extent (escapedChars (c :: rest) ++ ['"'])
      · refine Or.inr ⟨fun hfits ↦ ?_, [], fun after ↦ ?_⟩
        · have hextent := h.runsOver.extent_eq_of_fits hfits []
          exact absurd (p.extent_le (escapedChars (c :: rest))) (by omega)
        · rw [Pattern.sub_append_cons_of_over h.runsOver hover]
          rfl
      obtain ⟨d, tail, hescape⟩ := List.exists_cons_of_ne_nil (escapeChar_ne_nil c)
      have hcons : ∀ more, escapedChars (c :: more) = d :: (tail ++ escapedChars more) := by
        intro more
        rw [escapedChars, List.flatMap_cons, hescape, List.cons_append]
      have htext := hcons rest
      have hle := Nat.le_of_not_lt hover
      have halone := (h.runsOver.kept _ [] hle).2
      have hafter := fun after ↦ (h.runsOver.kept _ after hle).1
      obtain ⟨k, hk⟩ := h.boundary _ _ hle
      by_cases hextent : p.extent (escapedChars (c :: rest) ++ ['"']) = 0
      · -- no match begins at the character
        rw [hextent] at halone hafter
        have hinert := h.inner c d tail hescape
        have hfits : p.Fits '"' (escapedChars (c :: rest)) ↔ p.Fits '"' (escapedChars rest) := by
          rw [htext] at hextent ⊢
          rw [Pattern.fits_cons hextent, Pattern.fits_append_of_inert hinert]
        rcases ih rest.length (by omega) rest rfl with ⟨hrest, more, hmore⟩ | ⟨hrest, more, hmore⟩
        · refine Or.inl ⟨hfits.mpr hrest, c :: more, ?_⟩
          rw [htext] at halone ⊢
          rw [Pattern.sub_cons halone, Pattern.sub_append_of_inert hinert, hmore, ← hcons]
        · refine Or.inr ⟨fun hall ↦ hrest (hfits.mp hall), c :: more, fun after ↦ ?_⟩
          have hnone := hafter after
          rw [htext, List.cons_append, List.append_assoc] at hnone ⊢
          rw [Pattern.sub_cons hnone, Pattern.sub_append_of_inert hinert, hmore, hcons,
            List.cons_append, List.append_assoc]
      · -- a match that ends before the quote is replaced
        have hmatch := Nat.pos_of_ne_zero hextent
        have hpositive : 0 < k := by
          rw [Nat.pos_iff_ne_zero]
          rintro rfl
          have hsame := congrArg List.length hk
          rw [List.drop_zero, List.length_drop] at hsame
          omega
        have hne : escapedChars (c :: rest) ≠ [] := by
          rw [htext]
          exact List.cons_ne_nil _ _
        have hfits := Pattern.fits_of_match hne hmatch
        rw [hk] at hfits
        have hshorter : ((c :: rest).drop k).length < n := by
          rw [List.length_drop, List.length_cons]
          omega
        have hcons : ∀ more, escapedChars marks ++ escapedChars more = escapedChars (marks ++ more) :=
          fun more ↦ List.flatMap_append.symm
        rcases ih _ hshorter _ rfl with ⟨hrest, more, hmore⟩ | ⟨hrest, more, hmore⟩
        · refine Or.inl ⟨hfits.mpr ⟨hle, hrest⟩, marks ++ more, ?_⟩
          rw [Pattern.sub_of_match (by rwa [halone]), halone, hk, hmore, hcons]
        · refine Or.inr ⟨fun hall ↦ hrest (hfits.mp hall).2, marks ++ more, fun after ↦ ?_⟩
          rw [Pattern.sub_of_match (by rwa [hafter]), hafter, List.drop_append_of_le_length hle, hk,
            hmore, ← hcons, List.append_assoc]

/-- Where no match runs over a closing quote, the literals are changed one by one. -/
theorem sub_piecesText (h : RespectsLiterals p inRun) {replacement : List Char}
    {body : String → List Char} {ps : List Piece} (hseparated : Separated inRun ps)
    (hfits : ∀ text ∈ literals ps, p.Fits '"' (body text)) :
    p.sub replacement (piecesText body ps) =
      piecesText (fun text ↦ p.sub replacement (body text)) ps := by
  induction ps with
  | nil => rfl
  | cons piece rest ih =>
    cases piece with
    | gap chars =>
      rw [piecesText_gap, piecesText_gap, Pattern.sub_append_of_inert (h.gap chars hseparated.1),
        ih hseparated.2 hfits]
    | quoted text =>
      have hrest := ih hseparated.2 fun other hother ↦ hfits other (List.mem_cons_of_mem _ hother)
      have hquote : ∀ after, p.extent ('"' :: after) = 0 :=
        fun after ↦ (h.runsOver.extent_eq_of_fits Pattern.fits_nil after).trans Pattern.extent_nil
      rw [piecesText_quoted, piecesText_quoted, Pattern.sub_cons (hquote _),
        Pattern.sub_append_cons_of_fits h.runsOver (hfits text List.mem_cons_self), hrest]

theorem run_inside_escapedChars (chars : List Char) :
    Lexing.inside.run (escapedChars chars) = some .inside := by
  induction chars with
  | nil => rfl
  | cons c rest ih =>
    obtain ⟨read, htext, hread⟩ := passes_readChar (readChar_escapeChar c [])
    rw [List.append_nil, List.append_nil] at htext
    rw [if_neg (by simp)] at hread
    rw [escapedChars, List.flatMap_cons, Lexing.run_append, htext, hread, Option.bind_some]
    exact ih

/-- Read between literals, what stands in one does not open a literal. -/
theorem run_outside_escapedChars (chars : List Char) {state : Lexing}
    (h : Lexing.outside.run (escapedChars chars) = some state) : state = .outside := by
  induction chars with
  | nil => exact (Option.some.inj h).symm
  | cons c rest ih =>
    rw [escapedChars, List.flatMap_cons, Lexing.run_append] at h
    obtain ⟨next, hnext, h⟩ := Option.bind_eq_some_iff.mp h
    rcases escapeChar_shape c with ⟨hc, hquote, -⟩ | ⟨more, hc, -⟩
    · rw [hc, Lexing.run_cons, Lexing.step, if_neg hquote] at hnext
      obtain ⟨last, hlast, hnext⟩ := Option.bind_eq_some_iff.mp hnext
      split_ifs at hlast
      cases hlast
      cases hnext
      exact ih h
    · rw [hc, Lexing.run_cons, Lexing.step, if_neg (by decide), if_neg (by decide)] at hnext
      cases hnext

theorem ne_quote_of_isGap {chars : List Char} (h : IsGap chars) :
    ∀ c ∈ chars, c ≠ '"' ∧ c ≠ '\\' := by
  have hatom : isAtomChar '"' = false ∧ isAtomChar '\\' = false := by decide
  have hblank : isBlank '"' = false ∧ isBlank '\\' = false := by decide
  have hpunctuation : '"' ∉ "[]{},:".toList ∧ '\\' ∉ "[]{},:".toList := by decide
  rcases h with hplain | ⟨v, -, rfl⟩
  · refine fun c hc ↦ ⟨?_, ?_⟩
    · rintro rfl
      rcases hplain _ hc with h | h
      · rw [hblank.1] at h
        cases h
      · exact hpunctuation.1 h
    · rintro rfl
      rcases hplain _ hc with h | h
      · rw [hblank.2] at h
        cases h
      · exact hpunctuation.2 h
  · refine fun c hc ↦ ⟨?_, ?_⟩
    · rintro rfl
      exact absurd (isAtomChar_atomText v hc) (by rw [hatom.1]; decide)
    · rintro rfl
      exact absurd (isAtomChar_atomText v hc) (by rw [hatom.2]; decide)

/-- Once a match has run over a closing quote, the text never comes to be between literals at its end. -/
theorem run_inside_sub_ne (h : RespectsLiterals p inRun)
    (hmarks : Lexing.outside.run (escapedChars marks) = none) {body : String → List Char}
    (hbody : ∀ text, ∃ chars, body text = escapedChars chars) {ps : List Piece}
    (hseparated : Separated inRun ps) :
    Lexing.inside.run (p.sub (escapedChars marks) (piecesText body ps)) ≠ some .outside := by
  induction ps with
  | nil => simp
  | cons piece rest ih =>
    cases piece with
    | gap chars =>
      rw [piecesText_gap, Pattern.sub_append_of_inert (h.gap chars hseparated.1), Lexing.run_append,
        Lexing.run_inside (ne_quote_of_isGap hseparated.1), Option.bind_some]
      exact ih hseparated.2
    | quoted text =>
      have hquote : ∀ after, p.extent ('"' :: after) = 0 :=
        fun after ↦ (h.runsOver.extent_eq_of_fits Pattern.fits_nil after).trans Pattern.extent_nil
      obtain ⟨chars, hchars⟩ := hbody text
      rw [piecesText_quoted, Pattern.sub_cons (hquote _), Lexing.run_cons, Lexing.step, if_pos rfl,
        Option.bind_some, hchars]
      intro hrun
      rcases sub_literal h marks chars with ⟨hfits, more, hmore⟩ | ⟨-, more, hmore⟩
      · rw [Pattern.sub_append_cons_of_fits h.runsOver hfits, hmore, Lexing.run_append] at hrun
        obtain ⟨state, hstate, hrun⟩ := Option.bind_eq_some_iff.mp hrun
        rw [run_outside_escapedChars more hstate, Lexing.run_cons, Lexing.step, if_pos rfl,
          Option.bind_some] at hrun
        exact ih hseparated.2 hrun
      · rw [hmore, Lexing.run_append] at hrun
        obtain ⟨state, hstate, hrun⟩ := Option.bind_eq_some_iff.mp hrun
        rw [run_outside_escapedChars more hstate, Lexing.run_append, hmarks] at hrun
        cases hrun

/-- After the run behind a literal the text goes on with a piece, or a part of a gap. -/
theorem exists_dropWhile_piecesText (hatom : ∀ c, isAtomChar c = true → inRun c = true)
    (body : String → List Char) {ps : List Piece} (hbreaks : Breaks inRun ps)
    (hseparated : Separated inRun ps) :
    ∃ others, (piecesText body ps).dropWhile inRun = piecesText body others ∧
      Separated inRun others := by
  induction ps with
  | nil => exact ⟨[], rfl, trivial⟩
  | cons piece rest ih =>
    cases piece with
    | quoted text => exact hbreaks.elim
    | gap chars =>
      by_cases hall : ∀ c ∈ chars, inRun c = true
      · rcases hbreaks with ⟨c, hc, hstop⟩ | hbreaks
        · rw [hall c hc] at hstop
          cases hstop
        · obtain ⟨others, hothers, hrest⟩ := ih hbreaks hseparated.2
          refine ⟨others, ?_, hrest⟩
          rw [piecesText_gap, List.dropWhile_append_of_pos hall, hothers]
      · obtain ⟨run, more, rfl, hrun, hmore⟩ := exists_run inRun chars
        have hne : more ≠ [] := by
          rintro rfl
          rw [List.append_nil] at hall
          exact hall hrun
        obtain ⟨c, tail, rfl⟩ := List.exists_cons_of_ne_nil hne
        refine ⟨.gap (c :: tail) :: rest, ?_, ?_, hseparated.2⟩
        · rw [piecesText_gap, piecesText_gap, List.append_assoc, dropWhile_append_stop hrun]
          exact hmore
        · rcases hseparated.1 with hplain | ⟨v, -, hv⟩
          · exact Or.inl fun d hd ↦ hplain d (List.mem_append_right run hd)
          · have hc := isAtomChar_atomText v (hv ▸ List.mem_append_right run List.mem_cons_self)
            have hstop := hmore c rfl
            rw [hatom c hc] at hstop
            cases hstop

/-- A text that ends between literals after a substitution had no match run over a closing quote. -/
theorem fits_of_run_sub (h : RespectsLiterals p inRun)
    (hatom : ∀ c, isAtomChar c = true → inRun c = true)
    (hmarks : Lexing.outside.run (escapedChars marks) = none) {body : String → List Char}
    (hbody : ∀ text, ∃ chars, body text = escapedChars chars) {ps : List Piece}
    (hseparated : Separated inRun ps)
    (hrun : Lexing.outside.run (p.sub (escapedChars marks) (piecesText body ps)) = some .outside) :
    ∀ text ∈ literals ps, p.Fits '"' (body text) := by
  induction ps with
  | nil => exact fun _ htext ↦ absurd htext List.not_mem_nil
  | cons piece rest ih =>
    cases piece with
    | gap chars =>
      rw [piecesText_gap, Pattern.sub_append_of_inert (h.gap chars hseparated.1),
        Lexing.run_append] at hrun
      obtain ⟨state, hstate, hrun⟩ := Option.bind_eq_some_iff.mp hrun
      have hquote : ∀ c ∈ chars, c ≠ '"' := fun c hc ↦ (ne_quote_of_isGap hseparated.1 c hc).1
      rw [Lexing.eq_outside_of_run hquote hstate] at hrun
      exact ih hseparated.2 hrun
    | quoted text =>
      have hquote : ∀ after, p.extent ('"' :: after) = 0 :=
        fun after ↦ (h.runsOver.extent_eq_of_fits Pattern.fits_nil after).trans Pattern.extent_nil
      obtain ⟨chars, hchars⟩ := hbody text
      rw [piecesText_quoted, Pattern.sub_cons (hquote _), Lexing.run_cons, Lexing.step, if_pos rfl,
        Option.bind_some, hchars] at hrun
      rcases sub_literal h marks chars with ⟨hfits, more, hmore⟩ | ⟨-, more, hmore⟩
      · rw [Pattern.sub_append_cons_of_fits h.runsOver hfits, hmore, Lexing.run_append,
          run_inside_escapedChars, Option.bind_some, Lexing.run_cons, Lexing.step, if_pos rfl,
          Option.bind_some] at hrun
        exact List.forall_mem_cons.mpr ⟨hchars ▸ hfits, ih hseparated.2 hrun⟩
      · obtain ⟨others, hothers, hrest⟩ :=
          exists_dropWhile_piecesText hatom body hseparated.1 hseparated.2
        rw [hmore, Lexing.run_append, run_inside_escapedChars, Option.bind_some, Lexing.run_append,
          run_inside_escapedChars, Option.bind_some, hothers] at hrun
        exact absurd hrun (run_inside_sub_ne h hmarks hbody hrest)

end Substituted

end SchemaPilot.Library.Json
