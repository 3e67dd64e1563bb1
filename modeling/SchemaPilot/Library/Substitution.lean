import Mathlib.Data.List.Infix
import Mathlib.Data.List.TakeWhile
import Mathlib.Tactic.SplitIfs

/-!
# Patterns and their substitution

A pattern is given by how many symbols its match takes at the beginning of a text, and `Pattern.sub` is
`re.sub` with it: the matches are replaced from left to right, each search going on after the match before
it.

The seams of a substitution are where a replacement meets the text around it. A text in which every match
of a pattern is replaced holds no match of the pattern afterwards when the replacement begins with a symbol
that only ends a match, and then only where the replaced text would have ended one too
(`Pattern.not_occurs_sub`).
-/

namespace SchemaPilot.Library

section Runs

variable {α : Type} {p : α → Bool} {run rest : List α}

theorem takeWhile_append_stop (hrun : ∀ c ∈ run, p c = true) (hrest : ∀ c ∈ rest.head?, p c = false) :
    (run ++ rest).takeWhile p = run := by
  rw [List.takeWhile_append_of_pos hrun]
  cases rest with
  | nil => exact List.append_nil run
  | cons c rest => rw [List.takeWhile_cons_of_neg (by rw [hrest c rfl]; decide), List.append_nil]

theorem dropWhile_append_stop (hrun : ∀ c ∈ run, p c = true) (hrest : ∀ c ∈ rest.head?, p c = false) :
    (run ++ rest).dropWhile p = rest := by
  rw [List.dropWhile_append_of_pos hrun]
  cases rest with
  | nil => rfl
  | cons c rest => rw [List.dropWhile_cons_of_neg (by rw [hrest c rfl]; decide)]

/-- A text is a run of a class and what follows it. -/
theorem exists_run (p : α → Bool) (text : List α) : ∃ run rest, text = run ++ rest ∧
    (∀ c ∈ run, p c = true) ∧ ∀ c ∈ rest.head?, p c = false := by
  refine ⟨text.takeWhile p, text.dropWhile p, List.takeWhile_append_dropWhile.symm,
    fun c hc ↦ List.mem_takeWhile_imp hc, fun c hc ↦ ?_⟩
  have hhead := List.head?_dropWhile_not p text
  rw [hc] at hhead
  exact hhead

end Runs

/-- A pattern that takes at least one symbol wherever it matches. -/
structure Pattern (α : Type) where
  /-- The length of the match at the beginning of a text, zero where there is none. -/
  extent : List α → ℕ
  extent_le : ∀ text, extent text ≤ text.length

namespace Pattern

variable {α : Type} (p q : Pattern α)

/-- `pattern.search(text)` finds something. -/
def Occurs (text : List α) : Prop := ∃ rest ∈ text.tails, 0 < p.extent rest

instance (text : List α) : Decidable (p.Occurs text) :=
  inferInstanceAs (Decidable (∃ rest ∈ text.tails, 0 < p.extent rest))

variable {p q}

theorem not_occurs_iff {text : List α} :
    ¬p.Occurs text ↔ ∀ rest, rest <:+ text → p.extent rest = 0 := by
  simp only [Occurs, not_exists, not_and, List.mem_tails, Nat.pos_iff_ne_zero, not_not]

theorem not_occurs_of_suffix {text rest : List α} (h : ¬p.Occurs text) (hrest : rest <:+ text) :
    ¬p.Occurs rest :=
  not_occurs_iff.mpr fun _ hsuffix ↦ not_occurs_iff.mp h _ (hsuffix.trans hrest)

@[simp] theorem extent_nil : p.extent [] = 0 := Nat.le_zero.mp (p.extent_le [])

variable (p) in
/-- `re.sub` on a text whose first symbols were taken by the match before. -/
def subAfter (replacement : List α) : ℕ → List α → List α
  | _, [] => []
  | taken + 1, _ :: rest => subAfter replacement taken rest
  | 0, c :: rest =>
    match p.extent (c :: rest) with
    | 0 => c :: subAfter replacement 0 rest
    | taken + 1 => replacement ++ subAfter replacement taken rest

variable (p) in
/-- `pattern.sub(replacement, text)`, the replacement being plain text. -/
def sub (replacement text : List α) : List α := p.subAfter replacement 0 text

variable {replacement : List α}

theorem subAfter_eq (taken : ℕ) (text : List α) :
    p.subAfter replacement taken text = p.sub replacement (text.drop taken) := by
  induction text generalizing taken with
  | nil => rw [List.drop_nil, sub, subAfter, subAfter]
  | cons c rest ih =>
    cases taken with
    | zero => rfl
    | succ taken => rw [subAfter, ih, List.drop_succ_cons]

@[simp] theorem sub_nil : p.sub replacement [] = [] := rfl

/-- A symbol where no match begins is kept. -/
theorem sub_cons {c : α} {rest : List α} (h : p.extent (c :: rest) = 0) :
    p.sub replacement (c :: rest) = c :: p.sub replacement rest := by
  rw [sub, subAfter, h]
  rfl

/-- A match is replaced, and the search goes on behind it. -/
theorem sub_of_match {text : List α} (h : 0 < p.extent text) :
    p.sub replacement text = replacement ++ p.sub replacement (text.drop (p.extent text)) := by
  cases text with
  | nil => exact absurd h (by rw [extent_nil]; exact Nat.lt_irrefl 0)
  | cons c rest =>
    obtain ⟨taken, htaken⟩ := Nat.exists_eq_add_one_of_ne_zero h.ne'
    rw [htaken, List.drop_succ_cons, sub, subAfter, htaken, ← subAfter_eq]

/-- A substitution is settled symbol by symbol and match by match. -/
theorem sub_induction {motive : List α → Prop} (nil : motive [])
    (keep : ∀ c rest, p.extent (c :: rest) = 0 → motive rest → motive (c :: rest))
    (replace : ∀ text, 0 < p.extent text → motive (text.drop (p.extent text)) → motive text)
    (text : List α) : motive text := by
  induction hlength : text.length using Nat.strong_induction_on generalizing text with
  | _ n ih =>
    cases text with
    | nil => exact nil
    | cons c rest =>
      rw [List.length_cons] at hlength
      by_cases hextent : p.extent (c :: rest) = 0
      · exact keep c rest hextent (ih _ (by omega) rest rfl)
      · refine replace _ (Nat.pos_of_ne_zero hextent) (ih _ ?_ _ rfl)
        rw [List.length_drop, List.length_cons]
        omega

/-- Where nothing matches, nothing is replaced. -/
theorem sub_eq_self {text : List α} (h : ¬p.Occurs text) : p.sub replacement text = text := by
  induction text with
  | nil => rfl
  | cons c rest ih =>
    rw [sub_cons (not_occurs_iff.mp h _ (List.suffix_refl _)),
      ih (not_occurs_of_suffix h (List.suffix_cons c rest))]

/-- No match begins within a part of a text, whatever follows it. -/
def Inert (p : Pattern α) (part : List α) : Prop :=
  ∀ rest, rest <:+ part → rest ≠ [] → ∀ after, p.extent (rest ++ after) = 0

/-- A part in which no match begins is kept. -/
theorem sub_append_of_inert {part : List α} (h : p.Inert part) (after : List α) :
    p.sub replacement (part ++ after) = part ++ p.sub replacement after := by
  induction part with
  | nil => rfl
  | cons c rest ih =>
    have hnone : p.extent (c :: (rest ++ after)) = 0 :=
      h _ (List.suffix_refl _) (List.cons_ne_nil c rest) after
    rw [List.cons_append, sub_cons hnone,
      ih fun tail htail ↦ h tail (htail.trans (List.suffix_cons c rest)), List.cons_append]

section RunsOver

variable (p) (stop : α) (inRun : α → Bool)

/-- A match that reaches a symbol goes on over it and the run of a class behind it; the other matches before
the symbol do not depend on what comes from there on. -/
structure RunsOver : Prop where
  extent_stop : p.extent [stop] = 0
  kept : ∀ body after, p.extent (body ++ [stop]) ≤ body.length →
    p.extent (body ++ stop :: after) = p.extent (body ++ [stop]) ∧
      p.extent body = p.extent (body ++ [stop])
  beyond : ∀ body after, body.length < p.extent (body ++ [stop]) →
    p.extent (body ++ stop :: after) = body.length + 1 + (after.takeWhile inRun).length

/-- The search through a text, some of which is taken, ends where the text does. -/
def fitsAfter : ℕ → List α → Bool
  | 0, [] => true
  | _ + 1, [] => false
  | taken + 1, _ :: rest => fitsAfter taken rest
  | 0, c :: rest =>
    match p.extent (c :: rest ++ [stop]) with
    | 0 => fitsAfter 0 rest
    | taken + 1 => fitsAfter taken rest

/-- No match that begins in a text before the symbol reaches the symbol. -/
def Fits (body : List α) : Prop := p.fitsAfter stop 0 body = true

instance (body : List α) : Decidable (p.Fits stop body) :=
  inferInstanceAs (Decidable (p.fitsAfter stop 0 body = true))

variable {p stop inRun}

theorem fitsAfter_iff (taken : ℕ) (body : List α) :
    p.fitsAfter stop taken body = true ↔ taken ≤ body.length ∧ p.Fits stop (body.drop taken) := by
  induction body generalizing taken with
  | nil =>
    cases taken with
    | zero => exact iff_of_true rfl ⟨le_rfl, rfl⟩
    | succ taken => exact iff_of_false Bool.false_ne_true fun h ↦ Nat.not_succ_le_zero _ h.1
  | cons c rest ih =>
    cases taken with
    | zero => exact ⟨fun h ↦ ⟨Nat.zero_le _, h⟩, fun h ↦ h.2⟩
    | succ taken =>
      rw [fitsAfter, ih, List.length_cons, List.drop_succ_cons, Nat.add_le_add_iff_right]

theorem fits_nil : p.Fits stop [] := rfl

theorem fits_cons {c : α} {rest : List α} (h : p.extent (c :: rest ++ [stop]) = 0) :
    p.Fits stop (c :: rest) ↔ p.Fits stop rest := by
  rw [Fits, fitsAfter, h, Fits]

theorem fits_of_match {body : List α} (hne : body ≠ []) (h : 0 < p.extent (body ++ [stop])) :
    p.Fits stop body ↔ p.extent (body ++ [stop]) ≤ body.length ∧
      p.Fits stop (body.drop (p.extent (body ++ [stop]))) := by
  obtain ⟨c, rest, rfl⟩ := List.exists_cons_of_ne_nil hne
  obtain ⟨taken, htaken⟩ := Nat.exists_eq_add_one_of_ne_zero h.ne'
  rw [← fitsAfter_iff, Fits, fitsAfter, htaken]
  rfl

/-- A part in which no match begins fits. -/
theorem fits_append_of_inert {part : List α} (h : p.Inert part) (body : List α) :
    p.Fits stop (part ++ body) ↔ p.Fits stop body := by
  induction part with
  | nil => rfl
  | cons c rest ih =>
    have hnone : p.extent (c :: (rest ++ body) ++ [stop]) = 0 := by
      have hextent := h _ (List.suffix_refl _) (List.cons_ne_nil c rest) (body ++ [stop])
      rwa [← List.append_assoc] at hextent
    rw [List.cons_append, fits_cons hnone,
      ih fun tail htail ↦ h tail (htail.trans (List.suffix_cons c rest))]

/-- A match in a text that fits does not depend on what comes behind it. -/
theorem RunsOver.extent_eq_of_fits (h : p.RunsOver stop inRun) {body : List α}
    (hfits : p.Fits stop body) (after : List α) :
    p.extent (body ++ stop :: after) = p.extent body := by
  have hle : p.extent (body ++ [stop]) ≤ body.length := by
    by_cases hextent : p.extent (body ++ [stop]) = 0
    · rw [hextent]
      exact Nat.zero_le _
    · have hne : body ≠ [] := by
        rintro rfl
        exact hextent h.extent_stop
      exact ((fits_of_match hne (Nat.pos_of_ne_zero hextent)).mp hfits).1
  obtain ⟨hafter, halone⟩ := h.kept body after hle
  rw [hafter, halone]

/-- What stands on both sides of a symbol that no match reaches is replaced by itself. -/
theorem sub_append_cons_of_fits (h : p.RunsOver stop inRun) {body : List α}
    (hfits : p.Fits stop body) (after : List α) :
    p.sub replacement (body ++ stop :: after) =
      p.sub replacement body ++ stop :: p.sub replacement after := by
  have hextent := h.extent_eq_of_fits hfits after
  have hlast := h.extent_eq_of_fits hfits []
  induction body using p.sub_induction with
  | nil =>
    rw [List.nil_append, extent_nil] at hextent
    rw [List.nil_append, sub_cons hextent]
    rfl
  | keep c rest hnone ih =>
    rw [hnone] at hextent hlast
    have hrest := (fits_cons hlast).mp hfits
    rw [List.cons_append] at hextent
    rw [List.cons_append, sub_cons hextent, sub_cons hnone, List.cons_append,
      ih hrest (h.extent_eq_of_fits hrest after) (h.extent_eq_of_fits hrest [])]
  | replace body hmatch ih =>
    have hne : body ≠ [] := by
      rintro rfl
      exact absurd hmatch (by rw [extent_nil]; exact Nat.lt_irrefl 0)
    have hrest := ((fits_of_match hne (hlast ▸ hmatch)).mp hfits).2
    rw [hlast] at hrest
    rw [sub_of_match (hextent ▸ hmatch), hextent, List.drop_append_of_le_length (p.extent_le body),
      ih hrest (h.extent_eq_of_fits hrest after) (h.extent_eq_of_fits hrest []), sub_of_match hmatch,
      List.append_assoc]

/-- A match that runs over the symbol takes all that stands before it, and the run behind it. -/
theorem sub_append_cons_of_over (h : p.RunsOver stop inRun) {body : List α}
    (hover : body.length < p.extent (body ++ [stop])) (after : List α) :
    p.sub replacement (body ++ stop :: after) =
      replacement ++ p.sub replacement (after.dropWhile inRun) := by
  have hextent := h.beyond body after hover
  have hdrop : (body ++ stop :: after).drop (p.extent (body ++ stop :: after)) =
      after.dropWhile inRun := by
    have htext : body ++ stop :: after =
        (body ++ stop :: after.takeWhile inRun) ++ after.dropWhile inRun := by
      rw [List.append_assoc, List.cons_append, List.takeWhile_append_dropWhile]
    have hlength : (body ++ stop :: after.takeWhile inRun).length =
        body.length + 1 + (after.takeWhile inRun).length := by
      rw [List.length_append, List.length_cons]
      omega
    rw [hextent, ← hlength, htext, List.drop_left]
  rw [sub_of_match (by omega), hdrop]

/-- A symbol at which every match ends, and which begins none. -/
def Separates (p : Pattern α) (stop : α) : Prop :=
  ∀ body after, p.extent (body ++ stop :: after) = p.extent body

theorem Separates.runsOver (h : p.Separates stop) (inRun : α → Bool) : p.RunsOver stop inRun where
  extent_stop := (h [] []).trans extent_nil
  kept body after _ := ⟨(h body after).trans (h body []).symm, (h body []).symm⟩
  beyond body after hover := by
    rw [h] at hover
    exact absurd (p.extent_le body) (not_le.mpr hover)

theorem Separates.fits (h : p.Separates stop) (body : List α) : p.Fits stop body := by
  induction body using p.sub_induction with
  | nil => exact fits_nil
  | keep c rest hextent ih => exact (fits_cons ((h (c :: rest) []).trans hextent)).mpr ih
  | replace body hextent ih =>
    have hne : body ≠ [] := by
      rintro rfl
      exact absurd hextent (by rw [extent_nil]; exact Nat.lt_irrefl 0)
    refine (fits_of_match hne (by rwa [h])).mpr ?_
    rw [h]
    exact ⟨p.extent_le body, ih⟩

end RunsOver

section Seams

variable {mark : α} {tail : List α}

/-- What a substituted text begins with was there before, up to the first replacement. -/
theorem prefix_of_prefix_sub {init : List α} (hmark : mark ∉ init) {last : α} {text : List α}
    (h : init ++ [last] <+: q.sub (mark :: tail) text) :
    init ++ [last] <+: text ∨
      (last = mark ∧ ∃ rest, text = init ++ rest ∧ 0 < q.extent rest) := by
  induction init generalizing text with
  | nil =>
    by_cases hextent : q.extent text = 0
    · cases text with
      | nil => exact Or.inl h
      | cons c rest =>
        rw [sub_cons hextent] at h
        rw [List.nil_append, List.singleton_prefix_cons_iff] at h
        rw [h]
        exact Or.inl (List.prefix_append [c] rest)
    · rw [sub_of_match (Nat.pos_of_ne_zero hextent)] at h
      exact Or.inr ⟨List.singleton_prefix_cons_iff.mp h, text, rfl, Nat.pos_of_ne_zero hextent⟩
  | cons d init ih =>
    rw [List.mem_cons, not_or] at hmark
    by_cases hextent : q.extent text = 0
    · cases text with
      | nil => exact Or.inl h
      | cons c rest =>
        rw [sub_cons hextent] at h
        rw [List.cons_append, List.cons_prefix_cons] at h
        obtain ⟨rfl, h⟩ := h
        rcases ih hmark.2 h with hkept | ⟨hlast, after, hafter, hmatch⟩
        · exact Or.inl (List.cons_prefix_cons.mpr ⟨rfl, hkept⟩)
        · exact Or.inr ⟨hlast, after, by rw [hafter, List.cons_append], hmatch⟩
    · rw [sub_of_match (Nat.pos_of_ne_zero hextent), List.cons_append, List.cons_append,
        List.cons_prefix_cons] at h
      exact absurd h.1.symm hmark.1

/-- A pattern does not occur in a substituted text when each of its matches in the text was one of the
substituted pattern, and its shortest matches hold the first symbol of the replacement at most where they
end, and then end with what any match begins with as well. -/
theorem not_occurs_sub {Head : List α → Prop} {Last : α → Prop}
    (hmatch : ∀ text, 0 < p.extent text ↔
      ∃ init last, init ++ [last] <+: text ∧ Head init ∧ Last last)
    (hhead : ∀ init, Head init → mark ∉ init) (hinert : p.Inert (mark :: tail))
    (hlast : Last mark → ∀ text, 0 < q.extent text → ∃ c ∈ text.head?, Last c) {text : List α}
    (hcover : ∀ rest, rest <:+ text → q.extent rest = 0 → p.extent rest = 0) :
    ¬p.Occurs (q.sub (mark :: tail) text) := by
  rw [not_occurs_iff]
  -- a match at the beginning was one before the substitution
  have hbegin : ∀ text, 0 < p.extent (q.sub (mark :: tail) text) → 0 < p.extent text := by
    intro text hpos
    obtain ⟨init, last, hbegins, hinit, hend⟩ := (hmatch _).mp hpos
    rcases prefix_of_prefix_sub (hhead init hinit) hbegins with hkept | ⟨rfl, rest, rfl, hrest⟩
    · exact (hmatch text).mpr ⟨init, last, hkept, hinit, hend⟩
    · obtain ⟨c, hc, hend⟩ := hlast hend rest hrest
      obtain ⟨after, rfl⟩ := List.head?_eq_some_iff.mp hc
      exact (hmatch _).mpr ⟨init, c, ⟨after, List.append_assoc init [c] after⟩, hinit, hend⟩
  induction text using q.sub_induction with
  | nil =>
    intro rest hrest
    rw [sub_nil, List.suffix_nil] at hrest
    rw [hrest, extent_nil]
  | keep c text hextent ih =>
    intro rest hrest
    have hnone : p.extent (q.sub (mark :: tail) (c :: text)) = 0 := by
      by_contra hpos
      have hbefore := hbegin _ (Nat.pos_of_ne_zero hpos)
      exact hbefore.ne' (hcover _ (List.suffix_refl _) hextent)
    rw [sub_cons hextent] at hrest hnone
    rcases List.suffix_cons_iff.mp hrest with rfl | hrest
    · exact hnone
    · exact ih (fun rest hrest ↦ hcover rest (hrest.trans (List.suffix_cons c text))) rest hrest
  | replace text hextent ih =>
    intro rest hrest
    have hlater := ih fun rest hrest ↦ hcover rest (hrest.trans (List.drop_suffix _ text))
    rw [sub_of_match hextent] at hrest
    rcases List.suffix_or_suffix_of_suffix hrest (List.suffix_append (mark :: tail) _) with
      hsuffix | ⟨part, rfl⟩
    · exact hlater rest hsuffix
    · obtain ⟨before, hbefore⟩ := hrest
      rw [← List.append_assoc] at hbefore
      have hpart : part <:+ mark :: tail := ⟨before, List.append_cancel_right hbefore⟩
      by_cases hempty : part = []
      · rw [hempty, List.nil_append]
        exact hlater _ (List.suffix_refl _)
      · exact hinert part hpart hempty _

end Seams

section LiteralRun

variable (literal : List α) (inRun : α → Bool)

def runAfter (text : List α) : List α := (text.drop literal.length).takeWhile inRun

variable {literal inRun} in
theorem runAfter_append {run : List α} (hrun : ∀ c ∈ run, inRun c = true) (after : List α) :
    runAfter literal inRun (literal ++ (run ++ after)) = run ++ after.takeWhile inRun := by
  rw [runAfter, List.drop_left, List.takeWhile_append_of_pos hrun]

variable [DecidableEq α] (least : ℕ) (exactly : Bool)

/-- `literal[class]{least,}`, or `literal[class]{least}` where the count is exact. -/
def literalRun : Pattern α where
  extent text :=
    if literal <+: text ∧ least ≤ (runAfter literal inRun text).length then
      literal.length + if exactly then least else (runAfter literal inRun text).length
    else 0
  extent_le text := by
    have hrun := (List.takeWhile_prefix inRun (l := text.drop literal.length)).length_le
    rw [List.length_drop] at hrun
    split_ifs with hmatch hexactly
    · have hliteral := hmatch.1.length_le
      have hleast := hmatch.2
      rw [runAfter] at hleast
      omega
    · have hliteral := hmatch.1.length_le
      rw [runAfter]
      omega
    · exact Nat.zero_le _

variable {literal inRun least exactly}

/-- A literal and a run of a class are found where the literal is followed by enough symbols of the class. -/
theorem literalRun_match (hliteral : literal ≠ []) (text : List α) :
    0 < (literalRun literal inRun (least + 1) exactly).extent text ↔
      ∃ init last, init ++ [last] <+: text ∧
        (∃ run, init = literal ++ run ∧ run.length = least ∧ ∀ c ∈ run, inRun c = true) ∧
        inRun last = true := by
  have hpos : 0 < (literalRun literal inRun (least + 1) exactly).extent text ↔
      literal <+: text ∧ least + 1 ≤ (runAfter literal inRun text).length := by
    have hlength := List.length_pos_of_ne_nil hliteral
    rw [literalRun]
    dsimp only
    split_ifs with hmatch
    · exact iff_of_true (by omega) hmatch
    · exact iff_of_true (by omega) hmatch
    · exact iff_of_false (Nat.lt_irrefl 0) hmatch
  rw [hpos]
  constructor
  · rintro ⟨⟨rest, rfl⟩, hleast⟩
    rw [runAfter, List.drop_left] at hleast
    have hclass : ∀ c ∈ rest.takeWhile inRun, inRun c = true := fun c hc ↦ List.mem_takeWhile_imp hc
    obtain ⟨after, hafter⟩ := List.takeWhile_prefix inRun (l := rest)
    have hlt : least < (rest.takeWhile inRun).length := hleast
    refine ⟨literal ++ (rest.takeWhile inRun).take least, (rest.takeWhile inRun)[least], ?_,
      ⟨_, rfl, List.length_take_of_le hlt.le, fun c hc ↦ hclass c (List.mem_of_mem_take hc)⟩,
      hclass _ (List.getElem_mem hlt)⟩
    rw [List.append_assoc, List.take_append_getElem hlt, List.prefix_append_right_inj]
    exact (List.take_prefix _ _).trans ⟨after, hafter⟩
  · rintro ⟨init, last, ⟨after, rfl⟩, ⟨run, rfl, hlength, hrun⟩, hlast⟩
    have hboth : ∀ c ∈ run ++ [last], inRun c = true := by
      intro c hc
      rcases List.mem_append.mp hc with hc | hc
      · exact hrun c hc
      · rw [List.mem_singleton.mp hc]
        exact hlast
    have htext : literal ++ run ++ [last] ++ after = literal ++ ((run ++ [last]) ++ after) := by
      rw [List.append_assoc, List.append_assoc, List.append_assoc]
    refine ⟨⟨run ++ [last] ++ after, htext.symm⟩, ?_⟩
    rw [htext, runAfter_append hboth, List.length_append, List.length_append, List.length_singleton,
      hlength]
    exact Nat.le_add_right _ _

/-- No match begins within a part whose ends are no beginnings of the literal. -/
theorem literalRun_inert {part : List α}
    (h : ∀ rest ∈ part.tails, rest ≠ [] → ¬rest <+: literal ∧ ¬literal <+: rest) :
    (literalRun literal inRun least exactly).Inert part := by
  intro rest hrest hne after
  obtain ⟨hshort, hlong⟩ := h rest ((List.mem_tails _ _).mpr hrest) hne
  refine if_neg fun hmatch ↦ ?_
  rcases List.prefix_or_prefix_of_prefix hmatch.1 (List.prefix_append rest after) with hle | hle
  · exact hlong hle
  · exact hshort hle

/-- No match begins within a part without the first symbol of the literal. -/
theorem literalRun_inert_of_not_mem {first : α} {others part : List α} (h : first ∉ part) :
    (literalRun (first :: others) inRun least exactly).Inert part := by
  refine literalRun_inert fun rest hrest hne ↦ ?_
  obtain ⟨c, tail, rfl⟩ := List.exists_cons_of_ne_nil hne
  have hc : c ≠ first := by
    rintro rfl
    exact h (((List.mem_tails _ _).mp hrest).subset List.mem_cons_self)
  exact ⟨fun hbegins ↦ hc (List.cons_prefix_cons.mp hbegins).1,
    fun hbegins ↦ hc (List.cons_prefix_cons.mp hbegins).1.symm⟩

/-- A match takes symbols of the literal and of the class. -/
theorem mem_of_mem_take_literalRun {text : List α} {c : α}
    (hc : c ∈ text.take ((literalRun literal inRun least exactly).extent text)) :
    c ∈ literal ∨ inRun c = true := by
  have hrun : ∀ n, literal <+: text → n ≤ (runAfter literal inRun text).length →
      c ∈ text.take (literal.length + n) → c ∈ literal ∨ inRun c = true := by
    rintro n ⟨rest, rfl⟩ hn hc
    obtain ⟨run, tail, rfl, hclass, htail⟩ := exists_run inRun rest
    rw [runAfter, List.drop_left, takeWhile_append_stop hclass htail] at hn
    rw [List.take_length_add_append, List.take_append_of_le_length hn] at hc
    rcases List.mem_append.mp hc with hc | hc
    · exact Or.inl hc
    · exact Or.inr (hclass c (List.mem_of_mem_take hc))
  rw [literalRun] at hc
  dsimp only at hc
  split_ifs at hc with hmatch hexactly
  · exact hrun _ hmatch.1 hmatch.2 hc
  · exact hrun _ hmatch.1 le_rfl hc
  · rw [List.take_zero] at hc
    exact absurd hc List.not_mem_nil

/-- A symbol of neither the literal nor the class separates. -/
theorem literalRun_separates {stop : α} (hliteral : stop ∉ literal) (hclass : inRun stop = false) :
    (literalRun literal inRun least exactly).Separates stop := by
  intro body after
  have hstarts : literal <+: body ++ stop :: after ↔ literal <+: body := by
    refine ⟨fun h ↦ ?_, fun h ↦ h.trans (List.prefix_append body _)⟩
    rcases List.prefix_or_prefix_of_prefix h (List.prefix_append body _) with hshort | hlong
    · exact hshort
    · obtain ⟨more, rfl⟩ := hlong
      cases more with
      | nil => rw [List.append_nil]
      | cons c more =>
        have hc : c = stop := by
          have htail := (List.prefix_append_right_inj body).mp h
          exact (List.cons_prefix_cons.mp htail).1
        exact absurd (List.mem_append_right body (hc ▸ List.mem_cons_self)) hliteral
  have hrun : literal <+: body →
      runAfter literal inRun (body ++ stop :: after) = runAfter literal inRun body := by
    rintro ⟨rest, rfl⟩
    rw [List.append_assoc, runAfter, runAfter, List.drop_left, List.drop_left]
    obtain ⟨run, tail, rfl, hrun, htail⟩ := exists_run inRun rest
    rw [takeWhile_append_stop hrun htail, List.append_assoc, takeWhile_append_stop hrun]
    cases tail with
    | nil => rintro _ ⟨⟩; exact hclass
    | cons c tail => exact htail
  rw [literalRun]
  dsimp only
  by_cases hbody : literal <+: body
  · rw [hrun hbody]
    simp only [hbody, hstarts.mpr hbody]
  · rw [if_neg fun h ↦ hbody (hstarts.mp h.1), if_neg fun h ↦ hbody h.1]

/-- A literal and a run do not occur in a substituted text when the replacement begins with a symbol of
neither and each of their matches in the text was one of the substituted pattern. -/
theorem literalRun_not_occurs_sub {mark : α} {tail : List α} (hliteral : literal ≠ [])
    (hmark : mark ∉ literal) (hclass : inRun mark = false)
    (hinert : ∀ rest ∈ (mark :: tail).tails, rest ≠ [] → ¬rest <+: literal ∧ ¬literal <+: rest)
    {text : List α} (hcover : ∀ rest, rest <:+ text → q.extent rest = 0 →
      (literalRun literal inRun (least + 1) exactly).extent rest = 0) :
    ¬(literalRun literal inRun (least + 1) exactly).Occurs (q.sub (mark :: tail) text) := by
  refine not_occurs_sub (literalRun_match hliteral) ?_ (literalRun_inert hinert)
    (fun hlast ↦ absurd hlast (by rw [hclass]; decide)) hcover
  rintro _ ⟨run, rfl, -, hrun⟩ hmem
  rcases List.mem_append.mp hmem with hmem | hmem
  · exact hmark hmem
  · exact absurd (hrun _ hmem) (by rw [hclass]; decide)

end LiteralRun

end Pattern

end SchemaPilot.Library
