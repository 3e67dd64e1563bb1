import SchemaPilot.Library.ItemByItem
import SchemaPilot.Library.Substitution
import SchemaPilot.Library.Text
import Mathlib.Tactic.Set

/-!
# Secrets hygiene

`redact_secrets` of `backend/shared_domain/secrets.py` replaces what looks like a secret, one pattern after
the other, and `contains_secret` searches for it. A redacted text holds nothing that looks like a secret
(`redactSecrets_complete`): a bracket ends a match of no pattern but the last one, and there only where the
first letter of the replaced text would have ended it.
-/

namespace SchemaPilot.SharedDomain

open Library Library.Text

/-- `sk-[A-Za-z0-9]{10,}`. -/
def secretKeyPattern : Pattern Char := .literalRun "sk-".toList Char.isAlphanum 10 false

/-- The class `[0-9A-Z]`. -/
def isKeyIdChar (c : Char) : Bool := c.isDigit || c.isUpper

/-- `AKIA[0-9A-Z]{16}`. -/
def accessKeyPattern : Pattern Char := .literalRun "AKIA".toList isKeyIdChar 16 true

/-- A character that `(?i)` takes for a lower-case letter: the long s is an s to it. -/
def isCaseOf (letter c : Char) : Bool :=
  c == letter || c == letter.toUpper || (letter == 's' && c == '\u017f')

/-- A text begins with a word, `(?i)` leaving the case open. -/
def startsWithWord : List Char → List Char → Bool
  | [], _ => true
  | _ :: _, [] => false
  | letter :: word, c :: text => isCaseOf letter c && startsWithWord word text

/-- The class `[^,\s]`. -/
def isSecretChar (c : Char) : Bool := c != ',' && !isSpace c

/-- What follows `\s*=\s*[^,\s]+` at the beginning of a text. -/
def afterAssignment? (text : List Char) : Option (List Char) :=
  match text.dropWhile isSpace with
  | [] => none
  | c :: rest =>
    let value := rest.dropWhile isSpace
    if c = '=' ∧ value.takeWhile isSecretChar ≠ [] then some (value.dropWhile isSecretChar) else none

/-- `(?i)password\s*=\s*[^,\s]+`. -/
def passwordPattern : Pattern Char where
  extent text :=
    if startsWithWord "password".toList text then
      ((afterAssignment? (text.drop 8)).map fun rest ↦ text.length - rest.length).getD 0
    else 0
  extent_le text := by
    split_ifs
    · cases afterAssignment? (text.drop 8) with
      | none => exact Nat.zero_le _
      | some rest => exact Nat.sub_le _ _
    · exact Nat.zero_le _

/-- `SECRET_PATTERNS`. -/
def secretPatterns : List (Pattern Char) := [secretKeyPattern, accessKeyPattern, passwordPattern]

def redactedMark : List Char := "[REDACTED]".toList

/-- `redact_secrets`. -/
def redactSecrets (text : String) : String :=
  String.ofList (secretPatterns.foldl (fun redacted pattern ↦ pattern.sub redactedMark redacted) text.toList)

/-- `contains_secret`. -/
def containsSecret (text : String) : Bool :=
  secretPatterns.any fun pattern ↦ pattern.Occurs text.toList

/-- `(?i)password\s*=\s*`, what stands before the characters of the secret. -/
def IsPasswordHead (head : List Char) : Prop :=
  ∃ word blanks later, head = word ++ (blanks ++ '=' :: later) ∧
    List.Forall₂ (fun letter c ↦ isCaseOf letter c = true) "password".toList word ∧
    (∀ c ∈ blanks, isSpace c = true) ∧ ∀ c ∈ later, isSpace c = true

theorem startsWithWord_iff {word text : List Char} : startsWithWord word text = true ↔
    ∃ spelled rest, text = spelled ++ rest ∧
      List.Forall₂ (fun letter c ↦ isCaseOf letter c = true) word spelled := by
  induction word generalizing text with
  | nil => exact iff_of_true (by rw [startsWithWord]) ⟨[], text, rfl, List.Forall₂.nil⟩
  | cons letter word ih =>
    cases text with
    | nil =>
      refine iff_of_false (by rw [startsWithWord]; decide) ?_
      rintro ⟨spelled, rest, htext, hspelled⟩
      obtain ⟨rfl, -⟩ := List.append_eq_nil_iff.mp htext.symm
      cases hspelled
    | cons c text =>
      rw [startsWithWord, Bool.and_eq_true, ih]
      constructor
      · rintro ⟨hc, spelled, rest, rfl, hspelled⟩
        exact ⟨c :: spelled, rest, rfl, List.Forall₂.cons hc hspelled⟩
      · rintro ⟨spelled, rest, htext, hspelled⟩
        obtain ⟨d, others, hd, hothers, rfl⟩ := List.forall₂_cons_left_iff.mp hspelled
        rw [List.cons_append, List.cons.injEq] at htext
        obtain ⟨rfl, rfl⟩ := htext
        exact ⟨hd, others, rest, rfl, hothers⟩

theorem isSpace_of_isSecretChar {c : Char} (h : isSecretChar c = true) : isSpace c = false := by
  rw [isSecretChar, Bool.and_eq_true, Bool.not_eq_true'] at h
  exact h.2

theorem afterAssignment?_eq_some_iff {text rest : List Char} :
    afterAssignment? text = some rest ↔
      ∃ blanks later secret, text = blanks ++ '=' :: (later ++ (secret ++ rest)) ∧
        (∀ c ∈ blanks, isSpace c = true) ∧ (∀ c ∈ later, isSpace c = true) ∧ secret ≠ [] ∧
        (∀ c ∈ secret, isSecretChar c = true) ∧ ∀ c ∈ rest.head?, isSecretChar c = false := by
  constructor
  · intro h
    obtain ⟨blanks, tail, rfl, hblanks, htail⟩ := exists_run isSpace text
    rw [afterAssignment?, dropWhile_append_stop hblanks htail] at h
    cases tail with
    | nil => cases h
    | cons c tail =>
      obtain ⟨later, value, rfl, hlater, hvalue⟩ := exists_run isSpace tail
      obtain ⟨secret, after, rfl, hsecret, hafter⟩ := exists_run isSecretChar value
      dsimp only at h
      rw [dropWhile_append_stop hlater hvalue, takeWhile_append_stop hsecret hafter,
        dropWhile_append_stop hsecret hafter] at h
      split_ifs at h with hfound
      obtain ⟨rfl, hne⟩ := hfound
      cases h
      exact ⟨blanks, later, secret, rfl, hblanks, hlater, hne, hsecret, hafter⟩
  · rintro ⟨blanks, later, secret, rfl, hblanks, hlater, hne, hsecret, hrest⟩
    obtain ⟨c, others, rfl⟩ := List.exists_cons_of_ne_nil hne
    have hc : isSpace c = false := isSpace_of_isSecretChar (hsecret c List.mem_cons_self)
    rw [afterAssignment?, dropWhile_append_stop hblanks (by rintro _ ⟨⟩; decide)]
    dsimp only
    rw [dropWhile_append_stop hlater (by rintro _ ⟨⟩; exact hc), takeWhile_append_stop hsecret hrest,
      if_pos ⟨rfl, hne⟩, dropWhile_append_stop hsecret hrest]

/-- What the pattern takes where a secret follows the name of a password. -/
theorem passwordPattern_extent {head secret rest : List Char} (hhead : IsPasswordHead head)
    (hne : secret ≠ []) (hsecret : ∀ c ∈ secret, isSecretChar c = true)
    (hrest : ∀ c ∈ rest.head?, isSecretChar c = false) :
    passwordPattern.extent (head ++ (secret ++ rest)) = (head ++ secret).length := by
  obtain ⟨word, blanks, later, rfl, hword, hblanks, hlater⟩ := hhead
  have hlength : word.length = 8 := hword.length_eq.symm
  have htext : word ++ (blanks ++ '=' :: later) ++ (secret ++ rest) =
      word ++ (blanks ++ '=' :: (later ++ (secret ++ rest))) := by
    rw [List.append_assoc, List.append_assoc, List.cons_append]
  have hafter : afterAssignment? (blanks ++ '=' :: (later ++ (secret ++ rest))) = some rest :=
    afterAssignment?_eq_some_iff.mpr
      ⟨blanks, later, secret, rfl, hblanks, hlater, hne, hsecret, hrest⟩
  rw [passwordPattern]
  dsimp only
  rw [htext, if_pos (startsWithWord_iff.mpr ⟨word, _, rfl, hword⟩), List.drop_left' hlength, hafter,
    Option.map_some, Option.getD_some]
  simp only [List.length_append, List.length_cons]
  omega

/-- The pattern is found where a secret follows the name of a password. -/
theorem exists_password {text : List Char} (h : 0 < passwordPattern.extent text) :
    ∃ head secret rest, text = head ++ (secret ++ rest) ∧ IsPasswordHead head ∧ secret ≠ [] ∧
      (∀ c ∈ secret, isSecretChar c = true) ∧ ∀ c ∈ rest.head?, isSecretChar c = false := by
  rw [passwordPattern] at h
  dsimp only at h
  split_ifs at h with hstarts
  · obtain ⟨word, tail, rfl, hword⟩ := startsWithWord_iff.mp hstarts
    have hlength : word.length = 8 := hword.length_eq.symm
    rw [List.drop_left' hlength] at h
    cases hafter : afterAssignment? tail with
    | none =>
      rw [hafter] at h
      exact absurd h (Nat.lt_irrefl 0)
    | some rest =>
      obtain ⟨blanks, later, secret, rfl, hblanks, hlater, hne, hsecret, hrest⟩ :=
        afterAssignment?_eq_some_iff.mp hafter
      refine ⟨word ++ (blanks ++ '=' :: later), secret, rest, ?_,
        ⟨word, blanks, later, rfl, hword, hblanks, hlater⟩, hne, hsecret, hrest⟩
      rw [List.append_assoc, List.append_assoc, List.cons_append]
  · exact absurd h (Nat.lt_irrefl 0)

/-- The pattern is found as soon as one character of a secret follows the name of a password. -/
theorem passwordPattern_match (text : List Char) : 0 < passwordPattern.extent text ↔
    ∃ init last, init ++ [last] <+: text ∧ IsPasswordHead init ∧ isSecretChar last = true := by
  constructor
  · intro h
    obtain ⟨head, secret, rest, rfl, hhead, hne, hsecret, -⟩ := exists_password h
    obtain ⟨c, others, rfl⟩ := List.exists_cons_of_ne_nil hne
    refine ⟨head, c, ⟨others ++ rest, ?_⟩, hhead, hsecret c List.mem_cons_self⟩
    rw [List.append_assoc, List.singleton_append, List.cons_append]
  · rintro ⟨init, last, ⟨after, rfl⟩, hinit, hlast⟩
    obtain ⟨others, rest, rfl, hothers, hrest⟩ := exists_run isSecretChar after
    have hsecret : ∀ c ∈ last :: others, isSecretChar c = true :=
      List.forall_mem_cons.mpr ⟨hlast, hothers⟩
    have hextent := passwordPattern_extent hinit (List.cons_ne_nil last others) hsecret hrest
    have htext : init ++ [last] ++ (others ++ rest) = init ++ (last :: others ++ rest) := by
      rw [List.append_assoc, List.singleton_append, List.cons_append]
    rw [htext, hextent, List.length_append, List.length_cons]
    exact Nat.succ_pos _

/-- A character that is no letter of the word, no blank and no equals sign is not in the name of a password. -/
theorem not_mem_passwordHead {c : Char} (hc : (∀ letter ∈ "password".toList, isCaseOf letter c = false) ∧
    isSpace c = false ∧ c ≠ '=') {head : List Char} (h : IsPasswordHead head) : c ∉ head := by
  obtain ⟨word, blanks, later, rfl, hword, hblanks, hlater⟩ := h
  obtain ⟨hletters, hspace, hequals⟩ := hc
  have hblank : ∀ blanks : List Char, (∀ c ∈ blanks, isSpace c = true) → c ∉ blanks := by
    intro blanks hall hmem
    rw [hall c hmem] at hspace
    cases hspace
  intro hmem
  rcases List.mem_append.mp hmem with hmem | hmem
  · have hspelled : List.Forall₂ (fun c letter ↦ isCaseOf letter c = true) word "password".toList :=
      List.Forall₂.flip hword
    obtain ⟨letter, hletter, hcase⟩ := exists_mem_of_forall₂ hspelled hmem
    rw [hletters letter hletter] at hcase
    cases hcase
  · rcases List.mem_append.mp hmem with hmem | hmem
    · exact hblank blanks hblanks hmem
    · rcases List.mem_cons.mp hmem with hmem | hmem
      · exact hequals hmem
      · exact hblank later hlater hmem

/-- The name of a password begins with its first letter. -/
theorem exists_head_password {text : List Char} (h : 0 < passwordPattern.extent text) :
    ∃ c ∈ text.head?, c = 'p' ∨ c = 'P' := by
  obtain ⟨_, _, _, rfl, ⟨word, blanks, later, rfl, hword, -⟩, -⟩ := exists_password h
  have hspelled : List.Forall₂ (fun letter c ↦ isCaseOf letter c = true)
      ('p' :: "assword".toList) word := hword
  obtain ⟨c, others, hc, hothers, rfl⟩ := List.forall₂_cons_left_iff.mp hspelled
  refine ⟨c, rfl, ?_⟩
  simp only [isCaseOf, Bool.or_eq_true, beq_iff_eq, Bool.and_eq_true] at hc
  rcases hc with (hc | hc) | ⟨hs, -⟩
  · exact Or.inl hc
  · exact Or.inr hc
  · exact absurd hs (by decide)

/-- No password begins within a part without its first letter. -/
theorem passwordPattern_inert_of_not_mem {part : List Char} (h : 'p' ∉ part ∧ 'P' ∉ part) :
    passwordPattern.Inert part := by
  intro rest hrest hne after
  obtain ⟨c, tail, rfl⟩ := List.exists_cons_of_ne_nil hne
  by_contra hpos
  obtain ⟨d, hd, hletter⟩ := exists_head_password (Nat.pos_of_ne_zero hpos)
  rw [List.cons_append, List.head?_cons, Option.mem_some_iff] at hd
  subst hd
  have hmem := hrest.subset List.mem_cons_self
  rcases hletter with rfl | rfl
  · exact h.1 hmem
  · exact h.2 hmem

/-- The first two patterns do not occur in a redacted text where they matched no more than what was
redacted. -/
theorem not_occurs_secretKey {q : Pattern Char} {text : List Char}
    (hcover : ∀ rest, rest <:+ text → q.extent rest = 0 → secretKeyPattern.extent rest = 0) :
    ¬secretKeyPattern.Occurs (q.sub redactedMark text) :=
  Pattern.literalRun_not_occurs_sub (by decide) (by decide) (by decide) (by decide) hcover

theorem not_occurs_accessKey {q : Pattern Char} {text : List Char}
    (hcover : ∀ rest, rest <:+ text → q.extent rest = 0 → accessKeyPattern.extent rest = 0) :
    ¬accessKeyPattern.Occurs (q.sub redactedMark text) :=
  Pattern.literalRun_not_occurs_sub (by decide) (by decide) (by decide) (by decide) hcover

theorem not_occurs_password (text : List Char) :
    ¬passwordPattern.Occurs (passwordPattern.sub redactedMark text) :=
  Pattern.not_occurs_sub passwordPattern_match (fun _ ↦ not_mem_passwordHead (by decide))
    (passwordPattern_inert_of_not_mem (by decide))
    (fun _ _ hmatch ↦ by
      obtain ⟨c, hc, hletter⟩ := exists_head_password hmatch
      exact ⟨c, hc, by rcases hletter with rfl | rfl <;> decide⟩)
    fun _ _ hnone ↦ hnone

theorem containsSecret_eq_false_iff {text : String} :
    containsSecret text = false ↔ ∀ pattern ∈ secretPatterns, ¬pattern.Occurs text.toList := by
  rw [containsSecret, List.any_eq_false]
  exact forall₂_congr fun pattern _ ↦ by rw [decide_eq_true_iff]

/-- Where nothing looks like a secret, nothing is redacted. -/
theorem redactSecrets_eq_self {text : String} (h : containsSecret text = false) :
    redactSecrets text = text := by
  have hnone := containsSecret_eq_false_iff.mp h
  simp only [secretPatterns, List.forall_mem_cons] at hnone
  obtain ⟨hsecretKey, haccessKey, hpassword, -⟩ := hnone
  simp only [redactSecrets, secretPatterns, List.foldl_cons, List.foldl_nil]
  rw [Pattern.sub_eq_self hsecretKey, Pattern.sub_eq_self haccessKey, Pattern.sub_eq_self hpassword,
    String.ofList_toList]

/-- A redacted text holds nothing that looks like a secret. -/
theorem containsSecret_redactSecrets (text : String) : containsSecret (redactSecrets text) = false := by
  rw [containsSecret_eq_false_iff]
  simp only [redactSecrets, secretPatterns, List.foldl_cons, List.foldl_nil, String.toList_ofList]
  set first := secretKeyPattern.sub redactedMark text.toList with hfirst
  set second := accessKeyPattern.sub redactedMark first with hsecond
  have hsecretKey : ¬secretKeyPattern.Occurs first :=
    not_occurs_secretKey fun _ _ hnone ↦ hnone
  have hsecretKey' : ¬secretKeyPattern.Occurs second :=
    not_occurs_secretKey fun rest hrest _ ↦ Pattern.not_occurs_iff.mp hsecretKey rest hrest
  have haccessKey : ¬accessKeyPattern.Occurs second :=
    not_occurs_accessKey fun _ _ hnone ↦ hnone
  simp only [List.forall_mem_cons]
  refine ⟨?_, ?_, not_occurs_password second, fun _ h ↦ absurd h List.not_mem_nil⟩
  · exact not_occurs_secretKey fun rest hrest _ ↦ Pattern.not_occurs_iff.mp hsecretKey' rest hrest
  · exact not_occurs_accessKey fun rest hrest _ ↦ Pattern.not_occurs_iff.mp haccessKey rest hrest

/-- One pass redacts everything that looks like a secret: another one finds nothing and changes nothing. -/
theorem redactSecrets_complete (text : String) :
    containsSecret (redactSecrets text) = false ∧
      redactSecrets (redactSecrets text) = redactSecrets text :=
  ⟨containsSecret_redactSecrets text, redactSecrets_eq_self (containsSecret_redactSecrets text)⟩

end SchemaPilot.SharedDomain
