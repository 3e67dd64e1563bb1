import SchemaPilot.Library.Json
import Mathlib.Data.List.Sort
import Mathlib.Data.String.Basic

/-!
# The text of a JSON value

`dumps` is `json.dumps` with `sort_keys=True` and `separators=(",", ":")`, which escapes every
character outside printable ASCII: the fields of every dictionary are sorted by name (`canon`) and
the result is printed (`print`).

Printing is a prefix code: no text is the beginning of two values that are followed by something
else than the rest of a number (`print_append_inj`). So equal texts come from values that are equal
up to the order of fields (`dumps_inj`), and the fields of equal texts can be compared one by one
(`get?_of_dumps_eq`).
-/

namespace SchemaPilot.Library.Json

/-! ### Printing -/

/-- A character of a string literal, escaped. -/
def escapeChar (c : Char) : List Char :=
  if c = '"' then ['\\', '"']
  else if c = '\\' then ['\\', '\\']
  else if c = '\n' then ['\\', 'n']
  else if c = '\r' then ['\\', 'r']
  else if c = '\t' then ['\\', 't']
  else if c.toNat = 12 then ['\\', 'f']
  else if c.toNat = 8 then ['\\', 'b']
  else if 32 ≤ c.toNat ∧ c.toNat ≤ 126 then [c]
  else if c.toNat < 0x10000 then '\\' :: 'u' :: hexDigits c.toNat 4
  else '\\' :: 'u' :: (hexDigits (0xd800 + (c.toNat - 0x10000) / 0x400) 4 ++
    '\\' :: 'u' :: hexDigits (0xdc00 + (c.toNat - 0x10000) % 0x400) 4)

/-- The rest of a string literal after its opening quote. -/
def printChars : List Char → List Char
  | [] => ['"']
  | c :: rest => escapeChar c ++ printChars rest

/-- A value that is no string, list or dictionary. -/
def atomText : Json → List Char
  | null => "null".toList
  | bool true => "true".toList
  | bool false => "false".toList
  | int value => value.repr.toList
  | float value => value.text.toList
  | special .nan => "NaN".toList
  | special .infinity => "Infinity".toList
  | special .negativeInfinity => "-Infinity".toList
  | _ => []

mutual

/-- The text of a value, fields in the order they come. -/
def print : Json → List Char
  | str value => '"' :: printChars value.toList
  | arr [] => ['[', ']']
  | arr (item :: rest) => '[' :: (print item ++ printItems rest)
  | obj [] => ['{', '}']
  | obj ((key, value) :: rest) =>
    '{' :: '"' :: (printChars key.toList ++ ':' :: (print value ++ printFields rest))
  | value => atomText value

def printItems : List Json → List Char
  | [] => [']']
  | item :: rest => ',' :: (print item ++ printItems rest)

def printFields : List (String × Json) → List Char
  | [] => ['}']
  | (key, value) :: rest =>
    ',' :: '"' :: (printChars key.toList ++ ':' :: (print value ++ printFields rest))

end

def sortFields (fields : Fields) : Fields := fields.insertionSort fun a b ↦ a.1 ≤ b.1

mutual

/-- A value with the fields of every dictionary in it sorted. -/
def canon : Json → Json
  | arr items => arr (canonItems items)
  | obj fields => obj (sortFields (canonFields fields))
  | value => value

def canonItems : List Json → List Json
  | [] => []
  | item :: rest => canon item :: canonItems rest

def canonFields : List (String × Json) → List (String × Json)
  | [] => []
  | (key, value) :: rest => (key, canon value) :: canonFields rest

end

/-- `json.dumps(value, sort_keys=True, separators=(",", ":"))`. -/
def dumps (value : Json) : String := String.ofList (print (canon value))

/-! ### Numbers and names -/

def isAtomChar (c : Char) : Bool := c.isAlphanum || c == '+' || c == '-' || c == '.'

/-- The text does not go on with a character of an atom. -/
def Delimited (chars : List Char) : Prop := ∀ c ∈ chars.head?, isAtomChar c = false

def isAtom : Json → Bool
  | str _ => false
  | arr _ => false
  | obj _ => false
  | _ => true

theorem delimited_cons {c : Char} (h : isAtomChar c = false) (rest : List Char) :
    Delimited (c :: rest) := by
  intro d hd
  rw [List.head?_cons, Option.mem_some_iff] at hd
  rw [← hd]
  exact h

/-- A run of characters of one class before the text goes on with another one can be cut off in one
way. -/
theorem run_append_inj {p : Char → Bool} {a b s t : List Char} (ha : ∀ c ∈ a, p c = true)
    (hb : ∀ c ∈ b, p c = true) (hs : ∀ c ∈ s.head?, p c = false)
    (ht : ∀ c ∈ t.head?, p c = false) (h : a ++ s = b ++ t) : a = b ∧ s = t := by
  have hstop : ∀ {rest : List Char}, (∀ c ∈ rest.head?, p c = false) → rest.takeWhile p = [] := by
    intro rest hrest
    cases rest with
    | nil => rfl
    | cons c tail => simp [hrest c (by simp)]
  have htake := congrArg (List.takeWhile p) h
  rw [List.takeWhile_append_of_pos ha, List.takeWhile_append_of_pos hb, hstop hs, hstop ht,
    List.append_nil, List.append_nil] at htake
  refine ⟨htake, ?_⟩
  rw [htake] at h
  exact List.append_cancel_left h

theorem natRepr_injective {m n : ℕ} (h : m.repr = n.repr) : m = n := by
  have hdigits : Nat.toDigits 10 m = Nat.toDigits 10 n := by
    rw [← Nat.toList_repr, ← Nat.toList_repr, h]
  have hm := Nat.ofDigitChars_toDigits (b := 10) (n := m) (by decide) (by decide)
  rw [hdigits, Nat.ofDigitChars_toDigits (by decide) (by decide)] at hm
  exact hm.symm

theorem natRepr_digit {n : ℕ} {c : Char} (h : c ∈ n.repr.toList) : c.isDigit = true := by
  rw [Nat.toList_repr] at h
  exact Nat.isDigit_of_mem_toDigits (by decide) (by decide) h

/-- The text of an integer is made of digits and perhaps a minus sign. -/
theorem intRepr_char {n : ℤ} {c : Char} (h : c ∈ n.repr.toList) :
    c.isDigit = true ∨ c = '-' := by
  cases n with
  | ofNat n => exact Or.inl (natRepr_digit h)
  | negSucc n =>
    rw [Int.repr, String.toList_append] at h
    rcases List.mem_append.mp h with hminus | hdigit
    · exact Or.inr (by simpa using hminus)
    · exact Or.inl (natRepr_digit hdigit)

theorem intRepr_injective {m n : ℤ} (h : m.repr = n.repr) : m = n := by
  have hminus : ∀ a b : ℕ, a.repr ≠ "-" ++ b.repr := by
    intro a b hab
    have hmem : '-' ∈ a.repr.toList := by
      rw [hab]
      simp
    exact absurd (natRepr_digit hmem) (by decide)
  cases m with
  | ofNat m =>
    cases n with
    | ofNat n => rw [natRepr_injective h]
    | negSucc n => exact absurd h (hminus _ _)
  | negSucc m =>
    cases n with
    | ofNat n => exact absurd h.symm (hminus _ _)
    | negSucc n =>
      have hlist := congrArg String.toList h
      rw [Int.repr, Int.repr, String.toList_append, String.toList_append] at hlist
      have hrepr := natRepr_injective (String.toList_inj.mp (List.append_cancel_left hlist))
      rw [Nat.succ_injective hrepr]

theorem isAtomChar_of_isFloatChar {c : Char} (h : isFloatChar c = true) : isAtomChar c = true := by
  simp only [isFloatChar, isAtomChar, Char.isAlphanum, Bool.or_eq_true, beq_iff_eq] at h ⊢
  rcases h with (((hdigit | hplus) | hminus) | hdot) | rfl
  · exact Or.inl (Or.inl (Or.inl (Or.inr hdigit)))
  · exact Or.inl (Or.inl (Or.inr hplus))
  · exact Or.inl (Or.inr hminus)
  · exact Or.inr hdot
  · exact Or.inl (Or.inl (Or.inl (Or.inl (by decide))))

theorem isAtomChar_atomText (v : Json) {c : Char} (h : c ∈ atomText v) :
    isAtomChar c = true := by
  have hall : ∀ {chars : List Char}, chars.all isAtomChar = true → c ∈ chars →
      isAtomChar c = true := fun hchars hc ↦ List.all_eq_true.mp hchars c hc
  cases v with
  | int value =>
    rcases intRepr_char h with hdigit | rfl
    · simp [isAtomChar, Char.isAlphanum, hdigit]
    · decide
  | float value =>
    have hvalid := value.valid
    rw [isFloatText, Bool.and_eq_true, List.all_eq_true] at hvalid
    exact isAtomChar_of_isFloatChar (hvalid.1 c h)
  | null => exact hall (by decide) h
  | bool value =>
    cases value with
    | false => exact hall (by decide) h
    | true => exact hall (by decide) h
  | special value =>
    cases value with
    | nan => exact hall (by decide) h
    | infinity => exact hall (by decide) h
    | negativeInfinity => exact hall (by decide) h
  | str value => exact absurd h List.not_mem_nil
  | arr items => exact absurd h List.not_mem_nil
  | obj fields => exact absurd h List.not_mem_nil

theorem isFloatText_intRepr (n : ℤ) : isFloatText n.repr.toList = false := by
  rw [isFloatText, Bool.and_eq_false_iff]
  refine Or.inr ?_
  rw [List.any_eq_false]
  intro c hc
  rcases intRepr_char hc with hdigit | rfl
  · rw [Bool.or_eq_true, beq_iff_eq, beq_iff_eq]
    rintro (rfl | rfl)
    · exact absurd hdigit (by decide)
    · exact absurd hdigit (by decide)
  · decide

/-- The constants of JSON: atoms that are no numbers. -/
def constants : List Json :=
  [null, bool true, bool false, special .nan, special .infinity, special .negativeInfinity]

theorem isFloatText_constant : ∀ v ∈ constants, isFloatText (atomText v) = false := by
  decide

theorem intRepr_ne_constant (n : ℤ) : ∀ v ∈ constants, n.repr.toList ≠ atomText v := by
  intro v hv heq
  have hall : constants.all (fun v ↦ (atomText v).any fun c ↦ !c.isDigit && c != '-') = true := by
    decide
  have hletter := List.all_eq_true.mp hall v hv
  simp only [List.any_eq_true, Bool.and_eq_true, Bool.not_eq_true', bne_iff_ne] at hletter
  obtain ⟨c, hc, hdigit, hminus⟩ := hletter
  rw [← heq] at hc
  rcases intRepr_char hc with h | h
  · rw [h] at hdigit
    exact absurd hdigit (by decide)
  · exact hminus h

theorem atomText_constant_inj {v w : Json} (hv : v ∈ constants) (hw : w ∈ constants)
    (h : atomText v = atomText w) : v = w := by
  simp only [constants, List.mem_cons, List.not_mem_nil, or_false] at hv hw
  rcases hv with rfl | rfl | rfl | rfl | rfl | rfl <;>
    rcases hw with rfl | rfl | rfl | rfl | rfl | rfl <;>
    first
    | rfl
    | exact absurd h (by decide)

theorem isAtom_cases {v : Json} (h : isAtom v = true) :
    (∃ n, v = int n) ∨ (∃ f, v = float f) ∨ v ∈ constants := by
  cases v with
  | null => simp [constants]
  | bool value => cases value <;> simp [constants]
  | int value => exact Or.inl ⟨value, rfl⟩
  | float value => exact Or.inr (Or.inl ⟨value, rfl⟩)
  | special value => cases value <;> simp [constants]
  | str value => simp [isAtom] at h
  | arr items => simp [isAtom] at h
  | obj fields => simp [isAtom] at h

/-- Distinct atoms have distinct texts. -/
theorem atomText_inj {v w : Json} (hv : isAtom v = true) (hw : isAtom w = true)
    (h : atomText v = atomText w) : v = w := by
  rcases isAtom_cases hv with ⟨m, rfl⟩ | ⟨f, rfl⟩ | hconst <;>
    rcases isAtom_cases hw with ⟨n, rfl⟩ | ⟨g, rfl⟩ | hconst'
  · rw [intRepr_injective (String.toList_inj.mp h)]
  · have hfloat := isFloatText_intRepr m
    rw [show m.repr.toList = g.text.toList from h, g.valid] at hfloat
    exact absurd hfloat (by decide)
  · exact absurd h (intRepr_ne_constant m w hconst')
  · have hfloat := isFloatText_intRepr n
    rw [show n.repr.toList = f.text.toList from h.symm, f.valid] at hfloat
    exact absurd hfloat (by decide)
  · have htext : f.text = g.text := String.toList_inj.mp h
    cases f
    cases g
    cases htext
    rfl
  · have hfloat := isFloatText_constant w hconst'
    rw [← h, show atomText (float f) = f.text.toList from rfl, f.valid] at hfloat
    exact absurd hfloat (by decide)
  · exact absurd h.symm (intRepr_ne_constant n v hconst)
  · have hfloat := isFloatText_constant v hconst
    rw [h, show atomText (float g) = g.text.toList from rfl, g.valid] at hfloat
    exact absurd hfloat (by decide)
  · exact atomText_constant_inj hconst hconst' h

theorem atomText_ne_nil {v : Json} (h : isAtom v = true) : atomText v ≠ [] := by
  rcases isAtom_cases h with ⟨n, rfl⟩ | ⟨f, rfl⟩ | hconst
  · intro hnil
    have hrepr : n.repr = "" := String.toList_inj.mp hnil
    cases n with
    | ofNat n =>
      have hdigits := congrArg String.toList hrepr
      rw [show (Int.ofNat n).repr = n.repr from rfl, Nat.toList_repr] at hdigits
      exact Nat.toDigits_ne_nil hdigits
    | negSucc n =>
      have hlist := congrArg String.toList hrepr
      rw [Int.repr, String.toList_append] at hlist
      exact absurd hlist (by simp)
  · intro hnil
    have hvalid := f.valid
    rw [show f.text.toList = [] from hnil] at hvalid
    exact absurd hvalid (by decide)
  · exact (by decide : ∀ v ∈ constants, atomText v ≠ []) v hconst

/-! ### String literals -/

theorem hexDigit_injective : ∀ m < 16, ∀ n < 16, hexDigit m = hexDigit n → m = n := by
  decide

/-- Hexadecimal digits determine the number modulo the range they span. -/
theorem hexDigits_inj (width : ℕ) : ∀ m n : ℕ, m < 16 ^ width → n < 16 ^ width →
    hexDigits m width = hexDigits n width → m = n := by
  induction width with
  | zero =>
    intro m n hm hn _
    omega
  | succ width ih =>
    intro m n hm hn h
    rw [Nat.pow_succ] at hm hn
    obtain ⟨hhigh, hlow⟩ := List.append_inj' h rfl
    have hdiv : m / 16 = n / 16 := ih _ _ (by omega) (by omega) hhigh
    have hmod : m % 16 = n % 16 :=
      hexDigit_injective _ (by omega) _ (by omega) (List.singleton_inj.mp hlow)
    omega

theorem length_hexDigits (width : ℕ) : ∀ n : ℕ, (hexDigits n width).length = width := by
  induction width with
  | zero => exact fun _ ↦ rfl
  | succ width ih =>
    intro n
    rw [hexDigits, List.length_append, ih, List.length_singleton]

/-- The escapes of two characters: a character and the letter that stands for it. -/
def shortEscapes : List (Char × Char) :=
  [('"', '"'), ('\\', '\\'), ('\n', 'n'), ('\r', 'r'), ('\t', 't'), (Char.ofNat 12, 'f'),
    (Char.ofNat 8, 'b')]

/-- The four forms of an escaped character. -/
theorem escapeChar_cases (c : Char) :
    (escapeChar c = [c] ∧ c ≠ '"' ∧ c ≠ '\\' ∧ 32 ≤ c.toNat) ∨
    (∃ letter, (c, letter) ∈ shortEscapes ∧ escapeChar c = ['\\', letter]) ∨
    (c.toNat < 0x10000 ∧ escapeChar c = '\\' :: 'u' :: hexDigits c.toNat 4) ∨
    (0x10000 ≤ c.toNat ∧
      escapeChar c = '\\' :: 'u' :: (hexDigits (0xd800 + (c.toNat - 0x10000) / 0x400) 4 ++
        '\\' :: 'u' :: hexDigits (0xdc00 + (c.toNat - 0x10000) % 0x400) 4)) := by
  rw [escapeChar]
  by_cases hquote : c = '"'
  · rw [if_pos hquote]
    exact Or.inr (Or.inl ⟨'"', by simp [shortEscapes, hquote], rfl⟩)
  rw [if_neg hquote]
  by_cases hslash : c = '\\'
  · rw [if_pos hslash]
    exact Or.inr (Or.inl ⟨'\\', by simp [shortEscapes, hslash], rfl⟩)
  rw [if_neg hslash]
  by_cases hn : c = '\n'
  · rw [if_pos hn]
    exact Or.inr (Or.inl ⟨'n', by simp [shortEscapes, hn], rfl⟩)
  rw [if_neg hn]
  by_cases hr : c = '\r'
  · rw [if_pos hr]
    exact Or.inr (Or.inl ⟨'r', by simp [shortEscapes, hr], rfl⟩)
  rw [if_neg hr]
  by_cases ht : c = '\t'
  · rw [if_pos ht]
    exact Or.inr (Or.inl ⟨'t', by simp [shortEscapes, ht], rfl⟩)
  rw [if_neg ht]
  by_cases hf : c.toNat = 12
  · have hc : c = Char.ofNat 12 := Char.toNat_inj.mp hf
    rw [if_pos hf]
    exact Or.inr (Or.inl ⟨'f', by simp [shortEscapes, hc], rfl⟩)
  rw [if_neg hf]
  by_cases hb : c.toNat = 8
  · have hc : c = Char.ofNat 8 := Char.toNat_inj.mp hb
    rw [if_pos hb]
    exact Or.inr (Or.inl ⟨'b', by simp [shortEscapes, hc], rfl⟩)
  rw [if_neg hb]
  by_cases hplain : 32 ≤ c.toNat ∧ c.toNat ≤ 126
  · rw [if_pos hplain]
    exact Or.inl ⟨rfl, hquote, hslash, hplain.1⟩
  rw [if_neg hplain]
  by_cases hbmp : c.toNat < 0x10000
  · rw [if_pos hbmp]
    exact Or.inr (Or.inr (Or.inl ⟨hbmp, rfl⟩))
  · rw [if_neg hbmp]
    exact Or.inr (Or.inr (Or.inr ⟨Nat.le_of_not_lt hbmp, rfl⟩))

theorem shortEscapes_letter : ∀ first ∈ shortEscapes, first.2 ≠ 'u' ∧
    ∀ second ∈ shortEscapes, first.2 = second.2 → first.1 = second.1 := by
  decide

/-- A character is no half of a surrogate pair. -/
theorem toNat_not_surrogate (c : Char) : c.toNat < 0xd800 ∨ 0xdfff < c.toNat ∧ c.toNat < 0x110000 :=
  c.valid

/-- An escaped character can be cut off the beginning of a text in one way. -/
theorem escapeChar_append_inj {c d : Char} {s t : List Char}
    (h : escapeChar c ++ s = escapeChar d ++ t) : c = d ∧ s = t := by
  have hcvalid := toNat_not_surrogate c
  have hdvalid := toNat_not_surrogate d
  rcases escapeChar_cases c with ⟨hc, -, hcs, -⟩ | ⟨l, hl, hc⟩ | ⟨hcn, hc⟩ | ⟨hcn, hc⟩ <;>
    rcases escapeChar_cases d with ⟨hd, -, hds, -⟩ | ⟨k, hk, hd⟩ | ⟨hdn, hd⟩ | ⟨hdn, hd⟩ <;>
    rw [hc, hd] at h <;>
    simp only [List.cons_append, List.nil_append, List.cons.injEq, true_and] at h
  · exact h
  · exact absurd h.1 hcs
  · exact absurd h.1 hcs
  · exact absurd h.1 hcs
  · exact absurd h.1.symm hds
  · exact ⟨(shortEscapes_letter _ hl).2 _ hk h.1, h.2⟩
  · exact absurd h.1 (shortEscapes_letter _ hl).1
  · exact absurd h.1 (shortEscapes_letter _ hl).1
  · exact absurd h.1.symm hds
  · exact absurd h.1.symm (shortEscapes_letter _ hk).1
  · obtain ⟨hhex, hst⟩ := List.append_inj h (by simp only [length_hexDigits])
    exact ⟨Char.toNat_inj.mp (hexDigits_inj 4 _ _ (by omega) (by omega) hhex), hst⟩
  · rw [List.append_assoc] at h
    have hhex := (List.append_inj h (by simp only [length_hexDigits])).1
    have hcode := hexDigits_inj 4 _ _ (by omega) (by omega) hhex
    omega
  · exact absurd h.1.symm hds
  · exact absurd h.1.symm (shortEscapes_letter _ hk).1
  · rw [List.append_assoc] at h
    have hhex := (List.append_inj h (by simp only [length_hexDigits])).1
    have hcode := hexDigits_inj 4 _ _ (by omega) (by omega) hhex
    omega
  · rw [List.append_assoc, List.append_assoc] at h
    obtain ⟨hhigh, hrest⟩ := List.append_inj h (by simp only [length_hexDigits])
    simp only [List.cons_append, List.cons.injEq, true_and] at hrest
    obtain ⟨hlow, hst⟩ := List.append_inj hrest (by simp only [length_hexDigits])
    have hhigh' := hexDigits_inj 4 _ _ (by omega) (by omega) hhigh
    have hlow' := hexDigits_inj 4 _ _ (by omega) (by omega) hlow
    exact ⟨Char.toNat_inj.mp (by omega), hst⟩

/-- An escaped character does not begin with the closing quote. -/
theorem head_escapeChar (c : Char) (rest : List Char) :
    ∃ d tail, escapeChar c ++ rest = d :: tail ∧ d ≠ '"' := by
  rcases escapeChar_cases c with ⟨hc, hquote, -⟩ | ⟨l, -, hc⟩ | ⟨-, hc⟩ | ⟨-, hc⟩ <;> rw [hc]
  · exact ⟨c, rest, rfl, hquote⟩
  · exact ⟨'\\', _, rfl, by decide⟩
  · exact ⟨'\\', _, rfl, by decide⟩
  · exact ⟨'\\', _, rfl, by decide⟩

/-- A string literal ends at its closing quote. -/
theorem printChars_append_inj (a : List Char) : ∀ (b s t : List Char),
    printChars a ++ s = printChars b ++ t → a = b ∧ s = t := by
  induction a with
  | nil =>
    intro b s t h
    cases b with
    | nil => exact ⟨rfl, List.append_cancel_left h⟩
    | cons d rest =>
      rw [printChars, printChars, List.append_assoc] at h
      obtain ⟨e, tail, htail, hquote⟩ := head_escapeChar d (printChars rest ++ t)
      rw [htail, List.cons_append, List.cons.injEq] at h
      exact absurd h.1.symm hquote
  | cons c a ih =>
    intro b s t h
    cases b with
    | nil =>
      rw [printChars, printChars, List.append_assoc] at h
      obtain ⟨e, tail, htail, hquote⟩ := head_escapeChar c (printChars a ++ s)
      rw [htail, List.cons_append, List.cons.injEq] at h
      exact absurd h.1 hquote
    | cons d b =>
      rw [printChars, printChars, List.append_assoc, List.append_assoc] at h
      obtain ⟨rfl, hrest⟩ := escapeChar_append_inj h
      obtain ⟨rfl, hst⟩ := ih b s t hrest
      exact ⟨rfl, hst⟩

/-! ### Values -/

theorem print_of_isAtom {v : Json} (h : isAtom v = true) : print v = atomText v := by
  cases v with
  | str value => simp [isAtom] at h
  | arr items => simp [isAtom] at h
  | obj fields => simp [isAtom] at h
  | _ => rfl

/-- A value that is no atom opens with its own character. -/
theorem print_opening {v : Json} (h : isAtom v = false) (rest : List Char) :
    ∃ c tail, print v ++ rest = c :: tail ∧ isAtomChar c = false := by
  cases v with
  | str value => exact ⟨'"', _, rfl, by decide⟩
  | arr items =>
    cases items with
    | nil => exact ⟨'[', _, rfl, by decide⟩
    | cons item items => exact ⟨'[', _, rfl, by decide⟩
  | obj fields =>
    cases fields with
    | nil => exact ⟨'{', _, rfl, by decide⟩
    | cons field fields => exact ⟨'{', _, rfl, by decide⟩
  | _ => simp [isAtom] at h

/-- The text of an atom opens with one of its characters. -/
theorem atomText_ne_opening {v : Json} (h : isAtom v = true) {c : Char}
    (hc : isAtomChar c = false) (s t : List Char) : atomText v ++ s ≠ c :: t := by
  intro heq
  obtain ⟨d, rest, hd⟩ := List.exists_cons_of_ne_nil (atomText_ne_nil h)
  rw [hd, List.cons_append, List.cons.injEq] at heq
  have hchar := isAtomChar_atomText v (c := d) (by rw [hd]; exact List.mem_cons_self)
  rw [heq.1, hc] at hchar
  exact absurd hchar (by decide)

/-- No value opens with the closing bracket of a list. -/
theorem print_ne_closing (v : Json) (s t : List Char) : print v ++ s ≠ ']' :: t := by
  intro h
  cases hv : isAtom v with
  | true =>
    rw [print_of_isAtom hv] at h
    exact atomText_ne_opening hv (by decide) s t h
  | false =>
    cases v with
    | arr items => cases items <;> simp [print] at h
    | obj fields => cases fields <;> simp [print] at h
    | str value => simp [print] at h
    | _ => simp [isAtom] at hv

theorem print_atom_append_inj {v w : Json} (hv : isAtom v = true) {s t : List Char}
    (hs : Delimited s) (ht : Delimited t) (h : print v ++ s = print w ++ t) : v = w ∧ s = t := by
  rw [print_of_isAtom hv] at h
  cases hw : isAtom w with
  | false =>
    obtain ⟨c, tail, htail, hc⟩ := print_opening hw t
    rw [htail] at h
    exact absurd h (atomText_ne_opening hv hc s tail)
  | true =>
    rw [print_of_isAtom hw] at h
    obtain ⟨htext, hst⟩ := run_append_inj (fun _ ↦ isAtomChar_atomText v)
      (fun _ ↦ isAtomChar_atomText w) hs ht h
    exact ⟨atomText_inj hv hw htext, hst⟩

theorem delimited_printItems (items : List Json) (s : List Char) :
    Delimited (printItems items ++ s) := by
  cases items with
  | nil => exact delimited_cons (by decide) _
  | cons item rest => exact delimited_cons (by decide) _

theorem delimited_printFields (fields : Fields) (s : List Char) :
    Delimited (printFields fields ++ s) := by
  cases fields with
  | nil => exact delimited_cons (by decide) _
  | cons field rest => exact delimited_cons (by decide) _

mutual

/-- A value followed by no character of an atom can be cut off the beginning of a text in one
way. -/
theorem print_append_inj (v : Json) : ∀ (w : Json) (s t : List Char), Delimited s → Delimited t →
    print v ++ s = print w ++ t → v = w ∧ s = t := by
  intro w s t hs ht h
  cases hw : isAtom w with
  | true =>
    obtain ⟨hvw, hst⟩ := print_atom_append_inj hw ht hs h.symm
    exact ⟨hvw.symm, hst.symm⟩
  | false =>
    match v with
    | .str a =>
      cases w with
      | str b =>
        simp only [print, List.cons_append, List.cons.injEq, true_and] at h
        obtain ⟨hab, hst⟩ := printChars_append_inj _ _ _ _ h
        exact ⟨congrArg str (String.toList_inj.mp hab), hst⟩
      | arr items => cases items <;> simp [print] at h
      | obj fields => cases fields <;> simp [print] at h
      | _ => simp [isAtom] at hw
    | .arr items =>
      cases w with
      | str b => cases items <;> simp [print] at h
      | arr items' => exact printArr_append_inj items items' s t h
      | obj fields => cases items <;> cases fields <;> simp [print] at h
      | _ => simp [isAtom] at hw
    | .obj fields =>
      cases w with
      | str b => cases fields <;> simp [print] at h
      | arr items => cases fields <;> cases items <;> simp [print] at h
      | obj fields' => exact printObj_append_inj fields fields' s t h
      | _ => simp [isAtom] at hw
    | .null => exact print_atom_append_inj rfl hs ht h
    | .bool value => exact print_atom_append_inj rfl hs ht h
    | .int value => exact print_atom_append_inj rfl hs ht h
    | .float value => exact print_atom_append_inj rfl hs ht h
    | .special value => exact print_atom_append_inj rfl hs ht h

theorem printArr_append_inj (items : List Json) : ∀ (items' : List Json) (s t : List Char),
    print (arr items) ++ s = print (arr items') ++ t → arr items = arr items' ∧ s = t := by
  intro items' s t h
  match items, items' with
  | [], [] =>
    simp only [print, List.cons_append, List.nil_append, List.cons.injEq, true_and] at h
    exact ⟨rfl, h⟩
  | [], item :: rest =>
    simp only [print, List.cons_append, List.nil_append, List.cons.injEq, true_and,
      List.append_assoc] at h
    exact absurd h.symm (print_ne_closing item _ _)
  | item :: rest, [] =>
    simp only [print, List.cons_append, List.nil_append, List.cons.injEq, true_and,
      List.append_assoc] at h
    exact absurd h (print_ne_closing item _ _)
  | item :: rest, item' :: rest' =>
    simp only [print, List.cons_append, List.cons.injEq, true_and, List.append_assoc] at h
    obtain ⟨rfl, htail⟩ := print_append_inj item item' _ _ (delimited_printItems rest s)
      (delimited_printItems rest' t) h
    obtain ⟨rfl, hst⟩ := printItems_append_inj rest rest' s t htail
    exact ⟨rfl, hst⟩

theorem printItems_append_inj (items : List Json) : ∀ (items' : List Json) (s t : List Char),
    printItems items ++ s = printItems items' ++ t → items = items' ∧ s = t := by
  intro items' s t h
  match items, items' with
  | [], [] =>
    simp only [printItems, List.cons_append, List.nil_append, List.cons.injEq, true_and] at h
    exact ⟨rfl, h⟩
  | [], item :: rest => simp [printItems] at h
  | item :: rest, [] => simp [printItems] at h
  | item :: rest, item' :: rest' =>
    simp only [printItems, List.cons_append, List.cons.injEq, true_and, List.append_assoc] at h
    obtain ⟨rfl, htail⟩ := print_append_inj item item' _ _ (delimited_printItems rest s)
      (delimited_printItems rest' t) h
    obtain ⟨rfl, hst⟩ := printItems_append_inj rest rest' s t htail
    exact ⟨rfl, hst⟩

theorem printObj_append_inj (fields : Fields) : ∀ (fields' : Fields) (s t : List Char),
    print (obj fields) ++ s = print (obj fields') ++ t → obj fields = obj fields' ∧ s = t := by
  intro fields' s t h
  match fields, fields' with
  | [], [] =>
    simp only [print, List.cons_append, List.nil_append, List.cons.injEq, true_and] at h
    exact ⟨rfl, h⟩
  | [], (key, value) :: rest => simp [print] at h
  | (key, value) :: rest, [] => simp [print] at h
  | (key, value) :: rest, (key', value') :: rest' =>
    simp only [print, List.cons_append, List.cons.injEq, true_and, List.append_assoc] at h
    obtain ⟨hkey, hvalue⟩ := printChars_append_inj _ _ _ _ h
    rw [List.cons.injEq] at hvalue
    obtain ⟨rfl, htail⟩ := print_append_inj value value' _ _ (delimited_printFields rest s)
      (delimited_printFields rest' t) hvalue.2
    obtain ⟨rfl, hst⟩ := printFields_append_inj rest rest' s t htail
    exact ⟨by rw [String.toList_inj.mp hkey], hst⟩

theorem printFields_append_inj (fields : Fields) : ∀ (fields' : Fields) (s t : List Char),
    printFields fields ++ s = printFields fields' ++ t → fields = fields' ∧ s = t := by
  intro fields' s t h
  match fields, fields' with
  | [], [] =>
    simp only [printFields, List.cons_append, List.nil_append, List.cons.injEq, true_and] at h
    exact ⟨rfl, h⟩
  | [], (key, value) :: rest => simp [printFields] at h
  | (key, value) :: rest, [] => simp [printFields] at h
  | (key, value) :: rest, (key', value') :: rest' =>
    simp only [printFields, List.cons_append, List.cons.injEq, true_and, List.append_assoc] at h
    obtain ⟨hkey, hvalue⟩ := printChars_append_inj _ _ _ _ h
    rw [List.cons.injEq] at hvalue
    obtain ⟨rfl, htail⟩ := print_append_inj value value' _ _ (delimited_printFields rest s)
      (delimited_printFields rest' t) hvalue.2
    obtain ⟨rfl, hst⟩ := printFields_append_inj rest rest' s t htail
    exact ⟨by rw [String.toList_inj.mp hkey], hst⟩

end

/-- Distinct values have distinct texts. -/
theorem print_inj {v w : Json} (h : print v = print w) : v = w := by
  have hdelimited : Delimited [] := fun _ hc ↦ absurd hc (by simp)
  exact (print_append_inj v w [] [] hdelimited hdelimited (by rw [h])).1

/-- Equal texts come from values that are equal up to the order of their fields. -/
theorem dumps_inj {v w : Json} (h : dumps v = dumps w) : canon v = canon w :=
  print_inj (String.ofList_injective h)

/-! ### Fields of equal texts -/

theorem get?_orderedInsert (key name : String) (value : Json) (fields : Fields) :
    get? (fields.orderedInsert (fun a b ↦ a.1 ≤ b.1) (name, value)) key =
      if key = name then some value else get? fields key := by
  induction fields with
  | nil => rw [List.orderedInsert_nil, get?_cons]
  | cons field rest ih =>
    obtain ⟨other, otherValue⟩ := field
    rw [List.orderedInsert_cons]
    by_cases hle : name ≤ other
    · rw [if_pos hle, get?_cons]
    · have hne : name ≠ other := fun h ↦ hle (h ▸ le_refl name)
      rw [if_neg hle, get?_cons, get?_cons, ih]
      by_cases hkey : key = other
      · rw [if_pos hkey, if_pos hkey, if_neg (fun h : key = name ↦ hne (h.symm.trans hkey))]
      · rw [if_neg hkey, if_neg hkey]

/-- Sorting the fields by name changes no field. -/
@[simp] theorem get?_sortFields (fields : Fields) (key : String) :
    get? (sortFields fields) key = get? fields key := by
  induction fields with
  | nil => rfl
  | cons field rest ih =>
    obtain ⟨name, value⟩ := field
    rw [sortFields, List.insertionSort_cons, get?_orderedInsert, get?_cons]
    rw [sortFields] at ih
    rw [ih]

theorem get?_canonFields (fields : Fields) (key : String) :
    get? (canonFields fields) key = (get? fields key).map canon := by
  induction fields with
  | nil => rfl
  | cons field rest ih =>
    obtain ⟨name, value⟩ := field
    rw [canonFields, get?_cons, get?_cons, ih]
    split_ifs <;> rfl

/-- Dictionaries that are equal up to the order of fields agree in every field. -/
theorem get?_of_canon_eq {fields fields' : Fields} (h : canon (obj fields) = canon (obj fields'))
    (key : String) : (get? fields key).map canon = (get? fields' key).map canon := by
  rw [canon, canon, Json.obj.injEq] at h
  have hget := congrArg (fun sorted ↦ get? sorted key) h
  simp only [get?_sortFields, get?_canonFields] at hget
  exact hget

/-- Dictionaries with equal texts agree in every field, up to the order of the fields below. -/
theorem get?_of_dumps_eq {fields fields' : Fields} (h : dumps (obj fields) = dumps (obj fields'))
    (key : String) : (get? fields key).map canon = (get? fields' key).map canon :=
  get?_of_canon_eq (dumps_inj h) key

/-! ### Sorting twice -/

theorem canonItems_eq_map (items : List Json) : canonItems items = items.map canon := by
  induction items with
  | nil => rw [canonItems, List.map_nil]
  | cons item rest ih => rw [canonItems, ih, List.map_cons]

theorem canonFields_eq_map (fields : Fields) :
    canonFields fields = fields.map fun field ↦ (field.1, canon field.2) := by
  induction fields with
  | nil => rw [canonFields, List.map_nil]
  | cons field rest ih =>
    obtain ⟨key, value⟩ := field
    rw [canonFields, ih, List.map_cons]

theorem canonFields_sortFields (fields : Fields) :
    canonFields (sortFields fields) = sortFields (canonFields fields) := by
  rw [canonFields_eq_map, canonFields_eq_map, sortFields, sortFields]
  exact List.map_insertionSort _ _ _ _ fun _ _ _ _ ↦ Iff.rfl

theorem sortFields_sortFields (fields : Fields) :
    sortFields (sortFields fields) = sortFields fields := by
  have htotal : Std.Total fun a b : String × Json ↦ a.1 ≤ b.1 := ⟨fun a b ↦ le_total a.1 b.1⟩
  have htrans : IsTrans (String × Json) fun a b ↦ a.1 ≤ b.1 := ⟨fun _ _ _ ↦ le_trans⟩
  exact List.Pairwise.insertionSort_eq (List.pairwise_insertionSort _ fields)

mutual

/-- A value that is sorted stays as it is. -/
theorem canon_canon (v : Json) : canon (canon v) = canon v := by
  cases v with
  | arr items => rw [canon, canon, canonItems_canonItems items]
  | obj fields =>
    rw [canon, canon, canonFields_sortFields, canonFields_canonFields fields, sortFields_sortFields]
  | _ => rfl

theorem canonItems_canonItems (items : List Json) :
    canonItems (canonItems items) = canonItems items := by
  cases items with
  | nil => rfl
  | cons item rest => rw [canonItems, canonItems, canon_canon item, canonItems_canonItems rest]

theorem canonFields_canonFields (fields : List (String × Json)) :
    canonFields (canonFields fields) = canonFields fields := by
  match fields with
  | [] => rfl
  | (key, value) :: rest =>
    rw [canonFields, canonFields, canon_canon value, canonFields_canonFields rest]

end

end SchemaPilot.Library.Json
