import SchemaPilot.Library.JsonRoundTrip
import SchemaPilot.Library.Substitution

/-!
# String literals in JSON texts

A JSON text goes in and out of its string literals (`Lexing`). What `json.loads` reads begins and ends
outside of them, and outside of them stand blanks, punctuation and the characters of numbers and constants
only (`run_of_loads`).
-/

namespace SchemaPilot.Library.Json

-- as in `Text`
scoped instance (priority := 2000) decidableForallMem {p : Char → Prop} [DecidablePred p]
    (chars : List Char) : Decidable (∀ c ∈ chars, p c) := List.decidableBAll p chars

inductive Lexing where
  /-- Between string literals. -/
  | outside
  /-- In a string literal. -/
  | inside
  /-- After a backslash in a string literal. -/
  | escaped
deriving DecidableEq

/-- A character that stands between string literals. -/
def isOutsideChar (c : Char) : Bool :=
  isBlank c || c.isDigit || "[]{},:+-.eEtruefalsenullNaNInfinity".toList.elem c

namespace Lexing

/-- What a character leads to, none where it cannot stand. -/
def step : Lexing → Char → Option Lexing
  | outside, c => if c = '"' then some inside else if isOutsideChar c then some outside else none
  | inside, c => if c = '"' then some outside else if c = '\\' then some escaped else some inside
  | escaped, _ => some inside

def run (state : Lexing) (chars : List Char) : Option Lexing := chars.foldlM step state

@[simp] theorem run_nil (state : Lexing) : state.run [] = some state := rfl

theorem run_cons (state : Lexing) (c : Char) (rest : List Char) :
    state.run (c :: rest) = (state.step c).bind fun next ↦ next.run rest := List.foldlM_cons

theorem run_append (state : Lexing) (first second : List Char) :
    state.run (first ++ second) = (state.run first).bind fun next ↦ next.run second :=
  List.foldlM_append

theorem run_outside {chars : List Char} (h : ∀ c ∈ chars, isOutsideChar c = true) :
    outside.run chars = some outside := by
  induction chars with
  | nil => rfl
  | cons c rest ih =>
    rw [List.forall_mem_cons] at h
    have hquote : c ≠ '"' := by
      rintro rfl
      exact absurd h.1 (by decide)
    rw [run_cons, step, if_neg hquote, if_pos h.1, Option.bind_some, ih h.2]

/-- Without a quote no literal is opened. -/
theorem eq_outside_of_run {chars : List Char} {state : Lexing} (hquote : ∀ c ∈ chars, c ≠ '"')
    (h : outside.run chars = some state) : state = outside := by
  induction chars with
  | nil => exact (Option.some.inj h).symm
  | cons c rest ih =>
    rw [List.forall_mem_cons] at hquote
    rw [run_cons, step, if_neg hquote.1] at h
    obtain ⟨next, hnext, h⟩ := Option.bind_eq_some_iff.mp h
    split_ifs at hnext
    cases hnext
    exact ih hquote.2 h

theorem run_inside {chars : List Char} (h : ∀ c ∈ chars, c ≠ '"' ∧ c ≠ '\\') :
    inside.run chars = some inside := by
  induction chars with
  | nil => rfl
  | cons c rest ih =>
    rw [List.forall_mem_cons] at h
    rw [run_cons, step, if_neg h.1.1, if_neg h.1.2, Option.bind_some, ih h.2]

/-- Without a quote no literal is closed. -/
theorem eq_outside_of_run_eq_outside {state : Lexing} {chars : List Char}
    (hplain : ∀ c ∈ chars, c ≠ '"' ∧ c ≠ '\\') (h : state.run chars = some outside) :
    state = outside := by
  cases state with
  | outside => rfl
  | inside =>
    rw [run_inside hplain] at h
    cases h
  | escaped =>
    cases chars with
    | nil => cases h
    | cons c rest =>
      rw [run_cons, step, Option.bind_some, run_inside fun d hd ↦ hplain d (List.mem_cons_of_mem _ hd)]
        at h
      cases h

end Lexing

/-- The text that goes on with `after` leads from one state to another before that. -/
def Passes (first last : Lexing) (chars after : List Char) : Prop :=
  ∃ read, chars = read ++ after ∧ first.run read = some last

theorem Passes.trans {first next last : Lexing} {chars rest after : List Char}
    (h : Passes first next chars rest) (hrest : Passes next last rest after) :
    Passes first last chars after := by
  obtain ⟨read, rfl, hread⟩ := h
  obtain ⟨more, rfl, hmore⟩ := hrest
  refine ⟨read ++ more, (List.append_assoc _ _ _).symm, ?_⟩
  rw [Lexing.run_append, hread, Option.bind_some, hmore]

theorem passes_cons {first next : Lexing} {c : Char} (h : first.step c = some next)
    (rest : List Char) : Passes first next (c :: rest) rest :=
  ⟨[c], rfl, by rw [Lexing.run_cons, h, Option.bind_some, Lexing.run_nil]⟩

theorem passes_skipBlanks (chars : List Char) : Passes .outside .outside chars (skipBlanks chars) := by
  refine ⟨chars.takeWhile isBlank, List.takeWhile_append_dropWhile.symm,
    Lexing.run_outside fun c hc ↦ ?_⟩
  rw [isOutsideChar, List.mem_takeWhile_imp hc]
  rfl

theorem passes_expect {next : Lexing} {c : Char} (hc : Lexing.outside.step c = some next)
    {chars rest : List Char} (h : expect c chars = some rest) : Passes .outside next chars rest := by
  rw [expect] at h
  have hblanks := passes_skipBlanks chars
  cases hskip : skipBlanks chars with
  | nil =>
    rw [hskip] at h
    cases h
  | cons d tail =>
    rw [hskip] at h hblanks
    dsimp only at h
    split_ifs at h with hd
    cases h
    exact hblanks.trans (passes_cons (hd ▸ hc) _)

theorem isOutsideChar_of_isDigit {c : Char} (h : c.isDigit = true) : isOutsideChar c = true := by
  rw [isOutsideChar, h, Bool.or_true, Bool.true_or]

theorem isDigit_of_isDigits {chars : List Char} (h : isDigits chars = true) :
    ∀ c ∈ chars, c.isDigit = true := by
  rw [isDigits, Bool.and_eq_true, List.all_eq_true] at h
  exact h.2

theorem isDigit_of_isWhole {chars : List Char} (h : isWhole chars = true) :
    ∀ c ∈ chars, c.isDigit = true := by
  rw [isWhole, Bool.and_eq_true] at h
  exact isDigit_of_isDigits h.1

/-- A sign, or another character that may come first, and outside characters. -/
theorem outside_of_tail {chars : List Char} {p : Char → Prop} (hhead : ∀ c ∈ chars.head?, p c)
    (hp : ∀ c, p c → isOutsideChar c = true) (htail : ∀ c ∈ chars.tail, c.isDigit = true) :
    ∀ c ∈ chars, isOutsideChar c = true := by
  cases chars with
  | nil => exact fun _ hc ↦ absurd hc List.not_mem_nil
  | cons d rest =>
    exact List.forall_mem_cons.mpr ⟨hp d (hhead d rfl), fun c hc ↦ isOutsideChar_of_isDigit (htail c hc)⟩

theorem outside_of_intLiteral {chars : List Char} {value : ℤ} (h : intLiteral? chars = some value) :
    ∀ c ∈ chars, isOutsideChar c = true := by
  have hdigits : ∀ {chars : List Char} {n : ℕ}, natLiteral? chars = some n →
      ∀ c ∈ chars, c.isDigit = true := by
    intro chars n h
    rw [natLiteral?, Option.ite_none_right_eq_some] at h
    exact isDigit_of_isWhole h.1.1
  rw [intLiteral?] at h
  split_ifs at h with hminus
  · obtain ⟨n, hn, -⟩ := Option.map_eq_some_iff.mp h
    refine outside_of_tail (p := (· = '-')) (fun c hc ↦ ?_) (by rintro _ rfl; decide) (hdigits hn)
    rw [hminus, Option.mem_some_iff] at hc
    exact hc.symm
  · obtain ⟨n, hn, -⟩ := Option.map_eq_some_iff.mp h
    exact fun c hc ↦ isOutsideChar_of_isDigit (hdigits hn c hc)

theorem outside_of_floatLiteral {chars : List Char} (h : isFloatLiteral chars = true) :
    ∀ c ∈ chars, isOutsideChar c = true := by
  simp only [isFloatLiteral, Bool.and_eq_true, Bool.or_eq_true, decide_eq_true_iff] at h
  obtain ⟨⟨⟨hwhole, hfraction⟩, hexponent⟩, -⟩ := h
  obtain ⟨mantissa, scale, rfl, hmantissa, hscale⟩ :=
    exists_run (fun c ↦ c != 'e' && c != 'E') chars
  rw [takeWhile_append_stop hmantissa hscale] at hwhole hfraction hexponent
  rw [dropWhile_append_stop hmantissa hscale] at hexponent
  obtain ⟨whole, fraction, rfl, hpoint, hfractionHead⟩ := exists_run (· != '.') mantissa
  rw [takeWhile_append_stop hpoint hfractionHead] at hwhole
  rw [dropWhile_append_stop hpoint hfractionHead] at hfraction
  have hwholeOut : ∀ c ∈ whole, isOutsideChar c = true := by
    rcases hwhole with hdigits | ⟨hminus, hdigits⟩
    · exact fun c hc ↦ isOutsideChar_of_isDigit (isDigit_of_isWhole hdigits c hc)
    · refine outside_of_tail (p := (· = '-')) (fun c hc ↦ ?_) (by rintro _ rfl; decide)
        (isDigit_of_isWhole hdigits)
      rw [hminus, Option.mem_some_iff] at hc
      exact hc.symm
  have hfractionOut : ∀ c ∈ fraction, isOutsideChar c = true := by
    rcases hfraction with rfl | hdigits
    · exact fun _ hc ↦ absurd hc List.not_mem_nil
    · refine outside_of_tail (p := (· = '.')) (fun c hc ↦ ?_) (by rintro _ rfl; decide)
        (isDigit_of_isDigits hdigits)
      exact bne_eq_false_iff_eq.mp (hfractionHead c hc)
  have hscaleOut : ∀ c ∈ scale, isOutsideChar c = true := by
    cases scale with
    | nil => exact fun _ hc ↦ absurd hc List.not_mem_nil
    | cons letter exponent =>
      rw [List.tail_cons] at hexponent
      have hletter : isOutsideChar letter = true := by
        have hstop := hscale letter rfl
        rw [Bool.and_eq_false_iff, bne_eq_false_iff_eq, bne_eq_false_iff_eq] at hstop
        rcases hstop with rfl | rfl <;> decide
      refine List.forall_mem_cons.mpr ⟨hletter, ?_⟩
      rcases hexponent with hsame | hdigits
      · exact absurd (List.append_right_eq_self.mp hsame.symm) (List.cons_ne_nil letter exponent)
      · split_ifs at hdigits with hsign
        · refine outside_of_tail (p := fun c ↦ c = '+' ∨ c = '-') (fun c hc ↦ ?_)
            (by rintro _ (rfl | rfl) <;> decide) (isDigit_of_isDigits hdigits)
          rcases hsign with hsign | hsign
          · rw [hsign, Option.mem_some_iff] at hc
            exact Or.inl hc.symm
          · rw [hsign, Option.mem_some_iff] at hc
            exact Or.inr hc.symm
        · exact fun c hc ↦ isOutsideChar_of_isDigit (isDigit_of_isDigits hdigits c hc)
  exact List.forall_mem_append.mpr ⟨List.forall_mem_append.mpr ⟨hwholeOut, hfractionOut⟩, hscaleOut⟩

theorem outside_of_readAtom {reader : FloatReader} {chars : List Char} {v : Json}
    (h : readAtom reader chars = some v) : ∀ c ∈ chars, isOutsideChar c = true := by
  unfold readAtom at h
  cases hconst : constants.find? fun value ↦ atomText value = chars with
  | some value =>
    have hall : ∀ value ∈ constants, ∀ c ∈ atomText value, isOutsideChar c = true := by decide
    have htext := List.find?_some hconst
    rw [decide_eq_true_iff] at htext
    rw [← htext]
    exact hall value (List.mem_of_find?_eq_some hconst)
  | none =>
    rw [hconst] at h
    cases hint : intLiteral? chars with
    | some value => exact outside_of_intLiteral hint
    | none =>
      simp only [hint, Option.ite_none_right_eq_some] at h
      exact outside_of_floatLiteral h.1

theorem hexRun?_isSome {chars : List Char} : ∀ {n m : ℕ},
    chars.foldlM (fun n c ↦ (hexValue? c).map (16 * n + ·)) n = some m →
      ∀ c ∈ chars, c ≠ '"' ∧ c ≠ '\\' := by
  induction chars with
  | nil => exact fun _ _ hc ↦ absurd hc List.not_mem_nil
  | cons c rest ih =>
    intro n m h
    rw [List.foldlM_cons] at h
    obtain ⟨next, hnext, h⟩ := Option.bind_eq_some_iff.mp h
    obtain ⟨digit, hdigit, -⟩ := Option.map_eq_some_iff.mp hnext
    refine List.forall_mem_cons.mpr ⟨⟨?_, ?_⟩, ih h⟩
    · rintro rfl
      cases hdigit
    · rintro rfl
      cases hdigit

theorem passes_hex4 {chars after : List Char} {n : ℕ} (h : hex4? chars = some (n, after)) :
    Passes .inside .inside chars after := by
  rw [hex4?, Option.ite_none_right_eq_some] at h
  obtain ⟨digit, hdigits, heq⟩ := Option.map_eq_some_iff.mp h.2
  cases heq
  exact ⟨chars.take 4, (List.take_append_drop 4 chars).symm,
    Lexing.run_inside (hexRun?_isSome hdigits)⟩

theorem passes_unicodeEscape {chars after : List Char} {c : Char}
    (h : unicodeEscape? chars = some (c, after)) : Passes .inside .inside chars after := by
  rw [unicodeEscape?] at h
  obtain ⟨⟨high, rest⟩, hhigh, h⟩ := Option.bind_eq_some_iff.mp h
  have hpassed := passes_hex4 hhigh
  dsimp only at h
  split_ifs at h with hpair hslash hlone
  · obtain ⟨⟨low, last⟩, hlow, h⟩ := Option.bind_eq_some_iff.mp h
    dsimp only at h
    split_ifs at h
    rw [Option.pure_def, Option.some.injEq, Prod.mk.injEq] at h
    obtain ⟨-, rfl⟩ := h
    have hescape : rest = '\\' :: 'u' :: rest.drop 2 := by
      conv_lhs => rw [← List.take_append_drop 2 rest, hslash]
      rfl
    refine hpassed.trans (Passes.trans ?_ (passes_hex4 hlow))
    rw [hescape, List.drop_succ_cons, List.drop_succ_cons, List.drop_zero]
    have hstart : ∀ tail, Passes .inside .escaped ('\\' :: tail) tail := passes_cons (by decide)
    exact (hstart _).trans (passes_cons rfl _)
  · rw [Option.pure_def, Option.some.injEq, Prod.mk.injEq] at h
    obtain ⟨-, rfl⟩ := h
    exact hpassed

theorem passes_readChar {chars after : List Char} {found : Option Char}
    (h : readChar chars = some (found, after)) :
    Passes .inside (if found = none then .outside else .inside) chars after := by
  cases chars with
  | nil => cases h
  | cons c rest =>
    rw [readChar] at h
    split_ifs at h with hquote hslash hcontrol
    · cases h
      rw [if_pos rfl, hquote]
      exact passes_cons (by decide) _
    · obtain ⟨⟨value, last⟩, hvalue, heq⟩ := Option.map_eq_some_iff.mp h
      cases heq
      rw [if_neg (by simp), hslash]
      have hstart : Passes .inside .escaped ('\\' :: rest) rest := passes_cons (by decide) rest
      refine hstart.trans ?_
      cases rest with
      | nil => cases hvalue
      | cons letter rest =>
        rw [readEscape] at hvalue
        split_ifs at hvalue with hunicode
        · exact (passes_cons rfl _).trans (passes_unicodeEscape hvalue)
        · obtain ⟨escape, -, heq⟩ := Option.map_eq_some_iff.mp hvalue
          cases heq
          exact passes_cons rfl _
    · cases h
      rw [if_neg (by simp)]
      exact passes_cons (by rw [Lexing.step, if_neg hquote, if_neg hslash]) _

theorem passes_parseChars {fuel : ℕ} : ∀ {chars value after : List Char},
    parseChars fuel chars = some (value, after) → Passes .inside .outside chars after := by
  induction fuel with
  | zero => exact fun h ↦ by cases h
  | succ fuel ih =>
    intro chars value after h
    rw [parseChars] at h
    obtain ⟨⟨found, rest⟩, hfound, h⟩ := Option.bind_eq_some_iff.mp h
    have hpassed := passes_readChar hfound
    cases found with
    | none =>
      cases h
      exact hpassed
    | some c =>
      obtain ⟨⟨more, last⟩, hmore, heq⟩ := Option.bind_eq_some_iff.mp h
      cases heq
      exact hpassed.trans (ih hmore)

theorem passes_parseString {chars after : List Char} {value : String}
    (h : parseString chars = some (value, after)) : Passes .inside .outside chars after := by
  obtain ⟨⟨read, last⟩, hread, heq⟩ := Option.map_eq_some_iff.mp h
  cases heq
  exact passes_parseChars hread

variable {reader : FloatReader}

/-- What is read begins and ends between literals. -/
theorem passes_parse : ∀ fuel : ℕ,
    (∀ chars v rest, parseValue reader fuel chars = some (v, rest) →
      Passes .outside .outside chars rest) ∧
      (∀ chars items rest, parseItems reader fuel chars = some (items, rest) →
        Passes .outside .outside chars rest) ∧
      ∀ chars pairs rest, parseFields reader fuel chars = some (pairs, rest) →
        Passes .outside .outside chars rest := by
  intro fuel
  induction fuel with
  | zero =>
    refine ⟨?_, ?_, ?_⟩
    · intro chars v rest h
      rw [parseValue] at h
      cases h
    · intro chars items rest h
      rw [parseItems] at h
      cases h
    · intro chars pairs rest h
      rw [parseFields] at h
      cases h
  | succ fuel ih =>
    obtain ⟨ihvalue, ihitems, ihfields⟩ := ih
    refine ⟨?_, ?_, ?_⟩
    · intro chars v rest h
      have hblanks := passes_skipBlanks chars
      rw [parseValue] at h
      cases hskip : skipBlanks chars with
      | nil =>
        rw [hskip] at h
        cases h
      | cons c tail =>
        rw [hskip] at h hblanks
        dsimp only at h
        split_ifs at h with hquote hlist hdict
        · obtain ⟨⟨value, after⟩, hvalue, heq⟩ := Option.map_eq_some_iff.mp h
          cases heq
          rw [hquote] at hblanks
          exact hblanks.trans ((passes_cons (by decide) _).trans (passes_parseString hvalue))
        · rw [hlist] at hblanks
          have hopen : Passes .outside .outside ('[' :: tail) tail := passes_cons (by decide) tail
          replace hblanks := hblanks.trans hopen
          cases hclose : expect ']' tail with
          | some after =>
            rw [hclose] at h
            cases h
            exact hblanks.trans (passes_expect (by decide) hclose)
          | none =>
            rw [hclose] at h
            obtain ⟨⟨items, after⟩, hitems, heq⟩ := Option.map_eq_some_iff.mp h
            cases heq
            exact hblanks.trans (ihitems _ _ _ hitems)
        · rw [hdict] at hblanks
          have hopen : Passes .outside .outside ('{' :: tail) tail := passes_cons (by decide) tail
          replace hblanks := hblanks.trans hopen
          cases hclose : expect '}' tail with
          | some after =>
            rw [hclose] at h
            cases h
            exact hblanks.trans (passes_expect (by decide) hclose)
          | none =>
            rw [hclose] at h
            obtain ⟨⟨pairs, after⟩, hpairs, heq⟩ := Option.map_eq_some_iff.mp h
            cases heq
            exact hblanks.trans (ihfields _ _ _ hpairs)
        · obtain ⟨value, hvalue, heq⟩ := Option.map_eq_some_iff.mp h
          cases heq
          exact hblanks.trans ⟨(c :: tail).takeWhile isAtomChar,
            List.takeWhile_append_dropWhile.symm, Lexing.run_outside (outside_of_readAtom hvalue)⟩
    · intro chars items rest h
      rw [parseItems] at h
      obtain ⟨⟨item, after⟩, hitem, h⟩ := Option.bind_eq_some_iff.mp h
      have hpassed := ihvalue _ _ _ hitem
      cases hcomma : expect ',' after with
      | some next =>
        simp only [hcomma] at h
        obtain ⟨⟨more, last⟩, hmore, heq⟩ := Option.bind_eq_some_iff.mp h
        cases heq
        exact (hpassed.trans (passes_expect (by decide) hcomma)).trans (ihitems _ _ _ hmore)
      | none =>
        simp only [hcomma] at h
        obtain ⟨last, hclose, heq⟩ := Option.bind_eq_some_iff.mp h
        cases heq
        exact hpassed.trans (passes_expect (by decide) hclose)
    · intro chars pairs rest h
      rw [parseFields] at h
      obtain ⟨opened, hopened, h⟩ := Option.bind_eq_some_iff.mp h
      obtain ⟨⟨key, afterKey⟩, hkey, h⟩ := Option.bind_eq_some_iff.mp h
      obtain ⟨afterColon, hcolon, h⟩ := Option.bind_eq_some_iff.mp h
      obtain ⟨⟨value, after⟩, hvalue, h⟩ := Option.bind_eq_some_iff.mp h
      have hquote : Passes .outside .inside chars opened := passes_expect (by decide) hopened
      have hname : Passes .outside .outside chars afterColon :=
        (hquote.trans (passes_parseString hkey)).trans (passes_expect (by decide) hcolon)
      have hpassed : Passes .outside .outside chars after := hname.trans (ihvalue _ _ _ hvalue)
      cases hcomma : expect ',' after with
      | some next =>
        simp only [hcomma] at h
        obtain ⟨⟨more, last⟩, hmore, heq⟩ := Option.bind_eq_some_iff.mp h
        cases heq
        exact (hpassed.trans (passes_expect (by decide) hcomma)).trans (ihfields _ _ _ hmore)
      | none =>
        simp only [hcomma] at h
        obtain ⟨last, hclose, heq⟩ := Option.bind_eq_some_iff.mp h
        cases heq
        exact hpassed.trans (passes_expect (by decide) hclose)

/-- A text that is read begins and ends between literals. -/
theorem run_of_loads {text : String} {v : Json} (h : loads reader text = some v) :
    Lexing.outside.run text.toList = some .outside := by
  rw [loads] at h
  obtain ⟨⟨value, rest⟩, hvalue, h⟩ := Option.bind_eq_some_iff.mp h
  dsimp only at h
  split_ifs at h with hrest
  obtain ⟨read, htext, hread⟩ :=
    ((passes_parse _).1 _ _ _ hvalue).trans (passes_skipBlanks rest)
  rw [hrest, List.append_nil] at htext
  rw [htext, hread]

end SchemaPilot.Library.Json
