import SchemaPilot.Library.JsonLayout

/-!
# Reading what was written

What `json.dumps` writes of a value that Python holds (`Regular`), in whatever layout, is read back as that
value with its fields sorted (`loads_dumpsIn`), and every value that is read is one that Python holds
(`regular_loads`).
-/

namespace SchemaPilot.Library.Json

variable (reader : FloatReader)

mutual

/-- Numbers have literals that are read back, and no dictionary has a key twice. -/
def Regular : Json → Prop
  | int value => value.natAbs.repr.toList.length ≤ 4300
  | float value =>
    isFloatLiteral value.text.toList = true ∧ reader.read value.text = float value
  | arr items => RegularItems items
  | obj fields => (fields.map Prod.fst).Nodup ∧ RegularFields fields
  | _ => True

def RegularItems : List Json → Prop
  | [] => True
  | item :: rest => Regular item ∧ RegularItems rest

def RegularFields : List (String × Json) → Prop
  | [] => True
  | (_, value) :: rest => Regular value ∧ RegularFields rest

end

mutual

/-- Numbers have literals that are read back; a dictionary may have a key twice. -/
def Legible : Json → Prop
  | int value => value.natAbs.repr.toList.length ≤ 4300
  | float value =>
    isFloatLiteral value.text.toList = true ∧ reader.read value.text = float value
  | arr items => LegibleItems items
  | obj fields => LegibleFields fields
  | _ => True

def LegibleItems : List Json → Prop
  | [] => True
  | item :: rest => Legible item ∧ LegibleItems rest

def LegibleFields : List (String × Json) → Prop
  | [] => True
  | (_, value) :: rest => Legible value ∧ LegibleFields rest

end

mutual

/-- A value as it is read: of a key that comes twice the last value counts. -/
def merged : Json → Json
  | arr items => arr (mergedItems items)
  | obj fields => obj (dictOf (mergedFields fields))
  | value => value

def mergedItems : List Json → List Json
  | [] => []
  | item :: rest => merged item :: mergedItems rest

def mergedFields : List (String × Json) → List (String × Json)
  | [] => []
  | (key, value) :: rest => (key, merged value) :: mergedFields rest

end

variable {reader}

theorem head_toDigits {n : ℕ} (h : 0 < n) : (Nat.toDigits 10 n).head? ≠ some '0' := by
  induction n using Nat.strong_induction_on with
  | _ n ih =>
    by_cases hlt : n < 10
    · have hdigit : ∀ digit < 10, 0 < digit → some (Nat.digitChar digit) ≠ some '0' := by decide
      rw [Nat.toDigits_of_lt_base hlt, List.head?_cons]
      exact hdigit n hlt h
    · have hdiv : n / 10 < n := Nat.div_lt_self h (by decide)
      have hpos : 0 < n / 10 := Nat.div_pos (Nat.le_of_not_lt hlt) (by decide)
      rw [Nat.toDigits_of_base_le (by decide) (Nat.le_of_not_lt hlt), List.head?_append]
      obtain ⟨c, rest, hdigits⟩ := List.exists_cons_of_ne_nil (Nat.toDigits_ne_nil (n := n / 10) (b := 10))
      have hhead := ih (n / 10) hdiv hpos
      rw [hdigits] at hhead ⊢
      exact hhead

/-- The text of a number is read back. -/
theorem natLiteral?_repr {n : ℕ} (h : n.repr.toList.length ≤ 4300) :
    natLiteral? n.repr.toList = some n := by
  have hwhole : isWhole n.repr.toList = true := by
    rw [isWhole, isDigits, Bool.and_eq_true, Bool.and_eq_true, decide_eq_true_iff, List.all_eq_true]
    refine ⟨⟨?_, fun c hc ↦ natRepr_digit hc⟩, ?_⟩
    · rw [Nat.toList_repr]
      exact Nat.toDigits_ne_nil
    · rw [Nat.toList_repr, Bool.or_eq_true, decide_eq_true_iff, decide_eq_true_iff]
      rcases Nat.eq_zero_or_pos n with rfl | hpos
      · exact Or.inr (by decide)
      · exact Or.inl (head_toDigits hpos)
  rw [natLiteral?, if_pos ⟨hwhole, h⟩, Nat.toList_repr, Nat.ofDigitChars_ten_toDigits]

/-- The text of an integer is read back. -/
theorem intLiteral?_repr {value : ℤ} (h : value.natAbs.repr.toList.length ≤ 4300) :
    intLiteral? value.repr.toList = some value := by
  cases value with
  | ofNat n =>
    have hminus : (Int.ofNat n).repr.toList.head? ≠ some '-' := by
      intro hhead
      have hdigit := natRepr_digit (List.mem_of_mem_head? hhead)
      exact absurd hdigit (by decide)
    have htext : natLiteral? (Int.ofNat n).repr.toList = some n := natLiteral?_repr h
    rw [intLiteral?, if_neg hminus, htext]
    rfl
  | negSucc n =>
    have htext : (Int.negSucc n).repr.toList = '-' :: (n + 1).repr.toList := by
      rw [Int.repr, String.toList_append]
      rfl
    have hread : natLiteral? (n + 1).repr.toList = some (n + 1) := natLiteral?_repr h
    rw [intLiteral?, htext, List.head?_cons, if_pos rfl, List.tail_cons, hread]
    rfl

theorem intLiteral?_float (value : FloatText) : intLiteral? value.text.toList = none := by
  have hmark : ∃ c ∈ value.text.toList, c = '.' ∨ c = 'e' := by
    have hvalid := value.valid
    rw [isFloatText, Bool.and_eq_true, List.any_eq_true] at hvalid
    obtain ⟨c, hc, hmark⟩ := hvalid.2
    exact ⟨c, hc, by simpa using hmark⟩
  have hnone : ∀ {chars : List Char}, (∃ c ∈ chars, c = '.' ∨ c = 'e') → natLiteral? chars = none := by
    rintro chars ⟨c, hc, hmark⟩
    rw [natLiteral?, if_neg]
    rintro ⟨hwhole, -⟩
    rw [isWhole, isDigits, Bool.and_eq_true, Bool.and_eq_true, List.all_eq_true] at hwhole
    have hdigit := hwhole.1.2 c hc
    rcases hmark with rfl | rfl
    · exact absurd hdigit (by decide)
    · exact absurd hdigit (by decide)
  rw [intLiteral?]
  split_ifs with hminus
  · rw [hnone, Option.map_none]
    obtain ⟨c, hc, hmark⟩ := hmark
    obtain ⟨rest, hrest⟩ := List.head?_eq_some_iff.mp hminus
    rw [hrest] at hc ⊢
    rcases List.mem_cons.mp hc with rfl | hc
    · exact absurd hmark (by decide)
    · exact ⟨c, hc, hmark⟩
  · rw [hnone hmark, Option.map_none]

theorem readAtom_atomText {v : Json} (hatom : isAtom v = true) (hlegible : Legible reader v) :
    readAtom reader (atomText v) = some v := by
  unfold readAtom
  rcases isAtom_cases hatom with ⟨n, rfl⟩ | ⟨f, rfl⟩ | hconst
  · have hnone : (constants.find? fun value ↦ atomText value = atomText (int n)) = none := by
      rw [List.find?_eq_none]
      intro value hvalue heq
      exact intRepr_ne_constant n value hvalue (of_decide_eq_true heq).symm
    rw [hnone]
    dsimp only
    rw [show atomText (int n) = n.repr.toList from rfl, intLiteral?_repr hlegible]
  · have hnone : (constants.find? fun value ↦ atomText value = atomText (float f)) = none := by
      rw [List.find?_eq_none]
      intro value hvalue heq
      have htext := isFloatText_constant value hvalue
      rw [of_decide_eq_true heq, show atomText (float f) = f.text.toList from rfl, f.valid] at htext
      exact absurd htext (by decide)
    rw [hnone]
    dsimp only
    rw [show atomText (float f) = f.text.toList from rfl, intLiteral?_float]
    dsimp only
    rw [if_pos hlegible.1, String.ofList_toList, hlegible.2]
  · simp only [constants, List.mem_cons, List.not_mem_nil, or_false] at hconst
    rcases hconst with rfl | rfl | rfl | rfl | rfl | rfl <;> rfl

theorem hexValue?_hexDigit : ∀ n < 16, hexValue? (hexDigit n) = some n := by
  decide

/-- Hexadecimal digits are read back. -/
theorem hexRun?_hexDigits (width : ℕ) : ∀ n < 16 ^ width, hexRun? (hexDigits n width) = some n := by
  induction width with
  | zero =>
    intro n hn
    rw [Nat.lt_one_iff.mp hn]
    rfl
  | succ width ih =>
    intro n hn
    have hhigh : n / 16 < 16 ^ width := by
      rw [Nat.pow_succ] at hn
      omega
    have hrest := ih _ hhigh
    unfold hexRun? at hrest ⊢
    rw [hexDigits, List.foldlM_append, hrest]
    change (hexValue? (hexDigit (n % 16))).map (16 * (n / 16) + ·) >>= pure = some n
    rw [hexValue?_hexDigit _ (Nat.mod_lt _ (by decide)), bind_pure, Option.map_some, Nat.div_add_mod]

theorem hex4?_hexDigits {n : ℕ} (h : n < 0x10000) (rest : List Char) :
    hex4? (hexDigits n 4 ++ rest) = some (n, rest) := by
  have hlength := length_hexDigits 4 n
  rw [hex4?, if_pos (by rw [List.length_append]; omega), List.take_append_of_le_length hlength.ge,
    List.take_of_length_le hlength.le, List.drop_append_of_le_length hlength.ge,
    List.drop_of_length_le hlength.le, List.nil_append, hexRun?_hexDigits 4 n h]
  rfl

/-- A character that is no half of a surrogate pair is read back from its escape. -/
theorem unicodeEscape?_low {c : Char} (h : c.toNat < 0x10000) (rest : List Char) :
    unicodeEscape? (hexDigits c.toNat 4 ++ rest) = some (c, rest) := by
  have hvalid := toNat_not_surrogate c
  rw [unicodeEscape?, hex4?_hexDigits h]
  dsimp only [Option.bind_eq_bind, Option.bind_some]
  rw [if_neg (by omega), if_neg (by omega), Char.ofNat_toNat]
  rfl

/-- The two halves of a surrogate pair are put together. -/
theorem unicodeEscape?_pair {high low : ℕ} (hhigh : 0xd800 ≤ high ∧ high < 0xdc00)
    (hlow : 0xdc00 ≤ low ∧ low < 0xe000) (rest : List Char) :
    unicodeEscape? (hexDigits high 4 ++ '\\' :: 'u' :: (hexDigits low 4 ++ rest)) =
      some (Char.ofNat (0x10000 + (high - 0xd800) * 0x400 + (low - 0xdc00)), rest) := by
  have hdrop : ∀ chars : List Char, List.drop 2 ('\\' :: 'u' :: chars) = chars := fun _ ↦ rfl
  have hmark : ∀ chars : List Char, List.take 2 ('\\' :: 'u' :: chars) = ['\\', 'u'] := fun _ ↦ rfl
  rw [unicodeEscape?, hex4?_hexDigits (by omega)]
  simp only [Option.bind_eq_bind, Option.bind_some]
  rw [if_pos hhigh, if_pos (hmark _), hdrop, hex4?_hexDigits (by omega)]
  simp only [Option.bind_some]
  rw [if_pos hlow, Option.pure_def]

/-- A character is read back from its surrogate pair. -/
theorem unicodeEscape?_high {c : Char} (h : 0x10000 ≤ c.toNat) (rest : List Char) :
    unicodeEscape? (hexDigits (0xd800 + (c.toNat - 0x10000) / 0x400) 4 ++
      '\\' :: 'u' :: (hexDigits (0xdc00 + (c.toNat - 0x10000) % 0x400) 4 ++ rest)) =
        some (c, rest) := by
  have hbound := toNat_not_surrogate c
  have hchar : 0x10000 + (0xd800 + (c.toNat - 0x10000) / 0x400 - 0xd800) * 0x400 +
      (0xdc00 + (c.toNat - 0x10000) % 0x400 - 0xdc00) = c.toNat := by omega
  rw [unicodeEscape?_pair (by omega) (by omega), hchar, Char.ofNat_toNat]

/-- A character is read back from what stands for it in a literal. -/
theorem readChar_escapeChar (c : Char) (rest : List Char) :
    readChar (escapeChar c ++ rest) = some (some c, rest) := by
  have hescape : ∀ {value : Char} {tail : List Char}, readEscape tail = some (value, rest) →
      readChar ('\\' :: tail) = some (some value, rest) := by
    intro value tail h
    rw [readChar, if_neg (by decide), if_pos rfl, h]
    rfl
  rcases escapeChar_cases c with ⟨hc, hquote, hslash, hplain⟩ | ⟨letter, hletter, hc⟩ |
    ⟨hlow, hc⟩ | ⟨hhigh, hc⟩
  · rw [hc, List.singleton_append, readChar, if_neg hquote, if_neg hslash, if_neg (by omega)]
  · have hread : ∀ escape ∈ shortEscapes, escape.2 ≠ 'u' ∧
        ((shortEscapes ++ [('/', '/')]).find? fun other ↦ other.2 = escape.2) = some escape := by
      decide
    obtain ⟨hnot, hfind⟩ := hread _ hletter
    rw [hc, List.cons_append, List.cons_append, List.nil_append]
    refine hescape ?_
    rw [readEscape, if_neg hnot, hfind]
    rfl
  · rw [hc, List.cons_append, List.cons_append]
    refine hescape ?_
    rw [readEscape, if_pos rfl, unicodeEscape?_low hlow]
  · rw [hc, List.cons_append, List.cons_append, List.append_assoc]
    refine hescape ?_
    rw [readEscape, if_pos rfl]
    exact unicodeEscape?_high hhigh rest

/-- The characters of a literal are read back. -/
theorem parseChars_printChars (chars rest : List Char) :
    ∀ fuel, chars.length < fuel → parseChars fuel (printChars chars ++ rest) = some (chars, rest) := by
  induction chars with
  | nil =>
    intro fuel hfuel
    obtain ⟨fuel, rfl⟩ := Nat.exists_eq_add_of_lt hfuel
    rfl
  | cons c chars ih =>
    intro fuel hfuel
    cases fuel with
    | zero => exact absurd hfuel (Nat.not_lt_zero _)
    | succ fuel =>
      rw [printChars, List.append_assoc, parseChars, readChar_escapeChar]
      dsimp only [Option.bind_eq_bind, Option.bind_some]
      rw [ih fuel (Nat.lt_of_succ_lt_succ hfuel)]
      rfl

theorem length_le_printChars (chars : List Char) : chars.length < (printChars chars).length := by
  induction chars with
  | nil => exact Nat.zero_lt_one
  | cons c chars ih =>
    have hsome : 0 < (escapeChar c).length := by
      obtain ⟨d, tail, hcons, -⟩ := head_escapeChar c []
      rw [List.append_nil] at hcons
      rw [hcons]
      exact Nat.succ_pos _
    rw [printChars, List.length_append, List.length_cons]
    omega

/-- A string is read back from its literal. -/
theorem parseString_printChars (text : String) (rest : List Char) :
    parseString (printChars text.toList ++ rest) = some (text, rest) := by
  have hfuel := length_le_printChars text.toList
  rw [parseString, parseChars_printChars _ _ _ (by rw [List.length_append]; omega), Option.map_some]
  dsimp only
  rw [String.ofList_toList]

theorem skipBlanks_cons {c : Char} (h : isBlank c = false) (rest : List Char) :
    skipBlanks (c :: rest) = c :: rest := by
  rw [skipBlanks, List.dropWhile_cons_of_neg (by rw [h]; decide)]

theorem expect_self {c : Char} (h : isBlank c = false) (rest : List Char) :
    expect c (c :: rest) = some rest := by
  rw [expect, skipBlanks_cons h]
  exact if_pos rfl

theorem expect_of_ne {c d : Char} (hd : isBlank d = false) (hne : d ≠ c) (rest : List Char) :
    expect c (d :: rest) = none := by
  rw [expect, skipBlanks_cons hd]
  exact if_neg hne

theorem length_renderItems_pos (layout : Layout) (level : ℕ) (items : List Json) :
    0 < (renderItems layout level items).length := by
  cases items with
  | nil =>
    rw [renderItems, List.length_append]
    exact Nat.succ_pos _
  | cons item rest => exact Nat.succ_pos _

theorem length_renderFields_pos (layout : Layout) (level : ℕ) (fields : Fields) :
    0 < (renderFields layout level fields).length := by
  cases fields with
  | nil =>
    rw [renderFields, List.length_append]
    exact Nat.succ_pos _
  | cons field rest => exact Nat.succ_pos _

/-- Setting keys that are new one after another adds them at the end. -/
theorem foldl_set_of_nodup {pairs : List (String × Json)} : ∀ {done : Fields},
    ((done ++ pairs).map Prod.fst).Nodup →
      pairs.foldl (fun fields pair ↦ set fields pair.1 pair.2) done = done ++ pairs := by
  induction pairs with
  | nil => exact fun _ ↦ (List.append_nil _).symm
  | cons pair rest ih =>
    intro done hdone
    have hnew : ¬(done.any fun field ↦ field.1 = pair.1) = true := by
      intro hany
      obtain ⟨field, hfield, heq⟩ := List.any_eq_true.mp hany
      rw [List.map_append, List.map_cons] at hdone
      have hdisjoint := (List.nodup_append.mp hdone).2.2
      exact hdisjoint _ (List.mem_map_of_mem hfield) _ List.mem_cons_self (of_decide_eq_true heq)
    have hset : set done pair.1 pair.2 = done ++ [pair] := if_neg hnew
    rw [List.foldl_cons, hset, ih (by rwa [List.append_assoc]), List.append_assoc]
    rfl

/-- The dictionary of pairs whose keys are distinct is the pairs. -/
theorem dictOf_of_nodup {pairs : List (String × Json)} (h : (pairs.map Prod.fst).Nodup) :
    dictOf pairs = pairs :=
  foldl_set_of_nodup h

/-- An atom is read up to where its text ends. -/
theorem parseValue_atom {v : Json} (hatom : isAtom v = true) (hlegible : Legible reader v)
    {rest : List Char} (hrest : Delimited rest) (fuel : ℕ) :
    parseValue reader (fuel + 1) (atomText v ++ rest) = some (v, rest) := by
  obtain ⟨c, tail, htail⟩ := List.exists_cons_of_ne_nil (atomText_ne_nil hatom)
  have hchars : ∀ d ∈ atomText v, isAtomChar d = true := fun d hd ↦ isAtomChar_atomText v hd
  have hc : isAtomChar c = true := hchars c (by rw [htail]; exact List.mem_cons_self)
  have hne : ∀ {d : Char}, isAtomChar d = false → c ≠ d := by
    rintro d hd rfl
    rw [hc] at hd
    exact absurd hd (by decide)
  have hblank : isBlank c = false := isBlank_of_isAtomChar hc
  have htake : (c :: (tail ++ rest)).takeWhile isAtomChar = atomText v := by
    rw [← List.cons_append, ← htail, List.takeWhile_append_of_pos hchars]
    cases rest with
    | nil => exact List.append_nil _
    | cons d rest =>
      have hd : isAtomChar d = false := hrest d rfl
      rw [List.takeWhile_cons_of_neg (by rw [hd]; decide), List.append_nil]
  have hdrop : (c :: (tail ++ rest)).dropWhile isAtomChar = rest := by
    rw [← List.cons_append, ← htail, List.dropWhile_append_of_pos hchars]
    cases rest with
    | nil => rfl
    | cons d rest =>
      have hd : isAtomChar d = false := hrest d rfl
      rw [List.dropWhile_cons_of_neg (by rw [hd]; decide)]
  rw [htail, List.cons_append, parseValue, skipBlanks_cons hblank]
  dsimp only
  rw [if_neg (hne (by decide)), if_neg (hne (by decide)), if_neg (hne (by decide)), htake, hdrop,
    readAtom_atomText hatom hlegible, Option.map_some]

/-- The field a dictionary goes on with is read, once its value is. -/
theorem parseFields_cons (key : String) {value : Json} {fuel : ℕ} {tail rest : List Char}
    (hvalue : parseValue reader fuel tail = some (value, rest)) :
    parseFields reader (fuel + 1) ('"' :: (printChars key.toList ++ ':' :: tail)) =
      match expect ',' rest with
      | some next => (parseFields reader fuel next).map fun (pairs, last) ↦
          ((key, value) :: pairs, last)
      | none => (expect '}' rest).map fun last ↦ ([(key, value)], last) := by
  rw [parseFields, expect_self (by decide)]
  simp only [Option.bind_eq_bind, Option.bind_some, parseString_printChars]
  rw [expect_self (by decide)]
  simp only [Option.bind_some, hvalue]
  cases expect ',' rest with
  | none =>
    dsimp only
    cases expect '}' rest <;> rfl
  | some next =>
    dsimp only
    cases parseFields reader fuel next <;> rfl

mutual

/-- A value is read back from its text. -/
theorem parseValue_render (layout : Layout) (level : ℕ) (v : Json) (hlegible : Legible reader v)
    {rest : List Char} (hrest : Delimited rest) (fuel : ℕ)
    (hfuel : (render layout level v).length ≤ fuel) :
    parseValue reader (fuel + 1) (render layout level v ++ rest) = some (merged v, rest) := by
  match v with
  | .str value =>
    rw [render, List.cons_append, parseValue, skipBlanks_cons (by decide)]
    dsimp only
    rw [if_pos rfl, parseString_printChars, Option.map_some]
    rfl
  | .arr [] =>
    rw [render, List.cons_append, parseValue, skipBlanks_cons (by decide)]
    dsimp only
    rw [if_neg (by decide), if_pos rfl, List.singleton_append, expect_self (by decide)]
    rfl
  | .arr (item :: items) =>
    rw [render, List.length_cons, List.length_append, List.length_append] at hfuel
    obtain ⟨c, tail, hhead, hblank, hclose, -⟩ :=
      render_head layout (level + 1) item (renderItems layout level items ++ rest)
    have hnone : expect ']' (render layout (level + 1) item ++
        (renderItems layout level items ++ rest)) = none := by
      rw [hhead]
      exact expect_of_ne hblank hclose tail
    have hitems := parseItems_render layout level item items hlegible rest fuel (by omega)
    rw [render, List.cons_append, List.append_assoc, List.append_assoc, parseValue,
      skipBlanks_cons (by decide)]
    dsimp only
    rw [if_neg (by decide), if_pos rfl, expect_blanks, hnone]
    dsimp only
    rw [parseItems_blanks, hitems, Option.map_some]
    rfl
  | .obj [] =>
    rw [render, List.cons_append, parseValue, skipBlanks_cons (by decide)]
    dsimp only
    rw [if_neg (by decide), if_neg (by decide), if_pos rfl, List.singleton_append,
      expect_self (by decide)]
    rfl
  | .obj ((key, value) :: fields) =>
    rw [render, List.length_cons, List.length_append, List.length_cons, List.length_append,
      List.length_cons, List.length_append, List.length_append] at hfuel
    have hfields := parseFields_render layout level key value fields hlegible rest fuel (by omega)
    rw [render, List.cons_append, List.append_assoc, List.cons_append, List.append_assoc,
      List.cons_append, List.append_assoc, List.append_assoc, parseValue, skipBlanks_cons (by decide)]
    dsimp only
    rw [if_neg (by decide), if_neg (by decide), if_pos rfl, expect_blanks,
      expect_of_ne (by decide) (by decide)]
    dsimp only
    rw [parseFields_blanks, hfields, Option.map_some]
    rfl
  | .null => exact parseValue_atom rfl hlegible hrest fuel
  | .bool value => exact parseValue_atom rfl hlegible hrest fuel
  | .int value => exact parseValue_atom rfl hlegible hrest fuel
  | .float value => exact parseValue_atom rfl hlegible hrest fuel
  | .special value => exact parseValue_atom rfl hlegible hrest fuel
termination_by 2 * fuel + 1

/-- The items of a list are read back from its text. -/
theorem parseItems_render (layout : Layout) (level : ℕ) (item : Json) (items : List Json)
    (hlegible : LegibleItems reader (item :: items)) (rest : List Char) (fuel : ℕ)
    (hfuel : (render layout (level + 1) item).length + (renderItems layout level items).length < fuel) :
    parseItems reader fuel (render layout (level + 1) item ++
      (renderItems layout level items ++ rest)) = some (mergedItems (item :: items), rest) := by
  have hpos := length_render_pos layout (level + 1) item
  have hitemsPos := length_renderItems_pos layout level items
  obtain ⟨fuel, rfl⟩ : ∃ fewer, fuel = fewer + 1 + 1 := ⟨fuel - 2, by omega⟩
  have hitem := parseValue_render layout (level + 1) item hlegible.1
    (delimited_renderItems layout level items rest) fuel (by omega)
  rw [parseItems, hitem]
  simp only [Option.bind_eq_bind, Option.bind_some]
  match items with
  | [] =>
    rw [renderItems, List.append_assoc, List.singleton_append, expect_blanks,
      expect_of_ne (by decide) (by decide)]
    dsimp only
    rw [expect_blanks, expect_self (by decide), Option.bind_some, Option.pure_def]
    rfl
  | next :: items =>
    rw [renderItems, List.length_cons, List.length_append, List.length_append] at hfuel
    have hnext := parseItems_render layout level next items hlegible.2 rest (fuel + 1) (by omega)
    rw [renderItems, List.cons_append, List.append_assoc, List.append_assoc, expect_self (by decide)]
    dsimp only
    rw [parseItems_blanks, hnext, Option.bind_some, Option.pure_def]
    rfl
termination_by 2 * fuel

/-- The fields of a dictionary are read back from its text. -/
theorem parseFields_render (layout : Layout) (level : ℕ) (key : String) (value : Json)
    (fields : Fields) (hlegible : LegibleFields reader ((key, value) :: fields)) (rest : List Char)
    (fuel : ℕ) (hfuel : (render layout (level + 1) value).length +
      (renderFields layout level fields).length < fuel) :
    parseFields reader fuel ('"' :: (printChars key.toList ++ ':' :: (layout.colon.1 ++
      (render layout (level + 1) value ++ (renderFields layout level fields ++ rest))))) =
        some (mergedFields ((key, value) :: fields), rest) := by
  have hpos := length_render_pos layout (level + 1) value
  have hfieldsPos := length_renderFields_pos layout level fields
  obtain ⟨fuel, rfl⟩ : ∃ fewer, fuel = fewer + 1 + 1 := ⟨fuel - 2, by omega⟩
  have hvalue := parseValue_render layout (level + 1) value hlegible.1
    (delimited_renderFields layout level fields rest) fuel (by omega)
  rw [← parseValue_blanks reader (fuel + 1) layout.colon] at hvalue
  rw [parseFields_cons key hvalue]
  match fields with
  | [] =>
    rw [renderFields, List.append_assoc, List.singleton_append, expect_blanks,
      expect_of_ne (by decide) (by decide)]
    dsimp only
    rw [expect_blanks, expect_self (by decide), Option.map_some]
    rfl
  | (name, next) :: fields =>
    rw [renderFields, List.length_cons, List.length_append, List.length_cons, List.length_append,
      List.length_cons, List.length_append, List.length_append] at hfuel
    have hnext := parseFields_render layout level name next fields hlegible.2 rest (fuel + 1)
      (by omega)
    rw [renderFields, List.cons_append, List.append_assoc, List.cons_append, List.append_assoc,
      List.cons_append, List.append_assoc, List.append_assoc, expect_self (by decide)]
    dsimp only
    rw [parseFields_blanks, hnext, Option.map_some]
    rfl
termination_by 2 * fuel

end

mutual

/-- A value that Python holds is read as it is. -/
theorem merged_of_regular {v : Json} (h : Regular reader v) : Legible reader v ∧ merged v = v := by
  match v, h with
  | .arr items, h =>
    obtain ⟨hlegible, hitems⟩ := mergedItems_of_regular h
    exact ⟨hlegible, by rw [merged, hitems]⟩
  | .obj fields, h =>
    obtain ⟨hlegible, hfields⟩ := mergedFields_of_regular h.2
    exact ⟨hlegible, by rw [merged, hfields, dictOf_of_nodup h.1]⟩
  | .null, h => exact ⟨h, rfl⟩
  | .bool _, h => exact ⟨h, rfl⟩
  | .int _, h => exact ⟨h, rfl⟩
  | .float _, h => exact ⟨h, rfl⟩
  | .special _, h => exact ⟨h, rfl⟩
  | .str _, h => exact ⟨h, rfl⟩

theorem mergedItems_of_regular {items : List Json} (h : RegularItems reader items) :
    LegibleItems reader items ∧ mergedItems items = items := by
  match items, h with
  | [], _ => exact ⟨trivial, rfl⟩
  | _ :: _, h =>
    obtain ⟨hlegible, hitem⟩ := merged_of_regular h.1
    obtain ⟨hrest, hitems⟩ := mergedItems_of_regular h.2
    exact ⟨⟨hlegible, hrest⟩, by rw [mergedItems, hitem, hitems]⟩

theorem mergedFields_of_regular {fields : List (String × Json)} (h : RegularFields reader fields) :
    LegibleFields reader fields ∧ mergedFields fields = fields := by
  match fields, h with
  | [], _ => exact ⟨trivial, rfl⟩
  | (_, _) :: _, h =>
    obtain ⟨hlegible, hvalue⟩ := merged_of_regular h.1
    obtain ⟨hrest, hfields⟩ := mergedFields_of_regular h.2
    exact ⟨⟨hlegible, hrest⟩, by rw [mergedFields, hvalue, hfields]⟩

end

/-- The text of a value is read, fields in the order they come and blanks after it. -/
theorem loads_render_blanks (layout : Layout) {v : Json} (h : Legible reader v) (blanks : Blanks) :
    loads reader (String.ofList (render layout 0 v ++ blanks.1)) = some (merged v) := by
  have hblanks : skipBlanks blanks.1 = [] := List.dropWhile_eq_nil_iff.mpr blanks.2
  have hend : Delimited blanks.1 := by
    intro c hc
    by_contra hatom
    rw [Bool.not_eq_false] at hatom
    have hblank := blanks.2 c (List.mem_of_mem_head? hc)
    rw [isBlank_of_isAtomChar hatom] at hblank
    cases hblank
  have hread := parseValue_render layout 0 v h hend (render layout 0 v ++ blanks.1).length
    (by rw [List.length_append]; exact Nat.le_add_right _ _)
  rw [loads, String.toList_ofList, hread]
  simp only [Option.bind_eq_bind, Option.bind_some, hblanks, if_true]

theorem loads_render (layout : Layout) {v : Json} (h : Legible reader v) :
    loads reader (String.ofList (render layout 0 v)) = some (merged v) := by
  have hread := loads_render_blanks layout h noBlanks
  rwa [noBlanks, List.append_nil] at hread

theorem regularItems_iff {items : List Json} :
    RegularItems reader items ↔ ∀ item ∈ items, Regular reader item := by
  induction items with
  | nil => exact ⟨fun _ _ hitem ↦ absurd hitem List.not_mem_nil, fun _ ↦ trivial⟩
  | cons item rest ih => rw [RegularItems, ih, List.forall_mem_cons]

theorem regularFields_iff {fields : Fields} :
    RegularFields reader fields ↔ ∀ field ∈ fields, Regular reader field.2 := by
  induction fields with
  | nil => exact ⟨fun _ _ hfield ↦ absurd hfield List.not_mem_nil, fun _ ↦ trivial⟩
  | cons field rest ih => rw [RegularFields, ih, List.forall_mem_cons]

theorem perm_sortFields (fields : Fields) : (sortFields fields).Perm fields :=
  List.perm_insertionSort _ fields

mutual

/-- Sorting the fields keeps a value one that Python holds. -/
theorem regular_canon {v : Json} (h : Regular reader v) : Regular reader (canon v) := by
  match v, h with
  | .arr items, h => exact regularItems_canon h
  | .obj fields, h =>
    have hperm := perm_sortFields (canonFields fields)
    refine ⟨(hperm.map Prod.fst).nodup_iff.mpr ?_, regularFields_iff.mpr fun field hfield ↦ ?_⟩
    · rw [canonFields_eq_map, List.map_map]
      exact h.1
    · exact regularFields_iff.mp (regularFields_canon h.2) field (hperm.mem_iff.mp hfield)
  | .null, h => exact h
  | .bool _, h => exact h
  | .int _, h => exact h
  | .float _, h => exact h
  | .special _, h => exact h
  | .str _, h => exact h

theorem regularItems_canon {items : List Json} (h : RegularItems reader items) :
    RegularItems reader (canonItems items) := by
  match items, h with
  | [], h => exact h
  | _ :: _, h => exact ⟨regular_canon h.1, regularItems_canon h.2⟩

theorem regularFields_canon {fields : List (String × Json)} (h : RegularFields reader fields) :
    RegularFields reader (canonFields fields) := by
  match fields, h with
  | [], h => exact h
  | (_, _) :: _, h => exact ⟨regular_canon h.1, regularFields_canon h.2⟩

end

/-- What is written is read back, with its fields sorted. -/
theorem loads_dumpsIn (layout : Layout) {v : Json} (h : Regular reader v) :
    loads reader (dumpsIn layout v) = some (canon v) := by
  obtain ⟨hlegible, hmerged⟩ := merged_of_regular (regular_canon h)
  rw [dumpsIn, loads_render layout hlegible, hmerged]

theorem loads_dumps {v : Json} (h : Regular reader v) : loads reader (dumps v) = some (canon v) := by
  rw [← dumpsIn_compact, loads_dumpsIn compact h]

/-- A number that is read has no more digits than its literal. -/
theorem length_repr_of_natLiteral? {chars : List Char} {n : ℕ} (h : natLiteral? chars = some n) :
    n.repr.toList.length ≤ 4300 := by
  have hdigit : ∀ {c : Char}, c.isDigit = true → c.toNat - '0'.toNat < 10 := by
    intro c hc
    rw [Char.isDigit, Bool.and_eq_true, decide_eq_true_iff, decide_eq_true_iff] at hc
    have hupper : c.toNat ≤ 57 := hc.2
    change c.toNat - 48 < 10
    omega
  have hbound : ∀ chars : List Char, (∀ c ∈ chars, c.isDigit = true) → ∀ init,
      Nat.ofDigitChars 10 chars init < 10 ^ chars.length * (init + 1) := by
    intro chars
    induction chars with
    | nil =>
      intro _ init
      rw [Nat.ofDigitChars_nil, List.length_nil, Nat.pow_zero, Nat.one_mul]
      exact Nat.lt_succ_self init
    | cons c chars ih =>
      intro hall init
      have hc := hdigit (hall c List.mem_cons_self)
      rw [Nat.ofDigitChars_cons, List.length_cons, Nat.pow_succ, Nat.mul_assoc]
      refine (ih (fun d hd ↦ hall d (List.mem_cons_of_mem c hd)) _).trans_le ?_
      exact Nat.mul_le_mul_left _ (by omega)
  rw [natLiteral?, Option.ite_none_right_eq_some, Option.some.injEq] at h
  obtain ⟨⟨hwhole, hlength⟩, rfl⟩ := h
  rw [isWhole, isDigits, Bool.and_eq_true, Bool.and_eq_true, List.all_eq_true, decide_eq_true_iff]
    at hwhole
  have hpos : 0 < chars.length := List.length_pos_iff.mpr hwhole.1.1
  have hlt := hbound chars hwhole.1.2 0
  rw [Nat.zero_add, Nat.mul_one] at hlt
  exact ((Nat.length_repr_le_iff hpos).mpr hlt).trans hlength

/-- An atom that is read is one that Python holds. -/
theorem regular_readAtom {chars : List Char} {v : Json} (h : readAtom reader chars = some v) :
    Regular reader v := by
  unfold readAtom at h
  cases hconst : constants.find? fun value ↦ atomText value = chars with
  | some value =>
    rw [hconst, Option.some.injEq] at h
    have hmem := List.mem_of_find?_eq_some hconst
    simp only [constants, List.mem_cons, List.not_mem_nil, or_false] at hmem
    subst h
    rcases hmem with rfl | rfl | rfl | rfl | rfl | rfl <;> trivial
  | none =>
    rw [hconst] at h
    cases hint : intLiteral? chars with
    | some value =>
      simp only [hint, Option.some.injEq] at h
      subst h
      rw [intLiteral?] at hint
      split_ifs at hint with hminus
      · obtain ⟨n, hn, rfl⟩ := Option.map_eq_some_iff.mp hint
        change (-(n : ℤ)).natAbs.repr.toList.length ≤ 4300
        rw [Int.natAbs_neg, Int.natAbs_natCast]
        exact length_repr_of_natLiteral? hn
      · obtain ⟨n, hn, rfl⟩ := Option.map_eq_some_iff.mp hint
        change (n : ℤ).natAbs.repr.toList.length ≤ 4300
        rw [Int.natAbs_natCast]
        exact length_repr_of_natLiteral? hn
    | none =>
      simp only [hint, Option.ite_none_right_eq_some, Option.some.injEq] at h
      obtain ⟨hliteral, rfl⟩ := h
      have hstable := reader.stable (String.ofList chars) (by rwa [String.toList_ofList])
      rcases hstable with ⟨value, hvalue⟩ | ⟨value, hvalue, htext, hread⟩
      · rw [hvalue]
        trivial
      · rw [hvalue]
        exact ⟨htext, hread⟩

theorem keys_set (fields : Fields) (key : String) (value : Json) :
    (set fields key value).map Prod.fst =
      if key ∈ fields.map Prod.fst then fields.map Prod.fst else fields.map Prod.fst ++ [key] := by
  have hany : (fields.any fun field ↦ field.1 = key) = true ↔ key ∈ fields.map Prod.fst := by
    rw [List.any_eq_true, List.mem_map]
    simp only [decide_eq_true_iff]
  unfold set
  by_cases hkey : key ∈ fields.map Prod.fst
  · rw [if_pos (hany.mpr hkey), if_pos hkey, List.map_map]
    refine List.map_congr_left fun field _ ↦ ?_
    by_cases hfield : field.1 = key
    · rw [Function.comp_apply, if_pos hfield, hfield]
    · rw [Function.comp_apply, if_neg hfield]
  · rw [if_neg (hkey ∘ hany.mp), if_neg hkey, List.map_append, List.map_singleton]

/-- Setting a key keeps a dictionary one that Python holds. -/
theorem regular_set {fields : Fields} (h : Regular reader (obj fields)) (key : String) {value : Json}
    (hvalue : Regular reader value) : Regular reader (obj (set fields key value)) := by
  refine ⟨?_, regularFields_iff.mpr ?_⟩
  · rw [keys_set]
    split_ifs with hkey
    · exact h.1
    · exact List.nodup_append.mpr ⟨h.1, List.nodup_singleton key, fun a ha b hb hab ↦
        hkey ((List.mem_singleton.mp hb) ▸ hab ▸ ha)⟩
  · intro field hfield
    have hold := regularFields_iff.mp h.2
    unfold set at hfield
    split_ifs at hfield
    · obtain ⟨old, hmem, rfl⟩ := List.mem_map.mp hfield
      split_ifs
      · exact hvalue
      · exact hold old hmem
    · rcases List.mem_append.mp hfield with hmem | hmem
      · exact hold field hmem
      · rw [List.mem_singleton.mp hmem]
        exact hvalue

/-- Setting keys one after another keeps a dictionary one that Python holds. -/
theorem regular_foldl_set {pairs : List (String × Json)} : ∀ {fields : Fields},
    Regular reader (obj fields) → (∀ pair ∈ pairs, Regular reader pair.2) →
      Regular reader (obj (pairs.foldl (fun fields pair ↦ set fields pair.1 pair.2) fields)) := by
  induction pairs with
  | nil => exact fun h _ ↦ h
  | cons pair rest ih =>
    intro fields h hpairs
    exact ih (regular_set h pair.1 (hpairs pair List.mem_cons_self))
      fun other hother ↦ hpairs other (List.mem_cons_of_mem pair hother)

/-- The dictionary of pairs is one that Python holds. -/
theorem regular_dictOf {pairs : List (String × Json)} (h : ∀ pair ∈ pairs, Regular reader pair.2) :
    Regular reader (obj (dictOf pairs)) :=
  regular_foldl_set ⟨List.nodup_nil, trivial⟩ h

/-- Leaving out a key leaves the other keys as they are. -/
theorem get?_filter_of_ne {key other : String} (h : other ≠ key) (fields : Fields) :
    get? (fields.filter fun field ↦ field.1 ≠ key) other = get? fields other := by
  induction fields with
  | nil => rfl
  | cons field rest ih =>
    rw [List.filter_cons, get?_cons]
    by_cases hkey : field.1 = key
    · rw [if_neg (by simpa using hkey), if_neg (hkey ▸ h), ih]
    · rw [if_pos (by simpa using hkey), get?_cons, ih]

/-- Every value that is read is one that Python holds. -/
theorem regular_parse : ∀ fuel : ℕ,
    (∀ chars v rest, parseValue reader fuel chars = some (v, rest) → Regular reader v) ∧
      (∀ chars items rest, parseItems reader fuel chars = some (items, rest) →
        ∀ item ∈ items, Regular reader item) ∧
      ∀ chars pairs rest, parseFields reader fuel chars = some (pairs, rest) →
        ∀ pair ∈ pairs, Regular reader pair.2 := by
  intro fuel
  induction fuel with
  | zero =>
    refine ⟨?_, ?_, ?_⟩
    · intro chars v rest h
      rw [parseValue] at h
      cases h
    · intro chars items rest h
      rw [parseItems] at h
      cases h
    · intro chars pairs rest h
      rw [parseFields] at h
      cases h
  | succ fuel ih =>
    obtain ⟨ihvalue, ihitems, ihfields⟩ := ih
    refine ⟨?_, ?_, ?_⟩
    · intro chars v rest h
      rw [parseValue] at h
      cases hskip : skipBlanks chars with
      | nil =>
        rw [hskip] at h
        cases h
      | cons c tail =>
        rw [hskip] at h
        dsimp only at h
        split_ifs at h with hquote hlist hdict
        · obtain ⟨⟨value, after⟩, -, heq⟩ := Option.map_eq_some_iff.mp h
          cases heq
          trivial
        · cases hclose : expect ']' tail with
          | some after =>
            rw [hclose] at h
            cases h
            trivial
          | none =>
            rw [hclose] at h
            obtain ⟨⟨items, after⟩, hitems, heq⟩ := Option.map_eq_some_iff.mp h
            cases heq
            exact regularItems_iff.mpr (ihitems _ _ _ hitems)
        · cases hclose : expect '}' tail with
          | some after =>
            rw [hclose] at h
            cases h
            exact ⟨List.nodup_nil, trivial⟩
          | none =>
            rw [hclose] at h
            obtain ⟨⟨pairs, after⟩, hpairs, heq⟩ := Option.map_eq_some_iff.mp h
            cases heq
            exact regular_dictOf (ihfields _ _ _ hpairs)
        · obtain ⟨value, hvalue, heq⟩ := Option.map_eq_some_iff.mp h
          cases heq
          exact regular_readAtom hvalue
    · intro chars items rest h
      rw [parseItems] at h
      obtain ⟨⟨item, after⟩, hitem, h⟩ := Option.bind_eq_some_iff.mp h
      have hregular := ihvalue _ _ _ hitem
      cases hcomma : expect ',' after with
      | some next =>
        simp only [hcomma] at h
        obtain ⟨⟨more, last⟩, hmore, heq⟩ := Option.bind_eq_some_iff.mp h
        cases heq
        exact List.forall_mem_cons.mpr ⟨hregular, ihitems _ _ _ hmore⟩
      | none =>
        simp only [hcomma] at h
        obtain ⟨last, -, heq⟩ := Option.bind_eq_some_iff.mp h
        cases heq
        exact List.forall_mem_singleton.mpr hregular
    · intro chars pairs rest h
      rw [parseFields] at h
      obtain ⟨opened, -, h⟩ := Option.bind_eq_some_iff.mp h
      obtain ⟨⟨key, afterKey⟩, -, h⟩ := Option.bind_eq_some_iff.mp h
      obtain ⟨afterColon, -, h⟩ := Option.bind_eq_some_iff.mp h
      obtain ⟨⟨value, after⟩, hvalue, h⟩ := Option.bind_eq_some_iff.mp h
      have hregular := ihvalue _ _ _ hvalue
      cases hcomma : expect ',' after with
      | some next =>
        simp only [hcomma] at h
        obtain ⟨⟨more, last⟩, hmore, heq⟩ := Option.bind_eq_some_iff.mp h
        cases heq
        exact List.forall_mem_cons.mpr ⟨hregular, ihfields _ _ _ hmore⟩
      | none =>
        simp only [hcomma] at h
        obtain ⟨last, -, heq⟩ := Option.bind_eq_some_iff.mp h
        cases heq
        exact List.forall_mem_singleton.mpr hregular

theorem regular_loads {text : String} {v : Json} (h : loads reader text = some v) :
    Regular reader v := by
  rw [loads] at h
  obtain ⟨⟨value, rest⟩, hvalue, h⟩ := Option.bind_eq_some_iff.mp h
  dsimp only at h
  split_ifs at h
  cases h
  exact (regular_parse _).1 _ _ _ hvalue

end SchemaPilot.Library.Json
