import Mathlib.Data.List.DropRight
import Mathlib.Data.List.Infix

/-!
# Reading text from bytes

What `open(path, "r", encoding=..., newline="")` delivers line by line. The bytes arrive in blocks, and a
block is decoded as a whole: where one of its bytes is refused, none of its characters is seen, while the
lines of earlier blocks have been delivered already. The decoders are automata that take one byte at a
time, so that how the bytes are cut into blocks decides only how much of a broken text is seen.

With `newline=""` lines keep their ends, which are `\n`, `\r` and `\r\n`. A carriage return at the end of
what is decoded waits for the next block, which may start with the other half of its line end.
-/

namespace SchemaPilot.Library

/-- What an iterator delivers before it ends, and the exception that ends it, if one does. -/
structure Delivery (ε α : Type) where
  items : List α
  failure : Option ε
  deriving DecidableEq

/-- The exceptions met by a reader of delimited text: bytes that are no text, and text that is no table. -/
inductive ReadError where
  | undecodable
  | malformed (message : String)
  deriving DecidableEq

namespace TextDecoding

inductive Encoding where
  | utf8
  | utf8Sig
  | latin1
  deriving DecidableEq

/-- Bytes that are still expected of a character: how many, the bounds of the next one, and the bits
read so far. -/
structure Expected where
  owed : ℕ
  low : ℕ
  high : ℕ
  bits : ℕ
  deriving DecidableEq

def Expected.nothing : Expected := ⟨0, 0, 0, 0⟩

def leadByte (byte : ℕ) : Option (Expected × List Char) :=
  if byte < 0x80 then some (.nothing, [Char.ofNat byte])
  else if byte < 0xC2 then none
  else if byte < 0xE0 then some (⟨1, 0x80, 0xBF, byte - 0xC0⟩, [])
  else if byte = 0xE0 then some (⟨2, 0xA0, 0xBF, 0⟩, [])
  else if byte < 0xF0 then some (⟨2, 0x80, 0xBF, byte - 0xE0⟩, [])
  else if byte = 0xF0 then some (⟨3, 0x90, 0xBF, 0⟩, [])
  else if byte < 0xF4 then some (⟨3, 0x80, 0xBF, byte - 0xF0⟩, [])
  else if byte = 0xF4 then some (⟨3, 0x80, 0x8F, 4⟩, [])
  else none

/-- One byte of UTF-8. A second byte that makes a surrogate is refused with the third. -/
def utf8Byte (expected : Expected) (byte : ℕ) : Option (Expected × List Char) :=
  if expected.owed = 0 then leadByte byte
  else if byte < expected.low ∨ expected.high < byte then none
  else
    let bits := expected.bits * 64 + (byte - 0x80)
    if expected.owed = 1 then
      if 0xD800 ≤ bits ∧ bits ≤ 0xDFFF then none else some (.nothing, [Char.ofNat bits])
    else some (⟨expected.owed - 1, 0x80, 0xBF, bits⟩, [])

/-- `codecs.BOM_UTF8`. -/
def byteOrderMark : List UInt8 := [0xEF, 0xBB, 0xBF]

/-- A decoder between two bytes. The one of `utf-8-sig` holds back what may become the mark. -/
inductive Decoder where
  | utf8 (expected : Expected)
  | signature (held : List UInt8)
  | latin1
  deriving DecidableEq

def Decoder.initial : Encoding → Decoder
  | .utf8 => .utf8 .nothing
  | .utf8Sig => .signature []
  | .latin1 => .latin1

/-- UTF-8 over several bytes. -/
def utf8Bytewise (expected : Expected) : List UInt8 → Option (Expected × List Char)
  | [] => some (expected, [])
  | byte :: bytes =>
    (utf8Byte expected byte.toNat).bind fun step ↦
      (utf8Bytewise step.1 bytes).map fun rest ↦ (rest.1, step.2 ++ rest.2)

/-- One byte, `none` where the decoder refuses it. -/
def Decoder.feed : Decoder → UInt8 → Option (Decoder × List Char)
  | .utf8 expected, byte => (utf8Byte expected byte.toNat).map fun step ↦ (.utf8 step.1, step.2)
  | .signature held, byte =>
    let bytes := held ++ [byte]
    if bytes = byteOrderMark then some (.utf8 .nothing, [])
    else if bytes <+: byteOrderMark then some (.signature bytes, [])
    else (utf8Bytewise .nothing bytes).map fun step ↦ (.utf8 step.1, step.2)
  | .latin1, byte => some (.latin1, [Char.ofNat byte.toNat])

/-- Whether the bytes may end here. A held-back start of the mark is dropped without an error. -/
def Decoder.mayEnd : Decoder → Bool
  | .utf8 expected => expected.owed == 0
  | .signature _ => true
  | .latin1 => true

def Decoder.feedAll (decoder : Decoder) : List UInt8 → Option (Decoder × List Char)
  | [] => some (decoder, [])
  | byte :: bytes =>
    (decoder.feed byte).bind fun step ↦
      (step.1.feedAll bytes).map fun rest ↦ (rest.1, step.2 ++ rest.2)

/-- The characters decoded from a file, and whether decoding ended with an error. -/
structure Decoded where
  text : List Char
  broken : Bool
  deriving DecidableEq

def Decoder.decode (decoder : Decoder) : List (List UInt8) → Decoded
  | [] => ⟨[], !decoder.mayEnd⟩
  | block :: blocks =>
    match decoder.feedAll block with
    | none => ⟨[], true⟩
    | some (next, text) =>
      let rest := next.decode blocks
      ⟨text ++ rest.text, rest.broken⟩

theorem Decoder.feedAll_append (decoder : Decoder) (bytes more : List UInt8) :
    decoder.feedAll (bytes ++ more) =
      (decoder.feedAll bytes).bind fun step ↦
        (step.1.feedAll more).map fun rest ↦ (rest.1, step.2 ++ rest.2) := by
  induction bytes generalizing decoder with
  | nil => simp [Decoder.feedAll]
  | cons byte bytes ih =>
    rw [List.cons_append, Decoder.feedAll, Decoder.feedAll, Option.bind_assoc]
    congr 1
    funext step
    rw [ih]
    cases step.1.feedAll bytes with
    | none => rfl
    | some next => simp [Function.comp_def]

/-- Bytes a decoder accepts show in what it makes of a file that starts with them, unless an error hides
their block. -/
theorem Decoder.decode_of_flatten {decoder next : Decoder} {blocks : List (List UInt8)}
    {bytes more : List UInt8} {text : List Char} (hblocks : blocks.flatten = bytes ++ more)
    (hfeed : decoder.feedAll bytes = some (next, text)) :
    text <+: (decoder.decode blocks).text ∨
      (decoder.decode blocks).broken = true ∧ (decoder.decode blocks).text <+: text := by
  induction blocks generalizing decoder next bytes text with
  | nil =>
    have hbytes : bytes = [] := by simpa using (List.append_eq_nil_iff.mp hblocks.symm).1
    subst hbytes
    rw [Decoder.feedAll, Option.some.injEq, Prod.mk.injEq] at hfeed
    exact Or.inl (hfeed.2 ▸ List.nil_prefix)
  | cons block blocks ih =>
    rw [List.flatten_cons] at hblocks
    rw [Decoder.decode]
    rcases List.append_eq_append_iff.mp hblocks with ⟨behind, rfl, hrest⟩ | ⟨behind, rfl, -⟩
    · -- the block ends within the bytes: they go on in the next one
      rw [Decoder.feedAll_append, Option.bind_eq_some_iff] at hfeed
      obtain ⟨⟨decoder', start⟩, hblock, hfeed⟩ := hfeed
      obtain ⟨⟨last, tail⟩, htail, hpair⟩ := Option.map_eq_some_iff.mp hfeed
      rw [Prod.mk.injEq] at hpair
      rw [hblock, ← hpair.2]
      rcases ih hrest htail with hshown | ⟨hbroken, hhidden⟩
      · exact Or.inl ((List.prefix_append_right_inj start).mpr hshown)
      · exact Or.inr ⟨hbroken, (List.prefix_append_right_inj start).mpr hhidden⟩
    · -- the bytes end within the block
      rw [Decoder.feedAll_append, hfeed, Option.bind_some]
      cases next.feedAll behind with
      | none => exact Or.inr ⟨rfl, List.nil_prefix⟩
      | some rest =>
        refine Or.inl ?_
        rw [Option.map_some]
        change text <+: text ++ rest.2 ++ _
        rw [List.append_assoc]
        exact List.prefix_append text _

theorem feedAll_latin1 (bytes : List UInt8) :
    Decoder.latin1.feedAll bytes = some (.latin1, bytes.map fun byte ↦ Char.ofNat byte.toNat) := by
  induction bytes with
  | nil => rfl
  | cons byte bytes ih => simp [Decoder.feedAll, Decoder.feed, ih]

theorem decode_latin1_broken (blocks : List (List UInt8)) :
    (Decoder.latin1.decode blocks).broken = false := by
  induction blocks with
  | nil => rfl
  | cons block blocks ih => rw [Decoder.decode, feedAll_latin1]; exact ih

/-- The lines that have ended, with their ends, and what stands behind the last end. -/
def splitLines : List Char → List (List Char) × List Char
  | [] => ([], [])
  | '\r' :: '\n' :: text => (['\r', '\n'] :: (splitLines text).1, (splitLines text).2)
  | c :: text =>
    if c = '\n' ∨ c = '\r' then ([c] :: (splitLines text).1, (splitLines text).2)
    else
      match splitLines text with
      | ([], behind) => ([], c :: behind)
      | (line :: lines, behind) => ((c :: line) :: lines, behind)

/-- The lines seen of a text. An error hides the line it stands in, and a carriage return directly before
the block with the error is still waiting for its other half. -/
def linesSeen (decoded : Decoded) : List (List Char) :=
  if decoded.broken then
    let text := if decoded.text.getLast? = some '\r' then decoded.text.dropLast else decoded.text
    (splitLines text).1
  else
    match splitLines decoded.text with
    | (lines, []) => lines
    | (lines, behind) => lines ++ [behind]

/-- Characters that end no line stay at the front of the first line. -/
theorem splitLines_append {front : List Char} (hfront : ∀ c ∈ front, c ≠ '\n' ∧ c ≠ '\r')
    (text : List Char) :
    splitLines (front ++ text) =
      match splitLines text with
      | ([], behind) => ([], front ++ behind)
      | (line :: lines, behind) => ((front ++ line) :: lines, behind) := by
  induction front with
  | nil => rw [List.nil_append]; split <;> simp_all
  | cons c front ih =>
    obtain ⟨hnewline, hreturn⟩ := hfront c List.mem_cons_self
    have hends : ¬(c = '\n' ∨ c = '\r') := by simp [hnewline, hreturn]
    rw [List.cons_append, splitLines.eq_3 _ _ fun _ hc ↦ absurd hc hreturn, if_neg hends,
      ih fun c hc ↦ hfront c (List.mem_cons_of_mem _ hc)]
    rcases splitLines text with ⟨_ | ⟨line, lines⟩, behind⟩ <;> rfl

/-- A text whose first characters end no line shows them at the front of its first line. -/
theorem head_linesSeen {decoded : Decoded} {front line : List Char}
    (hfront : ∀ c ∈ front, c ≠ '\n' ∧ c ≠ '\r') (htext : front <+: decoded.text)
    (hline : (linesSeen decoded).head? = some line) : front <+: line := by
  have hhead : ∀ text behind lines, splitLines (front ++ text) = (lines, behind) →
      ∀ first ∈ lines.head?, front <+: first := by
    intro text behind lines hsplit first hfirst
    rw [splitLines_append hfront] at hsplit
    rcases hlines : splitLines text with ⟨_ | ⟨start, rest⟩, last⟩
    · rw [hlines] at hsplit
      cases hsplit
      exact absurd hfirst (by simp)
    · rw [hlines] at hsplit
      cases hsplit
      cases hfirst
      exact List.prefix_append front start
  obtain ⟨more, hmore⟩ := htext
  unfold linesSeen at hline
  split at hline
  · split at hline
    · next hlast =>
      -- the carriage return that is held back does not belong to the front
      have hne : more ≠ [] := by
        rintro rfl
        rw [List.append_nil] at hmore
        exact (hfront '\r' (hmore ▸ List.mem_of_getLast? hlast)).2 rfl
      rw [← hmore, List.dropLast_append_of_ne_nil hne] at hline
      exact hhead _ _ _ rfl line hline
    · rw [← hmore] at hline
      exact hhead _ _ _ rfl line hline
  · rw [← hmore] at hline
    rcases hsplit : splitLines (front ++ more) with ⟨lines, behind⟩
    rw [hsplit] at hline
    cases behind with
    | nil => exact hhead _ _ _ hsplit line hline
    | cons c behind =>
      rcases lines with _ | ⟨start, lines⟩
      · -- the only line has no end
        cases hline
        rw [splitLines_append hfront] at hsplit
        rcases hrest : splitLines more with ⟨_ | ⟨start, rest⟩, last⟩
        · rw [hrest] at hsplit
          rw [← (Prod.mk.inj hsplit).2]
          exact List.prefix_append front last
        · rw [hrest] at hsplit
          cases (Prod.mk.inj hsplit).1
      · exact hhead _ _ _ hsplit line hline

theorem linesSeen_ne_nil {decoded : Decoded} (hbroken : decoded.broken = false)
    (htext : decoded.text ≠ []) : linesSeen decoded ≠ [] := by
  rw [linesSeen, hbroken, if_neg Bool.false_ne_true]
  rcases htext' : decoded.text with _ | ⟨c, text⟩
  · exact absurd htext' htext
  · have hsplit : splitLines (c :: text) ≠ ([], []) := by
      by_cases hends : c = '\n' ∨ c = '\r'
      · rw [splitLines.eq_def]
        split <;> simp_all
      · rw [← List.singleton_append, splitLines_append (by simpa [not_or] using hends)]
        split <;> simp
    rcases hlines : splitLines (c :: text) with ⟨_ | ⟨line, lines⟩, _ | ⟨d, behind⟩⟩
    · exact absurd hlines hsplit
    all_goals simp

def readLines (encoding : Encoding) (blocks : List (List UInt8)) : Delivery ReadError (List Char) :=
  let decoded := (Decoder.initial encoding).decode blocks
  ⟨linesSeen decoded, if decoded.broken then some .undecodable else none⟩

theorem readLines_latin1_failure (blocks : List (List UInt8)) :
    (readLines .latin1 blocks).failure = none := by
  rw [readLines, Decoder.initial, decode_latin1_broken]
  rfl

def markText (encoding : Encoding) : List Char :=
  ((Decoder.initial encoding).decode [byteOrderMark]).text

theorem markText_utf8 : markText .utf8 = [Char.ofNat 0xFEFF] := by decide

theorem markText_utf8Sig : markText .utf8Sig = [] := by decide

theorem markText_latin1 : markText .latin1 = ['ï', '»', '¿'] := by decide

/-- Only the encoding made for the mark takes it away. -/
theorem markText_eq_nil_iff {encoding : Encoding} : markText encoding = [] ↔ encoding = .utf8Sig := by
  cases encoding <;> decide

/-- The decoded mark is no line end, and nothing a delimited text is cut at. -/
theorem ne_of_mem_markText {encoding : Encoding} {c : Char} (hc : c ∈ markText encoding) :
    c ≠ '\n' ∧ c ≠ '\r' ∧ c ≠ '"' ∧ c ≠ ',' := by
  cases encoding with
  | utf8 => rw [markText_utf8, List.mem_singleton] at hc; subst hc; decide
  | utf8Sig => rw [markText_utf8Sig] at hc; cases hc
  | latin1 =>
    rw [markText_latin1] at hc
    have hall : ∀ c ∈ ['ï', '»', '¿'], c ≠ '\n' ∧ c ≠ '\r' ∧ c ≠ '"' ∧ c ≠ ',' := by simp
    exact hall c hc

theorem feedAll_mark (encoding : Encoding) :
    ∃ next, (Decoder.initial encoding).feedAll byteOrderMark = some (next, markText encoding) := by
  cases encoding with
  | utf8 => exact ⟨.utf8 .nothing, by decide⟩
  | utf8Sig => exact ⟨.utf8 .nothing, by decide⟩
  | latin1 => exact ⟨.latin1, by decide⟩

/-- The text of a file with the mark starts with what the encoding makes of it, unless an error comes
before that. -/
theorem decode_of_mark (encoding : Encoding) {blocks : List (List UInt8)}
    (hmark : byteOrderMark <+: blocks.flatten) :
    markText encoding <+: ((Decoder.initial encoding).decode blocks).text ∨
      ((Decoder.initial encoding).decode blocks).broken = true ∧
        ((Decoder.initial encoding).decode blocks).text <+: markText encoding := by
  obtain ⟨more, hmore⟩ := hmark
  obtain ⟨next, hfeed⟩ := feedAll_mark encoding
  exact Decoder.decode_of_flatten hmore.symm hfeed

/-- The first line of a file with the mark starts with what the encoding makes of it. -/
theorem mark_prefix_head {encoding : Encoding} {blocks : List (List UInt8)} {line : List Char}
    (hmark : byteOrderMark <+: blocks.flatten)
    (hline : (readLines encoding blocks).items.head? = some line) : markText encoding <+: line := by
  have hends : ∀ c ∈ markText encoding, c ≠ '\n' ∧ c ≠ '\r' := fun c hc ↦
    ⟨(ne_of_mem_markText hc).1, (ne_of_mem_markText hc).2.1⟩
  change (linesSeen _).head? = some line at hline
  rcases decode_of_mark encoding hmark with hshown | ⟨hbroken, hhidden⟩
  · exact head_linesSeen hends hshown hline
  · -- no line has ended before the error
    have hsplit : ∀ text, text <+: markText encoding → (splitLines text).1 = [] := by
      intro text htext
      have happend := splitLines_append (fun c hc ↦ hends c (htext.subset hc)) []
      rw [List.append_nil] at happend
      rw [happend]
      rfl
    rw [linesSeen, hbroken, if_pos rfl] at hline
    split at hline
    · rw [hsplit _ ((List.dropLast_prefix _).trans hhidden)] at hline
      cases hline
    · rw [hsplit _ hhidden] at hline
      cases hline

/-- A file with the mark has a line, where the mark is kept and nothing is refused. -/
theorem readLines_ne_nil {encoding : Encoding} {blocks : List (List UInt8)}
    (hmark : byteOrderMark <+: blocks.flatten) (hkept : encoding ≠ .utf8Sig)
    (hdecodes : (readLines encoding blocks).failure = none) :
    (readLines encoding blocks).items ≠ [] := by
  have hbroken : ((Decoder.initial encoding).decode blocks).broken = false := by
    rw [readLines] at hdecodes
    by_contra hbroken
    rw [Bool.not_eq_false] at hbroken
    simp [hbroken] at hdecodes
  refine linesSeen_ne_nil hbroken fun htext ↦ ?_
  rcases decode_of_mark encoding hmark with hshown | ⟨hbroken', -⟩
  · rw [htext, List.prefix_nil] at hshown
    exact hkept (markText_eq_nil_iff.mp hshown)
  · rw [hbroken] at hbroken'
    cases hbroken'

end TextDecoding

end SchemaPilot.Library
