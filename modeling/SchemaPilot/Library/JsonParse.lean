import SchemaPilot.Library.JsonText

/-!
# Reading JSON texts

`loads` is `json.loads` on a text, `none` where it raises. The longest run of the characters of an atom
is read at once: what may follow an atom is none of them. An integer has at most 4300 digits, an escaped
half of a surrogate pair is refused as no text holds it, and `float` is left open. The recursion is
bounded by the length of the text.
-/

namespace SchemaPilot.Library.Json

def isDigits (chars : List Char) : Bool := chars ≠ [] && chars.all Char.isDigit

/-- The characters are one zero, or digits without a leading zero. -/
def isWhole (chars : List Char) : Bool :=
  isDigits chars && (chars.head? ≠ some '0' || chars.length = 1)

def natLiteral? (chars : List Char) : Option ℕ :=
  if isWhole chars ∧ chars.length ≤ 4300 then some (Nat.ofDigitChars 10 chars 0) else none

def intLiteral? (chars : List Char) : Option ℤ :=
  if chars.head? = some '-' then (natLiteral? chars.tail).map fun n : ℕ ↦ -(n : ℤ)
  else (natLiteral? chars).map fun n : ℕ ↦ (n : ℤ)

/-- A float literal: the text of an integer with a fraction, an exponent, or both. -/
def isFloatLiteral (chars : List Char) : Bool :=
  let mantissa := chars.takeWhile fun c ↦ c != 'e' && c != 'E'
  let exponent := (chars.dropWhile fun c ↦ c != 'e' && c != 'E').tail
  let whole := mantissa.takeWhile (· != '.')
  let fraction := mantissa.dropWhile (· != '.')
  let signed := exponent.head? = some '+' || exponent.head? = some '-'
  (isWhole whole || (whole.head? = some '-' && isWhole whole.tail)) &&
    (fraction = [] || isDigits fraction.tail) &&
    (mantissa = chars || isDigits (if signed then exponent.tail else exponent)) &&
    (fraction ≠ [] || mantissa ≠ chars)

/-- `float` on float literals. The `repr` of what it reads is a literal of the same float. -/
structure FloatReader where
  read : String → Json
  stable : ∀ text, isFloatLiteral text.toList = true →
    (∃ value, read text = .special value) ∨
      ∃ value : FloatText, read text = .float value ∧ isFloatLiteral value.text.toList = true ∧
        read value.text = .float value

variable (reader : FloatReader)

def readAtom (chars : List Char) : Option Json :=
  match constants.find? fun value ↦ atomText value = chars with
  | some value => some value
  | none =>
    match intLiteral? chars with
    | some value => some (int value)
    | none => if isFloatLiteral chars then some (reader.read (String.ofList chars)) else none

def hexValue? (c : Char) : Option ℕ :=
  if c.isDigit then some (c.toNat - 48)
  else if 97 ≤ c.toNat ∧ c.toNat ≤ 102 then some (c.toNat - 87)
  else if 65 ≤ c.toNat ∧ c.toNat ≤ 70 then some (c.toNat - 55)
  else none

/-- The number of a run of hexadecimal digits. -/
def hexRun? (chars : List Char) : Option ℕ :=
  chars.foldlM (fun n c ↦ (hexValue? c).map (16 * n + ·)) 0

/-- Four hexadecimal digits, and what follows them. -/
def hex4? (chars : List Char) : Option (ℕ × List Char) :=
  if 4 ≤ chars.length then (hexRun? (chars.take 4)).map fun n ↦ (n, chars.drop 4) else none

/-- The character of an escape after its `u`, and what follows it. -/
def unicodeEscape? (chars : List Char) : Option (Char × List Char) := do
  let (high, after) ← hex4? chars
  if 0xd800 ≤ high ∧ high < 0xdc00 then
    if after.take 2 = ['\\', 'u'] then
      let (low, rest) ← hex4? (after.drop 2)
      if 0xdc00 ≤ low ∧ low < 0xe000 then
        return (Char.ofNat (0x10000 + (high - 0xd800) * 0x400 + (low - 0xdc00)), rest)
      else none
    else none
  else if 0xdc00 ≤ high ∧ high < 0xe000 then none
  else return (Char.ofNat high, after)

/-- The character of an escape after its backslash, and what follows it. -/
def readEscape : List Char → Option (Char × List Char)
  | [] => none
  | letter :: rest =>
    if letter = 'u' then unicodeEscape? rest
    else ((shortEscapes ++ [('/', '/')]).find? fun escape ↦ escape.2 = letter).map fun escape ↦
      (escape.1, rest)

/-- One character of a string literal, or its end, and what follows it. -/
def readChar : List Char → Option (Option Char × List Char)
  | [] => none
  | c :: rest =>
    if c = '"' then some (none, rest)
    else if c = '\\' then (readEscape rest).map fun (value, after) ↦ (some value, after)
    else if c.toNat < 32 then none
    else some (some c, rest)

/-- The characters up to the closing quote, and what follows it. -/
def parseChars : ℕ → List Char → Option (List Char × List Char)
  | 0, _ => none
  | fuel + 1, chars => do
    let (found, after) ← readChar chars
    match found with
    | none => return ([], after)
    | some c =>
      let (rest, last) ← parseChars fuel after
      return (c :: rest, last)

def parseString (chars : List Char) : Option (String × List Char) :=
  (parseChars (chars.length + 1) chars).map fun (value, after) ↦ (String.ofList value, after)

def isBlank (c : Char) : Bool := c == ' ' || c == '\t' || c == '\n' || c == '\r'

def skipBlanks (chars : List Char) : List Char := chars.dropWhile isBlank

/-- Pass over blanks and a character. -/
def expect (c : Char) (chars : List Char) : Option (List Char) :=
  match skipBlanks chars with
  | [] => none
  | d :: rest => if d = c then some rest else none

/-- The dictionary of pairs: the last value of a key counts. -/
def dictOf (pairs : List (String × Json)) : Fields :=
  pairs.foldl (fun fields pair ↦ set fields pair.1 pair.2) []

mutual

/-- The value a text begins with, and what follows it. -/
def parseValue : ℕ → List Char → Option (Json × List Char)
  | 0, _ => none
  | fuel + 1, chars =>
    match skipBlanks chars with
    | [] => none
    | c :: rest =>
      if c = '"' then (parseString rest).map fun (value, after) ↦ (str value, after)
      else if c = '[' then
        match expect ']' rest with
        | some after => some (arr [], after)
        | none => (parseItems fuel rest).map fun (items, after) ↦ (arr items, after)
      else if c = '{' then
        match expect '}' rest with
        | some after => some (obj [], after)
        | none => (parseFields fuel rest).map fun (pairs, after) ↦ (obj (dictOf pairs), after)
      else (readAtom reader ((c :: rest).takeWhile isAtomChar)).map fun value ↦
        (value, (c :: rest).dropWhile isAtomChar)

/-- The items up to the end of a list, and what follows it. -/
def parseItems : ℕ → List Char → Option (List Json × List Char)
  | 0, _ => none
  | fuel + 1, chars => do
    let (item, after) ← parseValue fuel chars
    match expect ',' after with
    | some rest =>
      let (items, last) ← parseItems fuel rest
      return (item :: items, last)
    | none =>
      let last ← expect ']' after
      return ([item], last)

/-- The fields up to the end of a dictionary, and what follows it. -/
def parseFields : ℕ → List Char → Option (List (String × Json) × List Char)
  | 0, _ => none
  | fuel + 1, chars => do
    let opened ← expect '"' chars
    let (key, afterKey) ← parseString opened
    let afterColon ← expect ':' afterKey
    let (value, after) ← parseValue fuel afterColon
    match expect ',' after with
    | some rest =>
      let (pairs, last) ← parseFields fuel rest
      return ((key, value) :: pairs, last)
    | none =>
      let last ← expect '}' after
      return ([(key, value)], last)

end

/-- `json.loads` of a text, `none` where it raises. -/
def loads (text : String) : Option Json := do
  let (value, rest) ← parseValue reader (text.toList.length + 1) text.toList
  if skipBlanks rest = [] then some value else none

end SchemaPilot.Library.Json
