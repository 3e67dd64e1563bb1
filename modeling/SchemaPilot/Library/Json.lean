import SchemaPilot.Library.Text

/-!
# JSON values as Python handles them

The values `json.loads` builds (`Json`), a dictionary being the list of its fields in insertion
order, and the operations the modelled services apply to values whose type they do not know:
`dict.get` (`get?`, `getD`), truth value testing (`truthy`), `str` (`str`) and `int`
(`toInt`). A finite float is kept as the text `repr` gives it, which determines it; strings hold no
lone surrogates.

`str` of a list or a dictionary quotes the strings in it as `repr` does. A code point that no
Unicode version assigns is counted as printable there.
-/

namespace SchemaPilot.Library

/-- A character of the `repr` of a finite float. -/
def isFloatChar (c : Char) : Bool := c.isDigit || c == '+' || c == '-' || c == '.' || c == 'e'

/-- The text of a finite float: digits and signs with a decimal point or an exponent. -/
def isFloatText (chars : List Char) : Bool :=
  chars.all isFloatChar && chars.any fun c ↦ c == '.' || c == 'e'

theorem isFloatText_zero : isFloatText "0.0".toList = true := by decide

/-- A finite float, by the text `repr` gives it. -/
structure FloatText where
  text : String
  valid : isFloatText text.toList = true

inductive SpecialFloat where
  | nan
  | infinity
  | negativeInfinity
deriving DecidableEq

/-- The values `json.loads` returns. -/
inductive Json where
  | null
  | bool (value : Bool)
  | int (value : Int)
  | float (value : FloatText)
  | special (value : SpecialFloat)
  | str (value : String)
  | arr (items : List Json)
  | obj (fields : List (String × Json))

/-- The fields of a dictionary in insertion order. -/
abbrev Fields := List (String × Json)

namespace Json

/-- `fields.get(key)`, `none` for a missing key. -/
def get? (fields : Fields) (key : String) : Option Json := fields.lookup key

/-- `fields.get(key, default)`. -/
def getD (fields : Fields) (key : String) (default : Json) : Json :=
  (get? fields key).getD default

/-- `fields[key] = value`. -/
def set (fields : Fields) (key : String) (value : Json) : Fields :=
  if fields.any fun field ↦ field.1 = key then
    fields.map fun field ↦ if field.1 = key then (key, value) else field
  else fields ++ [(key, value)]

/-- The fields of a dictionary, `isinstance(value, dict)` being the test. -/
def asObj? : Json → Option Fields
  | obj fields => some fields
  | _ => none

/-- The items of a list, `isinstance(value, list)` being the test. -/
def asArr? : Json → Option (List Json)
  | arr items => some items
  | _ => none

theorem asObj?_eq_some_iff {value : Json} {fields : Fields} :
    value.asObj? = some fields ↔ value = .obj fields := by
  cases value <;> simp [asObj?]

@[simp] theorem get?_nil (key : String) : get? [] key = none := rfl

theorem get?_cons (key name : String) (value : Json) (fields : Fields) :
    get? ((name, value) :: fields) key = if key = name then some value else get? fields key := by
  by_cases h : key = name
  · simp [get?, h]
  · simp [get?, List.lookup_cons, beq_eq_false_iff_ne.mpr h, h]

theorem get?_append (fields more : Fields) (key : String) :
    get? (fields ++ more) key = (get? fields key).or (get? more key) := by
  induction fields with
  | nil => rfl
  | cons field rest ih =>
    rw [List.cons_append, get?_cons, get?_cons, ih]
    split_ifs <;> rfl

theorem get?_set_self (fields : Fields) (key : String) (value : Json) :
    get? (set fields key value) key = some value := by
  unfold set
  split_ifs with hset
  · induction fields with
    | nil => cases hset
    | cons field rest ih =>
      rw [List.map_cons]
      by_cases hkey : field.1 = key
      · rw [if_pos hkey, get?_cons, if_pos rfl]
      · rw [if_neg hkey, get?_cons, if_neg (Ne.symm hkey)]
        rw [List.any_cons, decide_eq_false hkey, Bool.false_or] at hset
        exact ih hset
  · have hnone : get? fields key = none := by
      induction fields with
      | nil => rfl
      | cons field rest ih =>
        rw [List.any_cons, Bool.or_eq_true, not_or, decide_eq_true_iff] at hset
        rw [get?_cons, if_neg (Ne.symm hset.1)]
        exact ih hset.2
    rw [get?_append, hnone, get?_cons, if_pos rfl, Option.none_or]

/-- Setting a key leaves the other keys as they are. -/
theorem get?_set_of_ne {key other : String} (h : other ≠ key) (fields : Fields) (value : Json) :
    get? (set fields key value) other = get? fields other := by
  unfold set
  split_ifs with hset
  · clear hset
    induction fields with
    | nil => rfl
    | cons field rest ih =>
      rw [List.map_cons]
      by_cases hkey : field.1 = key
      · rw [if_pos hkey, get?_cons, get?_cons, if_neg h, if_neg (hkey ▸ h)]
        exact ih
      · rw [if_neg hkey, get?_cons, get?_cons]
        exact congrArg (fun found ↦ if other = field.1 then some field.2 else found) ih
  · rw [get?_append, get?_cons, if_neg h, get?_nil, Option.or_none]

/-- `bool(value)`. -/
def truthy : Json → Bool
  | null => false
  | bool value => value
  | int value => value != 0
  | float value => value.text.toList.any fun c ↦ '1' ≤ c && c ≤ '9'
  | special _ => true
  | str value => value != ""
  | arr items => !items.isEmpty
  | obj fields => !fields.isEmpty

/-- Code points outside ASCII that `str.isprintable` rejects. -/
def unprintable (n : Nat) : Bool :=
  (0x7f ≤ n && n ≤ 0xa0) || n == 0xad || (0x600 ≤ n && n ≤ 0x605) || n == 0x61c || n == 0x6dd ||
    n == 0x70f || n == 0x890 || n == 0x891 || n == 0x8e2 || n == 0x1680 || n == 0x180e ||
    (0x2000 ≤ n && n ≤ 0x200f) || (0x2028 ≤ n && n ≤ 0x202f) || (0x205f ≤ n && n ≤ 0x2064) ||
    (0x2066 ≤ n && n ≤ 0x206f) || n == 0x3000 || (0xe000 ≤ n && n ≤ 0xf8ff) || n == 0xfeff ||
    (0xfff9 ≤ n && n ≤ 0xfffb) || n == 0x110bd || n == 0x110cd || (0x13430 ≤ n && n ≤ 0x1343f) ||
    (0x1bca0 ≤ n && n ≤ 0x1bca3) || (0x1d173 ≤ n && n ≤ 0x1d17a) || n == 0xe0001 ||
    (0xe0020 ≤ n && n ≤ 0xe007f) || 0xf0000 ≤ n

/-- The lower-case hexadecimal digit of a number below sixteen. -/
def hexDigit (n : Nat) : Char :=
  if n < 10 then Char.ofNat (48 + n) else Char.ofNat (87 + n)

/-- The last `width` hexadecimal digits of a number. -/
def hexDigits (n : Nat) : Nat → List Char
  | 0 => []
  | width + 1 => hexDigits (n / 16) width ++ [hexDigit (n % 16)]

/-- One character inside the `repr` of a string quoted by `quote`. -/
def reprChar (quote c : Char) : List Char :=
  if c = quote ∨ c = '\\' then ['\\', c]
  else if c = '\t' then ['\\', 't']
  else if c = '\n' then ['\\', 'n']
  else if c = '\r' then ['\\', 'r']
  else if c.toNat < 32 ∨ (unprintable c.toNat ∧ c.toNat < 256) then
    '\\' :: 'x' :: hexDigits c.toNat 2
  else if unprintable c.toNat ∧ c.toNat < 65536 then '\\' :: 'u' :: hexDigits c.toNat 4
  else if unprintable c.toNat then '\\' :: 'U' :: hexDigits c.toNat 8
  else [c]

/-- `repr` of a string: single quotes unless the text holds some and no double quotes. -/
def reprString (s : String) : List Char :=
  let quote := if '\'' ∈ s.toList ∧ '\"' ∉ s.toList then '\"' else '\''
  quote :: (s.toList.flatMap (reprChar quote) ++ [quote])

/-- `str` of a value that is no string, list or dictionary. -/
def scalarText : Json → List Char
  | null => "None".toList
  | bool true => "True".toList
  | bool false => "False".toList
  | int value => (toString value).toList
  | float value => value.text.toList
  | special .nan => "nan".toList
  | special .infinity => "inf".toList
  | special .negativeInfinity => "-inf".toList
  | _ => []

mutual

/-- `repr`, as it stands inside a list or a dictionary. -/
def repr : Json → List Char
  | str value => reprString value
  | arr items => '[' :: (reprItems items ++ [']'])
  | obj fields => '{' :: (reprFields fields ++ ['}'])
  | value => scalarText value

def reprItems : List Json → List Char
  | [] => []
  | [item] => repr item
  | item :: next :: rest => repr item ++ [',', ' '] ++ reprItems (next :: rest)

def reprFields : List (String × Json) → List Char
  | [] => []
  | [(key, value)] => reprString key ++ [':', ' '] ++ repr value
  | (key, value) :: next :: rest =>
    reprString key ++ [':', ' '] ++ repr value ++ [',', ' '] ++ reprFields (next :: rest)

end

/-- `str(value)`. -/
def toStr : Json → String
  | str value => value
  | value => String.ofList (repr value)

@[simp] theorem toStr_str (s : String) : (str s).toStr = s := rfl

/-- `str(fields.get(key, default)).strip()`. -/
def strippedText (fields : Fields) (key default : String) : String :=
  Text.strip (getD fields key (str default)).toStr

def textList (texts : List String) : Json := arr (texts.map str)

/-- The zeros of the decimal digits of Unicode, each followed by its nine successors. -/
def decimalZeros : List Nat :=
  [0x30, 0x660, 0x6f0, 0x7c0, 0x966, 0x9e6, 0xa66, 0xae6, 0xb66, 0xbe6, 0xc66, 0xce6, 0xd66, 0xde6,
    0xe50, 0xed0, 0xf20, 0x1040, 0x1090, 0x17e0, 0x1810, 0x1946, 0x19d0, 0x1a80, 0x1a90, 0x1b50,
    0x1bb0, 0x1c40, 0x1c50, 0xa620, 0xa8d0, 0xa900, 0xa9d0, 0xa9f0, 0xaa50, 0xabf0, 0xff10, 0x104a0,
    0x10d30, 0x11066, 0x110f0, 0x11136, 0x111d0, 0x112f0, 0x11450, 0x114d0, 0x11650, 0x116c0,
    0x11730, 0x118e0, 0x11950, 0x11c50, 0x11d50, 0x11da0, 0x11f50, 0x16a60, 0x16ac0, 0x16b50,
    0x1d7ce, 0x1d7d8, 0x1d7e2, 0x1d7ec, 0x1d7f6, 0x1e140, 0x1e2f0, 0x1e4f0, 0x1e950, 0x1fbf0]

/-- The value of a decimal digit of any script. -/
def digitValue? (c : Char) : Option Nat :=
  (decimalZeros.find? fun base ↦ base ≤ c.toNat && c.toNat < base + 10).map (c.toNat - ·)

/-- The digits of an integer literal, an underscore being allowed between two of them. -/
def digitRun? : List Char → Option (List Nat)
  | [] => none
  | [c] => (digitValue? c).map ([·])
  | c :: '_' :: rest => (digitValue? c).bind fun digit ↦ (digitRun? rest).map (digit :: ·)
  | c :: rest => (digitValue? c).bind fun digit ↦ (digitRun? rest).map (digit :: ·)

/-- The number a list of decimal digits denotes. -/
def ofDigits (digits : List Nat) : Nat := digits.foldl (fun n digit ↦ 10 * n + digit) 0

/-- The blanks `int` and `float` pass over: those of `str.isspace` but for the separators of ASCII. -/
def isNumberBlank (c : Char) : Bool := Text.isSpace c && !(28 ≤ c.toNat && c.toNat ≤ 31)

/-- The text of a number without the blanks around it. -/
def stripNumber (chars : List Char) : List Char :=
  (chars.dropWhile isNumberBlank).rdropWhile isNumberBlank

/-- `int(text)`: blanks around an optional sign and at most 4300 digits, else a `ValueError`. -/
def intOfString? (s : String) : Option Int :=
  let magnitude (chars : List Char) : Option Nat :=
    (digitRun? chars).bind fun digits ↦
      if digits.length ≤ 4300 then some (ofDigits digits) else none
  match stripNumber s.toList with
  | '-' :: chars => (magnitude chars).map fun n ↦ -(n : Int)
  | '+' :: chars => (magnitude chars).map fun n ↦ (n : Int)
  | chars => (magnitude chars).map fun n ↦ (n : Int)

/-- The integer part of a finite float, read off its decimal text. -/
def truncate (value : FloatText) : Int :=
  let chars := value.text.toList
  let body := chars.dropWhile fun c ↦ c == '-' || c == '+'
  let mantissa := body.takeWhile (· != 'e')
  let digitsOf (cs : List Char) : List Nat := cs.filterMap digitValue?
  let fraction := digitsOf (mantissa.dropWhile (· != '.'))
  let digits := ofDigits (digitsOf mantissa)
  let exponentChars := (body.dropWhile (· != 'e')).drop 1
  let exponent : Int := (if exponentChars.head? = some '-' then -1 else 1) *
    (ofDigits (digitsOf exponentChars) : Int)
  let scale : Int := exponent - fraction.length
  let magnitude := if 0 ≤ scale then digits * 10 ^ scale.toNat else digits / 10 ^ (-scale).toNat
  if chars.head? = some '-' then -(magnitude : Int) else (magnitude : Int)

end Json

end SchemaPilot.Library
