import SchemaPilot.Library.JsonRoundTrip
import Mathlib.Data.Rat.Defs

/-!
# The texts that `float` reads

`float(text)` of Python: blanks around an optional sign and either a word for a special value or a
decimal number, whose digits may be of any script and may be grouped by single underscores
(`floatLiteral?`). What is read is the exact decimal number; a number from the middle between the largest
float and `2 ^ 1024` on is read as an infinity (`Overflows`), and the float nearest to any other one is
left to the platform (`FloatRounding`).
-/

namespace SchemaPilot.Library

/-- What a text denotes: a special value, or `digits * 10 ^ exponent` with a sign. -/
inductive FloatLiteral where
  | nan
  | infinity (negative : Bool)
  | decimal (negative : Bool) (digits : ℕ) (exponent : ℤ)
deriving DecidableEq

/-- The number a decimal literal denotes. -/
def FloatLiteral.value? : FloatLiteral → Option ℚ
  | decimal negative digits exponent =>
    some ((if negative then -1 else 1) * digits * (10 : ℚ) ^ exponent)
  | _ => none

/-- The digits before or after a decimal point, of which there may be none. -/
def digitPart? (chars : List Char) : Option (List ℕ) :=
  if chars = [] then some [] else Json.digitRun? chars

/-- The exponent that ends a literal: nothing, or a letter and a number with an optional sign. -/
def exponentPart? : List Char → Option ℤ
  | [] => some 0
  | _ :: '-' :: chars => (Json.digitRun? chars).map fun digits ↦ -(Json.ofDigits digits : ℤ)
  | _ :: '+' :: chars => (Json.digitRun? chars).map fun digits ↦ (Json.ofDigits digits : ℤ)
  | _ :: chars => (Json.digitRun? chars).map fun digits ↦ (Json.ofDigits digits : ℤ)

def isExponentChar (c : Char) : Bool := c == 'e' || c == 'E'

def decimalLiteral? (negative : Bool) (chars : List Char) : Option FloatLiteral := do
  let mantissa := chars.takeWhile fun c ↦ !isExponentChar c
  let exponent ← exponentPart? (chars.dropWhile fun c ↦ !isExponentChar c)
  let whole ← digitPart? (mantissa.takeWhile (· != '.'))
  let fraction ← digitPart? (mantissa.dropWhile (· != '.')).tail
  if whole = [] ∧ fraction = [] then none
  else return .decimal negative (Json.ofDigits (whole ++ fraction)) (exponent - fraction.length)

def unsignedLiteral? (negative : Bool) (chars : List Char) : Option FloatLiteral :=
  let word := String.ofList (chars.map Text.lowerAscii)
  if word = "nan" then some .nan
  else if word = "inf" ∨ word = "infinity" then some (.infinity negative)
  else decimalLiteral? negative chars

def signedLiteral? : List Char → Option FloatLiteral
  | '-' :: chars => unsignedLiteral? true chars
  | '+' :: chars => unsignedLiteral? false chars
  | chars => unsignedLiteral? false chars

/-- What `float(text)` reads, nothing where it raises a `ValueError`. -/
def floatLiteral? (text : String) : Option FloatLiteral :=
  signedLiteral? (Json.stripNumber text.toList)

/-- A number that is too large for a float. -/
def Overflows (digits : ℕ) (exponent : ℤ) : Prop :=
  (2 ^ 1024 - 2 ^ 970) * 10 ^ (-exponent).toNat ≤ digits * 10 ^ exponent.toNat

instance (digits : ℕ) (exponent : ℤ) : Decidable (Overflows digits exponent) :=
  inferInstanceAs (Decidable (_ ≤ _))

/-- `repr` of the float nearest to a decimal number. It is a literal of JSON that is read as that float. -/
structure FloatRounding (reader : Json.FloatReader) where
  nearest : Bool → ℕ → ℤ → FloatText
  isFloatLiteral_nearest : ∀ negative digits exponent,
    Json.isFloatLiteral (nearest negative digits exponent).text.toList = true
  read_nearest : ∀ negative digits exponent, reader.read (nearest negative digits exponent).text =
    .float (nearest negative digits exponent)

variable {reader : Json.FloatReader}

def infinite (negative : Bool) : Json :=
  .special (if negative then .negativeInfinity else .infinity)

def FloatRounding.round (rounding : FloatRounding reader) : FloatLiteral → Json
  | .nan => .special .nan
  | .infinity negative => infinite negative
  | .decimal negative digits exponent =>
    if Overflows digits exponent then infinite negative
    else .float (rounding.nearest negative digits exponent)

/-- `float(text)`, nothing for a `ValueError`. -/
def FloatRounding.parse (rounding : FloatRounding reader) (text : String) : Option Json :=
  (floatLiteral? text).map rounding.round

end SchemaPilot.Library
