import SchemaPilot.Library.Text

/-!
# NFKC of plain texts

`unicodedata.normalize("NFKC", text)` is left to the platform, but for texts of ASCII characters, hard
blanks and currency symbols: none of these combines with another, so they are replaced one by one
(`NormalForm`).
-/

namespace SchemaPilot.Library

/-- The currency symbols of Unicode, first and last of each run. -/
def currencyRuns : List (ℕ × ℕ) :=
  [(0x24, 0x24), (0xa2, 0xa5), (0x58f, 0x58f), (0x60b, 0x60b), (0x7fe, 0x7ff), (0x9f2, 0x9f3),
    (0x9fb, 0x9fb), (0xaf1, 0xaf1), (0xbf9, 0xbf9), (0xe3f, 0xe3f), (0x17db, 0x17db),
    (0x20a0, 0x20c0), (0xa838, 0xa838), (0xfdfc, 0xfdfc), (0xfe69, 0xfe69), (0xff04, 0xff04),
    (0xffe0, 0xffe1), (0xffe5, 0xffe6), (0x11fdd, 0x11fe0), (0x1e2ff, 0x1e2ff), (0x1ecb0, 0x1ecb0)]

def isCurrencySymbol (c : Char) : Bool :=
  currencyRuns.any fun run ↦ run.1 ≤ c.toNat && c.toNat ≤ run.2

/-- The compatibility mappings of hard blanks and currency symbols. -/
def compatibilityMappings : List (ℕ × String) :=
  [(0xa0, " "), (0x20a8, "Rs"), (0xfdfc, "\u0631\u06cc\u0627\u0644"), (0xfe69, "$"), (0xff04, "$"),
    (0xffe0, "¢"), (0xffe1, "£"), (0xffe5, "¥"), (0xffe6, "₩")]

/-- What NFKC puts in the place of a character that combines with no other. -/
def compatibility (c : Char) : List Char :=
  ((compatibilityMappings.lookup c.toNat).map String.toList).getD [c]

/-- An ASCII character, a hard blank or a currency symbol. -/
def isPlainChar (c : Char) : Bool := c.toNat < 128 || c.toNat == 0xa0 || isCurrencySymbol c

/-- `unicodedata.normalize("NFKC", text)`. -/
structure NormalForm where
  normalize : String → String
  normalize_plain : ∀ text, (∀ c ∈ text.toList, isPlainChar c = true) →
    normalize text = String.ofList (text.toList.flatMap compatibility)

/-- The form that replaces the characters of every text one by one. -/
def characterForm : NormalForm where
  normalize text := String.ofList (text.toList.flatMap compatibility)
  normalize_plain _ _ := rfl

theorem compatibility_of_ascii {c : Char} (h : c.toNat < 128) : compatibility c = [c] := by
  have hlookup : compatibilityMappings.lookup c.toNat = none := by
    rw [List.lookup_eq_none_iff]
    have hall : ∀ mapping ∈ compatibilityMappings, 128 ≤ mapping.1 := by decide
    intro mapping hmapping
    have hle := hall mapping hmapping
    rw [bne_iff_ne]
    omega
  rw [compatibility, hlookup]
  rfl

/-- A text of ASCII characters is left as it is. -/
theorem NormalForm.normalize_ascii (form : NormalForm) {text : String}
    (h : ∀ c ∈ text.toList, c.toNat < 128) : form.normalize text = text := by
  have hplain : ∀ c ∈ text.toList, isPlainChar c = true := by
    intro c hc
    simp [isPlainChar, h c hc]
  have hflat : text.toList.flatMap compatibility = text.toList := by
    rw [List.flatMap_congr fun c hc ↦ compatibility_of_ascii (h c hc), List.flatMap_singleton']
  rw [form.normalize_plain text hplain, hflat, String.ofList_toList]

end SchemaPilot.Library
