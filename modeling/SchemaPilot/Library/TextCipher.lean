import SchemaPilot.Library.Base64

/-!
# Texts under a repeated key

A text is sealed as the base64 code of its UTF-8 bytes, each joined with a byte of a key that starts over
when it is used up. The same key opens it again (`openText?_sealText`).
-/

namespace SchemaPilot.Library

/-- `text.encode("utf-8")`. -/
def utf8Bytes (text : String) : List UInt8 := text.toByteArray.data.toList

/-- `bytes.decode("utf-8")`, `none` where it raises. -/
def utf8Text? (bytes : List UInt8) : Option String := String.fromUTF8? ⟨bytes.toArray⟩

theorem utf8Text?_utf8Bytes (text : String) : utf8Text? (utf8Bytes text) = some text := by
  have hbytes : (⟨text.toByteArray.data.toList.toArray⟩ : ByteArray) = text.toByteArray := by
    rw [Array.toArray_toList]
  rw [utf8Text?, utf8Bytes, hbytes, String.fromUTF8?, dif_pos text.isValidUTF8]
  rfl

variable {n : ℕ} [NeZero n]

/-- `bytes(byte ^ key[idx % len(key)] for idx, byte in enumerate(payload))`. -/
def xorCycle (key : Vector UInt8 n) (bytes : List UInt8) : List UInt8 :=
  bytes.mapIdx fun idx byte ↦ byte ^^^ key.get ⟨idx % n, Nat.mod_lt idx (Nat.pos_of_neZero n)⟩

/-- A key undoes itself. -/
theorem xorCycle_xorCycle (key : Vector UInt8 n) (bytes : List UInt8) :
    xorCycle key (xorCycle key bytes) = bytes := by
  rw [xorCycle, xorCycle, List.mapIdx_mapIdx]
  refine List.ext_getElem (by rw [List.length_mapIdx]) fun idx _ hidx ↦ ?_
  rw [List.getElem_mapIdx, Function.comp_apply, UInt8.xor_assoc, UInt8.xor_self, UInt8.xor_zero]

/-- Two keys do the same to some bytes exactly where they agree on as many bytes. -/
theorem xorCycle_eq_iff {first second : Vector UInt8 n} {bytes : List UInt8} :
    xorCycle first bytes = xorCycle second bytes ↔ ∀ idx < bytes.length,
      first.get ⟨idx % n, Nat.mod_lt idx (Nat.pos_of_neZero n)⟩ =
        second.get ⟨idx % n, Nat.mod_lt idx (Nat.pos_of_neZero n)⟩ := by
  rw [xorCycle, xorCycle, List.mapIdx_eq_mapIdx_iff]
  exact forall₂_congr fun idx hidx ↦ UInt8.xor_right_inj bytes[idx]

/-- `_encrypt` with a derived key. -/
def sealText (key : Vector UInt8 n) (text : String) : String :=
  String.ofList (Base64.encode (xorCycle key (utf8Bytes text)))

/-- `_decrypt` with a derived key, `none` where a codec raises. -/
def openText? (key : Vector UInt8 n) (sealed : String) : Option String :=
  if sealed.toList.all fun c ↦ c.toNat < 128 then
    (Base64.decode sealed.toList).bind fun bytes ↦ utf8Text? (xorCycle key bytes)
  else none

/-- A sealed text consists of characters of the code. -/
theorem mem_sealText {key : Vector UInt8 n} {text : String} {c : Char}
    (hc : c ∈ (sealText key text).toList) : c = '=' ∨ ∃ n < 64, c = Base64.sextetChar n := by
  rw [sealText, String.toList_ofList] at hc
  exact Base64.mem_encode hc

/-- Two keys seal a text alike exactly where they agree on the bytes it takes up. -/
theorem sealText_eq_iff {first second : Vector UInt8 n} {text : String} :
    sealText first text = sealText second text ↔ ∀ idx < (utf8Bytes text).length,
      first.get ⟨idx % n, Nat.mod_lt idx (Nat.pos_of_neZero n)⟩ =
        second.get ⟨idx % n, Nat.mod_lt idx (Nat.pos_of_neZero n)⟩ := by
  rw [← xorCycle_eq_iff, sealText, sealText, String.ofList_inj]
  exact ⟨Base64.encode_injective, congrArg Base64.encode⟩

theorem openText?_sealText (key : Vector UInt8 n) (text : String) :
    openText? key (sealText key text) = some text := by
  have hascii : ((sealText key text).toList.all fun c ↦ c.toNat < 128) = true := by
    have hsextets : ∀ n < 64, (Base64.sextetChar n).toNat < 128 := by decide
    refine List.all_eq_true.mpr fun c hc ↦ decide_eq_true ?_
    rcases mem_sealText hc with rfl | ⟨n, hn, rfl⟩
    · decide
    · exact hsextets n hn
  rw [openText?, if_pos hascii, sealText, String.toList_ofList, Base64.decode_encode,
    Option.bind_some, xorCycle_xorCycle, utf8Text?_utf8Bytes]

theorem sealText_ne_empty (key : Vector UInt8 n) {text : String} (h : text ≠ "") :
    sealText key text ≠ "" := by
  intro hempty
  have hopened := openText?_sealText key text
  rw [hempty, show ("" : String) = sealText key "" from rfl, openText?_sealText] at hopened
  exact h (Option.some.inj hopened).symm

end SchemaPilot.Library
