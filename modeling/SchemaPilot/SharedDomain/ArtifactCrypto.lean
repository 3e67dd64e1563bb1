import SchemaPilot.Library.JsonRoundTrip
import SchemaPilot.Library.TextCipher
import SchemaPilot.SharedDomain.Errors

/-!
# Encrypted payloads

`backend/shared_domain/artifact_crypto.py`. Hashing is left open but for the length of its digests. A
payload that is encrypted and decrypted with one configuration is the payload again, up to the order of its
fields (`decryptPayload_encryptPayload`).
-/

namespace SchemaPilot.SharedDomain

open Library Library.Text Library.Json

/-- `hashlib.sha256(data).digest()`. -/
abbrev Sha256 := List UInt8 → Vector UInt8 32

/-- `hashlib.sha256(text.encode("utf-8")).hexdigest()`. -/
def Sha256.hexDigest (sha256 : Sha256) (text : String) : String :=
  String.ofList ((sha256 (utf8Bytes text)).toList.flatMap fun byte ↦ hexDigits byte.toNat 2)

structure ArtifactCryptoConfig where
  enabled : Bool
  keyId : String
  keyMaterial : String

abbrev Environment := String → Option String

/-- `load_artifact_crypto_config`. -/
def loadArtifactCryptoConfig (environment : Environment) : ArtifactCryptoConfig :=
  let enabled := (environment "SCHEMAPILOT_ARTIFACT_ENCRYPTION_ENABLED").getD "false"
  let keyId := strip ((environment "SCHEMAPILOT_ARTIFACT_ENCRYPTION_KEY_ID").getD "v1")
  { enabled := lower (strip enabled) ∈ ["1", "true", "yes", "on"]
    keyId := if keyId = "" then "v1" else keyId
    keyMaterial :=
      (environment "SCHEMAPILOT_ARTIFACT_ENCRYPTION_KEY").getD "schemapilot-artifact-key" }

variable (sha256 : Sha256)

/-- `_derive_key`. -/
def deriveKey (material : String) : Vector UInt8 32 := sha256 (utf8Bytes material)

/-- `encrypt_payload`. -/
def encryptPayload (payload : Fields) (config : ArtifactCryptoConfig) : Fields :=
  if !config.enabled then [("encrypted", .bool false), ("payload", .obj payload)]
  else
    let plaintext := dumps (.obj payload)
    [("encrypted", .bool true), ("key_id", .str config.keyId),
      ("ciphertext", .str (sealText (deriveKey sha256 config.keyMaterial) plaintext))]

/-- `decrypt_payload`; the texts of the `ValueError`s of the codecs are not modelled. -/
def decryptPayload (reader : FloatReader) (envelope : Fields) (config : ArtifactCryptoConfig) :
    Except Exn Fields :=
  let encrypted := truthy (getD envelope "encrypted" (.bool false))
  if !encrypted then .ok ((getD envelope "payload" (.obj [])).asObj?.getD [])
  else
    let ciphertext := strippedText envelope "ciphertext" ""
    if ciphertext = "" then .error (.valueError "artifact_payload_invalid")
    else
      match openText? (deriveKey sha256 config.keyMaterial) ciphertext with
      | none => .error (.valueError "invalid ciphertext")
      | some plaintext =>
        match Json.loads reader plaintext with
        | none => .error (.valueError "Expecting value")
        | some (.obj parsed) => .ok parsed
        | some _ => .error (.valueError "artifact_payload_invalid")

variable {reader : FloatReader}

theorem strip_sealText (key : Vector UInt8 32) (text : String) :
    strip (sealText key text) = sealText key text := by
  have hchars : ∀ c ∈ (sealText key text).toList, isSpace c = false := by
    have hsextets : ∀ n < 64, isSpace (Base64.sextetChar n) = false := by decide
    intro c hc
    rcases mem_sealText hc with rfl | ⟨n, hn, rfl⟩
    · decide
    · exact hsextets n hn
  rw [strip, stripChars_eq_self (fun c hc ↦ hchars c (List.mem_of_mem_head? hc))
    fun c hc ↦ hchars c (List.mem_of_mem_getLast? hc), String.ofList_toList]

theorem dumps_obj_ne_empty (fields : Fields) : dumps (.obj fields) ≠ "" := by
  intro hempty
  have hchars := congrArg String.toList hempty
  rw [dumps, String.toList_ofList] at hchars
  obtain ⟨c, tail, hcons, -⟩ := render_head compact 0 (canon (.obj fields)) []
  rw [render_compact, List.append_nil, hchars] at hcons
  cases hcons

/-- The fields of an envelope that `decrypt_payload` reads, a payload and its configuration given. -/
structure EnvelopeOf (payload : Fields) (config : ArtifactCryptoConfig) (envelope : Fields) :
    Prop where
  encrypted : get? envelope "encrypted" = some (.bool config.enabled)
  plain : config.enabled = false → ∃ held : Fields,
    get? envelope "payload" = some (.obj held) ∧ canon (.obj held) = canon (.obj payload)
  ciphertext : config.enabled = true → get? envelope "ciphertext" =
    some (.str (sealText (deriveKey sha256 config.keyMaterial) (dumps (.obj payload))))

theorem envelopeOf_encryptPayload (payload : Fields) (config : ArtifactCryptoConfig) :
    EnvelopeOf sha256 payload config (encryptPayload sha256 payload config) := by
  obtain ⟨enabled, keyId, keyMaterial⟩ := config
  cases enabled with
  | false => exact ⟨rfl, fun _ ↦ ⟨payload, rfl, rfl⟩, fun h ↦ nomatch h⟩
  | true => exact ⟨rfl, (fun h ↦ nomatch h), fun _ ↦ rfl⟩

theorem EnvelopeOf.decryptPayload {payload envelope : Fields} {config : ArtifactCryptoConfig}
    (h : EnvelopeOf sha256 payload config envelope) (hregular : Regular reader (.obj payload)) :
    ∃ decrypted : Fields, decryptPayload sha256 reader envelope config = .ok decrypted ∧
      canon (.obj decrypted) = canon (.obj payload) := by
  have hencrypted : getD envelope "encrypted" (.bool false) = .bool config.enabled := by
    rw [getD, h.encrypted]
    rfl
  unfold SharedDomain.decryptPayload
  rw [hencrypted]
  cases henabled : config.enabled with
  | false =>
    obtain ⟨held, hheld, hcanon⟩ := h.plain henabled
    refine ⟨held, ?_, hcanon⟩
    rw [getD, hheld]
    rfl
  | true =>
    have hciphertext : strippedText envelope "ciphertext" "" =
        sealText (deriveKey sha256 config.keyMaterial) (dumps (.obj payload)) := by
      rw [strippedText, getD, h.ciphertext henabled]
      exact strip_sealText _ _
    refine ⟨sortFields (canonFields payload), ?_, canon_canon (.obj payload)⟩
    simp only [truthy, Bool.not_true, Bool.false_eq_true, if_false]
    rw [hciphertext, if_neg (sealText_ne_empty _ (dumps_obj_ne_empty payload)), openText?_sealText]
    dsimp only
    rw [loads_dumps hregular]
    rfl

/-- What was encrypted with a configuration is decrypted with it. -/
theorem decryptPayload_encryptPayload {payload : Fields} (h : Regular reader (.obj payload))
    (config : ArtifactCryptoConfig) : ∃ decrypted : Fields,
      decryptPayload sha256 reader (encryptPayload sha256 payload config) config = .ok decrypted ∧
        canon (.obj decrypted) = canon (.obj payload) :=
  (envelopeOf_encryptPayload sha256 payload config).decryptPayload sha256 h

/-- `float` on literals that are the text of a float. -/
def textReader : FloatReader where
  read text := if h : isFloatText text.toList = true then .float ⟨text, h⟩ else .special .nan
  stable text htext := by
    by_cases h : isFloatText text.toList = true
    · exact Or.inr ⟨⟨text, h⟩, dif_pos h, htext, dif_pos h⟩
    · exact Or.inl ⟨.nan, dif_neg h⟩

end SchemaPilot.SharedDomain
