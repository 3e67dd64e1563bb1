import SchemaPilot.Library.Base64
import SchemaPilot.Library.Except
import SchemaPilot.Library.JsonParse
import SchemaPilot.SharedDomain.EvidenceStore

/-!
# Verified bearer tokens

`_verified_oidc_jwt_claims` of `backend/shared_domain/auth.py` and the checks it makes. The keys are
those `_load_jwks_keys` returns, and `hmac.new(key, message, digest).digest()` is left to the platform.
`accepted_of_verified` says what an accepted token went through.
-/

namespace SchemaPilot.SharedDomain.Jwt

open Library Library.Json

structure JwtPlatform where
  reader : FloatReader
  /-- `hmac.new(key, message, digest).digest()`, the digest by the name of the algorithm. -/
  hmacDigest : String → List UInt8 → List UInt8 → List UInt8

structure OidcSettings where
  requiredIssuer : Option String
  requiredAudience : Option String
  allowedAlgs : List String
  clockSkewSeconds : ℤ

/-- `text.encode()`. -/
def utf8Encode (text : String) : List UInt8 := text.toUTF8.toList

/-- `bytes.decode("utf-8")`, nothing for a `UnicodeDecodeError`. -/
def utf8Decode (bytes : List UInt8) : Option String := String.fromUTF8? ⟨bytes.toArray⟩

/-- `_decode_base64url`: `urlsafe_b64decode` refuses a text that is not ASCII. -/
def decodeBase64url (value : String) : Option (List UInt8) :=
  if value = "" then some []
  else if value.toList.all fun c ↦ c.toNat < 128 then
    Base64.decode (value.toList ++ List.replicate ((4 - value.length % 4) % 4) '=')
  else none

/-- `_decode_jwt_segment`; a text that `json.loads` refuses for its size or depth is no payload
either. -/
def decodeJwtSegment (reader : FloatReader) (encoded : String) : Option Fields := do
  let bytes ← decodeBase64url encoded
  let text ← utf8Decode bytes
  let payload ← loads reader text
  asObj? payload

/-- `token.split(".")`. -/
def tokenParts (token : String) : List String := (token.toList.splitOn '.').map String.ofList

/-- `_as_int`: a float is cut off, and a text or a value of another kind may be no number. -/
def asInt : Option Json → Except Exn (Option ℤ)
  | some (.int value) => .ok (some value)
  | some (.bool value) => .ok (some value.toInt)
  | some (.float value) => .ok (some (truncate value))
  | some (.special value) => (toInt (.special value)).map some
  | some (.str text) => .ok (intOfString? (Text.strip text))
  | _ => .ok none

def required (setting : Option String) : Option String := setting.filter (· ≠ "")

def matchesAudience (audience : String) : Option Json → Bool
  | some (.str claim) => claim = audience
  | some (.arr claims) => claims.any fun claim ↦ claim.toStr = audience
  | _ => false

/-- `_claims_match_issuer_and_audience`. -/
def claimsMatchIssuerAndAudience (settings : OidcSettings) (claims : Fields) : Bool :=
  (required settings.requiredIssuer).all (fun issuer ↦
      (getD claims "iss" (.str "")).toStr = issuer) &&
    (required settings.requiredAudience).all fun audience ↦
      matchesAudience audience (get? claims "aud")

/-- `_claims_within_time_window`. -/
def claimsWithinTimeWindow (settings : OidcSettings) (now : ℤ) (claims : Fields) :
    Except Exn Bool := do
  let skew := max 0 settings.clockSkewSeconds
  let exp ← asInt (get? claims "exp")
  if exp.any fun time ↦ time + skew < now then return false
  else
    let nbf ← asInt (get? claims "nbf")
    if nbf.any fun time ↦ now + skew < time then return false
    else
      let iat ← asInt (get? claims "iat")
      return !iat.any fun time ↦ now + skew < time

/-- The loop body of `_select_jwks_candidates`. -/
def isCandidate (kid : Option String) (alg : String) (key : Fields) : Bool :=
  kid.all (strippedText key "kid" "" = ·) &&
    (strippedText key "alg" "" = "" || strippedText key "alg" "" = alg) &&
    (Text.lower (strippedText key "use" "") = "" || Text.lower (strippedText key "use" "") = "sig")

/-- `_select_jwks_candidates`. -/
def selectJwksCandidates (keys : List Fields) (kid : Option String) (alg : String) : List Fields :=
  keys.filter (isCandidate kid alg)

def keyMaterial? (jwk : Fields) : Option (List UInt8) :=
  if Text.lower (getD jwk "kty" (.str "")).toStr = "oct" then
    match get? jwk "k" with
    | some (.str text) => decodeBase64url text
    | _ => none
  else none

/-- `_verify_jwt_signature`. -/
def verifyJwtSignature (platform : JwtPlatform) (signingInput signature : List UInt8) (alg : String)
    (jwk : Fields) : Bool :=
  ["HS256", "HS384", "HS512"].contains alg &&
    (keyMaterial? jwk).any fun material ↦
      platform.hmacDigest alg material signingInput = signature

/-- The identifier of the key that the header names. -/
def headerKid (header : Fields) : Option String :=
  match get? header "kid" with
  | some (.str text) => some (Text.strip text) |>.filter (· ≠ "")
  | _ => none

/-- The checks of a token up to its signature, with the claims. -/
def signedClaims (platform : JwtPlatform) (settings : OidcSettings) (keys : List Fields)
    (token : String) : Option Fields :=
  match tokenParts token with
  | [encodedHeader, encodedClaims, encodedSignature] => do
    let header ← decodeJwtSegment platform.reader encodedHeader
    let claims ← decodeJwtSegment platform.reader encodedClaims
    let alg := strippedText header "alg" ""
    if alg = "" ∨ Text.lower alg = "none" then none
    else if alg ∉ (settings.allowedAlgs.map Text.strip).filter (· ≠ "") then none
    else
      let signature ← decodeBase64url encodedSignature
      let signingInput := utf8Encode (encodedHeader ++ "." ++ encodedClaims)
      if (selectJwksCandidates keys (headerKid header) alg).any
          (verifyJwtSignature platform signingInput signature alg) then some claims
      else none
  | _ => none

/-- `_verified_oidc_jwt_claims`. -/
def verifiedOidcJwtClaims (platform : JwtPlatform) (settings : OidcSettings) (keys : List Fields)
    (now : ℤ) (token : String) : Except Exn (Option Fields) :=
  match signedClaims platform settings keys token with
  | none => .ok none
  | some claims =>
    if claimsMatchIssuerAndAudience settings claims then do
      let current ← claimsWithinTimeWindow settings now claims
      return if current then some claims else none
    else .ok none

/-- The key is one for signatures under the algorithm and the identifier of the header, and the
signature is the code of the input under it. -/
structure VerifiesUnder (platform : JwtPlatform) (header : Fields) (alg : String)
    (signingInput signature : List UInt8) (key : Fields) : Prop where
  keyKid : ∀ kid, headerKid header = some kid → strippedText key "kid" "" = kid
  keyAlg : strippedText key "alg" "" = "" ∨ strippedText key "alg" "" = alg
  keyUse : Text.lower (strippedText key "use" "") = "" ∨ Text.lower (strippedText key "use" "") = "sig"
  family : alg ∈ ["HS256", "HS384", "HS512"]
  code : ∃ material, keyMaterial? key = some material ∧
    platform.hmacDigest alg material signingInput = signature

/-- What holds of a token whose claims are returned. -/
structure Accepted (platform : JwtPlatform) (settings : OidcSettings) (keys : List Fields) (now : ℤ)
    (token : String) (claims : Fields) : Prop where
  signed : ∃ encodedHeader encodedClaims encodedSignature header signature,
    tokenParts token = [encodedHeader, encodedClaims, encodedSignature] ∧
    decodeJwtSegment platform.reader encodedHeader = some header ∧
    decodeJwtSegment platform.reader encodedClaims = some claims ∧
    decodeBase64url encodedSignature = some signature ∧
    Text.lower (strippedText header "alg" "") ≠ "none" ∧
    (∃ allowed ∈ settings.allowedAlgs, Text.strip allowed = strippedText header "alg" "" ∧
      Text.strip allowed ≠ "") ∧
    ∃ key ∈ keys, VerifiesUnder platform header (strippedText header "alg" "")
      (utf8Encode (encodedHeader ++ "." ++ encodedClaims)) signature key
  issuer : ∀ issuer, settings.requiredIssuer = some issuer → issuer ≠ "" →
    (getD claims "iss" (.str "")).toStr = issuer
  audience : ∀ audience, settings.requiredAudience = some audience → audience ≠ "" →
    get? claims "aud" = some (.str audience) ∨
      ∃ items, get? claims "aud" = some (.arr items) ∧ ∃ item ∈ items, item.toStr = audience
  expiry : ∀ time, asInt (get? claims "exp") = .ok (some time) →
    now ≤ time + max 0 settings.clockSkewSeconds
  notBefore : ∀ time, asInt (get? claims "nbf") = .ok (some time) →
    time ≤ now + max 0 settings.clockSkewSeconds
  issuedAt : ∀ time, asInt (get? claims "iat") = .ok (some time) →
    time ≤ now + max 0 settings.clockSkewSeconds

variable {platform : JwtPlatform} {settings : OidcSettings} {keys : List Fields} {now : ℤ}
  {token : String} {claims : Fields}

theorem verifiesUnder_of_candidate {header key : Fields} {alg : String}
    {signingInput signature : List UInt8} (hcandidate : isCandidate (headerKid header) alg key = true)
    (hverify : verifyJwtSignature platform signingInput signature alg key = true) :
    VerifiesUnder platform header alg signingInput signature key := by
  simp only [isCandidate, Bool.and_eq_true, Bool.or_eq_true, decide_eq_true_eq] at hcandidate
  obtain ⟨⟨hkid, halg⟩, huse⟩ := hcandidate
  rw [verifyJwtSignature, Bool.and_eq_true, List.contains_iff_mem] at hverify
  refine ⟨fun kid hheader ↦ ?_, halg, huse, hverify.1, ?_⟩
  · rw [hheader, Option.all_some] at hkid
    exact of_decide_eq_true hkid
  · obtain ⟨material, hmaterial, hcode⟩ := (Option.any_eq_true _ _).mp hverify.2
    exact ⟨material, hmaterial, of_decide_eq_true hcode⟩

/-- A token that passes its signature check has a selected key and an allowed algorithm. -/
theorem signed_of_signedClaims (h : signedClaims platform settings keys token = some claims) :
    ∃ encodedHeader encodedClaims encodedSignature header signature,
      tokenParts token = [encodedHeader, encodedClaims, encodedSignature] ∧
      decodeJwtSegment platform.reader encodedHeader = some header ∧
      decodeJwtSegment platform.reader encodedClaims = some claims ∧
      decodeBase64url encodedSignature = some signature ∧
      Text.lower (strippedText header "alg" "") ≠ "none" ∧
      (∃ allowed ∈ settings.allowedAlgs, Text.strip allowed = strippedText header "alg" "" ∧
        Text.strip allowed ≠ "") ∧
      ∃ key ∈ keys, VerifiesUnder platform header (strippedText header "alg" "")
        (utf8Encode (encodedHeader ++ "." ++ encodedClaims)) signature key := by
  unfold signedClaims at h
  split at h
  · next encodedHeader encodedClaims encodedSignature hparts =>
    obtain ⟨header, hheader, h⟩ := Option.bind_eq_some_iff.mp h
    obtain ⟨found, hfound, h⟩ := Option.bind_eq_some_iff.mp h
    dsimp only at h
    split_ifs at h with hnone hallowed
    obtain ⟨signature, hsignature, h⟩ := Option.bind_eq_some_iff.mp h
    split_ifs at h with hverified
    cases h
    obtain ⟨hmapped, hnonempty⟩ := List.mem_filter.mp hallowed
    obtain ⟨allowed, hmem, hsame⟩ := List.mem_map.mp hmapped
    obtain ⟨key, hcandidate, hverify⟩ := List.any_eq_true.mp hverified
    obtain ⟨hkey, hselected⟩ := List.mem_filter.mp hcandidate
    refine ⟨encodedHeader, encodedClaims, encodedSignature, header, signature, hparts, hheader,
      hfound, hsignature, fun h ↦ hnone (Or.inr h), ⟨allowed, hmem, hsame, ?_⟩, key, hkey,
      verifiesUnder_of_candidate hselected hverify⟩
    rw [hsame]
    exact of_decide_eq_true hnonempty
  · cases h

theorem audience_of_matches {audience : String} {claim : Option Json}
    (h : matchesAudience audience claim = true) : claim = some (.str audience) ∨
      ∃ items, claim = some (.arr items) ∧ ∃ item ∈ items, item.toStr = audience := by
  unfold matchesAudience at h
  split at h
  · rw [of_decide_eq_true h]
    exact Or.inl rfl
  · next items =>
    obtain ⟨item, hitem, hsame⟩ := List.any_eq_true.mp h
    exact Or.inr ⟨items, rfl, item, hitem, of_decide_eq_true hsame⟩
  · cases h

theorem required_eq_some {setting : Option String} {value : String} (h : setting = some value)
    (hvalue : value ≠ "") : required setting = some value := by
  rw [h, required]
  simp [hvalue]

/-- Claims within the time window keep each bound whose claim is a number. -/
theorem window_of_claims (h : claimsWithinTimeWindow settings now claims = .ok true) :
    (∀ time, asInt (get? claims "exp") = .ok (some time) →
      now ≤ time + max 0 settings.clockSkewSeconds) ∧
    (∀ time, asInt (get? claims "nbf") = .ok (some time) →
      time ≤ now + max 0 settings.clockSkewSeconds) ∧
    ∀ time, asInt (get? claims "iat") = .ok (some time) →
      time ≤ now + max 0 settings.clockSkewSeconds := by
  obtain ⟨exp, hexp, h⟩ := (bind_eq_ok_iff _ _ _).mp h
  split_ifs at h with hexpired
  · cases h
  obtain ⟨nbf, hnbf, h⟩ := (bind_eq_ok_iff _ _ _).mp h
  split_ifs at h with hearly
  · cases h
  obtain ⟨iat, hiat, h⟩ := (bind_eq_ok_iff _ _ _).mp h
  have hissued := Except.ok.inj h
  rw [hexp, hnbf, hiat]
  refine ⟨?_, ?_, ?_⟩
  · intro time htime
    cases htime
    simpa using hexpired
  · intro time htime
    cases htime
    simpa using hearly
  · intro time htime
    cases htime
    simpa using hissued

/-- A token whose claims are returned was signed under a key selected for it with an allowed algorithm,
its issuer and audience are those the settings require, and each of its times that is a number, or a
text of one, keeps its bound. -/
theorem accepted_of_verified (platform : JwtPlatform) (settings : OidcSettings) (keys : List Fields)
    (now : ℤ) (token : String) (claims : Fields)
    (h : verifiedOidcJwtClaims platform settings keys now token = .ok (some claims)) :
    Accepted platform settings keys now token claims := by
  unfold verifiedOidcJwtClaims at h
  split at h
  · cases h
  · next found hsigned =>
    split_ifs at h with hmatch
    · obtain ⟨current, hcurrent, hdone⟩ := (bind_eq_ok_iff _ _ _).mp h
      cases current with
      | false => cases hdone
      | true =>
        cases hdone
        rw [claimsMatchIssuerAndAudience, Bool.and_eq_true] at hmatch
        obtain ⟨hexpiry, hnotBefore, hissuedAt⟩ := window_of_claims hcurrent
        refine ⟨signed_of_signedClaims hsigned, ?_, ?_, hexpiry, hnotBefore, hissuedAt⟩
        · intro issuer hissuer hnonempty
          have hown := hmatch.1
          rw [required_eq_some hissuer hnonempty, Option.all_some] at hown
          exact of_decide_eq_true hown
        · intro audience haudience hnonempty
          have hown := hmatch.2
          rw [required_eq_some haudience hnonempty, Option.all_some] at hown
          exact audience_of_matches hown
    · cases h

/-- A platform on which every message has one code, and no text is a float. -/
def codePlatform (code : List UInt8) : JwtPlatform :=
  ⟨⟨fun _ ↦ .special .nan, fun _ _ ↦ Or.inl ⟨_, rfl⟩⟩, fun _ _ _ ↦ code⟩

def issuerSettings : OidcSettings := ⟨some "https://idp", none, ["HS256"], 30⟩

/-- The key set of the issuer, with the key `secret`. -/
def issuerKeys : List Fields := [[("kty", .str "oct"), ("k", .str "c2VjcmV0")]]

/-- The token of `{"iss": "https://idp", "exp": 1800000300}`, and its code. -/
def expiringToken : String :=
  "eyJhbGciOiJIUzI1NiJ9.eyJpc3MiOiJodHRwczovL2lkcCIsImV4cCI6MTgwMDAwMDMwMH0." ++
    "njmF3MWqPhBIbHr10hOvq-4qmmJY5rOtE45Wiy9y7r8"

def expiringCode : List UInt8 :=
  [158, 57, 133, 220, 197, 170, 62, 16, 72, 108, 122, 245, 210, 19, 175, 171, 238, 42, 154, 98,
   88, 230, 179, 173, 19, 142, 86, 139, 47, 114, 238, 191]

theorem expiringToken_accepted : Accepted (codePlatform expiringCode) issuerSettings issuerKeys
    1800000000 expiringToken [("iss", .str "https://idp"), ("exp", .int 1800000300)] := by
  have hclaims : (verifiedOidcJwtClaims (codePlatform expiringCode) issuerSettings issuerKeys
      1800000000 expiringToken).toOption =
        some (some [("iss", .str "https://idp"), ("exp", .int 1800000300)]) := by decide +kernel
  refine accepted_of_verified _ _ _ _ _ _ ?_
  rcases hrun : verifiedOidcJwtClaims (codePlatform expiringCode) issuerSettings issuerKeys
    1800000000 expiringToken with exception | found
  · rw [hrun] at hclaims
    cases hclaims
  · rw [hrun] at hclaims
    exact congrArg Except.ok (Option.some.inj hclaims)

/-- The token of `{"iss": "https://idp", "sub": "alice"}`, and its code. -/
def lastingToken : String :=
  "eyJhbGciOiJIUzI1NiJ9.eyJpc3MiOiJodHRwczovL2lkcCIsInN1YiI6ImFsaWNlIn0." ++
    "asP4QlmS0mZE8x2COMEB0vkunbpcSU8VsBu4HmqoaDw"

def lastingCode : List UInt8 :=
  [106, 195, 248, 66, 89, 146, 210, 102, 68, 243, 29, 130, 56, 193, 1, 210, 249, 46, 157, 186,
   92, 73, 79, 21, 176, 27, 184, 30, 106, 168, 104, 60]

/-- A token without an expiry is accepted. -/
theorem lastingToken_verified :
    (verifiedOidcJwtClaims (codePlatform lastingCode) issuerSettings issuerKeys 1800000000
      lastingToken).toOption = some (some [("iss", .str "https://idp"), ("sub", .str "alice")]) ∧
      get? [("iss", .str "https://idp"), ("sub", .str "alice")] "exp" = none := by
  decide +kernel

end SchemaPilot.SharedDomain.Jwt
