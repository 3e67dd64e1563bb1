import SchemaPilot.SharedDomain.JwtAuth
import Mathlib.Algebra.Order.Ring.Rat
import Mathlib.Tactic.Linarith

/-!
# The cached key sets

`_load_jwks_keys` of `backend/shared_domain/auth.py` keeps an answer of the endpoint until its lifetime is
over. So a token is accepted only under keys of an answer no older than that (`accepted_under_fresh_keys`).
-/

namespace SchemaPilot.SharedDomain.Jwt

open Library Library.Json

structure JwksSettings extends OidcSettings where
  jwksUrl : Option String
  jwksCacheTtlSeconds : ℤ

/-- The seconds an answer is kept. -/
def JwksSettings.lifetime (settings : JwksSettings) : ℚ := (max 1 settings.jwksCacheTtlSeconds : ℤ)

structure JwksCacheEntry where
  expiresAt : ℚ
  keys : List Fields

abbrev JwksCache := String → Option JwksCacheEntry

/-- A call of `_load_jwks_keys`, with what the endpoint would answer it, nothing where it fails. -/
structure JwksCall where
  settings : JwksSettings
  now : ℚ
  answer : Option String

/-- `_resolve_jwks_url`. -/
def resolveJwksUrl (settings : JwksSettings) : Option String :=
  ((settings.jwksUrl.filter (Text.strip · ≠ "")).map Text.strip).or
    ((settings.requiredIssuer.filter (Text.strip · ≠ "")).map fun issuer ↦
      String.ofList (issuer.toList.rdropWhile (· = '/')) ++ "/.well-known/jwks.json")

/-- `_fetch_jwks_keys`. -/
def fetchJwksKeys (reader : FloatReader) (answer : Option String) : List Fields :=
  let parsed := answer.bind (loads reader)
  let listed := ((parsed.bind asObj?).map (get? · "keys")).getD parsed
  ((listed.bind asArr?).getD []).filterMap asObj?

/-- `_load_jwks_keys`. -/
def loadJwksKeys (reader : FloatReader) (call : JwksCall) (cache : JwksCache) :
    List Fields × JwksCache :=
  match resolveJwksUrl call.settings with
  | none => ([], cache)
  | some url =>
    match (cache url).filter (call.now < ·.expiresAt) with
    | some entry => (entry.keys, cache)
    | none =>
      let keys := fetchJwksKeys reader call.answer
      if keys = [] then ([], cache)
      else (keys, Function.update cache url
        (some ⟨call.now + call.settings.lifetime, keys⟩))

/-- The cache after some calls. -/
def jwksCache (reader : FloatReader) (calls : List JwksCall) : JwksCache :=
  calls.foldl (fun cache call ↦ (loadJwksKeys reader call cache).2) fun _ ↦ none

/-- The entries are answers to calls. -/
def Sourced (reader : FloatReader) (calls : List JwksCall) (cache : JwksCache) : Prop :=
  ∀ url entry, cache url = some entry → ∃ served ∈ calls,
    resolveJwksUrl served.settings = some url ∧ fetchJwksKeys reader served.answer = entry.keys ∧
      entry.expiresAt = served.now + served.settings.lifetime

/-- Keys that are loaded are those of an answer to one of the calls, no older than it may be. -/
theorem Sourced.load {reader : FloatReader} {calls : List JwksCall} {cache : JwksCache}
    (h : Sourced reader calls cache) (call : JwksCall) :
    Sourced reader (calls ++ [call]) (loadJwksKeys reader call cache).2 ∧
      ((loadJwksKeys reader call cache).1 ≠ [] → ∃ served ∈ calls ++ [call],
        resolveJwksUrl served.settings = resolveJwksUrl call.settings ∧
        fetchJwksKeys reader served.answer = (loadJwksKeys reader call cache).1 ∧
        call.now < served.now + served.settings.lifetime) := by
  have hgrown : Sourced reader (calls ++ [call]) cache := fun url entry hentry ↦ by
    obtain ⟨served, hserved, hsame⟩ := h url entry hentry
    exact ⟨served, List.mem_append_left _ hserved, hsame⟩
  have hself : call ∈ calls ++ [call] := List.mem_append_right _ (List.mem_singleton.mpr rfl)
  unfold loadJwksKeys
  cases hurl : resolveJwksUrl call.settings with
  | none => exact ⟨hgrown, fun hkeys ↦ absurd rfl hkeys⟩
  | some url =>
    dsimp only
    cases hcached : (cache url).filter (call.now < ·.expiresAt) with
    | some entry =>
      obtain ⟨hentry, hfresh⟩ := Option.filter_eq_some_iff.mp hcached
      obtain ⟨served, hserved, hsame, hkeys, hexpires⟩ := hgrown url entry hentry
      exact ⟨hgrown, fun _ ↦ ⟨served, hserved, hsame, hkeys, hexpires ▸ of_decide_eq_true hfresh⟩⟩
    | none =>
      dsimp only
      split_ifs with hkeys
      · exact ⟨hgrown, fun hkeys ↦ absurd rfl hkeys⟩
      · refine ⟨fun other entry hentry ↦ ?_, fun _ ↦ ⟨call, hself, hurl, rfl, ?_⟩⟩
        · dsimp only at hentry
          by_cases hother : other = url
          · subst hother
            rw [Function.update_self] at hentry
            cases hentry
            exact ⟨call, hself, hurl, rfl, rfl⟩
          · rw [Function.update_of_ne hother] at hentry
            exact hgrown other entry hentry
        · have hlifetime : 0 < call.settings.lifetime :=
            Int.cast_pos.mpr (lt_of_lt_of_le one_pos (le_max_left _ _))
          linarith

theorem sourced_jwksCache (reader : FloatReader) (calls : List JwksCall) :
    Sourced reader calls (jwksCache reader calls) := by
  induction calls using List.reverseRecOn with
  | nil => exact fun url entry hentry ↦ nomatch hentry
  | append_singleton calls call ih =>
    rw [jwksCache, List.foldl_append]
    exact (ih.load call).1

/-- Over any calls, a token that is accepted is signed under keys that the endpoint has answered within
the lifetime of the cache, so a key it no longer answers with is out of use when that is over. -/
theorem accepted_under_fresh_keys (platform : JwtPlatform) (calls : List JwksCall) (call : JwksCall)
    {now : ℤ} {token : String} {claims : Fields}
    (h : verifiedOidcJwtClaims platform call.settings.toOidcSettings
      (loadJwksKeys platform.reader call (jwksCache platform.reader calls)).1 now token =
        .ok (some claims)) :
    ∃ served ∈ calls ++ [call],
      resolveJwksUrl served.settings = resolveJwksUrl call.settings ∧
      call.now < served.now + served.settings.lifetime ∧
      signedClaims platform call.settings.toOidcSettings
        (fetchJwksKeys platform.reader served.answer) token = some claims := by
  unfold verifiedOidcJwtClaims at h
  split at h
  · cases h
  · next found hsigned =>
    split_ifs at h
    · obtain ⟨current, -, hdone⟩ := (bind_eq_ok_iff _ _ _).mp h
      cases current with
      | false => cases hdone
      | true =>
        cases hdone
        obtain ⟨_, _, _, _, _, _, _, _, _, _, _, key, hkey, -⟩ := signed_of_signedClaims hsigned
        obtain ⟨served, hserved, hurl, hkeys, hfresh⟩ :=
          ((sourced_jwksCache platform.reader calls).load call).2 (List.ne_nil_of_mem hkey)
        exact ⟨served, hserved, hurl, hfresh, hkeys ▸ hsigned⟩
    · cases h

theorem eq_ok_of_toOption {ε α : Type} {result : Except ε α} {value : α}
    (h : result.toOption = some value) : result = .ok value := by
  cases result with
  | error exception => cases h
  | ok found => exact congrArg Except.ok (Option.some.inj h)

/-- A call for the keys of the issuer, which are kept for five minutes. -/
def issuerCall (now : ℚ) (answer : Option String) : JwksCall :=
  ⟨⟨issuerSettings, none, 300⟩, now, answer⟩

/-- The answer with the keys of the issuer. -/
def issuerAnswer : String := dumps (.obj [("keys", .arr (issuerKeys.map Json.obj))])

/-- The token is accepted under the keys of an earlier answer while the endpoint fails. -/
theorem expiringToken_fresh :
    let calls := [issuerCall 1800000000 (some issuerAnswer)]
    ∃ served ∈ calls ++ [issuerCall 1800000100 none],
      (1800000100 : ℚ) < served.now + served.settings.lifetime ∧
      signedClaims (codePlatform expiringCode) issuerSettings
        (fetchJwksKeys (codePlatform expiringCode).reader served.answer) expiringToken =
          some [("iss", .str "https://idp"), ("exp", .int 1800000300)] := by
  intro calls
  have hclaims : (verifiedOidcJwtClaims (codePlatform expiringCode) issuerSettings
      (loadJwksKeys (codePlatform expiringCode).reader (issuerCall 1800000100 none)
        (jwksCache (codePlatform expiringCode).reader calls)).1 1800000000 expiringToken).toOption =
          some (some [("iss", .str "https://idp"), ("exp", .int 1800000300)]) := by decide +kernel
  obtain ⟨served, hserved, -, hfresh, hsigned⟩ := accepted_under_fresh_keys
    (codePlatform expiringCode) calls (issuerCall 1800000100 none) (eq_ok_of_toOption hclaims)
  exact ⟨served, hserved, hfresh, hsigned⟩

end SchemaPilot.SharedDomain.Jwt
