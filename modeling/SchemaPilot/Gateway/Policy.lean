import SchemaPilot.SharedDomain.Errors
import SchemaPilot.Library.Sql

/-!
# Access policy, ABAC and masks

`evaluate_access` of `backend/gateway/policy.py` and `evaluate_abac`, `evaluate_internal_abac` and
`apply_mask` of `backend/gateway/abac.py`. The lists of applied filters and masks of an access
decision are always empty and left out. `hashlib.sha256(...).hexdigest()` of a text is the parameter
`sha256Hex`.
-/

namespace SchemaPilot.Gateway

open Library Library.Text Library.Json SharedDomain

/-- `dict` of a value, empty where it is none. -/
def dictOrEmpty (value : Option Json) : Fields := (value.bind asObj?).getD []

/-- `list` of a value, empty where it is none. -/
def listOrEmpty (value : Option Json) : List Json := (value.bind asArr?).getD []

/-- `AccessDecision`. -/
structure AccessDecision where
  result : String
  reason : String
deriving DecidableEq

/-- `evaluate_access`. -/
def evaluateAccess (actor : Fields) (allowAi : Bool) : AccessDecision :=
  let actorType := lower (getD actor "actor_type" (.str "")).toStr
  if actorType = "ai" then
    if allowAi then ⟨"allow", "ai_allowlisted"⟩ else ⟨"deny", "ai_tool_deny_by_default"⟩
  else
    let roles := (listOrEmpty (get? actor "roles")).map toStr
    if roles = [] then ⟨"deny", "missing_roles"⟩
    else if "analyst" ∈ roles ∨ "data_steward" ∈ roles ∨ "platform_admin" ∈ roles then
      ⟨"allow", "explicit_role_allow"⟩
    else ⟨"deny", "role_not_allowed"⟩

/-- `AbacDecision`: a row filter is a column and the value it must have, the masks are the modes by
column name. -/
structure AbacDecision where
  allow : Bool
  reason : String
  rowFilter : Option (String × String)
  masks : List (String × String)
deriving DecidableEq

/-- The `region` attribute of an actor, as text. -/
def actorRegion (actor : Fields) : String :=
  (getD (dictOrEmpty (get? actor "attributes")) "region" (.str "")).toStr

/-- `"analyst" in roles`, which no item but the string itself equals. -/
def isAnalyst (actor : Fields) : Bool :=
  (listOrEmpty (get? actor "roles")).any fun
    | .str role => role == "analyst"
    | _ => false

/-- `evaluate_internal_abac`. -/
def evaluateInternalAbac (actor resourceAttributes : Fields) : AbacDecision :=
  let region := actorRegion actor
  let resourceRegion := (getD resourceAttributes "region" (.str "")).toStr
  if resourceRegion ≠ "" ∧ region ≠ "" ∧ region ≠ resourceRegion then
    { allow := false, reason := "region_mismatch", rowFilter := none, masks := [] }
  else
    { allow := true
      reason := "internal_abac_allow"
      rowFilter := if region = "" then none else some ("region", region)
      masks := if isAnalyst actor then [("email", "partial_reveal")] else [] }

/-- `evaluate_abac`: the adapter of the OPA mode is disabled, so that mode always denies. -/
def evaluateAbac (actor resourceAttributes : Fields) (mode : String) : AbacDecision :=
  if lower mode = "opa" then
    { allow := false, reason := "opa_unavailable", rowFilter := none, masks := [] }
  else evaluateInternalAbac actor resourceAttributes

/-- `text[:1] + "*" * (len(text) - 2) + text[-1:]`, all stars up to two characters. -/
def partialReveal (text : String) : String :=
  let chars := text.toList
  if chars.length ≤ 2 then String.ofList (List.replicate chars.length '*')
  else String.ofList
    (chars.take 1 ++ List.replicate (chars.length - 2) '*' ++ chars.drop (chars.length - 1))

/-- `apply_mask`. -/
def applyMask (sha256Hex : String → String) (value : Sql.Cell) (mode : String) : Sql.Cell :=
  if mode = "null" then .null
  else if mode = "hash" then .text (sha256Hex value.toStr)
  else if mode = "partial_reveal" then .text (partialReveal value.toStr)
  else value

/-- An allowed decision carries the region of the actor as row filter and at most the mask of the
`email` column. -/
theorem evaluateAbac_cases (actor resourceAttributes : Fields) (mode : String) :
    ((evaluateAbac actor resourceAttributes mode).allow = false ∧
      (evaluateAbac actor resourceAttributes mode).rowFilter = none ∧
      (evaluateAbac actor resourceAttributes mode).masks = []) ∨
    ((evaluateAbac actor resourceAttributes mode).allow = true ∧
      (evaluateAbac actor resourceAttributes mode).rowFilter =
        (if actorRegion actor = "" then none else some ("region", actorRegion actor)) ∧
      (evaluateAbac actor resourceAttributes mode).masks =
        if isAnalyst actor then [("email", "partial_reveal")] else []) := by
  unfold evaluateAbac
  by_cases hopa : lower mode = "opa"
  · rw [if_pos hopa]
    exact Or.inl ⟨rfl, rfl, rfl⟩
  rw [if_neg hopa, evaluateInternalAbac]
  by_cases hmismatch : (getD resourceAttributes "region" (.str "")).toStr ≠ "" ∧
      actorRegion actor ≠ "" ∧
      actorRegion actor ≠ (getD resourceAttributes "region" (.str "")).toStr
  · rw [if_pos hmismatch]
    exact Or.inl ⟨rfl, rfl, rfl⟩
  · rw [if_neg hmismatch]
    exact Or.inr ⟨rfl, rfl, rfl⟩

end SchemaPilot.Gateway
