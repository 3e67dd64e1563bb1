import SchemaPilot.SharedDomain.Errors

/-!
# Provenance and cost estimates

`build_provenance_v1` of `backend/shared_domain/provenance.py`, for callers that pass no snapshots,
and the estimates of `backend/shared_domain/costing.py`.
-/

namespace SchemaPilot.SharedDomain

open Library Library.Text Library.Json

structure PolicyPack where
  packId : String
  version : ℤ
deriving DecidableEq

def PolicyPack.toFields (pack : PolicyPack) : Fields :=
  [("pack_id", .str pack.packId), ("version", .int pack.version)]

/-- `sorted({str(item) for item in items if str(item)})`. -/
def nonEmptyTexts (texts : List String) : Json := textList (sortedTexts (texts.filter (· ≠ "")))

/-- The fields `_validate_provenance_v1` requires to be non-blank. -/
def blankProvenanceField? (workspaceId policyDecisionId queryId buildId : String) :
    Option String :=
  ([("workspace_id", workspaceId), ("policy_decision_id", policyDecisionId), ("query_id", queryId),
    ("build_id", buildId)].find? fun field ↦ strip field.2 = "").map Prod.fst

/-- `build_provenance_v1`. -/
def buildProvenanceV1 (workspaceId policyDecisionId : String) (datasetsUsed : List String)
    (buildId queryId decisionReason : String) (appliedFilters appliedMasks : Fields)
    (citations allowedDatasetIds : Option (List String)) (policyPack : Option PolicyPack) :
    Except Exn Fields :=
  match blankProvenanceField? workspaceId policyDecisionId queryId buildId with
  | some field => .error (.valueError ("invalid_provenance_field:" ++ field))
  | none => .ok <|
      [("provenance_version", .str "1"), ("workspace_id", .str workspaceId),
        ("policy_decision_id", .str policyDecisionId), ("query_id", .str queryId),
        ("build_id", .str buildId), ("datasets_used", nonEmptyTexts datasetsUsed),
        ("snapshots", .arr []), ("decision_reason", .str decisionReason),
        ("applied_filters", .obj appliedFilters), ("applied_masks", .obj appliedMasks)] ++
      (citations.map fun texts ↦ ("citations", nonEmptyTexts texts)).toList ++
      (allowedDatasetIds.map fun texts ↦ ("allowed_dataset_ids", nonEmptyTexts texts)).toList ++
      (policyPack.map fun pack ↦ ("policy_pack", Json.obj pack.toFields)).toList

/-- `max(len(text.encode("utf-8")), 1)`. -/
def textBytes (text : String) : ℕ := max text.utf8ByteSize 1

/-- `estimate_query_cost_bytes`. -/
def estimateQueryCostBytes (queryText : String) (rowCount columnCount : ℕ) : ℕ :=
  textBytes queryText + rowCount * max columnCount 1 * 32

/-- `estimate_retrieval_cost_bytes`. -/
def estimateRetrievalCostBytes (queryText : String) (resultCount : ℕ) : ℕ :=
  textBytes queryText + resultCount * 256

/-- `enforce_budget`. -/
def enforceBudget (estimatedBytes : ℕ) (budgetBytes : ℤ) : Bool :=
  (estimatedBytes : ℤ) ≤ max budgetBytes 0

end SchemaPilot.SharedDomain
