import SchemaPilot.Gateway.Policy
import SchemaPilot.Library.Interleaving
import SchemaPilot.SharedDomain.GoldPointer
import SchemaPilot.SharedDomain.RateLimit

/-!
# What the gateway calls

The operations of a gateway request that leave the handler's own variables: the identifier source,
authentication, the database, the rate limiter, the query cache, the files of the storage root, the
SQL engines and the retrieval backends. A handler is a program over them (`Handler`), so what is
shown of it holds for every behaviour of these parts. Logging, metrics and the latency clock have no
part in any answer and are left out; connection parameters of the backends belong to the operation.
-/

namespace SchemaPilot.Gateway

open Library SharedDomain

structure Settings where
  queryEngine : String
  storageRoot : String
  queryMaxBytes : ℤ
  retrievalBackend : String
  opensearchEnabled : Bool
  qdrantEnabled : Bool
  retrievalMaxBytes : ℤ

structure Column where
  name : String
  type : String
deriving DecidableEq

/-- The columns and rows an engine returned or the cache holds. -/
structure Rows where
  columns : List Column
  rows : List (List Sql.Cell)
deriving DecidableEq

/-- The two views `_prepare_published_gold_views` creates: the file they read and the name of the
second one. -/
structure PublishedViews where
  dataPath : List String
  modelView : String
deriving DecidableEq

/-- A row of `access_decisions` with the reason of its audit event. -/
structure AccessRecord where
  auditEventId : String
  workspaceId : String
  actorId : String
  result : String
  reason : String
  requestContext : Fields
  resources : Fields
  appliedFilters : Fields
  appliedMasks : Fields
  policyDecisionId : String
  eventType : String
  correlationId : String

inductive GatewayOp where
  /-- `new_ulid()`. -/
  | newUlid
  /-- `authenticated_actor_from_request`. -/
  | authenticatedActor
  /-- The first active governance policy of a workspace and type, by its `definition_ref`. -/
  | activePolicy (workspaceId policyType : String)
  /-- The workspace a dataset is catalogued under. -/
  | datasetWorkspace (datasetId : String)
  /-- The `sensitivity_summary_json` of datasets of a workspace. -/
  | datasetSummaries (workspaceId : String) (datasetIds : List String)
  /-- `try_acquire`. -/
  | tryAcquire (actorId : String)
  /-- `release`. -/
  | release (actorId : String)
  /-- The transaction that writes an access decision with its audit event and hands the event to
  the sink or the outbox. -/
  | commitAccessDecision (record : AccessRecord)
  /-- `load_latest_gold_pointer`. -/
  | latestGoldPointer (workspaceId : String)
  /-- `query_cache.get`. -/
  | cacheGet (key : String)
  /-- `query_cache.set`. -/
  | cacheSet (key : String) (value : Rows)
  /-- `Path.exists`. -/
  | pathExists (path : List String)
  /-- A query on a fresh in-memory DuckDB in which the views, if any, were created. -/
  | runDuckdb (views : Option PublishedViews) (query : String)
  /-- More than a number of milliseconds went by since the query started. -/
  | elapsedExceeds (budgetMs : ℤ)
  /-- `execute_sql_trino_with_metadata`. -/
  | runTrino (query : String) (maxRows timeoutMs : ℤ)
  /-- `load_retrieval_corpus`. -/
  | retrievalCorpus (workspaceId : String)
  /-- `_request_search` of the OpenSearch adapter. -/
  | searchOpensearch (payload : Json)
  /-- `embeddings_provider.embed`. -/
  | embed (text : String)
  /-- `_request_search` of the Qdrant adapter. -/
  | searchQdrant (payload : Json)

/-- What the calls answer. A `definition_ref` is `none` when it is no JSON. -/
@[reducible] def GatewayOp.Answer : GatewayOp → Type
  | newUlid => String
  | authenticatedActor => Option Fields
  | activePolicy _ _ => Option (Option Json)
  | datasetWorkspace _ => Option String
  | datasetSummaries _ _ => List (String × Json)
  | tryAcquire _ => RateLimitDecision
  | release _ => Unit
  | commitAccessDecision _ => Unit
  | latestGoldPointer _ => Option GoldPointer
  | cacheGet _ => Option Rows
  | cacheSet _ _ => Unit
  | pathExists _ => Bool
  | runDuckdb _ _ => Rows
  | elapsedExceeds _ => Bool
  | runTrino _ _ _ => Rows × Fields
  | retrievalCorpus _ => List Fields
  | searchOpensearch _ => Fields
  | embed _ => List Json
  | searchQdrant _ => Fields

/-- A program over the gateway's operations. -/
abbrev Handler (α : Type) := Program GatewayOp GatewayOp.Answer Exn α

abbrev ask (op : GatewayOp) : Handler op.Answer := Program.perform op

end SchemaPilot.Gateway
