import SchemaPilot.Gateway.CacheCoherence

/-!
# What callers share through the cache

A query is served rows only that were stored by queries that agree with it in the workspace, the
actor, its roles and attributes, the text, the datasets, the row filter, the masks, the limits and
the policy pack (`cache_isolation`). The rows are thus those of an execution under its own row
filter, masked by its own masks.
-/

namespace SchemaPilot.Gateway

open Library Library.Program Library.Text Library.Json SharedDomain

variable {platform : Platform} {settings : Settings} {limits : QueryCacheSettings}
  {engines : Engines} {published : String → GoldStore}
  {config : Configuration GatewayOp GatewayOp.Answer Exn Request QueryResponse SharedStores}

/-- The rows a lookup found were stored by a query, and every query that stored rows under the key of
the lookup agrees with the query that is served in everything the key is made of, and stored what it
executed under that row filter and those masks. -/
theorem cache_isolation
    (hreach : (cacheSystem platform settings limits engines).Reachable ⟨[], published⟩ config) :
    ∀ thread ∈ config.threads,
      ∀ (lookup : QueryLookup platform settings thread.request thread.history) rows,
        lookup.found = .ok (some rows) →
          SetBy config.threads lookup.checked.cacheKey rows ∧
          ∀ thread' ∈ config.threads, ∀ rows' answer,
            ⟨.cacheSet lookup.checked.cacheKey rows', answer⟩ ∈ thread'.history →
              ∃ lookup' : QueryLookup platform settings thread'.request thread'.history,
                SameCaller lookup lookup' ∧ ∃ executed rest result,
                  lookup'.later = executed ++ rest ∧
                  Run (execution settings lookup.context.workspaceId lookup.checked) executed
                    (.ok result) ∧
                  rows' = maskedRows platform lookup.checked result := by
  intro thread hthread lookup rows hfound
  refine ⟨(setBy_of_reachable hreach).2 thread hthread _ _ ?_, ?_⟩
  · rw [← hfound]
    exact (congrArg (_ ∈ ·) lookup.cut).mpr (by simp)
  intro thread' hthread' rows' answer hstore
  obtain ⟨lookup', hkey, executed, rest, result, hlater, hrun, hvalue⟩ :=
    stored_of_cacheSet (hreach.thread_after thread' hthread') hstore
  have hsame : SameCaller lookup lookup' := sameCaller_of_cacheKey hkey.symm
  refine ⟨lookup', hsame, executed, rest, result, hlater, ?_, ?_⟩
  · rw [hsame.execution_eq]
    exact hrun
  · rw [hsame.maskedRows_eq]
    exact hvalue

/-- The steward's second query is served what the first one stored. -/
theorem second_query_set_by_first :
    SetBy (servedTwice salesPointer) (stewardKey salesPointer) (modelRows "sales") :=
  (cache_isolation (reachable_servedTwice (Or.inl rfl) rfl rfl .refl .refl) _ (.tail _ (.head _))
    (stewardLookup "sales") (modelRows "sales") rfl).1

end SchemaPilot.Gateway
