import SchemaPilot.Gateway.Answers
import SchemaPilot.Gateway.CacheCoherence

/-!
# What the provenance of a query names

The `build_id` of a query's provenance is an id drawn for the response and its `snapshots` are
empty, over every history of publications and rollbacks and for rows from the engine and from the
cache alike, so the provenance names the build and the snapshot of no gold pointer
(`provenance_names_no_data`).
-/

namespace SchemaPilot.Gateway

open Library Library.Program Library.Json SharedDomain

/-- The provenance names the build of a pointer, and among its snapshots the one of the pointer. -/
def NamesData (provenance : Fields) (pointer : GoldPointer) : Prop :=
  get? provenance "build_id" = some (.str pointer.buildId) ∧
    ∃ snapshots, get? provenance "snapshots" = some (.arr snapshots) ∧
      ∃ row, .obj row ∈ snapshots ∧ get? row "snapshot_id" = some (.str pointer.snapshotId)

theorem not_namesData {provenance : Fields} (h : get? provenance "snapshots" = some (.arr []))
    (pointer : GoldPointer) : ¬NamesData provenance pointer := by
  rintro ⟨-, snapshots, hsnapshots, row, hrow, -⟩
  rw [h] at hsnapshots
  cases hsnapshots
  exact absurd hrow List.not_mem_nil

section Runs

variable {platform : Platform} {settings : Settings} {limits : QueryCacheSettings}
  {engines : Engines} {published : String → GoldStore}
  {config : Configuration GatewayOp GatewayOp.Answer Exn Request QueryResponse SharedStores}

/-- In every run of queries, publications and rollbacks the build id of a response is an id drawn
during its request, and its provenance names the data of no pointer. -/
theorem provenance_names_no_data
    (hreach : (cacheSystem platform settings limits engines).Reachable ⟨[], published⟩ config) :
    ∀ thread ∈ config.threads, ∀ response, thread.remaining = done (.ok response) →
      (∃ buildId, ⟨.newUlid, .ok buildId⟩ ∈ thread.history ∧
        get? response.provenance "build_id" = some (.str buildId)) ∧
      ∀ pointer, ¬NamesData response.provenance pointer := by
  intro thread hthread response hdone
  have hafter := hreach.thread_after thread hthread
  rw [hdone] at hafter
  constructor
  · obtain ⟨context, actor, policyPack, checked, rows, metadata, before, after, hevents, hanswer⟩ :=
      query_ok hafter
    obtain ⟨buildId, hdrawn, hbuild⟩ := queryAnswer_buildId hanswer
    rw [hevents]
    exact ⟨buildId, List.mem_append_right _ hdrawn, hbuild⟩
  · obtain ⟨decisionId, first, record, -, -, -, -, hsnapshots⟩ := query_answered hafter
    exact not_namesData hsnapshots

end Runs

/-- The steward's two queries, both answered with the rows of the model `sales`. -/
theorem steward_provenance_names_no_data :
    ∃ thread ∈ servedTwice salesPointer, ∃ response, thread.remaining = done (.ok response) ∧
      ¬NamesData response.provenance salesPointer := by
  have hreach := reachable_servedTwice (Or.inl rfl) rfl rfl .refl .refl
  refine ⟨_, .head _, _, rfl, ?_⟩
  exact (provenance_names_no_data hreach _ (.head _) _ rfl).2 salesPointer

/-- The steward's first query is executed on the published file of the pointer `sales`, the second
one finds its rows in the cache; neither response names the build and the snapshot of that
pointer. -/
theorem sales_rows_unnamed :
    ∃ config, stewardSystem.Reachable ⟨[], salesPublished⟩ config ∧
      ∃ executed ∈ config.threads, ∃ found ∈ config.threads, ∃ first second,
        executed.remaining = done (.ok first) ∧ found.remaining = done (.ok second) ∧
        ⟨.runDuckdb (some ⟨metricsPath "storage" "ws" "sales" "s1", "sales"⟩)
          "select * from gold.fact_metrics", .ok (modelRows "sales")⟩ ∈ executed.history ∧
        ⟨.cacheGet (stewardKey salesPointer), .ok (some (modelRows "sales"))⟩ ∈ found.history ∧
        first.rows = (modelRows "sales").rows ∧ second.rows = (modelRows "sales").rows ∧
        ¬NamesData first.provenance salesPointer ∧ ¬NamesData second.provenance salesPointer := by
  refine ⟨_, reachable_servedTwice (Or.inl rfl) rfl rfl .refl .refl, _, .head _, _,
    .tail _ (.head _), _, _, rfl, rfl, ?_, ?_, rfl, rfl, not_namesData rfl _, not_namesData rfl _⟩
  · exact .tail _ (.tail _ (.tail _ (.tail _ (.tail _ (.tail _ (.tail _ (.tail _ (.head _))))))))
  · exact .tail _ (.tail _ (.tail _ (.tail _ (.tail _ (.head _)))))

end SchemaPilot.Gateway
