import SchemaPilot.Gateway.PointerExecution

/-!
# Cached rows over whole runs

Any number of queries run side by side over one cache while pointers are published and rolled back
(`cacheSystem`). The key of a query names the snapshot and the build of the pointer it read, but
neither its model nor the pointer the execution reads again. So what a lookup serves is what
executing the query against its own pointer gives in every run in which the two pointers a query
reads select the same data, and the snapshot and build of a pointer determine the data it selects
(`cached_rows_coherent`).
-/

namespace SchemaPilot.Gateway

open Library Library.Program Library.Text Library.Json SharedDomain

/-! ### What a key determines -/

theorem get?_masksFields (masks : List (String × String)) (column : String) :
    get? (masksFields masks) column = (masks.lookup column).map Json.str := by
  induction masks with
  | nil => rfl
  | cons mask rest ih =>
    rw [masksFields, List.map_cons, get?_cons, List.lookup_cons, ← masksFields, ih]
    by_cases hcolumn : column = mask.1
    · rw [if_pos hcolumn, beq_iff_eq.mpr hcolumn]
      rfl
    · rw [if_neg hcolumn, beq_eq_false_iff_ne.mpr hcolumn]

theorem canon_textList_inj {texts texts' : List String}
    (h : canon (textList texts) = canon (textList texts')) : texts = texts' := by
  have hitems : ∀ texts : List String, canonItems (texts.map str) = texts.map str := by
    intro texts
    induction texts with
    | nil => rw [List.map_nil, canonItems]
    | cons text rest ih =>
      rw [List.map_cons, canonItems, ih]
      simp [canon]
  rw [textList, textList, canon, canon, hitems, hitems, Json.arr.injEq] at h
  exact List.map_injective_iff.mpr (fun a b hab ↦ by simpa using hab) h

theorem serializeRowFilter_inj {filter filter' : Option (String × String)}
    (h : canon (.obj (serializeRowFilter filter)) = canon (.obj (serializeRowFilter filter'))) :
    filter = filter' := by
  have hfields := get?_of_canon_eq h "row_filter"
  cases filter with
  | none =>
    cases filter' with
    | none => rfl
    | some pair => simp [serializeRowFilter, get?_cons] at hfields
  | some pair =>
    cases filter' with
    | none => simp [serializeRowFilter, get?_cons] at hfields
    | some pair' =>
      simp only [serializeRowFilter, get?_cons, if_true, Option.map_some,
        Option.some.injEq] at hfields
      have hcolumn := get?_of_canon_eq hfields "column"
      have hvalue := get?_of_canon_eq hfields "value"
      simp only [get?_cons, if_true, Option.map_some, Option.some.injEq, canon,
        Json.str.injEq] at hcolumn
      simp [get?_cons, canon] at hvalue
      rw [Prod.ext hcolumn hvalue]

theorem maskRow_congr (platform : Platform) {masks masks' : List (String × String)}
    (h : ∀ column, masks.lookup column = masks'.lookup column) (columns : List Column) :
    maskRow platform masks columns = maskRow platform masks' columns := by
  funext row
  simp only [maskRow, h]

theorem policyPackFields_inj {pack pack' : Option PolicyPack}
    (h : canon (.obj ((pack.map PolicyPack.toFields).getD [])) =
      canon (.obj ((pack'.map PolicyPack.toFields).getD []))) : pack = pack' := by
  have hid := get?_of_canon_eq h "pack_id"
  have hversion := get?_of_canon_eq h "version"
  cases pack with
  | none =>
    cases pack' with
    | none => rfl
    | some pack' => simp [PolicyPack.toFields, get?_cons] at hid
  | some pack =>
    cases pack' with
    | none => simp [PolicyPack.toFields, get?_cons] at hid
    | some pack' =>
      simp [PolicyPack.toFields, get?_cons, canon] at hid hversion
      obtain ⟨packId, version⟩ := pack
      rw [show packId = pack'.packId from hid, show version = pack'.version from hversion]

/-! ### The lookup of a query -/

/-- The cache lookup in a history of a query: the way in, the slot, the checks, the last of which read
`pointer` for the key, the lookup, and the calls after it. -/
structure QueryLookup (platform : Platform) (settings : Settings) (request : Request)
    (events : List GatewayEvent) where
  context : DecisionContext
  actor : Fields
  policyPack : Option PolicyPack
  checked : CheckedQuery
  pointer : Option GoldPointer
  found : Except Exn (Option Rows)
  wayIn : List GatewayEvent
  reason : String
  checks : List GatewayEvent
  later : List GatewayEvent
  workspace : context.workspaceId = workspaceIdOf request.payload
  entered : WayIn (workspaceIdOf request.payload) actor wayIn
  passed : Run (queryChecks platform settings context request.payload actor policyPack)
    (checks ++ [⟨.latestGoldPointer context.workspaceId, .ok pointer⟩]) (.ok checked)
  cut : events = wayIn ++ ⟨.tryAcquire (actorIdOf actor), .ok ⟨true, reason⟩⟩ ::
    (checks ++ [⟨.latestGoldPointer context.workspaceId, .ok pointer⟩]) ++
      ⟨.cacheGet checked.cacheKey, found⟩ :: later

section Lookup

variable {platform : Platform} {settings : Settings} {request : Request}
  {events : List GatewayEvent}

theorem QueryLookup.pointer_read (lookup : QueryLookup platform settings request events) :
    ⟨.latestGoldPointer lookup.context.workspaceId, .ok lookup.pointer⟩ ∈ events :=
  (congrArg (_ ∈ ·) lookup.cut).mpr (by simp)

theorem QueryLookup.later_subset (lookup : QueryLookup platform settings request events) :
    lookup.later ⊆ events := by
  intro event hevent
  exact (congrArg (event ∈ ·) lookup.cut).mpr (by simp [hevent])

/-- The key of a lookup is made of the pointer read for it. -/
theorem QueryLookup.cacheKey_eq (lookup : QueryLookup platform settings request events) :
    lookup.checked.cacheKey = dumps (.obj (cacheKeyFields settings lookup.context lookup.actor
      lookup.checked.target lookup.checked.abac lookup.checked.maxRows lookup.checked.timeoutMs
      lookup.policyPack lookup.pointer)) := by
  obtain ⟨first, pointer, hevents, -, -, -, hkey⟩ := queryChecks_ok lookup.passed
  have hlast := (List.append_inj' hevents rfl).2
  simp only [List.cons.injEq, and_true, Event.mk.injEq, heq_eq_eq, true_and,
    Except.ok.injEq] at hlast
  rw [hlast]
  exact hkey

/-- The calls before a lookup leave the cache alone. -/
theorem QueryLookup.mem_later {event : GatewayEvent}
    (lookup : QueryLookup platform settings request events) (hevent : event ∈ events)
    (hkind : event.op.kind = .cache) :
    event = ⟨.cacheGet lookup.checked.cacheKey, lookup.found⟩ ∨ event ∈ lookup.later := by
  rw [lookup.cut] at hevent
  rcases List.mem_append.mp hevent with hbefore | hafter
  · have hfree : event.op.kind ≠ .cache := by
      rcases List.mem_append.mp hbefore with hway | hchecks
      · intro hcache
        rcases lookup.entered.2 event hway with hop | hop | rfl
        · rw [hop] at hcache
          cases hcache
        · rw [hop] at hcache
          cases hcache
        · cases hcache
      · rcases List.mem_cons.mp hchecks with rfl | hchecks
        · simp [GatewayOp.kind]
        · have hkinds := ((calling_queryChecks _ _ _ _ _ _).after lookup.passed).1 event hchecks
          intro hcache
          rw [hcache] at hkinds
          exact absurd hkinds (by decide)
    exact absurd hkind hfree
  · exact List.mem_cons.mp hafter

/-- Two queries agree in everything a key is made of; what is JSON agrees up to the order of the
fields of its objects. -/
structure SameCaller {request' : Request} {events' : List GatewayEvent}
    (lookup : QueryLookup platform settings request events)
    (lookup' : QueryLookup platform settings request' events') : Prop where
  workspaceId : lookup.context.workspaceId = lookup'.context.workspaceId
  actorId : actorIdOf lookup.actor = actorIdOf lookup'.actor
  roles : canon (.arr (listOrEmpty (get? lookup.actor "roles"))) =
    canon (.arr (listOrEmpty (get? lookup'.actor "roles")))
  attributes : canon (.obj (attributesOf lookup.actor)) = canon (.obj (attributesOf lookup'.actor))
  queryText : lookup.checked.target.queryText = lookup'.checked.target.queryText
  datasetsUsed : lookup.checked.target.datasetsUsed.insertionSort (· ≤ ·) =
    lookup'.checked.target.datasetsUsed.insertionSort (· ≤ ·)
  rowFilter : lookup.checked.abac.rowFilter = lookup'.checked.abac.rowFilter
  masks : ∀ column, lookup.checked.abac.masks.lookup column =
    lookup'.checked.abac.masks.lookup column
  maxRows : lookup.checked.maxRows = lookup'.checked.maxRows
  timeoutMs : lookup.checked.timeoutMs = lookup'.checked.timeoutMs
  policyPack : lookup.policyPack = lookup'.policyPack
  snapshotId : (lookup.pointer.map GoldPointer.snapshotId).getD "" =
    (lookup'.pointer.map GoldPointer.snapshotId).getD ""
  buildId : (lookup.pointer.map GoldPointer.buildId).getD "" =
    (lookup'.pointer.map GoldPointer.buildId).getD ""

/-- Queries with one key agree in everything it is made of. -/
theorem sameCaller_of_cacheKey {request' : Request} {events' : List GatewayEvent}
    {lookup : QueryLookup platform settings request events}
    {lookup' : QueryLookup platform settings request' events'}
    (h : lookup.checked.cacheKey = lookup'.checked.cacheKey) : SameCaller lookup lookup' := by
  rw [lookup.cacheKey_eq, lookup'.cacheKey_eq] at h
  have hfield := get?_of_dumps_eq h
  simp only [cacheKeyFields] at hfield
  have hroles := hfield "actor_roles"
  have hattributes := hfield "actor_attributes"
  have hdatasets := hfield "datasets_used"
  have hfilter := hfield "row_filter"
  have hmasks := hfield "masks"
  have hpack := hfield "policy_pack"
  simp only [get?_cons, String.reduceEq, if_false, if_true, Option.map_some,
    Option.some.injEq] at hroles hattributes hdatasets hfilter hmasks hpack
  exact {
    workspaceId := by simpa [get?_cons, canon] using hfield "workspace_id"
    actorId := by simpa [get?_cons, canon] using hfield "actor_id"
    roles := hroles
    attributes := hattributes
    queryText := by simpa [get?_cons, canon] using hfield "query_text"
    datasetsUsed := canon_textList_inj hdatasets
    rowFilter := serializeRowFilter_inj hfilter
    masks := by
      intro column
      have hlookup := get?_of_canon_eq hmasks column
      rw [get?_masksFields, get?_masksFields, Option.map_map, Option.map_map] at hlookup
      exact Option.map_injective (fun a b hab ↦ by simpa [canon] using hab) hlookup
    maxRows := by simpa [get?_cons, canon] using hfield "max_rows"
    timeoutMs := by simpa [get?_cons, canon] using hfield "timeout_ms"
    policyPack := policyPackFields_inj hpack
    snapshotId := by simpa [get?_cons, canon] using hfield "snapshot_id"
    buildId := by simpa [get?_cons, canon] using hfield "build_id" }

section SameCaller

variable {request' : Request} {events' : List GatewayEvent}
  {lookup : QueryLookup platform settings request events}
  {lookup' : QueryLookup platform settings request' events'}

theorem SameCaller.execution_eq (h : SameCaller lookup lookup') :
    execution settings lookup.context.workspaceId lookup.checked =
      execution settings lookup'.context.workspaceId lookup'.checked := by
  rw [execution, execution, CheckedQuery.executedText, CheckedQuery.executedText, h.queryText,
    h.maxRows, h.rowFilter, h.timeoutMs, h.workspaceId]

theorem SameCaller.maskedRows_eq (h : SameCaller lookup lookup') :
    maskedRows platform lookup.checked = maskedRows platform lookup'.checked := by
  funext result
  rw [maskedRows, maskedRows, maskRow_congr platform h.masks]

/-- Such queries execute alike against pointers that select the same data. -/
theorem SameCaller.executedRows_eq (h : SameCaller lookup lookup') (engines : Engines)
    (hdata : publishedData lookup.pointer = publishedData lookup'.pointer) :
    executedRows platform settings engines lookup.context.workspaceId lookup.checked
        lookup.pointer =
      executedRows platform settings engines lookup'.context.workspaceId lookup'.checked
        lookup'.pointer := by
  rw [executedRows_congr hdata, executedRows, executedRows, h.maskedRows_eq, h.execution_eq]

end SameCaller

/-- What a query does once its lookup was answered. -/
def afterLookup (platform : Platform) (settings : Settings) (context : DecisionContext)
    (actor : Fields) (policyPack : Option PolicyPack) (checked : CheckedQuery)
    (cached : Option Rows) : Handler QueryResponse := do
  let (rows, metadata) ← queryRows platform settings context actor checked cached
  queryAnswer settings context actor policyPack checked rows metadata

/-- A history of a query leaves the cache alone, or it has a lookup that failed and ended it, or one
that was answered. -/
theorem query_after {q : Handler QueryResponse}
    (h : After (query platform settings request) events q) :
    (∀ event ∈ events, event.op.kind ≠ .cache) ∨
    ∃ lookup : QueryLookup platform settings request events,
      (∃ exception, lookup.found = .error exception ∧ lookup.later = [] ∧
        q = done (.error exception)) ∨
      ∃ cached, lookup.found = .ok cached ∧
        After (afterLookup platform settings lookup.context lookup.actor lookup.policyPack
          lookup.checked cached) lookup.later q := by
  have hfree : ∀ event, Ungranted event → event.op.kind ≠ .cache := by
    rintro event (hkind | ⟨caller, answer, rfl, -⟩) hcache
    · rw [hcache] at hkind
      exact absurd hkind (by decide)
    · cases hcache
  rcases guarded_after h with hungranted | ⟨context, actor, policyPack, reason, wayIn, after,
    hworkspace, rfl, hway, hbody⟩
  · exact Or.inl fun event hevent ↦ hfree event (hungranted event hevent)
  rcases queryAdmitted_after hbody with hkinds | ⟨checked, first, found, later, rfl, hchecks, hrest⟩
  · refine Or.inl fun event hevent hcache ↦ ?_
    rcases List.mem_append.mp hevent with hmem | hmem
    · exact hfree event (hway.ungranted event hmem) hcache
    rcases List.mem_cons.mp hmem with rfl | hmem
    · cases hcache
    · have hkind := hkinds event hmem
      rw [hcache] at hkind
      exact absurd hkind (by decide)
  · obtain ⟨checks, pointer, rfl, -⟩ := queryChecks_ok hchecks
    refine Or.inr ⟨⟨context, actor, policyPack, checked, pointer, found, wayIn, reason, checks,
      later, hworkspace, hway, hchecks, by simp⟩, ?_⟩
    rcases hrest with ⟨exception, hfound, hlater, hq⟩ | ⟨cached, hfound, hafter⟩
    · exact Or.inl ⟨exception, hfound, hlater, hq⟩
    · exact Or.inr ⟨cached, hfound, hafter⟩

/-- A query looks its rows up once. -/
theorem only_afterLookup (platform : Platform) (settings : Settings) (context : DecisionContext)
    (actor : Fields) (policyPack : Option PolicyPack) (checked : CheckedQuery)
    (cached : Option Rows) :
    Only (fun op ↦ ∀ key, op ≠ .cacheGet key)
      (afterLookup platform settings context actor policyPack checked cached) := by
  have hother : ∀ {α : Type} {kinds : List OpKind} {p : Handler α}, Calling kinds p →
      OpKind.cache ∉ kinds → Only (fun op ↦ ∀ key, op ≠ .cacheGet key) p := by
    intro α kinds p hp hfree
    refine Only.mono (fun op hop key hkey ↦ hfree ?_) hp
    rw [hkey] at hop
    exact hop
  unfold afterLookup queryRows
  refine Only.bind ?_ fun answer ↦
    hother (calling_queryAnswer _ _ _ _ _ answer.1 answer.2) (by decide)
  cases cached with
  | some payload =>
    exact Only.bind ((only_perform _ _).mpr fun key hkey ↦ by cases hkey) fun _ ↦ only_ret _ _
  | none =>
    refine Only.bind (Only.tryFinally (hother (calling_executeChecked _ _ _ _) (by decide))
      ((only_perform _ _).mpr fun key hkey ↦ by cases hkey)) fun result ↦ ?_
    exact Only.bind ((only_perform _ _).mpr fun key hkey ↦ by cases hkey) fun _ ↦ only_ret _ _

theorem executeChecked_ok {context : DecisionContext} {actor : Fields} {checked : CheckedQuery}
    {result : QueryResult}
    (h : Run (executeChecked settings context actor checked) events (.ok result)) :
    Run (execution settings context.workspaceId checked) events (.ok result) := by
  unfold executeChecked at h
  rcases (run_tryExcept_iff _ _ _ _).mp h with ⟨value, hrun, heq⟩ |
    ⟨first, second, exception, -, -, hhandler⟩
  · cases heq
    rw [show (if checked.target.queryText = "" then "select 1 as one"
      else checked.target.queryText) = checked.executedText from rfl] at hrun
    exact hrun
  · have hfailed : ∃ raised, (.ok result : Except Exn QueryResult) = .error raised := by
      cases exception with
      | unsafeSql error => exact denyWith_run hhandler
      | queryTimeout error => exact denyWith_run hhandler
      | _ =>
        by_cases hfilter : checked.abac.rowFilter.isSome = true
        · simp only [hfilter, if_true] at hhandler
          exact denyWith_run hhandler
        · simp only [hfilter, Bool.false_eq_true, if_false] at hhandler
          rcases (run_bind_iff _ _ _ _).mp hhandler with ⟨raised, -, heq⟩ | ⟨_, _, _, -, -, hraise⟩
          · exact ⟨raised, heq⟩
          · exact ⟨_, ((run_raise_iff _ _ _).mp hraise).2⟩
    obtain ⟨raised, hfalse⟩ := hfailed
    cases hfalse

theorem queryRows_stores {context : DecisionContext} {actor : Fields} {checked : CheckedQuery}
    {cached : Option Rows} {q : Handler (Rows × Fields)} {key : String} {value : Rows}
    {answer : Except Exn Unit}
    (h : After (queryRows platform settings context actor checked cached) events q)
    (hstore : ⟨.cacheSet key value, answer⟩ ∈ events) :
    cached = none ∧ key = checked.cacheKey ∧ ∃ executed rest result, events = executed ++ rest ∧
      Run (execution settings context.workspaceId checked) executed (.ok result) ∧
      value = maskedRows platform checked result := by
  unfold queryRows at h
  cases cached with
  | some payload =>
    have hrelease : Calling [.limiter] (do
        ask (.release (actorIdOf actor))
        pure (payload, []) : Handler (Rows × Fields)) :=
      Only.bind (by simp [GatewayOp.kind]) fun _ ↦ only_ret _ _
    exact absurd ((hrelease.after h).1 _ hstore) (by simp [GatewayOp.kind])
  | none =>
    have hexecute : Calling [.identifier, .audit, .pointer, .file, .engine, .clock, .limiter]
        ((executeChecked settings context actor checked).tryFinally
          (ask (.release (actorIdOf actor)))) :=
      Only.tryFinally ((calling_executeChecked _ _ _ _).mono (by decide))
        (by simp [GatewayOp.kind])
    have hfree : ∀ {first : List GatewayEvent} {p : Handler QueryResult},
        After ((executeChecked settings context actor checked).tryFinally
          (ask (.release (actorIdOf actor)))) first p →
        (⟨.cacheSet key value, answer⟩ : GatewayEvent) ∉ first := fun hfirst hmem ↦
      absurd ((hexecute.after hfirst).1 _ hmem) (by simp [GatewayOp.kind])
    rcases (after_bind_iff _ _ _ _).mp h with ⟨_, _, hfirst, -⟩ | ⟨_, hfirst, -⟩ |
      ⟨first, second, result, rfl, hfirst, hstored⟩
    · exact absurd hstore (hfree hfirst)
    · exact absurd hstore (hfree hfirst)
    obtain ⟨executed, released, rfl, hexecuted, -⟩ := run_tryFinally_ok hfirst
    rcases List.mem_append.mp hstore with hmem | hmem
    · exact absurd hmem (hfree hfirst)
    have hsame : ∃ outcome, (⟨.cacheSet key value, answer⟩ : GatewayEvent) =
        ⟨.cacheSet checked.cacheKey (maskedRows platform checked result), outcome⟩ := by
      rcases (after_perform_bind_iff _ _ _ _).mp hstored with ⟨rfl, -⟩ | ⟨exception, rfl, -⟩ |
        ⟨_, rest, rfl, hpure⟩
      · exact absurd hmem List.not_mem_nil
      · exact ⟨_, List.mem_singleton.mp hmem⟩
      · obtain ⟨rfl, -⟩ := (after_done_iff _ _ _).mp hpure
        exact ⟨_, List.mem_singleton.mp hmem⟩
    obtain ⟨outcome, heq⟩ := hsame
    cases heq
    exact ⟨rfl, rfl, executed, released ++ second, result, by simp, executeChecked_ok hexecuted,
      rfl⟩

theorem afterLookup_stores {context : DecisionContext} {actor : Fields}
    {policyPack : Option PolicyPack} {checked : CheckedQuery} {cached : Option Rows}
    {q : Handler QueryResponse} {key : String} {value : Rows} {answer : Except Exn Unit}
    (h : After (afterLookup platform settings context actor policyPack checked cached) events q)
    (hstore : ⟨.cacheSet key value, answer⟩ ∈ events) :
    cached = none ∧ key = checked.cacheKey ∧ ∃ executed rest result, events = executed ++ rest ∧
      Run (execution settings context.workspaceId checked) executed (.ok result) ∧
      value = maskedRows platform checked result := by
  unfold afterLookup at h
  rcases (after_bind_iff _ _ _ _).mp h with ⟨_, _, hfirst, -⟩ | ⟨_, hfirst, -⟩ |
    ⟨first, second, ⟨rows, metadata⟩, rfl, hfirst, hanswer⟩
  · exact queryRows_stores hfirst hstore
  · exact queryRows_stores hfirst hstore
  · rcases List.mem_append.mp hstore with hmem | hmem
    · obtain ⟨hcached, hkey, executed, rest, result, rfl, hexecuted, hvalue⟩ :=
        queryRows_stores hfirst hmem
      exact ⟨hcached, hkey, executed, rest ++ second, result, by simp, hexecuted, hvalue⟩
    · have hkinds := ((calling_queryAnswer _ _ _ _ _ _ _).after hanswer).1 _ hmem
      exact absurd hkinds (by simp [GatewayOp.kind])

theorem afterLookup_answer {context : DecisionContext} {actor : Fields}
    {policyPack : Option PolicyPack} {checked : CheckedQuery} {rows : Rows}
    {response : QueryResponse}
    (h : Run (afterLookup platform settings context actor policyPack checked (some rows)) events
      (.ok response)) : response.columns = rows.columns ∧ response.rows = rows.rows := by
  unfold afterLookup at h
  obtain ⟨first, second, ⟨found, metadata⟩, rfl, hfirst, hanswer⟩ := h.bind_ok
  unfold queryRows at hfirst
  obtain ⟨_, rest, -, hpure⟩ := hfirst.perform_ok
  obtain ⟨-, heq⟩ := (run_pure_iff _ _ _).mp hpure
  cases heq
  obtain ⟨hcolumns, hrows, -⟩ := queryAnswer_ok hanswer
  exact ⟨hcolumns, hrows⟩

end Lookup

/-! ### Queries over one cache -/

/-- What the queries share: the cache, and the pointer files of each workspace. -/
structure SharedStores where
  cache : QueryCache
  published : String → GoldStore

/-- What a call answers and does to the stores. -/
def cacheExec (limits : QueryCacheSettings) (engines : Engines) (stores : SharedStores) :
    (op : GatewayOp) → Except Exn op.Answer → SharedStores → Prop
  | .latestGoldPointer workspaceId, answer, after =>
    (∀ pointer, answer = .ok pointer →
      pointer = (stores.published workspaceId).loadLatestGoldPointer) ∧ after = stores
  | .cacheGet key, answer, after => ∃ now,
    answer = .ok (stores.cache.get limits now key).1 ∧
      after = { stores with cache := (stores.cache.get limits now key).2 }
  | .cacheSet key value, answer, after => ∃ now,
    answer = .ok () ∧ after = { stores with cache := stores.cache.set limits now key value }
  | op, answer, after => Faithful engines ⟨op, answer⟩ ∧ after = stores

/-- A publication or a rollback in some workspace. -/
inductive PointerMove : SharedStores → SharedStores → Prop
  | publish (stores : SharedStores) (workspaceId buildId snapshotId modelName : String) :
    PointerMove stores { stores with
      published := Function.update stores.published workspaceId
        ((stores.published workspaceId).publishGoldPointer workspaceId buildId snapshotId
          modelName) }
  | rollback (stores : SharedStores) (workspaceId : String) (buildId : Option String)
      (moved : GoldPointer × GoldPointer) (store : GoldStore)
      (hrollback : (stores.published workspaceId).rollbackGoldPointer buildId =
        .ok (moved, store)) :
    PointerMove stores
      { stores with published := Function.update stores.published workspaceId store }

/-- The queries as a system of interleaved requests over one cache, pointers being published and
rolled back meanwhile. -/
def cacheSystem (platform : Platform) (settings : Settings) (limits : QueryCacheSettings)
    (engines : Engines) :
    System GatewayOp GatewayOp.Answer Exn Request QueryResponse SharedStores where
  handler := query platform settings
  exec := cacheExec limits engines
  outside := PointerMove

abbrev QueryThread := Thread GatewayOp GatewayOp.Answer Exn Request QueryResponse

/-- The pointers the queries read of a workspace select one data within a query, and their snapshot
and build determine it across queries. -/
structure Steady (threads : List QueryThread) : Prop where
  within : ∀ thread ∈ threads, ∀ workspaceId first second,
    ⟨.latestGoldPointer workspaceId, .ok first⟩ ∈ thread.history →
    ⟨.latestGoldPointer workspaceId, .ok second⟩ ∈ thread.history →
      publishedData first = publishedData second
  across : ∀ thread ∈ threads, ∀ thread' ∈ threads, ∀ workspaceId first second,
    ⟨.latestGoldPointer workspaceId, .ok first⟩ ∈ thread.history →
    ⟨.latestGoldPointer workspaceId, .ok second⟩ ∈ thread'.history →
    (first.map GoldPointer.snapshotId).getD "" = (second.map GoldPointer.snapshotId).getD "" →
    (first.map GoldPointer.buildId).getD "" = (second.map GoldPointer.buildId).getD "" →
      publishedData first = publishedData second

/-- A query executed what is stored under a key, having looked that key up. -/
def Stored (platform : Platform) (settings : Settings) (threads : List QueryThread) (key : String)
    (value : Rows) : Prop :=
  ∃ thread ∈ threads, ∃ lookup : QueryLookup platform settings thread.request thread.history,
    lookup.checked.cacheKey = key ∧ ∃ executed rest result, lookup.later = executed ++ rest ∧
      Run (execution settings lookup.context.workspaceId lookup.checked) executed (.ok result) ∧
      value = maskedRows platform lookup.checked result

section Runs

variable {platform : Platform} {settings : Settings} {limits : QueryCacheSettings}
  {engines : Engines} {published : String → GoldStore}
  {config : Configuration GatewayOp GatewayOp.Answer Exn Request QueryResponse SharedStores}

/-- A call puts nothing into the cache but the entry it stores, and finds nothing but what is in
it. -/
theorem cacheExec_cache {stores stores' : SharedStores} {op : GatewayOp}
    {answer : Except Exn op.Answer} (h : cacheExec limits engines stores op answer stores') :
    (∀ entry ∈ stores'.cache, entry ∈ stores.cache ∨ op = .cacheSet entry.1 entry.2.value) ∧
    ∀ key rows, (⟨op, answer⟩ : GatewayEvent) = ⟨.cacheGet key, .ok (some rows)⟩ →
      ∃ expiresAt, (key, ⟨rows, expiresAt⟩) ∈ stores.cache := by
  cases op with
  | latestGoldPointer workspaceId =>
    obtain ⟨-, rfl⟩ := h
    exact ⟨fun _ hentry ↦ Or.inl hentry, fun _ _ heq ↦ by cases heq⟩
  | cacheGet key =>
    obtain ⟨now, rfl, rfl⟩ := h
    have hget := @QueryCache.mem_of_get limits now stores.cache key
    refine ⟨fun entry hentry ↦ Or.inl (hget.2 entry hentry), fun other rows heq ↦ ?_⟩
    simp only [Event.mk.injEq, GatewayOp.cacheGet.injEq] at heq
    obtain ⟨rfl, heq⟩ := heq
    exact hget.1 rows (Except.ok.inj (eq_of_heq heq))
  | cacheSet key value =>
    obtain ⟨now, rfl, rfl⟩ := h
    refine ⟨fun entry hentry ↦ ?_, fun _ _ heq ↦ by cases heq⟩
    rcases QueryCache.mem_of_mem_set hentry with ⟨hkey, hvalue⟩ | hold
    · exact Or.inr (by rw [hkey, hvalue])
    · exact Or.inl hold
  | _ =>
    obtain ⟨-, rfl⟩ := h
    exact ⟨fun _ hentry ↦ Or.inl hentry, fun _ _ heq ↦ by cases heq⟩

theorem faithful_of_reachable
    (hreach : (cacheSystem platform settings limits engines).Reachable ⟨[], published⟩ config) :
    ∀ thread ∈ config.threads, ∀ event ∈ thread.history, Faithful engines event := by
  refine hreach.event_of_exec fun stores op answer stores' hexec ↦ ?_
  cases op with
  | latestGoldPointer workspaceId => trivial
  | cacheGet key => trivial
  | cacheSet key value => trivial
  | _ => exact hexec.1

theorem stored_of_cacheSet {thread : QueryThread} {key : String} {value : Rows}
    {answer : Except Exn Unit}
    (h : After (query platform settings thread.request) thread.history thread.remaining)
    (hstore : ⟨.cacheSet key value, answer⟩ ∈ thread.history) :
    ∃ lookup : QueryLookup platform settings thread.request thread.history,
      lookup.checked.cacheKey = key ∧ ∃ executed rest result, lookup.later = executed ++ rest ∧
        Run (execution settings lookup.context.workspaceId lookup.checked) executed
          (.ok result) ∧
        value = maskedRows platform lookup.checked result := by
  rcases query_after h with hfree | ⟨lookup, hended⟩
  · exact absurd rfl (hfree _ hstore)
  have hlater : ⟨.cacheSet key value, answer⟩ ∈ lookup.later := by
    rcases lookup.mem_later hstore rfl with heq | hlater
    · cases heq
    · exact hlater
  rcases hended with ⟨exception, -, hnone, -⟩ | ⟨cached, hfound, hafter⟩
  · rw [hnone] at hlater
    exact absurd hlater List.not_mem_nil
  · obtain ⟨-, hkey, hexecuted⟩ := afterLookup_stores hafter hlater
    exact ⟨lookup, hkey.symm, hexecuted⟩

/-- Some query made the call that stores a value under a key. -/
def SetBy (threads : List QueryThread) (key : String) (value : Rows) : Prop :=
  ∃ thread ∈ threads, ∃ answer, ⟨.cacheSet key value, answer⟩ ∈ thread.history

theorem SetBy.mono {threads threads' : List QueryThread} {key : String} {value : Rows}
    (h : ∀ thread ∈ threads, ∃ thread' ∈ threads', thread'.request = thread.request ∧
      ∃ more, thread'.history = thread.history ++ more)
    (hset : SetBy threads key value) : SetBy threads' key value := by
  obtain ⟨thread, hthread, answer, hstore⟩ := hset
  obtain ⟨thread', hthread', -, more, hmore⟩ := h thread hthread
  exact ⟨thread', hthread', answer, hmore ▸ List.mem_append_left more hstore⟩

/-- All the cache holds, and all it has served, was stored by some query. -/
theorem setBy_of_reachable
    (hreach : (cacheSystem platform settings limits engines).Reachable ⟨[], published⟩ config) :
    (∀ entry ∈ config.shared.cache, SetBy config.threads entry.1 entry.2.value) ∧
    ∀ thread ∈ config.threads, ∀ key rows, ⟨.cacheGet key, .ok (some rows)⟩ ∈ thread.history →
      SetBy config.threads key rows := by
  refine System.Reachable.invariant (fun config ↦
    (∀ entry ∈ config.shared.cache, SetBy config.threads entry.1 entry.2.value) ∧
    ∀ thread ∈ config.threads, ∀ key rows, ⟨.cacheGet key, .ok (some rows)⟩ ∈ thread.history →
      SetBy config.threads key rows) hreach
    ⟨fun _ hentry ↦ absurd hentry List.not_mem_nil,
      fun _ hthread ↦ absurd hthread List.not_mem_nil⟩ ?_
  rintro first second hfirst ⟨hentries, hserved⟩ hstep
  have hmono : ∀ {key value}, SetBy first.threads key value → SetBy second.threads key value :=
    SetBy.mono hstep.thread_extends
  cases hstep with
  | arrive stores threads request =>
    refine ⟨fun entry hentry ↦ hmono (hentries entry hentry), fun thread hthread key rows hhit ↦ ?_⟩
    rcases List.mem_append.mp hthread with hold | hnew
    · exact hmono (hserved thread hold key rows hhit)
    · rw [List.mem_singleton.mp hnew] at hhit
      exact absurd hhit List.not_mem_nil
  | call stores stores' before after request history op next answer hexec =>
    obtain ⟨hcache, hfound⟩ := cacheExec_cache hexec
    refine ⟨fun entry hentry ↦ ?_, fun thread hthread key rows hhit ↦ ?_⟩
    · rcases hcache entry hentry with hold | rfl
      · exact hmono (hentries entry hold)
      · exact ⟨_, List.mem_append_right _ (.head _), answer,
          List.mem_append_right _ (.head _)⟩
    · rcases List.mem_append.mp hthread with hold | hnew
      · exact hmono (hserved thread (List.mem_append_left _ hold) key rows hhit)
      rcases List.mem_cons.mp hnew with rfl | hold
      · rcases List.mem_append.mp hhit with hearlier | hlast
        · exact hmono (hserved ⟨request, history, .call op next⟩ (by simp) key rows hearlier)
        · obtain ⟨expiresAt, hentry⟩ := hfound key rows (List.mem_singleton.mp hlast).symm
          exact hmono (hentries _ hentry)
      · exact hmono (hserved thread (by simp [hold]) key rows hhit)
  | world stores stores' threads houtside =>
    have hsame : stores'.cache = stores.cache := by
      cases houtside <;> rfl
    exact ⟨fun entry hentry ↦ hentries entry (hsame ▸ hentry), hserved⟩

/-- All the cache has served was executed and stored by some query. -/
theorem stored_of_reachable
    (hreach : (cacheSystem platform settings limits engines).Reachable ⟨[], published⟩ config) :
    ∀ thread ∈ config.threads, ∀ key rows, ⟨.cacheGet key, .ok (some rows)⟩ ∈ thread.history →
      Stored platform settings config.threads key rows := by
  intro thread hthread key rows hhit
  obtain ⟨thread', hthread', answer, hstore⟩ :=
    (setBy_of_reachable hreach).2 thread hthread key rows hhit
  exact ⟨thread', hthread', stored_of_cacheSet (hreach.thread_after thread' hthread') hstore⟩

theorem lookup_of_hit {thread : QueryThread} {key : String} {rows : Rows}
    (h : After (query platform settings thread.request) thread.history thread.remaining)
    (hhit : ⟨.cacheGet key, .ok (some rows)⟩ ∈ thread.history) :
    (∃ lookup : QueryLookup platform settings thread.request thread.history,
      lookup.found = .ok (some rows)) ∧
    ∀ response, thread.remaining = done (.ok response) →
      response.columns = rows.columns ∧ response.rows = rows.rows := by
  rcases query_after h with hfree | ⟨lookup, hended⟩
  · exact absurd rfl (hfree _ hhit)
  have hhere := lookup.mem_later hhit rfl
  rcases hended with ⟨exception, hfound, hnone, -⟩ | ⟨cached, hfound, hafter⟩
  · rw [hnone, hfound] at hhere
    rcases hhere with heq | hlater
    · cases heq
    · exact absurd hlater List.not_mem_nil
  · have hsome : cached = some rows := by
      rcases hhere with heq | hlater
      · rw [hfound] at heq
        cases heq
        rfl
      · exact absurd rfl (((only_afterLookup _ _ _ _ _ _ _).after hafter).1 _ hlater key)
    rw [hsome] at hfound hafter
    refine ⟨⟨lookup, hfound⟩, fun response hresponse ↦ ?_⟩
    rw [hresponse] at hafter
    exact afterLookup_answer hafter

/-- What a query looked up and found in the cache is what executing it against the pointer its key
was computed from gives, and it is what the query answers, in every run in which the pointers read
are steady. -/
theorem cached_rows_coherent
    (hreach : (cacheSystem platform settings limits engines).Reachable ⟨[], published⟩ config)
    (hsteady : Steady config.threads) :
    ∀ thread ∈ config.threads, ∀ key rows,
      ⟨.cacheGet key, .ok (some rows)⟩ ∈ thread.history →
        (∃ lookup : QueryLookup platform settings thread.request thread.history,
          lookup.found = .ok (some rows)) ∧
        (∀ lookup : QueryLookup platform settings thread.request thread.history,
          lookup.found = .ok (some rows) →
            executedRows platform settings engines lookup.context.workspaceId lookup.checked
              lookup.pointer = .ok rows) ∧
        ∀ response, thread.remaining = done (.ok response) →
          response.columns = rows.columns ∧ response.rows = rows.rows := by
  intro thread hthread key rows hhit
  obtain ⟨hlookup, hresponse⟩ := lookup_of_hit (hreach.thread_after thread hthread) hhit
  refine ⟨hlookup, fun lookup hfound ↦ ?_, hresponse⟩
  have hserved : ⟨.cacheGet lookup.checked.cacheKey, .ok (some rows)⟩ ∈ thread.history := by
    rw [← hfound]
    exact (congrArg (_ ∈ ·) lookup.cut).mpr (by simp)
  obtain ⟨thread', hthread', lookup', hkey, executed, rest, result, hlater, hrun, rfl⟩ :=
    stored_of_reachable hreach thread hthread _ _ hserved
  have hsubset : ∀ event ∈ executed, event ∈ thread'.history := fun event hevent ↦
    lookup'.later_subset (hlater ▸ List.mem_append_left rest hevent)
  -- the query that stored the rows executed against data of the pointer of its own key
  have hexecuted : executedRows platform settings engines lookup'.context.workspaceId
      lookup'.checked lookup'.pointer = .ok (maskedRows platform lookup'.checked result) := by
    have heval := executeSql_run hrun
      (fun event hevent ↦ faithful_of_reachable hreach thread' hthread' event
        (hsubset event hevent))
      fun read hread ↦ hsteady.within thread' hthread' _ _ _ (hsubset _ hread)
        lookup'.pointer_read
    rw [executedRows, execution, heval]
    rfl
  have hsame := sameCaller_of_cacheKey hkey
  rw [← hexecuted, ← hsame.executedRows_eq engines]
  refine hsteady.across thread' hthread' thread hthread _ _ _ lookup'.pointer_read ?_
    hsame.snapshotId hsame.buildId
  rw [hsame.workspaceId]
  exact lookup.pointer_read

end Runs

/-! ### A rollback after a late store -/

def steward : Fields :=
  [("actor_id", .str "s1"), ("actor_type", .str "human"), ("roles", .arr [.str "data_steward"])]

/-- The steward's query of the published table. -/
def stewardRequest : Request :=
  ⟨[("workspace_id", .str "ws"),
    ("query", .obj [("text", .str "select * from gold.fact_metrics")])], "r1"⟩

/-- A build of the model `sales`, published first. -/
def salesPointer : GoldPointer := ⟨"ws", "b1", "s1", "sales"⟩

/-- A build of the model `costs`, published next. -/
def costsPointer : GoldPointer := ⟨"ws", "b2", "s2", "costs"⟩

/-- The rows of a model in a table of one column that names it. -/
def modelRows (modelName : String) : Rows := ⟨[⟨"model", "VARCHAR"⟩], [[.text modelName]]⟩

/-- Engines that answer with the rows of the model in the views. -/
def modelEngines : Engines where
  pathExists _ := true
  duckdb views _ := .ok (modelRows ((views.map PublishedViews.modelView).getD ""))
  trino _ _ _ := .error (.other "not configured")

/-- What the gateway's parts answer the steward while a pointer is in force. -/
def stewardAnswers (pointer : GoldPointer) (cached : Option Rows) :
    (op : GatewayOp) → Except Exn op.Answer
  | .latestGoldPointer _ => .ok (some pointer)
  | .pathExists _ => .ok true
  | .runDuckdb views query => modelEngines.duckdb views query
  | op => answersTo steward none cached op

def stewardQuery : Handler QueryResponse := query ⟨id, id⟩ duckdbSettings stewardRequest

def minuteCache : QueryCacheSettings := ⟨true, 60, 100⟩

/-- Only the model `sales` was ever published. -/
def salesPublished (_ : String) : GoldStore :=
  GoldStore.empty.publishGoldPointer "ws" "b1" "s1" "sales"

/-- The system the steward's queries run in. -/
abbrev stewardSystem : System GatewayOp GatewayOp.Answer Exn Request QueryResponse SharedStores :=
  cacheSystem ⟨id, id⟩ duckdbSettings minuteCache modelEngines

/-- The key of the steward's query while a pointer is in force. -/
def stewardKey (pointer : GoldPointer) : String :=
  dumps (.obj (cacheKeyFields duckdbSettings
    ⟨"ws", requestContextOf stewardRequest.payload, "01", "query", "r1"⟩ steward
    ⟨"select * from gold.fact_metrics", [], none⟩ ⟨true, "internal_abac_allow", none, []⟩ 1000 5000
    none (some pointer)))

/-- The steward's query, its pointer read under `first` and the rest done under `second`. -/
def stewardThread (first second : GoldPointer) (cached : Option Rows) : QueryThread :=
  let begun := advance (stewardAnswers first cached) 5 stewardQuery
  ⟨stewardRequest, begun.1 ++ history (stewardAnswers second cached) begun.2,
    done (eval (stewardAnswers second cached) begun.2)⟩

/-- The cache that holds the rows of a model under the key of the steward's query. -/
def storedRows (modelName : String) : QueryCache :=
  .set minuteCache 0 [] (stewardKey salesPointer) (modelRows modelName)

theorem execs_begun {published : String → GoldStore} (cache : QueryCache)
    (cached : Option Rows) (hlatest : (published "ws").latest = some salesPointer) :
    System.Execs stewardSystem ⟨cache, published⟩
      (advance (stewardAnswers salesPointer cached) 5 stewardQuery).1 ⟨cache, published⟩ :=
  .cons ⟨trivial, rfl⟩ <| .cons ⟨trivial, rfl⟩ <| .cons ⟨trivial, rfl⟩ <| .cons ⟨trivial, rfl⟩ <|
    .cons ⟨fun _ hread ↦ (Except.ok.inj hread).symm.trans hlatest.symm, rfl⟩ <| .nil _

theorem execs_missed {published : String → GoldStore} {pointer : GoldPointer}
    (hpointer : pointer = salesPointer ∨ pointer = costsPointer)
    (hlatest : (published "ws").latest = some pointer) :
    System.Execs stewardSystem ⟨[], published⟩
      (history (stewardAnswers pointer none)
        (advance (stewardAnswers salesPointer none) 5 stewardQuery).2)
      ⟨storedRows pointer.modelName, published⟩ := by
  have hread : ∀ read, (.ok (some pointer) : Except Exn (Option GoldPointer)) = .ok read →
      read = (published "ws").loadLatestGoldPointer := fun read hread ↦
    (Except.ok.inj hread).symm.trans hlatest.symm
  rcases hpointer with rfl | rfl
  all_goals
    exact .cons ⟨0, rfl, rfl⟩ <| .cons ⟨hread, rfl⟩ <| .cons ⟨rfl, rfl⟩ <| .cons ⟨rfl, rfl⟩ <|
      .cons ⟨trivial, rfl⟩ <| .cons ⟨trivial, rfl⟩ <| .cons ⟨0, rfl, rfl⟩ <|
      .cons ⟨trivial, rfl⟩ <| .cons ⟨trivial, rfl⟩ <| .cons ⟨trivial, rfl⟩ <|
      .cons ⟨trivial, rfl⟩ <| .cons ⟨trivial, rfl⟩ <| .nil _

theorem execs_hit (published : String → GoldStore) {pointer : GoldPointer}
    (hpointer : pointer = salesPointer ∨ pointer = costsPointer) :
    System.Execs stewardSystem ⟨storedRows pointer.modelName, published⟩
      (history (stewardAnswers salesPointer (some (modelRows pointer.modelName)))
        (advance (stewardAnswers salesPointer (some (modelRows pointer.modelName))) 5
          stewardQuery).2)
      ⟨storedRows pointer.modelName, published⟩ := by
  have hget : (storedRows pointer.modelName).get minuteCache 0 (stewardKey salesPointer) =
      (some (modelRows pointer.modelName), storedRows pointer.modelName) :=
    QueryCache.get_set rfl (by decide +kernel)
  have hfound : stewardSystem.exec ⟨storedRows pointer.modelName, published⟩
      (.cacheGet (stewardKey salesPointer)) (.ok (some (modelRows pointer.modelName)))
      ⟨storedRows pointer.modelName, published⟩ := ⟨0, by rw [hget], by rw [hget]⟩
  rcases hpointer with rfl | rfl
  all_goals
    exact .cons hfound <| .cons ⟨trivial, rfl⟩ <| .cons ⟨trivial, rfl⟩ <| .cons ⟨trivial, rfl⟩ <|
      .cons ⟨trivial, rfl⟩ <| .cons ⟨trivial, rfl⟩ <| .cons ⟨trivial, rfl⟩ <| .nil _

theorem steady_of_one_pointer {threads : List QueryThread} {pointer : Option GoldPointer}
    (h : ∀ thread ∈ threads, ∀ workspaceId read,
      ⟨.latestGoldPointer workspaceId, .ok read⟩ ∈ thread.history → read = pointer) :
    Steady threads where
  within thread hthread _ first second hfirst hsecond := by
    rw [h thread hthread _ _ hfirst, h thread hthread _ _ hsecond]
  across thread hthread thread' hthread' _ first second hfirst hsecond _ _ := by
    rw [h thread hthread _ _ hfirst, h thread' hthread' _ _ hsecond]

/-- A query that missed, its execution under `pointer`, and then one that was served, both having read
the pointer `sales` for their key. -/
def servedTwice (pointer : GoldPointer) : List QueryThread :=
  [stewardThread salesPointer pointer none,
    stewardThread salesPointer salesPointer (some (modelRows pointer.modelName))]

theorem read_of_servedTwice : ∀ thread ∈ servedTwice salesPointer, ∀ workspaceId read,
    ⟨.latestGoldPointer workspaceId, .ok read⟩ ∈ thread.history → read = some salesPointer := by
  have hhistory : ∀ cached workspaceId read,
      ⟨.latestGoldPointer workspaceId, .ok read⟩ ∈
        history (stewardAnswers salesPointer cached) stewardQuery → read = some salesPointer :=
    fun _ _ _ hmem ↦ Except.ok.inj (answer_of_mem_history hmem)
  intro thread hthread
  rcases List.mem_cons.mp hthread with rfl | hthread
  · exact hhistory none
  · rw [List.mem_singleton.mp hthread]
    exact hhistory (some (modelRows "sales"))

/-- A query may be served the rows of another one that executed under `pointer`, whatever happened
to the stores in between. -/
theorem reachable_servedTwice {published republished : String → GoldStore} {pointer : GoldPointer}
    (hpointer : pointer = salesPointer ∨ pointer = costsPointer)
    (hpublished : (published "ws").latest = some pointer)
    (hrepublished : (republished "ws").latest = some salesPointer)
    (hmoved : Relation.ReflTransGen PointerMove ⟨[], salesPublished⟩ ⟨[], published⟩)
    (hmoved' : Relation.ReflTransGen PointerMove ⟨storedRows pointer.modelName, published⟩
      ⟨storedRows pointer.modelName, republished⟩) :
    stewardSystem.Reachable ⟨[], salesPublished⟩
      ⟨⟨storedRows pointer.modelName, republished⟩, servedTwice pointer⟩ := by
  have hbegun : stewardSystem.Reachable ⟨[], salesPublished⟩ ⟨⟨[], salesPublished⟩,
      [⟨stewardRequest, (advance (stewardAnswers salesPointer none) 5 stewardQuery).1,
        (advance (stewardAnswers salesPointer none) 5 stewardQuery).2⟩]⟩ :=
    System.Reachable.serve .refl (after_advance _ _ _) (execs_begun [] none rfl)
  have hstored : stewardSystem.Reachable ⟨[], salesPublished⟩
      ⟨⟨storedRows pointer.modelName, published⟩, [stewardThread salesPointer pointer none]⟩ :=
    @System.Reachable.calls _ _ _ _ _ _ _ _ _ _ [] _ _ _ _ _ (hbegun.worlds hmoved)
      (run_history _ _) (execs_missed hpointer hpublished)
  have hagain := System.Reachable.serve (hstored.worlds hmoved') (after_advance _ _ _)
    (execs_begun _ (some (modelRows pointer.modelName)) hrepublished)
  exact System.Reachable.calls hagain (run_history _ _) (execs_hit republished hpointer)

/-- What the steward's requests agree on. -/
def stewardContext : DecisionContext :=
  ⟨"ws", requestContextOf stewardRequest.payload, "01", "query", "r1"⟩

/-- The lookup of the query that was served. -/
def stewardLookup (modelName : String) :
    QueryLookup ⟨id, id⟩ duckdbSettings stewardRequest
      (stewardThread salesPointer salesPointer (some (modelRows modelName))).history where
  context := stewardContext
  actor := steward
  policyPack := none
  checked := ⟨⟨"select * from gold.fact_metrics", [], none⟩,
    ⟨true, "internal_abac_allow", none, []⟩, 1000, 5000, stewardKey salesPointer⟩
  pointer := some salesPointer
  found := .ok (some (modelRows modelName))
  wayIn := [⟨.activePolicy "ws" "policy_pack", .ok none⟩,
    ⟨.authenticatedActor, .ok (some steward)⟩, ⟨.newUlid, .ok "01"⟩]
  reason := "allow"
  checks := []
  later := history (stewardAnswers salesPointer (some (modelRows modelName)))
    (advance (stewardAnswers salesPointer (some (modelRows modelName))) 6 stewardQuery).2
  workspace := rfl
  entered := ⟨.tail _ (.head _), by simp [workspaceIdOf, stewardRequest, getD, get?_cons]⟩
  passed := run_history (stewardAnswers salesPointer none)
    (queryChecks ⟨id, id⟩ duckdbSettings stewardContext stewardRequest.payload steward none)
  cut := rfl

/-- Executing the steward's query under the pointer `sales` gives the rows of that model. -/
theorem executedRows_sales (modelName : String) :
    (executedRows ⟨id, id⟩ duckdbSettings modelEngines "ws" (stewardLookup modelName).checked
      (some salesPointer)).toOption = some (modelRows "sales") := by
  have hquery : (stewardLookup modelName).checked = (stewardLookup "sales").checked := rfl
  rw [hquery]
  decide +kernel

/-- Nothing being published in between, the second query is served what it would have executed. -/
theorem second_query_coherent :
    executedRows ⟨id, id⟩ duckdbSettings modelEngines "ws" (stewardLookup "sales").checked
      (some salesPointer) = .ok (modelRows "sales") := by
  have hreach := reachable_servedTwice (Or.inl rfl) rfl rfl .refl .refl
  have hsteady := steady_of_one_pointer read_of_servedTwice
  exact ((cached_rows_coherent hreach hsteady _ (.tail _ (.head _)) (stewardKey salesPointer)
    (modelRows "sales") (.tail _ (.tail _ (.tail _ (.tail _ (.tail _ (.head _))))))).2.1
      (stewardLookup "sales") rfl)

/-- The model `costs` is published while a query of the model `sales` is between its key and its
execution, and rolled back after it stored its rows: the next query, whose key names the pointer in
force, is served the rows of the other model. -/
theorem rollback_serves_other_model :
    ∃ config, stewardSystem.Reachable ⟨[], salesPublished⟩ config ∧
      ∃ thread ∈ config.threads,
        ∃ lookup : QueryLookup ⟨id, id⟩ duckdbSettings thread.request thread.history,
          lookup.pointer = some salesPointer ∧ lookup.found = .ok (some (modelRows "costs")) ∧
          executedRows ⟨id, id⟩ duckdbSettings modelEngines lookup.context.workspaceId
            lookup.checked lookup.pointer ≠ .ok (modelRows "costs") := by
  have hpublish := PointerMove.publish ⟨[], salesPublished⟩ "ws" "b2" "s2" "costs"
  have hrollback := PointerMove.rollback
    ⟨storedRows "costs", Function.update salesPublished "ws"
      ((salesPublished "ws").publishGoldPointer "ws" "b2" "s2" "costs")⟩ "ws" none _ _ rfl
  refine ⟨_, reachable_servedTwice (Or.inr rfl) rfl rfl (.single hpublish) (.single hrollback), _,
    .tail _ (.head _), stewardLookup "costs", rfl, rfl, ?_⟩
  intro hsame
  have hcosts : (executedRows ⟨id, id⟩ duckdbSettings modelEngines "ws"
      (stewardLookup "costs").checked (some salesPointer)).toOption = some (modelRows "costs") :=
    congrArg Except.toOption hsame
  exact absurd ((executedRows_sales "costs").symm.trans hcosts) (by decide)

end SchemaPilot.Gateway
