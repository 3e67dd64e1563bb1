import SchemaPilot.Workers.SilverKeys

/-!
# The crosswalk of a silver snapshot

The data and the crosswalk of a snapshot have one entry for each record, in order. The row of a record is
`{"canonical_id": canonical_id, **record}`, where a field `canonical_id` of the record itself comes last
and wins, so the two entries name one identifier exactly when no record brings another one
(`crosswalkAgrees_iff`).
-/

namespace SchemaPilot.Workers

open Library Library.Json SharedDomain

section Agreement

variable (platform : SilverPlatform) (entityName : String) (naturalKeyFields : List String)

/-- The data entry and the crosswalk entry of a record: the one has the fields of the normalised record,
the other its place, and both have the stable identifier of its natural key. -/
def EntriesAgree (record : Fields) (index : ℕ) (row link : Json) : Prop :=
  ∃ normalized naturalKey rowFields linkFields,
    normalizeRecord platform record = .ok normalized ∧
    buildNaturalKey normalized naturalKeyFields index = .ok naturalKey ∧
    row = .obj rowFields ∧ link = .obj linkFields ∧
    (∀ name, name ≠ "canonical_id" →
      get? rowFields name = (get? normalized name).map canon) ∧
    get? linkFields "source_record_index" = some (.int index) ∧
    get? linkFields "canonical_id" = some (.str (stableId platform entityName naturalKey)) ∧
    get? rowFields "canonical_id" = get? linkFields "canonical_id"

/-- The files of a snapshot have one entry for each record, in order, and the entries agree. -/
def CrosswalkAgrees (records : List Fields) (result : SilverBuildResult) (files : FileStore) : Prop :=
  ∃ rows links, files.content? result.dataPath = some (.json (.arr rows)) ∧
    files.content? result.crosswalkPath = some (.json (.arr links)) ∧
    rows.length = records.length ∧ links.length = records.length ∧
    ∀ index record row link, records[index]? = some record → rows[index]? = some row →
      links[index]? = some link →
        EntriesAgree platform entityName naturalKeyFields record index row link

/-- The record has no field `canonical_id` of its own, or one that is normalised to the stable
identifier of its natural key. -/
def OwnIdFits (record : Fields) : Prop :=
  ∀ normalized naturalKey own, normalizeRecord platform record = .ok normalized →
    buildNaturalKey normalized naturalKeyFields 0 = .ok naturalKey →
      get? normalized "canonical_id" = some own →
        own = .str (stableId platform entityName naturalKey)

end Agreement

/-- `{**done, **pairs}`: the fields of the second dictionary win. -/
theorem get?_foldl_set {pairs : Fields} (h : (pairs.map Prod.fst).Nodup) (done : Fields)
    (name : String) : get? (pairs.foldl (fun row field ↦ set row field.1 field.2) done) name =
      (get? pairs name).or (get? done name) := by
  induction pairs generalizing done with
  | nil => rfl
  | cons field rest ih =>
    rw [List.map_cons, List.nodup_cons] at h
    rw [List.foldl_cons, ih h.2, get?_cons]
    by_cases hname : name = field.1
    · have hrest : get? rest name = none := by
        rw [get?, List.lookup_eq_none_iff]
        intro pair hpair
        rw [bne_iff_ne]
        exact fun hsame ↦ h.1 (List.mem_map.mpr ⟨pair, hpair, hsame.symm.trans hname⟩)
      rw [if_pos hname, hrest, Option.none_or, hname, get?_set_self, Option.some_or]
    · rw [if_neg hname, get?_set_of_ne hname]

theorem canon_eq_str_iff {value : Json} {text : String} : canon value = .str text ↔ value = .str text := by
  cases value <;> simp [canon]

theorem get?_canon_obj {fields sorted : Fields} (h : canon (.obj fields) = .obj sorted) (name : String) :
    get? sorted name = (get? fields name).map canon := by
  rw [canon, Json.obj.injEq] at h
  rw [← h, get?_sortFields, get?_canonFields]

variable {platform : SilverPlatform} {entityName : String} {naturalKeyFields : List String}

/-- The place of a record matters only for the error of a record without a key. -/
theorem buildNaturalKey_index {record : Fields} {index : ℕ} {naturalKey : String}
    (h : buildNaturalKey record naturalKeyFields index = .ok naturalKey) (other : ℕ) :
    buildNaturalKey record naturalKeyFields other = .ok naturalKey := by
  obtain ⟨parts, hparts, hkey⟩ := (bind_eq_ok_iff _ _ _).mp h
  refine (bind_eq_ok_iff _ _ _).mpr ⟨parts, mapM_eq_ok_iff.mpr ?_, hkey⟩
  refine (mapM_eq_ok_iff.mp hparts).imp fun field part hpart ↦ ?_
  obtain ⟨hpresent, hpart⟩ := (ite_error_eq_ok_iff _ _ _ _).mp hpart
  rw [if_neg hpresent, hpart]

/-- The entries of a normalised record agree exactly when it brings no other identifier. -/
theorem entriesAgree_of_silverRow {record : SourceRecord} {normalized : Fields} {index : ℕ}
    {entry : Json × Json} (hnormalized : normalizeRecord platform record.fields = .ok normalized)
    (hentry : silverRow platform entityName naturalKeyFields normalized index = .ok entry) :
    EntriesAgree platform entityName naturalKeyFields record.fields index (canon entry.1)
        (canon entry.2) ↔
      OwnIdFits platform entityName naturalKeyFields record.fields := by
  obtain ⟨naturalKey, hkey, hdone⟩ := (bind_eq_ok_iff _ _ _).mp hentry
  cases hdone
  have hdistinct : (normalized.map Prod.fst).Nodup := by
    rw [keys_normalizeRecord hnormalized]
    exact record.distinct
  have hrow := get?_foldl_set hdistinct
    [("canonical_id", .str (stableId platform entityName naturalKey))]
  constructor
  · rintro ⟨_, _, rowFields, linkFields, hagain, hkey', hrowFields, -, -, -, hlink, hsame⟩
    rw [hnormalized, Except.ok.injEq] at hagain
    subst hagain
    rw [hkey, Except.ok.injEq] at hkey'
    subst hkey'
    intro _ _ own hagain hkey' hown
    rw [hnormalized, Except.ok.injEq] at hagain
    subst hagain
    rw [buildNaturalKey_index hkey 0, Except.ok.injEq] at hkey'
    subst hkey'
    rw [hlink, get?_canon_obj hrowFields, hrow, hown, Option.some_or, Option.map_some,
      Option.some.injEq] at hsame
    exact canon_eq_str_iff.mp hsame
  · intro hfits
    refine ⟨normalized, naturalKey, _, _, hnormalized, hkey, rfl, rfl, fun name hname ↦ ?_, ?_, ?_, ?_⟩
    · rw [get?_canon_obj rfl, hrow, get?_cons, if_neg hname, get?_nil, Option.or_none]
    · rw [get?_canon_obj rfl]
      rfl
    · rw [get?_canon_obj rfl]
      rfl
    · rw [get?_canon_obj rfl, get?_canon_obj rfl, hrow]
      cases hown : get? normalized "canonical_id" with
      | none => rfl
      | some own =>
        rw [hfits normalized naturalKey own hnormalized (buildNaturalKey_index hkey 0) hown]
        rfl

/-- What the loop over the normalised records gives. -/
theorem silverTables_eq_ok {records : List Fields} {tables : Json × Json}
    (h : silverTables platform entityName records naturalKeyFields = .ok tables) :
    ∃ normalized rows,
      List.Forall₂ (fun record result ↦ normalizeRecord platform record = .ok result) records
        normalized ∧
      List.Forall₂ (fun entry row ↦ silverRow platform entityName naturalKeyFields entry.1 entry.2 =
        .ok row) normalized.zipIdx rows ∧
      tables = (.arr (rows.map Prod.fst), .arr (rows.map Prod.snd)) := by
  obtain ⟨-, htables⟩ := (ite_error_eq_ok_iff _ _ _ _).mp h
  obtain ⟨normalized, hnormalized, htables⟩ := (bind_eq_ok_iff _ _ _).mp htables
  obtain ⟨rows, hrows, hdone⟩ := (bind_eq_ok_iff _ _ _).mp htables
  cases hdone
  exact ⟨normalized, rows, mapM_eq_ok_iff.mp hnormalized, mapM_eq_ok_iff.mp hrows, rfl⟩

/-- What a build that returns leaves in its two files. -/
theorem content?_buildSilverSnapshot {outputRoot : TreePath} {workspaceId snapshotId : String}
    {records : List Fields} {now : ℤ} {files after : FileStore} {result : SilverBuildResult}
    (h : buildSilverSnapshot platform outputRoot workspaceId entityName records naturalKeyFields
      snapshotId now files = (.ok result, after)) :
    ∃ tables, silverTables platform entityName records naturalKeyFields = .ok tables ∧
      after.content? result.dataPath = some (.json (canon tables.1)) ∧
      after.content? result.crosswalkPath = some (.json (canon tables.2)) := by
  obtain ⟨tables, state, htables, h⟩ := Effect.bind_eq_ok_iff.mp h
  obtain ⟨_, made, -, h⟩ := Effect.bind_eq_ok_iff.mp h
  obtain ⟨_, written, hdata, h⟩ := Effect.bind_eq_ok_iff.mp h
  obtain ⟨_, last, hcrosswalk, hdone⟩ := Effect.bind_eq_ok_iff.mp h
  cases hdone
  rw [Effect.ofExcept_apply, Prod.mk.injEq] at htables
  refine ⟨tables, htables.1, ?_, ?_⟩
  · rw [Files.content?_writeJson hcrosswalk, if_neg, Files.content?_writeJson hdata, if_pos rfl]
    exact fun hpath ↦ absurd (List.append_cancel_left hpath) (by decide)
  · rw [Files.content?_writeJson hcrosswalk, if_pos rfl]

section Build

variable {outputRoot : TreePath} {workspaceId snapshotId : String} {records : List SourceRecord}
  {now : ℤ} {files after : FileStore} {result : SilverBuildResult}

theorem entries_buildSilverSnapshot
    (h : buildSilverSnapshot platform outputRoot workspaceId entityName
      (records.map SourceRecord.fields) naturalKeyFields snapshotId now files =
        (.ok result, after)) :
    ∃ entries : List (Json × Json), entries.length = records.length ∧
      after.content? result.dataPath =
        some (.json (.arr (entries.map fun entry ↦ canon entry.1))) ∧
      after.content? result.crosswalkPath =
        some (.json (.arr (entries.map fun entry ↦ canon entry.2))) ∧
      ∀ index record, records[index]? = some record → ∃ normalized entry,
        normalizeRecord platform record.fields = .ok normalized ∧ entries[index]? = some entry ∧
          silverRow platform entityName naturalKeyFields normalized index = .ok entry := by
  obtain ⟨tables, htables, hdata, hcrosswalk⟩ := content?_buildSilverSnapshot h
  obtain ⟨normalized, entries, hnormalized, hentries, rfl⟩ := silverTables_eq_ok htables
  rw [canon, canonItems_eq_map, List.map_map] at hdata hcrosswalk
  refine ⟨entries, ?_, hdata, hcrosswalk, fun index record hrecord ↦ ?_⟩
  · rw [← hentries.length_eq, List.length_zipIdx, ← hnormalized.length_eq, List.length_map]
  · have hfields : (records.map SourceRecord.fields)[index]? = some record.fields := by
      rw [List.getElem?_map, hrecord, Option.map_some]
    obtain ⟨found, hfound, hnormal⟩ := exists_getElem?_of_forall₂ hnormalized hfields
    have hplace : normalized.zipIdx[index]? = some (found, index) := by
      rw [List.getElem?_zipIdx, hfound, Option.map_some, Nat.zero_add]
    obtain ⟨entry, hentry, hrow⟩ := exists_getElem?_of_forall₂ hentries hplace
    exact ⟨found, entry, hnormal, hentry, hrow⟩

theorem ownIdFits_of_crosswalkAgrees
    (h : buildSilverSnapshot platform outputRoot workspaceId entityName
      (records.map SourceRecord.fields) naturalKeyFields snapshotId now files = (.ok result, after))
    (hagrees : CrosswalkAgrees platform entityName naturalKeyFields
      (records.map SourceRecord.fields) result after) :
    ∀ record ∈ records, OwnIdFits platform entityName naturalKeyFields record.fields := by
  obtain ⟨entries, -, hdata, hcrosswalk, hat⟩ := entries_buildSilverSnapshot h
  obtain ⟨rows, links, hrows, hlinks, -, -, hagree⟩ := hagrees
  rw [hdata, Option.some.injEq, FileContent.json.injEq, Json.arr.injEq] at hrows
  rw [hcrosswalk, Option.some.injEq, FileContent.json.injEq, Json.arr.injEq] at hlinks
  subst hrows
  subst hlinks
  intro record hmem
  obtain ⟨index, hrecord⟩ := List.getElem?_of_mem hmem
  obtain ⟨normalized, entry, hnormal, hentry, hrow⟩ := hat index record hrecord
  refine (entriesAgree_of_silverRow hnormal hrow).mp (hagree index record.fields _ _ ?_ ?_ ?_)
  · rw [List.getElem?_map, hrecord, Option.map_some]
  · rw [List.getElem?_map, hentry, Option.map_some]
  · rw [List.getElem?_map, hentry, Option.map_some]

theorem crosswalkAgrees_of_ownIdFits
    (h : buildSilverSnapshot platform outputRoot workspaceId entityName
      (records.map SourceRecord.fields) naturalKeyFields snapshotId now files = (.ok result, after))
    (hfits : ∀ record ∈ records, OwnIdFits platform entityName naturalKeyFields record.fields) :
    CrosswalkAgrees platform entityName naturalKeyFields (records.map SourceRecord.fields) result
      after := by
  obtain ⟨entries, hlength, hdata, hcrosswalk, hat⟩ := entries_buildSilverSnapshot h
  refine ⟨_, _, hdata, hcrosswalk, ?_, ?_, ?_⟩
  · rw [List.length_map, List.length_map, hlength]
  · rw [List.length_map, List.length_map, hlength]
  · intro index fields row link hfields hrow' hlink'
    rw [List.getElem?_map, Option.map_eq_some_iff] at hfields
    obtain ⟨record, hrecord, rfl⟩ := hfields
    obtain ⟨normalized, entry, hnormal, hentry, hrow⟩ := hat index record hrecord
    rw [List.getElem?_map, hentry, Option.map_some, Option.some.injEq] at hrow' hlink'
    rw [← hrow', ← hlink']
    exact (entriesAgree_of_silverRow hnormal hrow).mpr
      (hfits record (List.mem_of_getElem? hrecord))

/-- The crosswalk agrees with the data exactly when no record brings another identifier. -/
theorem crosswalkAgrees_iff
    (h : buildSilverSnapshot platform outputRoot workspaceId entityName
      (records.map SourceRecord.fields) naturalKeyFields snapshotId now files =
        (.ok result, after)) :
    CrosswalkAgrees platform entityName naturalKeyFields (records.map SourceRecord.fields) result
        after ↔
      ∀ record ∈ records, OwnIdFits platform entityName naturalKeyFields record.fields :=
  ⟨ownIdFits_of_crosswalkAgrees h, crosswalkAgrees_of_ownIdFits h⟩

end Build

/-- The digest of the key of one customer. -/
def adaPlatform : SilverPlatform :=
  literalPlatform (fun text ↦ if text = "customer::Ada" then
    "f94b7a453bda76c396ace2004901b91ead693024a262d537c785f2906d659f7c" else "") zeroRounding

/-- A record of the customer, with or without an identifier of its own. -/
def adaRecord (own : Fields) (h : own = [] ∨ own = [("canonical_id", .str "crm-7")]) : SourceRecord where
  fields := ("name", .str "Ada") :: own
  distinct := by rcases h with rfl | rfl <;> decide

def adaBuild (record : SourceRecord) : Files SilverBuildResult :=
  buildSilverSnapshot adaPlatform ["data"] "w1" "customer" ([record].map SourceRecord.fields)
    ["name"] "s1" 0

theorem adaBuild_ok {own : Fields} (h : own = [] ∨ own = [("canonical_id", .str "crm-7")]) :
    ∃ result after, adaBuild (adaRecord own h) FileTree.empty = (.ok result, after) := by
  have hok : (adaBuild (adaRecord own h) FileTree.empty).1.toOption.isSome = true := by
    rcases h with rfl | rfl <;> decide +kernel
  cases hrun : adaBuild (adaRecord own h) FileTree.empty with
  | mk outcome after =>
    rw [hrun] at hok
    cases outcome with
    | error exception => cases hok
    | ok result => exact ⟨result, after, rfl⟩

theorem crosswalkAgrees_ada : ∃ result after,
    adaBuild (adaRecord [] (Or.inl rfl)) FileTree.empty = (.ok result, after) ∧
      CrosswalkAgrees adaPlatform "customer" ["name"] [[("name", .str "Ada")]] result after := by
  obtain ⟨result, after, hrun⟩ := adaBuild_ok (Or.inl rfl)
  refine ⟨result, after, hrun, (crosswalkAgrees_iff hrun).mpr ?_⟩
  rw [List.forall_mem_singleton]
  intro normalized naturalKey own hnormalized _ hown
  have hplain : normalizeRecord adaPlatform [("name", .str "Ada")] = .ok [("name", .str "Ada")] := rfl
  rw [adaRecord, hplain, Except.ok.injEq] at hnormalized
  rw [← hnormalized] at hown
  cases hown

/-- A record that brings an identifier of its own has another one in the data than in the crosswalk. -/
theorem own_id_wins : ∃ result after,
    adaBuild (adaRecord [("canonical_id", .str "crm-7")] (Or.inr rfl)) FileTree.empty =
        (.ok result, after) ∧
      ¬CrosswalkAgrees adaPlatform "customer" ["name"]
        [[("name", .str "Ada"), ("canonical_id", .str "crm-7")]] result after := by
  obtain ⟨result, after, hrun⟩ := adaBuild_ok (Or.inr rfl)
  refine ⟨result, after, hrun, fun hagrees ↦ ?_⟩
  have hfits := ownIdFits_of_crosswalkAgrees hrun hagrees _ List.mem_cons_self
  have hnormalized : normalizeRecord adaPlatform
      [("name", .str "Ada"), ("canonical_id", .str "crm-7")] =
        .ok [("name", .str "Ada"), ("canonical_id", .str "crm-7")] := rfl
  have hown := hfits _ "Ada" (.str "crm-7") hnormalized
    (buildNaturalKey_of_present (by decide) 0) rfl
  rw [Json.str.injEq] at hown
  revert hown
  decide +kernel

end SchemaPilot.Workers
