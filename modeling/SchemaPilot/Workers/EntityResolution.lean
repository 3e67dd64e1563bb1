import SchemaPilot.Library.Json
import SchemaPilot.Library.StableSort
import Mathlib.Data.Rat.Init

/-!
# Deterministic entity resolution

`backend/workers/entity_resolution.py`: records are grouped by their normalised names, and each group of
two or more is a merge decision. The identifiers of the members are `str(item.get(field, ""))`, but the
canonical one is `str(sorted_members[0].get(field))`, which is `None` for a record without an identifier.
So decisions are consistent exactly when in every such group all records have an identifier, or one is
called `None` and no identifier is empty (`mergesConsistent_iff`).
-/

namespace SchemaPilot.Workers

open Library Library.Json

structure UnicodeTables where
  /-- `text.lower()`. -/
  lower : String → String
  /-- `ch.isalnum()`. -/
  isAlnum : Char → Bool

/-- The tables of ASCII. -/
def asciiTables : UnicodeTables := ⟨Text.lower, Char.isAlphanum⟩

structure MergeDecision where
  clusterId : String
  canonicalId : String
  memberIds : List String
  confidence : ℚ
  reversiblePayload : Fields

/-- `str(row.get(id_field, ""))`. -/
def rawId (idField : String) (row : Fields) : String := (getD row idField (.str "")).toStr

section Definitions

variable (tables : UnicodeTables)

/-- `_normalize_name`. -/
def normalizeName (name : String) : String :=
  String.ofList ((Text.strip (tables.lower name)).toList.filter tables.isAlnum)

variable (canonicalIdField nameField : String)

/-- `_normalize_name(str(record.get(name_field, "")))`. -/
def nameKey (record : Fields) : String :=
  normalizeName tables (getD record nameField (.str "")).toStr

/-- `buckets.setdefault(key, []).append(record)`. -/
def addToBucket (buckets : List (String × List Fields)) (key : String) (record : Fields) :
    List (String × List Fields) :=
  if buckets.any fun bucket ↦ bucket.1 = key then
    buckets.map fun bucket ↦ if bucket.1 = key then (key, bucket.2 ++ [record]) else bucket
  else buckets ++ [(key, [record])]

/-- The records by their normalised names, those without a name left out. -/
def nameBuckets (records : List Fields) : List (String × List Fields) :=
  records.foldl (fun buckets record ↦
    let key := nameKey tables nameField record
    if key = "" then buckets else addToBucket buckets key record) []

/-- `str(sorted_members[0].get(canonical_id_field))`: a record without the field gives `None`. -/
def canonicalOf (sortedMembers : List Fields) : String :=
  ((get? (sortedMembers.headD []) canonicalIdField).getD .null).toStr

/-- The decision about a bucket, if it has two records or more. -/
def bucketDecision? (bucket : String × List Fields) : Option MergeDecision :=
  let (key, members) := bucket
  if members.length < 2 then none
  else
    let sortedMembers := sortedBy (rawId canonicalIdField) members
    let memberIds := sortedMembers.map (rawId canonicalIdField)
    some
      { clusterId := "cluster_" ++ key
        canonicalId := canonicalOf canonicalIdField sortedMembers
        memberIds := memberIds
        confidence := 1
        reversiblePayload := [("pre_merge_member_ids", textList memberIds)] }

/-- `resolve_entities`. -/
def resolveEntities (records : List Fields) : List MergeDecision :=
  (sortedBy Prod.fst (nameBuckets tables nameField records)).filterMap
    (bucketDecision? canonicalIdField)

end Definitions

/-- `rollback_merge`. -/
def rollbackMerge (decision : MergeDecision) : List String :=
  match getD decision.reversiblePayload "pre_merge_member_ids" (.arr []) with
  | .arr items => items.map toStr
  | _ => []

/-! ### Buckets -/

section Buckets

variable {tables : UnicodeTables} {nameField : String}

def namesakes (tables : UnicodeTables) (nameField : String) (records : List Fields) (key : String) :
    List Fields :=
  records.filter fun record ↦ nameKey tables nameField record = key

/-- The normalised names of some records, sorted. -/
def nameKeys (tables : UnicodeTables) (nameField : String) (records : List Fields) : List String :=
  Text.sortedTexts ((records.map (nameKey tables nameField)).filter (· ≠ ""))

theorem keys_addToBucket (buckets : List (String × List Fields)) (key : String) (record : Fields) :
    (addToBucket buckets key record).map Prod.fst =
      if key ∈ buckets.map Prod.fst then buckets.map Prod.fst
      else buckets.map Prod.fst ++ [key] := by
  have hany : (buckets.any fun bucket ↦ bucket.1 = key) = true ↔ key ∈ buckets.map Prod.fst := by
    rw [List.any_eq_true, List.mem_map]
    simp only [decide_eq_true_eq]
  rw [addToBucket]
  simp only [hany]
  split_ifs
  · rw [List.map_map]
    refine List.map_congr_left fun bucket _ ↦ ?_
    rw [Function.comp_apply]
    split_ifs with hkey
    · exact hkey.symm
    · rfl
  · rw [List.map_append, List.map_singleton]

theorem namesakes_snoc (records : List Fields) (record : Fields) (key : String) :
    namesakes tables nameField (records ++ [record]) key =
      namesakes tables nameField records key ++
        if nameKey tables nameField record = key then [record] else [] := by
  rw [namesakes, List.filter_append, namesakes, List.append_cancel_left_eq]
  by_cases h : nameKey tables nameField record = key
  · simp [h]
  · simp [h]

/-- What `setdefault` does to buckets that hold the records of their names. -/
theorem mem_addToBucket {buckets : List (String × List Fields)} {held : String → List Fields}
    (h : ∀ bucket, bucket ∈ buckets ↔ bucket.1 ≠ "" ∧ bucket.2 ≠ [] ∧ bucket.2 = held bucket.1)
    {key : String} (hkey : key ≠ "") (record : Fields) (bucket : String × List Fields) :
    bucket ∈ addToBucket buckets key record ↔ bucket.1 ≠ "" ∧ bucket.2 ≠ [] ∧
      bucket.2 = held bucket.1 ++ if key = bucket.1 then [record] else [] := by
  obtain ⟨name, members⟩ := bucket
  by_cases hname : key = name
  · subst hname
    rw [if_pos rfl]
    have hgoal : (key ≠ "" ∧ members ≠ [] ∧ members = held key ++ [record]) ↔
        members = held key ++ [record] := by
      refine ⟨fun hall ↦ hall.2.2, fun hmembers ↦ ⟨hkey, ?_, hmembers⟩⟩
      rw [hmembers]
      exact List.append_ne_nil_of_right_ne_nil _ (List.cons_ne_nil _ _)
    rw [hgoal, addToBucket]
    split_ifs with hany
    · obtain ⟨⟨found, others⟩, hfound, hsame⟩ := List.any_eq_true.mp hany
      have hfoundKey : found = key := of_decide_eq_true hsame
      subst hfoundKey
      rw [List.mem_map]
      constructor
      · rintro ⟨⟨other, held'⟩, hother, heq⟩
        split_ifs at heq with hsame'
        · have hotherKey : other = found := hsame'
          subst hotherKey
          rw [← (Prod.mk.inj heq).2, ((h _).mp hother).2.2]
        · exact absurd (Prod.mk.inj heq).1 hsame'
      · intro hmembers
        refine ⟨(found, others), hfound, ?_⟩
        rw [if_pos rfl, hmembers, ((h _).mp hfound).2.2]
    · have hnone : held key = [] := by
        by_contra hheld
        refine hany (List.any_eq_true.mpr ⟨(key, held key), (h _).mpr ⟨hkey, hheld, rfl⟩, ?_⟩)
        exact decide_eq_true rfl
      rw [List.mem_append, List.mem_singleton, hnone, List.nil_append, Prod.mk.injEq,
        and_iff_right rfl, or_iff_right]
      intro hmem
      exact ((h _).mp hmem).2.1 (((h _).mp hmem).2.2.trans hnone)
  · rw [if_neg hname, List.append_nil, ← h, addToBucket]
    split_ifs with hany
    · rw [List.mem_map]
      constructor
      · rintro ⟨other, hother, heq⟩
        split_ifs at heq with hsame
        · exact absurd (Prod.mk.inj heq).1 hname
        · rwa [← heq]
      · intro hmem
        exact ⟨(name, members), hmem, if_neg (Ne.symm hname)⟩
    · rw [List.mem_append, List.mem_singleton, or_iff_left]
      exact fun heq ↦ hname (Prod.mk.inj heq).1.symm

theorem nameBuckets_snoc (records : List Fields) (record : Fields) :
    nameBuckets tables nameField (records ++ [record]) =
      if nameKey tables nameField record = "" then nameBuckets tables nameField records
      else addToBucket (nameBuckets tables nameField records) (nameKey tables nameField record)
        record := by
  unfold nameBuckets
  rw [List.foldl_append, List.foldl_cons, List.foldl_nil]

theorem mem_nameBuckets {records : List Fields} {bucket : String × List Fields} :
    bucket ∈ nameBuckets tables nameField records ↔ bucket.1 ≠ "" ∧ bucket.2 ≠ [] ∧
      bucket.2 = namesakes tables nameField records bucket.1 := by
  induction records using List.reverseRecOn generalizing bucket with
  | nil => exact iff_of_false List.not_mem_nil fun h ↦ h.2.1 h.2.2
  | append_singleton records record ih =>
    rw [nameBuckets_snoc, namesakes_snoc]
    split_ifs with hkey hname hname
    · rw [ih]
      refine iff_of_false (fun h ↦ h.1 (hname.symm.trans hkey)) fun h ↦ h.1 (hname.symm.trans hkey)
    · rw [ih, List.append_nil]
    · rw [mem_addToBucket (fun _ ↦ ih) hkey, if_pos hname]
    · rw [mem_addToBucket (fun _ ↦ ih) hkey, if_neg hname]

theorem nodup_nameBuckets (records : List Fields) :
    ((nameBuckets tables nameField records).map Prod.fst).Nodup := by
  induction records using List.reverseRecOn with
  | nil => exact List.nodup_nil
  | append_singleton records record ih =>
    rw [nameBuckets_snoc]
    split_ifs
    · exact ih
    · rw [keys_addToBucket]
      split_ifs with hmem
      · exact ih
      · exact List.nodup_append.mpr ⟨ih, List.nodup_singleton _, fun key hkey other hother heq ↦
          hmem (List.mem_singleton.mp hother ▸ heq ▸ hkey)⟩

theorem sortedBuckets_eq (records : List Fields) :
    sortedBy Prod.fst (nameBuckets tables nameField records) =
      (nameKeys tables nameField records).map fun key ↦
        (key, namesakes tables nameField records key) := by
  have hkeys : (sortedBy Prod.fst (nameBuckets tables nameField records)).map Prod.fst =
      nameKeys tables nameField records := by
    have hnodup : ((sortedBy Prod.fst (nameBuckets tables nameField records)).map Prod.fst).Nodup :=
      ((perm_sortedBy Prod.fst _).map Prod.fst).nodup_iff.mpr (nodup_nameBuckets records)
    have hle := List.pairwise_map.mpr
      (pairwise_sortedBy Prod.fst (nameBuckets tables nameField records))
    refine List.Pairwise.eq_of_mem_iff
      ((hle.and hnodup).imp fun h ↦ lt_of_le_of_ne h.1 h.2) (Text.pairwise_sortedTexts _) fun key ↦ ?_
    rw [nameKeys, Text.mem_sortedTexts, List.mem_filter, List.mem_map, List.mem_map,
      decide_eq_true_iff]
    constructor
    · rintro ⟨bucket, hbucket, rfl⟩
      obtain ⟨hne, hmembers, hheld⟩ := mem_nameBuckets.mp ((mem_sortedBy _).mp hbucket)
      obtain ⟨record, hrecord⟩ := List.exists_mem_of_ne_nil _ hmembers
      rw [hheld, namesakes, List.mem_filter, decide_eq_true_iff] at hrecord
      exact ⟨⟨record, hrecord⟩, hne⟩
    · rintro ⟨⟨record, hrecord, rfl⟩, hne⟩
      refine ⟨(_, namesakes tables nameField records (nameKey tables nameField record)),
        (mem_sortedBy _).mpr (mem_nameBuckets.mpr ⟨hne, ?_, rfl⟩), rfl⟩
      exact List.ne_nil_of_mem (List.mem_filter.mpr ⟨hrecord, decide_eq_true rfl⟩)
  rw [← hkeys, List.map_map]
  conv_lhs => rw [← List.map_id (sortedBy Prod.fst (nameBuckets tables nameField records))]
  refine List.map_congr_left fun bucket hbucket ↦ ?_
  obtain ⟨-, -, hheld⟩ := mem_nameBuckets.mp ((mem_sortedBy _).mp hbucket)
  exact Prod.ext rfl hheld

/-- The decisions are those about the names, in order. -/
theorem resolveEntities_eq (idField : String) (records : List Fields) :
    resolveEntities tables idField nameField records =
      (nameKeys tables nameField records).filterMap fun key ↦
        bucketDecision? idField (key, namesakes tables nameField records key) := by
  rw [resolveEntities, sortedBuckets_eq, List.filterMap_map]
  rfl

theorem nameKeys_eq_of_perm {records records' : List Fields} (h : records.Perm records') :
    nameKeys tables nameField records = nameKeys tables nameField records' :=
  Text.sortedTexts_congr fun _ ↦ ((h.map _).filter _).mem_iff

theorem exists_mem_namesakes {records : List Fields} {key : String}
    (h : 2 ≤ (namesakes tables nameField records key).length) :
    ∃ record ∈ records, nameKey tables nameField record = key := by
  obtain ⟨record, hrecord⟩ := List.exists_mem_of_length_pos (Nat.lt_of_lt_of_le Nat.two_pos h)
  rw [namesakes, List.mem_filter, decide_eq_true_iff] at hrecord
  exact ⟨record, hrecord⟩

end Buckets

/-! ### Consistent decisions -/

/-- A record belongs to the decision about its normalised name. -/
def BelongsTo (tables : UnicodeTables) (nameField : String) (decision : MergeDecision)
    (record : Fields) : Prop :=
  decision.clusterId = "cluster_" ++ nameKey tables nameField record

instance (tables : UnicodeTables) (nameField : String) (decision : MergeDecision)
    (record : Fields) : Decidable (BelongsTo tables nameField decision record) :=
  inferInstanceAs (Decidable (_ = _))

/-- The members of each decision are the records that belong to it, no record belongs to two, the
canonical member is one of them, a rollback gives them back, and the order of the records is no matter. -/
structure MergesConsistent (tables : UnicodeTables) (idField nameField : String)
    (records : List Fields) : Prop where
  canonical : ∀ decision ∈ resolveEntities tables idField nameField records,
    decision.canonicalId ∈ decision.memberIds
  members : ∀ decision ∈ resolveEntities tables idField nameField records,
    decision.memberIds.Perm
      ((records.filter (BelongsTo tables nameField decision)).map (rawId idField))
  apart : ∀ record ∈ records, ((resolveEntities tables idField nameField records).filter
    fun decision ↦ BelongsTo tables nameField decision record).length ≤ 1
  order : ∀ records', records.Perm records' →
    resolveEntities tables idField nameField records' =
      resolveEntities tables idField nameField records
  rollback : ∀ decision ∈ resolveEntities tables idField nameField records,
    rollbackMerge decision = decision.memberIds

/-- The members of a bucket have identifiers, or the text of `None` is one of the members' and no
identifier is empty. -/
def IdsFit (idField : String) (members : List Fields) : Prop :=
  (∀ member ∈ members, get? member idField ≠ none) ∨
    (∃ member ∈ members, rawId idField member = "None") ∧
      ∀ member ∈ members, get? member idField ≠ none → rawId idField member ≠ ""

/-! ### One decision -/

section Decision

variable {idField : String}

theorem bucketDecision?_eq_some {key : String} {members : List Fields} {decision : MergeDecision} :
    bucketDecision? idField (key, members) = some decision ↔ 2 ≤ members.length ∧ decision =
      { clusterId := "cluster_" ++ key
        canonicalId := canonicalOf idField (sortedBy (rawId idField) members)
        memberIds := (sortedBy (rawId idField) members).map (rawId idField)
        confidence := 1
        reversiblePayload := [("pre_merge_member_ids",
          textList ((sortedBy (rawId idField) members).map (rawId idField)))] } := by
  rw [bucketDecision?]
  dsimp only
  split_ifs with hsize
  · exact iff_of_false nofun fun h ↦ absurd h.1 (Nat.not_le_of_lt hsize)
  · rw [Option.some_inj, eq_comm, and_iff_right (Nat.le_of_not_lt hsize)]

theorem empty_le (text : String) : "" ≤ text :=
  not_lt.mp fun h ↦ List.not_lt_nil _ (String.lt_iff_toList_lt.mp h)

/-- The identifier of a record that has one is its text. -/
theorem canonicalOf_cons_of_some {first : Fields} {rest : List Fields}
    (h : get? first idField ≠ none) : canonicalOf idField (first :: rest) = rawId idField first := by
  obtain ⟨value, hvalue⟩ := Option.ne_none_iff_exists'.mp h
  rw [canonicalOf, List.headD_cons, rawId, getD, hvalue, Option.getD_some, Option.getD_some]

theorem rawId_of_none {record : Fields} (h : get? record idField = none) :
    rawId idField record = "" := by
  rw [rawId, getD, h, Option.getD_none, toStr_str]

theorem canonicalOf_of_none {members : List Fields}
    (h : ∀ first ∈ members.head?, get? first idField = none) :
    canonicalOf idField members = "None" := by
  cases members with
  | nil => rfl
  | cons first rest => rw [canonicalOf, List.headD_cons, h first rfl]; rfl

/-- Where a member has an empty identifier, the canonical one is that of the first such member. -/
theorem canonicalOf_sortedBy {first : Fields} {rest : List Fields} (h : rawId idField first = "") :
    canonicalOf idField (sortedBy (rawId idField) (first :: rest)) =
      canonicalOf idField [first] := by
  have hhead : (sortedBy (rawId idField) (first :: rest)).head? =
      ((first :: rest).filter fun member ↦ rawId idField member = "").head? :=
    head?_sortedBy (rawId idField) (fun _ _ ↦ empty_le _) ⟨first, List.mem_cons_self, h⟩
  rw [List.filter_cons, if_pos (decide_eq_true h), List.head?_cons] at hhead
  rw [canonicalOf, canonicalOf, List.headD_eq_head?_getD, hhead]
  rfl

/-- Where the identifiers fit, the canonical one is the first of the sorted identifiers, or that of
`None`. -/
theorem canonicalOf_of_idsFit {members : List Fields} (h : IdsFit idField members)
    (hne : members ≠ []) : canonicalOf idField (sortedBy (rawId idField) members) =
      if ∀ member ∈ members, get? member idField ≠ none then
        ((sortedBy (rawId idField) members).map (rawId idField)).headD ""
      else "None" := by
  cases hsorted : sortedBy (rawId idField) members with
  | nil =>
    have hempty := perm_sortedBy (rawId idField) members
    rw [hsorted] at hempty
    exact absurd hempty.symm.eq_nil hne
  | cons first rest =>
    have hfirst : first ∈ members :=
      (mem_sortedBy (rawId idField)).mp (hsorted ▸ List.mem_cons_self)
    split_ifs with hall
    · rw [canonicalOf_cons_of_some (hall first hfirst), List.map_cons, List.headD_cons]
    · -- the first member has no more than the empty text, so it has no identifier
      refine canonicalOf_of_none fun other hother ↦ ?_
      cases hother
      obtain ⟨missing, hmissing, hnone⟩ : ∃ member ∈ members, get? member idField = none := by
        by_contra hex
        exact hall fun member hmember hnone ↦ hex ⟨member, hmember, hnone⟩
      have hle := first_le_of_sortedBy (rawId idField) hsorted hmissing
      rw [rawId_of_none hnone] at hle
      by_contra hsome
      exact (h.resolve_left hall).2 first hfirst hsome (le_antisymm hle (empty_le _))

theorem idsFit_perm {members members' : List Fields} (h : members.Perm members') :
    IdsFit idField members ↔ IdsFit idField members' := by
  simp only [IdsFit, h.mem_iff]

/-- Where the identifiers fit, the order of the members is no matter. -/
theorem bucketDecision?_perm {key : String} {members members' : List Fields}
    (h : members.Perm members') (hfit : 2 ≤ members.length → IdsFit idField members) :
    bucketDecision? idField (key, members) = bucketDecision? idField (key, members') := by
  refine Option.ext fun decision ↦ ?_
  rw [bucketDecision?_eq_some, bucketDecision?_eq_some, ← h.length_eq, and_congr_right_iff]
  intro hsize
  have hne : members ≠ [] := List.ne_nil_of_length_pos (Nat.lt_of_lt_of_le Nat.two_pos hsize)
  have hne' : members' ≠ [] := fun hnil ↦ hne (h.trans (hnil ▸ List.Perm.refl _)).eq_nil
  rw [canonicalOf_of_idsFit (hfit hsize) hne,
    canonicalOf_of_idsFit ((idsFit_perm h).mp (hfit hsize)) hne',
    map_sortedBy_eq_of_perm (rawId idField) h]
  simp only [h.mem_iff]

theorem canonicalOf_mem {members : List Fields} (hne : members ≠ []) (hfit : IdsFit idField members) :
    canonicalOf idField (sortedBy (rawId idField) members) ∈
      (sortedBy (rawId idField) members).map (rawId idField) := by
  rw [canonicalOf_of_idsFit hfit hne]
  split_ifs with hall
  · obtain ⟨member, hmember⟩ := List.exists_mem_of_ne_nil members hne
    have hmem : member ∈ sortedBy (rawId idField) members :=
      (mem_sortedBy (rawId idField)).mpr hmember
    cases hsorted : sortedBy (rawId idField) members with
    | nil => exact absurd (hsorted ▸ hmem) List.not_mem_nil
    | cons first rest => exact List.mem_cons_self
  · obtain ⟨member, hmember, hid⟩ := (hfit.resolve_left hall).1
    rw [← hid]
    exact List.mem_map_of_mem ((mem_sortedBy (rawId idField)).mpr hmember)

/-- Identifiers fit when the order is no matter and the canonical one is that of a member. -/
theorem idsFit_of_perm {members : List Fields}
    (hperm : ∀ members', members.Perm members' →
      canonicalOf idField (sortedBy (rawId idField) members') =
        canonicalOf idField (sortedBy (rawId idField) members))
    (hmem : canonicalOf idField (sortedBy (rawId idField) members) ∈
      (sortedBy (rawId idField) members).map (rawId idField)) : IdsFit idField members := by
  have hfirst : ∀ member ∈ members, rawId idField member = "" →
      canonicalOf idField (sortedBy (rawId idField) members) = canonicalOf idField [member] := by
    intro member hmember hempty
    obtain ⟨before, after, rfl⟩ := List.append_of_mem hmember
    rw [← hperm _ List.perm_middle, canonicalOf_sortedBy hempty]
  rw [IdsFit]
  by_contra hnot
  obtain ⟨hall, hnot⟩ := not_or.mp hnot
  obtain ⟨missing, hmissing, hnone⟩ : ∃ member ∈ members, get? member idField = none := by
    by_contra hex
    exact hall fun member hmember hnone ↦ hex ⟨member, hmember, hnone⟩
  have hnoneText : canonicalOf idField [missing] = "None" :=
    canonicalOf_of_none fun first hfirst ↦ by cases hfirst; exact hnone
  rw [hfirst missing hmissing (rawId_of_none hnone), hnoneText] at hmem hfirst
  refine hnot ⟨?_, fun member hmember hsome hempty ↦ ?_⟩
  · obtain ⟨member, hmember, hid⟩ := List.mem_map.mp hmem
    exact ⟨member, (mem_sortedBy (rawId idField)).mp hmember, hid⟩
  · have hsame := hfirst member hmember hempty
    rw [canonicalOf_cons_of_some hsome, hempty] at hsame
    exact absurd hsame (by decide)

end Decision

/-! ### All decisions -/

section Run

variable {tables : UnicodeTables} {idField nameField : String} {records : List Fields}

theorem mem_resolveEntities {decision : MergeDecision} :
    decision ∈ resolveEntities tables idField nameField records ↔ ∃ key, key ≠ "" ∧
      bucketDecision? idField (key, namesakes tables nameField records key) = some decision := by
  rw [resolveEntities_eq, List.mem_filterMap]
  refine exists_congr fun key ↦ and_congr_left fun hdecision ↦ ?_
  obtain ⟨hsize, -⟩ := bucketDecision?_eq_some.mp hdecision
  obtain ⟨record, hrecord, hkey⟩ := exists_mem_namesakes hsize
  rw [nameKeys, Text.mem_sortedTexts, List.mem_filter, List.mem_map, decide_eq_true_iff,
    and_iff_right ⟨record, hrecord, hkey⟩]

theorem namesakes_perm {records' : List Fields} (h : records.Perm records') (key : String) :
    (namesakes tables nameField records key).Perm (namesakes tables nameField records' key) :=
  h.filter _

theorem filter_belongsTo {key : String} {decision : MergeDecision}
    (h : bucketDecision? idField (key, namesakes tables nameField records key) = some decision) :
    records.filter (BelongsTo tables nameField decision) =
      namesakes tables nameField records key := by
  obtain ⟨-, rfl⟩ := bucketDecision?_eq_some.mp h
  refine List.filter_congr fun record _ ↦ decide_eq_decide.mpr ?_
  rw [BelongsTo, String.append_right_inj, eq_comm]

theorem length_filter_belongsTo (record : Fields) :
    ((resolveEntities tables idField nameField records).filter
      fun decision ↦ BelongsTo tables nameField decision record).length ≤ 1 := by
  have hpairs : (resolveEntities tables idField nameField records).Pairwise fun first second ↦
      first.clusterId ≠ second.clusterId := by
    rw [resolveEntities_eq, List.pairwise_filterMap]
    refine (Text.pairwise_sortedTexts _).imp fun hlt decision hdecision decision' hdecision' ↦ ?_
    obtain ⟨-, rfl⟩ := bucketDecision?_eq_some.mp hdecision
    obtain ⟨-, rfl⟩ := bucketDecision?_eq_some.mp hdecision'
    exact fun hsame ↦ hlt.ne ((String.append_right_inj _).mp hsame)
  cases hfilter : (resolveEntities tables idField nameField records).filter
      fun decision ↦ BelongsTo tables nameField decision record with
  | nil => exact Nat.zero_le 1
  | cons first rest =>
    cases rest with
    | nil => exact le_refl 1
    | cons second rest =>
      have hbelongs : ∀ decision ∈ first :: second :: rest,
          BelongsTo tables nameField decision record := by
        intro decision hdecision
        rw [← hfilter, List.mem_filter, decide_eq_true_iff] at hdecision
        exact hdecision.2
      have hne := List.rel_of_pairwise_cons (hfilter ▸ hpairs.filter _) List.mem_cons_self
      have hfirst := hbelongs first List.mem_cons_self
      have hsecond := hbelongs second (List.mem_cons_of_mem _ List.mem_cons_self)
      exact absurd (Eq.trans hfirst (Eq.symm hsecond)) hne

/-- A rollback gives the members back. -/
theorem rollbackMerge_eq {key : String} {members : List Fields} {decision : MergeDecision}
    (h : bucketDecision? idField (key, members) = some decision) :
    rollbackMerge decision = decision.memberIds := by
  obtain ⟨-, rfl⟩ := bucketDecision?_eq_some.mp h
  rw [rollbackMerge]
  exact (List.map_map ..).trans (List.map_id _)

/-- The records of a name can be put in any order. -/
theorem exists_perm_namesakes {key : String} {members : List Fields}
    (h : (namesakes tables nameField records key).Perm members) :
    ∃ records', records.Perm records' ∧ namesakes tables nameField records' key = members := by
  refine ⟨members ++ records.filter fun record ↦ !decide (nameKey tables nameField record = key),
    ?_, ?_⟩
  · exact (List.filter_append_perm (fun record ↦ decide (nameKey tables nameField record = key))
      records).symm.trans (h.append_right _)
  · have hmembers : ∀ member ∈ members, nameKey tables nameField member = key := fun member hmember ↦
      of_decide_eq_true (List.mem_filter.mp (h.mem_iff.mpr hmember)).2
    rw [namesakes, List.filter_append, List.filter_filter,
      List.filter_eq_self.mpr fun member hmember ↦ decide_eq_true (hmembers member hmember)]
    simp

theorem bucketDecision?_eq_of_eq {records' : List Fields} {key : String} {decision : MergeDecision}
    (h : resolveEntities tables idField nameField records' =
      resolveEntities tables idField nameField records) (hkey : key ≠ "")
    (hdecision : bucketDecision? idField (key, namesakes tables nameField records' key) =
      some decision) :
    bucketDecision? idField (key, namesakes tables nameField records key) = some decision := by
  obtain ⟨other, -, hother⟩ := mem_resolveEntities.mp (h ▸ mem_resolveEntities.mpr ⟨key, hkey, hdecision⟩)
  have hsame : other = key := by
    obtain ⟨-, rfl⟩ := bucketDecision?_eq_some.mp hdecision
    obtain ⟨-, heq⟩ := bucketDecision?_eq_some.mp hother
    exact ((String.append_right_inj _).mp (congrArg MergeDecision.clusterId heq)).symm
  rwa [hsame] at hother

/-- Merges are consistent exactly when the identifiers of every bucket fit. -/
theorem mergesConsistent_iff (tables : UnicodeTables) (idField nameField : String)
    (records : List Fields) : MergesConsistent tables idField nameField records ↔
      ∀ key, key ≠ "" → 2 ≤ (namesakes tables nameField records key).length →
        IdsFit idField (namesakes tables nameField records key) := by
  constructor
  · intro hconsistent key hkey hsize
    have hdecision : bucketDecision? idField (key, namesakes tables nameField records key) =
      some _ := bucketDecision?_eq_some.mpr ⟨hsize, rfl⟩
    have hmem := hconsistent.canonical _ (mem_resolveEntities.mpr ⟨key, hkey, hdecision⟩)
    refine idsFit_of_perm (fun members' hperm ↦ ?_) hmem
    obtain ⟨records', hrecords, rfl⟩ := exists_perm_namesakes hperm
    have hdecision' : bucketDecision? idField (key, namesakes tables nameField records' key) =
      some _ := bucketDecision?_eq_some.mpr ⟨hperm.length_eq ▸ hsize, rfl⟩
    have hsame := bucketDecision?_eq_of_eq (hconsistent.order records' hrecords) hkey hdecision'
    exact congrArg MergeDecision.canonicalId (Option.some_inj.mp (hsame.symm.trans hdecision))
  · intro hfit
    refine ⟨fun decision hmem ↦ ?_, fun decision hmem ↦ ?_,
      fun record _ ↦ length_filter_belongsTo record, fun records' hperm ↦ ?_, fun decision hmem ↦ ?_⟩
    · obtain ⟨key, hkey, hdecision⟩ := mem_resolveEntities.mp hmem
      obtain ⟨hsize, rfl⟩ := bucketDecision?_eq_some.mp hdecision
      exact canonicalOf_mem (List.ne_nil_of_length_pos (Nat.lt_of_lt_of_le Nat.two_pos hsize))
        (hfit key hkey hsize)
    · obtain ⟨key, -, hdecision⟩ := mem_resolveEntities.mp hmem
      rw [filter_belongsTo hdecision]
      obtain ⟨-, rfl⟩ := bucketDecision?_eq_some.mp hdecision
      exact (perm_sortedBy _ _).map _
    · rw [resolveEntities_eq, resolveEntities_eq, nameKeys_eq_of_perm hperm]
      refine List.filterMap_congr fun key hkey ↦ ?_
      rw [nameKeys, Text.mem_sortedTexts, List.mem_filter, decide_eq_true_iff] at hkey
      exact (bucketDecision?_perm (namesakes_perm hperm key) (hfit key hkey.2)).symm
    · obtain ⟨key, -, hdecision⟩ := mem_resolveEntities.mp hmem
      exact rollbackMerge_eq hdecision

/-- A member without an identifier makes the canonical one `None`. -/
theorem missing_id_is_canonical : ¬MergesConsistent asciiTables "canonical_id" "name"
    [[("name", .str "Ada")], [("canonical_id", .str "c-1"), ("name", .str "ada")]] := by
  intro hconsistent
  have hdecisions : (resolveEntities asciiTables "canonical_id" "name"
      [[("name", .str "Ada")], [("canonical_id", .str "c-1"), ("name", .str "ada")]]).map
        (fun decision ↦ (decision.canonicalId, decision.memberIds)) = [("None", ["", "c-1"])] := by
    decide +kernel
  obtain ⟨decision, hdecision, hids⟩ := List.mem_map.mp
    (hdecisions ▸ List.mem_singleton_self ("None", ["", "c-1"]))
  have hmem := hconsistent.canonical decision hdecision
  rw [(Prod.mk.inj hids).1, (Prod.mk.inj hids).2] at hmem
  exact absurd hmem (by decide)

end Run

end SchemaPilot.Workers
