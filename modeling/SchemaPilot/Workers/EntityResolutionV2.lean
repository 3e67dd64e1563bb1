import SchemaPilot.Workers.EntityResolution
import Mathlib.Algebra.Order.Field.Rat

/-!
# Probabilistic entity resolution

`backend/workers/entity_resolution_v2.py`: records are sorted by their identifiers, and each record whose
identifier is not used yet seeds a cluster of the later records that are similar enough. A cluster is kept
when it has two members, but members are told apart by their identifiers only afterwards, so a record and
its repetition give a cluster of one (`clustersWellFormed_iff`). The order of the input does not matter as
long as no two identifiers are the same text (`resolveEntitiesV2_perm`). Scores are any values with the
comparisons of floats.
-/

namespace SchemaPilot.Workers

open Library Library.Json

/-- Texts and floats as the platform handles them. -/
structure ErPlatform (φ : Type) extends UnicodeTables where
  /-- `numerator / denominator`. -/
  ratio : ℕ → ℕ → φ
  /-- `0.0` and `1.0`. -/
  zero : φ
  one : φ
  /-- `a < b` and `a >= b`, both of which fail for a `nan`. -/
  lt : φ → φ → Bool
  ge : φ → φ → Bool

/-- Probabilistic merge decision with rollback metadata. -/
structure ErV2Decision (φ : Type) where
  clusterId : String
  canonicalId : String
  memberIds : List String
  score : φ
  threshold : φ
  rollbackPayload : Fields

/-- The arguments of `resolve_entities_v2` beside the records. -/
structure ErV2Options (φ : Type) where
  idField : String
  nameField : String
  threshold : φ
  similarityFn : Option (Fields → Fields → φ)

section Definitions

variable {φ : Type} (platform : ErPlatform φ)

/-- `min(a, b)`. -/
def ErPlatform.min (a b : φ) : φ := if platform.lt b a then b else a

/-- `max(a, b)`. -/
def ErPlatform.max (a b : φ) : φ := if platform.lt a b then b else a

/-- `_normalize_token`. -/
def normalizeToken (value : String) : String :=
  String.ofList ((Text.strip (platform.lower value)).toList.map fun ch ↦
    if platform.isAlnum ch then ch else ' ')

/-- `_tokenize`. -/
def tokenize (value : String) : List String := (Text.splitBlank value).dedup

/-- `_default_similarity`. -/
def defaultSimilarity (left right : Fields) : φ :=
  let leftTokens := tokenize (normalizeToken platform (getD left "name" (.str "")).toStr)
  let rightTokens := tokenize (normalizeToken platform (getD right "name" (.str "")).toStr)
  if leftTokens = [] ∨ rightTokens = [] then platform.zero
  else platform.ratio (leftTokens ∩ rightTokens).length (leftTokens ∪ rightTokens).length

/-- `str(row.get(id_field, "")).strip()`. -/
def recordId (idField : String) (row : Fields) : String := Text.strip (rawId idField row)

def ErV2Options.scorer (options : ErV2Options φ) : Fields → Fields → φ :=
  options.similarityFn.getD (defaultSimilarity platform)

/-- `max(0.0, min(1.0, threshold))`. -/
def ErV2Options.normalizedThreshold (options : ErV2Options φ) : φ :=
  platform.max platform.zero (platform.min platform.one options.threshold)

variable (options : ErV2Options φ)

/-- A later record joins the cluster of a seed: it has an identifier that is not used yet and is similar
enough. -/
def joins (usedIds : List String) (left right : Fields) : Bool :=
  recordId options.idField right ≠ "" && recordId options.idField right ∉ usedIds &&
    platform.ge (options.scorer platform left right) (options.normalizedThreshold platform)

def gatherStep (usedIds : List String) (left : Fields) (state : List String × φ) (right : Fields) :
    List String × φ :=
  if joins platform options usedIds left right then
    (state.1 ++ [recordId options.idField right],
      platform.min state.2 (options.scorer platform left right))
  else state

/-- The members of the cluster of a seed and their lowest score. -/
def gather (usedIds : List String) (left : Fields) (rest : List Fields) : List String × φ :=
  rest.foldl (gatherStep platform options usedIds left)
    ([recordId options.idField left], platform.one)

/-- The decision of a turn of the outer loop, if it comes to one. -/
def seedDecision? (usedIds : List String) (left : Fields) (rest : List Fields) :
    Option (ErV2Decision φ) :=
  let leftId := recordId options.idField left
  if leftId = "" ∨ leftId ∈ usedIds then none
  else
    let (members, bestScore) := gather platform options usedIds left rest
    if members.length < 2 then none
    else
      let membersSorted := Text.sortedTexts members
      let canonical := membersSorted.headD ""
      let token := normalizeToken platform (getD left options.nameField (.str "")).toStr
      some
        { clusterId := "erv2_" ++ (if token = "" then canonical else token)
          canonicalId := canonical
          memberIds := membersSorted
          score := bestScore
          threshold := options.normalizedThreshold platform
          rollbackPayload := [("pre_merge_member_ids", textList membersSorted)] }

def usedAfter (usedIds : List String) : Option (ErV2Decision φ) → List String
  | none => usedIds
  | some decision => usedIds ++ decision.memberIds

/-- The outer loop over sorted records. -/
def resolveFrom (usedIds : List String) : List Fields → List (ErV2Decision φ)
  | [] => []
  | left :: rest =>
    let decision := seedDecision? platform options usedIds left rest
    decision.toList ++ resolveFrom (usedAfter usedIds decision) rest

/-- `resolve_entities_v2`. -/
def resolveEntitiesV2 (records : List Fields) : List (ErV2Decision φ) :=
  resolveFrom platform options [] (sortedBy (rawId options.idField) records)

/-- The turns of the outer loop: the identifiers used by then, the record and the later ones. -/
def turnsFrom (usedIds : List String) : List Fields → List (List String × Fields × List Fields)
  | [] => []
  | left :: rest =>
    (usedIds, left, rest) ::
      turnsFrom (usedAfter usedIds (seedDecision? platform options usedIds left rest)) rest

end Definitions

/-- `rollback_er_v2`. -/
def rollbackErV2 {φ : Type} (decision : ErV2Decision φ) : List String :=
  match getD decision.rollbackPayload "pre_merge_member_ids" (.arr []) with
  | .arr items => (items.map toStr).filter fun item ↦ Text.strip item ≠ ""
  | _ => []

section Property

variable {φ : Type}

/-- A decision about records: its members are different identifiers that occur, in order, at least two,
the canonical one is the least of them, and a rollback gives them back. -/
structure ErV2Decision.WellFormed (idField : String) (records : List Fields)
    (decision : ErV2Decision φ) : Prop where
  increasing : decision.memberIds.Pairwise (· < ·)
  two : 2 ≤ decision.memberIds.length
  occur : ∀ id ∈ decision.memberIds, ∃ record ∈ records, recordId idField record = id
  canonical : decision.canonicalId ∈ decision.memberIds
  least : ∀ id ∈ decision.memberIds, decision.canonicalId ≤ id
  rollback : rollbackErV2 decision = decision.memberIds

/-- Decisions are well formed and no identifier is a member of two of them. -/
def ClustersWellFormed (idField : String) (records : List Fields)
    (decisions : List (ErV2Decision φ)) : Prop :=
  (decisions.Pairwise fun first second ↦ first.memberIds.Disjoint second.memberIds) ∧
    ∀ decision ∈ decisions, decision.WellFormed idField records

/-- A record that seeds a cluster is not joined by repetitions of its identifier alone. -/
def SeedFits (platform : ErPlatform φ) (options : ErV2Options φ)
    (turn : List String × Fields × List Fields) : Prop :=
  let (usedIds, left, rest) := turn
  recordId options.idField left ≠ "" → recordId options.idField left ∉ usedIds →
    (∃ right ∈ rest, joins platform options usedIds left right = true) →
      ∃ right ∈ rest, joins platform options usedIds left right = true ∧
        recordId options.idField right ≠ recordId options.idField left

end Property

section Turns

variable {φ : Type} {platform : ErPlatform φ} {options : ErV2Options φ}

/-- The members of a cluster are the seed and the records that join it. -/
theorem gather_fst (usedIds : List String) (left : Fields) (rest : List Fields) :
    (gather platform options usedIds left rest).1 = recordId options.idField left ::
      (rest.filter (joins platform options usedIds left)).map (recordId options.idField) := by
  have hfold : ∀ (rest : List Fields) (state : List String × φ),
      (rest.foldl (gatherStep platform options usedIds left) state).1 =
        state.1 ++ (rest.filter (joins platform options usedIds left)).map
          (recordId options.idField) := by
    intro rest
    induction rest with
    | nil => exact fun state ↦ (List.append_nil _).symm
    | cons right rest ih =>
      intro state
      rw [List.foldl_cons, ih, gatherStep, List.filter_cons]
      split_ifs
      · rw [List.map_cons, List.append_assoc, List.singleton_append]
      · rfl
  rw [gather, hfold, List.singleton_append]

/-- What a decision is made of. -/
theorem seedDecision?_eq_some {usedIds : List String} {left : Fields} {rest : List Fields}
    {decision : ErV2Decision φ}
    (h : seedDecision? platform options usedIds left rest = some decision) :
    recordId options.idField left ≠ "" ∧ recordId options.idField left ∉ usedIds ∧
      (∃ right ∈ rest, joins platform options usedIds left right = true) ∧
      decision.memberIds = Text.sortedTexts (recordId options.idField left ::
        (rest.filter (joins platform options usedIds left)).map (recordId options.idField)) ∧
      decision.canonicalId = decision.memberIds.headD "" ∧
      decision.rollbackPayload = [("pre_merge_member_ids", textList decision.memberIds)] := by
  rw [seedDecision?] at h
  dsimp only at h
  by_cases hid : recordId options.idField left = "" ∨ recordId options.idField left ∈ usedIds
  · rw [if_pos hid] at h
    cases h
  rw [if_neg hid] at h
  by_cases hsize : (gather platform options usedIds left rest).1.length < 2
  · rw [if_pos hsize] at h
    cases h
  rw [if_neg hsize] at h
  rw [not_or] at hid
  rw [gather_fst, List.length_cons, List.length_map, Nat.add_lt_add_iff_right (k := 1),
    Nat.lt_one_iff, List.length_eq_zero_iff] at hsize
  obtain ⟨right, hright⟩ := List.exists_mem_of_ne_nil _ hsize
  rw [List.mem_filter] at hright
  cases h
  exact ⟨hid.1, hid.2, ⟨right, hright⟩, by rw [gather_fst], rfl, rfl⟩

/-- A record with an identifier that is not used makes a decision when another joins it. -/
theorem exists_seedDecision? {usedIds : List String} {left right : Fields} {rest : List Fields}
    (hid : recordId options.idField left ≠ "") (hused : recordId options.idField left ∉ usedIds)
    (hright : right ∈ rest) (hjoins : joins platform options usedIds left right = true) :
    ∃ decision, seedDecision? platform options usedIds left rest = some decision := by
  rw [seedDecision?]
  dsimp only
  have hmem : right ∈ rest.filter (joins platform options usedIds left) :=
    List.mem_filter.mpr ⟨hright, hjoins⟩
  have hsize : ¬(gather platform options usedIds left rest).1.length < 2 := by
    rw [gather_fst, List.length_cons, List.length_map]
    have hpos := List.length_pos_of_mem hmem
    omega
  rw [if_neg (not_or.mpr ⟨hid, hused⟩), if_neg hsize]
  exact ⟨_, rfl⟩

theorem two_le_length_sortedTexts {first : String} {texts : List String} :
    2 ≤ (Text.sortedTexts (first :: texts)).length ↔ ∃ text ∈ texts, text ≠ first := by
  constructor
  · intro h
    by_contra hall
    have hsame : Text.sortedTexts (first :: texts) = Text.sortedTexts [first] := by
      refine Text.sortedTexts_congr fun text ↦ ?_
      rw [List.mem_cons, List.mem_singleton, or_iff_left_iff_imp]
      intro htext
      by_contra hne
      exact hall ⟨text, htext, hne⟩
    rw [hsame] at h
    exact absurd h (by simp [Text.sortedTexts])
  · rintro ⟨text, htext, hne⟩
    have hsub : [first, text] ⊆ Text.sortedTexts (first :: texts) := by
      intro other hother
      rw [Text.mem_sortedTexts]
      rcases List.mem_pair.mp hother with rfl | rfl
      · exact List.mem_cons_self
      · exact List.mem_cons_of_mem _ htext
    have hnodup : [first, text].Nodup :=
      List.nodup_cons.mpr ⟨fun hmem ↦ hne (List.mem_singleton.mp hmem).symm, List.nodup_singleton _⟩
    exact (List.subperm_of_subset hnodup hsub).length_le

section Decision

variable {φ : Type} {platform : ErPlatform φ} {options : ErV2Options φ} {usedIds : List String}
  {left : Fields} {rest : List Fields} {decision : ErV2Decision φ}

theorem mem_memberIds (h : seedDecision? platform options usedIds left rest = some decision)
    {id : String} : id ∈ decision.memberIds ↔ id = recordId options.idField left ∨
      ∃ right ∈ rest, joins platform options usedIds left right = true ∧
        recordId options.idField right = id := by
  obtain ⟨-, -, -, hmembers, -, -⟩ := seedDecision?_eq_some h
  rw [hmembers, Text.mem_sortedTexts, List.mem_cons, List.mem_map]
  simp only [List.mem_filter, and_assoc]

/-- The members of a decision are identifiers that are not used yet. -/
theorem memberIds_fresh (h : seedDecision? platform options usedIds left rest = some decision)
    {id : String} (hid : id ∈ decision.memberIds) : id ≠ "" ∧ id ∉ usedIds := by
  obtain ⟨hleft, hused, -, -, -, -⟩ := seedDecision?_eq_some h
  rcases (mem_memberIds h).mp hid with rfl | ⟨right, -, hjoins, rfl⟩
  · exact ⟨hleft, hused⟩
  · rw [joins, Bool.and_eq_true, Bool.and_eq_true, decide_eq_true_iff, decide_eq_true_iff] at hjoins
    exact hjoins.1

theorem wellFormed_of_two {records : List Fields}
    (h : seedDecision? platform options usedIds left rest = some decision) (hleft : left ∈ records)
    (hrest : rest ⊆ records) (htwo : 2 ≤ decision.memberIds.length) :
    decision.WellFormed options.idField records := by
  obtain ⟨-, -, -, hmembers, hcanonical, hpayload⟩ := seedDecision?_eq_some h
  have hsorted : decision.memberIds.Pairwise (· < ·) := hmembers ▸ Text.pairwise_sortedTexts _
  obtain ⟨first, others, hids⟩ := List.exists_cons_of_length_pos (Nat.lt_of_lt_of_le Nat.two_pos htwo)
  have hfirst : decision.canonicalId = first := by rw [hcanonical, hids, List.headD_cons]
  refine ⟨hsorted, htwo, fun id hid ↦ ?_, ?_, fun id hid ↦ ?_, ?_⟩
  · rcases (mem_memberIds h).mp hid with rfl | ⟨right, hright, -, rfl⟩
    · exact ⟨left, hleft, rfl⟩
    · exact ⟨right, hrest hright, rfl⟩
  · rw [hfirst, hids]
    exact List.mem_cons_self
  · rw [hids] at hsorted hid
    rw [hfirst]
    rcases List.mem_cons.mp hid with rfl | hid
    · exact le_refl _
    · exact (List.rel_of_pairwise_cons hsorted hid).le
  · rw [rollbackErV2, hpayload]
    have hlist : getD [("pre_merge_member_ids", textList decision.memberIds)] "pre_merge_member_ids"
        (.arr []) = .arr (decision.memberIds.map .str) := rfl
    have htexts : (decision.memberIds.map Json.str).map toStr = decision.memberIds := by
      rw [List.map_map]
      exact List.map_id decision.memberIds
    rw [hlist]
    dsimp only
    rw [htexts, List.filter_eq_self]
    intro id hid
    rw [decide_eq_true_iff]
    -- members are stripped texts
    have hstripped : Text.strip id = id := by
      rcases (mem_memberIds h).mp hid with rfl | ⟨right, -, -, rfl⟩
      · rw [recordId, Text.strip_strip]
      · rw [recordId, Text.strip_strip]
    rw [hstripped]
    exact (memberIds_fresh h hid).1

theorem two_le_memberIds_iff (h : seedDecision? platform options usedIds left rest = some decision) :
    2 ≤ decision.memberIds.length ↔ SeedFits platform options (usedIds, left, rest) := by
  obtain ⟨hleft, hused, hjoined, hmembers, -, -⟩ := seedDecision?_eq_some h
  rw [hmembers, two_le_length_sortedTexts, SeedFits]
  simp only [List.mem_map, List.mem_filter]
  constructor
  · rintro ⟨_, ⟨right, ⟨hright, hjoins⟩, rfl⟩, hne⟩ _ _ _
    exact ⟨right, hright, hjoins, hne⟩
  · intro hfits
    obtain ⟨right, hright, hjoins, hne⟩ := hfits hleft hused hjoined
    exact ⟨_, ⟨right, ⟨hright, hjoins⟩, rfl⟩, hne⟩

end Decision

section Run

variable {φ : Type} {platform : ErPlatform φ} {options : ErV2Options φ}

theorem mem_resolveFrom {decision : ErV2Decision φ} {records : List Fields} :
    ∀ {usedIds : List String}, decision ∈ resolveFrom platform options usedIds records ↔
      ∃ turn ∈ turnsFrom platform options usedIds records,
        seedDecision? platform options turn.1 turn.2.1 turn.2.2 = some decision := by
  induction records with
  | nil =>
    intro usedIds
    refine iff_of_false List.not_mem_nil ?_
    rintro ⟨_, hturn, -⟩
    exact List.not_mem_nil hturn
  | cons left rest ih =>
    intro usedIds
    rw [resolveFrom, turnsFrom, List.mem_append, ih, Option.mem_toList, List.exists_mem_cons_iff]

theorem turn_subset {turn : List String × Fields × List Fields} {records : List Fields} :
    ∀ {usedIds : List String}, turn ∈ turnsFrom platform options usedIds records →
      turn.2.1 ∈ records ∧ turn.2.2 ⊆ records := by
  induction records with
  | nil => exact fun h ↦ absurd h List.not_mem_nil
  | cons left rest ih =>
    intro usedIds h
    rw [turnsFrom] at h
    rcases List.mem_cons.mp h with rfl | h
    · exact ⟨List.mem_cons_self, List.subset_cons_self left rest⟩
    · exact ⟨List.mem_cons_of_mem _ (ih h).1, List.subset_cons_of_subset left (ih h).2⟩

/-- Decisions share no members with one another, nor with the identifiers that are used before. -/
theorem disjoint_resolveFrom (records : List Fields) : ∀ usedIds : List String,
    (∀ decision ∈ resolveFrom platform options usedIds records, ∀ id ∈ decision.memberIds,
      id ∉ usedIds) ∧
    (resolveFrom platform options usedIds records).Pairwise fun first second ↦
      first.memberIds.Disjoint second.memberIds := by
  induction records with
  | nil => exact fun _ ↦ ⟨fun _ h ↦ absurd h List.not_mem_nil, List.Pairwise.nil⟩
  | cons left rest ih =>
    intro usedIds
    rw [resolveFrom]
    cases hseed : seedDecision? platform options usedIds left rest with
    | none => exact ih usedIds
    | some decision =>
      obtain ⟨hfresh, hpairs⟩ := ih (usedIds ++ decision.memberIds)
      rw [Option.toList_some, List.singleton_append, usedAfter]
      refine ⟨List.forall_mem_cons.mpr ⟨fun id hid ↦ (memberIds_fresh hseed hid).2, ?_⟩, ?_⟩
      · exact fun other hother id hid hused ↦
          hfresh other hother id hid (List.mem_append_left _ hused)
      · refine List.pairwise_cons.mpr ⟨fun other hother id hid hid' ↦ ?_, hpairs⟩
        exact hfresh other hother id hid' (List.mem_append_right _ hid)

/-- Clusters are well formed exactly when no seed is joined by repetitions of itself alone. -/
theorem clustersWellFormed_iff (platform : ErPlatform φ) (options : ErV2Options φ)
    (records : List Fields) :
    ClustersWellFormed options.idField records (resolveEntitiesV2 platform options records) ↔
      ∀ turn ∈ turnsFrom platform options [] (sortedBy (rawId options.idField) records),
        SeedFits platform options turn := by
  constructor
  · rintro ⟨-, hformed⟩ ⟨usedIds, left, rest⟩ hturn hid hused hjoined
    obtain ⟨right, hright, hjoins⟩ := hjoined
    obtain ⟨decision, hdecision⟩ := exists_seedDecision? hid hused hright hjoins
    have hmem : decision ∈ resolveEntitiesV2 platform options records :=
      mem_resolveFrom.mpr ⟨_, hturn, hdecision⟩
    have htwo := (hformed decision hmem).two
    exact (two_le_memberIds_iff hdecision).mp htwo hid hused ⟨right, hright, hjoins⟩
  · intro hfits
    refine ⟨(disjoint_resolveFrom _ []).2, fun decision hmem ↦ ?_⟩
    obtain ⟨turn, hturn, hdecision⟩ := mem_resolveFrom.mp hmem
    obtain ⟨hleft, hrest⟩ := turn_subset hturn
    have htwo := (two_le_memberIds_iff hdecision).mpr (hfits turn hturn)
    refine wellFormed_of_two hdecision ((mem_sortedBy _).mp hleft) (fun record hrecord ↦ ?_) htwo
    exact (mem_sortedBy _).mp (hrest hrecord)

/-- The decisions do not depend on the order of the records. -/
theorem resolveEntitiesV2_perm (platform : ErPlatform φ) (options : ErV2Options φ)
    {records records' : List Fields} (h : records.Perm records')
    (hids : (records.map (rawId options.idField)).Nodup) :
    resolveEntitiesV2 platform options records = resolveEntitiesV2 platform options records' := by
  rw [resolveEntitiesV2, resolveEntitiesV2, sortedBy_eq_of_perm (rawId options.idField) h hids]

/-- Scores as fractions, and ASCII names. -/
def fractionPlatform : ErPlatform ℚ where
  toUnicodeTables := asciiTables
  ratio numerator denominator := numerator / denominator
  zero := 0
  one := 1
  lt a b := a < b
  ge a b := b ≤ a

def defaultOptions : ErV2Options ℚ := ⟨"canonical_id", "name", 17 / 20, none⟩

theorem resolveEntitiesV2_swapped :
    resolveEntitiesV2 fractionPlatform defaultOptions
        [[("canonical_id", .str "c-1"), ("name", .str "Ada")],
          [("canonical_id", .str "c-2"), ("name", .str "ada")]] =
      resolveEntitiesV2 fractionPlatform defaultOptions
        [[("canonical_id", .str "c-2"), ("name", .str "ada")],
          [("canonical_id", .str "c-1"), ("name", .str "Ada")]] :=
  resolveEntitiesV2_perm fractionPlatform defaultOptions (List.Perm.swap _ _ _) (by decide)

/-- A record and its repetition are a cluster of one member. -/
theorem repeated_record_is_cluster : ¬ClustersWellFormed "canonical_id"
    [[("canonical_id", .str "c-1"), ("name", .str "Ada")],
      [("canonical_id", .str "c-1"), ("name", .str "Ada")]]
    (resolveEntitiesV2 fractionPlatform defaultOptions
      [[("canonical_id", .str "c-1"), ("name", .str "Ada")],
        [("canonical_id", .str "c-1"), ("name", .str "Ada")]]) := by
  rintro ⟨-, hformed⟩
  have hmembers : (resolveEntitiesV2 fractionPlatform defaultOptions
      [[("canonical_id", .str "c-1"), ("name", .str "Ada")],
        [("canonical_id", .str "c-1"), ("name", .str "Ada")]]).map
          (fun decision ↦ decision.memberIds) = [["c-1"]] := by decide +kernel
  obtain ⟨decision, hdecision, hids⟩ := List.mem_map.mp (hmembers ▸ List.mem_singleton_self ["c-1"])
  have htwo := (hformed decision hdecision).two
  rw [hids] at htwo
  exact absurd htwo (by decide)

end Run

end Turns

end SchemaPilot.Workers
