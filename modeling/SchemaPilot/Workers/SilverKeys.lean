import SchemaPilot.Library.JoinedText
import SchemaPilot.Workers.SilverRecords

/-!
# Natural keys

`_build_natural_key` joins the trimmed texts of the key fields by bars, which the texts may hold
themselves. So two records have one key exactly when their texts, split at the bars, have the same
pieces, and a key tells them apart exactly when the pieces are then shared out among the fields alike
(`naturalKeysSeparate_iff`).
-/

namespace SchemaPilot.Workers

open Library Library.Json SharedDomain

def AgreeOn (fields : List String) (first second : Fields) : Prop :=
  ∀ field ∈ fields, keyComponent first field = keyComponent second field

/-- The hashes of two natural keys of an entity, as far as they are used, are equal only for equal
texts. -/
def CollisionFree (platform : SilverPlatform) (entityName key key' : String) : Prop :=
  stableId platform entityName key = stableId platform entityName key' →
    entityName ++ "::" ++ key = entityName ++ "::" ++ key'

/-- The natural keys of two records, and their canonical identifiers when the hash does not collide on
these keys, are equal only for records that agree in every key field. -/
def NaturalKeysSeparate (platform : SilverPlatform) (entityName : String) (fields : List String)
    (first second : Fields) : Prop :=
  ∀ index index' key key', buildNaturalKey first fields index = .ok key →
    buildNaturalKey second fields index' = .ok key' →
      (key = key' → AgreeOn fields first second) ∧
        (CollisionFree platform entityName key key' →
          stableId platform entityName key = stableId platform entityName key' →
            AgreeOn fields first second)

/-- The pieces of the key texts of a record, split at the bars. -/
def keyPieces (fields : List String) (record : Fields) : List (List Char) :=
  fields.flatMap fun field ↦ (keyComponent record field).toList.splitOn '|'

/-- Where the key texts of two records have the same pieces, each key field has as many bars in the one
as in the other. -/
def BarsFit (fields : List String) (first second : Fields) : Prop :=
  keyPieces fields first = keyPieces fields second → ∀ field ∈ fields,
    (keyComponent first field).toList.count '|' = (keyComponent second field).toList.count '|'

theorem buildNaturalKey_of_present {record : Fields} {fields : List String}
    (h : ∀ field ∈ fields, keyComponent record field ≠ "") (index : ℕ) :
    buildNaturalKey record fields index =
      .ok ("|".intercalate (fields.map (keyComponent record))) := by
  rw [buildNaturalKey, bind_eq_ok_iff]
  refine ⟨fields.map (keyComponent record), mapM_eq_ok_iff.mpr ?_, rfl⟩
  rw [List.forall₂_map_right_iff, List.forall₂_same]
  intro field hfield
  exact if_neg (h field hfield)

theorem key_eq_iff {fields : List String} (hne : fields ≠ []) (first second : Fields) :
    "|".intercalate (fields.map (keyComponent first)) =
        "|".intercalate (fields.map (keyComponent second)) ↔
      keyPieces fields first = keyPieces fields second := by
  have hparts : ∀ record : Fields, (fields.map (keyComponent record)).map String.toList ≠ [] := by
    intro record hnil
    rw [List.map_map, List.map_eq_nil_iff] at hnil
    exact hne hnil
  have hbar : "|".toList = ['|'] := rfl
  rw [← String.toList_inj, String.toList_intercalate, String.toList_intercalate, hbar,
    intercalate_eq_iff (hparts first) (hparts second), keyPieces, keyPieces]
  simp only [List.map_map, List.flatMap_map, Function.comp_apply]

/-- Records whose texts have the same pieces, shared out alike, agree. -/
theorem BarsFit.agreeOn {fields : List String} {first second : Fields}
    (h : BarsFit fields first second) (hpieces : keyPieces fields first = keyPieces fields second) :
    AgreeOn fields first second := by
  intro field hfield
  exact String.toList_inj.mp (eq_of_splitOn_flatMap_eq hpieces (h hpieces) field hfield)

/-- Natural keys tell two records apart exactly when the bars in their key texts leave no doubt. -/
theorem naturalKeysSeparate_iff (platform : SilverPlatform) (entityName : String)
    {fields : List String} (hne : fields ≠ []) {first second : Fields}
    (hfirst : ∀ field ∈ fields, keyComponent first field ≠ "")
    (hsecond : ∀ field ∈ fields, keyComponent second field ≠ "") :
    NaturalKeysSeparate platform entityName fields first second ↔ BarsFit fields first second := by
  constructor
  · intro h hpieces field hfield
    have hagree := (h 0 0 _ _ (buildNaturalKey_of_present hfirst 0)
      (buildNaturalKey_of_present hsecond 0)).1 ((key_eq_iff hne first second).mpr hpieces)
    rw [hagree field hfield]
  · intro h index index' key key' hkey hkey'
    rw [buildNaturalKey_of_present hfirst] at hkey
    rw [buildNaturalKey_of_present hsecond] at hkey'
    cases hkey
    cases hkey'
    have hkeys : ∀ hsame, AgreeOn fields first second :=
      fun hsame ↦ h.agreeOn ((key_eq_iff hne first second).mp hsame)
    refine ⟨hkeys, fun hfree hids ↦ hkeys ?_⟩
    exact (String.append_right_inj _).mp (hfree hids)

/-- Texts without bars leave no doubt. -/
theorem barsFit_of_no_bars {fields : List String} {first second : Fields}
    (hfirst : ∀ field ∈ fields, '|' ∉ (keyComponent first field).toList)
    (hsecond : ∀ field ∈ fields, '|' ∉ (keyComponent second field).toList) :
    BarsFit fields first second := by
  intro _ field hfield
  rw [List.count_eq_zero_of_not_mem (hfirst field hfield),
    List.count_eq_zero_of_not_mem (hsecond field hfield)]

theorem naturalKeysSeparate_cities :
    NaturalKeysSeparate (literalPlatform id zeroRounding) "customer" ["name", "city"]
      [("name", .str "Ada"), ("city", .str "Bern")] [("name", .str "Ada"), ("city", .str "Basel")] :=
  (naturalKeysSeparate_iff (literalPlatform id zeroRounding) "customer" (by decide) (by decide)
    (by decide)).mpr (barsFit_of_no_bars (by decide) (by decide))

/-- Two suppliers whose names and sites are different texts have one natural key. -/
theorem bars_merge_suppliers : ∃ first second,
    normalizeRecord (literalPlatform id zeroRounding)
        [("name", .str "Nord|Ost"), ("site", .str "Bern")] = .ok first ∧
      normalizeRecord (literalPlatform id zeroRounding)
        [("name", .str "Nord"), ("site", .str "Ost|Bern")] = .ok second ∧
      (∀ field ∈ ["name", "site"], keyComponent first field ≠ "") ∧
      (∀ field ∈ ["name", "site"], keyComponent second field ≠ "") ∧
      ¬NaturalKeysSeparate (literalPlatform id zeroRounding) "supplier" ["name", "site"] first
        second := by
  refine ⟨[("name", .str "Nord|Ost"), ("site", .str "Bern")],
    [("name", .str "Nord"), ("site", .str "Ost|Bern")], by rfl, by rfl, by decide, by decide,
    fun h ↦ ?_⟩
  have hagree := (h 0 0 _ _ (buildNaturalKey_of_present (by decide) 0)
    (buildNaturalKey_of_present (by decide) 0)).1 (by decide +kernel)
  have hname := hagree "name" List.mem_cons_self
  revert hname
  decide

end SchemaPilot.Workers
