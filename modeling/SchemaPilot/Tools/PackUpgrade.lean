import Mathlib.Logic.Relation
import SchemaPilot.Tools.PackSigning

/-!
# Upgraded payloads

`migrate_pack_payload` of `tools/pack_migrate.py`: what it adds to a payload stays, so a file that is migrated again
and again never returns to a text it had before (`eq_or_rank_lt`).
-/

namespace SchemaPilot.Tools

open Library Library.Text Library.Json SharedDomain

/-- `fields.setdefault(key, value)`. -/
def setDefault (fields : Fields) (key : String) (value : Json) : Fields :=
  if (get? fields key).isSome then fields else set fields key value

/-- `payload.get("compatibility")`, a dictionary anew where it is none. -/
def compatibilityOf (payload : Fields) : Fields := ((get? payload "compatibility").bind asObj?).getD []

/-- The `compatibility` of a payload of the second schema version. -/
def upgradedCompatibility (compatibility : Fields) (sectionName : String) : Fields :=
  let ranged := setDefault (setDefault compatibility "min_runtime_version" (.str "0.1.0")) "max_runtime_version"
    (.str "0.x")
  if sectionName = "semantic_packs" ∨ sectionName = "template_packs" then
    setDefault ranged "semantic_manifest_version" (.str "1")
  else ranged

/-- A payload as it is in the second schema version. -/
def upgradedPayload (payload : Fields) (sectionName : String) : Fields :=
  let migrated := set payload "schema_version" (.str "v2")
  set migrated "compatibility" (.obj (upgradedCompatibility (compatibilityOf migrated) sectionName))

/-- `migrate_pack_payload`, with the text of its `ValueError`. -/
def migratePackPayload (payload : Fields) (sectionName source target : String) : Except String Fields :=
  if source = target then .ok payload
  else if source = "v1" ∧ target = "v2" then .ok (upgradedPayload payload sectionName)
  else .error ("unsupported_migration:" ++ sectionName ++ ":" ++ source ++ "->" ++ target)

variable {payload fields : Fields} {sectionName key : String}

/-- Setting a key to its value changes nothing. -/
theorem set_eq_self (hnodup : (fields.map Prod.fst).Nodup) {value : Json} (h : get? fields key = some value) :
    set fields key value = fields := by
  obtain ⟨before, after, hfields, -⟩ := List.lookup_eq_some_iff.mp h
  have hmem : (key, value) ∈ fields := by rw [hfields]; simp
  have hany : (fields.any fun field ↦ field.1 = key) = true :=
    List.any_eq_true.mpr ⟨_, hmem, decide_eq_true rfl⟩
  rw [Json.set, if_pos hany]
  refine (List.map_congr_left fun field hfield ↦ ?_).trans (List.map_id fields)
  split_ifs with hkey
  · exact List.inj_on_of_nodup_map hnodup hmem hfield hkey.symm
  · rfl

theorem isSome_get?_set_of_isSome {other : String} (value : Json) (h : (get? fields other).isSome = true) :
    (get? (set fields key value) other).isSome = true := by
  by_cases hkey : other = key
  · rw [hkey, get?_set_self]
    rfl
  · rwa [get?_set_of_ne hkey]

theorem isSome_get?_setDefault (value : Json) : (get? (setDefault fields key value) key).isSome = true := by
  rw [setDefault]
  split_ifs with h
  · exact h
  · rw [get?_set_self]
    rfl

theorem isSome_get?_setDefault_of_isSome {other : String} (value : Json)
    (h : (get? fields other).isSome = true) : (get? (setDefault fields key value) other).isSome = true := by
  rw [setDefault]
  split_ifs
  · exact h
  · exact isSome_get?_set_of_isSome value h

theorem regular_setDefault {reader : FloatReader} (h : Regular reader (.obj fields)) (key text : String) :
    Regular reader (.obj (setDefault fields key (.str text))) := by
  rw [setDefault]
  split_ifs
  · exact h
  · exact regular_set h _ trivial

def rangedCompatibility (compatibility : Fields) : Fields :=
  setDefault (setDefault compatibility "min_runtime_version" (.str "0.1.0")) "max_runtime_version" (.str "0.x")

theorem isSome_upgradedCompatibility (h : (get? (rangedCompatibility fields) key).isSome = true) :
    (get? (upgradedCompatibility fields sectionName) key).isSome = true := by
  rw [upgradedCompatibility]
  split_ifs
  · exact isSome_get?_setDefault_of_isSome _ h
  · exact h

/-- An upgrade keeps the keys of the compatibility, and makes sure of a range of versions. -/
theorem isSome_rangedCompatibility (h : key = "min_runtime_version" ∨ key = "max_runtime_version" ∨
    (get? fields key).isSome = true) : (get? (rangedCompatibility fields) key).isSome = true := by
  rw [rangedCompatibility]
  rcases h with rfl | rfl | h
  · exact isSome_get?_setDefault_of_isSome _ (isSome_get?_setDefault _)
  · exact isSome_get?_setDefault _
  · exact isSome_get?_setDefault_of_isSome _ (isSome_get?_setDefault_of_isSome _ h)

theorem isSome_upgradedCompatibility_semantic
    (h : sectionName = "semantic_packs" ∨ sectionName = "template_packs") :
    (get? (upgradedCompatibility fields sectionName) "semantic_manifest_version").isSome = true := by
  rw [upgradedCompatibility]
  rw [if_pos h]
  exact isSome_get?_setDefault _

theorem get?_upgradedPayload_version : get? (upgradedPayload payload sectionName) "schema_version" = some (.str "v2") := by
  rw [upgradedPayload, get?_set_of_ne (by decide), get?_set_self]

theorem get?_upgradedPayload_compatibility :
    get? (upgradedPayload payload sectionName) "compatibility" =
      some (.obj (upgradedCompatibility (compatibilityOf payload) sectionName)) := by
  have hkept : compatibilityOf (set payload "schema_version" (.str "v2")) = compatibilityOf payload := by
    rw [compatibilityOf, compatibilityOf, get?_set_of_ne (by decide)]
  rw [upgradedPayload]
  rw [get?_set_self, hkept]

/-- An upgrade leaves the other fields alone. -/
theorem get?_upgradedPayload_of_ne (hversion : key ≠ "schema_version") (hcompatibility : key ≠ "compatibility") :
    get? (upgradedPayload payload sectionName) key = get? payload key := by
  rw [upgradedPayload]
  rw [get?_set_of_ne hcompatibility, get?_set_of_ne hversion]

theorem regular_compatibilityOf {reader : FloatReader} (h : Regular reader (.obj payload)) :
    Regular reader (.obj (compatibilityOf payload)) := by
  rw [compatibilityOf]
  cases hvalue : get? payload "compatibility" with
  | none => exact ⟨List.nodup_nil, trivial⟩
  | some value =>
    have hregular := regular_of_get? h hvalue
    cases value with
    | obj compatibility => exact hregular
    | _ => exact ⟨List.nodup_nil, trivial⟩

theorem regular_upgradedPayload {reader : FloatReader} (h : Regular reader (.obj payload)) :
    Regular reader (.obj (upgradedPayload payload sectionName)) := by
  have hversioned := regular_set h "schema_version" (show Regular reader (.str "v2") from trivial)
  refine regular_set hversioned _ ?_
  have hranged := regular_setDefault (regular_setDefault (regular_compatibilityOf hversioned)
    "min_runtime_version" "0.1.0") "max_runtime_version" "0.x"
  rw [upgradedCompatibility]
  split_ifs
  · exact regular_setDefault hranged _ _
  · exact hranged

/-- A payload that has all that an upgrade makes sure of is left as it is. -/
theorem upgradedPayload_eq_self (hnodup : (payload.map Prod.fst).Nodup)
    (hversion : get? payload "schema_version" = some (.str "v2"))
    (hmin : (get? (compatibilityOf payload) "min_runtime_version").isSome = true)
    (hmax : (get? (compatibilityOf payload) "max_runtime_version").isSome = true)
    (hsemantic : sectionName = "semantic_packs" ∨ sectionName = "template_packs" →
      (get? (compatibilityOf payload) "semantic_manifest_version").isSome = true) :
    upgradedPayload payload sectionName = payload := by
  have hcompatibility : upgradedCompatibility (compatibilityOf payload) sectionName = compatibilityOf payload := by
    rw [upgradedCompatibility]
    have hranged : setDefault (setDefault (compatibilityOf payload) "min_runtime_version" (.str "0.1.0"))
        "max_runtime_version" (.str "0.x") = compatibilityOf payload := by
      have hfirst : setDefault (compatibilityOf payload) "min_runtime_version" (.str "0.1.0") =
          compatibilityOf payload := if_pos hmin
      rw [hfirst]
      exact if_pos hmax
    rw [hranged]
    split_ifs with hsection
    · exact if_pos (hsemantic hsection)
    · rfl
  have hobj : get? payload "compatibility" = some (.obj (compatibilityOf payload)) := by
    rw [compatibilityOf] at hmin ⊢
    cases hvalue : (get? payload "compatibility").bind asObj? with
    | none =>
      rw [hvalue] at hmin
      cases hmin
    | some compatibility =>
      obtain ⟨value, hget, hcast⟩ := Option.bind_eq_some_iff.mp hvalue
      rw [hget, asObj?_eq_some_iff.mp hcast, Option.getD_some]
  rw [upgradedPayload, set_eq_self hnodup hversion, hcompatibility, set_eq_self hnodup hobj]

def lacking (present : Bool) : ℕ := if present then 0 else 1

/-- How much of what upgrades make sure of a text of a payload lacks. -/
def defects (payload : Fields) (text : String) : ℕ :=
  lacking (get? payload "schema_version" = some (.str "v2")) +
    lacking (get? (compatibilityOf payload) "min_runtime_version").isSome +
    lacking (get? (compatibilityOf payload) "max_runtime_version").isSome +
    lacking (get? (compatibilityOf payload) "semantic_manifest_version").isSome +
    lacking (text = canonicalJson (.obj payload))

/-- The rank of a file: what its text lacks. -/
def rank (reader : FloatReader) : Option PackNode → ℕ
  | some (.file (.text text)) =>
    match loads reader text with
    | some (.obj payload) => defects payload text
    | _ => 0
  | _ => 0

/-- A file is rewritten with its payload upgraded. -/
def Rewritten (reader : FloatReader) (node other : Option PackNode) : Prop :=
  ∃ text payload sectionName, node = some (.file (.text text)) ∧ loads reader text = some (.obj payload) ∧
    other = some (.file (.text (canonicalJson (.obj (upgradedPayload payload sectionName)))))

theorem canonicalJson_readBack (payload : Fields) :
    canonicalJson (.obj (readBack payload)) = canonicalJson (.obj payload) := by
  rw [canonicalJson, canonicalJson, dumpsIn, dumpsIn, ← canon_obj, canon_canon]

theorem isSome_get?_readBack (fields : Fields) (key : String) :
    (get? (readBack fields) key).isSome = (get? fields key).isSome := by
  rw [get?_readBack, Option.isSome_map]

/-- What the text of an upgraded payload lacks: at most the version of the manifest. -/
theorem defects_upgraded (payload : Fields) (sectionName : String) :
    defects (readBack (upgradedPayload payload sectionName))
        (canonicalJson (.obj (upgradedPayload payload sectionName))) =
      lacking (get? (upgradedCompatibility (compatibilityOf payload) sectionName)
        "semantic_manifest_version").isSome := by
  have hversion : get? (readBack (upgradedPayload payload sectionName)) "schema_version" = some (.str "v2") := by
    rw [get?_readBack, get?_upgradedPayload_version]
    rfl
  have hcompatibility : compatibilityOf (readBack (upgradedPayload payload sectionName)) =
      readBack (upgradedCompatibility (compatibilityOf payload) sectionName) := by
    rw [compatibilityOf, get?_readBack, get?_upgradedPayload_compatibility, Option.map_some, canon_obj]
    rfl
  have hmin : (get? (upgradedCompatibility (compatibilityOf payload) sectionName)
      "min_runtime_version").isSome = true :=
    isSome_upgradedCompatibility (isSome_rangedCompatibility (Or.inl rfl))
  have hmax : (get? (upgradedCompatibility (compatibilityOf payload) sectionName)
      "max_runtime_version").isSome = true :=
    isSome_upgradedCompatibility (isSome_rangedCompatibility (Or.inr (Or.inl rfl)))
  rw [defects, hversion, hcompatibility, canonicalJson_readBack, isSome_get?_readBack, isSome_get?_readBack,
    isSome_get?_readBack, hmin, hmax]
  simp [lacking]

theorem loads_rewritten {reader : FloatReader} {text : String} (h : loads reader text = some (.obj payload))
    (sectionName : String) :
    loads reader (canonicalJson (.obj (upgradedPayload payload sectionName))) =
      some (.obj (readBack (upgradedPayload payload sectionName))) :=
  loads_canonicalJson (regular_upgradedPayload (regular_loads h))

/-- Rewriting a file changes nothing or lowers its rank. -/
theorem Rewritten.eq_or_rank_lt {reader : FloatReader} {node other : Option PackNode}
    (h : Rewritten reader node other) : other = node ∨ rank reader other < rank reader node := by
  obtain ⟨text, payload, sectionName, rfl, hloads, rfl⟩ := h
  have hother : rank reader (some (.file (.text (canonicalJson (.obj (upgradedPayload payload sectionName)))))) =
      lacking (get? (upgradedCompatibility (compatibilityOf payload) sectionName)
        "semantic_manifest_version").isSome := by
    rw [rank, loads_rewritten hloads]
    exact defects_upgraded payload sectionName
  have hnode : rank reader (some (.file (.text text))) = defects payload text := by
    rw [rank, hloads]
  rw [hother, hnode]
  have hkept : (get? (compatibilityOf payload) "semantic_manifest_version").isSome = true →
      (get? (upgradedCompatibility (compatibilityOf payload) sectionName)
        "semantic_manifest_version").isSome = true :=
    fun hpresent ↦ isSome_upgradedCompatibility (isSome_rangedCompatibility (Or.inr (Or.inr hpresent)))
  have hmade : sectionName = "semantic_packs" ∨ sectionName = "template_packs" →
      (get? (upgradedCompatibility (compatibilityOf payload) sectionName)
        "semantic_manifest_version").isSome = true :=
    isSome_upgradedCompatibility_semantic
  by_contra hnot
  rw [not_or, not_lt] at hnot
  obtain ⟨hne, hle⟩ := hnot
  -- nothing is lacking that an upgrade makes sure of
  have hwhole : (get? payload "schema_version" = some (.str "v2")) ∧
      (get? (compatibilityOf payload) "min_runtime_version").isSome = true ∧
      (get? (compatibilityOf payload) "max_runtime_version").isSome = true ∧
      ((get? (upgradedCompatibility (compatibilityOf payload) sectionName)
        "semantic_manifest_version").isSome = true →
          (get? (compatibilityOf payload) "semantic_manifest_version").isSome = true) ∧
      text = canonicalJson (.obj payload) := by
    rw [defects] at hle
    simp only [lacking, decide_eq_true_eq] at hle
    split_ifs at hle <;> simp_all
  obtain ⟨hversion, hmin, hmax, hsemantic, htext⟩ := hwhole
  refine hne ?_
  rw [upgradedPayload_eq_self (regular_loads hloads).1 hversion hmin hmax fun hsection ↦ hsemantic (hmade hsection),
    ← htext]

/-- A file that is rewritten again and again has its text of before, or a lower rank. -/
theorem eq_or_rank_lt {reader : FloatReader} {node other : Option PackNode}
    (h : Relation.ReflTransGen (Rewritten reader) node other) :
    other = node ∨ rank reader other < rank reader node := by
  induction h with
  | refl => exact Or.inl rfl
  | tail _ hlast ih =>
    rcases hlast.eq_or_rank_lt with rfl | hlast
    · exact ih
    · rcases ih with rfl | ih
      · exact Or.inr hlast
      · exact Or.inr (hlast.trans ih)

end SchemaPilot.Tools
