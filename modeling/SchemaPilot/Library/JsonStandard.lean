import SchemaPilot.Library.JsonRoundTrip

/-!
# Standard JSON texts

`json.dumps` with `allow_nan=False` refuses the floats for which JSON has no text, and no integer of more
than 4300 digits has a text (`standardText?`). A value goes through such a text and back exactly when it
holds no special float and is one that Python holds (`roundTrips_iff`).
-/

namespace SchemaPilot.Library.Json

mutual

/-- The value has a text in standard JSON. -/
def isStandard : Json → Bool
  | int value => value.natAbs.repr.toList.length ≤ 4300
  | special _ => false
  | arr items => isStandardItems items
  | obj fields => isStandardFields fields
  | _ => true

def isStandardItems : List Json → Bool
  | [] => true
  | item :: rest => isStandard item && isStandardItems rest

def isStandardFields : List (String × Json) → Bool
  | [] => true
  | (_, value) :: rest => isStandard value && isStandardFields rest

end

theorem isStandardFields_iff {fields : Fields} :
    isStandardFields fields = true ↔ ∀ field ∈ fields, isStandard field.2 = true := by
  induction fields with
  | nil => exact iff_of_true rfl fun _ hfield ↦ absurd hfield List.not_mem_nil
  | cons field rest ih => rw [isStandardFields, Bool.and_eq_true, ih, List.forall_mem_cons]

/-- `json.dumps(value, sort_keys=True, separators=(",", ":"), allow_nan=False)`, nothing where it
raises. -/
def standardText? (value : Json) : Option String :=
  if isStandard value then some (dumps value) else none

variable (reader : FloatReader)

/-- The value has a standard text from which it is read back, with its fields sorted. -/
def RoundTrips (value : Json) : Prop :=
  ∃ text, standardText? value = some text ∧ loads reader text = some (canon value)

variable {reader}

mutual

/-- A value is one that Python holds if it is one with its fields sorted. -/
theorem regular_of_regular_canon {v : Json} (h : Regular reader (canon v)) : Regular reader v := by
  match v, h with
  | .arr items, h => exact regularItems_of_regularItems_canon h
  | .obj fields, h =>
    have hperm := perm_sortFields (canonFields fields)
    have hnodup := (hperm.map Prod.fst).nodup_iff.mp h.1
    rw [canonFields_eq_map, List.map_map] at hnodup
    refine ⟨hnodup, regularFields_of_regularFields_canon (regularFields_iff.mpr fun field hfield ↦ ?_)⟩
    exact regularFields_iff.mp h.2 field (hperm.mem_iff.mpr hfield)
  | .null, h => exact h
  | .bool _, h => exact h
  | .int _, h => exact h
  | .float _, h => exact h
  | .special _, h => exact h
  | .str _, h => exact h

theorem regularItems_of_regularItems_canon {items : List Json}
    (h : RegularItems reader (canonItems items)) : RegularItems reader items := by
  match items, h with
  | [], h => exact h
  | _ :: _, h => exact ⟨regular_of_regular_canon h.1, regularItems_of_regularItems_canon h.2⟩

theorem regularFields_of_regularFields_canon {fields : List (String × Json)}
    (h : RegularFields reader (canonFields fields)) : RegularFields reader fields := by
  match fields, h with
  | [], h => exact h
  | (_, _) :: _, h => exact ⟨regular_of_regular_canon h.1, regularFields_of_regularFields_canon h.2⟩

end

/-- What goes through a standard text and back. -/
theorem roundTrips_iff {value : Json} :
    RoundTrips reader value ↔ isStandard value = true ∧ Regular reader value := by
  constructor
  · rintro ⟨text, htext, hread⟩
    obtain ⟨hstandard, hdumps⟩ := Option.ite_none_right_eq_some.mp htext
    cases hdumps
    exact ⟨hstandard, regular_of_regular_canon (regular_loads hread)⟩
  · rintro ⟨hstandard, hregular⟩
    exact ⟨dumps value, if_pos hstandard, loads_dumps hregular⟩

end SchemaPilot.Library.Json
