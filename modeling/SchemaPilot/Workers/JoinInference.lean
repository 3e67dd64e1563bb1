import SchemaPilot.Workers.SemanticBuilder

/-!
# Inferred joins

`_infer_joins` of `backend/workers/semantic_builder.py` names a join after the two entities it is between and
keeps one join for each name. Entities are numbered apart, but a name of two of them can be read in two ways, and
then one of two relations is lost. Where no name can, every relation has its join (`losesNoRelation_iff`).
-/

namespace SchemaPilot.Workers.SemanticBuilder

open Library SharedDomain

/-- The second entity has a column of the name of the first one's key. -/
def Related (left right : CandidateEntity) : Prop :=
  left ≠ right ∧ left.primaryKey ∈ right.attributes

instance (left right : CandidateEntity) : Decidable (Related left right) :=
  inferInstanceAs (Decidable (_ ∧ _))

def joinOn (left right : CandidateEntity) : CandidateJoin :=
  ⟨right.entityId ++ "_to_" ++ left.entityId, right.entityId, left.entityId, left.primaryKey,
    left.primaryKey, "left"⟩

/-- Every relation of two entities has its one join, there are no other joins, and their ids are distinct. -/
structure LosesNoRelation (entities : List CandidateEntity) : Prop where
  joined : ∀ left ∈ entities, ∀ right ∈ entities, Related left right →
    ∃! join, join ∈ inferJoins entities ∧ join.leftEntityId = right.entityId ∧
      join.rightEntityId = left.entityId
  related : ∀ join ∈ inferJoins entities,
    ∃ left ∈ entities, ∃ right ∈ entities, Related left right ∧ join = joinOn left right
  joinIds_nodup : ((inferJoins entities).map CandidateJoin.joinId).Nodup

/-- Two pairs of entity ids with the same text between which the connective is found at two places, before
what the first pair has after it, and after what the second has before it; the places can share a character. -/
def ReadTwice (first second : String × String) : Prop :=
  (∃ middle, second.1 = first.1 ++ "_to_" ++ middle ∧ first.2 = middle ++ "_to_" ++ second.2) ∨
    (second.1 = first.1 ++ "_to" ∧ first.2 = "to_" ++ second.2)

/-- No name of two related entities is read as the name of two others. -/
def NamesToldApart (entities : List CandidateEntity) : Prop :=
  ∀ left ∈ entities, ∀ right ∈ entities, ∀ left' ∈ entities, ∀ right' ∈ entities,
    Related left right → Related left' right' →
      ¬ReadTwice (right.entityId, left.entityId) (right'.entityId, left'.entityId)

/-- A text read with a longer part before the connective has it twice. -/
theorem readTwice_of_append_eq {extra before after after' : List Char} (hextra : extra ≠ [])
    (h : "_to_".toList ++ after = extra ++ ("_to_".toList ++ after')) :
    ReadTwice (String.ofList before, String.ofList after) (String.ofList (before ++ extra), String.ofList after') := by
  have hconnective : "_to_".toList = ['_', 't', 'o', '_'] := rfl
  rw [hconnective] at h
  match extra, hextra, h with
  | [_], _, h => simp at h
  | [_, _], _, h => simp at h
  | [c₁, c₂, c₃], _, h =>
    -- the two places share their underscore
    simp only [List.cons_append, List.nil_append, List.cons.injEq] at h
    obtain ⟨rfl, rfl, rfl, -, rfl⟩ := h
    refine Or.inr ⟨?_, ?_⟩ <;> simp [← String.toList_inj]
  | c₁ :: c₂ :: c₃ :: c₄ :: middle, _, h =>
    simp only [List.cons_append, List.nil_append, List.cons.injEq] at h
    obtain ⟨rfl, rfl, rfl, rfl, rfl⟩ := h
    refine Or.inl ⟨String.ofList middle, ?_, ?_⟩ <;> simp [← String.toList_inj]

/-- Texts on both sides of the connective are told apart unless it is read twice. -/
theorem eq_or_readTwice {first second : String × String}
    (h : first.1 ++ "_to_" ++ first.2 = second.1 ++ "_to_" ++ second.2) :
    first = second ∨ ReadTwice first second ∨ ReadTwice second first := by
  have hlists := congrArg String.toList h
  simp only [String.toList_append, List.append_assoc] at hlists
  rcases List.append_eq_append_iff.mp hlists with ⟨extra, hbefore, hafter⟩ | ⟨extra, hbefore, hafter⟩
  all_goals by_cases hextra : extra = []
  · subst hextra
    rw [List.append_nil] at hbefore
    rw [List.nil_append] at hafter
    exact Or.inl (Prod.ext (String.toList_injective hbefore.symm)
      (String.toList_injective (List.append_cancel_left hafter)))
  · have htwice := @readTwice_of_append_eq extra first.1.toList _ _ hextra hafter
    rw [← hbefore] at htwice
    simpa only [String.ofList_toList] using Or.inr (Or.inl htwice)
  · subst hextra
    rw [List.append_nil] at hbefore
    rw [List.nil_append] at hafter
    exact Or.inl (Prod.ext (String.toList_injective hbefore)
      (String.toList_injective (List.append_cancel_left hafter.symm)))
  · have htwice := @readTwice_of_append_eq extra second.1.toList _ _ hextra hafter
    rw [← hbefore] at htwice
    simpa only [String.ofList_toList] using Or.inr (Or.inr htwice)

theorem ReadTwice.append_eq {first second : String × String} (h : ReadTwice first second) :
    first.1 ++ "_to_" ++ first.2 = second.1 ++ "_to_" ++ second.2 := by
  obtain ⟨middle, hbefore, hafter⟩ | ⟨hbefore, hafter⟩ := h
  · rw [hbefore, hafter]
    simp only [String.append_assoc]
  · rw [hbefore, hafter]
    simp [← String.toList_inj]

theorem ReadTwice.ne {first second : String × String} (h : ReadTwice first second) : first ≠ second := by
  rintro rfl
  obtain ⟨middle, hbefore, -⟩ | ⟨hbefore, -⟩ := h
  · have hlength := congrArg (fun text ↦ text.toList.length) hbefore
    simp at hlength
  · have hlength := congrArg (fun text ↦ text.toList.length) hbefore
    simp at hlength

theorem eq_of_entityId_eq {entities : List CandidateEntity}
    (hnodup : (entities.map CandidateEntity.entityId).Nodup) {first second : CandidateEntity}
    (hfirst : first ∈ entities) (hsecond : second ∈ entities) (h : first.entityId = second.entityId) :
    first = second :=
  List.inj_on_of_nodup_map hnodup hfirst hsecond h

/-- Entities with distinct ids are joined exactly where they are related. -/
theorem inferJoin?_eq_some_iff {entities : List CandidateEntity}
    (hnodup : (entities.map CandidateEntity.entityId).Nodup) {left right : CandidateEntity}
    (hleft : left ∈ entities) (hright : right ∈ entities) {join : CandidateJoin} :
    inferJoin? left right = some join ↔ Related left right ∧ join = joinOn left right := by
  have hids : left.entityId = right.entityId ↔ left = right :=
    ⟨eq_of_entityId_eq hnodup hleft hright, fun h ↦ h ▸ rfl⟩
  rw [inferJoin?, Related, joinOn]
  simp only [hids]
  split_ifs with hsame hkey
  · simp [hsame]
  · simp [hsame, hkey, eq_comm]
  · simp [hkey]

theorem unseenJoins_coverage (seenIds : List String) {joins : List CandidateJoin} {join : CandidateJoin}
    (h : join ∈ joins) :
    join.joinId ∈ seenIds ∨ ∃ kept ∈ unseenJoins seenIds joins, kept.joinId = join.joinId := by
  induction joins generalizing seenIds with
  | nil => exact absurd h List.not_mem_nil
  | cons first rest ih =>
    rw [unseenJoins]
    split_ifs with hseen
    · rcases List.mem_cons.mp h with rfl | h
      · exact Or.inl hseen
      · exact ih seenIds h
    · rcases List.mem_cons.mp h with rfl | h
      · exact Or.inr ⟨join, List.mem_cons_self, rfl⟩
      · rcases ih (first.joinId :: seenIds) h with hold | ⟨kept, hkept, hid⟩
        · rcases List.mem_cons.mp hold with hfirst | hold
          · exact Or.inr ⟨first, List.mem_cons_self, hfirst.symm⟩
          · exact Or.inl hold
        · exact Or.inr ⟨kept, List.mem_cons_of_mem _ hkept, hid⟩

/-- A relation has a join of its name, though it may be another's. -/
theorem exists_joinId_of_related {entities : List CandidateEntity}
    (hnodup : (entities.map CandidateEntity.entityId).Nodup) {left right : CandidateEntity}
    (hleft : left ∈ entities) (hright : right ∈ entities) (h : Related left right) :
    ∃ join ∈ inferJoins entities, join.joinId = (joinOn left right).joinId := by
  have hmem : joinOn left right ∈ entities.flatMap fun left ↦ entities.filterMap (inferJoin? left) :=
    List.mem_flatMap.mpr ⟨left, hleft, List.mem_filterMap.mpr
      ⟨right, hright, (inferJoin?_eq_some_iff hnodup hleft hright).mpr ⟨h, rfl⟩⟩⟩
  rcases unseenJoins_coverage [] hmem with hnone | ⟨kept, hkept, hid⟩
  · exact absurd hnone List.not_mem_nil
  · exact ⟨kept, (mem_sortedBy _).mpr hkept, hid⟩

theorem related_of_mem_inferJoins {entities : List CandidateEntity}
    (hnodup : (entities.map CandidateEntity.entityId).Nodup) {join : CandidateJoin}
    (h : join ∈ inferJoins entities) :
    ∃ left ∈ entities, ∃ right ∈ entities, Related left right ∧ join = joinOn left right := by
  obtain ⟨left, hleft, right, hright, hjoin⟩ := exists_of_mem_inferJoins h
  exact ⟨left, hleft, right, hright, (inferJoin?_eq_some_iff hnodup hleft hright).mp hjoin⟩

theorem losesNoRelation_of_namesToldApart {entities : List CandidateEntity}
    (hnodup : (entities.map CandidateEntity.entityId).Nodup) (h : NamesToldApart entities) :
    LosesNoRelation entities where
  related _ := related_of_mem_inferJoins hnodup
  joinIds_nodup := inferJoins_ids entities
  joined left hleft right hright hrelated := by
    obtain ⟨join, hjoin, hid⟩ := exists_joinId_of_related hnodup hleft hright hrelated
    obtain ⟨left', hleft', right', hright', hrelated', rfl⟩ := related_of_mem_inferJoins hnodup hjoin
    -- the join of that name is of the same two entities
    have hsame : (right'.entityId, left'.entityId) = (right.entityId, left.entityId) := by
      rcases eq_or_readTwice (show (right'.entityId, left'.entityId).1 ++ "_to_" ++ (right'.entityId, left'.entityId).2 =
          (right.entityId, left.entityId).1 ++ "_to_" ++ (right.entityId, left.entityId).2 from hid) with hsame | htwice | htwice
      · exact hsame
      · exact absurd htwice (h left' hleft' right' hright' left hleft right hright hrelated' hrelated)
      · exact absurd htwice (h left hleft right hright left' hleft' right' hright' hrelated hrelated')
    obtain ⟨hrightId, hleftId⟩ := Prod.mk.inj hsame
    refine ⟨joinOn left' right', ⟨hjoin, hrightId, hleftId⟩, ?_⟩
    rintro other ⟨hother, hotherRight, hotherLeft⟩
    obtain ⟨left'', -, right'', -, -, rfl⟩ := related_of_mem_inferJoins hnodup hother
    refine List.inj_on_of_nodup_map (inferJoins_ids entities) hother hjoin ?_
    change right''.entityId ++ "_to_" ++ left''.entityId = right'.entityId ++ "_to_" ++ left'.entityId
    rw [hrightId, hleftId]
    exact congrArg₂ (fun before after ↦ before ++ "_to_" ++ after) hotherRight hotherLeft

theorem namesToldApart_of_losesNoRelation {entities : List CandidateEntity}
    (h : LosesNoRelation entities) : NamesToldApart entities := by
  intro left hleft right hright left' hleft' right' hright' hrelated hrelated' htwice
  obtain ⟨join, ⟨hjoin, hjoinRight, hjoinLeft⟩, -⟩ := h.joined left hleft right hright hrelated
  obtain ⟨join', ⟨hjoin', hjoinRight', hjoinLeft'⟩, -⟩ := h.joined left' hleft' right' hright' hrelated'
  obtain ⟨_, -, _, -, -, rfl⟩ := h.related join hjoin
  obtain ⟨_, -, _, -, -, rfl⟩ := h.related join' hjoin'
  have hsame := List.inj_on_of_nodup_map h.joinIds_nodup hjoin hjoin' (by
    have htexts := htwice.append_eq
    dsimp only at htexts
    rw [← hjoinRight, ← hjoinLeft, ← hjoinRight', ← hjoinLeft'] at htexts
    exact htexts)
  refine htwice.ne (Prod.ext ?_ ?_)
  · exact hjoinRight.symm.trans ((congrArg CandidateJoin.leftEntityId hsame).trans hjoinRight')
  · exact hjoinLeft.symm.trans ((congrArg CandidateJoin.rightEntityId hsame).trans hjoinLeft')

/-- Entities with distinct ids lose no relation exactly when no name of two related ones is read as the name
of two others. -/
theorem losesNoRelation_iff {entities : List CandidateEntity}
    (hnodup : (entities.map CandidateEntity.entityId).Nodup) :
    LosesNoRelation entities ↔ NamesToldApart entities :=
  ⟨namesToldApart_of_losesNoRelation, losesNoRelation_of_namesToldApart hnodup⟩

/-- Orders know their customers, and customers their region. -/
def plainEntities : List CandidateEntity :=
  [⟨"customers", "d1", "customer_id", ["region_id"]⟩, ⟨"orders", "d2", "id", ["customer_id"]⟩,
    ⟨"regions", "d3", "region_id", []⟩]

theorem plain_entities_lose_no_relation : LosesNoRelation plainEntities := by
  refine (losesNoRelation_iff (by decide)).mpr ?_
  intro left hleft right hright left' hleft' right' hright' hrelated hrelated' htwice
  have hall : ∀ left ∈ plainEntities, ∀ right ∈ plainEntities, ∀ left' ∈ plainEntities,
      ∀ right' ∈ plainEntities, Related left right → Related left' right' →
        right.entityId ++ "_to_" ++ left.entityId = right'.entityId ++ "_to_" ++ left'.entityId →
          (right.entityId, left.entityId) = (right'.entityId, left'.entityId) := by
    decide
  exact htwice.ne (hall left hleft right hright left' hleft' right' hright' hrelated hrelated'
    htwice.append_eq)

/-- A dataset named after two others: both relations are called `a_to_b_to_c`. -/
def clashingEntities : List CandidateEntity :=
  [⟨"b_to_c", "d1", "link_id", []⟩, ⟨"a", "d2", "a_id", ["link_id"]⟩, ⟨"c", "d3", "c_id", []⟩,
    ⟨"a_to_b", "d4", "a_to_b_id", ["c_id"]⟩]

theorem clashing_entities_lose_relation :
    (clashingEntities.map CandidateEntity.entityId).Nodup ∧ ¬LosesNoRelation clashingEntities := by
  refine ⟨by decide, fun h ↦ ?_⟩
  obtain ⟨join, ⟨hjoin, hleft, hright⟩, -⟩ := h.joined ⟨"c", "d3", "c_id", []⟩ (by decide)
    ⟨"a_to_b", "d4", "a_to_b_id", ["c_id"]⟩ (by decide) (by decide)
  have hall : ∀ join ∈ inferJoins clashingEntities, join.leftEntityId ≠ "a_to_b" := by decide
  exact hall join hjoin hleft

end SchemaPilot.Workers.SemanticBuilder
