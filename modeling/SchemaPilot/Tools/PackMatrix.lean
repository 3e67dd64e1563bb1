import SchemaPilot.SharedDomain.NormalManifest
import SchemaPilot.Tools.PackRegistry

/-!
# What is read of a compatibility matrix

A matrix without errors (`SoundMatrix`) is read through the texts of its values, which are versions and names. They
stay the same when the matrix is written again with its fields sorted, whatever is added beside them
(`SoundMatrix.of_same`), and so does every answer the tools take from it.
-/

namespace SchemaPilot.Tools

open Library Library.Text Library.Json SharedDomain

theorem head?_stripChars_cons {c : Char} (hc : isSpace c = false) (rest : List Char) :
    (stripChars (c :: rest)).head? = some c := by
  obtain ⟨tail, htail⟩ := List.rdropWhile_prefix isSpace (l := c :: rest)
  rw [stripChars, List.dropWhile_cons_of_neg (by rw [hc]; decide)]
  cases hstripped : (c :: rest).rdropWhile isSpace with
  | nil =>
    have hall := List.rdropWhile_eq_nil_iff.mp hstripped c List.mem_cons_self
    rw [hc] at hall
    cases hall
  | cons d others =>
    rw [hstripped, List.cons_append] at htail
    cases htail
    rfl

def IsPlain (text : String) : Prop := text.toList.head? ≠ some '[' ∧ text.toList.head? ≠ some '{'

theorem not_isPlain_arr (items : List Json) : ¬IsPlain (strip (arr items).toStr) := by
  have htext : (arr items).toStr = String.ofList ('[' :: (reprItems items ++ [']'])) := rfl
  intro h
  refine h.1 ?_
  rw [toList_strip, htext, String.toList_ofList]
  exact head?_stripChars_cons (by decide) _

theorem not_isPlain_obj (fields : Fields) : ¬IsPlain (strip (obj fields).toStr) := by
  have htext : (obj fields).toStr = String.ofList ('{' :: (reprFields fields ++ ['}'])) := rfl
  intro h
  refine h.2 ?_
  rw [toList_strip, htext, String.toList_ofList]
  exact head?_stripChars_cons (by decide) _

/-- Of a value with a plain text there is one form. -/
theorem eq_of_canon_eq {value other : Json} (h : canon other = canon value)
    (hplain : IsPlain (strip value.toStr)) : other = value := by
  have hscalar : canon value = value := by
    cases value with
    | arr items => exact absurd hplain (not_isPlain_arr items)
    | obj fields => exact absurd hplain (not_isPlain_obj fields)
    | _ => rfl
  rw [hscalar] at h
  cases other with
  | arr items =>
    rw [← h, canon] at hplain
    exact absurd hplain (not_isPlain_arr _)
  | obj fields =>
    rw [← h, canon] at hplain
    exact absurd hplain (not_isPlain_obj _)
  | _ => exact h

/-- Two dictionaries hold the same under a key, up to the order of fields. -/
def SameField (fields others : Fields) (key : String) : Prop :=
  (get? others key).map canon = (get? fields key).map canon

section SameField

variable {fields others : Fields} {key : String}

theorem sameField_readBack (fields : Fields) (key : String) : SameField fields (readBack fields) key := by
  rw [SameField, get?_readBack, Option.map_map]
  congr 1
  funext value
  exact canon_canon value

/-- A plain text is read of both. -/
theorem SameField.strippedText_eq (h : SameField fields others key) {default : String}
    (hplain : IsPlain (strippedText fields key default)) :
    strippedText others key default = strippedText fields key default := by
  rw [strippedText, getD] at hplain
  rw [strippedText, strippedText, getD, getD]
  rw [SameField] at h
  cases hvalue : get? fields key with
  | none =>
    rw [hvalue, Option.map_none, Option.map_eq_none_iff] at h
    rw [h]
  | some value =>
    rw [hvalue, Option.map_some, Option.map_eq_some_iff] at h
    obtain ⟨other, hother, hsame⟩ := h
    rw [hvalue, Option.getD_some] at hplain
    rw [hother, Option.getD_some, Option.getD_some, eq_of_canon_eq hsame hplain]

theorem SameField.obj (h : SameField fields others key) {inner : Fields}
    (hinner : get? fields key = some (.obj inner)) :
    ∃ other, get? others key = some (.obj other) ∧ canon (.obj other) = canon (.obj inner) := by
  rw [SameField, hinner, Option.map_some, Option.map_eq_some_iff] at h
  obtain ⟨value, hvalue, hsame⟩ := h
  cases value with
  | obj other => exact ⟨other, hvalue, hsame⟩
  | _ => simp [canon] at hsame

theorem SameField.arr (h : SameField fields others key) {items : List Json}
    (hitems : get? fields key = some (.arr items)) :
    ∃ other, get? others key = some (.arr other) ∧ other.map canon = items.map canon := by
  rw [SameField, hitems, Option.map_some, Option.map_eq_some_iff] at h
  obtain ⟨value, hvalue, hsame⟩ := h
  cases value with
  | arr other =>
    rw [canon, canon, Json.arr.injEq, canonItems_eq_map, canonItems_eq_map] at hsame
    exact ⟨other, hvalue, hsame⟩
  | _ => simp [canon] at hsame

end SameField

theorem obj_of_canon_eq {value : Json} {fields : Fields} (h : canon value = canon (.obj fields)) :
    ∃ others, value = .obj others ∧ ∀ key, SameField fields others key := by
  cases value with
  | obj others => exact ⟨others, rfl, get?_of_canon_eq h⟩
  | _ => simp [canon] at h

/-- Of a list of values with plain texts there is one form. -/
theorem eq_of_map_canon_eq {items others : List Json} (h : others.map canon = items.map canon)
    (hplain : ∀ item ∈ items, IsPlain (strip item.toStr)) : others = items := by
  induction items generalizing others with
  | nil => exact List.map_eq_nil_iff.mp h
  | cons item rest ih =>
    rw [List.map_cons, List.map_eq_cons_iff] at h
    obtain ⟨first, remaining, rfl, hfirst, hremaining⟩ := h
    rw [List.forall_mem_cons] at hplain
    rw [eq_of_canon_eq hfirst hplain.1, ih hremaining hplain.2]

theorem exists_mem_of_map_canon_eq {items others : List Json} (h : others.map canon = items.map canon)
    {item : Json} (hitem : item ∈ others) : ∃ same ∈ items, canon item = canon same := by
  have hmem : canon item ∈ items.map canon := h ▸ List.mem_map_of_mem hitem
  obtain ⟨same, hsame, heq⟩ := List.mem_map.mp hmem
  exact ⟨same, hsame, heq.symm⟩

theorem exists_field_of_canon_eq {fields others : Fields} (h : canon (.obj others) = canon (.obj fields))
    {field : String × Json} (hfield : field ∈ others) :
    ∃ same ∈ fields, same.1 = field.1 ∧ canon field.2 = canon same.2 := by
  rw [canon_obj, canon_obj, Json.obj.injEq, readBack, readBack] at h
  have hmem : (field.1, canon field.2) ∈ canonFields fields := by
    rw [← (perm_sortFields (canonFields fields)).mem_iff, ← h,
      (perm_sortFields (canonFields others)).mem_iff, canonFields_eq_map]
    exact List.mem_map.mpr ⟨field, hfield, rfl⟩
  rw [canonFields_eq_map] at hmem
  obtain ⟨same, hsame, heq⟩ := List.mem_map.mp hmem
  rw [Prod.mk.injEq] at heq
  exact ⟨same, hsame, heq.1, heq.2.symm⟩

theorem isPlain_of_matchesVersion {text : String} (h : matchesVersion text = true) : IsPlain text := by
  unfold matchesVersion at h
  split at h
  · rename_i digits hchars
    rw [IsPlain, hchars, List.head?_cons]
    exact ⟨by decide, by decide⟩
  · cases h

structure SoundSection (payload : Fields) (supported : List Json) : Prop where
  current : matchesVersion (strippedText payload "current_schema_version" "") = true
  supported_eq : get? payload "supported_schema_versions" = some (.arr supported)
  versions : ∀ version ∈ supported, matchesVersion (strip version.toStr) = true
  current_mem : strippedText payload "current_schema_version" "" ∈
    supported.map fun version ↦ strip version.toStr

structure SoundMigration (fields : Fields) : Prop where
  name : strippedText fields "section" "" ≠ ""
  origin : matchesVersion (strippedText fields "from_schema_version" "") = true
  target : matchesVersion (strippedText fields "to_schema_version" "") = true

structure SoundMatrix (matrix : Fields) : Prop where
  version : strippedText matrix "matrix_version" "" = "v1"
  sections : ∃ sections, get? matrix "sections" = some (.obj sections) ∧ ∀ field ∈ sections,
    ∃ payload supported, field.2 = .obj payload ∧ SoundSection payload supported
  migrations : ∃ migrations, get? matrix "migrations" = some (.arr migrations) ∧
    ∀ migration ∈ migrations, ∃ fields, migration = .obj fields ∧ SoundMigration fields

theorem matrixSectionErrors_eq_nil_iff {field : String × Json} :
    matrixSectionErrors field = [] ↔
      ∃ payload supported, field.2 = .obj payload ∧ SoundSection payload supported := by
  obtain ⟨name, value⟩ := field
  constructor
  · intro h
    cases value with
    | obj payload =>
      rw [matrixSectionErrors] at h
      dsimp only at h
      cases hsupported : (get? payload "supported_schema_versions").bind asArr? with
      | none => simp [hsupported] at h
      | some supported =>
        cases supported with
        | nil => simp [hsupported] at h
        | cons item items =>
          rw [hsupported] at h
          dsimp only at h
          rw [List.append_eq_nil_iff, List.append_eq_nil_iff, ite_eq_left_iff, ite_eq_left_iff,
            ite_eq_right_iff] at h
          obtain ⟨⟨hcurrent, hversions⟩, hmem⟩ := h
          have hcurrent' : matchesVersion (strippedText payload "current_schema_version" "") = true := by
            by_contra hne
            exact List.cons_ne_nil _ _ (hcurrent hne)
          have hversions' : ((item :: items).map fun version ↦ strip version.toStr).all matchesVersion =
              true := by
            by_contra hne
            exact List.cons_ne_nil _ _ (hversions hne)
          have hne : strippedText payload "current_schema_version" "" ≠ "" := by
            intro hempty
            rw [hempty] at hcurrent'
            exact absurd hcurrent' (by decide)
          obtain ⟨list, hlist, harr⟩ := Option.bind_eq_some_iff.mp hsupported
          have hitems : list = .arr (item :: items) := by
            cases list with
            | arr values =>
              rw [asArr?, Option.some.injEq] at harr
              rw [harr]
            | _ => cases harr
          refine ⟨payload, item :: items, rfl, hcurrent', hitems ▸ hlist, fun version hversion ↦ ?_, ?_⟩
          · exact List.all_eq_true.mp hversions' _ (List.mem_map_of_mem hversion)
          · by_contra hnot
            exact List.cons_ne_nil _ _ (hmem ⟨hne, hnot⟩)
    | _ => simp [matrixSectionErrors] at h
  · rintro ⟨payload, supported, rfl, hsound⟩
    have hall : (supported.map fun version ↦ strip version.toStr).all matchesVersion = true := by
      rw [List.all_map, List.all_eq_true]
      exact hsound.versions
    have hsupported : (get? payload "supported_schema_versions").bind asArr? = some supported := by
      rw [hsound.supported_eq]
      rfl
    cases supported with
    | nil => exact absurd hsound.current_mem List.not_mem_nil
    | cons item items =>
      rw [matrixSectionErrors]
      dsimp only
      rw [hsupported]
      dsimp only
      rw [if_pos hsound.current, if_pos hall, if_neg (fun h ↦ h.2 hsound.current_mem)]
      rfl

theorem matrixMigrationErrors_eq_nil_iff {migration : Json × ℕ} :
    matrixMigrationErrors migration = [] ↔ ∃ fields, migration.1 = .obj fields ∧ SoundMigration fields := by
  obtain ⟨value, index⟩ := migration
  constructor
  · intro h
    cases value with
    | obj fields =>
      rw [matrixMigrationErrors] at h
      dsimp only at h
      rw [List.append_eq_nil_iff, List.append_eq_nil_iff, ite_eq_right_iff, ite_eq_left_iff,
        ite_eq_left_iff] at h
      obtain ⟨⟨hname, horigin⟩, htarget⟩ := h
      refine ⟨fields, rfl, fun hempty ↦ List.cons_ne_nil _ _ (hname hempty), ?_, ?_⟩
      · by_contra hne
        exact List.cons_ne_nil _ _ (horigin hne)
      · by_contra hne
        exact List.cons_ne_nil _ _ (htarget hne)
    | _ => simp [matrixMigrationErrors] at h
  · rintro ⟨fields, rfl, hsound⟩
    rw [matrixMigrationErrors]
    dsimp only
    rw [if_neg hsound.name, if_pos hsound.origin, if_pos hsound.target]
    rfl

theorem matrixErrors_eq_nil_iff {matrix : Fields} : matrixErrors matrix = [] ↔ SoundMatrix matrix := by
  rw [matrixErrors, List.append_eq_nil_iff, List.append_eq_nil_iff, ite_eq_left_iff]
  constructor
  · rintro ⟨⟨hversion, hsections⟩, hmigrations⟩
    refine ⟨?_, ?_, ?_⟩
    · by_contra hne
      exact List.cons_ne_nil _ _ (hversion hne)
    · cases hvalue : get? matrix "sections" with
      | none => simp [hvalue] at hsections
      | some value =>
        cases value with
        | obj sections =>
          rw [hvalue, Option.bind_some, asObj?] at hsections
          exact ⟨sections, rfl, fun field hfield ↦
            matrixSectionErrors_eq_nil_iff.mp (List.flatMap_eq_nil_iff.mp hsections field hfield)⟩
        | _ => simp [hvalue, asObj?] at hsections
    · cases hvalue : get? matrix "migrations" with
      | none => simp [hvalue] at hmigrations
      | some value =>
        cases value with
        | arr migrations =>
          rw [hvalue, Option.bind_some, asArr?] at hmigrations
          refine ⟨migrations, rfl, fun migration hmigration ↦ ?_⟩
          obtain ⟨index, hindex⟩ := List.getElem?_of_mem hmigration
          exact matrixMigrationErrors_eq_nil_iff.mp (List.flatMap_eq_nil_iff.mp hmigrations
            (migration, index) (List.mk_mem_zipIdx_iff_getElem?.mpr hindex))
        | _ => simp [hvalue, asArr?] at hmigrations
  · rintro ⟨hversion, ⟨sections, hsections, hsound⟩, migrations, hmigrations, hsoundMigrations⟩
    rw [hsections, hmigrations, Option.bind_some, Option.bind_some, asObj?, asArr?]
    refine ⟨⟨fun hne ↦ absurd hversion hne, ?_⟩, ?_⟩
    · exact List.flatMap_eq_nil_iff.mpr fun field hfield ↦
        matrixSectionErrors_eq_nil_iff.mpr (hsound field hfield)
    · exact List.flatMap_eq_nil_iff.mpr fun migration hmigration ↦
        matrixMigrationErrors_eq_nil_iff.mpr
          (hsoundMigrations _ (List.fst_mem_of_mem_zipIdx hmigration))

/-- A matrix that says the same in other words: its fields are in another order, and others stand beside them. -/
def SameMatrix (matrix other : Fields) : Prop :=
  ∀ key ∈ ["matrix_version", "sections", "migrations"], SameField matrix other key

theorem SoundSection.of_same {payload other : Fields} {supported : List Json}
    (h : SoundSection payload supported) (hsame : ∀ key, SameField payload other key) :
    strippedText other "current_schema_version" "" = strippedText payload "current_schema_version" "" ∧
      SoundSection other supported := by
  have hcurrent := (hsame "current_schema_version").strippedText_eq (isPlain_of_matchesVersion h.current)
  obtain ⟨others, hothers, hitems⟩ := (hsame "supported_schema_versions").arr h.supported_eq
  have hsupported : others = supported := eq_of_map_canon_eq hitems fun version hversion ↦
    isPlain_of_matchesVersion (h.versions version hversion)
  refine ⟨hcurrent, hcurrent ▸ h.current, hsupported ▸ hothers, h.versions, ?_⟩
  rw [hcurrent]
  exact h.current_mem

theorem SoundMigration.of_same {fields other : Fields} (h : SoundMigration fields)
    (hsame : ∀ key, SameField fields other key) : SoundMigration other := by
  refine ⟨fun hempty ↦ h.name ?_, ?_, ?_⟩
  · have hback : SameField other fields "section" := (hsame "section").symm
    rw [hback.strippedText_eq (by rw [hempty]; exact ⟨by decide, by decide⟩), hempty]
  · rw [(hsame _).strippedText_eq (isPlain_of_matchesVersion h.origin)]
    exact h.origin
  · rw [(hsame _).strippedText_eq (isPlain_of_matchesVersion h.target)]
    exact h.target

theorem SoundMatrix.of_same {matrix other : Fields} (h : SoundMatrix matrix)
    (hsame : SameMatrix matrix other) : SoundMatrix other := by
  rw [SameMatrix, List.forall_mem_cons, List.forall_mem_cons, List.forall_mem_singleton] at hsame
  obtain ⟨hversion, hsections, hmigrations⟩ := hsame
  obtain ⟨sections, hgiven, hsound⟩ := h.sections
  obtain ⟨others, hothers, hcanon⟩ := hsections.obj hgiven
  obtain ⟨migrations, hgivenMigrations, hsoundMigrations⟩ := h.migrations
  obtain ⟨otherMigrations, hotherMigrations, hitems⟩ := hmigrations.arr hgivenMigrations
  refine ⟨?_, ⟨others, hothers, fun field hfield ↦ ?_⟩, otherMigrations, hotherMigrations,
    fun migration hmigration ↦ ?_⟩
  · rw [hversion.strippedText_eq (by rw [h.version]; exact ⟨by decide, by decide⟩), h.version]
  · obtain ⟨same, hmem, -, hvalue⟩ := exists_field_of_canon_eq hcanon hfield
    obtain ⟨payload, supported, hpayload, hsection⟩ := hsound same hmem
    rw [hpayload] at hvalue
    obtain ⟨otherPayload, hother, hfields⟩ := obj_of_canon_eq hvalue
    exact ⟨otherPayload, supported, hother, (hsection.of_same hfields).2⟩
  · obtain ⟨same, hmem, hvalue⟩ := exists_mem_of_map_canon_eq hitems hmigration
    obtain ⟨fields, hfields, hsoundMigration⟩ := hsoundMigrations same hmem
    rw [hfields] at hvalue
    obtain ⟨otherFields, hother, hsameFields⟩ := obj_of_canon_eq hvalue
    exact ⟨otherFields, hother, hsoundMigration.of_same hsameFields⟩

theorem SoundMatrix.exists_section {matrix other : Fields} (h : SoundMatrix matrix)
    (hsame : SameMatrix matrix other) (sectionName : String) :
    ∃ payload others, matrixSection matrix sectionName = .ok (.obj payload) ∧
      matrixSection other sectionName = .ok (.obj others) ∧
      strippedText others "current_schema_version" "" = strippedText payload "current_schema_version" "" ∧
      get? others "supported_schema_versions" = get? payload "supported_schema_versions" ∧
      (payload = [] ∨ ∃ supported, SoundSection payload supported) := by
  obtain ⟨sections, hsections, hsound⟩ := h.sections
  obtain ⟨others, hothers, hcanon⟩ := (hsame "sections" (by simp)).obj hsections
  have hfield := get?_of_canon_eq hcanon sectionName
  rw [matrixSection, matrixSection, getD, getD, hsections, hothers, Option.getD_some, Option.getD_some]
  dsimp only
  rw [getD, getD]
  cases hvalue : get? sections sectionName with
  | none =>
    rw [hvalue, Option.map_none, Option.map_eq_none_iff] at hfield
    rw [hfield]
    exact ⟨[], [], rfl, rfl, rfl, rfl, Or.inl rfl⟩
  | some value =>
    rw [hvalue, Option.map_some, Option.map_eq_some_iff] at hfield
    obtain ⟨otherValue, hotherValue, hvalueSame⟩ := hfield
    obtain ⟨before, after, hmem, -⟩ := List.lookup_eq_some_iff.mp hvalue
    obtain ⟨payload, supported, hpayload, hsection⟩ := hsound (sectionName, value) (by rw [hmem]; simp)
    dsimp only at hpayload
    rw [hpayload] at hvalueSame
    obtain ⟨otherPayload, rfl, hsameFields⟩ := obj_of_canon_eq hvalueSame
    obtain ⟨hcurrent, hotherSection⟩ := hsection.of_same hsameFields
    rw [hotherValue]
    refine ⟨payload, otherPayload, by rw [Option.getD_some, ← hpayload], rfl, hcurrent, ?_,
      Or.inr ⟨supported, hsection⟩⟩
    rw [hsection.supported_eq, hotherSection.supported_eq]

theorem SoundMatrix.sectionCurrentVersion_eq {matrix other : Fields} (h : SoundMatrix matrix)
    (hsame : SameMatrix matrix other) (sectionName : String) :
    sectionCurrentVersion other sectionName = sectionCurrentVersion matrix sectionName := by
  obtain ⟨payload, others, hpayload, hothers, hcurrent, -, -⟩ := h.exists_section hsame sectionName
  rw [sectionCurrentVersion, sectionCurrentVersion, hpayload, hothers, ok_bind, ok_bind]
  dsimp only
  rw [hcurrent]

theorem SoundMatrix.versionSupported_eq {matrix other : Fields} (h : SoundMatrix matrix)
    (hsame : SameMatrix matrix other) (sectionName schemaVersion : String) :
    versionSupported other sectionName schemaVersion = versionSupported matrix sectionName schemaVersion := by
  obtain ⟨payload, others, hpayload, hothers, -, hsupported, -⟩ := h.exists_section hsame sectionName
  rw [versionSupported, versionSupported, hpayload, hothers, ok_bind, ok_bind]
  dsimp only
  rw [getD, getD, hsupported]

theorem leadsTo_of_same {sectionName fromVersion toVersion : String} (hname : IsPlain sectionName)
    {fields other : Fields} (h : SoundMigration fields) (hsame : ∀ key, SameField fields other key)
    (hleads : leadsTo sectionName fromVersion toVersion (.obj fields) = true) :
    leadsTo sectionName fromVersion toVersion (.obj other) = true := by
  rw [leadsTo, Bool.and_eq_true, Bool.and_eq_true, decide_eq_true_iff, decide_eq_true_iff,
    decide_eq_true_iff] at hleads ⊢
  obtain ⟨⟨rfl, horigin⟩, htarget⟩ := hleads
  rw [(hsame _).strippedText_eq hname, (hsame _).strippedText_eq (isPlain_of_matchesVersion h.origin),
    (hsame _).strippedText_eq (isPlain_of_matchesVersion h.target)]
  exact ⟨⟨rfl, horigin⟩, htarget⟩

/-- The migrations of a sound matrix are found in one that says the same. -/
theorem SoundMatrix.hasMigrationPath_of_same {matrix other : Fields} (h : SoundMatrix matrix)
    (hsame : SameMatrix matrix other) {sectionName fromVersion toVersion : String}
    (hname : IsPlain sectionName) (hpath : hasMigrationPath matrix sectionName fromVersion toVersion = true) :
    hasMigrationPath other sectionName fromVersion toVersion = true := by
  obtain ⟨migrations, hmigrations, hsound⟩ := h.migrations
  have hback : SameField other matrix "migrations" := (hsame "migrations" (by simp)).symm
  obtain ⟨others, hothers, -⟩ := (hsame "migrations" (by simp)).arr hmigrations
  obtain ⟨same, hsameMigrations, hitems⟩ := hback.arr hothers
  rw [hmigrations, Option.some.injEq, Json.arr.injEq] at hsameMigrations
  rw [hasMigrationPath, getD, hmigrations] at hpath
  rw [hasMigrationPath, getD, hothers]
  obtain ⟨migration, hmem, hleads⟩ := List.any_eq_true.mp hpath
  obtain ⟨otherMigration, hother, hcanon⟩ := exists_mem_of_map_canon_eq hitems (hsameMigrations ▸ hmem)
  obtain ⟨fields, rfl, hmigration⟩ := hsound migration hmem
  obtain ⟨otherFields, rfl, hfields⟩ := obj_of_canon_eq hcanon.symm
  exact List.any_eq_true.mpr ⟨_, hother, leadsTo_of_same hname hmigration hfields hleads⟩

theorem SoundMatrix.hasMigrationPath_eq {matrix other : Fields} (h : SoundMatrix matrix)
    (hsame : SameMatrix matrix other) {sectionName : String} (hname : IsPlain sectionName)
    (fromVersion toVersion : String) :
    hasMigrationPath other sectionName fromVersion toVersion =
      hasMigrationPath matrix sectionName fromVersion toVersion := by
  have hback : SameMatrix other matrix := fun key hkey ↦ (hsame key hkey).symm
  rw [Bool.eq_iff_iff]
  exact ⟨(h.of_same hsame).hasMigrationPath_of_same hback hname, h.hasMigrationPath_of_same hsame hname⟩

end SchemaPilot.Tools
