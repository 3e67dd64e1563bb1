import SchemaPilot.SharedDomain.ArtifactCrypto
import SchemaPilot.Tools.PackSigning

/-!
# Signing and validity

What `sign_pack_registry` signs without an error is then read by `validate_pack_registry`. An entry that is read
otherwise than it was signed is rejected (`rejectsChanges`). But the signer leaves out checks of the validator: an
entry whose schema version has no migration to the current one, or any entry under a blank key id, is signed and then
reported, so signing implies validity exactly for entries that are `Validatable` (`signing_valid_iff`).
-/

namespace SchemaPilot.Tools

open Library Library.Text Library.Json SharedDomain

variable {Place : Type} {tools : PackTools Place}

section Claims

variable (tools) (files after : PackFiles Place) (registryPath matrixPath signingKey keyId : String)

/-- Validation reports no error for an entry of the signed sections. -/
def AcceptsSignedEntries : Prop :=
  ∃ payload matrix, HoldsObject tools after (tools.locate registryPath) payload ∧
    HoldsObject tools after (tools.locate matrixPath) matrix ∧
    ∀ sectionName ∈ signedSections, ∃ entries, sectionEntries payload sectionName = some entries ∧
      ∀ entry ∈ entries, ∃ fields, entry = .obj fields ∧
        validateRegistryEntry tools after matrix sectionName fields signingKey = .ok []

/-- An entry that keeps its signature and is read otherwise than when it was signed does not pass validation. -/
def RejectsChanges : Prop :=
  ∀ payload matrix, HoldsObject tools files (tools.locate registryPath) payload →
    HoldsObject tools files (tools.locate matrixPath) matrix →
    ∀ (later : PackFiles Place) laterPayload laterMatrix,
      HoldsObject tools later (tools.locate registryPath) laterPayload →
      HoldsObject tools later (tools.locate matrixPath) laterMatrix →
      ∀ sectionName ∈ signedSections, ∀ entries laterEntries,
        sectionEntries payload sectionName = some entries →
        sectionEntries laterPayload sectionName = some laterEntries →
        ∀ entry signed laterEntry reading, .obj entry ∈ entries → .obj laterEntry ∈ laterEntries →
          signEntry tools files matrix signingKey keyId sectionName (.obj entry) = .ok ([], .obj signed) →
          packReading tools files matrix sectionName entry = .ok reading →
          get? laterEntry "signature" = get? (readBack signed) "signature" →
          packReading tools later laterMatrix sectionName laterEntry ≠ .ok reading →
            validatePackRegistry tools later registryPath matrixPath signingKey ≠ .ok []

/-- An entry the validator accepts once it is signed: the key has a name, the schema version is current or can be
migrated, the texts do not depend on the order of fields within them, and the artifact is not the registry itself,
unless signing leaves what that says. -/
structure Validatable (matrix : Fields) (sectionName : String) (entry : Fields) (reading : PackReading) :
    Prop where
  keyId_ne : strip keyId ≠ ""
  migratable : Migratable matrix sectionName reading.schemaVersion
  texts : StableTexts entry
  artifact : tools.locate reading.path = tools.locate registryPath →
    artifactContent tools after reading.path = artifactContent tools files reading.path

/-- Every entry of the signed sections is one the validator accepts once it is signed. -/
def AllValidatable : Prop :=
  ∃ payload matrix, HoldsObject tools files (tools.locate registryPath) payload ∧
    HoldsObject tools files (tools.locate matrixPath) matrix ∧
    ∀ sectionName ∈ signedSections, ∀ entries, sectionEntries payload sectionName = some entries →
      ∀ entry reading, .obj entry ∈ entries → packReading tools files matrix sectionName entry = .ok reading →
        Validatable tools files after registryPath keyId matrix sectionName entry reading

end Claims

section Signed

variable {files after : PackFiles Place} {registryPath matrixPath signingKey keyId : String}
  {payload signed matrix other : Fields} {sectionName : String} {entries : List Json}

theorem sectionEntries_readBack (h : sectionEntries signed sectionName = some entries) :
    sectionEntries (readBack signed) sectionName = some (entries.map canon) := by
  rw [sectionEntries, getD] at h ⊢
  rw [get?_readBack]
  cases hvalue : get? signed sectionName with
  | none =>
    rw [hvalue] at h
    cases h
    rfl
  | some value =>
    rw [hvalue, Option.getD_some] at h
    rw [Option.map_some, Option.getD_some]
    cases value with
    | arr items =>
      cases h
      rw [canon, canonItems_eq_map]
      rfl
    | _ => cases h

/-- An entry of a registry signed without an error, as it is read back. -/
def SignedAs (tools : PackTools Place) (files : PackFiles Place) (matrix : Fields) (signingKey keyId : String)
    (sectionName : String) (raw : Fields) (reading : PackReading) (entry : Json) : Prop :=
  Signable tools files matrix sectionName raw reading ∧
    entry = .obj (readBack (signedFields raw reading keyId (reading.signature tools sectionName signingKey)))

/-- The entries before and after signing stand side by side. -/
theorem forall₂_signedAs
    (h : SignedSection tools files matrix signingKey keyId payload signed sectionName) :
    ∃ entries laterEntries, sectionEntries payload sectionName = some entries ∧
      sectionEntries (readBack signed) sectionName = some laterEntries ∧
      List.Forall₂ (fun entry later ↦ ∃ raw reading, entry = .obj raw ∧
        SignedAs tools files matrix signingKey keyId sectionName raw reading later) entries laterEntries := by
  obtain ⟨entries, others, hentries, hothers, hall⟩ := h
  refine ⟨entries, others.map canon, hentries, sectionEntries_readBack hothers, ?_⟩
  rw [List.forall₂_map_right_iff]
  refine hall.imp fun entry signedEntry hsign ↦ ?_
  obtain ⟨raw, reading, rfl, hsignable, rfl⟩ := signEntry_eq_ok_iff.mp hsign
  exact ⟨raw, reading, rfl, hsignable, canon_obj _⟩

/-- A signature is not accepted for another reading. -/
theorem rejectsChanges (hfree : CollisionFree tools) (files : PackFiles Place)
    (registryPath matrixPath signingKey keyId : String) :
    RejectsChanges tools files registryPath matrixPath signingKey keyId := by
  intro payload matrix _ _ later laterPayload laterMatrix hlaterPayload hlaterMatrix sectionName hsigned entries
    laterEntries _ hlaterEntries entry signed laterEntry reading _ hlaterEntry hsign hreading hkept hchanged hvalid
  obtain ⟨raw, reading', hraw, hsignable, hsignedEq⟩ := signEntry_eq_ok_iff.mp hsign
  cases hraw
  cases hsignedEq
  rw [hsignable.reading_eq, Except.ok.injEq] at hreading
  subst hreading
  have haccepted := validateRegistryEntry_of_validated hlaterPayload hlaterMatrix hvalid hsigned hlaterEntries
    hlaterEntry
  obtain ⟨found, hfound, -, hholds⟩ := (validateRegistryEntry_eq_nil_iff hfree hsigned).mp haccepted
  rw [HoldsSignature, hkept] at hholds
  have hhex : IsHexText (reading'.signature tools sectionName signingKey) := hfree.hmac_hex _ _
  have hsignature := ((holdsSignature_signedFields_iff (strip_of_isHexText hhex)).mp hholds).2
  obtain ⟨-, -, -, -, hcontent⟩ := packReading_eq_ok_iff.mp hsignable.reading_eq
  obtain ⟨-, -, -, -, hfoundContent⟩ := packReading_eq_ok_iff.mp hfound.reading_eq
  have hsame := reading_eq_of_signature_eq hfree hcontent hfoundContent hsignature
  exact hchanged (hsame ▸ hfound.reading_eq)

variable [DecidableEq Place]

/-- Where the artifact is not the registry, it says after signing what it said before. -/
theorem artifact_iff (hafter : ∀ place ≠ tools.locate registryPath, after place = files place) (path : String) :
    (tools.locate path = tools.locate registryPath →
        artifactContent tools after path = artifactContent tools files path) ↔
      artifactContent tools after path = artifactContent tools files path := by
  refine ⟨fun h ↦ ?_, fun h _ ↦ h⟩
  by_cases hplace : tools.locate path = tools.locate registryPath
  · exact h hplace
  · exact artifactContent_congr (hafter _ hplace)

theorem accepted_iff_validatable (hfree : CollisionFree tools) (hsound : SoundMatrix matrix)
    (hsame : SameMatrix matrix other) (hsigned : sectionName ∈ signedSections)
    (hafter : ∀ place ≠ tools.locate registryPath, after place = files place) {raw : Fields}
    {reading : PackReading} (hsignable : Signable tools files matrix sectionName raw reading) :
    validateRegistryEntry tools after other sectionName (readBack (signedFields raw reading keyId
        (reading.signature tools sectionName signingKey))) signingKey = .ok [] ↔
      Validatable tools files after registryPath keyId matrix sectionName raw reading := by
  rw [validateRegistryEntry_signed_iff hfree hsound hsame hsigned hsignable, ← artifact_iff hafter]
  exact ⟨fun ⟨hkeyId, hmigration, htexts, hartifact⟩ ↦ ⟨hkeyId, hmigration, htexts, hartifact⟩,
    fun h ↦ ⟨h.keyId_ne, h.migratable, h.texts, h.artifact⟩⟩

/-- A registry signed without an error is accepted exactly where its entries are validatable. -/
theorem acceptsSignedEntries_iff (hfree : CollisionFree tools)
    (h : signPackRegistry tools files registryPath matrixPath signingKey keyId = .ok ([], after)) :
    AcceptsSignedEntries tools after registryPath matrixPath signingKey ↔
      AllValidatable tools files after registryPath matrixPath keyId := by
  obtain ⟨payload, matrix, signed, hpayload, -, hmatrix, hsound, hfold, hafter⟩ := signPackRegistry_spec h
  obtain ⟨-, hkept, hsections, hregular⟩ := foldlM_signSection (by decide) hfold
  have hpayloadRegular : Regular tools.reader (.obj payload) := by
    obtain ⟨text, -, hloads⟩ := hpayload
    exact regular_loads hloads
  obtain ⟨hregistry, other, hother, hsame⟩ :=
    holdsObject_after_signing hpayload hmatrix (hregular hpayloadRegular) hkept hafter
  have hplaces : ∀ place ≠ tools.locate registryPath, after place = files place := by
    intro place hplace
    rw [hafter, Function.update_of_ne hplace]
  constructor
  · rintro ⟨payload', matrix', hpayload', hmatrix', haccepts⟩
    obtain rfl := hregistry.unique hpayload'
    obtain rfl := hother.unique hmatrix'
    refine ⟨payload, matrix, hpayload, hmatrix, fun sectionName hsigned entries hentries entry reading hentry
      hreading ↦ ?_⟩
    obtain ⟨entries', laterEntries, hentries', hlater, hall⟩ := forall₂_signedAs (hsections sectionName hsigned)
    rw [hentries, Option.some.injEq] at hentries'
    subst hentries'
    obtain ⟨found, hfound, haccepted⟩ := haccepts sectionName hsigned
    rw [hlater, Option.some.injEq] at hfound
    subst hfound
    obtain ⟨later, hlaterMem, raw, reading', hraw, hsignable, rfl⟩ := exists_mem_of_forall₂ hall hentry
    cases hraw
    rw [hsignable.reading_eq, Except.ok.injEq] at hreading
    subst hreading
    obtain ⟨fields, hfields, hvalid⟩ := haccepted _ hlaterMem
    cases hfields
    exact (accepted_iff_validatable hfree hsound hsame hsigned hplaces hsignable).mp hvalid
  · rintro ⟨payload', matrix', hpayload', hmatrix', hvalidatable⟩
    obtain rfl := hpayload.unique hpayload'
    obtain rfl := hmatrix.unique hmatrix'
    refine ⟨_, other, hregistry, hother, fun sectionName hsigned ↦ ?_⟩
    obtain ⟨entries, laterEntries, hentries, hlater, hall⟩ := forall₂_signedAs (hsections sectionName hsigned)
    refine ⟨laterEntries, hlater, fun later hlaterMem ↦ ?_⟩
    obtain ⟨entry, hentry, raw, reading, rfl, hsignable, rfl⟩ := exists_mem_of_forall₂ hall.flip hlaterMem
    exact ⟨_, rfl, (accepted_iff_validatable hfree hsound hsame hsigned hplaces hsignable).mpr
      (hvalidatable sectionName hsigned entries hentries raw reading hentry hsignable.reading_eq)⟩

theorem signPackRegistry_of_signed (hpayload : HoldsObject tools files (tools.locate registryPath) payload)
    (hversion : registryErrors payload = []) (hmatrix : HoldsObject tools files (tools.locate matrixPath) matrix)
    (hsound : SoundMatrix matrix)
    (hfold : signedSections.foldlM (signSection tools files matrix signingKey keyId) ([], payload) =
      .ok ([], signed)) :
    signPackRegistry tools files registryPath matrixPath signingKey keyId = .ok ([], Function.update files
      (tools.locate registryPath) (some (.file (.text (canonicalJson (.obj signed)))))) := by
  rw [signPackRegistry, loadRegistry, loadObject_eq_some_iff.mpr ⟨hpayload, rfl⟩, ok_bind]
  dsimp only
  rw [loadCompatibilityMatrix, loadObject_eq_some_iff.mpr ⟨hmatrix, rfl⟩, ok_bind]
  dsimp only
  rw [hversion, matrixErrors_eq_nil_iff.mpr hsound, List.append_nil, hfold, ok_bind]
  rfl

/-- After signing without an error the entries are accepted, and only as they were read, exactly where they are
validatable. -/
theorem signing_valid_iff (hfree : CollisionFree tools)
    (h : signPackRegistry tools files registryPath matrixPath signingKey keyId = .ok ([], after)) :
    (AcceptsSignedEntries tools after registryPath matrixPath signingKey ∧
      RejectsChanges tools files registryPath matrixPath signingKey keyId) ↔
      AllValidatable tools files after registryPath matrixPath keyId := by
  rw [acceptsSignedEntries_iff hfree h]
  exact and_iff_left (rejectsChanges hfree files registryPath matrixPath signingKey keyId)

end Signed

/-! ### Examples -/

/-- Numbers written with as many ones each. -/
def unary (codes : List ℕ) : List Char := codes.flatMap fun code ↦ List.replicate code '1' ++ ['0']

theorem unary_cons (code : ℕ) (codes : List ℕ) :
    unary (code :: codes) = List.replicate code '1' ++ '0' :: unary codes := by
  rw [unary, List.flatMap_cons, List.append_assoc, List.singleton_append, unary]

theorem replicate_append_inj {first second : ℕ} {rest rest' : List Char}
    (h : List.replicate first '1' ++ '0' :: rest = List.replicate second '1' ++ '0' :: rest') :
    first = second ∧ rest = rest' := by
  induction first generalizing second with
  | zero =>
    cases second with
    | zero => exact ⟨rfl, (List.cons.inj h).2⟩
    | succ second => exact absurd (List.cons.inj h).1 (by decide)
  | succ first ih =>
    cases second with
    | zero => exact absurd (List.cons.inj h).1 (by decide)
    | succ second =>
      obtain ⟨rfl, hrest⟩ := ih (List.cons.inj h).2
      exact ⟨rfl, hrest⟩

theorem unary_injective : Function.Injective unary := by
  intro first
  induction first with
  | nil =>
    intro second h
    cases second with
    | nil => rfl
    | cons code codes =>
      rw [unary_cons] at h
      exact absurd h.symm (List.append_ne_nil_of_right_ne_nil _ (List.cons_ne_nil _ _))
  | cons code codes ih =>
    intro second h
    cases second with
    | nil =>
      rw [unary_cons] at h
      exact absurd h (List.append_ne_nil_of_right_ne_nil _ (List.cons_ne_nil _ _))
    | cons code' codes' =>
      rw [unary_cons, unary_cons] at h
      obtain ⟨rfl, hrest⟩ := replicate_append_inj h
      rw [ih hrest]

/-- A hexadecimal text for a list of numbers. -/
def exampleDigest (mark : Char) (codes : List ℕ) : String := String.ofList (mark :: unary codes)

theorem exampleDigest_inj {mark mark' : Char} {codes codes' : List ℕ}
    (h : exampleDigest mark codes = exampleDigest mark' codes') : mark = mark' ∧ codes = codes' := by
  obtain ⟨hmark, hcodes⟩ := List.cons.inj (String.ofList_injective h)
  exact ⟨hmark, unary_injective hcodes⟩

/-- The SHA-256 of the artifact of the example; what else is hashed stands for itself. -/
def exampleSha256 : FileBytes → String
  | .text content =>
    if content = "data" then "3a6eb0790f39ac87c94f3856b2dd2c5d110e6811602261a9a923d3bb23adc8b7"
    else exampleDigest 'a' (content.toList.map Char.toNat)
  | .binary content => exampleDigest 'b' (content.map UInt8.toNat)

def exampleMessage : String :=
  dumps (signatureInput "policy_packs" "p1" "1.0.0" "packs/p1.txt" "v1" (exampleSha256 (.text "data")))

/-- The HMAC of the message of the example; other messages stand for themselves. -/
def exampleHmac (key message : String) : String :=
  if key = "secret" ∧ message = exampleMessage then
    "16cdc770763e7cdcb8611ed31d548595e94a066e11081107792c2df9be7ef27b"
  else exampleDigest 'a' (message.toList.map Char.toNat)

def exampleTools : PackTools String where
  locate := id
  asPosix := id
  reader := textReader
  decodeError _ := "Expecting value"
  sha256Hex := exampleSha256
  hmacSha256Hex := exampleHmac

theorem exampleDigest_ne {mark : Char} {codes : List ℕ} {digest : String} (h : digest.toList.head? ≠ some mark) :
    exampleDigest mark codes ≠ digest := by
  rintro rfl
  rw [exampleDigest, String.toList_ofList, List.head?_cons] at h
  exact h rfl

theorem isHexText_exampleDigest {mark : Char} (hmark : mark = 'a' ∨ mark = 'b') (codes : List ℕ) :
    IsHexText (exampleDigest mark codes) := by
  refine ⟨exampleDigest_ne (by simp), fun c hc ↦ ?_⟩
  rw [exampleDigest, String.toList_ofList, List.mem_cons] at hc
  rcases hc with rfl | hc
  · rcases hmark with rfl | rfl
    · decide
    · decide
  · obtain ⟨code, -, hc⟩ := List.mem_flatMap.mp hc
    rcases List.mem_append.mp hc with hc | hc
    · rw [List.eq_of_mem_replicate hc]
      decide
    · rw [List.mem_singleton.mp hc]
      decide

theorem codes_injective : Function.Injective fun text : String ↦ text.toList.map Char.toNat := by
  intro first second h
  have hinjective : Function.Injective Char.toNat := fun _ _ hcode ↦ Char.toNat_inj.mp hcode
  exact String.toList_injective (List.map_injective_iff.mpr hinjective h)

theorem collisionFree_exampleTools : CollisionFree exampleTools where
  sha256_injective := by
    intro first second h
    cases first with
    | text first =>
      cases second with
      | text second =>
        simp only [exampleTools, exampleSha256] at h
        split_ifs at h with hfirst hsecond hsecond
        · rw [hfirst, hsecond]
        · exact absurd h.symm (exampleDigest_ne (by decide))
        · exact absurd h (exampleDigest_ne (by decide))
        · rw [codes_injective (exampleDigest_inj h).2]
      | binary second =>
        simp only [exampleTools, exampleSha256] at h
        split_ifs at h with hfirst
        · exact absurd h.symm (exampleDigest_ne (by decide))
        · exact absurd (exampleDigest_inj h).1 (by decide)
    | binary first =>
      cases second with
      | text second =>
        simp only [exampleTools, exampleSha256] at h
        split_ifs at h with hsecond
        · exact absurd h (exampleDigest_ne (by decide))
        · exact absurd (exampleDigest_inj h).1 (by decide)
      | binary second =>
        have hbytes := (exampleDigest_inj h).2
        have hinjective : Function.Injective UInt8.toNat := fun _ _ hbyte ↦ UInt8.toNat_inj.mp hbyte
        rw [List.map_injective_iff.mpr hinjective hbytes]
  hmac_injective key := by
    intro first second h
    simp only [exampleTools, exampleHmac] at h
    split_ifs at h with hfirst hsecond hsecond
    · rw [hfirst.2, hsecond.2]
    · exact absurd h.symm (exampleDigest_ne (by decide))
    · exact absurd h (exampleDigest_ne (by decide))
    · exact codes_injective (exampleDigest_inj h).2
  hmac_hex key message := by
    simp only [exampleTools, exampleHmac]
    split_ifs
    · exact ⟨by decide, by decide⟩
    · exact isHexText_exampleDigest (Or.inl rfl) _

/-- An entry of the first schema version. -/
def exampleEntry : Fields :=
  [("pack_id", .str "p1"), ("path", .str "packs/p1.txt"), ("schema_version", .str "v1"), ("version", .str "1.0.0")]

def exampleRegistry : Fields :=
  [("policy_packs", .arr [.obj exampleEntry]), ("registry_version", .str "v1")]

def exampleMatrix (current : String) : Fields :=
  [("matrix_version", .str "v1"), ("migrations", .arr []), ("sections", .obj [("policy_packs",
    .obj [("current_schema_version", .str current),
      ("supported_schema_versions", .arr [.str "v1", .str "v2"])])])]

def exampleFiles (current : String) : PackFiles String := fun place ↦
  if place = "registry.json" then some (.file (.text (canonicalJson (.obj exampleRegistry))))
  else if place = "matrix.json" then some (.file (.text (canonicalJson (.obj (exampleMatrix current)))))
  else if place = "packs/p1.txt" then some (.file (.text "data"))
  else none

def exampleReading : PackReading := ⟨"p1", "1.0.0", "packs/p1.txt", "v1", .raw (.text "data")⟩

theorem regular_exampleRegistry : Regular textReader (.obj exampleRegistry) := by
  simp [Regular, RegularFields, RegularItems, exampleRegistry, exampleEntry]

theorem regular_exampleMatrix (current : String) : Regular textReader (.obj (exampleMatrix current)) := by
  simp [Regular, RegularFields, RegularItems, exampleMatrix]

theorem holdsObject_exampleRegistry (current : String) :
    HoldsObject exampleTools (exampleFiles current) "registry.json" (readBack exampleRegistry) :=
  ⟨_, rfl, loads_canonicalJson regular_exampleRegistry⟩

theorem holdsObject_exampleMatrix (current : String) :
    HoldsObject exampleTools (exampleFiles current) "matrix.json" (readBack (exampleMatrix current)) :=
  ⟨_, rfl, loads_canonicalJson (regular_exampleMatrix current)⟩

theorem signable_exampleEntry {current : String} (h : current ∈ ["v1", "v2"]) :
    Signable exampleTools (exampleFiles current) (readBack (exampleMatrix current)) "policy_packs"
      (readBack exampleEntry) exampleReading where
  reading_eq := by
    refine packReading_eq_ok_iff.mpr ⟨by decide, by decide, by decide, ⟨current, ?_, ?_⟩, rfl⟩
    · revert current
      simp only [List.forall_mem_cons]
      exact ⟨rfl, rfl, by simp⟩
    · rw [inferSchemaVersion, if_pos (by decide)]
      rfl
  packId_ne := by decide
  version_ne := by decide
  path_ne := by decide
  supported := by
    revert current
    simp only [List.forall_mem_cons]
    exact ⟨rfl, rfl, by simp⟩

theorem entries_exampleRegistry : ∀ sectionName ∈ signedSections,
    sectionEntries (readBack exampleRegistry) sectionName =
      some (if sectionName = "policy_packs" then [.obj (readBack exampleEntry)] else []) := by
  simp only [signedSections, List.forall_mem_cons]
  exact ⟨rfl, rfl, rfl, by simp⟩

theorem soundMatrix_exampleMatrix {current : String} (h : current ∈ ["v1", "v2"]) :
    SoundMatrix (readBack (exampleMatrix current)) := by
  refine matrixErrors_eq_nil_iff.mp ?_
  revert current
  simp only [List.forall_mem_cons]
  exact ⟨by decide, by decide, by simp⟩

/-- A section without entries is left as it is. -/
theorem signSection_nil {files : PackFiles String} {matrix payload : Fields} {signingKey keyId sectionName : String}
    (h : sectionEntries payload sectionName = some []) :
    signSection exampleTools files matrix signingKey keyId ([], payload) sectionName = .ok ([], payload) := by
  rw [signSection, h]
  rfl

theorem exists_signed_example {current : String} (h : current ∈ ["v1", "v2"]) :
    ∃ after, signPackRegistry exampleTools (exampleFiles current) "registry.json" "matrix.json" "secret" "k1" =
      .ok ([], after) := by
  obtain ⟨signed, hsigned⟩ : ∃ signed, signEntry exampleTools (exampleFiles current)
      (readBack (exampleMatrix current)) "secret" "k1" "policy_packs" (.obj (readBack exampleEntry)) =
        .ok ([], signed) :=
    ⟨_, signEntry_eq_ok_iff.mpr ⟨_, _, rfl, signable_exampleEntry h, rfl⟩⟩
  have hfirst : signSection exampleTools (exampleFiles current) (readBack (exampleMatrix current)) "secret" "k1"
      ([], readBack exampleRegistry) "policy_packs" =
        .ok ([], set (readBack exampleRegistry) "policy_packs" (.arr [signed])) := by
    rw [signSection, entries_exampleRegistry "policy_packs" (by decide), if_pos rfl]
    dsimp only
    rw [List.mapM_cons, hsigned, ok_bind, List.mapM_nil]
    rfl
  have hothers : ∀ sectionName ∈ signedSections, sectionName ≠ "policy_packs" →
      sectionEntries (set (readBack exampleRegistry) "policy_packs" (.arr [signed])) sectionName = some [] := by
    intro sectionName hmem hne
    rw [sectionEntries_congr (get?_set_of_ne hne _ _), entries_exampleRegistry sectionName hmem, if_neg hne]
  refine ⟨_, @signPackRegistry_of_signed _ exampleTools _ _ _ _ _ _ (set (readBack exampleRegistry)
    "policy_packs" (.arr [signed])) _ _ (holdsObject_exampleRegistry current) (by decide)
    (holdsObject_exampleMatrix current) (soundMatrix_exampleMatrix h) ?_⟩
  rw [signedSections, List.foldlM_cons, hfirst, ok_bind, List.foldlM_cons,
    signSection_nil (hothers _ (by decide) (by decide)), ok_bind, List.foldlM_cons,
    signSection_nil (hothers _ (by decide) (by decide)), ok_bind, List.foldlM_nil]
  rfl

/-- The entry of the example is validatable exactly where its version can be migrated. -/
theorem allValidatable_example {current : String} (h : current ∈ ["v1", "v2"]) {after : PackFiles String} :
    AllValidatable exampleTools (exampleFiles current) after "registry.json" "matrix.json" "k1" ↔
      Migratable (readBack (exampleMatrix current)) "policy_packs" "v1" := by
  constructor
  · rintro ⟨payload, matrix, hpayload, hmatrix, hall⟩
    obtain rfl := (holdsObject_exampleRegistry current).unique hpayload
    obtain rfl := (holdsObject_exampleMatrix current).unique hmatrix
    exact (hall "policy_packs" (by decide) _ (entries_exampleRegistry _ (by decide)) (readBack exampleEntry)
      exampleReading (by rw [if_pos rfl]; exact List.mem_singleton_self _)
      (signable_exampleEntry h).reading_eq).migratable
  · intro hmigratable
    refine ⟨_, _, holdsObject_exampleRegistry current, holdsObject_exampleMatrix current,
      fun sectionName hsigned entries hentries entry reading hentry hreading ↦ ?_⟩
    rw [entries_exampleRegistry sectionName hsigned, Option.some.injEq] at hentries
    subst hentries
    split_ifs at hentry with hsection
    · subst hsection
      cases List.mem_singleton.mp hentry
      rw [(signable_exampleEntry h).reading_eq, Except.ok.injEq] at hreading
      subst hreading
      exact ⟨by decide, hmigratable, by decide, fun hplace ↦ absurd hplace (by decide)⟩
    · exact absurd hentry List.not_mem_nil

/-- A registry signed at the current version is valid. -/
theorem signed_example_is_valid :
    ∃ after, signPackRegistry exampleTools (exampleFiles "v1") "registry.json" "matrix.json" "secret" "k1" =
        .ok ([], after) ∧
      AcceptsSignedEntries exampleTools after "registry.json" "matrix.json" "secret" ∧
      RejectsChanges exampleTools (exampleFiles "v1") "registry.json" "matrix.json" "secret" "k1" := by
  obtain ⟨after, hafter⟩ := @exists_signed_example "v1" (by decide)
  refine ⟨after, hafter, (signing_valid_iff collisionFree_exampleTools hafter).mpr ?_⟩
  exact (allValidatable_example (by decide)).mpr ⟨"v1", rfl, Or.inl rfl⟩

/-- A registry signed at an old version without a migration is not. -/
theorem signed_without_migration_is_rejected :
    CollisionFree exampleTools ∧
      ∃ after, signPackRegistry exampleTools (exampleFiles "v2") "registry.json" "matrix.json" "secret" "k1" =
        .ok ([], after) ∧ ¬AcceptsSignedEntries exampleTools after "registry.json" "matrix.json" "secret" := by
  refine ⟨collisionFree_exampleTools, ?_⟩
  obtain ⟨after, hafter⟩ := @exists_signed_example "v2" (by decide)
  refine ⟨after, hafter, fun haccepts ↦ ?_⟩
  obtain ⟨current, hcurrent, hmigration⟩ := (allValidatable_example (by decide)).mp
    ((acceptsSignedEntries_iff collisionFree_exampleTools hafter).mp haccepts)
  have hversion : sectionCurrentVersion (readBack (exampleMatrix "v2")) "policy_packs" = .ok "v2" := rfl
  rw [hversion, Except.ok.injEq] at hcurrent
  subst hcurrent
  revert hmigration
  decide

end SchemaPilot.Tools
