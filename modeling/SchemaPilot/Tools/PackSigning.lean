import SchemaPilot.Library.ItemByItem
import SchemaPilot.Tools.PackMatrix

/-!
# Signed packs

`sign_pack_registry` signs what it reads of an entry and its artifact (`PackReading`). A signature belongs to one
reading (`reading_eq_of_signature_eq`), the signer takes an entry exactly where it is `Signable`
(`signEntry_eq_ok_iff`), and the validator accepts one exactly where it is signable, can be migrated, and holds the
signature of its reading (`validateRegistryEntry_eq_nil_iff`).
-/

namespace SchemaPilot.Tools

open Library Library.Text Library.Json SharedDomain

/-- What an artifact says: the value of a JSON file, the order of fields aside, or the bytes of another file. -/
inductive ArtifactContent where
  | json (value : Json)
  | raw (bytes : FileBytes)
deriving DecidableEq

structure PackReading where
  packId : String
  version : String
  path : String
  schemaVersion : String
  content : ArtifactContent
deriving DecidableEq

variable {Place : Type} (tools : PackTools Place)

def artifactContent (files : PackFiles Place) (path : String) : Except Exn ArtifactContent :=
  let node := files (tools.locate path)
  if isJsonPath path then do
    match decodeJson tools (← readText node) with
    | .ok payload => .ok (.json (canon payload))
    | .error _ => (readBytes node).map .raw
  else (readBytes node).map .raw

def packReading (files : PackFiles Place) (matrix : Fields) (sectionName : String) (entry : Fields) :
    Except Exn PackReading := do
  let path := strippedText entry "path" ""
  let current ← sectionCurrentVersion matrix sectionName
  let schemaVersion ← inferSchemaVersion tools files entry path current
  let content ← artifactContent tools files path
  .ok { packId := strippedText entry "pack_id" ""
        version := strippedText entry "version" ""
        path
        schemaVersion
        content }

def ArtifactContent.canonicalBytes : ArtifactContent → FileBytes
  | json value => .text (dumps value)
  | raw bytes => bytes

def PackReading.signature (reading : PackReading) (sectionName signingKey : String) : String :=
  tools.hmacSha256Hex signingKey (dumps (signatureInput sectionName reading.packId reading.version
    reading.path reading.schemaVersion (tools.sha256Hex reading.content.canonicalBytes)))

/-- A text as `hexdigest` returns it. -/
def IsHexText (text : String) : Prop :=
  text ≠ "" ∧ ∀ c ∈ text.toList, c.isDigit = true ∨ (97 ≤ c.toNat ∧ c.toNat ≤ 102)

/-- No two inputs of a hash function have one digest, and digests are hexadecimal. -/
structure CollisionFree : Prop where
  sha256_injective : Function.Injective tools.sha256Hex
  hmac_injective : ∀ key, Function.Injective (tools.hmacSha256Hex key)
  hmac_hex : ∀ key message, IsHexText (tools.hmacSha256Hex key message)

variable {tools}

theorem artifactCanonicalBytes_eq (files : PackFiles Place) (path : String) :
    artifactCanonicalBytes tools files path =
      (artifactContent tools files path).map ArtifactContent.canonicalBytes := by
  rw [artifactCanonicalBytes, artifactContent]
  cases isJsonPath path with
  | false =>
    cases readBytes (files (tools.locate path)) <;> rfl
  | true =>
    rw [if_pos rfl, if_pos rfl]
    cases readText (files (tools.locate path)) with
    | error exn => rfl
    | ok text =>
      rw [ok_bind, ok_bind]
      cases decodeJson tools text with
      | error exc => cases readBytes (files (tools.locate path)) <;> rfl
      | ok payload =>
        dsimp only
        rw [Except.map, ArtifactContent.canonicalBytes, dumps, dumps, canon_canon]

theorem artifactContent_cases {files : PackFiles Place} {path : String} {content : ArtifactContent}
    (h : artifactContent tools files path = .ok content) :
    (isJsonPath path = true ∧ ∃ value, Regular tools.reader value ∧ content = .json (canon value)) ∨
      ∃ bytes, content = .raw bytes ∧
        (isJsonPath path = true → ∃ text, bytes = .text text ∧ loads tools.reader text = none) := by
  rw [artifactContent] at h
  cases hpath : isJsonPath path with
  | false =>
    rw [hpath] at h
    obtain ⟨bytes, -, rfl⟩ := map_eq_ok_iff.mp h
    exact Or.inr ⟨bytes, rfl, fun hjson ↦ (by cases hjson)⟩
  | true =>
    rw [hpath, if_pos rfl, bind_eq_ok_iff] at h
    obtain ⟨text, htext, h⟩ := h
    rw [decodeJson] at h
    cases hloads : loads tools.reader text with
    | some value =>
      rw [hloads] at h
      cases h
      exact Or.inl ⟨rfl, value, regular_loads hloads, rfl⟩
    | none =>
      rw [hloads] at h
      obtain ⟨bytes, hbytes, rfl⟩ := map_eq_ok_iff.mp h
      rw [readText, hbytes, ok_bind] at htext
      cases bytes with
      | text content =>
        cases htext
        exact Or.inr ⟨_, rfl, fun _ ↦ ⟨text, rfl, hloads⟩⟩
      | binary content => cases htext

/-- Contents of one path are told apart by their bytes. -/
theorem content_eq_of_canonicalBytes_eq {files others : PackFiles Place} {path : String}
    {content other : ArtifactContent} (hcontent : artifactContent tools files path = .ok content)
    (hother : artifactContent tools others path = .ok other)
    (h : content.canonicalBytes = other.canonicalBytes) : content = other := by
  have hread : ∀ {value : Json} {text : String}, Regular tools.reader value →
      loads tools.reader text = none → dumps (canon value) ≠ text := by
    rintro value text hregular hnone rfl
    rw [loads_dumps (regular_canon hregular)] at hnone
    cases hnone
  rcases artifactContent_cases hcontent with ⟨hpath, value, hregular, rfl⟩ | ⟨bytes, rfl, hbytes⟩
  · rcases artifactContent_cases hother with ⟨-, otherValue, -, rfl⟩ | ⟨bytes, rfl, hbytes⟩
    · rw [ArtifactContent.canonicalBytes, ArtifactContent.canonicalBytes, FileBytes.text.injEq] at h
      have hcanon := dumps_inj h
      rw [canon_canon, canon_canon] at hcanon
      rw [hcanon]
    · obtain ⟨text, rfl, hnone⟩ := hbytes hpath
      rw [ArtifactContent.canonicalBytes, ArtifactContent.canonicalBytes, FileBytes.text.injEq] at h
      exact absurd h (hread hregular hnone)
  · rcases artifactContent_cases hother with ⟨hpath, value, hregular, rfl⟩ | ⟨otherBytes, rfl, -⟩
    · obtain ⟨text, rfl, hnone⟩ := hbytes hpath
      rw [ArtifactContent.canonicalBytes, ArtifactContent.canonicalBytes, FileBytes.text.injEq] at h
      exact absurd h.symm (hread hregular hnone)
    · exact congrArg ArtifactContent.raw h

theorem strip_of_isHexText {text : String} (h : IsHexText text) : strip text = text := by
  have hblank : ∀ c ∈ text.toList, isSpace c = false := by
    intro c hc
    have hhex := h.2 c hc
    rw [Char.isDigit, Bool.and_eq_true, decide_eq_true_iff, decide_eq_true_iff] at hhex
    have hbounds : (48 ≤ c.toNat ∧ c.toNat ≤ 57) ∨ (97 ≤ c.toNat ∧ c.toNat ≤ 102) := hhex
    simp only [isSpace, Bool.or_eq_false_iff, Bool.and_eq_false_iff, decide_eq_false_iff_not,
      beq_eq_false_iff_ne, ne_eq]
    omega
  rw [strip, stripChars_eq_self (fun c hc ↦ hblank c (List.mem_of_mem_head? hc))
    (fun c hc ↦ hblank c (List.mem_of_mem_getLast? hc)), String.ofList_toList]

theorem toNat_lt_of_isHexText {text : String} (h : IsHexText text) {c : Char} (hc : c ∈ text.toList) :
    c.toNat < 128 := by
  have hhex := h.2 c hc
  rw [Char.isDigit, Bool.and_eq_true, decide_eq_true_iff, decide_eq_true_iff] at hhex
  have hbounds : (48 ≤ c.toNat ∧ c.toNat ≤ 57) ∨ (97 ≤ c.toNat ∧ c.toNat ≤ 102) := hhex
  omega

/-- A text is found equal to a digest exactly where it is the digest. -/
theorem compareDigest_eq_true_iff {value expected : String} (h : IsHexText expected) :
    compareDigest value expected = .ok true ↔ value = expected := by
  rw [compareDigest]
  constructor
  · intro hequal
    split_ifs at hequal
    exact beq_iff_eq.mp (Except.ok.inj hequal)
  · rintro rfl
    rw [if_pos, beq_self_eq_true]
    rw [List.all_eq_true]
    intro c hc
    rw [String.toList_append, List.mem_append, or_self] at hc
    exact decide_eq_true (toNat_lt_of_isHexText h hc)

/-- The bytes that are signed determine the texts of an entry and the digest of its artifact. -/
theorem signatureInput_injective {sectionName packId version path schemaVersion checksum : String}
    {otherSection otherPackId otherVersion otherPath otherSchemaVersion otherChecksum : String}
    (h : dumps (signatureInput sectionName packId version path schemaVersion checksum) =
      dumps (signatureInput otherSection otherPackId otherVersion otherPath otherSchemaVersion
        otherChecksum)) :
    packId = otherPackId ∧ version = otherVersion ∧ path = otherPath ∧
      schemaVersion = otherSchemaVersion ∧ checksum = otherChecksum := by
  have hget := get?_of_dumps_eq h
  have htext : ∀ {first second : String}, (some (.str first) : Option Json).map canon =
      (some (.str second)).map canon → first = second := by
    intro first second hsame
    simpa [canon] using hsame
  exact ⟨htext (hget "pack_id"), htext (hget "version"), htext (hget "path"), htext (hget "schema_version"),
    htext (hget "artifact_checksum")⟩

theorem reading_eq_of_signature_eq (hfree : CollisionFree tools) {files others : PackFiles Place}
    {reading other : PackReading} {sectionName signingKey : String}
    (hcontent : artifactContent tools files reading.path = .ok reading.content)
    (hother : artifactContent tools others other.path = .ok other.content)
    (h : reading.signature tools sectionName signingKey = other.signature tools sectionName signingKey) :
    reading = other := by
  obtain ⟨hpackId, hversion, hpath, hschemaVersion, hchecksum⟩ :=
    signatureInput_injective (hfree.hmac_injective signingKey h)
  have hbytes := hfree.sha256_injective hchecksum
  obtain ⟨packId, version, path, schemaVersion, content⟩ := reading
  obtain ⟨otherPackId, otherVersion, otherPath, otherSchemaVersion, otherContent⟩ := other
  dsimp only at hpackId hversion hpath hschemaVersion hbytes hcontent hother
  subst hpackId hversion hpath hschemaVersion
  rw [content_eq_of_canonicalBytes_eq hcontent hother hbytes]

theorem sectionCurrentVersion_spec {matrix : Fields} {sectionName current : String}
    (h : sectionCurrentVersion matrix sectionName = .ok current) : current ≠ "" ∧ strip current = current := by
  rw [sectionCurrentVersion, bind_eq_ok_iff] at h
  obtain ⟨payload, -, h⟩ := h
  have hdefault : ("v1" : String) ≠ "" ∧ strip "v1" = "v1" := ⟨by decide, by decide⟩
  cases payload with
  | obj fields =>
    dsimp only at h
    split_ifs at h with hempty
    · cases h
      exact hdefault
    · cases h
      exact ⟨hempty, strip_strip _⟩
  | _ =>
    cases h
    exact hdefault

theorem inferSchemaVersion_spec {files : PackFiles Place} {entry : Fields}
    {path defaultVersion schemaVersion : String} (hdefault : defaultVersion ≠ "" ∧ strip defaultVersion = defaultVersion)
    (h : inferSchemaVersion tools files entry path defaultVersion = .ok schemaVersion) :
    schemaVersion ≠ "" ∧ strip schemaVersion = schemaVersion := by
  rw [inferSchemaVersion] at h
  split_ifs at h with hentry hpath
  · cases h
    exact ⟨hentry, strip_strip _⟩
  · rw [bind_eq_ok_iff] at h
    obtain ⟨text, -, h⟩ := h
    split at h
    · dsimp only at h
      split_ifs at h with hempty
      · cases h
        exact hdefault
      · cases h
        exact ⟨hempty, strip_strip _⟩
    · cases h
      exact hdefault
  · cases h
    exact hdefault

theorem strippedText_set_of_ne {fields : Fields} {key other : String} (h : other ≠ key) (value : Json)
    (default : String) : strippedText (set fields key value) other default = strippedText fields other default := by
  rw [strippedText, strippedText, getD, getD, get?_set_of_ne h]

theorem strippedText_set_self (fields : Fields) (key text default : String) :
    strippedText (set fields key (.str text)) key default = strip text := by
  rw [strippedText, getD, get?_set_self]
  rfl

theorem computeSignature_eq {files : PackFiles Place} {sectionName signingKey schemaVersion : String}
    {entry : Fields} (hversion : schemaVersion ≠ "" ∧ strip schemaVersion = schemaVersion) :
    computeSignature tools files sectionName (set entry "schema_version" (.str schemaVersion)) signingKey =
      (artifactContent tools files (strippedText entry "path" "")).map fun content ↦
        PackReading.signature tools ⟨strippedText entry "pack_id" "", strippedText entry "version" "",
          strippedText entry "path" "", schemaVersion, content⟩ sectionName signingKey := by
  rw [computeSignature, strippedText_set_of_ne (by decide), strippedText_set_of_ne (by decide),
    strippedText_set_of_ne (by decide), strippedText_set_self, hversion.2, if_neg hversion.1,
    artifactChecksum, artifactCanonicalBytes_eq]
  cases artifactContent tools files (strippedText entry "path" "") <;> rfl

theorem packReading_eq_ok_iff {files : PackFiles Place} {matrix entry : Fields} {sectionName : String}
    {reading : PackReading} : packReading tools files matrix sectionName entry = .ok reading ↔
      reading.packId = strippedText entry "pack_id" "" ∧ reading.version = strippedText entry "version" "" ∧
        reading.path = strippedText entry "path" "" ∧
        (∃ current, sectionCurrentVersion matrix sectionName = .ok current ∧
          inferSchemaVersion tools files entry reading.path current = .ok reading.schemaVersion) ∧
        artifactContent tools files reading.path = .ok reading.content := by
  simp only [packReading, bind_eq_ok_iff, Except.ok.injEq]
  constructor
  · rintro ⟨current, hcurrent, schemaVersion, hversion, content, hcontent, rfl⟩
    exact ⟨rfl, rfl, rfl, ⟨current, hcurrent, hversion⟩, hcontent⟩
  · obtain ⟨packId, version, path, schemaVersion, content⟩ := reading
    rintro ⟨rfl, rfl, rfl, ⟨current, hcurrent, hversion⟩, hcontent⟩
    exact ⟨current, hcurrent, schemaVersion, hversion, content, hcontent, rfl⟩

theorem ne_none_of_artifactContent {files : PackFiles Place} {path : String} {content : ArtifactContent}
    (h : artifactContent tools files path = .ok content) : files (tools.locate path) ≠ none := by
  intro hnone
  rw [artifactContent, hnone] at h
  cases hpath : isJsonPath path <;> rw [hpath] at h <;> cases h

theorem extractEntryFields_errors_eq_nil_iff {entry : Fields} : (extractEntryFields entry).errors = [] ↔
    strippedText entry "pack_id" "" ≠ "" ∧ strippedText entry "version" "" ≠ "" ∧
      strippedText entry "path" "" ≠ "" := by
  rw [extractEntryFields]
  dsimp only
  rw [List.append_eq_nil_iff, List.append_eq_nil_iff, ite_eq_right_iff, ite_eq_right_iff, ite_eq_right_iff]
  simp only [List.cons_ne_nil, imp_false, and_assoc, ne_eq]

variable (tools) in
/-- An entry the signer takes, read so. -/
structure Signable (files : PackFiles Place) (matrix : Fields) (sectionName : String) (entry : Fields)
    (reading : PackReading) : Prop where
  reading_eq : packReading tools files matrix sectionName entry = .ok reading
  packId_ne : reading.packId ≠ ""
  version_ne : reading.version ≠ ""
  path_ne : reading.path ≠ ""
  supported : versionSupported matrix sectionName reading.schemaVersion = .ok true

def signedFields (entry : Fields) (reading : PackReading) (keyId signature : String) : Fields :=
  set (set entry "schema_version" (.str reading.schemaVersion)) "signature"
    (.obj [("algorithm", .str signatureAlgorithm), ("key_id", .str keyId), ("value", .str signature)])

/-- The signer takes an entry without an error exactly where it is signable. -/
theorem signEntry_eq_ok_iff {files : PackFiles Place} {matrix : Fields}
    {signingKey keyId sectionName : String} {entry signed : Json} :
    signEntry tools files matrix signingKey keyId sectionName entry = .ok ([], signed) ↔
      ∃ raw reading, entry = .obj raw ∧ Signable tools files matrix sectionName raw reading ∧
        signed = .obj (signedFields raw reading keyId (reading.signature tools sectionName signingKey)) := by
  constructor
  · intro h
    cases entry with
    | obj raw =>
      rw [signEntry] at h
      dsimp only at h
      split_ifs at h with herrors hnone
      · rw [Except.ok.injEq, Prod.mk.injEq, List.map_eq_nil_iff] at h
        exact absurd h.1 herrors
      · simp at h
      · rw [not_not, extractEntryFields_errors_eq_nil_iff] at herrors
        simp only [bind_eq_ok_iff] at h
        obtain ⟨current, hcurrent, schemaVersion, hversion, supported, hsupported, h⟩ := h
        have hspec := inferSchemaVersion_spec (sectionCurrentVersion_spec hcurrent) hversion
        split_ifs at h with hrefused
        · simp at h
        · simp only [bind_eq_ok_iff, Except.ok.injEq, Prod.mk.injEq, true_and] at h
          obtain ⟨value, hvalue, rfl⟩ := h
          rw [computeSignature_eq hspec, map_eq_ok_iff] at hvalue
          obtain ⟨content, hcontent, rfl⟩ := hvalue
          rw [Bool.not_eq_false] at hrefused
          subst hrefused
          refine ⟨raw, ⟨strippedText raw "pack_id" "", strippedText raw "version" "",
            strippedText raw "path" "", schemaVersion, content⟩, rfl, ⟨?_, herrors.1, herrors.2.1,
              herrors.2.2, hsupported⟩, rfl⟩
          exact packReading_eq_ok_iff.mpr ⟨rfl, rfl, rfl, ⟨current, hcurrent, hversion⟩, hcontent⟩
    | _ => simp [signEntry] at h
  · rintro ⟨raw, reading, rfl, hsignable, rfl⟩
    obtain ⟨hpackId, hversion, hpath, ⟨current, hcurrent, hinfer⟩, hcontent⟩ :=
      packReading_eq_ok_iff.mp hsignable.reading_eq
    have hspec := inferSchemaVersion_spec (sectionCurrentVersion_spec hcurrent) hinfer
    have herrors : (extractEntryFields raw).errors = [] := extractEntryFields_errors_eq_nil_iff.mpr
      ⟨hpackId ▸ hsignable.packId_ne, hversion ▸ hsignable.version_ne, hpath ▸ hsignable.path_ne⟩
    have hfile : files (tools.locate (extractEntryFields raw).path) ≠ none := by
      have hne := ne_none_of_artifactContent hcontent
      rwa [hpath] at hne
    have hextracted : (extractEntryFields raw).path = reading.path := hpath.symm
    rw [signEntry]
    dsimp only
    rw [if_neg (not_not.mpr herrors), if_neg hfile, hcurrent, ok_bind, hextracted, hinfer, ok_bind,
      hsignable.supported, ok_bind, if_neg (by decide), computeSignature_eq hspec, ← hpath, hcontent]
    rw [Except.map, ok_bind, signedFields, ← hpackId, ← hversion]

/-- The schema version of a reading is the current one, or one there is a migration from. -/
def Migratable (matrix : Fields) (sectionName schemaVersion : String) : Prop :=
  ∃ current, sectionCurrentVersion matrix sectionName = .ok current ∧
    (schemaVersion = current ∨ hasMigrationPath matrix sectionName schemaVersion current = true)

/-- An entry holds a signature of a reading, under a key with a name. -/
def HoldsSignature (entry : Fields) (signature : String) : Prop :=
  ∃ fields, get? entry "signature" = some (.obj fields) ∧
    strippedText fields "algorithm" "" = signatureAlgorithm ∧ strippedText fields "key_id" "" ≠ "" ∧
    strippedText fields "value" "" = signature

theorem signatureErrors_eq_nil_iff (hfree : CollisionFree tools) {files : PackFiles Place}
    {sectionName packId schemaVersion signingKey : String} {entry : Fields}
    (hversion : schemaVersion ≠ "" ∧ strip schemaVersion = schemaVersion) :
    signatureErrors tools files sectionName entry packId schemaVersion signingKey = .ok [] ↔
      ∃ content, artifactContent tools files (strippedText entry "path" "") = .ok content ∧
        HoldsSignature entry (PackReading.signature tools ⟨strippedText entry "pack_id" "",
          strippedText entry "version" "", strippedText entry "path" "", schemaVersion, content⟩
          sectionName signingKey) := by
  have hhex : ∀ (reading : PackReading) sectionName,
      IsHexText (reading.signature tools sectionName signingKey) := fun _ _ ↦ hfree.hmac_hex _ _
  rw [signatureErrors]
  constructor
  · intro h
    cases hsignature : (get? entry "signature").bind asObj? with
    | none => simp [hsignature] at h
    | some fields =>
      obtain ⟨value, hvalue, hobj⟩ := Option.bind_eq_some_iff.mp hsignature
      rw [asObj?_eq_some_iff.mp hobj] at hvalue
      rw [hsignature] at h
      dsimp only at h
      by_cases hchecked : strippedText fields "algorithm" "" = signatureAlgorithm ∧
          strippedText fields "value" "" ≠ ""
      · rw [if_pos hchecked, computeSignature_eq hversion] at h
        simp only [bind_eq_ok_iff, Except.ok.injEq, map_eq_ok_iff, List.append_eq_nil_iff,
          ite_eq_right_iff, ite_eq_left_iff, List.cons_ne_nil, imp_false, Bool.not_eq_true,
          Bool.not_eq_false] at h
        obtain ⟨-, ⟨content, hcontent, rfl⟩, verified, hverified, ⟨⟨-, hkeyId⟩, -⟩, rfl⟩ := h
        exact ⟨content, hcontent, fields, hvalue, hchecked.1, hkeyId,
          (compareDigest_eq_true_iff (hhex _ _)).mp hverified⟩
      · rw [if_neg hchecked] at h
        simp only [Except.ok.injEq, List.append_eq_nil_iff, ite_eq_right_iff, ite_eq_left_iff,
          List.cons_ne_nil, imp_false, not_not] at h
        exact absurd ⟨h.1.1, h.2⟩ hchecked
  · rintro ⟨content, hcontent, fields, hfields, halgorithm, hkeyId, hvalue⟩
    have hne := (hhex ⟨strippedText entry "pack_id" "", strippedText entry "version" "",
      strippedText entry "path" "", schemaVersion, content⟩ sectionName).1
    rw [hfields, Option.bind_some, asObj?]
    dsimp only
    rw [hvalue, if_pos halgorithm, if_neg hkeyId, if_neg hne, if_pos ⟨halgorithm, hne⟩,
      computeSignature_eq hversion, hcontent, Except.map, ok_bind,
      (compareDigest_eq_true_iff (hhex _ _)).mpr rfl, ok_bind]
    rfl

theorem validateRegistryEntry_eq_nil_iff (hfree : CollisionFree tools) {files : PackFiles Place}
    {matrix entry : Fields} {sectionName signingKey : String} (hsigned : sectionName ∈ signedSections) :
    validateRegistryEntry tools files matrix sectionName entry signingKey = .ok [] ↔
      ∃ reading, Signable tools files matrix sectionName entry reading ∧
        Migratable matrix sectionName reading.schemaVersion ∧
        HoldsSignature entry (reading.signature tools sectionName signingKey) := by
  constructor
  · intro h
    rw [validateRegistryEntry] at h
    dsimp only at h
    split_ifs at h with hpath hnone
    · rw [Except.ok.injEq, List.map_eq_nil_iff, extractEntryFields_errors_eq_nil_iff] at h
      exact absurd hpath h.2.2
    · simp at h
    · simp only [bind_eq_ok_iff, Except.ok.injEq, List.append_eq_nil_iff, List.map_eq_nil_iff] at h
      obtain ⟨current, hcurrent, schemaVersion, hinfer, supported, hsupported, more, hmore,
        ⟨herrors, hversions⟩, rfl⟩ := h
      rw [extractEntryFields_errors_eq_nil_iff] at herrors
      have hspec := inferSchemaVersion_spec (sectionCurrentVersion_spec hcurrent) hinfer
      obtain ⟨content, hcontent, hholds⟩ := (signatureErrors_eq_nil_iff hfree hspec).mp hmore
      split_ifs at hversions with hrefused hmissing
      rw [Bool.not_eq_false] at hrefused
      subst hrefused
      refine ⟨⟨strippedText entry "pack_id" "", strippedText entry "version" "",
        strippedText entry "path" "", schemaVersion, content⟩, ⟨?_, herrors.1, herrors.2.1, herrors.2.2,
          hsupported⟩, ⟨current, hcurrent, ?_⟩, hholds⟩
      · exact packReading_eq_ok_iff.mpr ⟨rfl, rfl, rfl, ⟨current, hcurrent, hinfer⟩, hcontent⟩
      · by_contra hnot
        rw [not_or, Bool.not_eq_true] at hnot
        exact hmissing hnot
  · rintro ⟨reading, hsignable, ⟨current, hcurrent, hmigration⟩, hholds⟩
    obtain ⟨hpackId, hversion, hpath, ⟨same, hsame, hinfer⟩, hcontent⟩ :=
      packReading_eq_ok_iff.mp hsignable.reading_eq
    rw [hcurrent, Except.ok.injEq] at hsame
    subst hsame
    have hspec := inferSchemaVersion_spec (sectionCurrentVersion_spec hcurrent) hinfer
    have herrors : (extractEntryFields entry).errors = [] := extractEntryFields_errors_eq_nil_iff.mpr
      ⟨hpackId ▸ hsignable.packId_ne, hversion ▸ hsignable.version_ne, hpath ▸ hsignable.path_ne⟩
    have hfile : files (tools.locate reading.path) ≠ none := ne_none_of_artifactContent hcontent
    have hextracted : (extractEntryFields entry).path = reading.path := hpath.symm
    have hmore : signatureErrors tools files sectionName entry (extractEntryFields entry).packId
        reading.schemaVersion signingKey = .ok [] := by
      refine (signatureErrors_eq_nil_iff hfree hspec).mpr ⟨reading.content, hpath ▸ hcontent, ?_⟩
      rw [← hpackId, ← hversion, ← hpath]
      exact hholds
    have hallowed : ¬(reading.schemaVersion ≠ current ∧
        hasMigrationPath matrix sectionName reading.schemaVersion current = false) := by
      rintro ⟨hne, hnone⟩
      rcases hmigration with heq | hfound
      · exact hne heq
      · rw [hnone] at hfound
        cases hfound
    rw [validateRegistryEntry]
    dsimp only
    rw [hextracted, if_neg hsignable.path_ne, if_neg hfile, hcurrent, ok_bind, hinfer, ok_bind,
      hsignable.supported, ok_bind, if_pos hsigned, hmore, ok_bind, herrors, if_neg (by decide),
      if_neg hallowed]
    rfl

theorem sectionEntries_congr {payload other : Fields} {sectionName : String}
    (h : get? other sectionName = get? payload sectionName) :
    sectionEntries other sectionName = sectionEntries payload sectionName := by
  rw [sectionEntries, sectionEntries, getD, getD, h]

theorem sectionEntries_set (payload : Fields) (sectionName : String) (entries : List Json) :
    sectionEntries (set payload sectionName (.arr entries)) sectionName = some entries := by
  rw [sectionEntries, getD, get?_set_self]
  rfl

theorem regular_of_get? {reader : FloatReader} {fields : Fields} (h : Regular reader (.obj fields))
    {key : String} {value : Json} (hget : get? fields key = some value) : Regular reader value := by
  obtain ⟨before, after, hfields, -⟩ := List.lookup_eq_some_iff.mp hget
  exact regularFields_iff.mp h.2 (key, value) (by rw [hfields]; simp)

theorem regular_of_mem_sectionEntries {reader : FloatReader} {payload : Fields}
    (h : Regular reader (.obj payload)) {sectionName : String} {entries : List Json}
    (hentries : sectionEntries payload sectionName = some entries) {entry : Json} (hentry : entry ∈ entries) :
    Regular reader entry := by
  rw [sectionEntries, getD] at hentries
  cases hvalue : get? payload sectionName with
  | none =>
    rw [hvalue] at hentries
    cases hentries
    exact absurd hentry List.not_mem_nil
  | some value =>
    rw [hvalue, Option.getD_some] at hentries
    cases value with
    | arr items =>
      cases hentries
      exact regularItems_iff.mp (regular_of_get? h hvalue) entry hentry
    | _ => cases hentries

/-- A signed entry is a value that Python holds. -/
theorem regular_signEntry {files : PackFiles Place} {matrix : Fields} {signingKey keyId sectionName : String}
    {entry signed : Json} (hregular : Regular tools.reader entry)
    (h : signEntry tools files matrix signingKey keyId sectionName entry = .ok ([], signed)) :
    Regular tools.reader signed := by
  obtain ⟨raw, reading, rfl, -, rfl⟩ := signEntry_eq_ok_iff.mp h
  have hversion : Regular tools.reader (.str reading.schemaVersion) := trivial
  refine regular_set (regular_set hregular _ hversion) _ ⟨?_, trivial, trivial, trivial, trivial⟩
  change ["algorithm", "key_id", "value"].Nodup
  decide

variable (tools) in
/-- The entries of a section with those they are signed as. -/
def SignedSection (files : PackFiles Place) (matrix : Fields) (signingKey keyId : String)
    (payload signed : Fields) (sectionName : String) : Prop :=
  ∃ entries others, sectionEntries payload sectionName = some entries ∧
    sectionEntries signed sectionName = some others ∧ List.Forall₂ (fun entry other ↦
      signEntry tools files matrix signingKey keyId sectionName entry = .ok ([], other)) entries others

theorem signSection_spec {files : PackFiles Place} {matrix : Fields} {signingKey keyId sectionName : String}
    {progress : List String × Fields} {signed : Fields}
    (h : signSection tools files matrix signingKey keyId progress sectionName = .ok ([], signed)) :
    progress.1 = [] ∧ (∀ key ≠ sectionName, get? signed key = get? progress.2 key) ∧
      SignedSection tools files matrix signingKey keyId progress.2 signed sectionName ∧
      (Regular tools.reader (.obj progress.2) → Regular tools.reader (.obj signed)) := by
  rw [signSection] at h
  cases hentries : sectionEntries progress.2 sectionName with
  | none => simp [hentries] at h
  | some entries =>
    simp only [hentries, bind_eq_ok_iff, mapM_eq_ok_iff, Except.ok.injEq, Prod.mk.injEq,
      List.append_eq_nil_iff, List.flatMap_eq_nil_iff] at h
    obtain ⟨results, hresults, ⟨hbefore, herrors⟩, rfl⟩ := h
    have hsigned : List.Forall₂ (fun entry other ↦
        signEntry tools files matrix signingKey keyId sectionName entry = .ok ([], other)) entries
        (results.map Prod.snd) := by
      rw [List.forall₂_map_right_iff]
      refine forall₂_imp_of_mem hresults fun entry _ result hmem hresult ↦ ?_
      rw [hresult, ← herrors result hmem]
    refine ⟨hbefore, fun key hkey ↦ ?_, ⟨entries, results.map Prod.snd, hentries, ?_, hsigned⟩,
      fun hregular ↦ ?_⟩
    · split_ifs
      · rfl
      · exact get?_set_of_ne hkey _ _
    · split_ifs with hempty
      · subst hempty
        rw [hentries, List.forall₂_nil_left_iff.mp hsigned]
      · exact sectionEntries_set _ _ _
    · split_ifs
      · exact hregular
      · refine regular_set hregular _ (regularItems_iff.mpr fun other hother ↦ ?_)
        obtain ⟨entry, hentry, hsign⟩ := exists_mem_of_forall₂ hsigned.flip hother
        exact regular_signEntry (regular_of_mem_sectionEntries hregular hentries hentry) hsign

theorem foldlM_signSection {files : PackFiles Place} {matrix : Fields} {signingKey keyId : String}
    {names : List String} (hnodup : names.Nodup) : ∀ {progress : List String × Fields} {signed : Fields},
    names.foldlM (signSection tools files matrix signingKey keyId) progress = .ok ([], signed) →
      progress.1 = [] ∧ (∀ key ∉ names, get? signed key = get? progress.2 key) ∧
        (∀ sectionName ∈ names,
          SignedSection tools files matrix signingKey keyId progress.2 signed sectionName) ∧
        (Regular tools.reader (.obj progress.2) → Regular tools.reader (.obj signed)) := by
  induction names with
  | nil =>
    intro progress signed h
    cases h
    exact ⟨rfl, fun _ _ ↦ rfl, by simp, id⟩
  | cons first rest ih =>
    intro progress signed h
    rw [List.nodup_cons] at hnodup
    rw [List.foldlM_cons, bind_eq_ok_iff] at h
    obtain ⟨⟨errors, middle⟩, hfirst, hrest⟩ := h
    obtain ⟨herrors, hothers, hsections, hregular⟩ := ih hnodup.2 hrest
    dsimp only at herrors hothers hsections hregular
    subst herrors
    obtain ⟨hbefore, hkept, hsection, hregularFirst⟩ := signSection_spec hfirst
    refine ⟨hbefore, fun key hkey ↦ ?_, List.forall_mem_cons.mpr ⟨?_, fun sectionName hmem ↦ ?_⟩,
      hregular ∘ hregularFirst⟩
    · rw [List.mem_cons, not_or] at hkey
      rw [hothers key hkey.2, hkept key hkey.1]
    · obtain ⟨entries, others, hentries, hsigned, hall⟩ := hsection
      exact ⟨entries, others, hentries, by rw [sectionEntries_congr (hothers first hnodup.1), hsigned],
        hall⟩
    · obtain ⟨entries, others, hentries, hsigned, hall⟩ := hsections sectionName hmem
      have hne : sectionName ≠ first := by
        rintro rfl
        exact hnodup.1 hmem
      exact ⟨entries, others, by rw [← hentries, sectionEntries_congr (hkept sectionName hne)], hsigned,
        hall⟩

theorem loads_canonicalJson {reader : FloatReader} {payload : Fields} (h : Regular reader (.obj payload)) :
    loads reader (canonicalJson (.obj payload)) = some (.obj (readBack payload)) := by
  obtain ⟨hlegible, hmerged⟩ := merged_of_regular (regular_canon h)
  have htext : canonicalJson (.obj payload) =
      String.ofList (render indented 0 (canon (.obj payload)) ++ (newLine 0).1) := by
    rw [canonicalJson, dumpsIn, String.ofList_append]
    rfl
  rw [htext, loads_render_blanks indented hlegible, hmerged, canon_obj]

variable (tools) in
def HoldsObject (files : PackFiles Place) (place : Place) (payload : Fields) : Prop :=
  ∃ text, files place = some (.file (.text text)) ∧ loads tools.reader text = some (.obj payload)

theorem readText_eq_ok_iff {node : Option PackNode} {text : String} :
    readText node = .ok text ↔ node = some (.file (.text text)) := by
  constructor
  · intro h
    obtain ⟨bytes, hbytes, h⟩ := (bind_eq_ok_iff _ _ _).mp h
    cases node with
    | none => cases hbytes
    | some found =>
      cases found with
      | directory => cases hbytes
      | file content =>
        cases hbytes
        cases bytes with
        | binary content => cases h
        | text content =>
          cases h
          rfl
  · rintro rfl
    rfl

theorem HoldsObject.unique {files : PackFiles Place} {place : Place} {payload other : Fields}
    (h : HoldsObject tools files place payload)
    (hother : HoldsObject tools files place other) : other = payload := by
  obtain ⟨text, hfile, hloads⟩ := h
  obtain ⟨same, hsame, hloadsSame⟩ := hother
  rw [hfile] at hsame
  cases hsame
  rw [hloads] at hloadsSame
  cases hloadsSame
  rfl

theorem loadObject_eq_some_iff {files : PackFiles Place} {path what : String}
    {errorsOf : Fields → List String} {payload : Fields} {errors : List String} :
    loadObject tools files path what errorsOf = .ok (some payload, errors) ↔
      HoldsObject tools files (tools.locate path) payload ∧ errors = errorsOf payload := by
  rw [loadObject]
  constructor
  · intro h
    cases hnode : files (tools.locate path) with
    | none => simp [hnode] at h
    | some node =>
      simp only [hnode, bind_eq_ok_iff] at h
      obtain ⟨text, htext, h⟩ := h
      rw [readText_eq_ok_iff, Option.some.injEq] at htext
      subst htext
      rw [decodeJson] at h
      cases hloads : loads tools.reader text with
      | none => simp [hloads] at h
      | some value =>
        cases value with
        | obj fields =>
          simp only [hloads, Except.ok.injEq, Prod.mk.injEq, Option.some.injEq] at h
          obtain ⟨rfl, rfl⟩ := h
          exact ⟨⟨text, hnode, hloads⟩, rfl⟩
        | _ => simp [hloads] at h
  · rintro ⟨⟨text, hfile, hloads⟩, rfl⟩
    rw [hfile]
    dsimp only
    rw [readText_eq_ok_iff.mpr rfl, ok_bind, decodeJson, hloads]

theorem loadObject_none_errors {files : PackFiles Place} {path what : String}
    {errorsOf : Fields → List String} {errors : List String}
    (h : loadObject tools files path what errorsOf = .ok (none, errors)) : errors ≠ [] := by
  rw [loadObject] at h
  cases hnode : files (tools.locate path) with
  | none =>
    simp only [hnode, Except.ok.injEq, Prod.mk.injEq, true_and] at h
    exact h ▸ List.cons_ne_nil _ _
  | some node =>
    simp only [hnode, bind_eq_ok_iff] at h
    obtain ⟨text, -, h⟩ := h
    split at h
    · simp only [Except.ok.injEq, Prod.mk.injEq, true_and] at h
      exact h ▸ List.cons_ne_nil _ _
    · simp at h
    · simp only [Except.ok.injEq, Prod.mk.injEq, true_and] at h
      exact h ▸ List.cons_ne_nil _ _

section Signing

variable [DecidableEq Place] {files after : PackFiles Place}
  {registryPath matrixPath signingKey keyId : String}

/-- What a signer that reports no error has done. -/
theorem signPackRegistry_spec
    (h : signPackRegistry tools files registryPath matrixPath signingKey keyId = .ok ([], after)) :
    ∃ payload matrix signed, HoldsObject tools files (tools.locate registryPath) payload ∧
      registryErrors payload = [] ∧ HoldsObject tools files (tools.locate matrixPath) matrix ∧
      SoundMatrix matrix ∧ signedSections.foldlM (signSection tools files matrix signingKey keyId)
        ([], payload) = .ok ([], signed) ∧
      after = Function.update files (tools.locate registryPath)
        (some (.file (.text (canonicalJson (.obj signed))))) := by
  simp only [signPackRegistry, bind_eq_ok_iff] at h
  obtain ⟨⟨payload?, errors⟩, hpayload, ⟨matrix?, moreErrors⟩, hmatrix, h⟩ := h
  dsimp only at h
  cases payload? with
  | none =>
    simp only [Except.ok.injEq, Prod.mk.injEq, List.append_eq_nil_iff] at h
    exact absurd h.1.1 (loadObject_none_errors hpayload)
  | some payload =>
    cases matrix? with
    | none =>
      simp only [Except.ok.injEq, Prod.mk.injEq, List.append_eq_nil_iff] at h
      exact absurd h.1.2 (loadObject_none_errors hmatrix)
    | some matrix =>
      simp only [bind_eq_ok_iff] at h
      obtain ⟨⟨all, signed⟩, hfold, h⟩ := h
      dsimp only at h
      split_ifs at h with hall
      · simp only [Except.ok.injEq, Prod.mk.injEq] at h
        exact absurd h.1 hall
      · rw [not_not] at hall
        subst hall
        simp only [Except.ok.injEq, Prod.mk.injEq, true_and] at h
        obtain ⟨hpayloadHeld, rfl⟩ := loadObject_eq_some_iff.mp hpayload
        obtain ⟨hmatrixHeld, rfl⟩ := loadObject_eq_some_iff.mp hmatrix
        have hnone := (foldlM_signSection (by decide) hfold).1
        rw [List.append_eq_nil_iff] at hnone
        rw [hnone.1, hnone.2, List.append_nil] at hfold
        exact ⟨payload, matrix, signed, hpayloadHeld, hnone.1, hmatrixHeld,
          matrixErrors_eq_nil_iff.mp hnone.2, hfold, h.symm⟩

theorem holdsObject_after_signing {payload matrix signed : Fields}
    (hpayload : HoldsObject tools files (tools.locate registryPath) payload)
    (hmatrix : HoldsObject tools files (tools.locate matrixPath) matrix)
    (hregular : Regular tools.reader (.obj signed))
    (hkept : ∀ key ∉ signedSections, get? signed key = get? payload key)
    (hafter : after = Function.update files (tools.locate registryPath)
      (some (.file (.text (canonicalJson (.obj signed)))))) :
    HoldsObject tools after (tools.locate registryPath) (readBack signed) ∧
      ∃ other, HoldsObject tools after (tools.locate matrixPath) other ∧ SameMatrix matrix other := by
  have hregistry : HoldsObject tools after (tools.locate registryPath) (readBack signed) :=
    ⟨_, by rw [hafter, Function.update_self], loads_canonicalJson hregular⟩
  refine ⟨hregistry, ?_⟩
  by_cases hplace : tools.locate matrixPath = tools.locate registryPath
  · rw [hplace] at hmatrix ⊢
    have hsame := hpayload.unique hmatrix
    subst hsame
    refine ⟨readBack signed, hregistry, fun key hkey ↦ ?_⟩
    have hother : key ∉ signedSections := by
      intro hmem
      revert key
      decide
    have hback := sameField_readBack signed key
    rw [SameField, hkept key hother] at hback
    exact hback
  · refine ⟨matrix, ?_, fun key _ ↦ rfl⟩
    obtain ⟨text, hfile, hloads⟩ := hmatrix
    exact ⟨text, by rw [hafter, Function.update_of_ne hplace, hfile], hloads⟩

end Signing

theorem isPlain_of_mem_signedSections : ∀ sectionName ∈ signedSections, IsPlain sectionName := by
  rw [signedSections, List.forall_mem_cons, List.forall_mem_cons, List.forall_mem_singleton]
  exact ⟨⟨by decide, by decide⟩, ⟨by decide, by decide⟩, by decide, by decide⟩

section Entries

variable {files after : PackFiles Place} {matrix other raw : Fields} {reading : PackReading}
  {sectionName signingKey keyId : String}

/-- The texts a signature covers are those of the entry before. -/
theorem strippedText_signedFields {key signature : String} (hversion : key ≠ "schema_version")
    (hsignature : key ≠ "signature") :
    strippedText (readBack (signedFields raw reading keyId signature)) key "" =
      strippedText (readBack raw) key "" := by
  rw [strippedText, strippedText, getD, getD, get?_readBack, get?_readBack, signedFields,
    get?_set_of_ne hsignature, get?_set_of_ne hversion]

theorem schemaVersion_signedFields {signature : String}
    (hversion : strip reading.schemaVersion = reading.schemaVersion) :
    strippedText (readBack (signedFields raw reading keyId signature)) "schema_version" "" =
      reading.schemaVersion := by
  have hget : get? (signedFields raw reading keyId signature) "schema_version" =
      some (.str reading.schemaVersion) := by
    rw [signedFields, get?_set_of_ne (by decide), get?_set_self]
  rw [strippedText_readBack "" hget, hversion]

theorem holdsSignature_signedFields_iff {signature expected : String}
    (hstrip : strip signature = signature) :
    HoldsSignature (readBack (signedFields raw reading keyId signature)) expected ↔
      strip keyId ≠ "" ∧ signature = expected := by
  have hget : get? (readBack (signedFields raw reading keyId signature)) "signature" =
      some (.obj (readBack [("algorithm", .str signatureAlgorithm), ("key_id", .str keyId),
        ("value", .str signature)])) := by
    rw [get?_readBack, signedFields, get?_set_self, Option.map_some, canon_obj]
  rw [HoldsSignature, hget]
  have halgorithm : strippedText (readBack [("algorithm", .str signatureAlgorithm), ("key_id", .str keyId),
      ("value", .str signature)]) "algorithm" "" = signatureAlgorithm :=
    (strippedText_readBack "" rfl).trans (by decide)
  have hkeyId : strippedText (readBack [("algorithm", .str signatureAlgorithm), ("key_id", .str keyId),
      ("value", .str signature)]) "key_id" "" = strip keyId := strippedText_readBack "" rfl
  have hvalue : strippedText (readBack [("algorithm", .str signatureAlgorithm), ("key_id", .str keyId),
      ("value", .str signature)]) "value" "" = signature := (strippedText_readBack "" rfl).trans hstrip
  constructor
  · rintro ⟨fields, hfields, -, hne, hexpected⟩
    rw [Option.some.injEq, Json.obj.injEq] at hfields
    subst hfields
    rw [hkeyId] at hne
    rw [hvalue] at hexpected
    exact ⟨hne, hexpected⟩
  · rintro ⟨hne, rfl⟩
    exact ⟨_, rfl, halgorithm, hkeyId.symm ▸ hne, hvalue⟩

/-- The texts of an entry do not depend on the order of fields within them. -/
def StableTexts (entry : Fields) : Prop :=
  ∀ key ∈ ["pack_id", "version", "path"],
    strippedText (readBack entry) key "" = strippedText entry key ""

instance (entry : Fields) : Decidable (StableTexts entry) := inferInstanceAs (Decidable (∀ key ∈ _, _))

/-- A signed entry is accepted exactly where the key has a name, its version can be migrated, its texts are stable,
and its artifact says what it said. -/
theorem validateRegistryEntry_signed_iff (hfree : CollisionFree tools) (hsound : SoundMatrix matrix)
    (hsame : SameMatrix matrix other) (hsigned : sectionName ∈ signedSections)
    (hsignable : Signable tools files matrix sectionName raw reading) :
    validateRegistryEntry tools after other sectionName (readBack (signedFields raw reading keyId
        (reading.signature tools sectionName signingKey))) signingKey = .ok [] ↔
      strip keyId ≠ "" ∧ Migratable matrix sectionName reading.schemaVersion ∧ StableTexts raw ∧
        artifactContent tools after reading.path = artifactContent tools files reading.path := by
  have hhex : IsHexText (reading.signature tools sectionName signingKey) := hfree.hmac_hex _ _
  have hplain := isPlain_of_mem_signedSections sectionName hsigned
  obtain ⟨hpackId, hversion, hpath, ⟨current, hcurrent, hinfer⟩, hcontent⟩ :=
    packReading_eq_ok_iff.mp hsignable.reading_eq
  have hspec := inferSchemaVersion_spec (sectionCurrentVersion_spec hcurrent) hinfer
  rw [validateRegistryEntry_eq_nil_iff hfree hsigned]
  have hholds := @holdsSignature_signedFields_iff raw reading keyId
    (reading.signature tools sectionName signingKey)
  have hentryVersion := @schemaVersion_signedFields raw reading keyId
    (reading.signature tools sectionName signingKey) hspec.2
  have htexts : StableTexts raw ↔
      (strippedText (readBack (signedFields raw reading keyId
          (reading.signature tools sectionName signingKey))) "pack_id" "" = reading.packId ∧
        strippedText (readBack (signedFields raw reading keyId
          (reading.signature tools sectionName signingKey))) "version" "" = reading.version) ∧
        strippedText (readBack (signedFields raw reading keyId
          (reading.signature tools sectionName signingKey))) "path" "" = reading.path := by
    rw [strippedText_signedFields (by decide) (by decide), strippedText_signedFields (by decide) (by decide),
      strippedText_signedFields (by decide) (by decide), hpackId, hversion, hpath, StableTexts,
      List.forall_mem_cons, List.forall_mem_cons, List.forall_mem_singleton, and_assoc]
  have hmigratable : Migratable other sectionName reading.schemaVersion ↔
      Migratable matrix sectionName reading.schemaVersion := by
    rw [Migratable, Migratable, hsound.sectionCurrentVersion_eq hsame]
    simp only [hsound.hasMigrationPath_eq hsame hplain]
  rw [htexts]
  clear htexts
  generalize readBack (signedFields raw reading keyId (reading.signature tools sectionName signingKey)) =
    signed at *
  constructor
  · rintro ⟨found, hfound, hfoundMigratable, hfoundHolds⟩
    obtain ⟨hkeyId, hsignature⟩ := (hholds (strip_of_isHexText hhex)).mp hfoundHolds
    obtain ⟨hfoundPackId, hfoundVersion, hfoundPath, -, hfoundContent⟩ :=
      packReading_eq_ok_iff.mp hfound.reading_eq
    have heq := reading_eq_of_signature_eq hfree hcontent hfoundContent hsignature
    subst heq
    exact ⟨hkeyId, hmigratable.mp hfoundMigratable,
      ⟨⟨hfoundPackId.symm, hfoundVersion.symm⟩, hfoundPath.symm⟩, hfoundContent.trans hcontent.symm⟩
  · rintro ⟨hkeyId, hmigration, ⟨⟨hsamePackId, hsameVersion⟩, hsamePath⟩, hsameContent⟩
    have hread : packReading tools after other sectionName signed = .ok reading := by
      refine packReading_eq_ok_iff.mpr ⟨hsamePackId.symm, hsameVersion.symm, hsamePath.symm,
        ⟨current, ?_, ?_⟩, hsameContent.trans hcontent⟩
      · rw [hsound.sectionCurrentVersion_eq hsame, hcurrent]
      · rw [inferSchemaVersion, hentryVersion, if_pos hspec.1]
    refine ⟨reading, ⟨hread, hsignable.packId_ne, hsignable.version_ne, hsignable.path_ne, ?_⟩,
      hmigratable.mpr hmigration, (hholds (strip_of_isHexText hhex)).mpr ⟨hkeyId, rfl⟩⟩
    rw [hsound.versionSupported_eq hsame, hsignable.supported]

end Entries

/-- Validation that reports nothing accepts every entry of the signed sections. -/
theorem validateRegistryEntry_of_validated {files : PackFiles Place} {registryPath matrixPath signingKey : String}
    {payload matrix : Fields} (hpayload : HoldsObject tools files (tools.locate registryPath) payload)
    (hmatrix : HoldsObject tools files (tools.locate matrixPath) matrix)
    (h : validatePackRegistry tools files registryPath matrixPath signingKey = .ok []) {sectionName : String}
    (hsigned : sectionName ∈ signedSections) {entries : List Json}
    (hentries : sectionEntries payload sectionName = some entries) {entry : Fields}
    (hentry : .obj entry ∈ entries) :
    validateRegistryEntry tools files matrix sectionName entry signingKey = .ok [] := by
  have hget : get? payload sectionName = some (.arr entries) := by
    rw [sectionEntries, getD] at hentries
    cases hvalue : get? payload sectionName with
    | none =>
      rw [hvalue] at hentries
      cases hentries
      exact absurd hentry List.not_mem_nil
    | some value =>
      rw [hvalue, Option.getD_some] at hentries
      cases value with
      | arr items =>
        cases hentries
        rfl
      | _ => cases hentries
  have hsuffix : ∀ name ∈ signedSections, "_packs".toList <:+ name.toList ∨ "_examples".toList <:+ name.toList := by
    decide
  have hfield : (sectionName, Json.arr entries) ∈ extractSections payload := by
    obtain ⟨before, rest, hfields, -⟩ := List.lookup_eq_some_iff.mp hget
    exact List.mem_filter.mpr ⟨by rw [hfields]; simp, decide_eq_true (hsuffix sectionName hsigned)⟩
  rw [validatePackRegistry, loadRegistry, loadObject_eq_some_iff.mpr ⟨hpayload, rfl⟩, ok_bind] at h
  dsimp only at h
  rw [loadCompatibilityMatrix, loadObject_eq_some_iff.mpr ⟨hmatrix, rfl⟩, ok_bind] at h
  simp only [bind_eq_ok_iff, mapM_eq_ok_iff, Except.ok.injEq, List.append_eq_nil_iff,
    List.flatten_eq_nil_iff] at h
  obtain ⟨results, hresults, -, hnone⟩ := h
  obtain ⟨result, hresult, hsection⟩ := exists_mem_of_forall₂ hresults hfield
  rw [hnone result hresult] at hsection
  simp only [validateSection, map_eq_ok_iff, mapM_eq_ok_iff, List.flatten_eq_nil_iff] at hsection
  obtain ⟨entryResults, hentryResults, hentryNone⟩ := hsection
  obtain ⟨index, hindex⟩ := List.getElem?_of_mem hentry
  obtain ⟨entryResult, hmem, hvalidated⟩ := exists_mem_of_forall₂ hentryResults
    (List.mk_mem_zipIdx_iff_getElem?.mpr hindex)
  rw [hentryNone entryResult hmem] at hvalidated
  exact hvalidated

/-- What an artifact says depends on the file alone. -/
theorem artifactContent_congr {files others : PackFiles Place} {path : String}
    (h : others (tools.locate path) = files (tools.locate path)) :
    artifactContent tools others path = artifactContent tools files path := by
  rw [artifactContent, artifactContent, h]

end SchemaPilot.Tools
