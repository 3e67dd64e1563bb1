import SchemaPilot.Library.DigitRun
import SchemaPilot.Library.Except
import SchemaPilot.Library.FloatLiteral
import SchemaPilot.Library.Lines
import SchemaPilot.Library.Substitution
import SchemaPilot.SharedDomain.ArtifactCrypto

/-!
# Settings files

The YAML reader of `backend/shared_domain/config.py`: a line is cut at its first number sign, split at its first
colon and its value read as a scalar. The cut does not see quotes, so a file of quoted values is read as
written exactly when no value holds a number sign and no key a line break (`readsAs_settingsFile_iff`).
-/

namespace SchemaPilot.SharedDomain

open Library Library.Text

/-! ### The reader -/

inductive SettingsError where
  /-- `StartupConfigurationError`. -/
  | startupConfiguration (message : String) (details : Fields)
  /-- A `ValueError` of `int` or `float`. -/
  | valueError

variable {reader : Json.FloatReader} (rounding : FloatRounding reader)

/-- `re.fullmatch(r"-?\d+", text)`. -/
def isIntText (chars : List Char) : Bool :=
  let digits := if chars.head? = some '-' then chars.drop 1 else chars
  !digits.isEmpty && digits.all fun c ↦ (Json.digitValue? c).isSome

/-- `re.fullmatch(r"-?\d+\.\d+", text)`. -/
def isDecimalText (chars : List Char) : Bool :=
  let fraction := (chars.dropWhile (· != '.')).drop 1
  isIntText (chars.takeWhile (· != '.')) && isIntText fraction && fraction.head? != some '-'

/-- `text[1:-1]`. -/
def unwrapped (chars : List Char) : List Char := (chars.drop 1).dropLast

/-- A text starts with one character and ends with another. -/
def isWrapped (first last : Char) (chars : List Char) : Bool :=
  chars.head? == some first && chars.getLast? == some last

/-- `text.strip(mark)`, for a text of one character. -/
def stripMark (mark : Char) (chars : List Char) : List Char :=
  (chars.dropWhile (· == mark)).rdropWhile (· == mark)

/-- `_parse_yaml_scalar`. -/
def parseYamlScalar (raw : List Char) : Except SettingsError Json :=
  let lowered := String.ofList (lowerChars raw)
  if raw = [] then .ok (.str "")
  else if lowered ∈ ["null", "~"] then .ok .null
  else if lowered ∈ ["true", "false"] then .ok (.bool (lowered = "true"))
  else if isWrapped '"' '"' raw then .ok (.str (String.ofList (unwrapped raw)))
  else if isWrapped '\'' '\'' raw then .ok (.str (String.ofList (unwrapped raw)))
  else if isWrapped '[' ']' raw then
    let items := (((unwrapped raw).splitOn ',').map stripChars).filter (· ≠ [])
    .ok (.arr (items.map fun item ↦ .str (String.ofList (stripMark '\'' (stripMark '"' item)))))
  else if isIntText raw then
    match Json.intOfString? (String.ofList raw) with
    | some value => .ok (.int value)
    | none => .error .valueError
  else if isDecimalText raw then
    match rounding.parse (String.ofList raw) with
    | some value => .ok value
    | none => .error .valueError
  else .ok (.str (String.ofList raw))

def settingsLineError (message configPath : String) (lineNo : ℕ) : SettingsError :=
  .startupConfiguration message [("config_path", .str configPath), ("line", .int lineNo)]

/-- A line of `_load_yaml_config_overrides`. -/
def loadYamlLine (configPath : String) (lineNo : ℕ) (rawLine : List Char) (payload : Fields) :
    Except SettingsError Fields :=
  let line := stripChars (rawLine.takeWhile (· != '#'))
  if line = [] then .ok payload
  else if ':' ∉ line then .error (settingsLineError "Invalid YAML settings line." configPath lineNo)
  else
    let normalizedKey := stripChars (line.takeWhile (· != ':'))
    let rawValue := (line.dropWhile (· != ':')).drop 1
    if normalizedKey = [] then .error (settingsLineError "Invalid YAML settings key." configPath lineNo)
    else do
      let value ← parseYamlScalar rounding (stripChars rawValue)
      return Json.set payload (String.ofList normalizedKey) value

def loadYamlLines (configPath : String) : ℕ → List (List Char) → Fields → Except SettingsError Fields
  | _, [], payload => .ok payload
  | lineNo, rawLine :: rest, payload => do
    let payload ← loadYamlLine rounding configPath lineNo rawLine payload
    loadYamlLines configPath (lineNo + 1) rest payload

/-- `_load_yaml_config_overrides` on the text of a file. -/
def loadYamlConfigOverrides (configPath text : String) : Except SettingsError Fields :=
  loadYamlLines rounding configPath 1 (splitlines (universalNewlines text.toList)) []

/-! ### What is read -/

theorem unwrapped_subset (chars : List Char) : unwrapped chars ⊆ chars :=
  ((List.dropLast_sublist _).trans (List.drop_sublist 1 chars)).subset

theorem stripChars_subset (chars : List Char) : stripChars chars ⊆ chars :=
  ((List.rdropWhile_prefix _ _).sublist.trans (List.dropWhile_sublist _)).subset

/-- A text that is read as a scalar is a part of what stands there. -/
theorem subset_of_parseYamlScalar {raw : List Char} {text : String}
    (h : parseYamlScalar rounding raw = .ok (.str text)) : text.toList ⊆ raw := by
  have hunwrapped : ∀ {text : String}, .str (String.ofList (unwrapped raw)) = Json.str text →
      text.toList ⊆ raw := by
    rintro text ⟨⟩
    rw [String.toList_ofList]
    exact unwrapped_subset raw
  rw [parseYamlScalar] at h
  dsimp only at h
  split_ifs at h with hempty hnull hbool hquoted hsingle hlist hint hdecimal
  · cases h
    exact List.nil_subset raw
  · cases h
  · cases h
  · exact hunwrapped (Except.ok.inj h)
  · exact hunwrapped (Except.ok.inj h)
  · cases h
  · cases hvalue : Json.intOfString? (String.ofList raw) with
    | some value =>
      rw [hvalue] at h
      cases h
    | none =>
      rw [hvalue] at h
      cases h
  · cases hvalue : rounding.parse (String.ofList raw) with
    | some value =>
      rw [hvalue] at h
      obtain ⟨literal, -, hround⟩ := Option.map_eq_some_iff.mp hvalue
      cases h
      cases literal with
      | nan => cases hround
      | infinity negative => cases hround
      | decimal negative digits exponent =>
        rw [FloatRounding.round] at hround
        split_ifs at hround
        cases hround
    | none =>
      rw [hvalue] at h
      cases h
  · cases h
    rw [String.toList_ofList]
    exact List.Subset.refl raw

/-- A field that a line of a file can give: its key stands on one line, and a text in it holds no number
sign. -/
def IsReadField (field : String × Json) : Prop :=
  (∀ c ∈ field.1.toList, isLineBreak c = false) ∧
    ∀ text, field.2 = .str text → '#' ∉ text.toList

theorem forall_mem_set {P : String × Json → Prop} {fields : Fields} {key : String} {value : Json}
    (h : ∀ field ∈ fields, P field) (hset : P (key, value)) :
    ∀ field ∈ Json.set fields key value, P field := by
  rw [Json.set]
  split_ifs
  · intro field hfield
    obtain ⟨old, hold, rfl⟩ := List.mem_map.mp hfield
    split_ifs
    · exact hset
    · exact h old hold
  · exact List.forall_mem_append.mpr ⟨h, List.forall_mem_singleton.mpr hset⟩

/-- A line adds a field of its own at most. -/
theorem isReadField_loadYamlLine {configPath : String} {lineNo : ℕ} {rawLine : List Char}
    {payload loaded : Fields} (hline : ∀ c ∈ rawLine, isLineBreak c = false)
    (hpayload : ∀ field ∈ payload, IsReadField field)
    (h : loadYamlLine rounding configPath lineNo rawLine payload = .ok loaded) :
    ∀ field ∈ loaded, IsReadField field := by
  rw [loadYamlLine] at h
  set line := stripChars (rawLine.takeWhile (· != '#')) with hlineDef
  have hsubset : line ⊆ rawLine.takeWhile (· != '#') := stripChars_subset _
  dsimp only at h
  split_ifs at h with hempty hcolon hkey
  · cases h
    exact hpayload
  · obtain ⟨value, hvalue, h⟩ := (bind_eq_ok_iff _ _ _).mp h
    cases h
    refine forall_mem_set hpayload ⟨fun c hc ↦ ?_, ?_⟩
    · rw [String.toList_ofList] at hc
      exact hline c ((List.takeWhile_subset _)
        (hsubset ((List.takeWhile_subset _) (stripChars_subset _ hc))))
    · rintro text rfl hmark
      have hmem := hsubset (List.dropWhile_subset _ (List.drop_subset 1 _
        (stripChars_subset _ (subset_of_parseYamlScalar rounding hvalue hmark))))
      exact absurd (List.mem_takeWhile_imp hmem) (by decide)

theorem isReadField_loadYamlLines {configPath : String} {lines : List (List Char)}
    (hlines : ∀ line ∈ lines, ∀ c ∈ line, isLineBreak c = false) {lineNo : ℕ}
    {payload loaded : Fields} (hpayload : ∀ field ∈ payload, IsReadField field)
    (h : loadYamlLines rounding configPath lineNo lines payload = .ok loaded) :
    ∀ field ∈ loaded, IsReadField field := by
  induction lines generalizing lineNo payload with
  | nil =>
    rw [loadYamlLines] at h
    cases h
    exact hpayload
  | cons rawLine rest ih =>
    rw [loadYamlLines] at h
    obtain ⟨next, hnext, h⟩ := (bind_eq_ok_iff _ _ _).mp h
    rw [List.forall_mem_cons] at hlines
    exact ih hlines.2 (isReadField_loadYamlLine rounding hlines.1 hpayload hnext) h

theorem isReadField_loadYamlConfigOverrides {configPath text : String} {loaded : Fields}
    (h : loadYamlConfigOverrides rounding configPath text = .ok loaded) :
    ∀ field ∈ loaded, IsReadField field :=
  isReadField_loadYamlLines rounding (isLineBreak_of_mem_splitlines _)
    (fun _ hfield ↦ absurd hfield List.not_mem_nil) h

/-! ### Files of quoted values -/

/-- A line of a settings file that gives a key a quoted value. -/
structure SettingsLine where
  key : String
  value : String
  /-- The blanks behind the value. -/
  blanks : List Char
  /-- What stands behind a number sign. -/
  comment : Option (List Char)
  key_ne : key ≠ ""
  key_trimmed : strip key = key
  key_plain : ':' ∉ key.toList ∧ '#' ∉ key.toList
  value_unquoted : '"' ∉ value.toList ∧ '\'' ∉ value.toList
  value_oneLine : ∀ c ∈ value.toList, isLineBreak c = false
  blanks_blank : ∀ c ∈ blanks, isSpace c = true ∧ isLineBreak c = false
  comment_oneLine : ∀ chars ∈ comment, ∀ c ∈ chars, isLineBreak c = false

namespace SettingsLine

def quoted (line : SettingsLine) : List Char := '"' :: (line.value.toList ++ ['"'])

def note (line : SettingsLine) : List Char :=
  match line.comment with
  | none => []
  | some chars => '#' :: chars

def text (line : SettingsLine) : List Char :=
  line.key.toList ++ ':' :: ' ' :: (line.quoted ++ (line.blanks ++ line.note))

def field (line : SettingsLine) : String × Json := (line.key, .str line.value)

/-- No number sign in the value and no line break in the key. -/
def Plain (line : SettingsLine) : Prop :=
  '#' ∉ line.value.toList ∧ ∀ c ∈ line.key.toList, isLineBreak c = false

end SettingsLine

/-- A settings file of some lines, the last of them with a line break behind it or without. -/
def settingsFile (lines : List SettingsLine) (ended : Bool) : String :=
  String.ofList (List.intercalate ['\n'] (lines.map SettingsLine.text) ++ if ended then ['\n'] else [])

def ReadsAs (loaded : Except SettingsError Fields) (fields : Fields) : Prop :=
  ∃ payload, loaded = .ok payload ∧ payload.Perm fields

theorem SettingsLine.stripChars_quoted (line : SettingsLine) (before : List Char)
    (hbefore : ∀ c ∈ before.head?, isSpace c = false) :
    stripChars (before ++ line.quoted) = before ++ line.quoted := by
  refine stripChars_eq_self (fun c hc ↦ ?_) fun c hc ↦ ?_
  · cases before with
    | nil =>
      cases hc
      decide
    | cons d rest => exact hbefore c hc
  · rw [quoted, ← List.cons_append, ← List.append_assoc, List.getLast?_concat] at hc
    cases hc
    decide

/-- A quoted value is read as what stands between the quotes. -/
theorem parseYamlScalar_quoted (line : SettingsLine) :
    parseYamlScalar rounding line.quoted = .ok (.str line.value) := by
  have hword : ∀ word ∈ ["null", "~", "true", "false"],
      String.ofList (lowerChars line.quoted) ≠ word := by
    intro word hword hsame
    have hhead : ∀ word ∈ ["null", "~", "true", "false"], word.toList.head? ≠ some '"' := by decide
    refine hhead word hword ?_
    rw [← hsame, String.toList_ofList]
    rfl
  have hnull : String.ofList (lowerChars line.quoted) ∉ ["null", "~"] := fun hmem ↦
    hword _ (List.mem_append_left ["true", "false"] hmem) rfl
  have hbool : String.ofList (lowerChars line.quoted) ∉ ["true", "false"] := fun hmem ↦
    hword _ (List.mem_append_right ["null", "~"] hmem) rfl
  have hwrapped : isWrapped '"' '"' line.quoted = true := by
    rw [isWrapped, SettingsLine.quoted, ← List.cons_append, List.getLast?_concat]
    rfl
  have hne : line.quoted ≠ [] := List.cons_ne_nil _ _
  rw [parseYamlScalar]
  dsimp only
  rw [if_neg hne, if_neg hnull, if_neg hbool, if_pos hwrapped, unwrapped,
    SettingsLine.quoted, List.drop_succ_cons, List.drop_zero, List.dropLast_concat,
    String.ofList_toList]

theorem loadYamlLine_text {line : SettingsLine} (hplain : line.Plain) {configPath : String}
    {lineNo : ℕ} {payload : Fields} (hkey : line.key ∉ payload.map Prod.fst) :
    loadYamlLine rounding configPath lineNo line.text payload = .ok (payload ++ [line.field]) := by
  have hne : line.key.toList ≠ [] := fun h ↦ line.key_ne (String.toList_eq_nil_iff.mp h)
  have htrimmed : stripChars line.key.toList = line.key.toList := by
    rw [← toList_strip, line.key_trimmed]
  have hhead : ∀ c ∈ line.key.toList.head?, isSpace c = false := by
    rw [← htrimmed]
    exact fun c ↦ head_stripChars
  have hnone : ∀ c ∈ ([] : List Char), isSpace c = true := by simp
  have hkept : ∀ c ∈ line.key.toList ++ ':' :: ' ' :: (line.quoted ++ line.blanks),
      (c != '#') = true := by
    intro c hc
    rw [bne_iff_ne]
    rintro rfl
    rcases List.mem_append.mp hc with hc | hc
    · exact line.key_plain.2 hc
    · simp only [SettingsLine.quoted, List.mem_cons, List.mem_append, List.cons_append,
        List.append_assoc] at hc
      rcases hc with hc | hc | hc | hc | hc | hc | hc
      · cases hc
      · cases hc
      · cases hc
      · exact hplain.1 hc
      · cases hc
      · cases hc
      · exact absurd (line.blanks_blank _ hc).1 (by decide)
  have hcut : line.text.takeWhile (· != '#') =
      line.key.toList ++ ':' :: ' ' :: (line.quoted ++ line.blanks) := by
    have htext : line.text =
        line.key.toList ++ ':' :: ' ' :: (line.quoted ++ line.blanks) ++ line.note := by
      simp only [SettingsLine.text, List.append_assoc, List.cons_append]
    rw [htext]
    refine takeWhile_append_stop hkept fun c hc ↦ ?_
    rw [SettingsLine.note] at hc
    cases hcomment : line.comment with
    | none =>
      rw [hcomment] at hc
      cases hc
    | some chars =>
      rw [hcomment] at hc
      cases hc
      rfl
  have hstrip : stripChars (line.key.toList ++ ':' :: ' ' :: (line.quoted ++ line.blanks)) =
      line.key.toList ++ ':' :: ' ' :: line.quoted := by
    have hpadded := stripChars_padded hnone (fun c hc ↦ (line.blanks_blank c hc).1)
      (line.key.toList ++ [':', ' '] ++ line.quoted)
    have hbody := line.stripChars_quoted (line.key.toList ++ [':', ' ']) (by
      rw [List.head?_append_of_ne_nil _ hne]
      exact hhead)
    rw [hbody] at hpadded
    simpa using hpadded
  have hcolon : ∀ c ∈ line.key.toList, (c != ':') = true := fun c hc ↦
    bne_iff_ne.mpr (ne_of_mem_of_not_mem hc line.key_plain.1)
  have hstop : ∀ c ∈ (':' :: ' ' :: line.quoted).head?, (c != ':') = false := by
    rintro _ ⟨⟩
    rfl
  have hvalue : stripChars (' ' :: line.quoted) = line.quoted := by
    have hspace : ∀ c ∈ [' '], isSpace c = true := by decide
    have hpadded := stripChars_padded hspace hnone line.quoted
    rw [List.append_nil] at hpadded
    exact hpadded.trans (line.stripChars_quoted [] (by simp))
  rw [loadYamlLine, hcut, hstrip]
  dsimp only
  rw [if_neg (by simp), if_neg (by simp), takeWhile_append_stop hcolon hstop, htrimmed, if_neg hne,
    dropWhile_append_stop hcolon hstop, List.drop_succ_cons, List.drop_zero, hvalue,
    parseYamlScalar_quoted, String.ofList_toList, ok_bind, Json.set, if_neg (by simpa using hkey)]
  rfl

theorem loadYamlLines_nil {lines : List (List Char)} (h : ∀ line ∈ lines, line = [])
    {configPath : String} {lineNo : ℕ} {payload : Fields} :
    loadYamlLines rounding configPath lineNo lines payload = .ok payload := by
  induction lines generalizing lineNo with
  | nil => rfl
  | cons line rest ih =>
    rw [List.forall_mem_cons] at h
    obtain ⟨rfl, hrest⟩ := h
    exact ih hrest

theorem loadYamlLines_text {lines : List SettingsLine} (hplain : ∀ line ∈ lines, line.Plain)
    {more : List (List Char)} (hmore : ∀ line ∈ more, line = []) {configPath : String} {lineNo : ℕ}
    {payload : Fields} (hkeys : (payload.map Prod.fst ++ lines.map SettingsLine.key).Nodup) :
    loadYamlLines rounding configPath lineNo (lines.map SettingsLine.text ++ more) payload =
      .ok (payload ++ lines.map SettingsLine.field) := by
  induction lines generalizing lineNo payload with
  | nil =>
    rw [List.map_nil, List.map_nil, List.nil_append, List.append_nil]
    exact loadYamlLines_nil rounding hmore
  | cons line rest ih =>
    rw [List.forall_mem_cons] at hplain
    have hkey : line.key ∉ payload.map Prod.fst := fun hmem ↦
      List.disjoint_of_nodup_append hkeys hmem List.mem_cons_self
    rw [List.map_cons, List.cons_append, loadYamlLines, loadYamlLine_text rounding hplain.1 hkey,
      ok_bind, ih hplain.2, List.map_cons, List.append_assoc, List.singleton_append]
    rw [List.map_append, List.append_assoc]
    exact hkeys

theorem isLineBreak_text {line : SettingsLine} (hplain : line.Plain) :
    ∀ c ∈ line.text, isLineBreak c = false := by
  have hnote : ∀ c ∈ line.note, isLineBreak c = false := by
    rw [SettingsLine.note]
    cases hcomment : line.comment with
    | none => exact fun _ hc ↦ absurd hc List.not_mem_nil
    | some chars => exact List.forall_mem_cons.mpr ⟨by decide, line.comment_oneLine chars hcomment⟩
  have hquoted : ∀ c ∈ line.quoted, isLineBreak c = false :=
    List.forall_mem_cons.mpr ⟨by decide, List.forall_mem_append.mpr ⟨line.value_oneLine, by decide⟩⟩
  exact List.forall_mem_append.mpr ⟨hplain.2, List.forall_mem_cons.mpr ⟨by decide,
    List.forall_mem_cons.mpr ⟨by decide, List.forall_mem_append.mpr ⟨hquoted,
      List.forall_mem_append.mpr ⟨fun c hc ↦ (line.blanks_blank c hc).2, hnote⟩⟩⟩⟩⟩

theorem splitlines_intercalate {lines : List SettingsLine} (hplain : ∀ line ∈ lines, line.Plain)
    (ended : Bool) : ∃ more, splitlines (List.intercalate ['\n'] (lines.map SettingsLine.text) ++
        if ended then ['\n'] else []) = lines.map SettingsLine.text ++ more ∧
      ∀ line ∈ more, line = [] := by
  induction lines with
  | nil =>
    cases ended with
    | false => exact ⟨[], rfl, by simp⟩
    | true => exact ⟨[[]], by decide, by simp⟩
  | cons line rest ih =>
    rw [List.forall_mem_cons] at hplain
    have hline := isLineBreak_text hplain.1
    cases rest with
    | nil =>
      refine ⟨[], ?_, by simp⟩
      rw [List.map_cons, List.map_nil, List.intercalate_singleton, List.append_nil]
      cases ended with
      | false =>
        have hne : line.text ≠ [] := List.append_ne_nil_of_right_ne_nil _ (List.cons_ne_nil _ _)
        exact (congrArg splitlines (List.append_nil _)).trans (splitlines_line hline hne)
      | true => exact splitlines_append hline []
    | cons next others =>
      obtain ⟨more, hmore, hnil⟩ := ih hplain.2
      refine ⟨more, ?_, hnil⟩
      rw [List.map_cons] at hmore
      rw [List.map_cons, List.map_cons, List.intercalate_cons_cons, List.append_assoc, List.append_assoc, List.singleton_append,
        splitlines_append hline, hmore]
      rfl

theorem return_not_mem_intercalate {lines : List SettingsLine}
    (hplain : ∀ line ∈ lines, line.Plain) :
    '\r' ∉ List.intercalate ['\n'] (lines.map SettingsLine.text) := by
  induction lines with
  | nil => exact List.not_mem_nil
  | cons line rest ih =>
    rw [List.forall_mem_cons] at hplain
    have hline : '\r' ∉ line.text := fun hmem ↦
      absurd (isLineBreak_text hplain.1 _ hmem) (by decide)
    cases rest with
    | nil => rwa [List.map_cons, List.map_nil, List.intercalate_singleton]
    | cons next others =>
      rw [List.map_cons, List.map_cons, List.intercalate_cons_cons, List.append_assoc,
        List.singleton_append, List.mem_append, List.mem_cons, not_or, not_or]
      exact ⟨hline, by decide, ih hplain.2⟩

theorem universalNewlines_settingsFile {lines : List SettingsLine}
    (hplain : ∀ line ∈ lines, line.Plain) (ended : Bool) :
    universalNewlines (settingsFile lines ended).toList = (settingsFile lines ended).toList := by
  refine universalNewlines_eq_self fun hmem ↦ ?_
  rw [settingsFile, String.toList_ofList] at hmem
  rcases List.mem_append.mp hmem with hmem | hmem
  · exact return_not_mem_intercalate hplain hmem
  · split_ifs at hmem
    · exact absurd hmem (by decide)
    · cases hmem

/-- A file of quoted values is read as written exactly when no value holds a number sign and no key a line
break. -/
theorem readsAs_settingsFile_iff {lines : List SettingsLine}
    (hdistinct : (lines.map SettingsLine.key).Nodup) (configPath : String) (ended : Bool) :
    ReadsAs (loadYamlConfigOverrides rounding configPath (settingsFile lines ended))
      (lines.map SettingsLine.field) ↔ ∀ line ∈ lines, line.Plain := by
  constructor
  · rintro ⟨payload, hpayload, hperm⟩ line hline
    have hfield := isReadField_loadYamlConfigOverrides rounding hpayload line.field
      (hperm.mem_iff.mpr (List.mem_map_of_mem hline))
    exact ⟨hfield.2 _ rfl, hfield.1⟩
  · intro hplain
    obtain ⟨more, hlines, hmore⟩ := splitlines_intercalate hplain ended
    have hkeys : (([] : Fields).map Prod.fst ++ lines.map SettingsLine.key).Nodup := hdistinct
    refine ⟨lines.map SettingsLine.field, ?_, List.Perm.refl _⟩
    rw [loadYamlConfigOverrides, universalNewlines_settingsFile hplain, settingsFile,
      String.toList_ofList, hlines, loadYamlLines_text rounding hplain hmore hkeys, List.nil_append]

def textRounding : FloatRounding textReader where
  nearest _ _ _ := ⟨"0.0", isFloatText_zero⟩
  isFloatLiteral_nearest _ _ _ := by decide
  read_nearest _ _ _ := rfl

/-- The line that sets the address of the database, without blanks and a comment behind it. -/
def databaseLine (url : String)
    (h : ('"' ∉ url.toList ∧ '\'' ∉ url.toList) ∧ ∀ c ∈ url.toList, isLineBreak c = false) :
    SettingsLine where
  key := "database_url"
  value := url
  blanks := []
  comment := none
  key_ne := by decide
  key_trimmed := by decide
  key_plain := by decide
  value_unquoted := h.1
  value_oneLine := h.2
  blanks_blank := by simp
  comment_oneLine := by simp

/-- A password with a number sign is cut. -/
theorem database_url_cut : ¬ReadsAs (loadYamlConfigOverrides textRounding "settings.yaml"
      (settingsFile [databaseLine "postgresql://app:p#1@db/app" (by decide)] true))
    [("database_url", .str "postgresql://app:p#1@db/app")] := by
  rintro ⟨payload, hpayload, hperm⟩
  have hfield := isReadField_loadYamlConfigOverrides textRounding hpayload
    ("database_url", .str "postgresql://app:p#1@db/app") (hperm.mem_iff.mpr List.mem_cons_self)
  exact absurd (hfield.2 _ rfl) (by decide)

theorem database_url_read : ReadsAs (loadYamlConfigOverrides textRounding "settings.yaml"
      (settingsFile [databaseLine "postgresql://app:p1@db/app" (by decide)] true))
    [("database_url", .str "postgresql://app:p1@db/app")] := by
  have hdistinct : ([databaseLine "postgresql://app:p1@db/app" (by decide)].map
      SettingsLine.key).Nodup := List.nodup_singleton _
  exact (readsAs_settingsFile_iff textRounding hdistinct "settings.yaml" true).mpr
    (List.forall_mem_singleton.mpr ⟨by decide, by decide⟩)

end SchemaPilot.SharedDomain
