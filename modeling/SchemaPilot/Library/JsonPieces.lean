import SchemaPilot.Library.JsonRoundTrip

/-!
# The pieces of a JSON text

The text of a value is made of string literals and of gaps between them (`pieces`), and the gaps do not depend
on what the literals say: a value whose texts are changed has the text with changed literals
(`render_mapText`). Two values have the same shape when they are equal but for their string values
(`blanked`); a value is read back in the same shape after a change of its texts exactly when no key was
changed (`sameShape_merged_mapText_iff`).
-/

namespace SchemaPilot.Library.Json

/-! ### Pieces -/

/-- A string literal, or what stands between two of them. -/
inductive Piece where
  | gap (chars : List Char)
  | quoted (text : String)

/-- The text of a piece, the characters of a literal being given. -/
def Piece.chars (body : String → List Char) : Piece → List Char
  | gap chars => chars
  | quoted text => '"' :: (body text ++ ['"'])

def piecesText (body : String → List Char) (pieces : List Piece) : List Char :=
  pieces.flatMap (Piece.chars body)

def literals (pieces : List Piece) : List String :=
  pieces.filterMap fun piece ↦
    match piece with
    | .gap _ => none
    | .quoted text => some text

mutual

/-- The pieces of the text `render` gives. -/
def pieces (layout : Layout) (level : ℕ) : Json → List Piece
  | str value => [.quoted value]
  | arr [] => [.gap ['[', ']']]
  | arr (item :: rest) =>
    .gap ('[' :: (layout.edge (level + 1)).1) ::
      (pieces layout (level + 1) item ++ piecesItems layout level rest)
  | obj [] => [.gap ['{', '}']]
  | obj ((key, value) :: rest) =>
    .gap ('{' :: (layout.edge (level + 1)).1) :: .quoted key :: .gap (':' :: layout.colon.1) ::
      (pieces layout (level + 1) value ++ piecesFields layout level rest)
  | value => [.gap (atomText value)]

def piecesItems (layout : Layout) (level : ℕ) : List Json → List Piece
  | [] => [.gap ((layout.edge level).1 ++ [']'])]
  | item :: rest =>
    .gap (',' :: (layout.gap (level + 1)).1) ::
      (pieces layout (level + 1) item ++ piecesItems layout level rest)

def piecesFields (layout : Layout) (level : ℕ) : List (String × Json) → List Piece
  | [] => [.gap ((layout.edge level).1 ++ ['}'])]
  | (key, value) :: rest =>
    .gap (',' :: (layout.gap (level + 1)).1) :: .quoted key :: .gap (':' :: layout.colon.1) ::
      (pieces layout (level + 1) value ++ piecesFields layout level rest)

end

def escapedText (text : String) : List Char := text.toList.flatMap escapeChar

theorem printChars_eq (chars : List Char) : printChars chars = chars.flatMap escapeChar ++ ['"'] := by
  induction chars with
  | nil => rfl
  | cons c rest ih => rw [printChars, ih, List.flatMap_cons, List.append_assoc]

@[simp] theorem piecesText_nil (body : String → List Char) : piecesText body [] = [] := rfl

theorem piecesText_gap (body : String → List Char) (chars : List Char) (rest : List Piece) :
    piecesText body (.gap chars :: rest) = chars ++ piecesText body rest := rfl

theorem piecesText_quoted (body : String → List Char) (text : String) (rest : List Piece) :
    piecesText body (.quoted text :: rest) = '"' :: (body text ++ '"' :: piecesText body rest) := by
  rw [piecesText, List.flatMap_cons, Piece.chars, List.cons_append, List.append_assoc]
  rfl

theorem piecesText_append (body : String → List Char) (first second : List Piece) :
    piecesText body (first ++ second) = piecesText body first ++ piecesText body second :=
  List.flatMap_append

/-! ### Changed texts -/

mutual

/-- A value with its keys and its string values changed. -/
def mapText (f : String → String) : Json → Json
  | str value => str (f value)
  | arr items => arr (mapTextItems f items)
  | obj fields => obj (mapTextFields f fields)
  | value => value

def mapTextItems (f : String → String) : List Json → List Json
  | [] => []
  | item :: rest => mapText f item :: mapTextItems f rest

def mapTextFields (f : String → String) : List (String × Json) → List (String × Json)
  | [] => []
  | (key, value) :: rest => (f key, mapText f value) :: mapTextFields f rest

end

mutual

/-- The text of a value with changed texts has the same gaps. -/
theorem render_mapText (f : String → String) (layout : Layout) (level : ℕ) (v : Json) :
    render layout level (mapText f v) =
      piecesText (fun text ↦ escapedText (f text)) (pieces layout level v) := by
  match v with
  | .str value =>
    rw [mapText, render, pieces, piecesText_quoted, piecesText_nil, printChars_eq]
    rfl
  | .arr [] => rfl
  | .arr (item :: rest) =>
    rw [mapText, mapTextItems, render, pieces, piecesText_gap, piecesText_append,
      render_mapText f layout (level + 1) item, renderItems_mapText f layout level rest]
    rfl
  | .obj [] => rfl
  | .obj ((key, value) :: rest) =>
    rw [mapText, mapTextFields, render, pieces, piecesText_gap, piecesText_quoted, piecesText_gap,
      piecesText_append, render_mapText f layout (level + 1) value,
      renderFields_mapText f layout level rest, printChars_eq, List.append_assoc]
    rfl
  | .null => exact (List.append_nil _).symm
  | .bool _ => exact (List.append_nil _).symm
  | .int _ => exact (List.append_nil _).symm
  | .float _ => exact (List.append_nil _).symm
  | .special _ => exact (List.append_nil _).symm

theorem renderItems_mapText (f : String → String) (layout : Layout) (level : ℕ) (items : List Json) :
    renderItems layout level (mapTextItems f items) =
      piecesText (fun text ↦ escapedText (f text)) (piecesItems layout level items) := by
  match items with
  | [] => exact (List.append_nil _).symm
  | item :: rest =>
    rw [mapTextItems, renderItems, piecesItems, piecesText_gap, piecesText_append,
      render_mapText f layout (level + 1) item, renderItems_mapText f layout level rest]
    rfl

theorem renderFields_mapText (f : String → String) (layout : Layout) (level : ℕ)
    (fields : List (String × Json)) :
    renderFields layout level (mapTextFields f fields) =
      piecesText (fun text ↦ escapedText (f text)) (piecesFields layout level fields) := by
  match fields with
  | [] => exact (List.append_nil _).symm
  | (key, value) :: rest =>
    rw [mapTextFields, renderFields, piecesFields, piecesText_gap, piecesText_quoted, piecesText_gap,
      piecesText_append, render_mapText f layout (level + 1) value,
      renderFields_mapText f layout level rest, printChars_eq, List.append_assoc]
    rfl

end

mutual

theorem mapText_id (v : Json) : mapText id v = v := by
  match v with
  | .arr items => rw [mapText, mapTextItems_id items]
  | .obj fields => rw [mapText, mapTextFields_id fields]
  | .str _ => rfl
  | .null => rfl
  | .bool _ => rfl
  | .int _ => rfl
  | .float _ => rfl
  | .special _ => rfl

theorem mapTextItems_id (items : List Json) : mapTextItems id items = items := by
  match items with
  | [] => rfl
  | item :: rest => rw [mapTextItems, mapText_id item, mapTextItems_id rest]

theorem mapTextFields_id (fields : List (String × Json)) : mapTextFields id fields = fields := by
  match fields with
  | [] => rfl
  | (key, value) :: rest => rw [mapTextFields, mapText_id value, mapTextFields_id rest, id]

end

theorem render_eq_piecesText (layout : Layout) (level : ℕ) (v : Json) :
    render layout level v = piecesText escapedText (pieces layout level v) := by
  have hrender := render_mapText id layout level v
  rwa [mapText_id] at hrender

/-! ### Keys and strings -/

mutual

def keys : Json → List String
  | arr items => keysItems items
  | obj fields => keysFields fields
  | _ => []

def keysItems : List Json → List String
  | [] => []
  | item :: rest => keys item ++ keysItems rest

def keysFields : List (String × Json) → List String
  | [] => []
  | (key, value) :: rest => key :: (keys value ++ keysFields rest)

end

mutual

/-- The keys and the string values in a value. -/
def texts : Json → List String
  | str value => [value]
  | arr items => textsItems items
  | obj fields => textsFields fields
  | _ => []

def textsItems : List Json → List String
  | [] => []
  | item :: rest => texts item ++ textsItems rest

def textsFields : List (String × Json) → List String
  | [] => []
  | (key, value) :: rest => key :: (texts value ++ textsFields rest)

end

theorem literals_append (first second : List Piece) :
    literals (first ++ second) = literals first ++ literals second :=
  List.filterMap_append

mutual

theorem literals_pieces (layout : Layout) (level : ℕ) (v : Json) :
    literals (pieces layout level v) = texts v := by
  match v with
  | .str _ => rfl
  | .arr [] => rfl
  | .arr (item :: rest) =>
    rw [texts, textsItems, ← literals_pieces layout (level + 1) item,
      ← literals_piecesItems layout level rest, ← literals_append]
    rfl
  | .obj [] => rfl
  | .obj ((key, value) :: rest) =>
    rw [texts, textsFields, ← literals_pieces layout (level + 1) value,
      ← literals_piecesFields layout level rest, ← literals_append]
    rfl
  | .null => rfl
  | .bool _ => rfl
  | .int _ => rfl
  | .float _ => rfl
  | .special _ => rfl

theorem literals_piecesItems (layout : Layout) (level : ℕ) (items : List Json) :
    literals (piecesItems layout level items) = textsItems items := by
  match items with
  | [] => rfl
  | item :: rest =>
    rw [textsItems, ← literals_pieces layout (level + 1) item,
      ← literals_piecesItems layout level rest, ← literals_append]
    rfl

theorem literals_piecesFields (layout : Layout) (level : ℕ) (fields : List (String × Json)) :
    literals (piecesFields layout level fields) = textsFields fields := by
  match fields with
  | [] => rfl
  | (key, value) :: rest =>
    rw [textsFields, ← literals_pieces layout (level + 1) value,
      ← literals_piecesFields layout level rest, ← literals_append]
    rfl

end

theorem piecesText_congr {body other : String → List Char} {ps : List Piece}
    (h : ∀ text ∈ literals ps, body text = other text) : piecesText body ps = piecesText other ps := by
  induction ps with
  | nil => rfl
  | cons piece rest ih =>
    cases piece with
    | gap chars => rw [piecesText_gap, piecesText_gap, ih h]
    | quoted text =>
      have hrest := ih fun other hother ↦ h other (List.mem_cons_of_mem _ hother)
      rw [piecesText_quoted, piecesText_quoted, h text List.mem_cons_self, hrest]

theorem keysFields_eq_flatMap (fields : List (String × Json)) :
    keysFields fields = fields.flatMap fun field ↦ field.1 :: keys field.2 := by
  induction fields with
  | nil => rfl
  | cons field rest ih => rw [keysFields, ih, List.flatMap_cons, List.cons_append]

theorem textsFields_eq_flatMap (fields : List (String × Json)) :
    textsFields fields = fields.flatMap fun field ↦ field.1 :: texts field.2 := by
  induction fields with
  | nil => rfl
  | cons field rest ih => rw [textsFields, ih, List.flatMap_cons, List.cons_append]

mutual

/-- Sorting the fields keeps the keys and the texts. -/
theorem perm_texts_canon (v : Json) :
    (keys (canon v)).Perm (keys v) ∧ (texts (canon v)).Perm (texts v) := by
  match v with
  | .arr items =>
    rw [canon, keys, keys, texts, texts]
    exact perm_textsItems_canon items
  | .obj fields =>
    obtain ⟨hkeys, htexts⟩ := perm_textsFields_canon fields
    have hsort := perm_sortFields (canonFields fields)
    rw [canon, keys, keys, texts, texts]
    refine ⟨List.Perm.trans ?_ hkeys, List.Perm.trans ?_ htexts⟩
    · rw [keysFields_eq_flatMap, keysFields_eq_flatMap]
      exact hsort.flatMap_right _
    · rw [textsFields_eq_flatMap, textsFields_eq_flatMap]
      exact hsort.flatMap_right _
  | .str _ => exact ⟨List.Perm.refl _, List.Perm.refl _⟩
  | .null => exact ⟨List.Perm.refl _, List.Perm.refl _⟩
  | .bool _ => exact ⟨List.Perm.refl _, List.Perm.refl _⟩
  | .int _ => exact ⟨List.Perm.refl _, List.Perm.refl _⟩
  | .float _ => exact ⟨List.Perm.refl _, List.Perm.refl _⟩
  | .special _ => exact ⟨List.Perm.refl _, List.Perm.refl _⟩

theorem perm_textsItems_canon (items : List Json) :
    (keysItems (canonItems items)).Perm (keysItems items) ∧
      (textsItems (canonItems items)).Perm (textsItems items) := by
  match items with
  | [] => exact ⟨List.Perm.refl _, List.Perm.refl _⟩
  | item :: rest =>
    obtain ⟨hkeys, htexts⟩ := perm_texts_canon item
    obtain ⟨hrestKeys, hrestTexts⟩ := perm_textsItems_canon rest
    exact ⟨hkeys.append hrestKeys, htexts.append hrestTexts⟩

theorem perm_textsFields_canon (fields : List (String × Json)) :
    (keysFields (canonFields fields)).Perm (keysFields fields) ∧
      (textsFields (canonFields fields)).Perm (textsFields fields) := by
  match fields with
  | [] => exact ⟨List.Perm.refl _, List.Perm.refl _⟩
  | (key, value) :: rest =>
    obtain ⟨hkeys, htexts⟩ := perm_texts_canon value
    obtain ⟨hrestKeys, hrestTexts⟩ := perm_textsFields_canon rest
    exact ⟨(hkeys.append hrestKeys).cons key, (htexts.append hrestTexts).cons key⟩

end

mutual

theorem mem_texts_of_mem_keys {v : Json} {key : String} (h : key ∈ keys v) : key ∈ texts v := by
  match v with
  | .arr items => exact mem_textsItems_of_mem_keys h
  | .obj fields => exact mem_textsFields_of_mem_keys h
  | .str _ => cases h
  | .null => cases h
  | .bool _ => cases h
  | .int _ => cases h
  | .float _ => cases h
  | .special _ => cases h

theorem mem_textsItems_of_mem_keys {items : List Json} {key : String} (h : key ∈ keysItems items) :
    key ∈ textsItems items := by
  match items with
  | [] => cases h
  | item :: rest =>
    rcases List.mem_append.mp h with h | h
    · exact List.mem_append_left _ (mem_texts_of_mem_keys h)
    · exact List.mem_append_right _ (mem_textsItems_of_mem_keys h)

theorem mem_textsFields_of_mem_keys {fields : List (String × Json)} {key : String}
    (h : key ∈ keysFields fields) : key ∈ textsFields fields := by
  match fields with
  | [] => cases h
  | (name, value) :: rest =>
    rcases List.mem_cons.mp h with rfl | h
    · exact List.mem_cons_self
    · refine List.mem_cons_of_mem _ ?_
      rcases List.mem_append.mp h with h | h
      · exact List.mem_append_left _ (mem_texts_of_mem_keys h)
      · exact List.mem_append_right _ (mem_textsFields_of_mem_keys h)

end

/-! ### Shapes -/

mutual

/-- A value with its string values left out. -/
def blanked : Json → Json
  | str _ => str ""
  | arr items => arr (blankedItems items)
  | obj fields => obj (blankedFields fields)
  | value => value

def blankedItems : List Json → List Json
  | [] => []
  | item :: rest => blanked item :: blankedItems rest

def blankedFields : List (String × Json) → List (String × Json)
  | [] => []
  | (key, value) :: rest => (key, blanked value) :: blankedFields rest

end

/-- Two values have the same keys, lengths and kinds, and differ inside string values at most. -/
def SameShape (v w : Json) : Prop := blanked v = blanked w

variable {reader : FloatReader}

mutual

/-- A change of texts keeps the numbers that are read back. -/
theorem legible_mapText (f : String → String) {v : Json} (h : Legible reader v) :
    Legible reader (mapText f v) := by
  match v, h with
  | .arr items, h => exact legibleItems_mapText f h
  | .obj fields, h => exact legibleFields_mapText f h
  | .str _, h => exact h
  | .null, h => exact h
  | .bool _, h => exact h
  | .int _, h => exact h
  | .float _, h => exact h
  | .special _, h => exact h

theorem legibleItems_mapText (f : String → String) {items : List Json}
    (h : LegibleItems reader items) : LegibleItems reader (mapTextItems f items) := by
  match items, h with
  | [], h => exact h
  | _ :: _, h => exact ⟨legible_mapText f h.1, legibleItems_mapText f h.2⟩

theorem legibleFields_mapText (f : String → String) {fields : List (String × Json)}
    (h : LegibleFields reader fields) : LegibleFields reader (mapTextFields f fields) := by
  match fields, h with
  | [], h => exact h
  | (_, _) :: _, h => exact ⟨legible_mapText f h.1, legibleFields_mapText f h.2⟩

end

/-- Pairs of which as many are kept have distinct keys. -/
theorem nodup_of_length_dictOf {pairs : List (String × Json)}
    (h : pairs.length ≤ (dictOf pairs).length) : (pairs.map Prod.fst).Nodup := by
  have hsnoc : ∀ (earlier : List (String × Json)) (pair : String × Json),
      dictOf (earlier ++ [pair]) = set (dictOf earlier) pair.1 pair.2 := fun earlier pair ↦
    List.foldl_append
  have hset : ∀ (fields : Fields) (pair : String × Json), (set fields pair.1 pair.2).length =
      if pair.1 ∈ fields.map Prod.fst then fields.length else fields.length + 1 := by
    intro fields pair
    rw [← List.length_map (f := Prod.fst), keys_set]
    split_ifs
    · rw [List.length_map]
    · rw [List.length_append, List.length_map, List.length_singleton]
  have hlength : ∀ pairs : List (String × Json), (dictOf pairs).length ≤ pairs.length := by
    intro pairs
    induction pairs using List.reverseRecOn with
    | nil => exact le_rfl
    | append_singleton earlier pair ih =>
      rw [hsnoc, hset, List.length_append, List.length_singleton]
      split_ifs <;> omega
  induction pairs using List.reverseRecOn with
  | nil => exact List.nodup_nil
  | append_singleton earlier pair ih =>
    have hearlier := hlength earlier
    rw [hsnoc, hset, List.length_append, List.length_singleton] at h
    split_ifs at h with hkey
    · omega
    · have hnodup := ih (by omega)
      rw [dictOf_of_nodup hnodup] at hkey
      rw [List.map_append, List.map_singleton, List.nodup_append]
      exact ⟨hnodup, List.nodup_singleton _, fun key hmem last hlast hsame ↦
        hkey ((List.mem_singleton.mp hlast) ▸ hsame ▸ hmem)⟩

theorem length_blankedFields (fields : List (String × Json)) :
    (blankedFields fields).length = fields.length := by
  induction fields with
  | nil => rfl
  | cons field rest ih => rw [blankedFields, List.length_cons, ih, List.length_cons]

theorem length_mergedFields_mapTextFields (f : String → String) (fields : List (String × Json)) :
    (mergedFields (mapTextFields f fields)).length = fields.length := by
  induction fields with
  | nil => rfl
  | cons field rest ih => rw [mapTextFields, mergedFields, List.length_cons, ih, List.length_cons]

mutual

/-- A value that is read back in its shape after a change of texts has its keys unchanged. -/
theorem eq_of_sameShape_merged {f : String → String} {v : Json}
    (h : SameShape v (merged (mapText f v))) : ∀ key ∈ keys v, f key = key := by
  match v with
  | .arr items =>
    rw [SameShape, mapText, merged, blanked, blanked, arr.injEq] at h
    exact eq_of_sameShape_mergedItems h
  | .obj fields =>
    rw [SameShape, mapText, merged, blanked, blanked, obj.injEq] at h
    have hlength := congrArg List.length h
    rw [length_blankedFields, length_blankedFields] at hlength
    have hnodup := nodup_of_length_dictOf
      ((length_mergedFields_mapTextFields f fields).trans hlength).le
    rw [dictOf_of_nodup hnodup] at h
    exact eq_of_sameShape_mergedFields h
  | .str _ => exact fun _ hkey ↦ absurd hkey List.not_mem_nil
  | .null => exact fun _ hkey ↦ absurd hkey List.not_mem_nil
  | .bool _ => exact fun _ hkey ↦ absurd hkey List.not_mem_nil
  | .int _ => exact fun _ hkey ↦ absurd hkey List.not_mem_nil
  | .float _ => exact fun _ hkey ↦ absurd hkey List.not_mem_nil
  | .special _ => exact fun _ hkey ↦ absurd hkey List.not_mem_nil

theorem eq_of_sameShape_mergedItems {f : String → String} {items : List Json}
    (h : blankedItems items = blankedItems (mergedItems (mapTextItems f items))) :
    ∀ key ∈ keysItems items, f key = key := by
  match items with
  | [] => exact fun _ hkey ↦ absurd hkey List.not_mem_nil
  | item :: rest =>
    rw [mapTextItems, mergedItems, blankedItems, blankedItems, List.cons.injEq] at h
    exact List.forall_mem_append.mpr
      ⟨eq_of_sameShape_merged h.1, eq_of_sameShape_mergedItems h.2⟩

theorem eq_of_sameShape_mergedFields {f : String → String} {fields : List (String × Json)}
    (h : blankedFields fields = blankedFields (mergedFields (mapTextFields f fields))) :
    ∀ key ∈ keysFields fields, f key = key := by
  match fields with
  | [] => exact fun _ hkey ↦ absurd hkey List.not_mem_nil
  | (key, value) :: rest =>
    rw [mapTextFields, mergedFields, blankedFields, blankedFields, List.cons.injEq, Prod.mk.injEq] at h
    obtain ⟨⟨hkey, hvalue⟩, hrest⟩ := h
    exact List.forall_mem_cons.mpr ⟨hkey.symm, List.forall_mem_append.mpr
      ⟨eq_of_sameShape_merged hvalue, eq_of_sameShape_mergedFields hrest⟩⟩

end

mutual

/-- A change of texts that keeps the keys keeps the shape. -/
theorem sameShape_merged {f : String → String} {v : Json} (hregular : Regular reader v)
    (h : ∀ key ∈ keys v, f key = key) : SameShape v (merged (mapText f v)) := by
  match v with
  | .arr items =>
    rw [SameShape, mapText, merged, blanked, blanked]
    exact congrArg arr (sameShape_mergedItems hregular h)
  | .obj fields =>
    obtain ⟨hkeys, hfields⟩ := sameShape_mergedFields hregular.2 h
    rw [SameShape, mapText, merged, blanked, blanked, dictOf_of_nodup (hkeys ▸ hregular.1)]
    exact congrArg obj hfields
  | .str _ => rfl
  | .null => rfl
  | .bool _ => rfl
  | .int _ => rfl
  | .float _ => rfl
  | .special _ => rfl

theorem sameShape_mergedItems {f : String → String} {items : List Json}
    (hregular : RegularItems reader items) (h : ∀ key ∈ keysItems items, f key = key) :
    blankedItems items = blankedItems (mergedItems (mapTextItems f items)) := by
  match items with
  | [] => rfl
  | item :: rest =>
    obtain ⟨hitem, hrest⟩ := List.forall_mem_append.mp h
    rw [mapTextItems, mergedItems, blankedItems, blankedItems, ← sameShape_merged hregular.1 hitem,
      ← sameShape_mergedItems hregular.2 hrest]

theorem sameShape_mergedFields {f : String → String} {fields : List (String × Json)}
    (hregular : RegularFields reader fields) (h : ∀ key ∈ keysFields fields, f key = key) :
    fields.map Prod.fst = (mergedFields (mapTextFields f fields)).map Prod.fst ∧
      blankedFields fields = blankedFields (mergedFields (mapTextFields f fields)) := by
  match fields with
  | [] => exact ⟨rfl, rfl⟩
  | (key, value) :: rest =>
    obtain ⟨hkey, hmore⟩ := List.forall_mem_cons.mp h
    obtain ⟨hvalue, hrest⟩ := List.forall_mem_append.mp hmore
    obtain ⟨hkeys, hfields⟩ := sameShape_mergedFields hregular.2 hrest
    rw [mapTextFields, mergedFields, blankedFields, blankedFields, hkey,
      ← sameShape_merged hregular.1 hvalue, ← hfields, List.map_cons, List.map_cons, ← hkeys]
    exact ⟨rfl, rfl⟩

end

/-- A value is read back in its shape after a change of texts exactly when its keys are unchanged. -/
theorem sameShape_merged_mapText_iff {f : String → String} {v : Json} (hregular : Regular reader v) :
    SameShape v (merged (mapText f v)) ↔ ∀ key ∈ keys v, f key = key :=
  ⟨eq_of_sameShape_merged, sameShape_merged hregular⟩

end SchemaPilot.Library.Json
