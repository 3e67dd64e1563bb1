import SchemaPilot.Gateway.Interface

/-!
# Retrieval

What `/gateway/retrieve` does with documents: the filesystem search of
`backend/shared_domain/retrieval.py`, the normalisation the OpenSearch and Qdrant adapters share, and
the row filter and masks of `backend/gateway/app.py`. A result row is a dictionary. The search lowers
texts of any script, so `str.lower` is a parameter here.

The e-mail pattern `[A-Za-z0-9._%+-]+@[A-Za-z0-9.-]+\.[A-Za-z]{2,}` is matched without backtracking:
the class before the `@` does not contain it, and after it the pattern ends with the letters that
follow the last full stop with at least two letters after it.
-/

namespace SchemaPilot.Gateway

open Library Library.Text Library.Json SharedDomain

/-- The functions of the platform whose tables and rounds are not spelled out here. -/
structure Platform where
  /-- `hashlib.sha256(text.encode()).hexdigest()`. -/
  sha256Hex : String → String
  /-- `str.lower` over all of Unicode. -/
  unicodeLower : String → String

/-- The item of the corpus for an extracted document, its evidence and text files parsed. -/
def corpusItem (evidence extracted : Fields) : Option Fields :=
  let datasetId := (getD evidence "dataset_id" (.str "")).toStr
  let artifactId := (getD evidence "artifact_id" (.str "")).toStr
  let text := (getD extracted "text" (.str "")).toStr
  if datasetId = "" ∨ artifactId = "" then none
  else some [("artifact_id", .str artifactId), ("dataset_id", .str datasetId), ("text", .str text),
    ("citation", .str (getD evidence "citation" (.str ("artifact:" ++ artifactId))).toStr)]

/-- `load_retrieval_corpus`, over the documents whose files could be parsed. -/
def loadRetrievalCorpus (documents : List (Fields × Fields)) : List Fields :=
  documents.filterMap fun document ↦ corpusItem document.1 document.2

/-- `text[:180]`. -/
def snippetOf (text : String) : String := String.ofList (text.toList.take 180)

/-- `retrieve_documents`. -/
def retrieveDocuments (platform : Platform) (queryText : String) (corpus : List Fields)
    (allowedDatasetIds : List String) : List Fields :=
  let loweredQuery := platform.unicodeLower queryText
  corpus.filterMap fun item ↦
    let datasetId := (getD item "dataset_id" (.str "")).toStr
    let text := (getD item "text" (.str "")).toStr
    if datasetId ∉ allowedDatasetIds then none
    else if loweredQuery.toList <:+: (platform.unicodeLower text).toList then
      some [("artifact_id", getD item "artifact_id" .null), ("dataset_id", .str datasetId),
        ("snippet", .str (snippetOf text)), ("citation", getD item "citation" .null)]
    else none

/-- The body of the loop both adapters run over what the backend returned. -/
def backendRow (allowedDatasetIds : List String) (source : Fields) : Option Fields :=
  let datasetId := strippedText source "dataset_id" ""
  let artifactId := strippedText source "artifact_id" ""
  if datasetId ∉ allowedDatasetIds ∨ artifactId = "" then none
  else some [("artifact_id", .str artifactId), ("dataset_id", .str datasetId),
    ("snippet", .str (snippetOf (getD source "text" (.str "")).toStr)),
    ("citation", .str (getD source "citation" (.str ("artifact:" ++ artifactId))).toStr)]

def dictRows (value : Option Json) : List Fields := (listOrEmpty value).filterMap asObj?

/-- `search_opensearch_documents`. -/
def searchOpensearchDocuments (queryText workspaceId : String) (allowedDatasetIds : List String) :
    Handler (List Fields) :=
  if strip queryText = "" ∨ allowedDatasetIds = [] then pure []
  else do
    let payload := Json.obj
      [("size", .int 20), ("_source", textList ["artifact_id", "dataset_id", "text", "citation"]),
        ("query", .obj [("bool", .obj
          [("must", .arr [.obj [("match", .obj [("text", .obj [("query", .str queryText)])])]]),
            ("filter", .arr [.obj [("term", .obj [("workspace_id", .str workspaceId)])],
              .obj [("terms", .obj
                [("dataset_id", textList (sortedTexts allowedDatasetIds))])]])])])]
    let response ← ask (.searchOpensearch payload)
    let hits := dictRows (get? (dictOrEmpty (get? response "hits")) "hits")
    pure (hits.filterMap fun hit ↦
      ((getD hit "_source" (.obj [])).asObj?).bind (backendRow allowedDatasetIds))

/-- `search_qdrant_documents`. -/
def searchQdrantDocuments (queryVector : List Json) (workspaceId : String)
    (allowedDatasetIds : List String) : Handler (List Fields) :=
  if queryVector = [] ∨ allowedDatasetIds = [] then pure []
  else do
    let payload := Json.obj
      [("vector", .arr queryVector), ("limit", .int 20), ("with_payload", .bool true),
        ("filter", .obj [("must", .arr
          [.obj [("key", .str "workspace_id"), ("match", .obj [("value", .str workspaceId)])],
            .obj [("key", .str "dataset_id"),
              ("match", .obj [("any", textList (sortedTexts allowedDatasetIds))])]])])]
    let response ← ask (.searchQdrant payload)
    let points := dictRows (get? response "result")
    pure (points.filterMap fun point ↦
      ((getD point "payload" (.obj [])).asObj?).bind (backendRow allowedDatasetIds))

/-- `_apply_retrieval_row_filter`. -/
def applyRetrievalRowFilter (results : List Fields) (rowFilter : Option (String × String))
    (datasetSummaries : List (String × Fields)) : List Fields :=
  match rowFilter with
  | none => results
  | some (filterKey, filterValue) => results.filter fun row ↦
    let datasetId := (getD row "dataset_id" (.str "")).toStr
    match getD ((datasetSummaries.lookup datasetId).getD []) filterKey .null with
    | .null => false
    | candidate => candidate.toStr == filterValue

/-- The class `[A-Za-z0-9._%+-]`. -/
def isMailboxChar (c : Char) : Bool :=
  c.isAlphanum || c == '.' || c == '_' || c == '%' || c == '+' || c == '-'

/-- The class `[A-Za-z0-9.-]`. -/
def isDomainChar (c : Char) : Bool := c.isAlphanum || c == '.' || c == '-'

/-- The length of the match of `[A-Za-z0-9.-]+\.[A-Za-z]{2,}` on a run of its characters, the
position of the run's rest given. -/
def domainLength? (position : ℕ) : List Char → Option ℕ
  | [] => none
  | c :: rest =>
    match domainLength? (position + 1) rest with
    | some length => some length
    | none =>
      let letters := (rest.takeWhile Char.isAlpha).length
      if 1 ≤ position ∧ c = '.' ∧ 2 ≤ letters then some (position + 1 + letters) else none

/-- The length of the match of `EMAIL_TOKEN_PATTERN` at the beginning of a text. -/
def emailLength? (chars : List Char) : Option ℕ :=
  let mailbox := chars.takeWhile isMailboxChar
  if mailbox = [] then none
  else
    match chars.drop mailbox.length with
    | '@' :: rest =>
      (domainLength? 0 (rest.takeWhile isDomainChar)).map (mailbox.length + 1 + ·)
    | _ => none

attribute [irreducible] emailLength?

/-- `EMAIL_TOKEN_PATTERN.sub`, the number of characters still to skip given. -/
def substituteEmails (replace : List Char → List Char) (skip : ℕ) : List Char → List Char
  | [] => []
  | c :: rest =>
    match skip with
    | skip + 1 => substituteEmails replace skip rest
    | 0 =>
      match emailLength? (c :: rest) with
      | some length =>
        replace ((c :: rest).take length) ++ substituteEmails replace (length - 1) rest
      | none => c :: substituteEmails replace 0 rest

/-- `_mask_email_tokens`. -/
def maskEmailTokens (platform : Platform) (text mode : String) : String :=
  String.ofList (substituteEmails
    (fun token ↦
      (applyMask platform.sha256Hex (.text (String.ofList token)) mode).toStr.toList)
    0 text.toList)

/-- `_apply_retrieval_masks`. -/
def applyRetrievalMasks (platform : Platform) (results : List Fields)
    (masks : List (String × String)) : List Fields :=
  if masks = [] then results
  else
    let emailMaskMode := (masks.lookup "email").getD ""
    let snippetMaskMode := (masks.lookup "snippet").getD ""
    results.map fun row ↦
      let given := (getD row "snippet" (.str "")).toStr
      let mailless :=
        if given ≠ "" ∧ emailMaskMode ≠ "" then maskEmailTokens platform given emailMaskMode
        else given
      let snippet :=
        if mailless ≠ "" ∧ snippetMaskMode ≠ "" then
          (applyMask platform.sha256Hex (.text mailless) snippetMaskMode).toStr
        else mailless
      set row "snippet" (.str snippet)

end SchemaPilot.Gateway
