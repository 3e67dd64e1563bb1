import SchemaPilot.Library.JsonSubstitution
import SchemaPilot.SharedDomain.ArtifactCrypto
import SchemaPilot.SharedDomain.Secrets

/-!
# Redacted JSON texts

`log_structured_event` of `backend/shared_domain/observability.py` and the diagnostics bundle of
`cli/schemapilot_cli/diag.py` render a payload as JSON and redact the text. The pattern of a password takes
every character up to a comma or a blank, closing quotes and brackets with it: what is left can be read, in the
shape of the payload, exactly when no such match runs over a closing quote and no key holds a secret
(`keepsShape_iff`).
-/

namespace SchemaPilot.SharedDomain

open Library Library.Text Library.Json

/-- `build_structured_log`. -/
def buildStructuredLog (level msg service correlationId : String)
    (workspaceId actorId eventType : Option String) (extra : Fields) : Fields :=
  let optional (value : Option String) : Json := (value.map Json.str).getD .null
  extra.foldl (fun payload field ↦ set payload field.1 field.2)
    [("level", .str level), ("msg", .str msg), ("service", .str service),
      ("correlation_id", .str correlationId), ("workspace_id", optional workspaceId),
      ("actor_id", optional actorId), ("event_type", optional eventType)]

/-- The line `log_structured_event` logs for a payload. -/
def structuredLogLine (payload : Json) : String := redactSecrets (dumpsIn spaced payload)

/-- `log_structured_event`, up to the logger. -/
def logStructuredEvent (level msg service correlationId : String)
    (workspaceId actorId eventType : Option String) (extra : Fields) : String :=
  structuredLogLine
    (.obj (buildStructuredLog level msg service correlationId workspaceId actorId eventType extra))

/-- `_json_bytes`, the text of a file of the diagnostics bundle. -/
def jsonBytes (payload : Json) : String := redactSecrets (dumpsIn indented payload) ++ "\n"

inductive RedactedWriter where
  | log
  | bundle

def RedactedWriter.text : RedactedWriter → Json → String
  | log => structuredLogLine
  | bundle => jsonBytes

/-- The letters the patterns begin with are no letters of a gap, but for that of a constant. -/
theorem isGap_letters {chars : List Char} (h : IsGap chars) :
    ('A' ∉ chars ∧ 'p' ∉ chars ∧ 'P' ∉ chars) ∧ ('s' ∈ chars → chars = atomText (.bool false)) := by
  have hnone : ∀ chars : List Char, (∀ c ∈ chars, c ∉ "ApPs".toList) →
      ('A' ∉ chars ∧ 'p' ∉ chars ∧ 'P' ∉ chars) ∧ ('s' ∈ chars → chars = atomText (.bool false)) :=
    fun chars hall ↦ ⟨⟨fun hmem ↦ hall _ hmem (by decide), fun hmem ↦ hall _ hmem (by decide),
      fun hmem ↦ hall _ hmem (by decide)⟩, fun hmem ↦ absurd (by decide) (hall _ hmem)⟩
  rcases h with hplain | ⟨v, hatom, rfl⟩
  · refine hnone chars fun c hc hletter ↦ ?_
    have hall : ∀ c ∈ "ApPs".toList, isBlank c = false ∧ c ∉ "[]{},:".toList := by decide
    rcases hplain c hc with hblank | hpunctuation
    · rw [(hall c hletter).1] at hblank
      cases hblank
    · exact (hall c hletter).2 hpunctuation
  · rcases isAtom_cases hatom with ⟨n, rfl⟩ | ⟨f, rfl⟩ | hconst
    · refine hnone _ fun c hc hletter ↦ ?_
      have hall : ∀ c ∈ "ApPs".toList, c.isDigit = false ∧ c ≠ '-' := by decide
      rcases intRepr_char hc with hdigit | hminus
      · rw [(hall c hletter).1] at hdigit
        cases hdigit
      · exact (hall c hletter).2 hminus
    · refine hnone _ fun c hc hletter ↦ ?_
      have hall : ∀ c ∈ "ApPs".toList, isFloatChar c = false := by decide
      have hvalid := f.valid
      rw [isFloatText, Bool.and_eq_true, List.all_eq_true] at hvalid
      have hchar := hvalid.1 c hc
      rw [hall c hletter] at hchar
      cases hchar
    · have hall : ∀ v ∈ constants, ('A' ∉ atomText v ∧ 'p' ∉ atomText v ∧ 'P' ∉ atomText v) ∧
          ('s' ∈ atomText v → atomText v = atomText (.bool false)) := by decide
      exact hall v hconst

theorem literalRun_respects {first : Char} {others : List Char} {inClass : Char → Bool} {least : ℕ}
    {exactly : Bool} (hfirst : first ∉ "\"\\nrtfbu0123456789abcdef".toList)
    (hquote : '"' ∉ first :: others) (hslash : '\\' ∉ first :: others)
    (hclass : inClass '"' = false ∧ inClass '\\' = false)
    (hgap : ∀ chars, IsGap chars →
      (Pattern.literalRun (first :: others) inClass least exactly).Inert chars) (inRun : Char → Bool) :
    RespectsLiterals (Pattern.literalRun (first :: others) inClass least exactly) inRun where
  runsOver := (Pattern.literalRun_separates hquote hclass.1).runsOver inRun
  gap := hgap
  inner c d more hescape := Pattern.literalRun_inert_of_not_mem fun hmem ↦
    hfirst (mem_inner_of_escapeChar hescape _ hmem)
  boundary chars after hle := by
    refine ⟨_, drop_escapedChars_of_plain hle fun hmem ↦ ?_⟩
    rw [← List.take_append_of_le_length hle] at hmem
    rcases Pattern.mem_of_mem_take_literalRun hmem with hmem | hmem
    · exact hslash hmem
    · rw [hclass.2] at hmem
      cases hmem

theorem secretKeyPattern_respects (inRun : Char → Bool) :
    RespectsLiterals secretKeyPattern inRun := by
  refine literalRun_respects (by decide) (by decide) (by decide) (by decide) (fun chars hgap ↦ ?_) inRun
  by_cases hs : 's' ∈ chars
  · rw [(isGap_letters hgap).2 hs]
    exact Pattern.literalRun_inert (by decide)
  · exact Pattern.literalRun_inert_of_not_mem hs

theorem accessKeyPattern_respects (inRun : Char → Bool) :
    RespectsLiterals accessKeyPattern inRun :=
  literalRun_respects (by decide) (by decide) (by decide) (by decide)
    (fun _ hgap ↦ Pattern.literalRun_inert_of_not_mem (isGap_letters hgap).1.1) inRun

/-- The match of a password that reaches a closing quote goes on behind it. -/
theorem passwordPattern_runsOver : passwordPattern.RunsOver '"' isSecretChar where
  extent_stop := by decide
  kept body after hle := by
    by_cases hextent : passwordPattern.extent (body ++ ['"']) = 0
    · -- a match of either text would begin in the other one as well
      have hnone : ¬∃ init last, init ++ [last] <+: body ++ ['"'] ∧ IsPasswordHead init ∧
          isSecretChar last = true := by
        rw [← passwordPattern_match, hextent]
        exact Nat.lt_irrefl 0
      rw [hextent]
      constructor
      · by_contra hpos
        obtain ⟨init, last, hbegins, hinit, hlast⟩ :=
          (passwordPattern_match _).mp (Nat.pos_of_ne_zero hpos)
        have hquote : '"' ∉ init := not_mem_passwordHead (by decide) hinit
        obtain ⟨more, rfl⟩ : init <+: body := by
          rcases List.prefix_or_prefix_of_prefix ((List.prefix_append init [last]).trans hbegins)
            (List.prefix_append body _) with hshort | ⟨tail, rfl⟩
          · exact hshort
          · rw [List.append_assoc, List.prefix_append_right_inj] at hbegins
            cases tail with
            | nil => rw [List.append_nil]
            | cons d tail =>
              rw [List.cons_append, List.cons_prefix_cons] at hbegins
              exact absurd (List.mem_append_right body (hbegins.1 ▸ List.mem_cons_self)) hquote
        rw [List.append_assoc, List.prefix_append_right_inj] at hbegins
        refine hnone ⟨init, last, ?_, hinit, hlast⟩
        rw [List.append_assoc, List.prefix_append_right_inj]
        cases more with
        | nil => exact ⟨[], by rw [List.singleton_prefix_cons_iff.mp hbegins]; rfl⟩
        | cons d more =>
          rw [List.cons_append, List.singleton_prefix_cons_iff] at hbegins
          exact ⟨more ++ ['"'], by rw [hbegins]; rfl⟩
      · by_contra hpos
        obtain ⟨init, last, hbegins, hinit, hlast⟩ :=
          (passwordPattern_match _).mp (Nat.pos_of_ne_zero hpos)
        exact hnone ⟨init, last, hbegins.trans (List.prefix_append body _), hinit, hlast⟩
    · obtain ⟨head, secret, rest, htext, hhead, hne, hsecret, hrest⟩ :=
        exists_password (Nat.pos_of_ne_zero hextent)
      have hextent := passwordPattern_extent hhead hne hsecret hrest
      rw [← htext] at hextent
      rw [hextent] at hle ⊢
      rcases List.eq_nil_or_concat rest with rfl | ⟨init, last, rfl⟩
      · have hlength := congrArg List.length htext
        rw [List.append_nil, List.length_append, List.length_singleton] at hlength
        omega
      · rw [List.concat_eq_append] at htext hrest
        rw [← List.append_assoc, ← List.append_assoc] at htext
        obtain ⟨rfl, hlast⟩ := List.append_inj' htext rfl
        cases init with
        | nil =>
          rw [List.nil_append, ← hlast] at hrest
          exact absurd (hrest '"' rfl) (by decide)
        | cons c init =>
          have hstop : ∀ tail, ∀ d ∈ (c :: tail).head?, isSecretChar d = false := by
            rintro tail _ ⟨⟩
            exact hrest c rfl
          rw [List.append_assoc, List.append_assoc, List.append_assoc]
          exact ⟨passwordPattern_extent hhead hne hsecret (hstop _),
            passwordPattern_extent hhead hne hsecret (hstop _)⟩
  beyond body after hover := by
    obtain ⟨head, secret, rest, htext, hhead, hne, hsecret, hrest⟩ :=
      exists_password (Nat.zero_lt_of_lt hover)
    have hextent := passwordPattern_extent hhead hne hsecret hrest
    rw [← htext] at hextent
    rw [hextent] at hover
    have hlength := congrArg List.length htext
    simp only [List.length_append, List.length_singleton] at hlength hover
    obtain rfl : rest = [] := List.length_eq_zero_iff.mp (by omega)
    rcases List.eq_nil_or_concat secret with rfl | ⟨init, last, rfl⟩
    · exact absurd rfl hne
    · rw [List.concat_eq_append] at htext hne hsecret
      rw [List.append_nil, ← List.append_assoc] at htext
      obtain ⟨rfl, hlast⟩ := List.append_inj' htext rfl
      obtain ⟨run, tail, rfl, hrun, htail⟩ := exists_run isSecretChar after
      have hall : ∀ c ∈ init ++ [last] ++ run, isSecretChar c = true :=
        List.forall_mem_append.mpr ⟨hsecret, hrun⟩
      have hmatch := passwordPattern_extent hhead
        (List.append_ne_nil_of_left_ne_nil hne run) hall htail
      rw [takeWhile_append_stop hrun htail]
      simp only [List.cons.injEq, and_true] at hlast
      subst hlast
      simp only [List.append_assoc, List.cons_append, List.nil_append, List.length_append,
        List.length_cons] at hmatch ⊢
      omega

theorem passwordPattern_respects : RespectsLiterals passwordPattern isSecretChar where
  runsOver := passwordPattern_runsOver
  gap chars hgap := passwordPattern_inert_of_not_mem (isGap_letters hgap).1.2
  inner c d more hescape := passwordPattern_inert_of_not_mem
    ⟨fun hmem ↦ absurd (mem_inner_of_escapeChar hescape _ hmem) (by decide),
      fun hmem ↦ absurd (mem_inner_of_escapeChar hescape _ hmem) (by decide)⟩
  boundary chars after hle := by
    have hinner : ∀ d ∈ "\"\\nrtfbu0123456789abcdef".toList, isSecretChar d = true := by decide
    by_cases hnone : passwordPattern.extent (escapedChars chars ++ after) = 0
    · exact ⟨0, by rw [hnone]; rfl⟩
    · refine exists_drop_escapedChars hle fun d hd hmem ↦ ?_
      obtain ⟨head, secret, rest, htext, hhead, hne, hsecret, hrest⟩ :=
        exists_password (Nat.pos_of_ne_zero hnone)
      have hextent := passwordPattern_extent hhead hne hsecret hrest
      rw [← htext] at hextent
      have hafter : rest = (escapedChars chars).drop (head ++ secret).length ++ after := by
        rw [← List.drop_append_of_le_length (hextent ▸ hle), htext, ← List.append_assoc, List.drop_left]
      rw [hextent] at hd
      have hstop := hrest d (by rw [hafter, List.head?_append, hd]; rfl)
      rw [hinner d hmem] at hstop
      cases hstop

def keysRedacted (text : String) : List Char :=
  accessKeyPattern.sub redactedMark (secretKeyPattern.sub redactedMark (escapedText text))

/-- A written text is read as a value that differs from the payload inside string values at most. -/
def KeepsShape (reader : FloatReader) (written : String) (payload : Json) : Prop :=
  ∃ value, loads reader written = some value ∧ SameShape (canon payload) value

/-- No password in a literal runs over the closing quote, and no literal of a key holds a secret. -/
def RedactsInside (payload : Json) : Prop :=
  (∀ text ∈ texts payload, passwordPattern.Fits '"' (keysRedacted text)) ∧
    ∀ key ∈ keys payload, containsSecret (String.ofList (escapedText key)) = false

theorem escapedText_inj {first second : String} (h : escapedText first = escapedText second) :
    first = second := by
  have hprint : printChars first.toList ++ [] = printChars second.toList ++ [] := by
    rw [printChars_eq, printChars_eq]
    exact congrArg (fun chars ↦ chars ++ ['"'] ++ []) h
  exact String.toList_inj.mp (printChars_append_inj _ _ _ _ hprint).1

theorem redactedMark_eq : redactedMark = escapedChars redactedMark := by decide

theorem isSecretChar_of_isAtomChar (c : Char) (h : isAtomChar c = true) : isSecretChar c = true := by
  have hplain : isWordPart c = true ∨ c = '+' ∨ c = '-' ∨ c = '.' := by
    simp only [isAtomChar, Bool.or_eq_true, beq_iff_eq, isWordPart] at h ⊢
    tauto
  rcases hplain with hword | rfl | rfl | rfl
  · rw [isSecretChar, isSpace_eq_false_of_isWordPart hword, Bool.not_false, Bool.and_true, bne_iff_ne]
    rintro rfl
    cases hword
  · decide
  · decide
  · decide

theorem secretKeyPattern_fits (chars : List Char) : secretKeyPattern.Fits '"' chars :=
  (Pattern.literalRun_separates (by decide) (by decide)).fits chars

theorem accessKeyPattern_fits (chars : List Char) : accessKeyPattern.Fits '"' chars :=
  (Pattern.literalRun_separates (by decide) (by decide)).fits chars

/-- A literal without its keys is a literal. -/
theorem exists_keysRedacted (text : String) : ∃ chars, keysRedacted text = escapedChars chars := by
  have hsub : ∀ {p : Pattern Char} (_ : RespectsLiterals p isSecretChar)
      (_ : ∀ chars, p.Fits '"' chars) (chars : List Char),
      ∃ more, p.sub redactedMark (escapedChars chars) = escapedChars more := by
    intro p hrespects hfits chars
    rcases sub_literal hrespects redactedMark chars with ⟨-, hmore⟩ | ⟨hnot, -⟩
    · rwa [← redactedMark_eq] at hmore
    · exact absurd (hfits _) hnot
  obtain ⟨first, hfirst⟩ := hsub (secretKeyPattern_respects _) secretKeyPattern_fits text.toList
  obtain ⟨second, hsecond⟩ := hsub (accessKeyPattern_respects _) accessKeyPattern_fits first
  exact ⟨second, by rw [keysRedacted, ← hsecond, ← hfirst]; rfl⟩

theorem redactSecrets_eq_self_iff {text : String} :
    redactSecrets text = text ↔ containsSecret text = false :=
  ⟨fun h ↦ h ▸ containsSecret_redactSecrets text, redactSecrets_eq_self⟩

/-- Where no password runs over the closing quote, a literal is redacted to one. -/
theorem exists_redacted {text : String} (h : passwordPattern.Fits '"' (keysRedacted text)) :
    ∃ redacted : String, passwordPattern.sub redactedMark (keysRedacted text) = escapedText redacted := by
  obtain ⟨chars, hchars⟩ := exists_keysRedacted text
  rw [hchars] at h ⊢
  rcases sub_literal passwordPattern_respects redactedMark chars with ⟨-, more, hmore⟩ | ⟨hnot, -⟩
  · exact ⟨String.ofList more, by rw [redactedMark_eq, hmore, escapedText, String.toList_ofList]⟩
  · exact absurd h hnot

section Written

variable {layout : Layout} (hcolon : ∃ c ∈ layout.colon.1, isSecretChar c = false)
include hcolon

theorem separated_written (v : Json) : Separated isSecretChar (pieces layout 0 v) :=
  separated_pieces_self (by decide) hcolon 0 v

/-- The keys of a text are redacted literal by literal. -/
theorem redactSecrets_render (v : Json) :
    redactSecrets (String.ofList (render layout 0 v)) =
      String.ofList (passwordPattern.sub redactedMark (piecesText keysRedacted (pieces layout 0 v))) := by
  have hseparated := separated_written hcolon v
  simp only [redactSecrets, secretPatterns, List.foldl_cons, List.foldl_nil, String.toList_ofList]
  rw [render_eq_piecesText, sub_piecesText (secretKeyPattern_respects _) hseparated
      fun _ _ ↦ secretKeyPattern_fits _,
    sub_piecesText (accessKeyPattern_respects _) hseparated fun _ _ ↦ accessKeyPattern_fits _]
  rfl

/-- A text with its secrets redacted is read in the shape of its value, blanks after it, exactly when passwords
are redacted inside string literals and nothing is redacted in a key. -/
theorem keepsShape_render_iff {reader : FloatReader} {payload : Json}
    (hregular : Regular reader payload) (blanks : Blanks) :
    KeepsShape reader (redactSecrets (dumpsIn layout payload) ++ String.ofList blanks.1) payload ↔
      RedactsInside payload := by
  have hseparated := separated_written hcolon (canon payload)
  have hliterals : literals (pieces layout 0 (canon payload)) = texts (canon payload) :=
    literals_pieces layout 0 _
  obtain ⟨hkeys, htexts⟩ := perm_texts_canon payload
  rw [dumpsIn, redactSecrets_render hcolon, ← String.ofList_append]
  by_cases hfits : ∀ text ∈ texts payload, passwordPattern.Fits '"' (keysRedacted text)
  · have hexists : ∀ text, ∃ redacted : String, text ∈ texts payload →
        passwordPattern.sub redactedMark (keysRedacted text) = escapedText redacted := by
      intro text
      by_cases hmem : text ∈ texts payload
      · obtain ⟨redacted, hredacted⟩ := exists_redacted (hfits text hmem)
        exact ⟨redacted, fun _ ↦ hredacted⟩
      · exact ⟨text, fun h ↦ absurd h hmem⟩
    choose f hf using hexists
    have hmem : ∀ text ∈ literals (pieces layout 0 (canon payload)), text ∈ texts payload := by
      rw [hliterals]
      exact fun text htext ↦ htexts.mem_iff.mp htext
    -- the text is that of the payload with its texts redacted one by one
    have hwritten : passwordPattern.sub redactedMark
        (piecesText keysRedacted (pieces layout 0 (canon payload))) =
          render layout 0 (mapText f (canon payload)) := by
      rw [sub_piecesText passwordPattern_respects hseparated fun text htext ↦
          hfits text (hmem text htext),
        piecesText_congr fun text htext ↦ hf text (hmem text htext), ← render_mapText]
    have hlegible := (merged_of_regular (regular_canon hregular)).1
    have hkept : ∀ key ∈ keys payload,
        (f key = key ↔ containsSecret (String.ofList (escapedText key)) = false) := by
      intro key hkey
      have hredacted : redactSecrets (String.ofList (escapedText key)) =
          String.ofList (escapedText (f key)) := by
        rw [← hf key (mem_texts_of_mem_keys hkey)]
        simp only [redactSecrets, secretPatterns, List.foldl_cons, List.foldl_nil,
          String.toList_ofList]
        rfl
      rw [← redactSecrets_eq_self_iff, hredacted, String.ofList_inj]
      exact ⟨congrArg escapedText, escapedText_inj⟩
    rw [KeepsShape, hwritten, loads_render_blanks layout (legible_mapText f hlegible)]
    simp only [Option.some.injEq, exists_eq_left']
    rw [sameShape_merged_mapText_iff (regular_canon hregular), RedactsInside, and_iff_right hfits]
    exact ⟨fun h key hkey ↦ (hkept key hkey).mp (h key (hkeys.mem_iff.mpr hkey)),
      fun h key hkey ↦ (hkept key (hkeys.mem_iff.mp hkey)).mpr (h key (hkeys.mem_iff.mp hkey))⟩
  · refine iff_of_false ?_ fun h ↦ hfits h.1
    rintro ⟨value, hvalue, -⟩
    have hrun := run_of_loads hvalue
    rw [String.toList_ofList, Lexing.run_append] at hrun
    obtain ⟨state, hstate, hrun⟩ := Option.bind_eq_some_iff.mp hrun
    have hplain : ∀ c ∈ blanks.1, c ≠ '"' ∧ c ≠ '\\' :=
      ne_quote_of_isGap (Or.inl fun c hc ↦ Or.inl (blanks.2 c hc))
    rw [Lexing.eq_outside_of_run_eq_outside hplain hrun, redactedMark_eq] at hstate
    have hmarks : Lexing.outside.run (escapedChars redactedMark) = none := by decide
    have hall := fits_of_run_sub passwordPattern_respects isSecretChar_of_isAtomChar hmarks
      exists_keysRedacted hseparated hstate
    rw [hliterals] at hall
    exact hfits fun text htext ↦ hall text (htexts.mem_iff.mpr htext)

end Written

/-- A redacted JSON text is read in the shape of its payload exactly when passwords are redacted inside
string literals and nothing is redacted in a key. -/
theorem keepsShape_iff {reader : FloatReader} {payload : Json} (hregular : Regular reader payload)
    (writer : RedactedWriter) :
    KeepsShape reader (writer.text payload) payload ↔ RedactsInside payload := by
  have hspace : ∃ c ∈ oneSpace.1, isSecretChar c = false := ⟨' ', List.mem_cons_self, by decide⟩
  have hspaced : ∃ c ∈ spaced.colon.1, isSecretChar c = false := hspace
  have hindented : ∃ c ∈ indented.colon.1, isSecretChar c = false := hspace
  cases writer with
  | log =>
    have hshape := keepsShape_render_iff hspaced hregular noBlanks
    rwa [noBlanks, String.ofList_nil, String.append_empty] at hshape
  | bundle => exact keepsShape_render_iff hindented hregular (newLine 0)

/-- The payload of a log line that tells a message. -/
def messagePayload (msg : String) : Json :=
  .obj (buildStructuredLog "ERROR" msg "workers" "c-1" none none none [])

theorem regular_messagePayload (reader : FloatReader) (msg : String) :
    Regular reader (messagePayload msg) :=
  ⟨(by decide : ["level", "msg", "service", "correlation_id", "workspace_id", "actor_id",
    "event_type"].Nodup), trivial, trivial, trivial, trivial, trivial, trivial, trivial, trivial⟩

/-- A password that stands at the end of a message runs over the closing quote. -/
theorem password_at_end_not_kept :
    (∀ key ∈ keys (messagePayload "password=hunter2"), containsSecret key = false) ∧
      ¬KeepsShape textReader (RedactedWriter.log.text (messagePayload "password=hunter2"))
        (messagePayload "password=hunter2") := by
  refine ⟨by decide +kernel, ?_⟩
  rintro ⟨value, hvalue, -⟩
  have hrun := run_of_loads hvalue
  revert hrun
  decide +kernel

/-- A password with a comma behind it is redacted inside its literal. -/
theorem password_before_comma_kept :
    KeepsShape textReader (RedactedWriter.log.text (messagePayload "password=hunter2, retry"))
        (messagePayload "password=hunter2, retry") :=
  (keepsShape_iff (regular_messagePayload textReader _) .log).mpr
    ⟨by decide +kernel, by decide +kernel⟩

end SchemaPilot.SharedDomain
