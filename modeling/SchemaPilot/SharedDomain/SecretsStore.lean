import SchemaPilot.SharedDomain.ArtifactCrypto
import SchemaPilot.SharedDomain.Ids
import SchemaPilot.Library.Effect
import SchemaPilot.Library.FileTree

/-!
# Secrets in local files

`LocalEncryptedSecretsStore` of `backend/shared_domain/secrets_store.py` in one process. A reference is
flattened to the name of a file, and only the identifier at its end keeps secrets apart. While the clock does
not go back, is not before the epoch and gives no millisecond more identifiers than it has room for, every
reference leads to the value it was returned for (`secrets_round_trip`).
-/

namespace SchemaPilot.SharedDomain

open Library Library.Text Library.Json

/-- The texts of the files; JSON texts are ASCII without line ends, so they are read as written. -/
abbrev SecretFiles := FileTree String

structure LocalEncryptedSecretsStore where
  root : TreePath
  masterKey : String

/-- The process that calls the store, with the state of its `new_ulid`. -/
structure SecretsProcess where
  files : SecretFiles
  ulids : UlidState

abbrev Secrets (α : Type) := Effect SecretsProcess Exn α

/-- `new_ulid`. -/
def newUlid (clock : ClockMillis) : Secrets String := fun process ↦
  let issued := newUlidAt clock.millis process.ulids
  (.ok issued.1, { process with ulids := issued.2 })

/-- Carry out an operation on the files, which raises an `OSError` where the system refuses it. -/
def onSecretFiles (op : SecretFiles → Option SecretFiles) : Secrets Unit := fun process ↦
  match op process.files with
  | some files => (.ok (), { process with files := files })
  | none => (.error (.other "OSError"), process)

def secretReference (scope key refId : String) : String :=
  "secret://local/" ++ scope ++ "/" ++ key ++ "/" ++ refId

/-- `suffix.replace("/", "__")`, character by character. -/
def flattenSlashes (chars : List Char) : List Char :=
  chars.flatMap fun c ↦ if c = '/' then ['_', '_'] else [c]

namespace LocalEncryptedSecretsStore

variable (store : LocalEncryptedSecretsStore)

/-- `_path_for_reference`; a name without a slash that ends in `.json` is one step down. -/
def pathForReference (reference : String) : Except Exn TreePath :=
  if "secret://local/".toList <+: reference.toList then
    let suffix := reference.toList.drop "secret://local/".length
    .ok (store.root ++ [String.ofList (flattenSlashes suffix ++ ".json".toList)])
  else .error (.other "secret_reference_invalid")

local instance keyBytes : NeZero 32 := ⟨by decide⟩

def secretText (sha256 : Sha256) (scope key value : String) : String :=
  dumpsIn spaced (.obj [("scope", .str scope), ("key", .str key),
    ("ciphertext", .str (sealText (deriveKey sha256 store.masterKey) value))])

/-- `put_secret`. -/
def putSecret (sha256 : Sha256) (scope key value : String) (clock : ClockMillis) : Secrets String :=
  if value = "" then Effect.raise (.other "secret_value_required")
  else do
    let refId ← newUlid clock
    let reference := secretReference scope key refId
    let path ← Effect.ofExcept (store.pathForReference reference)
    onSecretFiles fun files ↦ files.makeDirs? path.dropLast
    onSecretFiles fun files ↦ files.write? path (store.secretText sha256 scope key value) clock.millis
    return reference

/-- `get_secret`. -/
def getSecret (sha256 : Sha256) (reader : FloatReader) (reference : String) (files : SecretFiles) :
    Except Exn String := do
  let path ← store.pathForReference reference
  if !files.pathExists path then .error (.other "secret_not_found")
  else
    match files.content? path with
    | none => .error (.other "Is a directory")
    | some text =>
      match Json.loads reader text with
      | none => .error (.other "secret_payload_invalid")
      | some (.obj payload) =>
        let ciphertext := (getD payload "ciphertext" (.str "")).toStr
        if ciphertext = "" then .error (.other "secret_payload_invalid")
        else
          match openText? (deriveKey sha256 store.masterKey) ciphertext with
          | none => .error (.other "secret_payload_invalid")
          | some value => .ok value
      | some _ => .error (.other "object has no attribute 'get'")

end LocalEncryptedSecretsStore

inductive SecretsCall where
  /-- `put_secret`. -/
  | put (scope key value : String)
  /-- `new_ulid` on behalf of something else. -/
  | ulid

structure TimedSecretsCall where
  clock : ClockMillis
  call : SecretsCall

/-- A reference that was returned, and the value it was returned for. -/
structure StoredSecret where
  reference : String
  value : String
deriving DecidableEq

/-- What a call returns, and what it leaves. -/
def stepSecrets (sha256 : Sha256) (store : LocalEncryptedSecretsStore) (process : SecretsProcess)
    (timed : TimedSecretsCall) : List StoredSecret × SecretsProcess :=
  match timed.call with
  | .ulid => ([], (newUlid timed.clock process).2)
  | .put scope key value =>
    match store.putSecret sha256 scope key value timed.clock process with
    | (.ok reference, after) => ([⟨reference, value⟩], after)
    | (.error _, after) => ([], after)

/-- What the calls of a run return, and what they leave. -/
def runSecrets (sha256 : Sha256) (store : LocalEncryptedSecretsStore) (process : SecretsProcess) :
    List TimedSecretsCall → List StoredSecret × SecretsProcess
  | [] => ([], process)
  | timed :: rest =>
    let step := stepSecrets sha256 store process timed
    let later := runSecrets sha256 store step.2 rest
    (step.1 ++ later.1, later.2)

def startSecrets (files : SecretFiles) : SecretsProcess := ⟨files, ⟨0, -1⟩⟩
namespace LocalEncryptedSecretsStore

variable (store : LocalEncryptedSecretsStore)

def secretPath (scope key refId : String) : TreePath :=
  store.root ++ [String.ofList
    (flattenSlashes (scope ++ "/" ++ key ++ "/" ++ refId).toList ++ ".json".toList)]

theorem pathForReference_secretReference (scope key refId : String) :
    store.pathForReference (secretReference scope key refId) =
      .ok (store.secretPath scope key refId) := by
  have hchars : (secretReference scope key refId).toList =
      "secret://local/".toList ++ (scope ++ "/" ++ key ++ "/" ++ refId).toList := by
    unfold secretReference
    simp
  have hdrop : ∀ rest : List Char,
      ("secret://local/".toList ++ rest).drop "secret://local/".length = rest := fun _ ↦
    List.drop_left' String.length_toList
  rw [pathForReference, hchars, if_pos (List.prefix_append _ _)]
  dsimp only
  rw [hdrop, secretPath]

end LocalEncryptedSecretsStore

theorem mem_encodeBase32 {value : ℤ} {length : ℕ} {c : Char}
    (hc : c ∈ (encodeBase32 value length).toList) : c ∈ ulidAlphabet := by
  have hzero : '0' ∈ ulidAlphabet := by decide
  have hdigit : ∀ digit, ulidChar digit ∈ ulidAlphabet := by
    intro digit
    rw [ulidChar, List.getD_eq_getElem?_getD]
    cases hget : ulidAlphabet[digit]? with
    | none => exact hzero
    | some d => exact List.mem_of_getElem? hget
  rw [encodeBase32, String.toList_ofList] at hc
  rcases List.mem_append.mp (List.mem_of_mem_take hc) with hpad | hcode
  · rw [List.eq_of_mem_replicate hpad]
    exact hzero
  · split_ifs at hcode
    · rw [List.mem_singleton.mp hcode]
      exact hzero
    · obtain ⟨digit, -, rfl⟩ := List.mem_map.mp (List.mem_reverse.mp hcode)
      exact hdigit digit

theorem length_ulidOf (entry : ℕ × ℕ) : (ulidOf entry).toList.length = 26 := by
  rw [ulidOf, String.toList_append, List.length_append, length_encodeBase32, length_encodeBase32]

/-- An identifier is flattened to itself. -/
theorem flattenSlashes_ulidOf (entry : ℕ × ℕ) :
    flattenSlashes (ulidOf entry).toList = (ulidOf entry).toList := by
  have hchars : ∀ c ∈ (ulidOf entry).toList, c ≠ '/' := by
    intro c hc
    have halphabet : ∀ c ∈ ulidAlphabet, c ≠ '/' := by
      have hall : (ulidAlphabet.all fun c ↦ c ≠ '/') = true := by decide
      exact fun c hc ↦ of_decide_eq_true (List.all_eq_true.mp hall c hc)
    rw [ulidOf, String.toList_append] at hc
    rcases List.mem_append.mp hc with hc | hc
    · exact halphabet c (mem_encodeBase32 hc)
    · exact halphabet c (mem_encodeBase32 hc)
  unfold flattenSlashes
  generalize (ulidOf entry).toList = chars at hchars
  induction chars with
  | nil => rfl
  | cons c rest ih =>
    rw [List.flatMap_cons, if_neg (hchars c List.mem_cons_self),
      ih fun d hd ↦ hchars d (List.mem_cons_of_mem c hd)]
    rfl

/-- Secrets in one file have one identifier. -/
theorem secretPath_inj {store : LocalEncryptedSecretsStore} {scope scope' key key' : String}
    {entry entry' : ℕ × ℕ} (h : store.secretPath scope key (ulidOf entry) =
      store.secretPath scope' key' (ulidOf entry')) : ulidOf entry = ulidOf entry' := by
  have hnames := List.singleton_inj.mp (List.append_cancel_left h)
  have hchars := List.append_cancel_right (String.ofList_injective hnames)
  simp only [String.toList_append, flattenSlashes, List.flatMap_append] at hchars
  have hself := flattenSlashes_ulidOf
  simp only [flattenSlashes] at hself
  rw [hself entry, hself entry'] at hchars
  exact String.toList_injective (List.append_inj' hchars
    ((length_ulidOf entry).trans (length_ulidOf entry').symm)).2

section Calls

variable {sha256 : Sha256} {store : LocalEncryptedSecretsStore}

theorem onSecretFiles_some {op : SecretFiles → Option SecretFiles} {process : SecretsProcess}
    {files : SecretFiles} (h : op process.files = some files) :
    onSecretFiles op process = (.ok (), { process with files := files }) := by
  rw [onSecretFiles, h]

theorem onSecretFiles_none {op : SecretFiles → Option SecretFiles} {process : SecretsProcess}
    (h : op process.files = none) :
    onSecretFiles op process = (.error (.other "OSError"), process) := by
  rw [onSecretFiles, h]

/-- What `put_secret` can do: refuse an empty value, fail on the way, or write the file of the reference it
returns. In no case does another file change. -/
theorem putSecret_cases {scope key value : String} {clock : ClockMillis}
    {process after : SecretsProcess} {result : Except Exn String}
    (h : store.putSecret sha256 scope key value clock process = (result, after)) :
    (value = "" ∧ after = process ∧ ∃ exception, result = .error exception) ∨
    (value ≠ "" ∧ after.ulids = (newUlidAt clock.millis process.ulids).2 ∧
      (∀ path, path ≠ store.secretPath scope key (newUlidAt clock.millis process.ulids).1 →
        after.files.content? path = process.files.content? path) ∧
      ((∃ exception, result = .error exception) ∨
        (result = .ok (secretReference scope key (newUlidAt clock.millis process.ulids).1) ∧
          after.files.content? (store.secretPath scope key (newUlidAt clock.millis process.ulids).1) =
            some (store.secretText sha256 scope key value)))) := by
  unfold LocalEncryptedSecretsStore.putSecret at h
  split_ifs at h with hvalue
  · cases h
    exact Or.inl ⟨hvalue, rfl, _, rfl⟩
  · refine Or.inr ⟨hvalue, ?_⟩
    rw [Effect.bind_apply] at h
    change ((Effect.ofExcept (store.pathForReference (secretReference scope key
      (newUlidAt clock.millis process.ulids).1)) >>= _) _) = _ at h
    rw [store.pathForReference_secretReference, Effect.bind_apply, Effect.ofExcept_apply] at h
    dsimp only at h
    generalize hpath : store.secretPath scope key (newUlidAt clock.millis process.ulids).1 = path at h ⊢
    cases hmade : process.files.makeDirs? path.dropLast with
    | none =>
      rw [Effect.bind_apply, onSecretFiles_none hmade] at h
      cases h
      exact ⟨rfl, fun _ _ ↦ rfl, Or.inl ⟨_, rfl⟩⟩
    | some made =>
      rw [Effect.bind_apply, onSecretFiles_some hmade] at h
      dsimp only at h
      cases hwritten : made.write? path (store.secretText sha256 scope key value) clock.millis with
      | none =>
        rw [Effect.bind_apply, onSecretFiles_none hwritten] at h
        cases h
        exact ⟨rfl, fun _ _ ↦ FileTree.content?_makeDirs? hmade _, Or.inl ⟨_, rfl⟩⟩
      | some written =>
        rw [Effect.bind_apply, onSecretFiles_some hwritten] at h
        cases h
        refine ⟨rfl, fun other hother ↦ ?_, Or.inr ⟨rfl, ?_⟩⟩
        · rw [FileTree.content?_write? hwritten, if_neg hother, FileTree.content?_makeDirs? hmade]
        · rw [FileTree.content?_write? hwritten, if_pos rfl]

theorem getSecret_of_content? {reader : FloatReader} {scope key refId value : String}
    {files : SecretFiles} (hvalue : value ≠ "")
    (hcontent : files.content? (store.secretPath scope key refId) =
      some (store.secretText sha256 scope key value)) :
    store.getSecret sha256 reader (secretReference scope key refId) files = .ok value := by
  have hexists : files.pathExists (store.secretPath scope key refId) = true := by
    rw [FileTree.pathExists_eq, FileTree.isFile, hcontent]
    exact Bool.or_true _
  have hregular : Regular reader (.obj [("scope", .str scope), ("key", .str key),
      ("ciphertext", .str (sealText (deriveKey sha256 store.masterKey) value))]) := by
    have hkeys : ["scope", "key", "ciphertext"].Nodup := by decide
    exact ⟨hkeys, trivial, trivial, trivial, trivial⟩
  have hciphertext : getD (sortFields (canonFields [("scope", .str scope), ("key", .str key),
      ("ciphertext", .str (sealText (deriveKey sha256 store.masterKey) value))])) "ciphertext"
        (.str "") = .str (sealText (deriveKey sha256 store.masterKey) value) := by
    rw [getD, get?_sortFields, get?_canonFields]
    simp [get?_cons, canon]
  unfold LocalEncryptedSecretsStore.getSecret
  rw [store.pathForReference_secretReference]
  dsimp only [Bind.bind, Except.bind]
  rw [hexists, Bool.not_true, if_neg Bool.false_ne_true, hcontent]
  dsimp only
  rw [LocalEncryptedSecretsStore.secretText, loads_dumpsIn spaced hregular]
  dsimp only [canon]
  rw [hciphertext, toStr_str, if_neg (sealText_ne_empty _ hvalue), openText?_sealText]

end Calls

def TimedSecretsCall.ulidCall? (timed : TimedSecretsCall) : Option (UlidCall Unit) :=
  match timed.call with
  | .ulid => some ⟨(), timed.clock⟩
  | .put _ _ value => if value = "" then none else some ⟨(), timed.clock⟩

/-- The references that were returned are distinct, and their files hold the values. -/
structure Kept (sha256 : Sha256) (store : LocalEncryptedSecretsStore) (calls : List (UlidCall Unit))
    (stored : List StoredSecret) (process : SecretsProcess) : Prop where
  tracks : Tracks (fun _ ↦ process.ulids) calls
  nodup : (stored.map StoredSecret.reference).Nodup
  held : ∀ secret ∈ stored, secret.value ≠ "" ∧ ∃ scope key, ∃ entry ∈ stamps calls,
    secret.reference = secretReference scope key (ulidOf entry) ∧
      process.files.content? (store.secretPath scope key (ulidOf entry)) =
        some (store.secretText sha256 scope key secret.value)

section Runs

variable {sha256 : Sha256} {store : LocalEncryptedSecretsStore} {calls : List (UlidCall Unit)}
  {stored : List StoredSecret} {process : SecretsProcess}

/-- The identifier a process issues is that of the next stamp, and the state goes on from it. -/
theorem Tracks.newUlidAt (h : Tracks (fun _ ↦ process.ulids) calls) (clock : ClockMillis) :
    (newUlidAt clock.millis process.ulids).1 = ulidOf (stamp calls ⟨(), clock⟩) ∧
      Tracks (fun _ ↦ (SharedDomain.newUlidAt clock.millis process.ulids).2)
        (calls ++ [⟨(), clock⟩]) := by
  constructor
  · rw [ulidOf, stamp, ← h () clock.millis, ← encodeBase32_toNat]
    rfl
  · have hcall := h.call ⟨(), clock⟩
    have hstates : (callUlid (fun _ ↦ process.ulids) ⟨(), clock⟩).2 =
        fun _ ↦ (SharedDomain.newUlidAt clock.millis process.ulids).2 := by
      funext caller
      exact Function.update_self caller _ fun _ : Unit ↦ process.ulids
    rwa [hstates] at hcall

/-- A call that stores nothing keeps what is stored, if it leaves the files. -/
theorem Kept.unchanged (h : Kept sha256 store calls stored process) {more : List (UlidCall Unit)}
    {after : SecretsProcess} (htracks : Tracks (fun _ ↦ after.ulids) (calls ++ more))
    (hstamps : ∀ entry ∈ stamps calls, entry ∈ stamps (calls ++ more))
    (hfiles : ∀ scope key, ∀ entry ∈ stamps calls,
      after.files.content? (store.secretPath scope key (ulidOf entry)) =
        process.files.content? (store.secretPath scope key (ulidOf entry))) :
    Kept sha256 store (calls ++ more) stored after := by
  refine ⟨htracks, h.nodup, fun secret hsecret ↦ ?_⟩
  obtain ⟨hvalue, scope, key, entry, hentry, hreference, hcontent⟩ := h.held secret hsecret
  exact ⟨hvalue, scope, key, entry, hstamps entry hentry, hreference,
    (hfiles scope key entry hentry).trans hcontent⟩

/-- One call keeps what is stored, and adds what it returns. -/
theorem Kept.step (h : Kept sha256 store calls stored process) (timed : TimedSecretsCall)
    (hspaced : Spaced (calls ++ timed.ulidCall?.toList)) :
    Kept sha256 store (calls ++ timed.ulidCall?.toList)
      (stored ++ (stepSecrets sha256 store process timed).1)
      (stepSecrets sha256 store process timed).2 := by
  obtain ⟨clock, call⟩ := timed
  obtain ⟨hissued, htracks⟩ := h.tracks.newUlidAt clock
  have hsnoc : ∀ entry ∈ stamps calls, entry ∈ stamps (calls ++ [⟨(), clock⟩]) := fun entry hentry ↦ by
    rw [stamps_snoc]
    exact List.mem_append_left _ hentry
  cases call with
  | ulid =>
    rw [show stepSecrets sha256 store process ⟨clock, .ulid⟩ =
      ([], (newUlid clock process).2) from rfl, List.append_nil]
    exact h.unchanged htracks hsnoc fun _ _ _ _ ↦ rfl
  | put scope key value =>
    cases hput : store.putSecret sha256 scope key value clock process with
    | mk result after =>
      rcases putSecret_cases hput with ⟨rfl, rfl, exception, rfl⟩ | ⟨hvalue, hulids, hothers, houtcome⟩
      · have hstep : stepSecrets sha256 store after ⟨clock, .put scope key ""⟩ = ([], after) := by
          rw [stepSecrets]
          dsimp only
          rw [hput]
        rw [hstep, List.append_nil]
        exact h.unchanged (by simpa [TimedSecretsCall.ulidCall?] using h.tracks)
          (fun entry hentry ↦ by simpa [TimedSecretsCall.ulidCall?] using hentry) fun _ _ _ _ ↦ rfl
      · have hcalls : TimedSecretsCall.ulidCall? ⟨clock, .put scope key value⟩ = some ⟨(), clock⟩ :=
          if_neg hvalue
        rw [hcalls, Option.toList_some] at hspaced ⊢
        rw [hissued] at hothers houtcome
        rw [← hulids] at htracks
        -- the identifier is new, so no file that is held is written
        obtain ⟨hearlier, hown⟩ := spaced_snoc.mp hspaced
        have hnew : ∀ entry ∈ stamps calls, ulidOf entry ≠ ulidOf (stamp calls ⟨(), clock⟩) :=
          fun entry hentry heq ↦ (hearlier.not_mem_iff _).mpr hown
            (heq ▸ List.mem_map_of_mem hentry)
        have hfiles : ∀ scope' key', ∀ entry ∈ stamps calls,
            after.files.content? (store.secretPath scope' key' (ulidOf entry)) =
              process.files.content? (store.secretPath scope' key' (ulidOf entry)) :=
          fun scope' key' entry hentry ↦ hothers _ fun heq ↦ hnew entry hentry (secretPath_inj heq)
        have hkept := h.unchanged htracks hsnoc hfiles
        rcases houtcome with ⟨exception, rfl⟩ | ⟨rfl, hcontent⟩
        · have hstep : stepSecrets sha256 store process ⟨clock, .put scope key value⟩ =
              ([], after) := by
            rw [stepSecrets]
            dsimp only
            rw [hput]
          rw [hstep, List.append_nil]
          exact hkept
        · have hstep : stepSecrets sha256 store process ⟨clock, .put scope key value⟩ =
              ([⟨secretReference scope key (ulidOf (stamp calls ⟨(), clock⟩)), value⟩], after) := by
            rw [stepSecrets]
            dsimp only
            rw [hput]
          rw [hstep]
          refine ⟨htracks, ?_, ?_⟩
          · rw [List.map_append, List.map_singleton]
            refine List.nodup_append.mpr ⟨h.nodup, List.nodup_singleton _, ?_⟩
            intro reference hreference other hother heq
            obtain ⟨secret, hsecret, rfl⟩ := List.mem_map.mp hreference
            obtain ⟨-, scope', key', entry, hentry, hheld, -⟩ := h.held secret hsecret
            rw [List.mem_singleton.mp hother, hheld] at heq
            have hpaths := congrArg store.pathForReference heq
            rw [store.pathForReference_secretReference, store.pathForReference_secretReference] at hpaths
            exact hnew entry hentry (secretPath_inj (Except.ok.inj hpaths))
          · intro secret hsecret
            rcases List.mem_append.mp hsecret with hold | hlast
            · exact hkept.held secret hold
            · rw [List.mem_singleton.mp hlast]
              refine ⟨hvalue, scope, key, stamp calls ⟨(), clock⟩, ?_, rfl, hcontent⟩
              rw [stamps_snoc]
              exact List.mem_append_right _ (List.mem_singleton_self _)

theorem Spaced.of_append {earlier later : List (UlidCall Unit)} (h : Spaced (earlier ++ later)) :
    Spaced earlier :=
  fun before call hbefore ↦ h before call (hbefore.trans (List.prefix_append _ _))

/-- A run keeps what is stored, and adds what its calls return. -/
theorem Kept.run (h : Kept sha256 store calls stored process) (run : List TimedSecretsCall)
    (hspaced : Spaced (calls ++ run.filterMap TimedSecretsCall.ulidCall?)) :
    Kept sha256 store (calls ++ run.filterMap TimedSecretsCall.ulidCall?)
      (stored ++ (runSecrets sha256 store process run).1)
      (runSecrets sha256 store process run).2 := by
  induction run generalizing calls stored process with
  | nil =>
    rw [List.filterMap_nil, List.append_nil, runSecrets, List.append_nil]
    exact h
  | cons timed rest ih =>
    have hcalls : calls ++ (timed :: rest).filterMap TimedSecretsCall.ulidCall? =
        calls ++ timed.ulidCall?.toList ++ rest.filterMap TimedSecretsCall.ulidCall? := by
      rw [List.append_assoc, List.filterMap_cons]
      cases timed.ulidCall? <;> rfl
    rw [hcalls] at hspaced ⊢
    rw [runSecrets]
    dsimp only
    rw [← List.append_assoc]
    exact ih (h.step timed hspaced.of_append) hspaced

end Runs

section Clock

theorem length_takeWhile_le_filter {α : Type} (p : α → Bool) (items : List α) :
    (items.takeWhile p).length ≤ (items.filter p).length := by
  induction items with
  | nil => exact le_refl _
  | cons item rest ih =>
    rw [List.takeWhile_cons, List.filter_cons]
    split_ifs
    · exact Nat.succ_le_succ ih
    · exact Nat.zero_le _

/-- The calls of a process whose clock does not go back, is not before the epoch and stands still for no more
calls than a millisecond has room for have their milliseconds to themselves. -/
theorem spaced_of_clock {run : List (UlidCall Unit)}
    (hclock : run.Pairwise fun first second ↦ first.clock.millis ≤ second.clock.millis)
    (hepoch : ∀ call ∈ run, 0 ≤ call.clock.millis)
    (hroom : ∀ millis : ℤ, (run.filter fun call ↦ call.clock.millis = millis).length ≤ 32 ^ 16) :
    Spaced run := by
  rintro earlier call ⟨later, rfl⟩
  have hcall : call ∈ earlier ++ [call] ++ later := by simp
  have hbefore : ∀ other ∈ earlier, other.clock.millis ≤ call.clock.millis := by
    intro other hother
    rw [List.append_assoc, List.pairwise_append] at hclock
    exact hclock.2.2 other hother call (by simp)
  by_cases hsame : ∃ other ∈ earlier, other.clock.millis.toNat = call.clock.millis.toNat
  · left
    obtain ⟨other, hother, hmillis⟩ := hsame
    have hotherEpoch := hepoch other (by simp [hother])
    have hcallEpoch := hepoch call hcall
    constructor
    · -- the last call before it was in the same millisecond
      obtain ⟨before, last, rfl⟩ : ∃ before last, earlier = before ++ [last] :=
        ⟨_, _, (List.dropLast_append_getLast (List.ne_nil_of_mem hother)).symm⟩
      have hlast : last.clock.millis = call.clock.millis := by
        have hle := hbefore last (by simp)
        have hge : other.clock.millis ≤ last.clock.millis := by
          rcases List.mem_append.mp hother with hmem | hmem
          · rw [List.append_assoc, List.append_assoc, List.pairwise_append] at hclock
            exact hclock.2.2 other hmem last (by simp)
          · rw [List.mem_singleton.mp hmem]
        omega
      rw [← hlast, show call.process = last.process from rfl, burst_snoc_self]
      exact Nat.succ_pos _
    · have hburst : burst earlier call.process call.clock.millis ≤
          (earlier.filter fun other ↦ other.clock.millis = call.clock.millis).length := by
        rw [burst, List.filter_eq_self.mpr fun other _ ↦ decide_eq_true rfl]
        refine (length_takeWhile_le_filter _ _).trans (le_of_eq ?_)
        rw [List.filter_reverse, List.length_reverse]
      have hcount := hroom call.clock.millis
      rw [List.append_assoc, List.filter_append, List.singleton_append, List.filter_cons,
        if_pos (decide_eq_true rfl), List.length_append, List.length_cons] at hcount
      omega
  · right
    intro other hother hmillis
    exact hsame ⟨other, hother, hmillis⟩

theorem ulidCall?_clock {timed : TimedSecretsCall} {call : UlidCall Unit}
    (h : timed.ulidCall? = some call) : call.clock = timed.clock := by
  unfold TimedSecretsCall.ulidCall? at h
  split at h
  · cases h
    rfl
  · split_ifs at h
    cases h
    rfl

/-- A run asks for no more identifiers in a millisecond than it has calls there. -/
theorem length_ulidCalls_le (run : List TimedSecretsCall) (millis : ℤ) :
    ((run.filterMap TimedSecretsCall.ulidCall?).filter fun call ↦ call.clock.millis = millis).length ≤
      (run.filter fun timed ↦ timed.clock.millis = millis).length := by
  induction run with
  | nil => exact le_refl _
  | cons timed rest ih =>
    rw [List.filterMap_cons, List.filter_cons]
    cases hissued : timed.ulidCall? with
    | none =>
      dsimp only
      split_ifs
      · exact ih.trans (Nat.le_succ _)
      · exact ih
    | some call =>
      dsimp only
      rw [List.filter_cons, ulidCall?_clock hissued]
      split_ifs
      · exact Nat.succ_le_succ ih
      · exact ih

end Clock

/-- In one process, under a clock that does not go back, is not before the epoch and has no more than
`32 ^ 16` calls in a millisecond, the references that a run returned are distinct, and after it each leads to
the value it was returned for. -/
theorem secrets_round_trip {sha256 : Sha256} (reader : FloatReader)
    {store : LocalEncryptedSecretsStore} {files : SecretFiles} {run : List TimedSecretsCall}
    (hclock : run.Pairwise fun first second ↦ first.clock.millis ≤ second.clock.millis)
    (hepoch : ∀ timed ∈ run, 0 ≤ timed.clock.millis)
    (hroom : ∀ millis : ℤ, (run.filter fun timed ↦ timed.clock.millis = millis).length ≤ 32 ^ 16) :
    ((runSecrets sha256 store (startSecrets files) run).1.map StoredSecret.reference).Nodup ∧
      ∀ secret ∈ (runSecrets sha256 store (startSecrets files) run).1,
        store.getSecret sha256 reader secret.reference
          (runSecrets sha256 store (startSecrets files) run).2.files = .ok secret.value := by
  have hspaced : Spaced ([] ++ run.filterMap TimedSecretsCall.ulidCall?) := by
    refine spaced_of_clock ?_ ?_ fun millis ↦ (length_ulidCalls_le run millis).trans (hroom millis)
    · refine List.pairwise_filterMap.mpr (hclock.imp fun {first second} hle call hcall other hother ↦ ?_)
      rw [ulidCall?_clock hcall, ulidCall?_clock hother]
      exact hle
    · intro call hmem
      obtain ⟨timed, htimed, hissued⟩ := List.mem_filterMap.mp hmem
      rw [ulidCall?_clock hissued]
      exact hepoch timed htimed
  have hstart : Kept sha256 store [] [] (startSecrets files) :=
    ⟨tracks_ulidStart, List.nodup_nil, fun _ h ↦ absurd h List.not_mem_nil⟩
  have hkept := hstart.run run hspaced
  rw [List.nil_append] at hkept
  refine ⟨hkept.nodup, fun secret hsecret ↦ ?_⟩
  obtain ⟨hvalue, scope, key, entry, -, hreference, hcontent⟩ := hkept.held secret hsecret
  rw [hreference]
  exact getSecret_of_content? hvalue hcontent

/-- Two values of one key are kept under two references. -/
theorem secrets_round_trip_twice :
    ((runSecrets (fun _ ↦ Vector.replicate 32 7) ⟨["secrets"], "master"⟩ (startSecrets FileTree.empty)
      [⟨⟨5, by decide⟩, .put "connector" "token" "first"⟩,
        ⟨⟨5, by decide⟩, .put "connector" "token" "second"⟩]).1.map StoredSecret.reference).Nodup :=
  (secrets_round_trip textReader (by simp) (by simp) fun _ ↦
    (List.length_filter_le _ _).trans (by norm_num)).1

section Collisions

variable {sha256 : Sha256} {process : SecretsProcess}

/-- Directly below the root of the file system, where no directory is in the way, a value is stored. -/
theorem putSecret_root (sha256 : Sha256) (masterKey scope key : String) (clock : ClockMillis)
    {value : String} (hvalue : value ≠ "") (hdirs : ∀ name, process.files.isDir [name] = false) :
    ∃ files, LocalEncryptedSecretsStore.putSecret ⟨[], masterKey⟩ sha256 scope key value clock process =
        (.ok (secretReference scope key (newUlidAt clock.millis process.ulids).1),
          ⟨files, (newUlidAt clock.millis process.ulids).2⟩) ∧
      ∀ name, files.isDir [name] = false := by
  obtain ⟨name, hname⟩ : ∃ name, LocalEncryptedSecretsStore.secretPath ⟨[], masterKey⟩ scope key
    (newUlidAt clock.millis process.ulids).1 = [name] := ⟨_, rfl⟩
  have hmade : onSecretFiles (fun files ↦ files.makeDirs? [name].dropLast)
      ⟨process.files, (newUlidAt clock.millis process.ulids).2⟩ =
        (.ok (), ⟨process.files, (newUlidAt clock.millis process.ulids).2⟩) := rfl
  obtain ⟨written, hwritten⟩ := FileTree.exists_write?
    (LocalEncryptedSecretsStore.secretText ⟨[], masterKey⟩ sha256 scope key value) clock.millis
    (show process.files.isDir [name].dropLast = true from rfl) (hdirs name)
  refine ⟨written, ?_, fun other ↦ by rw [FileTree.isDir_write? hwritten, hdirs]⟩
  unfold LocalEncryptedSecretsStore.putSecret
  rw [if_neg hvalue, Effect.bind_apply]
  change ((Effect.ofExcept (LocalEncryptedSecretsStore.pathForReference ⟨[], masterKey⟩
    (secretReference scope key (newUlidAt clock.millis process.ulids).1)) >>= _) _) = _
  rw [LocalEncryptedSecretsStore.pathForReference_secretReference, Effect.bind_apply,
    Effect.ofExcept_apply]
  dsimp only
  rw [hname, Effect.bind_apply, hmade]
  dsimp only
  rw [Effect.bind_apply, onSecretFiles_some hwritten]
  rfl

/-- The references of a value that is stored over and over differ in the identifiers alone. -/
theorem references_replicate {masterKey scope key value : String} {clock : ClockMillis}
    (hvalue : value ≠ "") (count : ℕ) : ∀ process : SecretsProcess,
    (∀ name, process.files.isDir [name] = false) →
      (runSecrets sha256 ⟨[], masterKey⟩ process
        (List.replicate count ⟨clock, .put scope key value⟩)).1.map StoredSecret.reference =
          (issuedFrom (fun _ ↦ process.ulids) (List.replicate count (⟨(), clock⟩ : UlidCall Unit))).map
            (secretReference scope key) := by
  induction count with
  | zero => exact fun _ _ ↦ rfl
  | succ count ih =>
    intro process hdirs
    obtain ⟨files, hput, hfiles⟩ := putSecret_root sha256 masterKey scope key clock hvalue hdirs
    have hstep : stepSecrets sha256 ⟨[], masterKey⟩ process ⟨clock, .put scope key value⟩ =
        ([⟨secretReference scope key (newUlidAt clock.millis process.ulids).1, value⟩],
          ⟨files, (newUlidAt clock.millis process.ulids).2⟩) := by
      rw [stepSecrets]
      dsimp only
      rw [hput]
    have hstates : (callUlid (fun _ ↦ process.ulids) (⟨(), clock⟩ : UlidCall Unit)).2 =
        fun _ ↦ (newUlidAt clock.millis process.ulids).2 := by
      funext caller
      exact Function.update_self caller _ fun _ : Unit ↦ process.ulids
    rw [List.replicate_succ, List.replicate_succ, runSecrets, hstep, issuedFrom, hstates]
    dsimp only
    rw [List.map_append, ih _ hfiles]
    rfl

theorem burst_replicate (call : UlidCall Unit) (count : ℕ) :
    burst (List.replicate count call) call.process call.clock.millis = count := by
  induction count with
  | zero => rfl
  | succ count ih => rw [List.replicate_succ', burst_snoc_self, ih]

/-- One call more than a millisecond has room for gets an identifier that was issued before. -/
theorem not_nodup_replicate (call : UlidCall Unit) :
    ¬(issuedUlids (List.replicate (32 ^ 16 + 1) call)).Nodup := by
  intro hnodup
  rw [issuedUlids_eq, List.replicate_succ', stamps_snoc, List.map_append] at hnodup
  have hroom : 32 ^ 15 < burst (List.replicate (32 ^ 16) call) call.process call.clock.millis := by
    rw [burst_replicate]
    norm_num
  refine (List.nodup_append.mp hnodup).2.2 _ (List.mem_map_of_mem (mem_stamps_of_lt_burst hroom)) _
    (List.mem_map_of_mem (List.mem_singleton_self _)) ?_
  rw [stamp, burst_replicate, ulidOf, ulidOf, encodeBase32_overflow]

end Collisions

/-- Two calls before the epoch, or one call more in a millisecond than it has room for, get one reference. -/
theorem references_collide :
    (¬∀ (sha256 : Sha256) (store : LocalEncryptedSecretsStore) (files : SecretFiles)
      (run : List TimedSecretsCall),
      run.Pairwise (fun first second ↦ first.clock.millis ≤ second.clock.millis) →
      (∀ millis : ℤ, (run.filter fun timed ↦ timed.clock.millis = millis).length ≤ 32 ^ 16) →
      ((runSecrets sha256 store (startSecrets files) run).1.map StoredSecret.reference).Nodup) ∧
    ¬∀ (sha256 : Sha256) (store : LocalEncryptedSecretsStore) (files : SecretFiles)
      (run : List TimedSecretsCall),
      run.Pairwise (fun first second ↦ first.clock.millis ≤ second.clock.millis) →
      (∀ timed ∈ run, 0 ≤ timed.clock.millis) →
      ((runSecrets sha256 store (startSecrets files) run).1.map StoredSecret.reference).Nodup := by
  constructor
  · intro hall
    have hnodup := hall (fun _ ↦ Vector.replicate 32 7) ⟨["secrets"], "master"⟩ FileTree.empty
      [⟨⟨-2, by decide⟩, .put "connector" "token" "first"⟩,
        ⟨⟨-1, by decide⟩, .put "connector" "token" "second"⟩] (by simp) fun _ ↦
      (List.length_filter_le _ _).trans (by norm_num)
    revert hnodup
    decide +kernel
  · intro hall
    have hnodup := hall (fun _ ↦ Vector.replicate 32 7) ⟨[], "master"⟩ FileTree.empty
      (List.replicate (32 ^ 16 + 1) ⟨⟨5, by decide⟩, .put "connector" "token" "value"⟩)
      (List.pairwise_replicate.mpr (Or.inr (le_refl _)))
      fun timed htimed ↦ by rw [List.eq_of_mem_replicate htimed]; decide
    rw [references_replicate (by decide) _ _ fun _ ↦ rfl] at hnodup
    exact not_nodup_replicate ⟨(), ⟨5, by decide⟩⟩ hnodup.of_map

end SchemaPilot.SharedDomain
