import SchemaPilot.Library.Versions
import SchemaPilot.SharedDomain.GoldPointerFiles

/-!
# The pointer and its history over whole runs

`latest.json` ends every run of publications and rollbacks as the last entry of `history.json`, as
long as no publication repeats the build the history ends with under another snapshot or model: such
a publication replaces the latest pointer and is not entered in the history
(`historyAgrees_iff`).
-/

namespace SchemaPilot.SharedDomain

open Library Library.Json Library.Versions

inductive PointerCall where
  | publish (buildId snapshotId modelName : String) (now : ℤ)
  | rollback (buildId : Option String) (now : ℤ)
deriving DecidableEq

namespace GoldStore

/-- The store after a call; a rollback that raises leaves it as it was. -/
def after (workspaceId : String) (store : GoldStore) : PointerCall → GoldStore
  | .publish buildId snapshotId modelName _ =>
    store.publishGoldPointer workspaceId buildId snapshotId modelName
  | .rollback buildId _ =>
    match store.rollbackGoldPointer buildId with
    | .ok (_, final) => final
    | .error _ => store

def Agrees (store : GoldStore) : Prop := store.latest = store.history.getLast?

/-- A publication of the build the history ends with is one of the pointer it ends with. -/
def Faithful (workspaceId : String) (store : GoldStore) : PointerCall → Prop
  | .publish buildId snapshotId modelName _ =>
    store.history.getLast?.map GoldPointer.buildId = some buildId →
      store.history.getLast? = some ⟨workspaceId, buildId, snapshotId, modelName⟩
  | .rollback _ _ => True

theorem rollbackGoldPointer_eq_ok {store final : GoldStore} {buildId : Option String}
    {current target : GoldPointer}
    (h : store.rollbackGoldPointer buildId = .ok ((current, target), final)) :
    store.history.getLast? = some current ∧ final.latest = some target ∧
      final.history = if current = target then store.history else store.history ++ [target] := by
  unfold rollbackGoldPointer at h
  split at h
  · cases h
  · next last hlast =>
    cases htarget : rollbackTarget store.history last buildId with
    | error exception =>
      rw [htarget] at h
      cases h
    | ok found =>
      rw [htarget] at h
      cases h
      exact ⟨hlast, rfl, rfl⟩

/-- No call takes an entry out of the history. -/
theorem history_le_after (workspaceId : String) (store : GoldStore) (call : PointerCall) :
    store.history <+: (store.after workspaceId call).history := by
  cases call with
  | publish buildId snapshotId modelName now =>
    dsimp only [after, publishGoldPointer]
    split_ifs
    · exact List.prefix_rfl
    · exact List.prefix_append _ _
  | rollback buildId now =>
    rw [after]
    split
    · next report final hrun =>
      obtain ⟨-, -, hhistory⟩ := rollbackGoldPointer_eq_ok hrun
      rw [hhistory]
      split_ifs
      · exact List.prefix_rfl
      · exact List.prefix_append _ _
    · exact List.prefix_rfl

/-- A faithful call keeps the agreement. -/
theorem Agrees.after {workspaceId : String} {store : GoldStore} {call : PointerCall}
    (h : store.Agrees) (hfaithful : store.Faithful workspaceId call) :
    (store.after workspaceId call).Agrees := by
  cases call with
  | publish buildId snapshotId modelName now =>
    dsimp only [Agrees, GoldStore.after, publishGoldPointer]
    by_cases hlast : store.history.getLast?.map GoldPointer.buildId = some buildId
    · rw [if_pos hlast, hfaithful hlast]
    · rw [if_neg hlast, List.getLast?_concat]
  | rollback buildId now =>
    rw [GoldStore.after]
    split
    · next report final hrun =>
      obtain ⟨current, target⟩ := report
      obtain ⟨hcurrent, hlatest, hhistory⟩ := rollbackGoldPointer_eq_ok hrun
      rw [Agrees, hlatest, hhistory]
      by_cases hsame : current = target
      · rw [if_pos hsame, hcurrent, hsame]
      · rw [if_neg hsame, List.getLast?_concat]
    · exact h

/-- A publication the agreement survives was faithful. -/
theorem faithful_of_agrees {workspaceId : String} {store : GoldStore} {call : PointerCall}
    (h : (store.after workspaceId call).Agrees) : store.Faithful workspaceId call := by
  cases call with
  | publish buildId snapshotId modelName now =>
    intro hlast
    dsimp only [Agrees, GoldStore.after, publishGoldPointer] at h
    rw [if_pos hlast] at h
    exact h.symm
  | rollback buildId now => trivial

end GoldStore

namespace GoldFiles

variable (storageRoot : TreePath) (workspaceId : String)

def performCall : PointerCall → Files (Option (Entry × Entry))
  | .publish buildId snapshotId modelName now => do
    let _ ← publishGoldPointer storageRoot workspaceId buildId snapshotId modelName now
    return none
  | .rollback buildId now => do
    return some (← rollbackGoldPointer storageRoot workspaceId buildId now)

def filesAfter (initial : FileStore) (calls : List PointerCall) : FileStore :=
  run (fun files call ↦ (performCall storageRoot workspaceId call files).2) initial calls

/-- What `load_latest_gold_pointer` answers. -/
def latestAnswer (files : FileStore) : Except Exn (Option Entry) :=
  (loadLatestGoldPointer storageRoot workspaceId files).1

/-- The file system refuses no call of a run. -/
def Served (initial : FileStore) (calls : List PointerCall) : Prop :=
  ∀ earlier call, earlier ++ [call] <+: calls → ∀ message,
    (performCall storageRoot workspaceId call (filesAfter storageRoot workspaceId initial earlier)).1 ≠
      .error (.other message)

/-- The pointer and its history agree after a run: the latest pointer is the last entry, every
pointer that was ever latest is an entry, and every rollback reported as current the pointer that
was latest. -/
structure HistoryAgrees (initial : FileStore) (calls : List PointerCall) : Prop where
  latest : latestAnswer storageRoot workspaceId (filesAfter storageRoot workspaceId initial calls) =
    .ok (recordedHistory (filesAfter storageRoot workspaceId initial calls) storageRoot
      workspaceId).getLast?
  recorded : ∀ earlier, earlier <+: calls → ∀ entry,
    latestAnswer storageRoot workspaceId (filesAfter storageRoot workspaceId initial earlier) =
      .ok (some entry) →
    entry ∈ recordedHistory (filesAfter storageRoot workspaceId initial calls) storageRoot
      workspaceId
  reported : ∀ earlier buildId now, earlier ++ [.rollback buildId now] <+: calls →
    ∀ current target, (performCall storageRoot workspaceId (.rollback buildId now)
      (filesAfter storageRoot workspaceId initial earlier)).1 = .ok (some (current, target)) →
    latestAnswer storageRoot workspaceId (filesAfter storageRoot workspaceId initial earlier) =
      .ok (some current)

/-- No publication of a run repeats the build the history ends with under another snapshot or
model. -/
def RepublishesSame (initial : FileStore) (calls : List PointerCall) : Prop :=
  ∀ earlier buildId snapshotId modelName now,
    earlier ++ [.publish buildId snapshotId modelName now] <+: calls →
    lastBuildId (recordedHistory (filesAfter storageRoot workspaceId initial earlier) storageRoot
      workspaceId) = some buildId →
    (recordedHistory (filesAfter storageRoot workspaceId initial earlier) storageRoot
      workspaceId).getLast? = some (some ⟨workspaceId, buildId, snapshotId, modelName⟩)

/-- The files hold the pointers of a store, no latest one where it has none, and the history file is
JSON text. -/
structure Holds (files : FileStore) (store : GoldStore) : Prop where
  represents : Represents files storageRoot workspaceId store
  absent : store.latest = none → files.pathExists (latestPath storageRoot workspaceId) = false
  readable : ∀ bytes, files.content? (historyPath storageRoot workspaceId) ≠ some (.bytes bytes)

variable {storageRoot workspaceId}

theorem loadHistory_eq_error {files after : FileStore} {exception : Exn}
    (h : loadHistory storageRoot workspaceId files = (.error exception, after)) :
    after = files ∧ ((∃ message, exception = .other message) ∨
      ∃ bytes, files.content? (historyPath storageRoot workspaceId) = some (.bytes bytes)) := by
  unfold loadHistory at h
  rw [Effect.bind_apply, Files.pathExists_apply] at h
  dsimp only at h
  split_ifs at h
  · rw [Effect.bind_apply, Files.readJson_apply] at h
    rcases hcontent : files.content? (historyPath storageRoot workspaceId) with _ | value | bytes
    · rw [hcontent] at h
      cases h
      exact ⟨rfl, Or.inl ⟨_, rfl⟩⟩
    · rw [hcontent] at h
      cases h
    · rw [hcontent] at h
      cases h
      exact ⟨rfl, Or.inr ⟨bytes, rfl⟩⟩
  · cases h

theorem perform_eq_error {op : FileStore → Option FileStore} {files after : FileStore}
    {exception : Exn} (h : Files.perform op files = (.error exception, after)) :
    ∃ message, exception = .other message := by
  unfold Files.perform at h
  split at h
  · cases h
  · cases h
    exact ⟨_, rfl⟩

theorem writeHistory_eq_error {history : List Entry} {now : ℤ} {files after : FileStore}
    {exception : Exn}
    (h : writeHistory storageRoot workspaceId history now files = (.error exception, after)) :
    ∃ message, exception = .other message := by
  rcases Effect.bind_eq_error_iff.mp h with hmake | ⟨_, middle, -, hwrite⟩
  · exact perform_eq_error hmake
  · exact perform_eq_error hwrite

/-- A publication on a readable history fails only where the file system refuses it. -/
theorem publishGoldPointer_eq_error {buildId snapshotId modelName : String} {now : ℤ}
    {files after : FileStore} {exception : Exn}
    (hreadable : ∀ bytes,
      files.content? (historyPath storageRoot workspaceId) ≠ some (.bytes bytes))
    (h : publishGoldPointer storageRoot workspaceId buildId snapshotId modelName now files =
      (.error exception, after)) : ∃ message, exception = .other message := by
  rcases Effect.bind_eq_error_iff.mp h with hmake | ⟨_, made, hmake, hlatest⟩
  · exact perform_eq_error hmake
  rcases Effect.bind_eq_error_iff.mp hlatest with hwrite | ⟨_, written, hwrite, hload⟩
  · exact perform_eq_error hwrite
  rcases Effect.bind_eq_error_iff.mp hload with hread | ⟨history, loaded, -, hentered⟩
  · obtain ⟨-, hmessage | ⟨bytes, hbytes⟩⟩ := loadHistory_eq_error hread
    · exact hmessage
    · rw [Files.content?_writeJson hwrite, Files.content?_makeDirs hmake,
        if_neg (latestPath_ne_historyPath storageRoot workspaceId).symm] at hbytes
      exact absurd hbytes (hreadable bytes)
  rcases Effect.bind_eq_error_iff.mp hentered with hrun | ⟨_, _, -, hdone⟩
  · unfold Effect.onlyIf at hrun
    split_ifs at hrun
    · exact writeHistory_eq_error hrun
    · cases hrun
  · cases hdone

/-- A rollback that fails otherwise has written nothing, and the store refuses it too. -/
theorem rollbackGoldPointer_eq_error {buildId : Option String} {now : ℤ} {files after : FileStore}
    {exception : Exn} {store : GoldStore} (hholds : Holds storageRoot workspaceId files store)
    (h : rollbackGoldPointer storageRoot workspaceId buildId now files = (.error exception, after)) :
    (∃ message, exception = .other message) ∨
      after = files ∧ store.rollbackGoldPointer buildId = .error exception := by
  rcases Effect.bind_eq_error_iff.mp h with hread | ⟨history, loaded, hload, hlast⟩
  · obtain ⟨-, hmessage | ⟨bytes, hbytes⟩⟩ := loadHistory_eq_error hread
    · exact Or.inl hmessage
    · exact absurd hbytes (hholds.readable bytes)
  obtain ⟨rfl, rfl⟩ := loadHistory_eq_ok hload
  rw [hholds.represents.history, List.getLast?_map] at hlast
  unfold GoldStore.rollbackGoldPointer
  cases hcurrent : store.history.getLast? with
  | none =>
    rw [hcurrent] at hlast
    cases hlast
    exact Or.inr ⟨rfl, rfl⟩
  | some current =>
    rw [hcurrent] at hlast
    dsimp only [Option.map_some] at hlast
    rw [rollbackEntry_map_some] at hlast
    rcases Effect.bind_eq_error_iff.mp hlast with htarget | ⟨target, found, -, hwrite⟩
    · dsimp only
      cases hfound : GoldStore.rollbackTarget store.history current buildId with
      | error refused =>
        rw [hfound] at htarget
        cases htarget
        exact Or.inr ⟨rfl, rfl⟩
      | ok pointer =>
        rw [hfound] at htarget
        cases htarget
    · rcases Effect.bind_eq_error_iff.mp hwrite with hrefused | ⟨_, written, -, hentered⟩
      · exact Or.inl (perform_eq_error hrefused)
      rcases Effect.bind_eq_error_iff.mp hentered with hrun | ⟨_, _, -, hdone⟩
      · unfold Effect.onlyIf at hrun
        split_ifs at hrun
        · exact Or.inl (writeHistory_eq_error hrun)
        · cases hrun
      · cases hdone

theorem Holds.performCall {files : FileStore} {store : GoldStore} {call : PointerCall}
    (h : Holds storageRoot workspaceId files store)
    (hserved : ∀ message,
      (performCall storageRoot workspaceId call files).1 ≠ .error (.other message)) :
    Holds storageRoot workspaceId (GoldFiles.performCall storageRoot workspaceId call files).2
      (store.after workspaceId call) := by
  cases call with
  | publish buildId snapshotId modelName now =>
    rcases hrun : publishGoldPointer storageRoot workspaceId buildId snapshotId modelName now files
      with ⟨exception | pointer, after⟩
    · have hfailed : GoldFiles.performCall storageRoot workspaceId
          (.publish buildId snapshotId modelName now) files = (.error exception, after) := by
        rw [GoldFiles.performCall, Effect.bind_apply, hrun]
      obtain ⟨message, rfl⟩ := publishGoldPointer_eq_error h.readable hrun
      exact absurd (congrArg Prod.fst hfailed) (hserved message)
    · have hdone : GoldFiles.performCall storageRoot workspaceId
          (.publish buildId snapshotId modelName now) files = (.ok none, after) := by
        rw [GoldFiles.performCall, Effect.bind_apply, hrun]
        rfl
      rw [hdone]
      refine ⟨publishGoldPointer_represents h.represents hrun, fun hnone ↦ (by cases hnone),
        fun bytes hbytes ↦ ?_⟩
      rw [(publishGoldPointer_ok hrun).2,
        if_neg (latestPath_ne_historyPath storageRoot workspaceId).symm] at hbytes
      split_ifs at hbytes
      · cases hbytes
      · exact h.readable bytes hbytes
  | rollback buildId now =>
    rcases hrun : rollbackGoldPointer storageRoot workspaceId buildId now files
      with ⟨exception | report, after⟩
    · have hfailed : GoldFiles.performCall storageRoot workspaceId (.rollback buildId now) files =
          (.error exception, after) := by
        rw [GoldFiles.performCall, Effect.bind_apply, hrun]
      rcases rollbackGoldPointer_eq_error h hrun with ⟨message, rfl⟩ | ⟨rfl, hrefused⟩
      · exact absurd (congrArg Prod.fst hfailed) (hserved message)
      · rw [hfailed, GoldStore.after, hrefused]
        exact h
    · obtain ⟨current, target⟩ := report
      have hdone : GoldFiles.performCall storageRoot workspaceId (.rollback buildId now) files =
          (.ok (some (current, target)), after) := by
        rw [GoldFiles.performCall, Effect.bind_apply, hrun]
        rfl
      obtain ⟨currentPointer, targetPointer, final, -, -, hstore, hfinal⟩ :=
        rollbackGoldPointer_represents h.represents hrun
      rw [hdone, GoldStore.after, hstore]
      have hlatest := (GoldStore.rollbackGoldPointer_eq_ok hstore).2.1
      refine ⟨hfinal, fun hnone ↦ absurd (hlatest.symm.trans hnone) (by simp),
        fun bytes hbytes ↦ ?_⟩
      rw [(rollbackGoldPointer_ok hrun).2.2,
        if_neg (latestPath_ne_historyPath storageRoot workspaceId).symm] at hbytes
      split_ifs at hbytes
      · cases hbytes
      · exact h.readable bytes hbytes

theorem Holds.latestAnswer {files : FileStore} {store : GoldStore}
    (h : Holds storageRoot workspaceId files store) :
    GoldFiles.latestAnswer storageRoot workspaceId files = .ok (store.latest.map some) := by
  have hcontent := h.represents.latest
  unfold GoldFiles.latestAnswer loadLatestGoldPointer
  rw [Effect.bind_apply, Files.pathExists_apply]
  dsimp only
  cases hlatest : store.latest with
  | none =>
    rw [if_neg (by rw [h.absent hlatest]; exact Bool.false_ne_true)]
    rfl
  | some pointer =>
    rw [hlatest] at hcontent
    have hexists : files.pathExists (latestPath storageRoot workspaceId) = true := by
      unfold FileTree.pathExists
      unfold FileTree.content? at hcontent
      cases hnode : files.node? (latestPath storageRoot workspaceId) with
      | none =>
        rw [hnode] at hcontent
        cases hcontent
      | some node => rfl
    rw [if_pos hexists, Effect.bind_apply, Files.readJson_apply, hcontent]
    simp [Files.loads, normalizePointer_pointerJson]

section Runs

variable {initial : FileStore} {calls : List PointerCall}

def storeAfter (workspaceId : String) (calls : List PointerCall) : GoldStore :=
  run (GoldStore.after workspaceId) GoldStore.empty calls

theorem storeAfter_snoc (calls : List PointerCall) (call : PointerCall) :
    storeAfter workspaceId (calls ++ [call]) = (storeAfter workspaceId calls).after workspaceId call :=
  run_snoc _ _ _ _

theorem filesAfter_snoc (calls : List PointerCall) (call : PointerCall) :
    filesAfter storageRoot workspaceId initial (calls ++ [call]) =
      (performCall storageRoot workspaceId call
        (filesAfter storageRoot workspaceId initial calls)).2 :=
  run_snoc _ _ _ _

/-- The files follow the store all along a run. -/
theorem holds_filesAfter (hserved : Served storageRoot workspaceId initial calls)
    (hlatest : initial.pathExists (latestPath storageRoot workspaceId) = false)
    (hhistory : initial.pathExists (historyPath storageRoot workspaceId) = false) :
    ∀ earlier, earlier <+: calls → Holds storageRoot workspaceId
      (filesAfter storageRoot workspaceId initial earlier) (storeAfter workspaceId earlier) := by
  have hnone : ∀ path, initial.pathExists path = false → initial.content? path = none := by
    intro path hpath
    rw [FileTree.pathExists, Option.isSome_eq_false_iff, Option.isNone_iff_eq_none] at hpath
    rw [FileTree.content?, hpath]
  refine prefix_induction ?_ fun earlier call hprefix ih ↦ ?_
  · refine ⟨⟨hnone _ hlatest, ?_⟩, fun _ ↦ hlatest, fun bytes hbytes ↦ ?_⟩
    · change recordedHistory initial storageRoot workspaceId = []
      rw [recordedHistory, hnone _ hhistory]
    · exact absurd ((hnone _ hhistory).symm.trans hbytes) (by simp)
  · rw [filesAfter_snoc, storeAfter_snoc]
    exact ih.performCall (hserved earlier call hprefix)

/-- The history of a prefix of a run begins that of the run. -/
theorem history_mono (workspaceId : String) {earlier : List PointerCall} :
    ∀ {calls : List PointerCall}, earlier <+: calls →
      (storeAfter workspaceId earlier).history <+: (storeAfter workspaceId calls).history := by
  rintro _ ⟨rest, rfl⟩
  induction rest using List.reverseRecOn with
  | nil => rw [List.append_nil]
  | append_singleton rest call ih =>
    rw [← List.append_assoc, storeAfter_snoc]
    exact ih.trans (GoldStore.history_le_after workspaceId _ call)

/-- In every run that starts without pointers and that the file system serves, the latest pointer
and the history agree after every call exactly when no publication repeats the build the history
ends with under another snapshot or model. -/
theorem historyAgrees_iff (hserved : Served storageRoot workspaceId initial calls)
    (hlatest : initial.pathExists (latestPath storageRoot workspaceId) = false)
    (hhistory : initial.pathExists (historyPath storageRoot workspaceId) = false) :
    (∀ earlier, earlier <+: calls → HistoryAgrees storageRoot workspaceId initial earlier) ↔
      RepublishesSame storageRoot workspaceId initial calls := by
  have hholds := holds_filesAfter hserved hlatest hhistory
  have hrecorded : ∀ earlier, earlier <+: calls →
      recordedHistory (filesAfter storageRoot workspaceId initial earlier) storageRoot workspaceId =
        (storeAfter workspaceId earlier).history.map some := fun earlier hprefix ↦
    (hholds earlier hprefix).represents.history
  constructor
  · intro hagrees earlier buildId snapshotId modelName now hprefix hlast
    have hbefore : earlier <+: calls := (List.prefix_append _ _).trans hprefix
    have hafter := (hagrees _ hprefix).latest
    rw [(hholds _ hprefix).latestAnswer, hrecorded _ hprefix, List.getLast?_map] at hafter
    have hstore : (storeAfter workspaceId
        (earlier ++ [.publish buildId snapshotId modelName now])).Agrees :=
      Option.map_injective (Option.some_injective _) (Except.ok.inj hafter)
    rw [storeAfter_snoc] at hstore
    rw [hrecorded _ hbefore, lastBuildId_map_some] at hlast
    rw [hrecorded _ hbefore, List.getLast?_map, GoldStore.faithful_of_agrees hstore hlast]
    rfl
  · intro hsame
    have hstores : ∀ earlier, earlier <+: calls → (storeAfter workspaceId earlier).Agrees := by
      refine prefix_induction rfl fun earlier call hprefix ih ↦ ?_
      rw [storeAfter_snoc]
      refine ih.after ?_
      cases call with
      | publish buildId snapshotId modelName now =>
        intro hlast
        have hbefore : earlier <+: calls := (List.prefix_append _ _).trans hprefix
        have hentry := hsame earlier buildId snapshotId modelName now hprefix
          (by rw [hrecorded _ hbefore, lastBuildId_map_some]; exact hlast)
        rw [hrecorded _ hbefore, List.getLast?_map] at hentry
        exact Option.map_injective (Option.some_injective _) hentry
      | rollback buildId now => trivial
    have hanswers : ∀ earlier, earlier <+: calls →
        latestAnswer storageRoot workspaceId (filesAfter storageRoot workspaceId initial earlier) =
          .ok ((storeAfter workspaceId earlier).history.getLast?.map some) := by
      intro earlier hprefix
      rw [(hholds earlier hprefix).latestAnswer, hstores earlier hprefix]
    intro run hrun
    refine ⟨?_, fun earlier hearlier entry hentry ↦ ?_, ?_⟩
    · rw [hanswers run hrun, hrecorded run hrun, List.getLast?_map]
    · rw [hanswers earlier (hearlier.trans hrun), Except.ok.injEq] at hentry
      obtain ⟨pointer, hpointer, rfl⟩ := Option.map_eq_some_iff.mp hentry
      rw [hrecorded run hrun]
      exact List.mem_map_of_mem
        ((history_mono workspaceId hearlier).subset (List.mem_of_getLast? hpointer))
    · intro earlier buildId now hprefix current target hanswer
      have hbefore : earlier <+: calls := ((List.prefix_append _ _).trans hprefix).trans hrun
      rcases hrolled : rollbackGoldPointer storageRoot workspaceId buildId now
        (filesAfter storageRoot workspaceId initial earlier) with ⟨exception | report, after⟩
      · rw [performCall, Effect.bind_apply, hrolled] at hanswer
        cases hanswer
      · rw [performCall, Effect.bind_apply, hrolled] at hanswer
        cases hanswer
        have hcurrent := (rollbackGoldPointer_ok hrolled).1
        rw [hrecorded earlier hbefore, List.getLast?_map] at hcurrent
        rw [hanswers earlier hbefore, hcurrent]

end Runs

def refused {α : Type} : Except Exn α → Bool
  | .error (.other _) => true
  | _ => false

/-- A run is served when no call of it is refused after any part of it. -/
theorem served_of_all {initial : FileStore} {calls : List PointerCall}
    (h : (calls.inits.all fun earlier ↦ calls.all fun call ↦ !refused
      (performCall storageRoot workspaceId call
        (filesAfter storageRoot workspaceId initial earlier)).1) = true) :
    Served storageRoot workspaceId initial calls := by
  intro earlier call hprefix message hmessage
  have hearlier : earlier ∈ calls.inits :=
    (List.mem_inits _ _).mpr ((List.prefix_append _ _).trans hprefix)
  have hcall : call ∈ calls := hprefix.subset (List.mem_append_right _ (List.mem_singleton_self _))
  have hfound := List.all_eq_true.mp (List.all_eq_true.mp h earlier hearlier) call hcall
  rw [hmessage] at hfound
  cases hfound

def publishedAndRolledBack : List PointerCall :=
  [.publish "b1" "s1" "orders" 1, .publish "b2" "s2" "orders" 2, .rollback none 3]

theorem rollback_agrees :
    (∀ earlier, earlier <+: publishedAndRolledBack →
      HistoryAgrees ["storage"] "w1" FileTree.empty earlier) ↔
    RepublishesSame ["storage"] "w1" FileTree.empty publishedAndRolledBack :=
  historyAgrees_iff (served_of_all (by decide +kernel)) rfl rfl

/-- One build published with a snapshot and again with another. -/
def publishedAgain : List PointerCall :=
  [.publish "b1" "s1" "orders" 1, .publish "b1" "s2" "orders" 2]

/-- The second snapshot is the latest and the first one the history. -/
theorem second_snapshot_unrecorded :
    ¬∀ (storageRoot : TreePath) (workspaceId : String) (initial : FileStore)
      (calls : List PointerCall), Served storageRoot workspaceId initial calls →
      initial.pathExists (latestPath storageRoot workspaceId) = false →
      initial.pathExists (historyPath storageRoot workspaceId) = false →
      HistoryAgrees storageRoot workspaceId initial calls := by
  intro h
  have hagrees := h ["storage"] "w1" FileTree.empty publishedAgain
    (served_of_all (by decide +kernel)) rfl rfl
  have hlatest : (latestAnswer ["storage"] "w1"
      (filesAfter ["storage"] "w1" FileTree.empty publishedAgain)).toOption ≠
      some (recordedHistory (filesAfter ["storage"] "w1" FileTree.empty publishedAgain)
        ["storage"] "w1").getLast? := by decide +kernel
  rw [hagrees.latest] at hlatest
  exact hlatest rfl

end GoldFiles

end SchemaPilot.SharedDomain
