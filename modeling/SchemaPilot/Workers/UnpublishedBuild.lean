import SchemaPilot.Library.EffectLogic
import SchemaPilot.Library.Except
import SchemaPilot.Workers.Gold

/-!
# Builds that may not publish

What `build_gold_snapshot` with `allow_publish=False` does to what readers see as published: the latest
pointer, the history of pointers and the semantic manifest of the workspace. It writes the manifest in
every case, and a placeholder where there is no pointer; `unpublished_kept_iff` says when nothing of
what readers see changes.
-/

namespace SchemaPilot.Workers.UnpublishedBuild

open Library Library.Json Library.Effect SharedDomain SharedDomain.GoldFiles

def publishedFiles (outputRoot : TreePath) (workspaceId : String) : List TreePath :=
  [latestPath outputRoot workspaceId, historyPath outputRoot workspaceId,
    semanticManifestPath outputRoot workspaceId]

/-- Readers see the same pointer, the same history and the same manifest. -/
structure PublishedKept (outputRoot : TreePath) (workspaceId : String) (before after : FileStore) :
    Prop where
  latest : (loadLatestGoldPointer outputRoot workspaceId after).1 =
    (loadLatestGoldPointer outputRoot workspaceId before).1
  history : (loadHistory outputRoot workspaceId after).1 =
    (loadHistory outputRoot workspaceId before).1
  manifest : after.content? (semanticManifestPath outputRoot workspaceId) =
    before.content? (semanticManifestPath outputRoot workspaceId)

/-- The maintenance report, if there is one, is none of the published files. -/
def ReportAside (outputRoot : TreePath) (call : GoldCall) : Prop :=
  call.runMaintenanceHooksEnabled = true →
    reportPath outputRoot call ∉ publishedFiles outputRoot call.workspaceId

/-- There is a pointer, the manifest is the one the call renders, and neither a directory nor the
report gets in the way. -/
structure Unobtrusive (outputRoot : TreePath) (files : FileStore) (call : GoldCall) : Prop where
  pointer : files.pathExists (latestPath outputRoot call.workspaceId) = true
  manifest : files.content? (semanticManifestPath outputRoot call.workspaceId) =
    some (.json (canon (goldManifest call)))
  directories : files.pathExists (historyPath outputRoot call.workspaceId) = true ∨
    ¬historyPath outputRoot call.workspaceId <+:
      goldRoot outputRoot call.workspaceId call.modelName call.snapshotId
  report : ReportAside outputRoot call

variable {outputRoot : TreePath} {workspaceId : String}

theorem joinNames_workspace (h : IsPlainName workspaceId) (outputRoot : TreePath)
    (names : List String) (hnames : ∀ name ∈ names, IsPlainName name) :
    joinNames outputRoot ("gold" :: workspaceId :: names) =
      outputRoot ++ "gold" :: workspaceId :: names := by
  have hplain : ∀ (texts : List String), (∀ text ∈ texts, IsPlainName text) → ∀ base : TreePath,
      joinNames base texts = base ++ texts := by
    intro texts
    induction texts with
    | nil => exact fun _ base ↦ (List.append_nil base).symm
    | cons text rest ih =>
      intro htexts base
      rw [joinNames, List.foldl_cons, joinName_plain (htexts text List.mem_cons_self)]
      change joinNames (base ++ [text]) rest = _
      rw [ih fun other hother ↦ htexts other (List.mem_cons_of_mem _ hother), List.append_assoc]
      rfl
  refine hplain _ ?_ outputRoot
  simp only [List.forall_mem_cons]
  exact ⟨by decide, h, hnames⟩

theorem publishedRoot_plain (h : IsPlainName workspaceId) :
    publishedRoot outputRoot workspaceId = pointerDir outputRoot workspaceId :=
  joinNames_workspace h outputRoot ["_published"] (by decide)

theorem publishedPointerPath_plain (h : IsPlainName workspaceId) :
    publishedPointerPath outputRoot workspaceId = latestPath outputRoot workspaceId := by
  rw [publishedPointerPath, publishedRoot_plain h, latestPath]

theorem semanticRoot_plain (h : IsPlainName workspaceId) :
    semanticRoot outputRoot workspaceId =
      outputRoot ++ ["gold", workspaceId, "semantic_manifest", "v1"] :=
  joinNames_workspace h outputRoot ["semantic_manifest", "v1"] (by decide)

theorem maintenanceRoot_plain (h : IsPlainName workspaceId) :
    maintenanceRoot outputRoot workspaceId = outputRoot ++ ["gold", workspaceId, "_maintenance"] :=
  joinNames_workspace h outputRoot ["_maintenance"] (by decide)

/-- No published file leads on to a directory of its kind. -/
theorem not_prefix_of_published {path : TreePath} (hpath : path ∈ publishedFiles outputRoot workspaceId)
    (h : IsPlainName workspaceId) : ¬path <+: semanticRoot outputRoot workspaceId ∧
      ¬path <+: publishedRoot outputRoot workspaceId ∧
        ¬path <+: maintenanceRoot outputRoot workspaceId := by
  rw [semanticRoot_plain h, publishedRoot_plain h, maintenanceRoot_plain h]
  rw [publishedFiles, semanticManifestPath, semanticRoot_plain h] at hpath
  simp only [List.mem_cons, List.not_mem_nil, or_false] at hpath
  rcases hpath with rfl | rfl | rfl <;>
    simp [latestPath, historyPath, pointerDir, List.append_assoc, List.prefix_append_right_inj]

theorem metricsPath_notMem (call : GoldCall) :
    metricsPath outputRoot call ∉ publishedFiles outputRoot workspaceId := by
  intro hpath
  have hlast : ∀ path ∈ publishedFiles outputRoot workspaceId,
      path.getLast? ≠ some "metrics.json" := by
    simp [publishedFiles, latestPath, historyPath, semanticManifestPath]
  exact hlast _ hpath (by simp [metricsPath])

/-- The published files are what they were. -/
def Same (outputRoot : TreePath) (workspaceId : String) (before after : FileStore) : Prop :=
  ∀ path ∈ publishedFiles outputRoot workspaceId,
    after.content? path = before.content? path ∧ after.isDir path = before.isDir path

variable {before files : FileStore}

theorem Same.pathExists {after : FileStore} (h : Same outputRoot workspaceId before after)
    {path : TreePath} (hpath : path ∈ publishedFiles outputRoot workspaceId) :
    after.pathExists path = before.pathExists path := by
  rw [FileTree.pathExists_eq, FileTree.pathExists_eq, FileTree.isFile, FileTree.isFile,
    (h path hpath).1, (h path hpath).2]

theorem ends_makeDirs_same (h : Same outputRoot workspaceId before files) {made : TreePath}
    (hmade : ∀ path ∈ publishedFiles outputRoot workspaceId,
      before.pathExists path = true ∨ ¬path <+: made) :
    Ends (Files.makeDirs made) files (fun _ after ↦ Same outputRoot workspaceId before after)
      fun _ after ↦ Same outputRoot workspaceId before after := by
  refine ends_of_after ?_
  rw [Files.makeDirs, Files.perform_after]
  cases hrun : files.makeDirs? made with
  | none => exact h
  | some after =>
    intro path hpath
    rw [Option.getD_some, FileTree.content?_makeDirs? hrun, ← (h path hpath).2]
    refine ⟨(h path hpath).1, ?_⟩
    rcases hmade path hpath with hexists | hother
    · rw [← h.pathExists hpath] at hexists
      exact FileTree.isDir_makeDirs?_of_pathExists hrun hexists
    · rw [FileTree.isDir_makeDirs? hrun, decide_eq_false hother, Bool.false_or]

theorem ends_writeJson_same (h : Same outputRoot workspaceId before files) {path : TreePath}
    {value : Json} (hpath : path ∈ publishedFiles outputRoot workspaceId →
      before.content? path = some (.json value)) (now : ℤ) :
    Ends (Files.writeJson path value now) files
      (fun _ after ↦ Same outputRoot workspaceId before after)
      fun _ after ↦ Same outputRoot workspaceId before after := by
  refine ends_of_after ?_
  rw [Files.writeJson, Files.perform_after]
  cases hrun : files.write? path (.json value) now with
  | none => exact h
  | some after =>
    intro other hother
    rw [Option.getD_some, FileTree.content?_write? hrun, FileTree.isDir_write? hrun]
    refine ⟨?_, (h other hother).2⟩
    by_cases hsame : other = path
    · rw [if_pos hsame, hsame, hpath (hsame ▸ hother)]
    · rw [if_neg hsame]
      exact (h other hother).1

theorem ends_writePointer_same {call : GoldCall} (hplain : IsPlainName call.workspaceId)
    (hunpublished : call.allowPublish = false) (h : Same outputRoot call.workspaceId before files)
    (hpointer : before.pathExists (latestPath outputRoot call.workspaceId) = true) :
    Ends (writePointer outputRoot call) files
      (fun _ after ↦ Same outputRoot call.workspaceId before after)
      fun _ after ↦ Same outputRoot call.workspaceId before after := by
  unfold writePointer
  refine (ends_makeDirs_same h fun _ hpath ↦
    Or.inr (not_prefix_of_published hpath hplain).2.1).bind fun _ _ hroot ↦ ?_
  rw [if_neg (by simp [hunpublished]), publishedPointerPath_plain hplain]
  refine ends_read_bind (ends_onlyIf (fun hmissing ↦ ?_) fun _ ↦ hroot)
  rw [hroot.pathExists List.mem_cons_self, hpointer] at hmissing
  cases hmissing

theorem ends_hooks_same {call : GoldCall} (hplain : IsPlainName call.workspaceId)
    (h : Same outputRoot call.workspaceId before files) (hreport : ReportAside outputRoot call) :
    Ends (runIcebergMaintenanceHooks outputRoot call) files
      (fun _ after ↦ Same outputRoot call.workspaceId before after)
      fun _ after ↦ Same outputRoot call.workspaceId before after := by
  unfold runIcebergMaintenanceHooks
  by_cases henabled : call.runMaintenanceHooksEnabled = true
  · rw [if_pos henabled]
    refine (ends_makeDirs_same h fun _ hpath ↦
      Or.inr (not_prefix_of_published hpath hplain).2.2).bind fun _ _ hroot ↦ ?_
    refine (ends_writeJson_same hroot (fun hpath ↦ ?_) call.now).bind fun _ _ hafter ↦
      ends_pure hafter
    exact absurd hpath (hreport henabled)
  · rw [if_neg henabled]
    exact ends_pure h

/-- The published files are what they were after a build that finds its own manifest. -/
theorem ends_build_same {addFloat : Json → Json → Except Exn Json} {call : GoldCall}
    (hplain : IsPlainName call.workspaceId) (hunpublished : call.allowPublish = false)
    (h : Unobtrusive outputRoot files call) :
    Ends (buildGoldSnapshot addFloat outputRoot call) files
      (fun _ after ↦ Same outputRoot call.workspaceId files after)
      fun _ after ↦ Same outputRoot call.workspaceId files after := by
  have hstart : Same outputRoot call.workspaceId files files := fun _ _ ↦ ⟨rfl, rfl⟩
  have hmanifest : files.pathExists (semanticManifestPath outputRoot call.workspaceId) = true := by
    rw [FileTree.pathExists_eq, FileTree.isFile, h.manifest, Option.isSome_some, Bool.or_true]
  unfold buildGoldSnapshot
  refine Ends.bind (Q := fun _ after ↦ Same outputRoot call.workspaceId files after)
    (ends_ofExcept (fun _ _ ↦ hstart) fun _ _ ↦ hstart) fun total _ hkept ↦ ?_
  refine (ends_makeDirs_same hkept ?_).bind fun _ _ hmade ↦ ?_
  · simp only [publishedFiles, List.forall_mem_cons]
    exact ⟨Or.inl h.pointer, h.directories, Or.inl hmanifest, by simp⟩
  refine (ends_writeJson_same hmade (fun hpath ↦ ?_) call.now).bind fun _ _ hwritten ↦ ?_
  · exact absurd hpath (metricsPath_notMem call)
  refine (ends_makeDirs_same hwritten fun _ hpath ↦
    Or.inr (not_prefix_of_published hpath hplain).1).bind fun _ _ hsemantic ↦ ?_
  refine (ends_writeJson_same hsemantic (fun _ ↦ h.manifest) call.now).bind fun _ _ hrendered ↦ ?_
  refine (ends_writePointer_same hplain hunpublished hrendered h.pointer).bind fun _ _ hpointer ↦ ?_
  exact (ends_hooks_same hplain hpointer h.report).bind fun _ _ hafter ↦ ends_pure hafter

theorem loadLatest_apply (outputRoot : TreePath) (workspaceId : String) (files : FileStore) :
    (loadLatestGoldPointer outputRoot workspaceId files).1 =
      if files.pathExists (latestPath outputRoot workspaceId) then
        (Files.loads (files.content? (latestPath outputRoot workspaceId))).map
          fun raw ↦ some (normalizePointer raw)
      else .ok none := by
  rw [loadLatestGoldPointer, bind_apply, Files.pathExists_apply]
  dsimp only
  split_ifs
  · rw [bind_apply, Files.readJson_apply]
    rcases Files.loads (files.content? (latestPath outputRoot workspaceId)) with _ | _ <;> rfl
  · rfl

theorem loadHistory_apply (outputRoot : TreePath) (workspaceId : String) (files : FileStore) :
    (loadHistory outputRoot workspaceId files).1 =
      if files.pathExists (historyPath outputRoot workspaceId) then
        (Files.loads (files.content? (historyPath outputRoot workspaceId))).map historyEntries
      else .ok [] := by
  rw [loadHistory, bind_apply, Files.pathExists_apply]
  dsimp only
  split_ifs
  · rw [bind_apply, Files.readJson_apply]
    rcases Files.loads (files.content? (historyPath outputRoot workspaceId)) with _ | _ <;> rfl
  · rfl

theorem Same.published {after : FileStore} (h : Same outputRoot workspaceId before after) :
    PublishedKept outputRoot workspaceId before after := by
  have hlatest : latestPath outputRoot workspaceId ∈ publishedFiles outputRoot workspaceId := by
    simp [publishedFiles]
  have hhistory : historyPath outputRoot workspaceId ∈ publishedFiles outputRoot workspaceId := by
    simp [publishedFiles]
  refine ⟨?_, ?_, ?_⟩
  · rw [loadLatest_apply, loadLatest_apply, h.pathExists hlatest, (h _ hlatest).1]
  · rw [loadHistory_apply, loadHistory_apply, h.pathExists hhistory, (h _ hhistory).1]
  · exact (h _ (by simp [publishedFiles])).1

/-- Directories stay directories and files stay files. -/
def Grows (before after : FileStore) : Prop :=
  ∀ path, (before.isDir path = true → after.isDir path = true) ∧
    (before.isFile path = true → after.isFile path = true)

instance : IsPreorder FileStore Grows where
  refl _ _ := ⟨id, id⟩
  trans _ _ _ hfirst hsecond path :=
    ⟨fun h ↦ (hsecond path).1 ((hfirst path).1 h), fun h ↦ (hsecond path).2 ((hfirst path).2 h)⟩

theorem Grows.pathExists {after : FileStore} (h : Grows before after) {path : TreePath}
    (hpath : before.pathExists path = true) : after.pathExists path = true := by
  rw [FileTree.pathExists_eq, Bool.or_eq_true] at hpath ⊢
  exact hpath.imp (h path).1 (h path).2

theorem advances_makeDirs (made : TreePath) : Advances Grows (Files.makeDirs made) := by
  intro files path
  rw [Files.makeDirs, Files.perform_after]
  cases hrun : files.makeDirs? made with
  | none => exact ⟨id, id⟩
  | some after =>
    rw [Option.getD_some, FileTree.isDir_makeDirs? hrun, FileTree.isFile, FileTree.isFile,
      FileTree.content?_makeDirs? hrun]
    exact ⟨fun h ↦ by rw [h, Bool.or_true], id⟩

theorem advances_writeJson (path : TreePath) (value : Json) (now : ℤ) :
    Advances Grows (Files.writeJson path value now) := by
  intro files other
  rw [Files.writeJson, Files.perform_after]
  cases hrun : files.write? path (.json value) now with
  | none => exact ⟨id, id⟩
  | some after =>
    rw [Option.getD_some, FileTree.isDir_write? hrun, FileTree.isFile, FileTree.isFile,
      FileTree.content?_write? hrun]
    refine ⟨id, fun h ↦ ?_⟩
    by_cases hother : other = path
    · rw [if_pos hother]
      rfl
    · rw [if_neg hother]
      exact h

theorem advances_hooks (call : GoldCall) :
    Advances Grows (runIcebergMaintenanceHooks outputRoot call) := by
  unfold runIcebergMaintenanceHooks
  split_ifs
  · exact (advances_makeDirs _).bind fun _ ↦ (advances_writeJson _ _ _).bind fun _ ↦
      advances_pure _
  · exact advances_pure _

theorem advances_writePointer (call : GoldCall) : Advances Grows (writePointer outputRoot call) := by
  unfold writePointer
  refine (advances_makeDirs _).bind fun _ ↦ ?_
  split_ifs
  · exact advances_writeJson _ _ _
  · exact Advances.bind (fun _ ↦ refl_of Grows _) fun _ ↦ (advances_writeJson _ _ _).onlyIf

/-- There is a pointer or a placeholder when `writePointer` returns. -/
theorem pathExists_of_writePointer {call : GoldCall} (hplain : IsPlainName call.workspaceId)
    (hunpublished : call.allowPublish = false) {after : FileStore} {done : Unit}
    (h : writePointer outputRoot call files = (.ok done, after)) :
    after.pathExists (latestPath outputRoot call.workspaceId) = true := by
  obtain ⟨_, made, -, h⟩ := bind_eq_ok_iff.mp h
  rw [if_neg (by simp [hunpublished]), publishedPointerPath_plain hplain] at h
  obtain ⟨found, _, hfound, h⟩ := bind_eq_ok_iff.mp h
  cases hfound
  rcases onlyIf_eq_ok_iff.mp h with ⟨-, hwrite⟩ | ⟨hexists, rfl⟩
  · rw [FileTree.pathExists_eq, FileTree.isFile, Files.content?_writeJson hwrite, if_pos rfl,
      Option.isSome_some, Bool.or_true]
  · exact by simpa using hexists

/-- What a build that returns leaves of what is published. -/
structure Leaves (outputRoot : TreePath) (call : GoldCall) (after : FileStore) : Prop where
  pointer : after.pathExists (latestPath outputRoot call.workspaceId) = true
  directory : historyPath outputRoot call.workspaceId <+:
    goldRoot outputRoot call.workspaceId call.modelName call.snapshotId →
      after.isDir (historyPath outputRoot call.workspaceId) = true
  manifest : ReportAside outputRoot call →
    after.content? (semanticManifestPath outputRoot call.workspaceId) =
      some (.json (canon (goldManifest call)))

theorem keeps_manifest_writePointer (call : GoldCall) :
    Keeps (fun files ↦ files.content? (semanticManifestPath outputRoot call.workspaceId))
      (writePointer outputRoot call) := by
  have hother : semanticManifestPath outputRoot call.workspaceId ≠
      publishedPointerPath outputRoot call.workspaceId := by
    intro hsame
    have hlast := congrArg List.getLast? hsame
    simp [semanticManifestPath, publishedPointerPath] at hlast
  unfold writePointer
  refine (Files.keeps_makeDirs _ _).bind fun _ ↦ ?_
  split_ifs
  · exact Files.keeps_writeJson hother _ _
  · exact Keeps.bind (fun _ ↦ rfl) fun _ ↦ (Files.keeps_writeJson hother _ _).onlyIf

theorem keeps_manifest_hooks {call : GoldCall} (hreport : ReportAside outputRoot call) :
    Keeps (fun files ↦ files.content? (semanticManifestPath outputRoot call.workspaceId))
      (runIcebergMaintenanceHooks outputRoot call) := by
  unfold runIcebergMaintenanceHooks
  by_cases henabled : call.runMaintenanceHooksEnabled = true
  · have hother : semanticManifestPath outputRoot call.workspaceId ≠ reportPath outputRoot call := by
      intro hsame
      refine hreport henabled (hsame ▸ ?_)
      simp [publishedFiles]
    rw [if_pos henabled]
    exact (Files.keeps_makeDirs _ _).bind fun _ ↦
      (Files.keeps_writeJson hother _ _).bind fun _ ↦ keeps_pure _
  · rw [if_neg henabled]
    exact keeps_pure _

theorem leaves_of_ok {addFloat : Json → Json → Except Exn Json} {call : GoldCall}
    {result : GoldBuildResult} {after : FileStore} (hplain : IsPlainName call.workspaceId)
    (hunpublished : call.allowPublish = false)
    (hrun : buildGoldSnapshot addFloat outputRoot call files = (.ok result, after)) :
    Leaves outputRoot call after := by
  obtain ⟨total, _, htotal, hrun⟩ := bind_eq_ok_iff.mp hrun
  obtain ⟨_, made, hmade, hrun⟩ := bind_eq_ok_iff.mp hrun
  obtain ⟨_, written, hwritten, hrun⟩ := bind_eq_ok_iff.mp hrun
  obtain ⟨_, semantic, hsemantic, hrun⟩ := bind_eq_ok_iff.mp hrun
  obtain ⟨_, rendered, hrendered, hrun⟩ := bind_eq_ok_iff.mp hrun
  obtain ⟨_, pointed, hpointed, hrun⟩ := bind_eq_ok_iff.mp hrun
  obtain ⟨report, final, hhooks, hdone⟩ := bind_eq_ok_iff.mp hrun
  cases hdone
  have hlast : Grows pointed after := (advances_hooks call).of_run hhooks
  refine ⟨hlast.pathExists (pathExists_of_writePointer hplain hunpublished hpointed), ?_, ?_⟩
  · intro hprefix
    have hdir : made.isDir (historyPath outputRoot call.workspaceId) = true := by
      rw [FileTree.isDir_makeDirs? (Files.perform_eq_ok hmade), decide_eq_true hprefix,
        Bool.true_or]
    have hgrows : Grows made after := by
      refine trans_of Grows ((advances_writeJson _ _ _).of_run hwritten) ?_
      refine trans_of Grows ((advances_makeDirs _).of_run hsemantic) ?_
      refine trans_of Grows ((advances_writeJson _ _ _).of_run hrendered) ?_
      exact trans_of Grows ((advances_writePointer call).of_run hpointed) hlast
    exact (hgrows _).1 hdir
  · intro hreport
    have hpointer := (keeps_manifest_writePointer call).of_run hpointed
    have hhook := (keeps_manifest_hooks hreport).of_run hhooks
    rw [hhook, hpointer, Files.content?_writeJson hrendered, if_pos rfl]

/-- A build without permission to publish leaves what readers see as it was if there is a pointer, the
manifest is the one it renders, and neither a directory nor the report gets in the way; where the
report keeps aside, a build that returns leaves it as it was only then. -/
theorem unpublished_kept_iff (addFloat : Json → Json → Except Exn Json) (outputRoot : TreePath)
    (files : FileStore) (call : GoldCall) (hplain : IsPlainName call.workspaceId)
    (hunpublished : call.allowPublish = false) :
    (Unobtrusive outputRoot files call → PublishedKept outputRoot call.workspaceId files
      (buildGoldSnapshot addFloat outputRoot call files).2) ∧
    ((buildGoldSnapshot addFloat outputRoot call files).1.isOk = true →
      ReportAside outputRoot call → PublishedKept outputRoot call.workspaceId files
        (buildGoldSnapshot addFloat outputRoot call files).2 → Unobtrusive outputRoot files call) := by
  refine ⟨fun h ↦ (ends_build_same hplain hunpublished h).after.published, ?_⟩
  intro hok hreport hkept
  rcases hrun : buildGoldSnapshot addFloat outputRoot call files with ⟨exception | result, after⟩
  · rw [hrun] at hok
    cases hok
  rw [hrun] at hkept
  have hleaves := leaves_of_ok hplain hunpublished hrun
  refine ⟨?_, ?_, ?_, hreport⟩
  · by_contra hmissing
    have hlatest := hkept.latest
    rw [loadLatest_apply, loadLatest_apply, if_pos hleaves.pointer, if_neg hmissing] at hlatest
    obtain ⟨raw, -, hraw⟩ := map_eq_ok_iff.mp hlatest
    cases hraw
  · rw [← hkept.manifest]
    exact hleaves.manifest hreport
  · by_contra hmade
    rw [not_or, not_not] at hmade
    have hdir := hleaves.directory hmade.2
    have hexists : after.pathExists (historyPath outputRoot call.workspaceId) = true := by
      rw [FileTree.pathExists_eq, hdir, Bool.true_or]
    have hhistory := hkept.history
    rw [loadHistory_apply, loadHistory_apply, if_pos hexists, if_neg hmade.1,
      FileTree.content?_eq_none_of_isDir hdir] at hhistory
    cases hhistory

def financeBuild (allowPublish : Bool) : GoldCall :=
  ⟨"w1", "finance", [], "amount", "gold-1", allowPublish, false, 0⟩

/-- No row is added up here. -/
def noAddition (total _value : Json) : Except Exn Json := .ok total

/-- The storage after the finance model was published. -/
def financePublished : FileStore :=
  (buildGoldSnapshot noAddition ["srv"] (financeBuild true) .empty).2

theorem financeBuild_again : PublishedKept ["srv"] "w1" financePublished
    (buildGoldSnapshot noAddition ["srv"] (financeBuild false) financePublished).2 := by
  have hunobtrusive : Unobtrusive ["srv"] financePublished (financeBuild false) := by
    refine ⟨by decide +kernel, by decide +kernel, Or.inr (by decide +kernel), fun henabled ↦ ?_⟩
    cases henabled
  exact (unpublished_kept_iff noAddition ["srv"] financePublished (financeBuild false)
    (by decide) rfl).1 hunobtrusive

/-- In an empty workspace a build without permission to publish leaves a pointer to read. -/
theorem financeBuild_first : ¬PublishedKept ["srv"] "w1" .empty
    (buildGoldSnapshot noAddition ["srv"] (financeBuild false) .empty).2 := by
  intro hkept
  have hlatest := hkept.latest
  have hnone : (loadLatestGoldPointer ["srv"] "w1" .empty).1 = .ok none := rfl
  have hsome : (((loadLatestGoldPointer ["srv"] "w1"
      (buildGoldSnapshot noAddition ["srv"] (financeBuild false) .empty).2).1.toOption).map
        Option.isSome) = some true := by
    decide +kernel
  rw [hlatest, hnone] at hsome
  cases hsome

end SchemaPilot.Workers.UnpublishedBuild
