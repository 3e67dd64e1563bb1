import SchemaPilot.Library.EffectLogic
import SchemaPilot.Library.Versions
import SchemaPilot.Workers.Gold
import SchemaPilot.Workers.Silver

/-!
# Snapshots over a history of builds

The builders write into the directory of a snapshot without looking at what is there, so a second
build under the same identifiers replaces the files. `snapshots_kept` says that no snapshot file
changes in a run whose builds write to each snapshot file that exists what it already holds.
-/

namespace SchemaPilot.Workers.SnapshotHistory

open Library Library.Json Library.Effect Library.Versions SharedDomain

/-- The storage root and what the platform computes. -/
structure BuildSettings where
  outputRoot : TreePath
  silver : SilverPlatform
  /-- `total + float(value)`. -/
  addFloat : Json → Json → Except Exn Json

inductive BuildCall where
  | silver (workspaceId entityName : String) (sourceRecords : List Fields)
      (naturalKeyFields : List String) (snapshotId : String) (now : ℤ)
  | gold (call : GoldCall)

/-- The files a call leaves, whether it returns or raises. -/
def buildStep (settings : BuildSettings) (files : FileStore) : BuildCall → FileStore
  | .silver workspaceId entityName sourceRecords naturalKeyFields snapshotId now =>
    (buildSilverSnapshot settings.silver settings.outputRoot workspaceId entityName sourceRecords
      naturalKeyFields snapshotId now files).2
  | .gold call => (buildGoldSnapshot settings.addFloat settings.outputRoot call files).2

def runBuilds (settings : BuildSettings) (start : FileStore) (calls : List BuildCall) : FileStore :=
  run (buildStep settings) start calls

/-- A file of the silver or gold snapshot of some workspace, name and identifier. -/
inductive IsSnapshotFile (outputRoot : TreePath) : TreePath → Prop where
  | data (workspaceId entityName snapshotId : String) : IsSnapshotFile outputRoot
      (silverRoot outputRoot workspaceId entityName snapshotId ++ ["data.json"])
  | crosswalk (workspaceId entityName snapshotId : String) : IsSnapshotFile outputRoot
      (silverRoot outputRoot workspaceId entityName snapshotId ++ ["crosswalk.json"])
  | metrics (workspaceId modelName snapshotId : String) : IsSnapshotFile outputRoot
      (goldRoot outputRoot workspaceId modelName snapshotId ++ ["metrics.json"])

/-- What a call has to write, by its arguments: nothing where they are refused. A placeholder is left
out, as it is written where there is no file. -/
def BuildCall.writes (settings : BuildSettings) : BuildCall → List (TreePath × Json)
  | .silver workspaceId entityName sourceRecords naturalKeyFields snapshotId _ =>
    let root := silverRoot settings.outputRoot workspaceId entityName snapshotId
    match silverTables settings.silver entityName sourceRecords naturalKeyFields with
    | .ok tables =>
      [(root ++ ["data.json"], canon tables.1), (root ++ ["crosswalk.json"], canon tables.2)]
    | .error _ => []
  | .gold call =>
    match goldTotal settings.addFloat call.metricField call.silverRows with
    | .ok total =>
      [(metricsPath settings.outputRoot call, canon (goldAggregate call.metricField total)),
        (semanticManifestPath settings.outputRoot call.workspaceId, canon (goldManifest call))] ++
      (if call.allowPublish then
        [(publishedPointerPath settings.outputRoot call.workspaceId,
          publishedPointer call (.str call.snapshotId))] else []) ++
      (if call.runMaintenanceHooksEnabled then
        [(reportPath settings.outputRoot call, canon (maintenanceReport call))] else [])
    | .error _ => []

/-- The call writes to a snapshot file that exists only what it holds. -/
def Faithful (settings : BuildSettings) (files : FileStore) (call : BuildCall) : Prop :=
  ∀ entry ∈ call.writes settings, IsSnapshotFile settings.outputRoot entry.1 →
    ∀ content, files.content? entry.1 = some content → content = .json entry.2

def Kept (outputRoot : TreePath) (start files : FileStore) : Prop :=
  ∀ path, IsSnapshotFile outputRoot path → ∀ content, start.content? path = some content →
    files.content? path = some content

variable {settings : BuildSettings} {outputRoot : TreePath} {start files : FileStore}

theorem ends_makeDirs_kept (h : Kept outputRoot start files) (path : TreePath) :
    Ends (Files.makeDirs path) files (fun _ after ↦ Kept outputRoot start after)
      fun _ after ↦ Kept outputRoot start after :=
  ends_of_after fun other hother content hcontent ↦
    (Files.keeps_makeDirs path other files).trans (h other hother content hcontent)

/-- A write keeps the snapshot files if it puts there what the start holds. -/
theorem ends_writeJson_kept (h : Kept outputRoot start files) {path : TreePath} {value : Json}
    (hsame : IsSnapshotFile outputRoot path → ∀ content, start.content? path = some content →
      content = .json value) (now : ℤ) :
    Ends (Files.writeJson path value now) files (fun _ after ↦ Kept outputRoot start after)
      fun _ after ↦ Kept outputRoot start after := by
  refine ends_of_after ?_
  rw [Files.writeJson, Files.perform_after]
  cases hwrite : files.write? path (.json value) now with
  | none => exact h
  | some after =>
    intro other hother content hcontent
    rw [Option.getD_some, FileTree.content?_write? hwrite]
    by_cases hpath : other = path
    · subst hpath
      rw [if_pos rfl, hsame hother content hcontent]
    · rw [if_neg hpath]
      exact h other hother content hcontent

theorem ends_silver_kept {workspaceId entityName snapshotId : String} {sourceRecords : List Fields}
    {naturalKeyFields : List String} {now : ℤ}
    (hfaithful : Faithful settings files
      (.silver workspaceId entityName sourceRecords naturalKeyFields snapshotId now)) :
    Ends (buildSilverSnapshot settings.silver settings.outputRoot workspaceId entityName
        sourceRecords naturalKeyFields snapshotId now) files
      (fun _ after ↦ Kept settings.outputRoot files after)
      fun _ after ↦ Kept settings.outputRoot files after := by
  have hstart : Kept settings.outputRoot files files := fun _ _ _ hcontent ↦ hcontent
  unfold buildSilverSnapshot
  refine Ends.bind (Q := fun tables after ↦ silverTables settings.silver entityName sourceRecords
    naturalKeyFields = .ok tables ∧ Kept settings.outputRoot files after)
    (ends_ofExcept (fun _ htables ↦ ⟨htables, hstart⟩) fun _ _ ↦ hstart) ?_
  rintro tables _ ⟨htables, hkept⟩
  rw [Faithful, BuildCall.writes, htables] at hfaithful
  refine (ends_makeDirs_kept hkept _).bind fun _ made hmade ↦ ?_
  refine (ends_writeJson_kept hmade ?_ now).bind fun _ written hwritten ↦ ?_
  · exact hfaithful _ List.mem_cons_self
  refine (ends_writeJson_kept hwritten ?_ now).bind fun _ after hafter ↦ ends_pure hafter
  exact hfaithful _ (List.mem_cons_of_mem _ List.mem_cons_self)

/-- A placeholder is put only where the start holds nothing. -/
theorem ends_writePointer_kept {call : GoldCall} (h : Kept outputRoot start files)
    (hpublish : call.allowPublish = true →
      IsSnapshotFile outputRoot (publishedPointerPath outputRoot call.workspaceId) →
        ∀ content, start.content? (publishedPointerPath outputRoot call.workspaceId) = some content →
          content = .json (publishedPointer call (.str call.snapshotId))) :
    Ends (writePointer outputRoot call) files (fun _ after ↦ Kept outputRoot start after)
      fun _ after ↦ Kept outputRoot start after := by
  unfold writePointer
  refine (ends_makeDirs_kept h _).bind fun _ made hmade ↦ ?_
  by_cases hallowed : call.allowPublish = true
  · rw [if_pos hallowed]
    exact ends_writeJson_kept hmade (hpublish hallowed) call.now
  · rw [if_neg hallowed]
    refine ends_read_bind (ends_onlyIf (fun hmissing ↦ ?_) fun _ ↦ hmade)
    refine ends_writeJson_kept hmade (fun hsnapshot content hcontent ↦ ?_) call.now
    have hpresent := hmade _ hsnapshot content hcontent
    rw [FileTree.pathExists_eq, FileTree.isFile, hpresent, Option.isSome_some, Bool.or_true]
      at hmissing
    cases hmissing

theorem ends_hooks_kept {call : GoldCall} (h : Kept outputRoot start files)
    (hreport : call.runMaintenanceHooksEnabled = true →
      IsSnapshotFile outputRoot (reportPath outputRoot call) →
        ∀ content, start.content? (reportPath outputRoot call) = some content →
          content = .json (canon (maintenanceReport call))) :
    Ends (runIcebergMaintenanceHooks outputRoot call) files
      (fun _ after ↦ Kept outputRoot start after) fun _ after ↦ Kept outputRoot start after := by
  unfold runIcebergMaintenanceHooks
  by_cases henabled : call.runMaintenanceHooksEnabled = true
  · rw [if_pos henabled]
    refine (ends_makeDirs_kept h _).bind fun _ made hmade ↦ ?_
    exact (ends_writeJson_kept hmade (hreport henabled) call.now).bind fun _ _ hafter ↦
      ends_pure hafter
  · rw [if_neg henabled]
    exact ends_pure h

theorem ends_gold_kept {call : GoldCall} (hfaithful : Faithful settings files (.gold call)) :
    Ends (buildGoldSnapshot settings.addFloat settings.outputRoot call) files
      (fun _ after ↦ Kept settings.outputRoot files after)
      fun _ after ↦ Kept settings.outputRoot files after := by
  have hstart : Kept settings.outputRoot files files := fun _ _ _ hcontent ↦ hcontent
  unfold buildGoldSnapshot
  refine Ends.bind (Q := fun total after ↦ goldTotal settings.addFloat call.metricField
    call.silverRows = .ok total ∧ Kept settings.outputRoot files after)
    (ends_ofExcept (fun _ htotal ↦ ⟨htotal, hstart⟩) fun _ _ ↦ hstart) ?_
  rintro total _ ⟨htotal, hkept⟩
  rw [Faithful, BuildCall.writes, htotal] at hfaithful
  refine (ends_makeDirs_kept hkept _).bind fun _ _ hmade ↦ ?_
  refine (ends_writeJson_kept hmade ?_ call.now).bind fun _ _ hwritten ↦ ?_
  · exact hfaithful (metricsPath settings.outputRoot call,
      canon (goldAggregate call.metricField total)) (by simp)
  refine (ends_makeDirs_kept hwritten _).bind fun _ _ hsemantic ↦ ?_
  refine (ends_writeJson_kept hsemantic ?_ call.now).bind fun _ _ hmanifest ↦ ?_
  · exact hfaithful (semanticManifestPath settings.outputRoot call.workspaceId,
      canon (goldManifest call)) (by simp)
  refine (ends_writePointer_kept hmanifest fun hallowed ↦ ?_).bind fun _ _ hpointer ↦ ?_
  · exact hfaithful (publishedPointerPath settings.outputRoot call.workspaceId,
      publishedPointer call (.str call.snapshotId)) (by simp [hallowed])
  refine (ends_hooks_kept hpointer fun henabled ↦ ?_).bind fun _ _ hafter ↦ ends_pure hafter
  exact hfaithful (reportPath settings.outputRoot call, canon (maintenanceReport call))
    (by simp [henabled])

/-- A faithful call changes no snapshot file. -/
theorem kept_buildStep {call : BuildCall} (h : Faithful settings files call) :
    Kept settings.outputRoot files (buildStep settings files call) := by
  cases call with
  | silver workspaceId entityName sourceRecords naturalKeyFields snapshotId now =>
    exact (ends_silver_kept h).after
  | gold call => exact (ends_gold_kept h).after

/-- No snapshot file that exists at one point of a run of faithful calls has changed at a later one. -/
theorem snapshots_kept (settings : BuildSettings) (start : FileStore) (calls : List BuildCall)
    (h : ∀ entry ∈ trace (buildStep settings) start calls, Faithful settings entry.1 entry.2)
    {earlier later : List BuildCall} (hearlier : earlier <+: later) (hlater : later <+: calls) :
    Kept settings.outputRoot (runBuilds settings start earlier)
      (runBuilds settings start later) := by
  obtain ⟨more, rfl⟩ := hearlier
  induction more using List.reverseRecOn with
  | nil =>
    rw [List.append_nil]
    exact fun _ _ _ hcontent ↦ hcontent
  | append_singleton more call ih =>
    rw [← List.append_assoc] at hlater ⊢
    have hbefore := ih ((List.prefix_append _ _).trans hlater)
    have hstep := kept_buildStep (h _ (mem_trace hlater))
    intro path hpath content hcontent
    rw [runBuilds, run_snoc]
    exact hstep path hpath content (hbefore path hpath content hcontent)

/-- Paths where nothing is, or what the call writes, are enough for it to be faithful. -/
theorem faithful_of_writes {call : BuildCall} (h : ∀ entry ∈ call.writes settings,
    files.content? entry.1 = none ∨ files.content? entry.1 = some (.json entry.2)) :
    Faithful settings files call := by
  intro entry hentry _ content hcontent
  rcases h entry hentry with hnone | hsame
  · rw [hnone] at hcontent
    cases hcontent
  · rw [hsame] at hcontent
    exact (Option.some.inj hcontent).symm

def invoiceSettings : BuildSettings where
  outputRoot := ["srv"]
  silver := ⟨fun _ ↦ "da38e1c660ae055820906c30cc65a0c83f34848b2813d31bd9beb970ee917931", fun _ ↦ none⟩
  addFloat total _ := .ok total

def invoiceBuild (note : String) : BuildCall :=
  .silver "w1" "invoices" [[("invoice_id", .str "A1"), ("note", .str note)]] ["invoice_id"] "snap-1" 0

/-- The snapshot is built a second time from the same record, and another one is built. -/
def retriedBuilds : List BuildCall :=
  [invoiceBuild "open", invoiceBuild "open",
    .gold ⟨"w1", "finance", [], "amount", "gold-1", true, false, 0⟩]

theorem retriedBuilds_kept : Kept ["srv"] (runBuilds invoiceSettings .empty [invoiceBuild "open"])
    (runBuilds invoiceSettings .empty retriedBuilds) := by
  have hwrites : ∀ entry ∈ trace (buildStep invoiceSettings) .empty retriedBuilds,
      ∀ write ∈ entry.2.writes invoiceSettings, entry.1.content? write.1 = none ∨
        entry.1.content? write.1 = some (.json write.2) := by decide +kernel
  exact snapshots_kept invoiceSettings .empty retriedBuilds
    (fun entry hentry ↦ faithful_of_writes (hwrites entry hentry)) ⟨_, rfl⟩ List.prefix_rfl

/-- A build under the same identifiers from another record replaces the data. -/
theorem otherBuild_replaces :
    ¬Kept ["srv"] (runBuilds invoiceSettings .empty [invoiceBuild "open"])
      (runBuilds invoiceSettings .empty [invoiceBuild "open", invoiceBuild "paid"]) := by
  intro hkept
  have hpresent : ((runBuilds invoiceSettings .empty [invoiceBuild "open"]).content?
      (silverRoot ["srv"] "w1" "invoices" "snap-1" ++ ["data.json"])).isSome = true := by
    decide +kernel
  obtain ⟨content, hcontent⟩ := Option.isSome_iff_exists.mp hpresent
  have hlater := hkept _ (.data "w1" "invoices" "snap-1") content hcontent
  refine absurd (hlater.trans hcontent.symm) ?_
  decide +kernel

end SchemaPilot.Workers.SnapshotHistory
