import SchemaPilot.ControlPlane.App

/-!
# What the parts of a request leave alone

Work on the files keeps the tables and work on the tables keeps the files; only
`append_audit_event` raises the denial of a failed audit write (`DeniesOtherwise`).
-/

namespace SchemaPilot.ControlPlane

open Library Library.Effect SharedDomain

/-! ### Files and tables -/

theorem onFiles_eq_ok {α : Type} {p : Files α} {world after : World} {value : α}
    (h : onFiles p world = (.ok value, after)) :
    p world.files = (.ok value, after.files) ∧ after.db = world.db := by
  change ((p world.files).1, { world with files := (p world.files).2 }) = _ at h
  rw [Prod.mk.injEq] at h
  obtain ⟨hvalue, rfl⟩ := h
  exact ⟨Prod.ext hvalue rfl, rfl⟩

theorem keeps_db_onFiles {α : Type} (p : Files α) : Keeps World.db (onFiles p) := fun _ ↦ rfl

theorem keeps_files_onFiles {α γ : Type} {part : FileStore → γ} {p : Files α} (hp : Keeps part p) :
    Keeps (fun world ↦ part world.files) (onFiles p) := hp.within fun _ _ ↦ rfl

theorem keeps_files_onTables {α : Type} (p : Effect Database Exn α) :
    Keeps World.files (onTables p) := fun _ ↦ rfl

theorem query_apply {α : Type} (f : Database → α) (world : World) :
    query f world = (.ok (f world.db), world) := rfl

theorem keeps_query {α γ : Type} {part : World → γ} (f : Database → α) :
    Keeps part (query f) := fun _ ↦ rfl

theorem keeps_files_save (f : Database → Except Exn Database) : Keeps World.files (save f) :=
  keeps_files_onTables _

theorem keeps_files_newUlid (service : Service) : Keeps World.files (newUlid service) :=
  fun _ ↦ rfl

theorem keeps_db_newUlid (service : Service) : Keeps World.db (newUlid service) := fun _ ↦ rfl

/-- A saved row is in the tables. -/
theorem save_eq_ok {f : Database → Except Exn Database} {world after : World} {done : Unit}
    (h : save f world = (.ok done, after)) :
    f world.db = .ok after.db ∧ after.files = world.files := by
  refine ⟨?_, (keeps_files_save f).of_run h⟩
  cases hdb : f world.db with
  | error exception =>
    have hrun : save f world = (.error exception, { world with db := world.db }) := by
      simp [save, onTables, within, hdb]
    rw [hrun] at h
    cases h
  | ok db =>
    have hrun : save f world = (.ok (), { world with db := db }) := by
      simp [save, onTables, within, hdb]
    rw [hrun] at h
    cases h
    rfl

/-- An inserted row comes last, and its key is new. -/
theorem insertRow_eq_ok {ρ : Type} {primaryKey : ρ → String} {rows inserted : List ρ} {row : ρ}
    (h : insertRow primaryKey rows row = .ok inserted) :
    inserted = rows ++ [row] ∧ ∀ other ∈ rows, primaryKey other ≠ primaryKey row := by
  unfold insertRow at h
  split_ifs at h with hnew
  cases h
  refine ⟨rfl, fun other hother heq ↦ hnew ?_⟩
  exact List.any_eq_true.mpr ⟨other, hother, decide_eq_true heq⟩

theorem map_eq_ok {α β : Type} {f : α → β} {result : Except Exn α} {value : β}
    (h : result.map f = .ok value) : ∃ a, result = .ok a ∧ f a = value := by
  cases result with
  | error exception => cases h
  | ok a =>
    cases h
    exact ⟨a, rfl, rfl⟩

theorem keeps_requireActor {γ : Type} {part : World → γ} (context : RequestContext)
    (roles : List String) : Keeps part (requireActor context roles) := by
  unfold requireActor
  split
  · exact keeps_raise _
  · split_ifs
    · exact keeps_raise _
    · exact keeps_pure _

theorem keeps_files_createProposal (service : Service)
    (workspaceId proposalType evidenceBundleUri : String) (confidence : Json) :
    Keeps World.files
      (createProposal service workspaceId proposalType evidenceBundleUri confidence) :=
  (keeps_files_newUlid service).bind fun _ ↦ (keeps_files_save _).bind fun _ ↦ keeps_pure _

theorem keeps_files_createReviewTask (service : Service)
    (workspaceId subjectRef priority : String) (blocking : Bool) :
    Keeps World.files (createReviewTask service workspaceId subjectRef priority blocking) :=
  (keeps_files_newUlid service).bind fun _ ↦ (keeps_files_save _).bind fun _ ↦ keeps_pure _

theorem keeps_foundOr {α γ : Type} {part : World → γ} {create : Handler α}
    (hcreate : Keeps part create) (found : Option α) : Keeps part (foundOr create found) := by
  cases found with
  | none => exact hcreate
  | some row => exact keeps_pure _

theorem keeps_files_decideReviewTask (service : Service)
    (workspaceId taskId actorId decision reason : String) :
    Keeps World.files (decideReviewTask service workspaceId taskId actorId decision reason) := by
  refine (keeps_query _).bind fun found ↦ ?_
  cases found with
  | none => exact keeps_pure _
  | some task =>
    dsimp only
    split_ifs
    · exact keeps_pure _
    · exact (keeps_files_onTables _).bind fun _ ↦ (keeps_files_newUlid service).bind fun _ ↦
        (keeps_files_newUlid service).bind fun _ ↦ (keeps_files_save _).bind fun _ ↦ keeps_pure _

theorem keeps_files_writeAuditEvent (service : Service) (context : RequestContext)
    (workspaceId : Option String) (actorId eventType : String) (eventJson : Fields) :
    Keeps World.files
      (writeAuditEvent service context workspaceId actorId eventType eventJson) := by
  refine (keeps_files_newUlid service).bind fun auditEventId ↦ (keeps_files_save _).bind fun _ ↦ ?_
  split
  · exact keeps_raise _
  · split_ifs
    · exact keeps_pure _
    · exact (keeps_files_newUlid service).bind fun _ ↦ (keeps_files_save _).bind fun _ ↦
        keeps_pure _

theorem keeps_files_appendAuditEvent (service : Service) (context : RequestContext)
    (workspaceId : Option String) (actorId eventType : String) (eventJson : Fields) :
    Keeps World.files
      (appendAuditEvent service context workspaceId actorId eventType eventJson) :=
  (keeps_files_writeAuditEvent service context workspaceId actorId eventType eventJson).tryExcept
    fun _ ↦ keeps_raise _

/-! ### Denials -/

/-- The request was denied because its audit event could not be written. -/
def IsAuditDenial (exception : Exn) : Prop := ∃ eventType, exception = auditUnavailable eventType

/-- Whatever `p` raises is no denial for a failed audit write. -/
abbrev DeniesOtherwise {σ α : Type} (p : Effect σ Exn α) : Prop :=
  Raises (fun exception ↦ ¬IsAuditDenial exception) p

theorem not_isAuditDenial_of_isFileError {exception : Exn} (h : Files.IsFileError exception) :
    ¬IsAuditDenial exception := by
  rintro ⟨eventType, rfl⟩
  rcases h with ⟨message, h⟩ | ⟨message, h⟩ <;> cases h

theorem not_isAuditDenial_of_reason (reason : Json) :
    ¬IsAuditDenial (accessDenied [("reason", reason)]) := by
  rintro ⟨eventType, h⟩
  cases h

theorem deniesOtherwise_onFiles {α : Type} {p : Files α} (hp : Raises Files.IsFileError p) :
    DeniesOtherwise (onFiles p) := by
  refine Raises.within fun files exception after h ↦ ?_
  exact not_isAuditDenial_of_isFileError (hp files exception after h)

theorem deniesOtherwise_requireActor (context : RequestContext) (roles : List String) :
    DeniesOtherwise (requireActor context roles) := by
  unfold requireActor
  split
  · exact raises_raise (not_isAuditDenial_of_reason _)
  · split_ifs
    · refine raises_raise ?_
      rintro ⟨eventType, h⟩
      simp [accessDenied, auditUnavailable] at h
    · exact raises_pure _

theorem deniesOtherwise_query {α : Type} (f : Database → α) : DeniesOtherwise (query f) :=
  raises_read.bind fun _ ↦ raises_pure _

theorem deniesOtherwise_newUlid (service : Service) : DeniesOtherwise (newUlid service) := by
  intro world exception after h
  cases h

theorem insertRow_error {ρ : Type} {primaryKey : ρ → String} {rows : List ρ} {row : ρ}
    {exception : Exn} (h : insertRow primaryKey rows row = .error exception) :
    exception = .other "IntegrityError" := by
  unfold insertRow at h
  split_ifs at h
  cases h
  rfl

/-- Rows that are inserted raise nothing but a violated key. -/
theorem deniesOtherwise_save {ρ : Type} {primaryKey : ρ → String} {rows : Database → List ρ}
    {row : ρ} {store : Database → List ρ → Database} :
    DeniesOtherwise (save fun db ↦ (insertRow primaryKey (rows db) row).map (store db)) := by
  unfold save onTables
  refine Raises.within fun db exception after h ↦ ?_
  dsimp only at h
  cases hinsert : insertRow primaryKey (rows db) row with
  | ok inserted =>
    rw [hinsert] at h
    cases h
  | error found =>
    rw [hinsert] at h
    cases h
    rw [insertRow_error hinsert]
    rintro ⟨eventType, h⟩
    cases h

theorem deniesOtherwise_createProposal (service : Service)
    (workspaceId proposalType evidenceBundleUri : String) (confidence : Json) :
    DeniesOtherwise
      (createProposal service workspaceId proposalType evidenceBundleUri confidence) :=
  (deniesOtherwise_newUlid service).bind fun _ ↦ deniesOtherwise_save.bind fun _ ↦ raises_pure _

theorem deniesOtherwise_createReviewTask (service : Service)
    (workspaceId subjectRef priority : String) (blocking : Bool) :
    DeniesOtherwise (createReviewTask service workspaceId subjectRef priority blocking) :=
  (deniesOtherwise_newUlid service).bind fun _ ↦ deniesOtherwise_save.bind fun _ ↦ raises_pure _

theorem deniesOtherwise_foundOr {α : Type} {create : Handler α} (hcreate : DeniesOtherwise create)
    (found : Option α) : DeniesOtherwise (foundOr create found) := by
  cases found with
  | none => exact hcreate
  | some row => exact raises_pure _

/-- A sequence that ended with the denial of a failed audit write ran its first part to the end,
when that part denies otherwise. -/
theorem denied_after {σ α β : Type} {p : Effect σ Exn α} {next : α → Effect σ Exn β}
    {state final : σ} {eventType : String} (hp : DeniesOtherwise p)
    (h : (p >>= next) state = (.error (auditUnavailable eventType), final)) :
    ∃ value after, p state = (.ok value, after) ∧
      next value after = (.error (auditUnavailable eventType), final) := by
  rcases bind_eq_error_iff.mp h with hfirst | hsecond
  · exact absurd ⟨eventType, rfl⟩ (hp _ _ _ hfirst)
  · exact hsecond

end SchemaPilot.ControlPlane
