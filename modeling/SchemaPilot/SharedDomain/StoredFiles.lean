import SchemaPilot.Library.Effect
import SchemaPilot.Library.FileTree
import SchemaPilot.Library.JsonText
import SchemaPilot.SharedDomain.Errors

/-!
# Files of the storage root

The files the services keep hold JSON text or other bytes. `json.dumps(value, indent=2,
sort_keys=True)` writes one text for each value with sorted fields, so a JSON file is its value.
-/

namespace SchemaPilot.Library.Json

instance : DecidableEq Json := fun v w ↦
  decidable_of_iff (print v = print w) ⟨print_inj, congrArg print⟩

end SchemaPilot.Library.Json

namespace SchemaPilot.SharedDomain

open Library

/-- What a file holds: JSON text, or bytes that are no JSON text. -/
inductive FileContent where
  | json (value : Json)
  | bytes (value : List UInt8)
deriving DecidableEq

abbrev FileStore := FileTree FileContent

abbrev Files (α : Type) := Effect FileStore Exn α

namespace Files

/-- `path.exists()`. -/
def pathExists (path : TreePath) : Files Bool := do
  return (← Effect.read).pathExists path

/-- `json.loads` of what a file holds; the text of the parser's `ValueError` is not modelled. -/
def loads : Option FileContent → Except Exn Json
  | some (.json value) => .ok value
  | some (.bytes _) => .error (.valueError "Expecting value")
  | none => .error (.other "No such file or directory")

/-- `json.loads(path.read_text(encoding="utf-8"))`. -/
def readJson (path : TreePath) : Files Json := do
  Effect.ofExcept (loads ((← Effect.read).content? path))

/-- Carry out an operation, which raises an `OSError` where the system refuses it. -/
def perform (op : FileStore → Option FileStore) : Files Unit := fun files ↦
  match op files with
  | some after => (.ok (), after)
  | none => (.error (.other "OSError"), files)

/-- `path.write_text(json.dumps(value, indent=2, sort_keys=True), encoding="utf-8")`. -/
def writeJson (path : TreePath) (value : Json) (now : ℤ) : Files Unit :=
  perform fun files ↦ files.write? path (.json value) now

/-- `path.mkdir(parents=True, exist_ok=True)`. -/
def makeDirs (path : TreePath) : Files Unit := perform fun files ↦ files.makeDirs? path

theorem pathExists_apply (path : TreePath) (files : FileStore) :
    pathExists path files = (.ok (files.pathExists path), files) := rfl

theorem readJson_apply (path : TreePath) (files : FileStore) :
    readJson path files = (loads (files.content? path), files) := rfl

theorem keeps_readJson (path : TreePath) : Effect.Keeps id (readJson path) := fun _ ↦ rfl

theorem loads_eq_ok_iff {content : Option FileContent} {value : Json} :
    loads content = .ok value ↔ content = some (.json value) := by
  unfold loads
  split <;> simp_all

theorem perform_eq_ok {op : FileStore → Option FileStore} {files after : FileStore} {value : Unit}
    (h : perform op files = (.ok value, after)) : op files = some after := by
  unfold perform at h
  split at h
  · next hop =>
    cases h
    exact hop
  · cases h

/-- What is left, the operation being refused or not. -/
theorem perform_after (op : FileStore → Option FileStore) (files : FileStore) :
    (perform op files).2 = (op files).getD files := by
  unfold perform
  cases op files <;> rfl

/-- What a successful write leaves. -/
theorem content?_writeJson {path : TreePath} {value : Json} {now : ℤ} {files after : FileStore}
    {done : Unit} (h : writeJson path value now files = (.ok done, after)) (other : TreePath) :
    after.content? other = if other = path then some (.json value) else files.content? other :=
  FileTree.content?_write? (perform_eq_ok h) other

theorem content?_makeDirs {path : TreePath} {files after : FileStore} {done : Unit}
    (h : makeDirs path files = (.ok done, after)) (other : TreePath) :
    after.content? other = files.content? other :=
  FileTree.content?_makeDirs? (perform_eq_ok h) other

theorem keeps_pathExists (path : TreePath) : Effect.Keeps id (pathExists path) := fun _ ↦ rfl

theorem keeps_perform {γ : Type} {part : FileStore → γ} {op : FileStore → Option FileStore}
    (h : ∀ files after, op files = some after → part after = part files) :
    Effect.Keeps part (perform op) := by
  intro files
  unfold perform
  split
  · next after hop => exact h files after hop
  · rfl

theorem keeps_makeDirs (path other : TreePath) :
    Effect.Keeps (fun files ↦ files.content? other) (makeDirs path) :=
  keeps_perform fun _ _ h ↦ FileTree.content?_makeDirs? h other

theorem keeps_writeJson {path other : TreePath} (hother : other ≠ path) (value : Json) (now : ℤ) :
    Effect.Keeps (fun files ↦ files.content? other) (writeJson path value now) :=
  keeps_perform fun _ _ h ↦ by rw [FileTree.content?_write? h, if_neg hother]

theorem keeps_node_makeDirs {path other : TreePath} (hother : ¬other <+: path) :
    Effect.Keeps (fun files ↦ files.node? other) (makeDirs path) :=
  keeps_perform fun _ _ h ↦ FileTree.node?_makeDirs? h hother

theorem keeps_node_writeJson {path other : TreePath} (hother : other ≠ path) (value : Json)
    (now : ℤ) : Effect.Keeps (fun files ↦ files.node? other) (writeJson path value now) :=
  keeps_perform fun _ _ h ↦ FileTree.node?_write? h hother

/-- An exception that reading or writing files raises. -/
def IsFileError (exception : Exn) : Prop :=
  (∃ message, exception = .valueError message) ∨ ∃ message, exception = .other message

theorem raises_readJson (path : TreePath) : Effect.Raises IsFileError (readJson path) := by
  refine Effect.raises_read.bind fun files ↦ Effect.raises_ofExcept fun exception h ↦ ?_
  unfold loads at h
  split at h
  · cases h
  · cases h
    exact Or.inl ⟨_, rfl⟩
  · cases h
    exact Or.inr ⟨_, rfl⟩

theorem raises_perform (op : FileStore → Option FileStore) :
    Effect.Raises IsFileError (perform op) := by
  intro files exception after h
  unfold perform at h
  split at h
  · cases h
  · cases h
    exact Or.inr ⟨_, rfl⟩

theorem raises_writeJson (path : TreePath) (value : Json) (now : ℤ) :
    Effect.Raises IsFileError (writeJson path value now) := raises_perform _

theorem raises_makeDirs (path : TreePath) : Effect.Raises IsFileError (makeDirs path) :=
  raises_perform _

theorem raises_pathExists (path : TreePath) : Effect.Raises IsFileError (pathExists path) :=
  Effect.raises_read.bind fun _ ↦ Effect.raises_pure _

end Files

end SchemaPilot.SharedDomain
