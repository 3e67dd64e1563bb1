import SchemaPilot.SharedDomain.Errors

/-!
# The published gold pointer

`backend/shared_domain/gold_pointer.py`: the two files below `_published` of one workspace are the
store, `latest.json` an optional pointer and `history.json` a list of them. Only the functions here
write the files, so what a reader parses and normalises is a pointer that was written.
-/

namespace SchemaPilot.SharedDomain

/-- A pointer as `_normalize_pointer` returns it. -/
structure GoldPointer where
  workspaceId : String
  buildId : String
  snapshotId : String
  modelName : String
deriving DecidableEq

/-- The files `latest.json` and `history.json` of a workspace. -/
structure GoldStore where
  latest : Option GoldPointer
  history : List GoldPointer
deriving DecidableEq

namespace GoldStore

/-- No pointer was ever published. -/
def empty : GoldStore := ⟨none, []⟩

/-- `load_latest_gold_pointer`. -/
def loadLatestGoldPointer (store : GoldStore) : Option GoldPointer := store.latest

/-- `publish_gold_pointer`: a build published twice in a row is entered in the history once. -/
def publishGoldPointer (store : GoldStore) (workspaceId buildId snapshotId modelName : String) :
    GoldStore :=
  let pointer : GoldPointer := ⟨workspaceId, buildId, snapshotId, modelName⟩
  { latest := some pointer
    history :=
      if store.history.getLast?.map GoldPointer.buildId = some buildId then store.history
      else store.history ++ [pointer] }

/-- The entry `rollback_gold_pointer` restores: the last one of the requested build, else the one
before the last. -/
def rollbackTarget (history : List GoldPointer) (current : GoldPointer)
    (buildId : Option String) : Except Exn GoldPointer :=
  match buildId.filter (· ≠ "") with
  | some requested =>
    match history.reverse.find? fun item ↦ item.buildId == requested with
    | some target => .ok target
    | none => .error (.valueError "Requested rollback target was not found in publish history.")
  | none => .ok (history.dropLast.getLast?.getD current)

/-- `rollback_gold_pointer`, with the `current` and `rolled_back_to` entries it returns. -/
def rollbackGoldPointer (store : GoldStore) (buildId : Option String) :
    Except Exn ((GoldPointer × GoldPointer) × GoldStore) :=
  match store.history.getLast? with
  | none => .error (.valueError "No gold publish history available for rollback.")
  | some current => do
    let target ← rollbackTarget store.history current buildId
    .ok ((current, target),
      { latest := some target
        history := if current = target then store.history else store.history ++ [target] })

end GoldStore

end SchemaPilot.SharedDomain
