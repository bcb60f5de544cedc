import HWPanel.Config.ActivePersistence

/-!
# Which files a profile request reads

Two machines that differ outside the profiles directory only, and the same request to
both. The id of a request is joined to the directory as it is, so the answers are the
same exactly for the ids whose file lies in the directory.
-/

namespace HWPanel.Config

open HWPanel.Core
open HWPanel.Library
open HWPanel.Platform

variable {S : Type}

namespace ProfileManager

variable {manager : ProfileManager S}

/-- The profiles directory is there: no regular file lies at it or above it. -/
def HasDirectory (store : ProfileStore) (fs : FileSystem store.env) : Prop :=
  ∀ names, names <+: store.dir.names → fs.find? ⟨[store.dir.drive, ':'], names⟩ = none

/-- The file lies directly in the profiles directory. -/
def InDirectory (store : ProfileStore) (file : FullPath) : Prop :=
  store.env.fold file.parent = store.env.fold store.dir.full

/-- The two calls returned the same, did the same with the executors, and left the same
active id. -/
structure SameEffect {Result : Type} (first second : Except StoreError Result ×
    ManagerState manager) : Prop where
  result : first.1 = second.1
  objects : first.2.objects = second.2.objects
  calls : first.2.calls = second.2.calls
  activeId : manager.activeId first.2 = manager.activeId second.2

/-- The path of the id, if it has a conversion, cannot be that of a regular file that is
opened, or its file lies directly in the profiles directory, or is that directory or one
above it. -/
def Confined (store : ProfileStore) (id : String) : Prop :=
  ∀ path, store.child (id ++ ".json") = .ok path →
    store.env.canHold (store.env.resolve path) = false ∨
    InDirectory store (store.env.resolve path) ∨
    ∃ names, names <+: store.dir.names ∧
      store.env.fold (store.env.resolve path) = store.env.fold ⟨[store.dir.drive, ':'], names⟩

section

variable {store : ProfileStore} {first second : FileSystem store.env}

theorem inDirectory_active : InDirectory store (store.file "active.json") := by
  rw [InDirectory, store.file_active, Directory.parent_file]

theorem activeId_congr (agree : FileSystem.AgreeOn (InDirectory store) first second) :
    store.activeId first = store.activeId second :=
  ProfileStore.activeId_congr (agree _ inDirectory_active)

/-- A confined id is looked up with the same outcome. -/
theorem get_congr {id : String} (confined : Confined store id)
    (firstDirectory : HasDirectory store first) (secondDirectory : HasDirectory store second)
    (agree : FileSystem.AgreeOn (InDirectory store) first second) :
    store.get first id = store.get second id := by
  apply ProfileStore.get_congr
  intro path converted
  rw [FileSystem.read, FileSystem.read]
  split
  case isTrue device => rfl
  case isFalse =>
    rcases confined path converted with noFile | inside | ⟨names, above, same⟩
    · rw [first.find?_of_not_canHold noFile, second.find?_of_not_canHold noFile]
    · exact agree _ inside
    · rw [first.find?_congr same, second.find?_congr same, firstDirectory names above,
        secondDirectory names above]

end

/-- The handler of the request adds nothing. -/
theorem SameEffect.switchProfile {first second : ManagerState manager} {id : String}
    {io : SwitchIO}
    (same : SameEffect (manager.switchTo id io first) (manager.switchTo id io second)) :
    SameEffect (switchProfile manager id io first) (switchProfile manager id io second) := by
  rw [Config.switchProfile, Config.switchProfile]
  cases firstCall : manager.switchTo id io first with
  | mk firstResult firstFinal =>
      cases secondCall : manager.switchTo id io second with
      | mk secondResult secondFinal =>
          rw [firstCall, secondCall] at same
          cases same.result
          cases firstResult with
          | error thrown => exact ⟨rfl, same.objects, same.calls, same.activeId⟩
          | ok result => exact ⟨rfl, same.objects, same.calls, same.activeId⟩

end ProfileManager

end HWPanel.Config
