import HWPanel.Core.Bus
import HWPanel.Core.ProfileStore

/-!
# The profile manager

`ProfileManager::SwitchTo`: snapshot, apply and, on the first failure, roll back
through the executor plugins. An executor is an object with a hidden state, which
stands for the device behind it as well, so every call on it may answer anything.
-/

namespace HWPanel.Config

open HWPanel.Core
open HWPanel.Platform

structure ApplyResult where
  ok : Bool
  message : String

/-- The plugin contract: one OS-level setting that can be applied and read back. -/
structure IExecutor (S : Type) where
  key : String
  available : S → Bool × S
  /-- Reads the live OS state; `""` when unreadable. -/
  currentValue : S → String × S
  apply : String → S → ApplyResult × S

/-- How far the loop of `SwitchTo` gets with one executor, and its state then. -/
inductive Attempt (S : Type) where
  | unavailable (object : S)
  | failed (message : String) (object : S)
  | applied (previous : String) (object : S)

/-- `Available`, `CurrentValue` and `Apply` of the executor of one setting. -/
def IExecutor.attempt {S : Type} (executor : IExecutor S) (desired : String) (object : S) :
    Attempt S :=
  let (available, object) := executor.available object
  if available then
    let (previous, object) := executor.currentValue object
    let (result, object) := executor.apply desired object
    if result.ok then .applied previous object else .failed result.message object
  else .unavailable object

structure SwitchResult where
  ok : Bool
  message : String
  rolledBackKeys : List String

/-- A call of `Apply`, for the history of a run: in the loop or to restore a snapshot. -/
inductive ApplyCall where
  | desired (executor : Nat) (value : String) (ok : Bool)
  | restore (executor : Nat) (value : String) (ok : Bool)

structure ProfileManager (S : Type) where
  store : ProfileStore
  executors : List (IExecutor S)

/-- What a call of `SwitchTo` works on. `events` is what `events_` has been told, `none`
without an event bus; `calls` records the `Apply` calls. -/
structure ManagerState {S : Type} (manager : ProfileManager S) where
  fs : FileSystem manager.store.env
  objects : Fin manager.executors.length → S
  events : Option (List EventMessage) := some []
  calls : List ApplyCall := []

/-- What a call of `SwitchTo` takes from its surroundings: the outcome of writing the
active id, and the clock. -/
structure SwitchIO where
  write : WriteIO
  now : Int

namespace ManagerState

variable {S : Type} {self : ProfileManager S}

def setObject (state : ManagerState self) (i : Fin self.executors.length) (object : S) :
    ManagerState self :=
  { state with objects := Function.update state.objects i object }

def record (state : ManagerState self) (call : ApplyCall) : ManagerState self :=
  { state with calls := state.calls ++ [call] }

/-- `events_->PublishNow`, if there is an event bus. -/
def publishNow (state : ManagerState self) (now : Int) (level title message : String) :
    ManagerState self :=
  { state with events := state.events.map (· ++ [⟨now, level, title, message⟩]) }

end ManagerState

namespace ProfileManager

variable {S : Type} (self : ProfileManager S)

def activeId (state : ManagerState self) : String := self.store.activeId state.fs

/-- The first executor with this key. -/
def findExecutor (key : String) : Option (Fin self.executors.length) :=
  self.executors.findFinIdx? fun executor => executor.key == key

/-- The rollback loop over the applied executors, last one first: the key is reported
and the result of `Apply` ignored. -/
def rollBack : List (Fin self.executors.length × String) → ManagerState self →
    List String × ManagerState self
  | [], state => ([], state)
  | (i, previous) :: rest, state =>
      let (result, object) := (self.executors.get i).apply previous (state.objects i)
      let (rolled, final) := rollBack rest
        ((state.setObject i object).record (.restore i previous result.ok))
      ((self.executors.get i).key :: rolled, final)

/-- A failure exit of the loop. -/
def abort (now : Int) (message event : String)
    (applied : List (Fin self.executors.length × String)) (state : ManagerState self) :
    Option SwitchResult × ManagerState self :=
  let (rolled, final) := self.rollBack applied.reverse state
  (some ⟨false, message, rolled⟩, final.publishNow now "error" "Profile switch failed" event)

/-- The loop over the settings of the profile; `none` when all of them are applied. -/
def applySettings (now : Int) : List (String × String) →
    List (Fin self.executors.length × String) → ManagerState self →
    Option SwitchResult × ManagerState self
  | [], _, state => (none, state)
  | (key, desired) :: rest, applied, state =>
      match self.findExecutor key with
      | none =>
          self.abort now ("no executor for key " ++ key) ("no executor for key " ++ key)
            applied state
      | some i =>
          match (self.executors.get i).attempt desired (state.objects i) with
          | .unavailable object =>
              self.abort now ("executor unavailable: " ++ key) ("executor unavailable: " ++ key)
                applied (state.setObject i object)
          | .failed message object =>
              self.abort now message (key ++ ": " ++ message ++ " (rolled back)") applied
                ((state.setObject i object).record (.desired i desired false))
          | .applied previous object =>
              applySettings now rest (applied ++ [(i, previous)])
                ((state.setObject i object).record (.desired i desired true))

/-- `SwitchTo`; what `Get` throws is thrown on. -/
def switchTo (id : String) (io : SwitchIO) (state : ManagerState self) :
    Except StoreError SwitchResult × ManagerState self :=
  match self.store.get state.fs id with
  | .error thrown => (.error thrown, state)
  | .ok none => (.ok ⟨false, "profile not found: " ++ id, []⟩, state)
  | .ok (some profile) =>
      match self.applySettings io.now profile.settings.entries [] state with
      | (some result, final) => (.ok result, final)
      | (none, final) =>
          (.ok ⟨true, "ok", []⟩,
            { final with fs := self.store.setActiveId final.fs id io.write }.publishNow io.now
              "info" "Profile applied" profile.name)

/-- A sequence of `SwitchTo` calls. -/
def switchAll : List (String × SwitchIO) → ManagerState self → ManagerState self
  | [], state => state
  | (id, io) :: rest, state => switchAll rest (self.switchTo id io state).2

end ProfileManager

structure SwitchProfileResponse where
  ok : Bool
  message : String
  rolledBackKeys : List String

/-- `CommandServiceImpl::SwitchProfile`. -/
def switchProfile {S : Type} (profiles : ProfileManager S) (profileId : String)
    (io : SwitchIO) (state : ManagerState profiles) :
    Except StoreError SwitchProfileResponse × ManagerState profiles :=
  match profiles.switchTo profileId io state with
  | (.ok result, final) => (.ok ⟨result.ok, result.message, result.rolledBackKeys⟩, final)
  | (.error thrown, final) => (.error thrown, final)

end HWPanel.Config
