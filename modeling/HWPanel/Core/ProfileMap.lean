import HWPanel.Core.ProfileFiles
import Mathlib.Logic.Function.Basic

/-!
# Profiles as a map

What the store is for: a map from ids to profiles and an active id. `StoreOp` are
the operations of a run, with the outcomes of their file operations, executed by
the store on files and by the map at once.
-/

namespace HWPanel.Core

open HWPanel.Platform

structure ProfileMap where
  profiles : String → Option Profile
  active : String

inductive StoreOp where
  | save (profile : Profile) (io : WriteIO)
  | remove (id : String) (permitted : Bool)
  | setActiveId (id : String) (io : WriteIO)
  | ensureDefaults (io : DefaultsIO)

namespace ProfileMap

def empty : ProfileMap := ⟨fun _ => none, ""⟩

def save (self : ProfileMap) (profile : Profile) : ProfileMap :=
  { self with profiles := Function.update self.profiles profile.id (some profile) }

def remove (self : ProfileMap) (id : String) : ProfileMap :=
  { self with profiles := Function.update self.profiles id none }

@[simp] theorem save_profiles (self : ProfileMap) (profile : Profile) (id : String) :
    (self.save profile).profiles id =
      if id = profile.id then some profile else self.profiles id :=
  Function.update_apply _ _ _ _

@[simp] theorem remove_profiles (self : ProfileMap) (id other : String) :
    (self.remove id).profiles other = if other = id then none else self.profiles other :=
  Function.update_apply _ _ _ _

def setActive (self : ProfileMap) (id : String) : ProfileMap := { self with active := id }

/-- The three built-in profiles, and an active one if there was none. -/
def seeded (self : ProfileMap) : ProfileMap :=
  let saved := ProfileStore.defaults.foldl save self
  if self.active = "" then saved.setActive "balanced" else saved

def Present (self : ProfileMap) : Prop := ∃ id, (self.profiles id).isSome

open Classical in
/-- The result reported to the caller, if any, and the map after the operation. -/
noncomputable def step (self : ProfileMap) : StoreOp → Option Bool × ProfileMap
  | .save profile _ => (some true, self.save profile)
  | .remove id _ => (some (self.profiles id).isSome, self.remove id)
  | .setActiveId id _ => (none, self.setActive id)
  | .ensureDefaults _ => (none, if self.Present then self else self.seeded)

noncomputable def run (self : ProfileMap) : List StoreOp → List (Option Bool) × ProfileMap
  | [] => ([], self)
  | op :: rest =>
      let (result, next) := self.step op
      let (results, last) := run next rest
      (result :: results, last)

end ProfileMap

namespace ProfileStore

variable (store : ProfileStore)

def step (fs : FileSystem store.env) :
    StoreOp → Except StoreError (Option Bool × FileSystem store.env)
  | .save profile io =>
      match store.save fs profile io with
      | (.ok done, fs) => .ok (some done, fs)
      | (.error thrown, _) => .error thrown
  | .remove id permitted =>
      match store.remove fs id permitted with
      | (.ok removed, fs) => .ok (some removed, fs)
      | (.error thrown, _) => .error thrown
  | .setActiveId id io => .ok (none, store.setActiveId fs id io)
  | .ensureDefaults io => do
      let fs ← store.ensureDefaults fs io
      return (none, fs)

def run (fs : FileSystem store.env) :
    List StoreOp → Except StoreError (List (Option Bool) × FileSystem store.env)
  | [] => .ok ([], fs)
  | op :: rest => do
      let (result, next) ← store.step fs op
      let (results, last) ← run next rest
      return (result :: results, last)

/-- The operation names ids of `ids` only, and its file operations succeed. -/
def Permits (ids : Set String) : StoreOp → Prop
  | .save profile io =>
      profile.id ∈ ids ∧ io.Succeeds (store.codec.dump (profileDoc profile)).length
  | .remove id permitted => id ∈ ids ∧ permitted = true
  | .setActiveId id io => io.Succeeds (store.codec.dump (activeDoc id)).length
  | .ensureDefaults io =>
      (∀ profile ∈ defaults, profile.id ∈ ids ∧
        (io.save profile.id).Succeeds (store.codec.dump (profileDoc profile)).length) ∧
      io.setActiveId.Succeeds (store.codec.dump (activeDoc "balanced")).length

end ProfileStore

end HWPanel.Core
