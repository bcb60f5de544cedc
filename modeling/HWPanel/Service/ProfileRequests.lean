import HWPanel.Config.ListedSwitch
import HWPanel.Core.StoreRefinement
import HWPanel.Library.Run

/-!
# Concurrent profile requests

The gRPC threads of the service run `ListProfiles` and `SwitchProfile` side by side. Each
method of the profile manager is one critical section, but `ListProfiles` calls two of
them, and a switch may come between.
-/

namespace HWPanel.Service

open HWPanel.Config HWPanel.Core HWPanel.Library HWPanel.Platform

namespace V1

structure Profile where
  id : String
  name : String
  description : String
  settings : SortedMap String String

structure ListProfilesResponse where
  profiles : List Profile
  activeProfileId : String

end V1

/-- `convert::ToProto` of a profile. -/
def profileToProto (profile : Profile) : V1.Profile :=
  ⟨profile.id, profile.name, profile.description, profile.settings⟩

variable {S : Type} {manager : ProfileManager S}

/-- A request that has returned, for the history of a run. -/
inductive Completed where
  | switched (id : String) (response : SwitchProfileResponse)
  | listed (response : V1.ListProfilesResponse)
  | thrown

/-- `listing` are the profiles a call of `ListProfiles` has got from `List` and not yet
returned. -/
structure ProfileCalls (manager : ProfileManager S) (threads : Nat) where
  state : ManagerState manager
  listing : Fin threads → Option (List Profile) := fun _ => none
  trace : List Completed := []

/-- `SwitchProfile`, and the two halves of a `ListProfiles` on a thread. -/
inductive CallEvent (threads : Nat) where
  | switchProfile (id : String) (io : SwitchIO)
  | list (thread : Fin threads)
  | activeId (thread : Fin threads)

namespace ProfileCalls

variable {threads : Nat} (self : ProfileCalls manager threads)

def complete (completed : Completed) : ProfileCalls manager threads :=
  { self with trace := self.trace ++ [completed] }

def step : CallEvent threads → Option (ProfileCalls manager threads)
  | .switchProfile id io =>
      match switchProfile manager id io self.state with
      | (.ok response, state) => some ({ self with state }.complete (.switched id response))
      | (.error _, state) => some ({ self with state }.complete .thrown)
  | .list thread =>
      match self.listing thread with
      | some _ => none
      | none =>
          match manager.store.list self.state.fs with
          | .ok profiles => some
              { self with listing := Function.update self.listing thread (some profiles) }
          | .error _ => some (self.complete .thrown)
  | .activeId thread =>
      match self.listing thread with
      | some profiles => some
          ({ self with listing := Function.update self.listing thread none }.complete
            (.listed ⟨profiles.map profileToProto, manager.activeId self.state⟩))
      | none => none

end ProfileCalls

/-- The id of the last switch that succeeded. -/
def lastActive (active : String) (trace : List Completed) : String :=
  trace.foldl (fun active completed =>
    match completed with
    | .switched id response => if response.ok then id else active
    | _ => active) active

@[simp] theorem lastActive_append (active : String) (front back : List Completed) :
    lastActive active (front ++ back) = lastActive (lastActive active front) back :=
  List.foldl_append

/-- Each answer is the one of a service that runs a request at once, when it returns:
`profiles` are there all the time, and the active id is that of the last switch. -/
structure AtomicLaw (ids : Set String) (profiles : List Profile) (active : String)
    (trace : List Completed) : Prop where
  listed : ∀ past response rest, trace = past ++ .listed response :: rest →
    response = ⟨profiles.map profileToProto, lastActive active past⟩
  switched : ∀ id response, .switched id response ∈ trace → response.ok = true → id ∈ ids →
    id ∈ profiles.map (·.id)

namespace AtomicLaw

variable {ids : Set String} {profiles : List Profile} {active : String} {trace : List Completed}

theorem nil : AtomicLaw ids profiles active [] where
  listed := by simp
  switched := by simp

/-- One more request. -/
theorem snoc (law : AtomicLaw ids profiles active trace) {completed : Completed}
    (listed : ∀ response, completed = .listed response →
      response = ⟨profiles.map profileToProto, lastActive active trace⟩)
    (switched : ∀ id response, completed = .switched id response → response.ok = true →
      id ∈ ids → id ∈ profiles.map (·.id)) :
    AtomicLaw ids profiles active (trace ++ [completed]) := by
  constructor
  · intro past response rest split
    rcases List.eq_nil_or_concat rest with rfl | ⟨front, last, rfl⟩
    · obtain ⟨rfl, same⟩ := List.append_inj' split rfl
      exact listed response (List.cons.inj same).1
    · rw [List.concat_eq_append, ← List.cons_append, ← List.append_assoc] at split
      exact law.listed past response front (List.append_inj' split rfl).1
  · intro id response member
    rcases List.mem_append.mp member with before | new
    · exact law.switched id response before
    · exact switched id response (List.mem_singleton.mp new).symm

end AtomicLaw

namespace ProfileCalls

variable {ids : Set String} {map : ProfileMap} {profiles : List Profile} {threads : Nat}
  {self next : ProfileCalls manager threads}

/-- The calls in progress hold the profiles of the directory. -/
structure Serializes (ids : Set String) (map : ProfileMap) (profiles : List Profile)
    (calls : ProfileCalls manager threads) : Prop where
  represents : manager.store.Represents ids calls.state.fs
    (map.setActive (lastActive map.active calls.trace))
  list : manager.store.list calls.state.fs = .ok profiles
  listing : ∀ thread held, calls.listing thread = some held → held = profiles
  law : AtomicLaw ids profiles map.active calls.trace

section

variable (faithful : manager.store.codec.Faithful) (plainIds : PlainIds manager.store.env ids)
include faithful plainIds

/-- A request to switch, whatever its id. -/
theorem Serializes.switchTo (serializes : Serializes ids map profiles self) {id : String}
    {io : SwitchIO} (persists : manager.Persists id io) {result : SwitchResult}
    {state : ManagerState manager}
    (switched : manager.switchTo id io self.state = (.ok result, state)) :
    Serializes ids map profiles ({ self with state }.complete
      (.switched id ⟨result.ok, result.message, result.rolledBackKeys⟩)) := by
  have files := ProfileManager.switchTo_fs self.state id io
  rw [switched] at files
  have represents : manager.store.Represents ids state.fs (map.setActive
      (if result.ok then id else lastActive map.active self.trace)) := by
    cases ok : result.ok with
    | true =>
        have succeeded : ProfileManager.Succeeded self.state id io :=
          ⟨result, by rw [switched], ok⟩
        rw [files.1 succeeded]
        exact serializes.represents.setActiveId plainIds persists
    | false =>
        have failed : ¬ProfileManager.Succeeded self.state id io := by
          rintro ⟨other, returned, otherOk⟩
          rw [switched] at returned
          cases returned
          rw [ok] at otherOk
          cases otherOk
        rw [files.2 failed]
        exact serializes.represents
  constructor
  · show manager.store.Represents ids state.fs
      (map.setActive (lastActive map.active (self.trace ++ [_])))
    rw [lastActive_append]
    exact represents
  · rw [← serializes.list]
    exact serializes.represents.list_setActive faithful plainIds represents
  · exact serializes.listing
  · apply serializes.law.snoc
    · intro response same
      cases same
    · rintro other response same ok inIds
      cases same
      obtain ⟨profile, loaded, -⟩ :=
        ProfileManager.switchTo_ok_iff.mp ⟨result, by rw [switched], ok⟩
      rw [serializes.represents.get_eq faithful plainIds inIds] at loaded
      have mapped := Except.ok.inj loaded
      obtain ⟨sameId, -⟩ := serializes.represents.named _ profile mapped
      refine List.mem_map.mpr ⟨profile, ?_, sameId⟩
      rw [serializes.represents.mem_list_iff faithful plainIds serializes.list, sameId]
      exact mapped

theorem Serializes.step (serializes : Serializes ids map profiles self)
    {event : CallEvent threads}
    (persists : ∀ id io, event = .switchProfile id io → manager.Persists id io)
    (taken : self.step event = some next) : Serializes ids map profiles next := by
  have thrown : ∀ {state : ManagerState manager}, state.fs = self.state.fs →
      Serializes ids map profiles ({ self with state }.complete .thrown) := by
    intro state same
    constructor
    · show manager.store.Represents ids state.fs
        (map.setActive (lastActive map.active (self.trace ++ [.thrown])))
      rw [same, lastActive_append]
      exact serializes.represents
    · show manager.store.list state.fs = _
      rw [same]
      exact serializes.list
    · exact serializes.listing
    · exact serializes.law.snoc (by simp) (by simp)
  cases event with
  | switchProfile id io =>
      cases called : manager.switchTo id io self.state with
      | mk result state =>
          cases result with
          | ok result =>
              simp only [ProfileCalls.step, switchProfile, called] at taken
              cases taken
              exact serializes.switchTo faithful plainIds (persists id io rfl) called
          | error error =>
              simp only [ProfileCalls.step, switchProfile, called] at taken
              cases taken
              apply thrown
              have failed : ¬ProfileManager.Succeeded self.state id io := by
                rintro ⟨result, returned, -⟩
                rw [called] at returned
                cases returned
              have files := (ProfileManager.switchTo_fs self.state id io).2 failed
              rw [called] at files
              exact files
  | list thread =>
      simp only [ProfileCalls.step, serializes.list] at taken
      split at taken
      · cases taken
      · cases taken
        refine { serializes with listing := ?_ }
        intro other held holding
        simp only [Function.update_apply] at holding
        split at holding
        · exact (Option.some.inj holding).symm
        · exact serializes.listing other held holding
  | activeId thread =>
      simp only [ProfileCalls.step] at taken
      split at taken
      · rename_i held listing
        cases taken
        cases serializes.listing thread held listing
        have active : manager.activeId self.state = lastActive map.active self.trace :=
          serializes.represents.activeId_eq faithful
        constructor
        · show manager.store.Represents ids self.state.fs
            (map.setActive (lastActive map.active (self.trace ++ [_])))
          rw [lastActive_append]
          exact serializes.represents
        · exact serializes.list
        · intro other held holding
          simp only [complete, Function.update_apply] at holding
          split at holding
          · cases holding
          · exact serializes.listing other held holding
        · apply serializes.law.snoc
          · intro response same
            cases same
            rw [active]
          · intro id response same
            cases same
      · cases taken

theorem serializes_of_run {start : ManagerState manager}
    (represents : manager.store.Represents ids start.fs map)
    (listed : manager.store.list start.fs = .ok profiles) {events : List (CallEvent threads)}
    (persists : ∀ id io, .switchProfile id io ∈ events → manager.Persists id io)
    {calls : ProfileCalls manager threads}
    (executed : run (fun calls => ProfileCalls.step calls) { state := start } events =
      some calls) : Serializes ids map profiles calls := by
  refine run_history (fun past calls =>
    (∀ id io, .switchProfile id io ∈ past → manager.Persists id io) →
      Serializes ids map profiles calls) ?_ ?_ executed persists
  · exact fun _ => ⟨represents, listed, by simp, .nil⟩
  · intro past before event after serializes taken allowed
    refine Serializes.step faithful plainIds (serializes ?_) ?_ taken
    · exact fun id io member => allowed id io (List.mem_append_left _ member)
    · rintro id io rfl
      exact allowed id io (List.mem_append_right _ List.mem_cons_self)

end

end ProfileCalls

/-- Requests that run side by side are answered as if each ran at once when it returns,
also a `ListProfiles` with switches between its two halves. -/
theorem profile_requests_atomic {ids : Set String} {map : ProfileMap} {threads : Nat}
    (faithful : manager.store.codec.Faithful) (plainIds : PlainIds manager.store.env ids)
    {start : ManagerState manager} (represents : manager.store.Represents ids start.fs map)
    {events : List (CallEvent threads)}
    (persists : ∀ id io, .switchProfile id io ∈ events → manager.Persists id io)
    {calls : ProfileCalls manager threads}
    (executed : run (fun calls => ProfileCalls.step calls) { state := start } events =
      some calls) :
    ∃ profiles, manager.store.list start.fs = .ok profiles ∧
      AtomicLaw ids profiles (manager.activeId start) calls.trace ∧
      manager.store.list calls.state.fs = .ok profiles ∧
      manager.activeId calls.state = lastActive (manager.activeId start) calls.trace := by
  obtain ⟨profiles, listed, -⟩ := represents.list_exact faithful plainIds
  have active : manager.activeId start = map.active := represents.activeId_eq faithful
  have serializes :=
    ProfileCalls.serializes_of_run faithful plainIds represents listed persists executed
  rw [active]
  exact ⟨profiles, listed, serializes.law, serializes.list,
    serializes.represents.activeId_eq faithful⟩

/-! ## A switch in the middle of a listing -/

def nightId : Set String := {"night"}

theorem nightId_plain : PlainIds installed.env nightId := by
  constructor
  · rintro id rfl
    exact ProfileManager.night_plain
  · rintro id rfl
    decide
  · rintro id rfl other rfl
    decide
  · rintro id rfl
    decide

/-- A store that holds one profile, and no active id. -/
def oneProfile : ManagerState fakeManager where
  fs := (installed.save FileSystem.empty night (writing (profileDoc night))).2
  objects := fun _ => {}

theorem oneProfile_represents :
    installed.Represents nightId oneProfile.fs (ProfileMap.empty.save night) := by
  have empty : installed.Represents nightId FileSystem.empty ProfileMap.empty :=
    ProfileStore.represents_empty nightId_plain rfl
  have idMem : night.id ∈ nightId := rfl
  exact (empty.save nightId_plain idMem (writing_succeeds (profileDoc night))).2

theorem oneProfile_switched :
    ∃ final, fakeManager.switchTo "night" ⟨writing (activeDoc "night"), 0⟩ oneProfile =
      (.ok ⟨true, "ok", []⟩, final) := by
  have found : fakeManager.store.get oneProfile.fs "night" = .ok (some night) :=
    oneProfile_represents.get_eq JsonText.codec_faithful nightId_plain rfl
  rw [ProfileManager.switchTo, found]
  exact ⟨_, rfl⟩

theorem profile_requests_atomic_between : ∃ calls profiles,
    run (fun calls => ProfileCalls.step calls)
      ({ state := oneProfile } : ProfileCalls fakeManager 1)
      [.list 0, .switchProfile "night" ⟨writing (activeDoc "night"), 0⟩, .activeId 0] =
        some calls ∧
    fakeManager.activeId oneProfile = "" ∧
    AtomicLaw nightId profiles (fakeManager.activeId oneProfile) calls.trace ∧
    calls.trace = [.switched "night" ⟨true, "ok", []⟩,
      .listed ⟨profiles.map profileToProto, "night"⟩] := by
  have faithful : fakeManager.store.codec.Faithful := JsonText.codec_faithful
  have represents := oneProfile_represents
  have persists : fakeManager.Persists "night" ⟨writing (activeDoc "night"), 0⟩ :=
    writing_succeeds (activeDoc "night")
  obtain ⟨profiles, inStore, -⟩ := represents.list_exact faithful nightId_plain
  have listed : fakeManager.store.list oneProfile.fs = .ok profiles := inStore
  obtain ⟨final, switched⟩ := oneProfile_switched
  let initial : ProfileCalls fakeManager 1 := { state := oneProfile }
  let held : ProfileCalls fakeManager 1 :=
    { initial with listing := Function.update initial.listing 0 (some profiles) }
  have first : initial.step (.list 0) = some held := by
    simp only [ProfileCalls.step, initial, held, listed]
  have second : held.step (.switchProfile "night" ⟨writing (activeDoc "night"), 0⟩) =
      some ({ held with state := final }.complete (.switched "night" ⟨true, "ok", []⟩)) := by
    simp only [ProfileCalls.step, switchProfile, held, initial, switched]
  obtain ⟨last, third, traced⟩ : ∃ last, ({ held with state := final }.complete
      (.switched "night" ⟨true, "ok", []⟩)).step (.activeId 0) = some last ∧
        last.trace = [.switched "night" ⟨true, "ok", []⟩,
          .listed ⟨profiles.map profileToProto, fakeManager.activeId final⟩] :=
    ⟨_, rfl, rfl⟩
  have executed : run (fun calls => ProfileCalls.step calls) initial
      [.list 0, .switchProfile "night" ⟨writing (activeDoc "night"), 0⟩, .activeId 0] =
        some last := by
    rw [run_cons, first, Option.bind_some, run_cons, second, Option.bind_some, run_cons, third]
    rfl
  have unset : fakeManager.activeId oneProfile = "" := represents.activeId_eq faithful
  have active : fakeManager.activeId final = "night" := by
    have returned := congrArg Prod.fst switched
    have written := ProfileManager.activeId_of_persisted faithful persists returned rfl
    rw [switched] at written
    exact written
  obtain ⟨shown, listedAgain, law, -⟩ :=
    profile_requests_atomic faithful nightId_plain represents (by simp [persists]) executed
  cases listed.symm.trans listedAgain
  rw [active] at traced
  exact ⟨last, profiles, executed, unset, law, traced⟩

end HWPanel.Service
