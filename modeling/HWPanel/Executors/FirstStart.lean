import HWPanel.Config.Announcements
import HWPanel.Core.StoreRefinement
import HWPanel.Executors.Factory

/-!
# The first start

Which profiles the devices take, and what becomes of a machine on which nothing but the
built-in profiles is installed: whatever is asked of it, it is a choice of one plan.
-/

namespace HWPanel.Executors

open HWPanel.Config
open HWPanel.Core
open HWPanel.Library
open HWPanel.Platform

variable {store : ProfileStore}

/-- The setting names a plan that can be set, or a level that some monitor accepts while one
can be read. -/
def Acceptable (state : ManagerState (serviceManager store)) (setting : String × String) :
    Prop :=
  (setting.1 = "power.plan" ∧ ∃ guid, resolve setting.2 = some guid ∧
      (powerManager state).setResult guid = errorSuccess) ∨
    (setting.1 = "display.brightness" ∧
      (∃ first, (displays state).find? (·.readable) = some first) ∧
      ∃ level, requestedLevel setting.2 = some level ∧ ∃ m ∈ displays state, m.Accepts level)

theorem PowerPlanExecutor.apply_ok_iff {desired : String} {manager : PowerManager} :
    (PowerPlanExecutor.apply desired manager).1.ok = true ↔
      ∃ guid, resolve desired = some guid ∧ manager.setResult guid = errorSuccess := by
  constructor
  · intro ok
    obtain ⟨guid, resolved, settable, -⟩ := PowerPlanExecutor.apply_ok ok
    exact ⟨guid, resolved, settable⟩
  · rintro ⟨guid, resolved, settable⟩
    rw [PowerPlanExecutor.apply_of_resolve resolved]
    exact (PowerPlanExecutor.selectScheme_of_success desired settable).1

theorem BrightnessExecutor.apply_ok_iff {desired : String} {monitors : List PhysicalMonitor} :
    (BrightnessExecutor.apply desired monitors).1.ok = true ↔
      ∃ level, requestedLevel desired = some level ∧ ∃ m ∈ monitors, m.Accepts level := by
  cases requested : requestedLevel desired with
  | none =>
      rw [BrightnessExecutor.apply_of_requestedLevel_none requested]
      simp
  | some level =>
      rw [(BrightnessExecutor.apply_of_requestedLevel monitors requested).2]
      simp

/-- The executor applied the value. -/
def Attempt.Applied {S : Type} (attempt : Attempt S) : Prop :=
  ∃ previous object, attempt = .applied previous object

theorem applied_of_available {S : Type} {executor : IExecutor S} {desired : String} {object : S}
    (available : (executor.available object).1 = true) :
    Attempt.Applied (executor.attempt desired object) ↔ (executor.apply desired
      (executor.currentValue (executor.available object).2).2).1.ok = true := by
  rw [Attempt.Applied, IExecutor.attempt_available available]
  split
  case isTrue ok => exact iff_of_true ⟨_, _, rfl⟩ ok
  case isFalse failed =>
    refine iff_of_false ?_ failed
    rintro ⟨previous, after, attempted⟩
    cases attempted

theorem applied_plan_iff {desired : String} {devices : Devices} :
    Attempt.Applied (makePowerPlanExecutor.attempt desired devices) ↔
      ∃ guid, resolve desired = some guid ∧ devices.manager.setResult guid = errorSuccess :=
  (applied_of_available rfl).trans PowerPlanExecutor.apply_ok_iff

theorem applied_brightness_iff {desired : String} {devices : Devices} :
    Attempt.Applied (makeBrightnessExecutor.attempt desired devices) ↔
      (∃ first, devices.monitors.find? (·.readable) = some first) ∧
      ∃ level, requestedLevel desired = some level ∧
        ∃ m ∈ devices.monitors, m.Accepts level := by
  rw [← available_iff]
  cases available : BrightnessExecutor.available devices.monitors with
  | false =>
      rw [IExecutor.attempt_unavailable available]
      simp [Attempt.Applied]
  | true =>
      rw [applied_of_available available, and_iff_right rfl]
      exact BrightnessExecutor.apply_ok_iff

open ProfileManager in
theorem accepts_of_found {S : Type} {manager : ProfileManager S} {setting : String × String}
    {i : Fin manager.executors.length} (found : manager.findExecutor setting.1 = some i)
    (objects : Fin manager.executors.length → S) :
    manager.accepts objects setting = true ↔
      Attempt.Applied ((manager.executors.get i).attempt setting.2 (objects i)) := by
  rw [accepts, found]
  simp only
  cases (manager.executors.get i).attempt setting.2 (objects i) with
  | applied previous object => exact iff_of_true rfl ⟨previous, object, rfl⟩
  | unavailable object =>
      refine iff_of_false (fun same => by cases same) ?_
      rintro ⟨previous, after, same⟩
      cases same
  | failed message object =>
      refine iff_of_false (fun same => by cases same) ?_
      rintro ⟨previous, after, same⟩
      cases same

/-- The two executors, and the conditions under which they apply a value. -/
theorem accepts_iff {state : ManagerState (serviceManager store)} {setting : String × String} :
    (serviceManager store).accepts state.objects setting = true ↔ Acceptable state setting := by
  have known (i : Fin (serviceManager store).executors.length) :=
    @findExecutor_iff store setting.1 i
  cases found : (serviceManager store).findExecutor setting.1 with
  | none =>
      rw [ProfileManager.accepts, found]
      refine iff_of_false (fun same => by cases same) ?_
      rintro (⟨named, -⟩ | ⟨named, -⟩)
      · cases found.symm.trans ((known planIndex).mpr (.inl ⟨rfl, named⟩))
      · cases found.symm.trans ((known brightnessIndex).mpr (.inr ⟨rfl, named⟩))
  | some i =>
      rw [accepts_of_found found, Acceptable]
      rcases (known i).mp found with ⟨rfl, named⟩ | ⟨rfl, named⟩
      · rw [and_iff_right named, or_iff_left]
        · exact applied_plan_iff
        · rintro ⟨other, -⟩
          exact absurd (named.symm.trans other) (by decide)
      · rw [and_iff_right named, or_iff_right]
        · exact applied_brightness_iff
        · rintro ⟨other, -⟩
          exact absurd (named.symm.trans other) (by decide)

/-- The profile can be read, and the devices take all of it. -/
theorem appliable_iff {before : ManagerState (serviceManager store)} {id : String} :
    ProfileManager.Appliable before id ↔
      ∃ profile, store.get before.fs id = .ok (some profile) ∧
        ∀ setting ∈ profile.settings.entries, Acceptable before setting := by
  refine exists_congr fun profile => and_congr_right fun _ => ?_
  exact forall₂_congr fun setting _ => accepts_iff

/-- A switch succeeds exactly where every setting of its profile is acceptable before the
call, whatever is tried first. -/
theorem switch_succeeds_iff (before : ManagerState (serviceManager store)) (id : String)
    (io : SwitchIO) :
    (∃ result, ((serviceManager store).switchTo id io before).1 = .ok result ∧
        result.ok = true) ↔
      ∃ profile, store.get before.fs id = .ok (some profile) ∧
        ∀ setting ∈ profile.settings.entries, Acceptable before setting :=
  ProfileManager.switchTo_ok_iff.trans appliable_iff

/-- The plan executor changes nothing but the active scheme. -/
theorem plan_attempt_object {plan : String} {guid : Guid} (resolved : resolve plan = some guid)
    (devices : Devices) :
    (makePowerPlanExecutor.attempt plan devices).object = { devices with
      manager := (PowerPlanExecutor.selectScheme plan guid devices.manager).2 } := by
  rw [IExecutor.attempt_available rfl, ← PowerPlanExecutor.apply_of_resolve resolved]
  split
  · rfl
  · rfl

/-- What a switch to a profile of this plan leaves behind. -/
structure PlanLaw (guid : Guid) (before final : ManagerState (serviceManager store)) : Prop where
  scheme : (powerManager final).activeScheme =
    if (powerManager before).setResult guid = errorSuccess then (errorSuccess, some guid)
    else (powerManager before).activeScheme
  setResult : (powerManager final).setResult = (powerManager before).setResult
  displays : displays final = displays before

/-- Whether it is applied or refused, the plan is attempted once and nothing is undone. -/
theorem planLaw_of_attempted {before final : ManagerState (serviceManager store)}
    {plan : String} {guid : Guid} (resolved : resolve plan = some guid)
    (attempted : final.objects planIndex =
      (makePowerPlanExecutor.attempt plan (before.objects planIndex)).object)
    (untouched : final.objects brightnessIndex = before.objects brightnessIndex) :
    PlanLaw guid before final := by
  rw [plan_attempt_object resolved] at attempted
  constructor
  · rw [powerManager, attempted]
    split
    case isTrue settable => exact (PowerPlanExecutor.selectScheme_of_success plan settable).2
    case isFalse refused => exact (PowerPlanExecutor.selectScheme_of_failure plan refused).2
  · rw [powerManager, attempted]
    exact PowerPlanExecutor.selectScheme_setResult plan guid _
  · rw [displays, untouched]
    rfl

open ProfileManager in
theorem switch_plan (before : ManagerState (serviceManager store)) {id : String} (io : SwitchIO)
    {profile : Profile} {plan : String} {guid : Guid}
    (loaded : store.get before.fs id = .ok (some profile))
    (only : profile.settings.entries = [("power.plan", plan)])
    (resolved : resolve plan = some guid) :
    PlanLaw guid before ((serviceManager store).switchTo id io before).2 := by
  have outcome := switchTo_outcome before id io
  have loaded' : (serviceManager store).store.get before.fs id = .ok (some profile) := loaded
  have selected : (serviceManager store).findExecutor "power.plan" = some planIndex :=
    findExecutor_iff.mpr (.inl ⟨rfl, rfl⟩)
  generalize (serviceManager store).switchTo id io before = returned at outcome ⊢
  obtain ⟨answer, final⟩ := returned
  cases outcome with
  | thrown error unreadable => cases loaded'.symm.trans unreadable
  | notFound missing => cases loaded'.symm.trans missing
  | applied other steps state found settings progress =>
      cases loaded'.symm.trans found
      rw [only] at settings
      obtain ⟨⟨setting, executor, previous, object⟩, rfl, rfl⟩ :=
        List.map_eq_singleton_iff.mp settings
      have taken := progress.taken _ List.mem_cons_self
      cases taken.found.symm.trans selected
      refine planLaw_of_attempted resolved ?_ (progress.untouched brightnessIndex ?_)
      · have attempted : makePowerPlanExecutor.attempt plan (before.objects planIndex) =
            .applied previous object := taken.attempted
        rw [attempted]
        exact progress.reached _ List.mem_cons_self
      · exact fun applied => planIndex_ne (List.mem_singleton.mp applied).symm
  | failed other steps failing later message final found settings aborted =>
      cases loaded'.symm.trans found
      rw [only] at settings
      cases steps with
      | nil =>
          cases settings
          refine planLaw_of_attempted resolved (aborted.attempted planIndex selected) ?_
          refine aborted.untouched brightnessIndex List.not_mem_nil fun other => ?_
          exact planIndex_ne (Option.some.inj (selected.symm.trans other))
      | cons step rest =>
          have length := congrArg List.length settings
          simp only [List.length_append, List.length_map, List.length_cons, List.length_nil]
            at length
          omega

/-- The plans that the built-in profiles stand for. -/
def builtInPlan (id : String) : Option Guid :=
  if id = "balanced" then some balanced
  else if id = "performance" then some highPerformance
  else if id = "powersaver" then some powerSaver
  else none

/-- What a machine with the built-in profiles amounts to: the profile chosen last, and the
scheme in force. -/
structure Selection where
  active : String
  scheme : Nat × Option Guid

namespace Selection

variable (setResult : Guid → Nat)

def switchTo (self : Selection) (id : String) : Bool × Selection :=
  match builtInPlan id with
  | none => (false, self)
  | some guid =>
      if setResult guid = errorSuccess then (true, ⟨id, (errorSuccess, some guid)⟩)
      else (false, self)

def switchAll : List String → Selection → List Bool × Selection
  | [], self => ([], self)
  | id :: rest, self =>
      let (ok, next) := self.switchTo setResult id
      let (results, last) := switchAll rest next
      (ok :: results, last)

end Selection

/-- The map that the first start leaves behind. -/
def builtIns : ProfileMap := ProfileMap.empty.seeded

theorem builtIns_profiles (id : String) : builtIns.profiles id =
    if id = "powersaver" then some ProfileStore.powersaver
    else if id = "performance" then some ProfileStore.performance
    else if id = "balanced" then some ProfileStore.balanced else none := by
  have unset : ProfileMap.empty.active = "" := rfl
  rw [builtIns, ProfileMap.seeded, if_pos unset]
  show (((ProfileMap.empty.save _).save _).save _).profiles id = _
  rw [ProfileMap.save_profiles, ProfileMap.save_profiles, ProfileMap.save_profiles]
  rfl

/-- The plan that a profile names is the one it stands for. -/
theorem exists_plan_profile {id : String} {guid : Guid} (stands : builtInPlan id = some guid) :
    ∃ profile plan, builtIns.profiles id = some profile ∧
      profile.settings.entries = [("power.plan", plan)] ∧ resolve plan = some guid := by
  rw [builtIns_profiles]
  rw [builtInPlan] at stands
  split at stands
  case isTrue isBalanced =>
    cases stands
    subst isBalanced
    exact ⟨_, "balanced", rfl, rfl, rfl⟩
  case isFalse notBalanced =>
    split at stands
    case isTrue isPerformance =>
      cases stands
      subst isPerformance
      exact ⟨_, "high", rfl, rfl, rfl⟩
    case isFalse notPerformance =>
      split at stands
      case isTrue isPowersaver =>
        cases stands
        subst isPowersaver
        exact ⟨_, "saver", rfl, rfl, rfl⟩
      case isFalse notPowersaver => cases stands

theorem builtIns_profiles_eq_none {id : String} (unknown : builtInPlan id = none) :
    builtIns.profiles id = none := by
  rw [builtIns_profiles]
  rw [builtInPlan] at unknown
  split at unknown
  · cases unknown
  · split at unknown
    · cases unknown
    · split at unknown
      · cases unknown
      · simp only [*, if_false]

/-! ## The machine is a selection -/

/-- The files hold the built-in profiles and the id chosen, the devices the scheme. -/
structure Simulates (ids : Set String) (initial state : ManagerState (serviceManager store))
    (selection : Selection) : Prop where
  represents : store.Represents ids state.fs (builtIns.setActive selection.active)
  scheme : (powerManager state).activeScheme = selection.scheme
  setResult : (powerManager state).setResult = (powerManager initial).setResult
  displays : displays state = displays initial

section

variable {ids : Set String} {initial state : ManagerState (serviceManager store)}
  {selection : Selection} (faithful : store.codec.Faithful) (plainIds : PlainIds store.env ids)
include faithful plainIds

open ProfileManager in
/-- A switch that is asked for is one of the selection. -/
theorem Simulates.switchTo (simulates : Simulates ids initial state selection) {id : String}
    (idMem : id ∈ ids) {io : SwitchIO} (persists : (serviceManager store).Persists id io) :
    (Succeeded state id io ↔
        (selection.switchTo (powerManager initial).setResult id).1 = true) ∧
      Simulates ids initial ((serviceManager store).switchTo id io state).2
        (selection.switchTo (powerManager initial).setResult id).2 := by
  have found : store.get state.fs id = .ok (builtIns.profiles id) :=
    simulates.represents.get_eq faithful plainIds idMem
  rw [Selection.switchTo]
  cases stands : builtInPlan id with
  | none =>
      rw [builtIns_profiles_eq_none stands] at found
      have found' : (serviceManager store).store.get state.fs id = .ok none := found
      rw [Succeeded, ProfileManager.switchTo, found']
      refine ⟨?_, simulates⟩
      simp
  | some guid =>
      obtain ⟨profile, plan, present, only, resolved⟩ := exists_plan_profile stands
      rw [present] at found
      have succeeds : Succeeded state id io ↔
          (powerManager initial).setResult guid = errorSuccess := by
        rw [Succeeded, switchTo_ok_iff, appliable_iff, ← simulates.setResult]
        simp [found, only, Acceptable, resolved]
      have law := switch_plan state io found only resolved
      have files := switchTo_fs state id io
      simp only
      split
      case isTrue settable =>
        refine ⟨iff_of_true (succeeds.mpr settable) rfl, ?_, ?_, ?_, ?_⟩
        · rw [files.1 (succeeds.mpr settable)]
          exact simulates.represents.setActiveId plainIds persists
        · rw [law.scheme, simulates.setResult, if_pos settable]
        · exact law.setResult.trans simulates.setResult
        · exact law.displays.trans simulates.displays
      case isFalse refused =>
        refine ⟨iff_of_false (fun succeeded => refused (succeeds.mp succeeded))
          (fun same => by cases same), ?_, ?_, ?_, ?_⟩
        · rw [files.2 (fun succeeded => refused (succeeds.mp succeeded))]
          exact simulates.represents
        · rw [law.scheme, simulates.setResult, if_neg refused]
          exact simulates.scheme
        · exact law.setResult.trans simulates.setResult
        · exact law.displays.trans simulates.displays

theorem Simulates.switchAll (simulates : Simulates ids initial state selection)
    {calls : List (String × SwitchIO)}
    (allowed : ∀ call ∈ calls, call.1 ∈ ids ∧ (serviceManager store).Persists call.1 call.2) :
    ((serviceManager store).switchRecords calls state).map (·.applied) =
        (selection.switchAll (powerManager initial).setResult (calls.map (·.1))).1 ∧
      Simulates ids initial ((serviceManager store).switchAll calls state)
        (selection.switchAll (powerManager initial).setResult (calls.map (·.1))).2 := by
  induction calls generalizing state selection with
  | nil => exact ⟨rfl, simulates⟩
  | cons call rest ih =>
      obtain ⟨id, io⟩ := call
      obtain ⟨⟨idMem, persists⟩, later⟩ := List.forall_mem_cons.mp allowed
      obtain ⟨succeeds, next⟩ := simulates.switchTo faithful plainIds idMem persists
      obtain ⟨results, last⟩ := ih next later
      refine ⟨?_, last⟩
      rw [ProfileManager.switchRecords, List.map_cons, results, List.map_cons,
        Selection.switchAll]
      congr 1
      rw [Bool.eq_iff_iff, ProfileManager.applied_iff_succeeded]
      exact succeeds

end

/-- Once a choice was accepted the scheme in force is that of the profile chosen. -/
theorem Selection.agrees (setResult : Guid → Nat) (ids : List String) (self : Selection)
    (accepted : true ∈ (self.switchAll setResult ids).1 ∨ ∃ guid,
      builtInPlan self.active = some guid ∧ self.scheme = (errorSuccess, some guid)) :
    ∃ guid, builtInPlan (self.switchAll setResult ids).2.active = some guid ∧
      (self.switchAll setResult ids).2.scheme = (errorSuccess, some guid) := by
  induction ids generalizing self with
  | nil => exact accepted.resolve_left List.not_mem_nil
  | cons id rest ih =>
      rw [switchAll] at accepted ⊢
      apply ih
      rw [List.mem_cons] at accepted
      rw [switchTo] at accepted ⊢
      cases stands : builtInPlan id with
      | none => simpa [stands] using accepted
      | some guid =>
          by_cases settable : setResult guid = errorSuccess
          · exact .inr ⟨guid, by simp [settable, stands]⟩
          · simpa [stands, settable] using accepted

/-- What becomes of a machine with the built-in profiles over these calls. -/
structure SelectionLaw (initial : ManagerState (serviceManager store))
    (calls : List (String × SwitchIO)) (selected : List Bool × Selection)
    (final : ManagerState (serviceManager store)) : Prop where
  results : ((serviceManager store).switchRecords calls initial).map (·.applied) = selected.1
  active : (serviceManager store).activeId final = selected.2.active
  scheme : (powerManager final).activeScheme = selected.2.scheme
  /-- The active profile and the scheme agree from the first success on. -/
  agree : true ∈ selected.1 → ∃ guid,
    builtInPlan ((serviceManager store).activeId final) = some guid ∧
      (powerManager final).activeScheme = (errorSuccess, some guid)
  displays : displays final = displays initial
  listed : store.list final.fs = .ok ProfileStore.defaults

/-- The built-in profiles are listed in the order of their ids. -/
theorem list_of_represents {ids : Set String} {fs : FileSystem store.env} {active : String}
    (represents : store.Represents ids fs (builtIns.setActive active))
    (faithful : store.codec.Faithful) (plainIds : PlainIds store.env ids) :
    store.list fs = .ok ProfileStore.defaults := by
  obtain ⟨profiles, listed, member, sorted⟩ := represents.list_exact faithful plainIds
  have same : profiles = ProfileStore.defaults := by
    apply sorted.eq_of_mem_iff
    · decide
    · intro profile
      rw [member]
      constructor
      · intro mapped
        have mapped : builtIns.profiles profile.id = some profile := mapped
        rw [builtIns_profiles] at mapped
        split at mapped
        · cases mapped
          simp [ProfileStore.defaults]
        · split at mapped
          · cases mapped
            simp [ProfileStore.defaults]
          · split at mapped
            · cases mapped
              simp [ProfileStore.defaults]
            · cases mapped
      · intro membership
        simp only [ProfileStore.defaults, List.mem_cons, List.not_mem_nil, or_false] at membership
        show builtIns.profiles profile.id = some profile
        rcases membership with rfl | rfl | rfl
        · exact builtIns_profiles _
        · exact builtIns_profiles _
        · exact builtIns_profiles _
  rw [listed, same]

/-- From an empty directory the service becomes a choice of one plan: whatever is asked of
it, `SwitchTo` answers and the devices and the active id follow as the selection does. -/
theorem first_start_refines_selection (faithful : store.codec.Faithful) {ids : Set String}
    (plainIds : PlainIds store.env ids) {fs : FileSystem store.env}
    (empty : fs.filesIn store.dir.full = []) {io : DefaultsIO}
    (permitted : store.Permits ids (.ensureDefaults io)) :
    ∃ seeded, store.ensureDefaults fs io = .ok seeded ∧
      ∀ initial : ManagerState (serviceManager store), initial.fs = seeded →
        ∀ calls, (∀ call ∈ calls, call.1 ∈ ids ∧
            (serviceManager store).Persists call.1 call.2) →
          SelectionLaw initial calls
            (Selection.switchAll (powerManager initial).setResult (calls.map (·.1))
              ⟨"balanced", (powerManager initial).activeScheme⟩)
            ((serviceManager store).switchAll calls initial) := by
  obtain ⟨seeded, ensured, represents⟩ := (ProfileStore.represents_empty plainIds
    empty).ensureDefaults faithful plainIds permitted
  refine ⟨seeded, ensured, ?_⟩
  rintro initial rfl calls allowed
  have absent : ¬ProfileMap.empty.Present := by
    rintro ⟨id, present⟩
    cases present
  rw [ProfileMap.step, if_neg absent] at represents
  have simulates : Simulates ids initial initial
      ⟨"balanced", (powerManager initial).activeScheme⟩ :=
    ⟨represents, rfl, rfl, rfl⟩
  obtain ⟨results, last⟩ := simulates.switchAll faithful plainIds allowed
  have active := last.represents.activeId_eq faithful
  constructor
  · exact results
  · exact active
  · exact last.scheme
  · intro accepted
    obtain ⟨guid, stands, inForce⟩ := Selection.agrees _ _ _ (.inl accepted)
    exact ⟨guid, (congrArg builtInPlan active).trans stands, last.scheme.trans inForce⟩
  · exact last.displays
  · exact list_of_represents last.represents faithful plainIds

/-- A machine whose policy denies the power saver. -/
def guarded (seeded : FileSystem installed.env) : ManagerState (serviceManager installed) where
  fs := seeded
  objects := fun _ => ⟨⟨(errorSuccess, some balanced),
    fun guid => if guid = powerSaver then 5 else errorSuccess, []⟩, []⟩

/-- Two switches, the second of them denied. -/
def twoSwitches : List (String × SwitchIO) :=
  [("performance", ⟨writing (activeDoc "performance"), 0⟩),
    ("powersaver", ⟨writing (activeDoc "powersaver"), 1⟩)]

theorem first_start_refines_selection_denied : ∃ seeded,
    installed.ensureDefaults FileSystem.empty seeding = .ok seeded ∧
    (serviceManager installed).activeId
      ((serviceManager installed).switchAll twoSwitches (guarded seeded)) = "performance" ∧
    (powerManager ((serviceManager installed).switchAll twoSwitches
      (guarded seeded))).activeScheme = (errorSuccess, some highPerformance) := by
  have empty : FileSystem.filesIn (FileSystem.empty : FileSystem installed.env)
      installed.dir.full = [] := rfl
  obtain ⟨seeded, ensured, law⟩ := first_start_refines_selection JsonText.codec_faithful
    seededIds_plain empty seeding_permitted
  have allowed : ∀ call ∈ twoSwitches, call.1 ∈ seededIds ∧
      (serviceManager installed).Persists call.1 call.2 := by
    intro call membership
    rcases List.mem_pair.mp membership with rfl | rfl
    · exact ⟨by simp [seededIds], writing_succeeds _⟩
    · exact ⟨by simp [seededIds], writing_succeeds _⟩
  have selection := law (guarded seeded) rfl twoSwitches allowed
  exact ⟨seeded, ensured, selection.active, selection.scheme⟩

end HWPanel.Executors
