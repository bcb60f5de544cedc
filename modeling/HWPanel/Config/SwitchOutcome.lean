import HWPanel.Config.ProfileManager

/-!
# What a switch does

The exact effect of the loop of `SwitchTo` and of its rollback on every executor, in
terms of the state before the call. A profile selects each executor once, because
its keys are distinct, so every executor is attempted in its state before the call.
-/

namespace HWPanel.Config

open HWPanel.Core
open HWPanel.Platform

variable {S : Type}

/-- The state the attempt leaves the executor in. -/
def Attempt.object : Attempt S → S
  | .unavailable object => object
  | .failed _ object => object
  | .applied _ object => object

namespace ManagerState

variable {manager : ProfileManager S} (state : ManagerState manager)
  (i : Fin manager.executors.length) (object : S)

@[simp] theorem setObject_same : (state.setObject i object).objects i = object := by
  simp [setObject]

@[simp] theorem setObject_of_ne {j : Fin manager.executors.length} (different : j ≠ i) :
    (state.setObject i object).objects j = state.objects j := by
  simp [setObject, different]

end ManagerState

namespace ProfileManager

variable {manager : ProfileManager S}

theorem key_of_findExecutor {key : String} {i : Fin manager.executors.length}
    (found : manager.findExecutor key = some i) : (manager.executors.get i).key = key := by
  rw [findExecutor, List.findFinIdx?_eq_some_iff] at found
  simpa using found.1

/-- The setting has an executor that is available and accepts the value. -/
def accepts (manager : ProfileManager S) (objects : Fin manager.executors.length → S)
    (setting : String × String) : Bool :=
  match manager.findExecutor setting.1 with
  | none => false
  | some i =>
      match (manager.executors.get i).attempt setting.2 (objects i) with
      | .applied _ _ => true
      | .unavailable _ => false
      | .failed _ _ => false

/-- A setting the loop has applied: its executor, the snapshot, and the state `Apply`
left it in. -/
structure Step (manager : ProfileManager S) where
  setting : String × String
  executor : Fin manager.executors.length
  previous : String
  object : S

namespace Step

variable (step : Step manager)

/-- The entry of `applied`. -/
def entry : Fin manager.executors.length × String := (step.executor, step.previous)

/-- `Apply` of the snapshot, in the rollback. -/
def restore : ApplyResult × S :=
  (manager.executors.get step.executor).apply step.previous step.object

def desiredCall : ApplyCall := .desired step.executor step.setting.2 true

def restoreCall : ApplyCall := .restore step.executor step.previous step.restore.1.ok

/-- The step is what the loop does with its setting, starting from these states. -/
structure From (objects : Fin manager.executors.length → S) : Prop where
  found : manager.findExecutor step.setting.1 = some step.executor
  attempted : (manager.executors.get step.executor).attempt step.setting.2
    (objects step.executor) = .applied step.previous step.object

variable {step} {objects : Fin manager.executors.length → S}

theorem From.accepts (fromObjects : step.From objects) :
    manager.accepts objects step.setting = true := by
  rw [ProfileManager.accepts, fromObjects.found]
  simp only [fromObjects.attempted]

theorem From.key_eq (fromObjects : step.From objects) :
    (manager.executors.get step.executor).key = step.setting.1 :=
  key_of_findExecutor fromObjects.found

/-- Steps of other keys are done on other executors. -/
theorem not_selected {steps : List (Step manager)} {key : String}
    {i : Fin manager.executors.length} (taken : ∀ step ∈ steps, step.From objects)
    (fresh : key ∉ steps.map (·.setting.1)) (found : manager.findExecutor key = some i) :
    i ∉ steps.map (·.executor) := by
  intro membership
  rcases List.mem_map.mp membership with ⟨step, stepMem, rfl⟩
  have sameKey := (taken step stepMem).key_eq.symm.trans (key_of_findExecutor found)
  exact fresh (List.mem_map.mpr ⟨step, stepMem, sameKey⟩)

end Step

/-- The executors of these steps were given their snapshots, the others left alone. -/
structure Restored (steps : List (Step manager)) (state final : ManagerState manager) :
    Prop where
  restored : ∀ step ∈ steps, final.objects step.executor = step.restore.2
  untouched : ∀ j, j ∉ steps.map (·.executor) → final.objects j = state.objects j
  fs : final.fs = state.fs
  calls : final.calls = state.calls ++ steps.map (·.restoreCall)

theorem rollBack_keys (steps : List (Step manager)) (state : ManagerState manager) :
    (manager.rollBack (steps.map (·.entry)) state).1 =
      steps.map fun step => (manager.executors.get step.executor).key := by
  induction steps generalizing state with
  | nil => rfl
  | cons step rest ih =>
      rw [List.map_cons, List.map_cons, ← ih]
      rfl

theorem rollBack_restored (steps : List (Step manager)) (state : ManagerState manager)
    (distinct : (steps.map (·.executor)).Nodup)
    (reached : ∀ step ∈ steps, state.objects step.executor = step.object) :
    Restored steps state (manager.rollBack (steps.map (·.entry)) state).2 := by
  induction steps generalizing state with
  | nil =>
      constructor
      · intro step membership
        cases membership
      · intro j _
        rfl
      · rfl
      · exact (List.append_nil state.calls).symm
  | cons step rest ih =>
      rw [List.map_cons, List.nodup_cons] at distinct
      rcases distinct with ⟨fresh, distinct⟩
      have object : state.objects step.executor = step.object :=
        reached step List.mem_cons_self
      let next := (state.setObject step.executor step.restore.2).record step.restoreCall
      have unfolded : (manager.rollBack ((step :: rest).map (·.entry)) state).2 =
          (manager.rollBack (rest.map (·.entry)) next).2 := by
        simp only [List.map_cons, Step.entry, rollBack, object]
        rfl
      have nextReached : ∀ other ∈ rest, next.objects other.executor = other.object := by
        intro other membership
        have different : other.executor ≠ step.executor := by
          intro same
          exact fresh (List.mem_map.mpr ⟨other, membership, same⟩)
        exact (state.setObject_of_ne _ _ different).trans
          (reached other (List.mem_cons_of_mem _ membership))
      have rolled := ih next distinct nextReached
      rw [unfolded]
      constructor
      · intro other membership
        cases membership with
        | head => exact (rolled.untouched _ fresh).trans (state.setObject_same _ _)
        | tail _ inRest => exact rolled.restored other inRest
      · intro j outside
        rw [List.map_cons, List.mem_cons, not_or] at outside
        exact (rolled.untouched j outside.2).trans (state.setObject_of_ne _ _ outside.1)
      · exact rolled.fs
      · rw [rolled.calls]
        exact List.append_assoc state.calls [step.restoreCall] _

/-- The loop has applied these settings. -/
structure Progress (before : ManagerState manager) (steps : List (Step manager))
    (state : ManagerState manager) : Prop where
  taken : ∀ step ∈ steps, step.From before.objects
  distinct : (steps.map (·.executor)).Nodup
  reached : ∀ step ∈ steps, state.objects step.executor = step.object
  untouched : ∀ j, j ∉ steps.map (·.executor) → state.objects j = before.objects j
  fs : state.fs = before.fs
  calls : state.calls = before.calls ++ steps.map (·.desiredCall)

/-- The loop has applied these settings and failed at the next one. -/
structure Refused (before : ManagerState manager) (steps : List (Step manager))
    (failing : String × String) (state : ManagerState manager) : Prop where
  taken : ∀ step ∈ steps, step.From before.objects
  distinct : (steps.map (·.executor)).Nodup
  refused : manager.accepts before.objects failing = false
  fresh : ∀ i, manager.findExecutor failing.1 = some i → i ∉ steps.map (·.executor)
  reached : ∀ step ∈ steps, state.objects step.executor = step.object
  attempted : ∀ i, manager.findExecutor failing.1 = some i → state.objects i =
    ((manager.executors.get i).attempt failing.2 (before.objects i)).object
  untouched : ∀ j, j ∉ steps.map (·.executor) → manager.findExecutor failing.1 ≠ some j →
    state.objects j = before.objects j
  fs : state.fs = before.fs
  calls : ∃ refusals, (∀ call ∈ refusals, ∃ i, call = .desired i failing.2 false) ∧
    state.calls = before.calls ++ (steps.map (·.desiredCall) ++ refusals)

/-- The call failed at a setting and rolled these steps back. -/
structure Aborted (before : ManagerState manager) (steps : List (Step manager))
    (failing : String × String) (final : ManagerState manager) : Prop where
  taken : ∀ step ∈ steps, step.From before.objects
  distinct : (steps.map (·.executor)).Nodup
  refused : manager.accepts before.objects failing = false
  restored : ∀ step ∈ steps, final.objects step.executor = step.restore.2
  attempted : ∀ i, manager.findExecutor failing.1 = some i → final.objects i =
    ((manager.executors.get i).attempt failing.2 (before.objects i)).object
  untouched : ∀ j, j ∉ steps.map (·.executor) → manager.findExecutor failing.1 ≠ some j →
    final.objects j = before.objects j
  fs : final.fs = before.fs
  calls : ∃ refusals, (∀ call ∈ refusals, ∃ i, call = .desired i failing.2 false) ∧
    final.calls = before.calls ++
      (steps.map (·.desiredCall) ++ refusals ++ steps.reverse.map (·.restoreCall))

variable {before state : ManagerState manager} {steps : List (Step manager)}

theorem progress_nil (before : ManagerState manager) : Progress before [] before := by
  constructor
  · intro step membership
    cases membership
  · exact .nil
  · intro step membership
    cases membership
  · intro j _
    rfl
  · rfl
  · exact (List.append_nil before.calls).symm

/-- A failure exit undoes the steps in reverse. -/
theorem Refused.abort {failing : String × String} (refused : Refused before steps failing state)
    (now : Int) (message event : String) :
    (manager.abort now message event (steps.map (·.entry)) state).1 =
        some ⟨false, message, (steps.map (·.setting.1)).reverse⟩ ∧
      Aborted before steps failing
        (manager.abort now message event (steps.map (·.entry)) state).2 := by
  have reversed : (steps.map (·.entry)).reverse = steps.reverse.map (·.entry) :=
    List.map_reverse.symm
  have distinct : (steps.reverse.map (·.executor)).Nodup := by
    rw [List.map_reverse]
    exact List.nodup_reverse.mpr refused.distinct
  have rolled := rollBack_restored steps.reverse state distinct fun step membership =>
    refused.reached step (List.mem_reverse.mp membership)
  have outside : ∀ j, j ∉ steps.map (·.executor) → j ∉ steps.reverse.map (·.executor) := by
    intro j absent
    rw [List.map_reverse, List.mem_reverse]
    exact absent
  rw [ProfileManager.abort, reversed]
  constructor
  · have keys : (steps.reverse.map fun step => (manager.executors.get step.executor).key) =
        (steps.map (·.setting.1)).reverse := by
      rw [List.map_reverse]
      apply congrArg List.reverse
      apply List.map_congr_left
      intro step membership
      exact (refused.taken step membership).key_eq
    simp only [rollBack_keys, keys]
  · rcases refused.calls with ⟨refusals, areRefusals, calls⟩
    constructor
    · exact refused.taken
    · exact refused.distinct
    · exact refused.refused
    · intro step membership
      exact rolled.restored step (List.mem_reverse.mpr membership)
    · intro i found
      exact (rolled.untouched i (outside i (refused.fresh i found))).trans
        (refused.attempted i found)
    · intro j absent notFailing
      exact (rolled.untouched j (outside j absent)).trans (refused.untouched j absent notFailing)
    · exact rolled.fs.trans refused.fs
    · refine ⟨refusals, areRefusals, rolled.calls.trans ?_⟩
      rw [calls, List.append_assoc]

/-- No executor has the key. -/
theorem Progress.refused_missing (progress : Progress before steps state)
    {failing : String × String} (missing : manager.findExecutor failing.1 = none) :
    Refused before steps failing state := by
  have notFound : ∀ i, manager.findExecutor failing.1 ≠ some i := by
    intro i found
    rw [missing] at found
    cases found
  constructor
  · exact progress.taken
  · exact progress.distinct
  · rw [accepts, missing]
  · intro i found
    exact absurd found (notFound i)
  · exact progress.reached
  · intro i found
    exact absurd found (notFound i)
  · intro j absent _
    exact progress.untouched j absent
  · exact progress.fs
  · exact ⟨[], by simp, by rw [List.append_nil, progress.calls]⟩

/-- The executor is unavailable or its `Apply` failed. -/
theorem Progress.refused_attempt (progress : Progress before steps state)
    {failing : String × String} {i : Fin manager.executors.length}
    (found : manager.findExecutor failing.1 = some i)
    (fresh : i ∉ steps.map (·.executor)) (refused : manager.accepts before.objects failing = false)
    {next : ManagerState manager}
    (objects : next.objects = Function.update state.objects i
      ((manager.executors.get i).attempt failing.2 (before.objects i)).object)
    (fs : next.fs = state.fs) {refusals : List ApplyCall}
    (areRefusals : ∀ call ∈ refusals, ∃ i, call = .desired i failing.2 false)
    (calls : next.calls = state.calls ++ refusals) : Refused before steps failing next := by
  have selected : ∀ j, manager.findExecutor failing.1 = some j → j = i := by
    intro j other
    exact Option.some.inj (other.symm.trans found)
  constructor
  · exact progress.taken
  · exact progress.distinct
  · exact refused
  · intro j other
    rw [selected j other]
    exact fresh
  · intro step membership
    have different : step.executor ≠ i := by
      rintro rfl
      exact fresh (List.mem_map_of_mem membership)
    rw [objects, Function.update_of_ne different]
    exact progress.reached step membership
  · intro j other
    rw [selected j other, objects, Function.update_self]
  · intro j absent notFailing
    have different : j ≠ i := by
      rintro rfl
      exact notFailing found
    rw [objects, Function.update_of_ne different]
    exact progress.untouched j absent
  · exact fs.trans progress.fs
  · refine ⟨refusals, areRefusals, ?_⟩
    rw [calls, progress.calls, List.append_assoc]

/-- One more setting is applied. -/
theorem Progress.snoc (progress : Progress before steps state) {step : Step manager}
    (taken : step.From before.objects) (fresh : step.executor ∉ steps.map (·.executor)) :
    Progress before (steps ++ [step])
      ((state.setObject step.executor step.object).record step.desiredCall) := by
  constructor
  · intro other membership
    rcases List.mem_append.mp membership with earlier | last
    · exact progress.taken other earlier
    · cases List.mem_singleton.mp last
      exact taken
  · rw [List.map_append, List.map_singleton]
    exact List.nodup_append.mpr ⟨progress.distinct, List.nodup_singleton _, by
      rintro i earlier j last rfl
      cases List.mem_singleton.mp last
      exact fresh earlier⟩
  · intro other membership
    rcases List.mem_append.mp membership with earlier | last
    · have different : other.executor ≠ step.executor := by
        intro same
        exact fresh (List.mem_map.mpr ⟨other, earlier, same⟩)
      exact (state.setObject_of_ne _ _ different).trans (progress.reached other earlier)
    · cases List.mem_singleton.mp last
      exact state.setObject_same _ _
  · intro j absent
    rw [List.map_append, List.map_singleton, List.mem_append, not_or] at absent
    have different : j ≠ step.executor := fun same => absent.2 (List.mem_singleton.mpr same)
    exact (state.setObject_of_ne _ _ different).trans (progress.untouched j absent.1)
  · exact progress.fs
  · rw [List.map_append, ← List.append_assoc, ← progress.calls]
    rfl

/-- A loop that takes a failure exit here stops with the steps undone. -/
theorem Refused.stop {failing : String × String} {next : ManagerState manager}
    (refused : Refused before steps failing next) {now : Int} {message event : String}
    {later : List (String × String)}
    (unfolded : manager.applySettings now (failing :: later) (steps.map (·.entry)) state =
      manager.abort now message event (steps.map (·.entry)) next) :
    ∃ more last rest message, failing :: later = more.map (·.setting) ++ last :: rest ∧
      (manager.applySettings now (failing :: later) (steps.map (·.entry)) state).1 =
        some ⟨false, message, ((steps ++ more).map (·.setting.1)).reverse⟩ ∧
      Aborted before (steps ++ more) last
        (manager.applySettings now (failing :: later) (steps.map (·.entry)) state).2 := by
  refine ⟨[], failing, later, message, rfl, ?_⟩
  rw [List.append_nil, unfolded]
  exact refused.abort now message event

/-- The loop applies all settings, or it stops at the first one that is not accepted. -/
theorem Progress.applySettings (progress : Progress before steps state) (now : Int)
    (remaining : List (String × String))
    (keys : (steps.map (·.setting.1) ++ remaining.map (·.1)).Nodup) :
    ((manager.applySettings now remaining (steps.map (·.entry)) state).1 = none ∧
      ∃ more, more.map (·.setting) = remaining ∧ Progress before (steps ++ more)
        (manager.applySettings now remaining (steps.map (·.entry)) state).2) ∨
    (∃ more failing later message,
      remaining = more.map (·.setting) ++ failing :: later ∧
      (manager.applySettings now remaining (steps.map (·.entry)) state).1 =
        some ⟨false, message, ((steps ++ more).map (·.setting.1)).reverse⟩ ∧
      Aborted before (steps ++ more) failing
        (manager.applySettings now remaining (steps.map (·.entry)) state).2) := by
  induction remaining generalizing steps state with
  | nil =>
      refine .inl ⟨rfl, [], rfl, ?_⟩
      rw [List.append_nil]
      exact progress
  | cons setting rest ih =>
      rcases setting with ⟨key, desired⟩
      have freshKey : key ∉ steps.map (·.setting.1) := by
        intro earlier
        exact (List.nodup_append.mp keys).2.2 key earlier key List.mem_cons_self rfl
      cases found : manager.findExecutor key with
      | none =>
          have refused : Refused before steps (key, desired) state :=
            progress.refused_missing found
          apply Or.inr
          apply refused.stop
          rw [ProfileManager.applySettings, found]
      | some i =>
          have fresh := Step.not_selected progress.taken freshKey found
          have initial : state.objects i = before.objects i := progress.untouched i fresh
          cases attempted : (manager.executors.get i).attempt desired (before.objects i) with
          | unavailable object =>
              have refused : Refused before steps (key, desired) (state.setObject i object) := by
                apply progress.refused_attempt found fresh
                · rw [accepts, found]
                  simp only [attempted]
                · rw [attempted]
                  rfl
                · rfl
                · exact List.forall_mem_nil _
                · exact (List.append_nil _).symm
              apply Or.inr
              apply refused.stop
              rw [ProfileManager.applySettings, found]
              simp only [initial, attempted]
              rfl
          | failed message object =>
              have refused : Refused before steps (key, desired)
                  ((state.setObject i object).record (.desired i desired false)) := by
                apply progress.refused_attempt found fresh
                · rw [accepts, found]
                  simp only [attempted]
                · rw [attempted]
                  rfl
                · rfl
                · exact List.forall_mem_singleton.mpr ⟨i, rfl⟩
                · rfl
              apply Or.inr
              apply refused.stop
              rw [ProfileManager.applySettings, found]
              simp only [initial, attempted]
              rfl
          | applied previous object =>
              let step : Step manager := ⟨(key, desired), i, previous, object⟩
              have taken : step.From before.objects := ⟨found, attempted⟩
              have next := progress.snoc taken fresh
              have nextKeys : ((steps ++ [step]).map (·.setting.1) ++ rest.map (·.1)).Nodup := by
                rw [List.map_append, List.append_assoc]
                exact keys
              have unfolded : manager.applySettings now ((key, desired) :: rest)
                  (steps.map (·.entry)) state = manager.applySettings now rest
                    ((steps ++ [step]).map (·.entry))
                    ((state.setObject i object).record (.desired i desired true)) := by
                rw [ProfileManager.applySettings, found]
                simp only [initial, attempted, List.map_append]
                rfl
              rw [unfolded]
              rcases ih next nextKeys with
                ⟨done, more, rfl, final⟩ | ⟨more, failing, later, message, rfl, stopped, final⟩
              · rw [List.append_assoc] at final
                exact .inl ⟨done, step :: more, rfl, final⟩
              · rw [List.append_assoc] at stopped final
                exact .inr ⟨step :: more, failing, later, message, rfl, stopped, final⟩

/-! ## The call -/

/-- What a call of `SwitchTo` can do. -/
inductive Outcome (before : ManagerState manager) (id : String) (io : SwitchIO) :
    Except StoreError SwitchResult → ManagerState manager → Prop
  | thrown (error : StoreError) (unreadable : manager.store.get before.fs id = .error error) :
      Outcome before id io (.error error) before
  | notFound (missing : manager.store.get before.fs id = .ok none) :
      Outcome before id io (.ok ⟨false, "profile not found: " ++ id, []⟩) before
  | applied (profile : Profile) (steps : List (Step manager)) (state : ManagerState manager)
      (loaded : manager.store.get before.fs id = .ok (some profile))
      (settings : steps.map (·.setting) = profile.settings.entries)
      (progress : Progress before steps state) :
      Outcome before id io (.ok ⟨true, "ok", []⟩)
        ({ state with fs := manager.store.setActiveId before.fs id io.write }.publishNow io.now
          "info" "Profile applied" profile.name)
  | failed (profile : Profile) (steps : List (Step manager)) (failing : String × String)
      (later : List (String × String)) (message : String) (final : ManagerState manager)
      (loaded : manager.store.get before.fs id = .ok (some profile))
      (settings : profile.settings.entries = steps.map (·.setting) ++ failing :: later)
      (aborted : Aborted before steps failing final) :
      Outcome before id io (.ok ⟨false, message, (steps.map (·.setting.1)).reverse⟩) final

theorem switchTo_outcome (before : ManagerState manager) (id : String) (io : SwitchIO) :
    Outcome before id io (manager.switchTo id io before).1 (manager.switchTo id io before).2 := by
  rw [switchTo]
  cases loaded : manager.store.get before.fs id with
  | error thrown => exact .thrown thrown loaded
  | ok found =>
      cases found with
      | none => exact .notFound loaded
      | some profile =>
          have loop := (progress_nil before).applySettings io.now profile.settings.entries
            profile.settings.keys_nodup
          cases run : manager.applySettings io.now profile.settings.entries [] before with
          | mk result state =>
              rw [List.map_nil, run] at loop
              simp only [run]
              rcases loop with
                ⟨done, steps, settings, progress⟩ |
                ⟨steps, failing, later, message, settings, stopped, aborted⟩
              · cases done
                have unchanged : state.fs = before.fs := progress.fs
                simp only [unchanged]
                exact .applied profile steps state loaded settings progress
              · cases stopped
                exact .failed profile steps failing later message state loaded settings aborted

/-- A loop that stops has applied the accepted settings before the first other one. -/
theorem Aborted.takeWhile {failing : String × String} {later : List (String × String)}
    (aborted : Aborted before steps failing state) :
    (steps.map (·.setting) ++ failing :: later).takeWhile (manager.accepts before.objects) =
      steps.map (·.setting) := by
  rw [List.takeWhile_append_of_pos, List.takeWhile_cons_of_neg, List.append_nil]
  · rw [aborted.refused]
    exact Bool.false_ne_true
  · intro setting membership
    rcases List.mem_map.mp membership with ⟨step, stepMem, rfl⟩
    exact (aborted.taken step stepMem).accepts

/-- Where a failed call leaves an executor: applied and undone, attempted without success,
or untouched. -/
inductive Aborted.Left (before : ManagerState manager) (steps : List (Step manager))
    (failing : String × String) (i : Fin manager.executors.length) : S → Prop
  | undone (step : Step manager) (stepMem : step ∈ steps) (selected : step.executor = i)
      (attempted : (manager.executors.get i).attempt step.setting.2 (before.objects i) =
        .applied step.previous step.object) :
      Left before steps failing i ((manager.executors.get i).apply step.previous step.object).2
  | refused (notApplied : i ∉ steps.map (·.executor))
      (found : manager.findExecutor failing.1 = some i)
      (refused : ∀ previous after,
        (manager.executors.get i).attempt failing.2 (before.objects i) ≠ .applied previous after) :
      Left before steps failing i
        ((manager.executors.get i).attempt failing.2 (before.objects i)).object
  | untouched (notApplied : i ∉ steps.map (·.executor)) :
      Left before steps failing i (before.objects i)

theorem Aborted.left {failing : String × String}
    (aborted : Aborted before steps failing state) (i : Fin manager.executors.length) :
    Aborted.Left before steps failing i (state.objects i) := by
  by_cases applied : i ∈ steps.map (·.executor)
  · obtain ⟨step, stepMem, rfl⟩ := List.mem_map.mp applied
    rw [aborted.restored step stepMem]
    exact .undone step stepMem rfl (aborted.taken step stepMem).attempted
  · by_cases found : manager.findExecutor failing.1 = some i
    · rw [aborted.attempted i found]
      refine .refused applied found fun previous after attempted => ?_
      have refused := aborted.refused
      rw [accepts, found] at refused
      simp only [attempted] at refused
      cases refused
    · rw [aborted.untouched i applied found]
      exact .untouched applied

end ProfileManager

end HWPanel.Config
