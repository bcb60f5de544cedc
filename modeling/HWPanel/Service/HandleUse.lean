import HWPanel.Collectors.PerfNames
import HWPanel.Executors.Brightness
import HWPanel.Library.Handles

/-!
# The handles of a call

The handles that one call of the service takes from Windows and gives back: the COM objects
of `WmiCollector::Collect`, the registry key of `EnglishNameToIndex`, the scheme of
`PowerPlanExecutor::CurrentValue` and the physical monitors of `BrightnessExecutor`.

`Enumerate` returns its `PhysicalMonitors` by name. The class has a destructor and therefore
no move constructor, so a compiler that does not elide the copy destroys the monitors of the
original when `Enumerate` returns.
-/

namespace HWPanel.Service

open HWPanel.Collectors
open HWPanel.Executors
open HWPanel.Library

inductive Handle where
  | apartment               -- an initialised COM, until `CoUninitialize`
  | locator
  | services
  | enumerator
  | object
  | variant
  | key
  | scheme                  -- the GUID of `PowerGetActiveScheme`
  | monitor (handle : Nat)
  deriving DecidableEq

abbrev HandleCalls := List (HandleCall Handle)

/-- What a call answers that creates a COM object. A failing one leaves the pointer null. -/
inductive ComAnswer where
  | failed
  | null
  | created

/-- What COM answers to `Collect`; `objects` are the temperatures of the objects that `Next`
returns, where they can be read. -/
structure WmiAnswers where
  initialized : Bool
  locator : ComAnswer
  services : ComAnswer
  enumerator : ComAnswer
  objects : List (Option Int)

namespace WmiAnswers

variable (self : WmiAnswers)

/-- A pass of the loop, `Next` included. -/
def objectCalls (_temperature : Option Int) : HandleCalls :=
  [.use .enumerator, .acquire .object, .acquire .variant, .use .object, .use .variant,
    .release .variant, .release .object]

/-- From `ExecQuery` to the `Release` of the enumerator. -/
def queryCalls : HandleCalls :=
  match self.enumerator with
  | .created =>
      .acquire .enumerator ::
        (self.objects.flatMap objectCalls ++ [.use .enumerator]) ++ [.release .enumerator]
  | .failed | .null => []

/-- From `CoCreateInstance` to the last `Release`. -/
def locatorCalls : HandleCalls :=
  match self.locator, self.services with
  | .created, .created =>
      [.acquire .locator, .use .locator, .acquire .services, .use .services, .use .services] ++
        self.queryCalls ++ [.release .services, .release .locator]
  | .created, _ => [.acquire .locator, .use .locator, .release .locator]
  | _, _ => []

/-- `Collect`, with the `ComScope` around it. -/
def collectCalls : HandleCalls :=
  if self.initialized then
    .acquire .apartment :: (.use .apartment :: guarded .apartment self.locatorCalls) ++
      [.release .apartment]
  else []

end WmiAnswers

/-- `EnglishNameToIndex`. -/
def englishNameToIndexCalls (perflib : Perflib) : HandleCalls :=
  if perflib.openCode ≠ 0 then []
  else if perflib.sizeCode ≠ 0 ∨ perflib.type ≠ regMultiSz ∨ perflib.sizeBytes < 2 * 2 then
    [.acquire .key, .use .key, .release .key]
  else [.acquire .key, .use .key, .use .key, .release .key]

/-- `PowerPlanExecutor::CurrentValue`; `found` is whether there is an active scheme. -/
def schemeCalls (found : Bool) : HandleCalls :=
  if found then [.acquire .scheme, .use .scheme, .release .scheme] else []

/-- A `PHYSICAL_MONITOR`, and whether `GetMonitorBrightness` succeeds on it. -/
structure OpenedMonitor where
  handle : Nat
  readable : Bool

/-- What is answered of a display monitor: the number of its physical monitors, and then the
monitors. -/
inductive Display where
  | uncounted
  | unopened (count : Nat)
  | opened (batch : List OpenedMonitor)

/-- `EnumMonitorCallback`. -/
def Display.monitors : Display → List OpenedMonitor
  | .uncounted | .unopened _ => []
  | .opened batch => batch

/-- `~PhysicalMonitors`. -/
def destroyCalls (monitors : List OpenedMonitor) : HandleCalls :=
  (monitors.map fun m => Handle.monitor m.handle).map .release

/-- `Enumerate`; without elision the copy of `result` is returned and `result` destroyed. -/
def enumerateCalls (elided : Bool) (monitors : List OpenedMonitor) : HandleCalls :=
  (monitors.map fun m => Handle.monitor m.handle).map .acquire ++
    if elided then [] else destroyCalls monitors

/-- A function that enumerates the monitors and then uses them. -/
def withMonitors (elided : Bool) (displays : List Display)
    (body : List OpenedMonitor → HandleCalls) : HandleCalls :=
  let monitors := displays.flatMap Display.monitors
  enumerateCalls elided monitors ++ body monitors ++ destroyCalls monitors

/-- The loop that returns with the first readable monitor. -/
def readCalls : List OpenedMonitor → HandleCalls
  | [] => []
  | m :: rest => .use (.monitor m.handle) :: if m.readable then [] else readCalls rest

/-- The loop over all monitors. -/
def setCalls (monitors : List OpenedMonitor) : HandleCalls :=
  (monitors.map fun m => Handle.monitor m.handle).map .use

/-- A call of the service on Windows. -/
inductive Operation where
  | wmiCollect (answers : WmiAnswers)
  | englishNameToIndex (perflib : Perflib)
  | powerPlanCurrentValue (found : Bool)
  | brightnessAvailable (displays : List Display)
  | brightnessCurrentValue (displays : List Display)
  | brightnessApply (desired : String) (displays : List Display)

namespace Operation

def calls (elided : Bool) : Operation → HandleCalls
  | .wmiCollect answers => answers.collectCalls
  | .englishNameToIndex perflib => englishNameToIndexCalls perflib
  | .powerPlanCurrentValue found => schemeCalls found
  | .brightnessAvailable displays => withMonitors elided displays readCalls
  | .brightnessCurrentValue displays => withMonitors elided displays readCalls
  | .brightnessApply desired displays =>
      if (requestedLevel desired).isSome then withMonitors elided displays setCalls else []

/-- The physical monitors that the call opens. -/
def monitors : Operation → List OpenedMonitor
  | .wmiCollect _ | .englishNameToIndex _ | .powerPlanCurrentValue _ => []
  | .brightnessAvailable displays => displays.flatMap Display.monitors
  | .brightnessCurrentValue displays => displays.flatMap Display.monitors
  | .brightnessApply desired displays =>
      if (requestedLevel desired).isSome then displays.flatMap Display.monitors else []

end Operation

/-- A pass gives back the object and the variant, and needs the enumerator only. -/
theorem WmiAnswers.moves_objectCalls (temperature : Option Int) {held : Multiset Handle}
    (enumerating : .enumerator ∈ held) : Moves held (objectCalls temperature) held := by
  have pass : Moves 0 [.acquire Handle.object, .acquire .variant, .use .object, .use .variant,
      .release .variant, .release .object] 0 := rfl
  exact (moves_use enumerating).append (pass.beside held)

theorem WmiAnswers.moves_queryCalls (self : WmiAnswers) {held : Multiset Handle} :
    Moves held self.queryCalls held := by
  have enumerating := Multiset.mem_cons_self Handle.enumerator held
  rw [queryCalls]
  cases self.enumerator with
  | created =>
      exact Moves.bracket ((moves_flatMap fun temperature _ =>
        moves_objectCalls temperature enumerating).append (moves_use enumerating))
  | failed => exact moves_nil
  | null => exact moves_nil

theorem WmiAnswers.moves_locatorCalls (self : WmiAnswers) : Moves 0 self.locatorCalls 0 := by
  have failed : Moves 0 [.acquire .locator, .use .locator, .release Handle.locator] 0 := rfl
  rw [locatorCalls]
  cases self.locator with
  | created =>
      cases self.services with
      | created =>
          have opening : Moves 0 [.acquire Handle.locator, .use .locator, .acquire .services,
              .use .services, .use .services] {.services, .locator} := rfl
          have closing : Moves {.services, .locator} [.release Handle.services,
              .release .locator] 0 := rfl
          exact (opening.append self.moves_queryCalls).append closing
      | failed => exact failed
      | null => exact failed
  | failed => exact moves_nil
  | null => exact moves_nil

theorem WmiAnswers.moves_collectCalls (self : WmiAnswers) : Moves 0 self.collectCalls 0 := by
  rw [collectCalls]
  split
  · exact Moves.bracket ((moves_use (Multiset.mem_cons_self _ _)).append
      (self.moves_locatorCalls.guarded .apartment))
  · exact moves_nil

theorem moves_englishNameToIndexCalls (perflib : Perflib) :
    Moves 0 (englishNameToIndexCalls perflib) 0 := by
  rw [englishNameToIndexCalls]
  split
  · exact moves_nil
  · split
    · rfl
    · rfl

theorem moves_schemeCalls (found : Bool) : Moves 0 (schemeCalls found) 0 := by
  cases found with
  | true => rfl
  | false => rfl

section

variable {elided : Bool} {displays : List Display} {body : List OpenedMonitor → HandleCalls}

theorem moves_readCalls {held : Multiset Handle} {monitors : List OpenedMonitor}
    (opened : ∀ m ∈ monitors, .monitor m.handle ∈ held) : Moves held (readCalls monitors) held := by
  induction monitors with
  | nil => exact moves_nil
  | cons m rest ih =>
      refine (moves_use (opened m List.mem_cons_self)).append ?_
      cases m.readable with
      | true => exact moves_nil
      | false => exact ih fun other member => opened other (List.mem_cons_of_mem m member)

theorem moves_setCalls {held : Multiset Handle} {monitors : List OpenedMonitor}
    (opened : ∀ m ∈ monitors, .monitor m.handle ∈ held) : Moves held (setCalls monitors) held := by
  refine moves_useAll fun handle member => ?_
  obtain ⟨m, inList, rfl⟩ := List.mem_map.mp member
  exact opened m inList

/-- A function on the monitors gives them back. -/
theorem moves_withMonitors
    (kept : ∀ held monitors, (∀ m ∈ monitors, .monitor m.handle ∈ held) →
      Moves held (body monitors) held) : Moves 0 (withMonitors true displays body) 0 := by
  rw [withMonitors, enumerateCalls, if_pos rfl, List.append_nil]
  refine ((moves_acquireAll _).append (kept _ _ fun m member => ?_)).append (moves_releaseAll _)
  refine Multiset.mem_add.mpr (.inl (Multiset.mem_coe.mpr ?_))
  exact List.mem_map.mpr ⟨m, member, rfl⟩

theorem withMonitors_of_none (none : displays.flatMap Display.monitors = [])
    (nothing : body [] = []) : withMonitors elided displays body = [] := by
  rw [withMonitors, none, enumerateCalls]
  cases elided <;> simp [nothing, destroyCalls]

/-- Without elision the first use is of a handle that has been given back. -/
theorem not_moves_withMonitors {held : Multiset Handle}
    (some : displays.flatMap Display.monitors ≠ [])
    (used : ∀ m rest, ∃ calls, body (m :: rest) = .use (.monitor m.handle) :: calls) :
    ¬Moves 0 (withMonitors false displays body) held := by
  intro moves
  rw [withMonitors, enumerateCalls, if_neg Bool.false_ne_true] at moves
  obtain ⟨m, rest, opened⟩ := List.exists_cons_of_ne_nil some
  obtain ⟨calls, bodyEq⟩ := used m rest
  rw [opened, bodyEq, List.append_assoc] at moves
  have returned : Moves 0 ((((m :: rest).map fun m => Handle.monitor m.handle).map .acquire) ++
      destroyCalls (m :: rest)) 0 := (moves_acquireAll _).append (moves_releaseAll _)
  exact not_moves_use (Multiset.notMem_zero _) (returned.of_append_of moves)

end

namespace Operation

variable {elided : Bool} {operation : Operation}

/-- A call gives back what it takes. -/
theorem moves_calls (kept : elided = true ∨ operation.monitors = []) :
    Moves 0 (operation.calls elided) 0 := by
  rcases kept with rfl | none
  · cases operation with
    | wmiCollect answers => exact answers.moves_collectCalls
    | englishNameToIndex perflib => exact moves_englishNameToIndexCalls perflib
    | powerPlanCurrentValue found => exact moves_schemeCalls found
    | brightnessAvailable displays => exact moves_withMonitors fun _ _ => moves_readCalls
    | brightnessCurrentValue displays => exact moves_withMonitors fun _ _ => moves_readCalls
    | brightnessApply desired displays =>
        rw [calls]
        split
        · exact moves_withMonitors fun _ _ => moves_setCalls
        · exact moves_nil
  · cases operation with
    | wmiCollect answers => exact answers.moves_collectCalls
    | englishNameToIndex perflib => exact moves_englishNameToIndexCalls perflib
    | powerPlanCurrentValue found => exact moves_schemeCalls found
    | brightnessAvailable displays =>
        rw [calls, withMonitors_of_none none rfl]
        exact moves_nil
    | brightnessCurrentValue displays =>
        rw [calls, withMonitors_of_none none rfl]
        exact moves_nil
    | brightnessApply desired displays =>
        rw [calls]
        rw [monitors] at none
        split
        · rename_i inRange
          rw [if_pos inRange] at none
          rw [withMonitors_of_none none rfl]
          exact moves_nil
        · exact moves_nil

/-- A copy that is not elided is found by every call that opens a monitor. -/
theorem monitors_of_moves {held : Multiset Handle} (moves : Moves 0 (operation.calls false) held) :
    operation.monitors = [] := by
  have reads (m : OpenedMonitor) (rest : List OpenedMonitor) :
      ∃ calls, readCalls (m :: rest) = .use (.monitor m.handle) :: calls := ⟨_, rfl⟩
  have sets (m : OpenedMonitor) (rest : List OpenedMonitor) :
      ∃ calls, setCalls (m :: rest) = .use (.monitor m.handle) :: calls := ⟨_, rfl⟩
  by_contra some
  cases operation with
  | wmiCollect answers => exact some rfl
  | englishNameToIndex perflib => exact some rfl
  | powerPlanCurrentValue found => exact some rfl
  | brightnessAvailable displays => exact not_moves_withMonitors some reads moves
  | brightnessCurrentValue displays => exact not_moves_withMonitors some reads moves
  | brightnessApply desired displays =>
      rw [calls] at moves
      rw [monitors] at some
      split at some
      · rename_i inRange
        rw [if_pos inRange] at moves
        exact not_moves_withMonitors some sets moves
      · exact some rfl

end Operation

/-! ## The threads of the service -/

/-- In every interleaving of threads that make these calls, no handle is used or given back
that is not held, and none is held once all calls have ended. -/
def KeepsHandles {threads : Nat} (elided : Bool) (operations : Fin threads → List Operation) :
    Prop :=
  ∀ trace : List (Fin threads × HandleCall Handle),
    (∀ thread, callsOf thread trace <+: (operations thread).flatMap (·.calls elided)) →
      ∃ held, Moves 0 (trace.map Prod.snd) held ∧
        ((∀ thread, callsOf thread trace = (operations thread).flatMap (·.calls elided)) →
          held = 0)

/-- Calls that a thread can make alone open no monitor, unless the copy is elided. -/
theorem monitors_of_moves_flatMap {operations : List Operation} {held : Multiset Handle}
    (moves : Moves 0 (operations.flatMap (·.calls false)) held) :
    ∀ operation ∈ operations, operation.monitors = [] := by
  induction operations with
  | nil => simp
  | cons first rest ih =>
      rw [List.flatMap_cons] at moves
      obtain ⟨middle, firstMoves, -⟩ := moves.of_append
      have none := Operation.monitors_of_moves firstMoves
      intro operation member
      rcases List.mem_cons.mp member with rfl | inRest
      · exact none
      · have returned : Moves 0 (first.calls false) 0 := Operation.moves_calls (.inr none)
        exact ih (returned.of_append_of moves) operation inRest

/-- The service keeps its handles in order exactly when the copy of the monitors is elided,
or no monitor is ever opened. -/
theorem keeps_handles_iff {threads : Nat} (elided : Bool)
    (operations : Fin threads → List Operation) :
    KeepsHandles elided operations ↔
      elided = true ∨ ∀ thread, ∀ operation ∈ operations thread, operation.monitors = [] := by
  constructor
  · intro keeps
    cases elided with
    | true => exact .inl rfl
    | false =>
        refine .inr fun thread => ?_
        obtain ⟨held, moves, -⟩ := keeps
          (((operations thread).flatMap (·.calls false)).map (thread, ·)) (fun other => by
            by_cases same : other = thread
            · rw [same, callsOf_alone]
            · rw [callsOf_others same]
              exact List.nil_prefix)
        rw [List.map_map] at moves
        exact monitors_of_moves_flatMap (by simpa [Function.comp_def] using moves)
  · intro kept trace starts
    have whole (thread : Fin threads) :
        Moves 0 ((operations thread).flatMap (·.calls elided)) 0 :=
      moves_flatMap fun operation member =>
        Operation.moves_calls (kept.imp id fun none => none thread operation member)
    have each (thread : Fin threads) := (whole thread).of_start (starts thread)
    choose own moves using each
    refine ⟨_, moves_interleaved moves, fun ended => ?_⟩
    refine Finset.sum_eq_zero fun thread _ => ?_
    have finished := moves thread
    rw [ended thread] at finished
    exact Option.some.inj (finished.symm.trans (whole thread))

end HWPanel.Service
