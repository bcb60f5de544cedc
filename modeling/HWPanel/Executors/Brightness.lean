import HWPanel.Config.ProfileManager
import HWPanel.Library.Scanf

/-!
# The brightness executor

`BrightnessExecutor` on the physical monitors that `Enumerate` finds. It reads the
first monitor it can and writes them all, and its number parser accepts any text.
-/

namespace HWPanel.Executors

open HWPanel.Config
open HWPanel.Library

/-- A monitor behind DDC/CI; `readable` is whether `GetMonitorBrightness` succeeds. -/
structure PhysicalMonitor where
  minimum : Nat
  current : Nat
  maximum : Nat
  readable : Bool
  deriving DecidableEq

namespace PhysicalMonitor

variable (self : PhysicalMonitor) (level : Nat)

/-- The minimum, the current and the maximum brightness. -/
def getMonitorBrightness : Option (Nat × Nat × Nat) :=
  if self.readable then some (self.minimum, self.current, self.maximum) else none

/-- The level lies in the monitor's range. -/
def Accepts : Prop := self.minimum ≤ level ∧ level ≤ self.maximum

instance : Decidable (self.Accepts level) := inferInstanceAs (Decidable (_ ∧ _))

def setMonitorBrightness : Bool × PhysicalMonitor :=
  if self.Accepts level then (true, { self with current := level }) else (false, self)

/-- The monitor after a `SetMonitorBrightness`. -/
def setTo : PhysicalMonitor := (self.setMonitorBrightness level).2

@[simp] theorem setMonitorBrightness_fst :
    (self.setMonitorBrightness level).1 = decide (self.Accepts level) := by
  rw [setMonitorBrightness]
  split
  case isTrue accepts => exact (decide_eq_true accepts).symm
  case isFalse refuses => exact (decide_eq_false refuses).symm

theorem current_setTo :
    (self.setTo level).current = if self.Accepts level then level else self.current := by
  rw [setTo, setMonitorBrightness]
  split
  · rfl
  · rfl

/-- Setting a level changes neither the range nor whether it can be read. -/
theorem accepts_setTo (other : Nat) : (self.setTo level).Accepts other ↔ self.Accepts other := by
  rw [setTo, setMonitorBrightness]
  split
  · rfl
  · rfl

theorem setTo_of_refuses {self : PhysicalMonitor} {level : Nat}
    (refuses : ¬self.Accepts level) : self.setTo level = self := by
  rw [setTo, setMonitorBrightness, if_neg refuses]

end PhysicalMonitor

namespace BrightnessExecutor

def available (monitors : List PhysicalMonitor) : Bool :=
  monitors.any fun m => m.getMonitorBrightness.isSome

def currentValue (monitors : List PhysicalMonitor) : String :=
  match monitors.findSome? PhysicalMonitor.getMonitorBrightness with
  | some (_, current, _) => toString current
  | none => ""

def apply (desired : String) (monitors : List PhysicalMonitor) :
    ApplyResult × List PhysicalMonitor :=
  let value := atoi (cString desired.toList)
  if value < 0 ∨ 100 < value then (⟨false, "brightness out of range: " ++ desired⟩, monitors)
  else
    let set := monitors.map fun m => m.setMonitorBrightness value.toNat
    let applied := set.countP fun m => m.1
    let monitors := set.map fun m => m.2
    if applied = 0 then (⟨false, "no monitor accepted DDC/CI brightness"⟩, monitors)
    else (⟨true, "brightness -> " ++ desired ++ " on " ++ toString applied ++
      " monitor(s)"⟩, monitors)

end BrightnessExecutor

def brightnessExecutor : IExecutor (List PhysicalMonitor) where
  key := "display.brightness"
  available monitors := (BrightnessExecutor.available monitors, monitors)
  currentValue monitors := (BrightnessExecutor.currentValue monitors, monitors)
  apply := BrightnessExecutor.apply

/-- The level that `Apply` asks every monitor for, if it asks. -/
def requestedLevel (desired : String) : Option Nat :=
  let value := atoi (cString desired.toList)
  if value < 0 ∨ 100 < value then none else some value.toNat

namespace BrightnessExecutor

variable {desired : String} {monitors : List PhysicalMonitor} {level : Nat}

theorem apply_of_requestedLevel_none (outOfRange : requestedLevel desired = none) :
    apply desired monitors = (⟨false, "brightness out of range: " ++ desired⟩, monitors) := by
  rw [requestedLevel] at outOfRange
  rw [apply]
  split
  · rfl
  · rename_i inRange
    rw [if_neg inRange] at outOfRange
    cases outOfRange

/-- `Apply` sets the level on every monitor, and succeeds when one of them accepts it. -/
theorem apply_of_requestedLevel (monitors : List PhysicalMonitor)
    (requested : requestedLevel desired = some level) :
    (apply desired monitors).2 = monitors.map (·.setTo level) ∧
      ((apply desired monitors).1.ok = true ↔ ∃ m ∈ monitors, m.Accepts level) := by
  rw [requestedLevel] at requested
  split at requested
  · cases requested
  · rename_i inRange
    have same : (atoi (cString desired.toList)).toNat = level := Option.some.inj requested
    have allSet : (monitors.map fun m => m.setMonitorBrightness level).map (fun m => m.2) =
        monitors.map (·.setTo level) := by
      rw [List.map_map]
      rfl
    have noneApplied :
        (monitors.map fun m => m.setMonitorBrightness level).countP (fun m => m.1) = 0 ↔
          ∀ m ∈ monitors, ¬m.Accepts level := by
      simp [List.countP_eq_zero, PhysicalMonitor.setMonitorBrightness_fst]
    simp only [apply, if_neg inRange, same]
    split
    case isTrue applied =>
      refine ⟨allSet, ⟨fun ok => absurd ok Bool.false_ne_true, ?_⟩⟩
      rintro ⟨m, member, accepts⟩
      exact absurd accepts (noneApplied.mp applied m member)
    case isFalse applied =>
      rw [noneApplied] at applied
      exact ⟨allSet, ⟨fun _ => by simpa using applied, fun _ => rfl⟩⟩

/-- A failing `Apply` leaves every monitor alone. -/
theorem apply_failed (failed : (apply desired monitors).1.ok = false) :
    (apply desired monitors).2 = monitors := by
  cases requested : requestedLevel desired with
  | none => rw [apply_of_requestedLevel_none requested]
  | some level =>
      obtain ⟨set, succeeds⟩ := apply_of_requestedLevel monitors requested
      have refused : ∀ m ∈ monitors, ¬m.Accepts level := fun m member accepts =>
        absurd (succeeds.mpr ⟨m, member, accepts⟩) (by rw [failed]; exact Bool.false_ne_true)
      rw [set]
      exact List.map_congr_left (fun m member => PhysicalMonitor.setTo_of_refuses
        (refused m member)) |>.trans (List.map_id' monitors)

end BrightnessExecutor

/-- A written level is requested when it is at most 100. -/
@[simp] theorem requestedLevel_toString (level : Nat) :
    requestedLevel (toString level) = if level ≤ 100 then some level else none := by
  have digits := isDigitOf_toDigits (by decide : 1 < 10) (by decide) level
  have whole : cString (Nat.toDigits 10 level) = Nat.toDigits 10 level := by
    refine List.takeWhile_eq_self_iff.mpr fun c member => decide_eq_true ?_
    rintro rfl
    exact absurd (digits _ member) (by decide)
  have value : atoi (cString (toString level).toList) = min (level : Int) (2 ^ 31 - 1) := by
    rw [Nat.toString_eq_repr, Nat.toList_repr, whole, atoi, scanDecimal_digits digits,
      numeral_toDigits (by decide) (by decide)]
    rfl
  simp only [requestedLevel, value]
  split
  · rw [if_neg (by omega)]
  · rw [if_pos (by omega)]
    congr 1
    omega

end HWPanel.Executors
