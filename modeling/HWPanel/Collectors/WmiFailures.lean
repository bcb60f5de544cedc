import HWPanel.Collectors.MetricIds
import HWPanel.Library.Run
import HWPanel.Library.Streak

/-!
# How the WMI collector disables itself

`WmiCollector` counts the calls in a row that failed and makes itself unavailable at the
tenth. Two of its exits without a metric do not count: COM cannot be initialised, or the
locator cannot be created.
-/

namespace HWPanel.Collectors

open HWPanel.Core
open HWPanel.Library

def WmiCollector.available (self : WmiCollector) : Bool := !self.disabled

/-- The collector, and what its calls of `Collect` have returned. -/
structure WmiCalls where
  collector : WmiCollector := {}
  returned : List (List MetricSample) := []

namespace WmiCalls

/-- A call of `Collect`, made only while `Available` holds. -/
def call (self : WmiCalls) (reading : WmiReading) : Option WmiCalls :=
  if self.collector.available then
    let (metrics, collector) := self.collector.collect reading
    some { collector, returned := self.returned ++ [metrics] }
  else none

/-- The calls without a metric since the last one that returned one, or since the start. -/
def missed (self : WmiCalls) : Nat := (self.returned.rtakeWhile List.isEmpty).length

/-- Ten calls in a row without a metric disable the collector, and fewer do not. -/
structure DisablesItself (calls : WmiCalls) : Prop where
  disabled : 10 ≤ calls.missed → calls.collector.available = false
  kept : calls.missed < 10 → calls.collector.available = true

end WmiCalls

namespace WmiReading

/-- A temperature is read. -/
def readable : WmiReading → Bool
  | .comFailed => false
  | .connectFailed => false
  | .zones temperatures => temperatures.any Option.isSome

/-- COM or the locator fails. -/
def failsEarly : WmiReading → Bool
  | .comFailed => true
  | .connectFailed => false
  | .zones _ => false

/-- The failures counted since the last temperature was read. -/
def counted (past : List WmiReading) : Nat :=
  (past.rtakeWhile fun reading => !reading.readable).countP fun reading => !reading.failsEarly

end WmiReading

theorem WmiReading.counted_snoc (past : List WmiReading) (reading : WmiReading) :
    counted (past ++ [reading]) =
      if reading.readable then 0
      else if reading.failsEarly then counted past else counted past + 1 := by
  rw [counted, countP_rtakeWhile_concat, counted]
  cases reading.readable with
  | true => rfl
  | false =>
      cases reading.failsEarly with
      | true => rfl
      | false => rfl

namespace WmiCollector

/-- The loop over the zones counts those that can be read. -/
@[simp] theorem count_foldl_addZone (temperatures : List (Option Int)) (result : Float × Nat) :
    (temperatures.foldl addZone result).2 = result.2 + temperatures.countP Option.isSome := by
  induction temperatures generalizing result with
  | nil => rfl
  | cons temperature rest ih =>
      rw [List.foldl_cons, ih, List.countP_cons]
      cases temperature with
      | none => rfl
      | some tenths =>
          simp only [addZone, Option.isSome_some, if_true]
          omega

/-- The count that `Collect` tests is zero when no zone can be read. -/
theorem count_eq_zero_iff (temperatures : List (Option Int)) :
    (temperatures.foldl addZone (0.0, 0)).2 = 0 ↔
      (WmiReading.zones temperatures).readable = false := by
  rw [count_foldl_addZone, Nat.zero_add, List.countP_eq_zero, WmiReading.readable,
    List.any_eq_false]

/-- `Collect` once the zones have been asked: a failure is counted when none can be read. -/
theorem collect_zones (self : WmiCollector) (temperatures : List (Option Int)) :
    self.collect (.zones temperatures) =
      if (WmiReading.zones temperatures).readable then
        ([⟨"cpu.temp_c", (temperatures.foldl addZone (0.0, 0)).1 /
            Float.ofNat (temperatures.foldl addZone (0.0, 0)).2, "celsius"⟩],
          { self with consecutiveFailures := 0 })
      else ([], self.countFailure) := by
  simp only [collect, count_eq_zero_iff]
  cases (WmiReading.zones temperatures).readable with
  | true => rfl
  | false => rfl

/-- What one call returns: a metric exactly when a temperature is read. -/
@[simp] theorem collect_isEmpty (self : WmiCollector) (reading : WmiReading) :
    (self.collect reading).1.isEmpty = !reading.readable := by
  cases reading with
  | comFailed => rfl
  | connectFailed => rfl
  | zones temperatures =>
      rw [collect_zones]
      cases (WmiReading.zones temperatures).readable with
      | true => rfl
      | false => rfl

/-- What one call does to the collector: a temperature resets the counter, and a failure
advances it unless COM or the locator failed. -/
theorem collect_collector (self : WmiCollector) (reading : WmiReading) :
    (self.collect reading).2 =
      if reading.readable then { self with consecutiveFailures := 0 }
      else if reading.failsEarly then self
      else self.countFailure := by
  cases reading with
  | comFailed => rfl
  | connectFailed => rfl
  | zones temperatures =>
      rw [collect_zones]
      cases (WmiReading.zones temperatures).readable with
      | true => rfl
      | false => rfl

/-- The tenth failure counted in a row disables the collector. -/
theorem available_countFailure (self : WmiCollector) (enabled : self.disabled = false) :
    self.countFailure.available = true ↔ self.consecutiveFailures + 1 < 10 := by
  rw [available, countFailure, enabled, Bool.false_or, Bool.not_eq_true', decide_eq_false_iff_not,
    Nat.not_le]
  rfl

end WmiCollector

namespace WmiCalls

variable {self next : WmiCalls} {past : List WmiReading} {reading : WmiReading}

theorem call_eq_some_iff :
    self.call reading = some next ↔ self.collector.available = true ∧
      next = ⟨(self.collector.collect reading).2,
        self.returned ++ [(self.collector.collect reading).1]⟩ := by
  rw [call, Option.ite_none_right_eq_some, Option.some.injEq]
  exact and_congr_right fun _ => eq_comm

/-- The calls as functions of what they found: those without a metric in a row, and the
failures that were counted. -/
structure Tracks (past : List WmiReading) (calls : WmiCalls) : Prop where
  missed : calls.missed = (past.rtakeWhile fun reading => !reading.readable).length
  failures : calls.collector.consecutiveFailures = WmiReading.counted past
  available : calls.collector.available = true ↔ WmiReading.counted past < 10

theorem tracks_initial : Tracks [] {} where
  missed := rfl
  failures := rfl
  available := by decide

theorem missed_call (taken : self.call reading = some next) :
    next.missed = if reading.readable then 0 else self.missed + 1 := by
  obtain ⟨-, rfl⟩ := call_eq_some_iff.mp taken
  rw [missed, length_rtakeWhile_concat, self.collector.collect_isEmpty, missed]
  cases reading.readable with
  | true => rfl
  | false => rfl

/-- One call keeps track: a collector that was called had counted fewer than ten. -/
theorem Tracks.call (tracks : self.Tracks past) (taken : self.call reading = some next) :
    next.Tracks (past ++ [reading]) := by
  have missed := missed_call taken
  obtain ⟨available, rfl⟩ := call_eq_some_iff.mp taken
  have few := tracks.available.mp available
  have enabled : self.collector.disabled = false := by
    rwa [WmiCollector.available, Bool.not_eq_true'] at available
  have counter := tracks.failures
  refine { missed := ?_, failures := ?_, available := ?_ }
  · rw [missed, length_rtakeWhile_concat, tracks.missed]
    cases reading.readable with
    | true => rfl
    | false => rfl
  · rw [WmiCollector.collect_collector, WmiReading.counted_snoc]
    split
    · rfl
    · split
      · exact counter
      · exact congrArg (· + 1) counter
  · rw [WmiCollector.collect_collector, WmiReading.counted_snoc]
    split
    · exact iff_of_true available (by decide)
    · split
      · exact tracks.available
      · rw [self.collector.available_countFailure enabled, counter]

theorem tracks_of_run {readings : List WmiReading} {calls : WmiCalls}
    (executed : run call {} readings = some calls) : calls.Tracks readings :=
  run_history (fun past calls => Tracks past calls) tracks_initial
    (fun _ _ _ _ tracks taken => tracks.call taken) executed

/-- However the calls fail, fewer than ten of them never disable the collector. -/
theorem Tracks.kept (tracks : self.Tracks past) (few : self.missed < 10) :
    self.collector.available = true := by
  refine tracks.available.mpr (Nat.lt_of_le_of_lt ?_ (tracks.missed ▸ few))
  exact List.countP_le_length

/-- A streak of ten unread readings that disabled the collector was counted throughout. -/
theorem Tracks.counted_of_disabled (tracks : self.Tracks past)
    (ten : (past.rtakeWhile fun reading => !reading.readable).length = 10)
    (disabled : self.collector.available = false) :
    ∀ reading ∈ past.rtakeWhile fun reading => !reading.readable,
      reading.failsEarly = false := by
  have many : 10 ≤ WmiReading.counted past := by
    rw [← Bool.not_eq_true, tracks.available, Nat.not_lt] at disabled
    exact disabled
  have countedAll := Nat.le_antisymm List.countP_le_length (ten ▸ many)
  intro reading member
  simpa using List.countP_eq_length.mp countedAll reading member

/-- Ten readings that were all counted, at the end of the streak, disable the collector. -/
theorem Tracks.disabled_of_counted {streak : List WmiReading} (tracks : self.Tracks past)
    (inStreak : streak <:+ past.rtakeWhile fun reading => !reading.readable)
    (ten : streak.length = 10) (counts : ∀ reading ∈ streak, reading.failsEarly = false) :
    self.collector.available = false := by
  have all : ∀ reading ∈ streak, (!reading.failsEarly) = true := by
    intro reading member
    rw [counts reading member]
    rfl
  have enough : 10 ≤ WmiReading.counted past := by
    calc 10
      _ = streak.countP (fun reading => !reading.failsEarly) := by
          rw [List.countP_eq_length.mpr all, ten]
      _ ≤ WmiReading.counted past := inStreak.sublist.countP_le
  rw [← Bool.not_eq_true, tracks.available]
  exact Nat.not_lt.mpr enough

/-- A collector that is still called has missed fewer than ten. -/
theorem DisablesItself.missed_lt (disables : self.DisablesItself)
    (taken : self.call reading = some next) : self.missed < 10 := by
  by_contra many
  have disabled := disables.disabled (Nat.not_lt.mp many)
  rw [(call_eq_some_iff.mp taken).1] at disabled
  cases disabled

end WmiCalls

/-- Over any calls made while the collector is available it disables itself after ten in a
row without a metric exactly when no such ten has one in which COM or the locator
failed. -/
theorem wmi_disables_itself_iff (readings : List WmiReading) (final : WmiCalls)
    (executed : run WmiCalls.call {} readings = some final) :
    (∀ front back, readings = front ++ back → ∀ calls,
        run WmiCalls.call {} front = some calls → calls.DisablesItself) ↔
      ∀ front streak back, readings = front ++ streak ++ back → streak.length = 10 →
        (∀ reading ∈ streak, reading.readable = false) →
          ∀ reading ∈ streak, reading.failsEarly = false := by
  constructor
  · intro disables front streak back split ten unread
    rcases List.eq_nil_or_concat' streak with rfl | ⟨earlier, last, rfl⟩
    · cases ten
    -- The last of the ten was called, so the calls before it left the collector available.
    have splitLast : readings = (front ++ earlier) ++ last :: back := by
      rw [split]
      simp
    rw [splitLast] at executed
    obtain ⟨before, after, reached, taken, -⟩ := run_split_some executed
    have reachedAfter : run WmiCalls.call {} (front ++ (earlier ++ [last])) = some after := by
      rw [← List.append_assoc, run_append, reached, Option.bind_some, run_cons, taken]
      rfl
    have tracksBefore := WmiCalls.tracks_of_run reached
    have tracksAfter := WmiCalls.tracks_of_run reachedAfter
    have missedBefore := (disables _ _ splitLast before reached).missed_lt taken
    have allUnread : ∀ reading ∈ earlier ++ [last], (!reading.readable) = true := by
      intro reading member
      rw [unread reading member]
      rfl
    -- So the ten are all that missed, and the collector counted each of them.
    rw [tracksBefore.missed, ← ten] at missedBefore
    have streakAfter := rtakeWhile_append_of_length_lt allUnread missedBefore
    have missedAfter : 10 ≤ after.missed := by
      rw [tracksAfter.missed, streakAfter, ten]
    have disabled := (disables _ back split after reachedAfter).disabled missedAfter
    have counted := tracksAfter.counted_of_disabled (by rw [streakAfter, ten]) disabled
    rw [streakAfter] at counted
    exact counted
  · intro counts front back split calls reached
    have tracks := WmiCalls.tracks_of_run reached
    refine { disabled := fun missed => ?_, kept := tracks.kept }
    rw [tracks.missed] at missed
    obtain ⟨earlier, streak, frontSplit, ten, unread, inStreak⟩ :=
      exists_append_of_le_rtakeWhile missed
    refine tracks.disabled_of_counted inStreak ten ?_
    refine counts earlier streak back (by rw [split, frontSplit]) ten ?_
    intro reading member
    simpa using unread reading member

/-- Ten calls in which COM cannot be initialised leave the collector available. -/
theorem wmi_available_after_com_failures :
    ∃ calls, run WmiCalls.call {} (List.replicate 10 .comFailed) = some calls ∧
      calls.missed = 10 ∧ calls.collector.available = true ∧ ¬calls.DisablesItself := by
  refine ⟨_, rfl, rfl, rfl, fun disables => ?_⟩
  exact absurd (disables.disabled (Nat.le_refl 10)) (by decide)

/-- Ten calls in which `ConnectServer` fails disable it. -/
theorem wmi_disables_itself_iff_connect :
    ∃ calls, run WmiCalls.call {} (List.replicate 10 .connectFailed) = some calls ∧
      calls.missed = 10 ∧ calls.DisablesItself := by
  have executed : run WmiCalls.call {} (List.replicate 10 .connectFailed) = some _ := rfl
  refine ⟨_, executed, rfl, ?_⟩
  refine (wmi_disables_itself_iff _ _ executed).mpr ?_ _ [] (List.append_nil _).symm _ executed
  intro front streak back split _ _ reading member
  have inReadings : reading ∈ List.replicate 10 WmiReading.connectFailed := by
    rw [split]
    exact List.mem_append_left back (List.mem_append_right front member)
  rw [List.eq_of_mem_replicate inReadings]
  rfl

/-! ## The calls of the pipeline -/

/-- The collectors after a sequence of ticks. -/
def afterTicks (collectors : List ICollector) (ticks : List Tick) : List ICollector :=
  ticks.foldl (fun collectors tick => (loopTick collectors tick).2) collectors

/-- The pipeline's ticks call the WMI collector while it is available, with what the ticks
that do not throw find, and leave it as these calls do. -/
theorem afterTicks_calls (pdh : PdhCollector) (nvml : NvmlCollector) (calls : WmiCalls)
    (ticks : List Tick) :
    ∃ readings after, readings <+: ticks.filterMap (·.wmi) ∧
      run WmiCalls.call calls readings = some after ∧
      afterTicks (builtInCollectors pdh calls.collector nvml) ticks =
        builtInCollectors pdh after.collector nvml := by
  induction ticks generalizing calls with
  | nil => exact ⟨[], calls, List.nil_prefix, rfl, rfl⟩
  | cons tick rest ih =>
      have ticked : afterTicks (builtInCollectors pdh calls.collector nvml) (tick :: rest) =
          afterTicks (builtInCollectors pdh (calls.collector.afterTick tick) nvml) rest := by
        rw [afterTicks, List.foldl_cons, loopTick_builtIn, afterTicks]
      rw [ticked]
      cases disabled : calls.collector.disabled with
      | true =>
          have left : calls.collector.afterTick tick = calls.collector := if_pos disabled
          obtain ⟨readings, after, -, executed, afterRest⟩ := ih calls
          rw [left]
          cases readings with
          | nil => exact ⟨[], after, List.nil_prefix, executed, afterRest⟩
          | cons reading readings =>
              have refused : calls.call reading = none :=
                if_neg (by simp [WmiCollector.available, disabled])
              rw [run_cons, refused] at executed
              cases executed
      | false =>
          cases found : tick.wmi with
          | none =>
              have left : calls.collector.afterTick tick = calls.collector := by
                simp [WmiCollector.afterTick, found]
              obtain ⟨readings, after, inRest, executed, afterRest⟩ := ih calls
              rw [left, List.filterMap_cons_none found]
              exact ⟨readings, after, inRest, executed, afterRest⟩
          | some reading =>
              have enabled : calls.collector.available = true := by
                rw [WmiCollector.available, disabled]
                rfl
              have taken : calls.call reading = some ⟨(calls.collector.collect reading).2,
                  calls.returned ++ [(calls.collector.collect reading).1]⟩ :=
                WmiCalls.call_eq_some_iff.mpr ⟨enabled, rfl⟩
              have polled : calls.collector.afterTick tick =
                  (calls.collector.collect reading).2 := by
                simp [WmiCollector.afterTick, disabled, found]
              obtain ⟨readings, after, inRest, executed, afterRest⟩ :=
                ih ⟨(calls.collector.collect reading).2, _⟩
              rw [polled, List.filterMap_cons_some found]
              refine ⟨reading :: readings, after, ?_, ?_, afterRest⟩
              · exact (List.prefix_cons_inj reading).mpr inRest
              · rw [run_cons, taken]
                exact executed

end HWPanel.Collectors
