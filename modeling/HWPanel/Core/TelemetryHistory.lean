import HWPanel.Core.Bus
import Mathlib.Data.Int.Basic

/-!
# The telemetry history

`TelemetryHub::History` reads the newest samples from the ring buffer, which
`Publish` fills. The buffer refines the newest part of what was pushed, whatever
the other threads of the hub do in between.
-/

namespace HWPanel.Core

open HWPanel.Library

variable {threads : Nat}

/-- `static_cast<int>` of a `std::size_t`. -/
def staticCastInt (value : Nat) : Int := (BitVec.ofNat 32 value).toInt

/-- `std::clamp`. -/
def clamp (value low high : Int) : Int :=
  if value < low then low else if high < value then high else value

namespace TelemetryHub

/-- `History(seconds)`; `none` is a read outside the buffer. -/
def historyOf (self : TelemetryHub threads) (seconds : Int) : Option (List TelemetrySample) :=
  let capped := clamp seconds 0 (staticCastInt self.history.capacity)
  self.history.lastN capped.toNat

end TelemetryHub

/-- `History` clamps to the range between nothing and the whole capacity. -/
@[simp] theorem toNat_clamp {capacity : Nat} (inRange : capacity ≤ 2 ^ 31 - 1) (seconds : Int) :
    (clamp seconds 0 (staticCastInt capacity)).toNat = min (max seconds 0).toNat capacity := by
  have kept : (BitVec.ofNat 32 capacity).toNat = capacity :=
    (BitVec.toNat_ofNat _ _).trans (Nat.mod_eq_of_lt (by omega))
  have castEq : staticCastInt capacity = capacity := by
    rw [staticCastInt, BitVec.toInt_eq_toNat_of_lt (by omega), kept]
  rw [castEq, clamp]
  split
  · omega
  · split
    · omega
    · omega

/-- The sample of an event that pushes to the history. -/
def HubEvent.recorded? : HubEvent threads → Option TelemetrySample
  | .record _ sample => some sample
  | _ => none

/-- The samples in the order of their `Publish` calls. -/
def publishedSamples (events : List (HubEvent threads)) : List TelemetrySample :=
  events.filterMap HubEvent.recorded?

namespace TelemetryHub

variable {self next : TelemetryHub threads}

theorem busStep_history {event : BusEvent threads TelemetrySample}
    (taken : self.busStep event = some next) : next.history = self.history := by
  rcases Option.map_eq_some_iff.mp taken with ⟨bus, _, rfl⟩
  rfl

/-- What a step of the hub does to the history: only `Publish` pushes, once. -/
theorem step_history {event : HubEvent threads} (taken : self.step event = some next) :
    next.history = event.recorded?.toList.foldl RingBuffer.push self.history := by
  cases event with
  | record thread sample =>
      simp only [step] at taken
      split at taken
      · cases taken
        rfl
      · cases taken
  | snapshot thread =>
      simp only [step] at taken
      split at taken
      · have unchanged := busStep_history taken
        exact unchanged
      · cases taken
  | subscribe => exact busStep_history taken
  | deliver thread => exact busStep_history taken
  | finish thread => exact busStep_history taken
  | pop id => exact busStep_history taken
  | close id => exact busStep_history taken
  | release id => exact busStep_history taken

/-- After any run of the hub the history holds the newest samples published. -/
theorem history_of_run {capacity : Nat} {events : List (HubEvent threads)}
    (executed : run step (ofCapacity capacity) events = some self) :
    self.history.Holds (publishedSamples events) ∧
      self.history.cap = if capacity = 0 then 1 else capacity := by
  refine run_history (fun past hub => hub.history.Holds (publishedSamples past) ∧
    hub.history.cap = if capacity = 0 then 1 else capacity)
    ⟨RingBuffer.holds_ofCapacity capacity, rfl⟩ ?_ executed
  intro past before event after invariant taken
  have appended : publishedSamples (past ++ [event]) =
      publishedSamples past ++ event.recorded?.toList := by
    rw [publishedSamples, List.filterMap_append]
    cases recorded : event.recorded? with
    | none => simp [publishedSamples, recorded]
    | some sample => simp [publishedSamples, recorded]
  rw [step_history taken, appended]
  cases event.recorded? with
  | none =>
      rw [Option.toList_none, List.append_nil]
      exact invariant
  | some sample => exact ⟨invariant.1.push sample, (RingBuffer.cap_push _ _).trans invariant.2⟩

end TelemetryHub

/-- After any run of the hub `History` reads inside the buffer and gives the newest of
the samples published. -/
theorem TelemetryHub.historyOf_of_run {self : TelemetryHub threads} {capacity : Nat}
    (intCapacity : capacity ≤ 2 ^ 31 - 1) {events : List (HubEvent threads)}
    (executed : run step (ofCapacity capacity) events = some self) (seconds : Int) :
    self.historyOf seconds =
      some ((publishedSamples events).rtake
        (min (max seconds 0).toNat (if capacity = 0 then 1 else capacity))) := by
  obtain ⟨holds, capEq⟩ := history_of_run executed
  have inRange : self.history.cap ≤ 2 ^ 31 - 1 := by
    rw [capEq]
    split
    · omega
    · exact intCapacity
  rw [historyOf, RingBuffer.capacity, holds.lastN, toNat_clamp inRange, Nat.min_assoc,
    Nat.min_self, capEq]

/-! ## The refinement -/

/-- The buffer shows the newest `capacity` of the elements `pushed`, and the index
`Push` writes to once the buffer is full is in range. -/
structure RefinesNewest {T : Type} (capacity : Nat) (pushed : List T)
    (buffer : RingBuffer T) : Prop where
  size : buffer.size = min capacity pushed.length
  totalPushed : buffer.totalPushed.toNat = pushed.length % 2 ^ 64
  lastN : ∀ n, buffer.lastN n = some (pushed.rtake (min n (min capacity pushed.length)))
  pushInRange : ¬buffer.buf.length < buffer.cap → buffer.head < buffer.buf.length

/-- After any calls of `Push` and `Clear` the ring buffer refines the elements pushed
since the last `Clear`, and after any run of the hub `History` gives the newest of
the samples published. -/
theorem history_refines_pushes (T : Type) (capacity : Nat) (ops : List (RingBuffer.Op T))
    (hubCapacity : Nat) (intCapacity : hubCapacity ≤ 2 ^ 31 - 1)
    (events : List (HubEvent threads)) (hub : TelemetryHub threads)
    (executed : run TelemetryHub.step (.ofCapacity hubCapacity) events = some hub) :
    RefinesNewest (if capacity = 0 then 1 else capacity) (RingBuffer.pushedSinceClear ops)
        (RingBuffer.replay capacity ops) ∧
      ∀ seconds : Int, hub.historyOf seconds =
        some ((publishedSamples events).rtake
          (min (max seconds 0).toNat
            (min (if hubCapacity = 0 then 1 else hubCapacity)
              (publishedSamples events).length))) := by
  constructor
  · have holds := RingBuffer.holds_replay capacity ops
    have capEq := RingBuffer.cap_replay capacity ops
    refine
      { size := capEq ▸ holds.length_buf
        totalPushed := holds.counted
        lastN := fun n => ?_
        pushInRange := fun full => holds.head_lt_length (Nat.le_of_not_lt full) }
    rw [holds.lastN n, capEq, ← Nat.min_assoc, rtake_min_length]
  · intro seconds
    rw [TelemetryHub.historyOf_of_run intCapacity executed seconds, ← Nat.min_assoc,
      rtake_min_length]

/-- A buffer of three that wraps around after a `Clear`, and a hub of two that is asked
for more than it holds. -/
theorem history_refines_pushes_wrapped :
    (RingBuffer.pushedSinceClear
        [.push 9, .clear, .push 1, .push 2, .push 3, .push 4, .push 5] = [1, 2, 3, 4, 5] ∧
      (RingBuffer.replay 3
        [.push 9, .clear, .push 1, .push 2, .push 3, .push 4, .push 5]).lastN 2 =
          some [4, 5]) ∧
    ∃ hub : TelemetryHub 2,
      run TelemetryHub.step (.ofCapacity 2)
        [.record 0 ⟨1000, []⟩, .record 1 ⟨1001, []⟩, .snapshot 1, .finish 1,
          .record 1 ⟨1002, []⟩] = some hub ∧
      hub.historyOf 300 = some [⟨1001, []⟩, ⟨1002, []⟩] ∧ hub.historyOf (-1) = some [] := by
  have executed : run TelemetryHub.step (.ofCapacity 2 : TelemetryHub 2)
      [.record 0 ⟨1000, []⟩, .record 1 ⟨1001, []⟩, .snapshot 1, .finish 1,
        .record 1 ⟨1002, []⟩] = some _ := rfl
  obtain ⟨buffer, history⟩ := history_refines_pushes Nat 3
    [.push 9, .clear, .push 1, .push 2, .push 3, .push 4, .push 5] 2 (by decide) _ _ executed
  exact ⟨⟨rfl, buffer.lastN 2⟩, _, executed, history 300, history (-1)⟩

end HWPanel.Core
