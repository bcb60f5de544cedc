import HWPanel.Core.TelemetryHistory
import Mathlib.Algebra.Order.Group.Abs
import Mathlib.Algebra.Order.Group.Int

/-!
# Seconds of history

A `GetHistoryRequest` asks for seconds, and `History` counts samples. The two agree
exactly when enough of the samples published are recent.
-/

namespace HWPanel.Core

open HWPanel.Library

variable {threads : Nat}

/-- The samples are in the order of their clock, whatever the gaps. -/
def ClockOrdered (published : List TelemetrySample) : Prop :=
  published.Pairwise fun older newer => older.timestampMs ≤ newer.timestampMs

/-- Each sample lies within that many seconds of the newest one published. -/
def WithinSeconds (seconds : Int) (published samples : List TelemetrySample) : Prop :=
  ∀ newest ∈ published.getLast?, ∀ sample ∈ samples,
    |newest.timestampMs - sample.timestampMs| ≤ seconds * 1000

/-- The number of samples published in the last `seconds` seconds. -/
def publishedWithin (seconds : Int) (published : List TelemetrySample) : Nat :=
  match published.getLast? with
  | none => 0
  | some newest => published.countP fun sample =>
      newest.timestampMs - sample.timestampMs ≤ seconds * 1000

/-- The last sample of an ordered list is the newest by its clock. -/
theorem ClockOrdered.le_newest {published : List TelemetrySample}
    (ordered : ClockOrdered published) {newest sample : TelemetrySample}
    (last : published.getLast? = some newest) (member : sample ∈ published) :
    sample.timestampMs ≤ newest.timestampMs := by
  obtain ⟨before, rfl⟩ := List.getLast?_eq_some_iff.mp last
  rcases List.mem_append.mp member with older | same
  · exact (List.pairwise_append.mp ordered).2.2 sample older newest (List.mem_singleton_self _)
  · rw [List.mem_singleton.mp same]

/-- The newest `count` samples are recent when at least that many were published
recently. -/
theorem withinSeconds_rtake_iff {published : List TelemetrySample}
    (ordered : ClockOrdered published) (seconds : Int) (count : Nat) :
    WithinSeconds seconds published (published.rtake count) ↔
      min count published.length ≤ publishedWithin seconds published := by
  cases last : published.getLast? with
  | none =>
      rw [List.getLast?_eq_none_iff.mp last]
      simp [WithinSeconds, publishedWithin]
  | some newest =>
      have recent : ∀ sample ∈ published.rtake count,
          |newest.timestampMs - sample.timestampMs| ≤ seconds * 1000 ↔
            newest.timestampMs - sample.timestampMs ≤ seconds * 1000 := by
        intro sample member
        have older := ordered.le_newest last (List.mem_of_mem_drop member)
        rw [abs_of_nonneg (Int.sub_nonneg_of_le older)]
      have closed : published.Pairwise fun older newer =>
          decide (newest.timestampMs - older.timestampMs ≤ seconds * 1000) →
            decide (newest.timestampMs - newer.timestampMs ≤ seconds * 1000) := by
        refine ordered.imp fun {older newer} le passed => ?_
        have bound := of_decide_eq_true passed
        exact decide_eq_true (by omega)
      have counted := forall_mem_rtake_iff closed count
      simp only [WithinSeconds, publishedWithin, last, Option.mem_some_iff, forall_eq']
      rw [← counted]
      refine forall₂_congr fun sample member => ?_
      rw [recent sample member, decide_eq_true_eq]

/-- `History` returns only samples of the last `seconds` seconds exactly when at least as
many samples as it returns were published in that time. -/
theorem history_seconds_iff_publishedWithin (capacity : Nat)
    (intCapacity : capacity ≤ 2 ^ 31 - 1) (events : List (HubEvent threads))
    (hub : TelemetryHub threads)
    (executed : run TelemetryHub.step (.ofCapacity capacity) events = some hub)
    (ordered : ClockOrdered (publishedSamples events)) (seconds : Int) (asked : 0 ≤ seconds) :
    (∃ returned, hub.historyOf seconds = some returned ∧
        WithinSeconds seconds (publishedSamples events) returned) ↔
      min (min seconds.toNat (if capacity = 0 then 1 else capacity))
          (publishedSamples events).length ≤
        publishedWithin seconds (publishedSamples events) := by
  rw [TelemetryHub.historyOf_of_run intCapacity executed seconds, Int.max_eq_left asked,
    ← withinSeconds_rtake_iff ordered]
  simp

/-- A pause of a minute between two ticks: `History(2)` returns both samples. -/
theorem history_seconds_after_pause :
    ∃ hub : TelemetryHub 1,
      run TelemetryHub.step (.ofCapacity 300) [.record 0 ⟨0, []⟩, .snapshot 0, .finish 0,
        .record 0 ⟨60000, []⟩] = some hub ∧
      hub.historyOf 2 = some [⟨0, []⟩, ⟨60000, []⟩] ∧
      ¬WithinSeconds 2 [⟨0, []⟩, ⟨60000, []⟩] [⟨0, []⟩, ⟨60000, []⟩] := by
  refine ⟨_, rfl, rfl, fun within => ?_⟩
  have bound := within ⟨60000, []⟩ rfl ⟨0, []⟩ List.mem_cons_self
  exact absurd bound (by decide)

/-- Ticks a second apart. -/
theorem history_seconds_iff_publishedWithin_steady :
    ∃ hub : TelemetryHub 1,
      run TelemetryHub.step (.ofCapacity 300) [.record 0 ⟨0, []⟩, .snapshot 0, .finish 0,
        .record 0 ⟨1000, []⟩] = some hub ∧
      ∃ returned, hub.historyOf 2 = some returned ∧
        WithinSeconds 2 [⟨0, []⟩, ⟨1000, []⟩] returned := by
  have executed : run TelemetryHub.step (.ofCapacity 300 : TelemetryHub 1)
      [.record 0 ⟨0, []⟩, .snapshot 0, .finish 0, .record 0 ⟨1000, []⟩] = some _ := rfl
  have ordered : ClockOrdered [⟨0, []⟩, ⟨1000, []⟩] :=
    List.pairwise_pair.mpr (by decide)
  exact ⟨_, executed,
    (history_seconds_iff_publishedWithin 300 (by decide) _ _ executed ordered 2
      (by decide)).mpr (by decide)⟩

end HWPanel.Core
