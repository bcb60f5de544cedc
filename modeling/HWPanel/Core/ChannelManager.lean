import HWPanel.Library.Streak
import Mathlib.Data.List.Destutter

/-!
# The channel manager

`ChannelManager::MonitorLoop` probes the connectivity of the gRPC channel, reports the
changes of state and waits longer after each failure. A run is the list of the values
probed until `running_` is cleared.
-/

namespace HWPanel.Core

inductive ConnectionState where
  | disconnected
  | connecting
  | connected
  deriving DecidableEq

/-- `grpc_connectivity_state`. -/
inductive Connectivity where
  | idle
  | connecting
  | ready
  | transientFailure
  | shutdown
  deriving DecidableEq

/-- `reported` are the calls of the callback, when one is set. -/
structure ChannelManager where
  state : ConnectionState := .disconnected
  callback : Bool
  reported : List ConnectionState := []

def ChannelManager.setState (self : ChannelManager) (state : ConnectionState) :
    ChannelManager :=
  if self.state = state then self
  else if self.callback then { self with state, reported := self.reported ++ [state] }
  else { self with state }

/-- The loop's variable, and the waits so far in milliseconds. -/
structure Monitor where
  manager : ChannelManager
  backoffS : Nat := 1
  waits : List Nat := []

namespace Monitor

/-- One pass of the loop. -/
def probe (self : Monitor) (gstate : Connectivity) : Monitor :=
  let self := match gstate with
    | .ready => { self with manager := self.manager.setState .connected, backoffS := 1 }
    | .connecting => { self with manager := self.manager.setState .connecting }
    | .transientFailure | .shutdown =>
        { self with manager := self.manager.setState .disconnected }
    -- `GetState(true)` already kicked the connection attempt.
    | .idle => self
  if gstate = .transientFailure ∨ gstate = .shutdown then
    { self with
      waits := self.waits ++ [self.backoffS * 1000]
      backoffS := min (self.backoffS * 2) 15 }
  else { self with waits := self.waits ++ [500] }

/-- The loop while it runs, for a manager with a callback. -/
def during (probes : List Connectivity) : Monitor :=
  probes.foldl probe { manager := { callback := true } }

/-- `MonitorLoop` up to its exit. -/
def monitorLoop (probes : List Connectivity) : Monitor :=
  { during probes with manager := (during probes).manager.setState .disconnected }

end Monitor

namespace Connectivity

/-- The state a probe stands for; an idle channel is left alone. -/
def mapped : Connectivity → Option ConnectionState
  | .ready => some .connected
  | .connecting => some .connecting
  | .transientFailure | .shutdown => some .disconnected
  | .idle => none

def failing (gstate : Connectivity) : Bool := gstate.mapped = some .disconnected

/-- The failing probes since the last ready one. -/
def failures (past : List Connectivity) : Nat := (past.rtakeWhile (· ≠ .ready)).countP failing

/-- The wait after a probe, in milliseconds. -/
def wait (past : List Connectivity) (gstate : Connectivity) : Nat :=
  if gstate.failing then min (2 ^ failures past) 15 * 1000 else 500

end Connectivity

open Connectivity

/-- The reports of a run, with the initial state in front, are the states probed without
repetitions; the last report is the state, and each wait follows from the probes
before it. -/
structure FollowsProbes (probes : List Connectivity) : Prop where
  reports : ConnectionState.disconnected :: (Monitor.monitorLoop probes).manager.reported =
    (probes.filterMap mapped ++ [ConnectionState.disconnected]).destutter' (· ≠ ·) .disconnected
  differ : (Monitor.monitorLoop probes).manager.reported.IsChain (· ≠ ·)
  current : ∀ past rest, probes = past ++ rest →
    ∀ last ∈ (Monitor.during past).manager.reported.getLast?,
      last = (Monitor.during past).manager.state
  currentAtExit : ∀ last ∈ (Monitor.monitorLoop probes).manager.reported.getLast?,
    last = (Monitor.monitorLoop probes).manager.state
  waited : (Monitor.monitorLoop probes).waits.length = probes.length
  waits : ∀ past gstate rest, probes = past ++ gstate :: rest →
    (Monitor.monitorLoop probes).waits[past.length]? = some (wait past gstate)

/-- One more element is kept when it differs from the last one kept. -/
theorem destutter'_append_singleton {α : Type} [DecidableEq α] (first : α) (entries : List α)
    (entry : α) :
    (entries ++ [entry]).destutter' (· ≠ ·) first =
      if (entries.destutter' (· ≠ ·) first).getLast? = some entry then
        entries.destutter' (· ≠ ·) first
      else entries.destutter' (· ≠ ·) first ++ [entry] := by
  induction entries generalizing first with
  | nil =>
      by_cases same : first = entry
      · simp [same]
      · simp [same]
  | cons second entries ih =>
      by_cases same : first = second
      · rw [List.cons_append, List.destutter'_cons_neg _ (not_not.mpr same),
          List.destutter'_cons_neg _ (not_not.mpr same), ih]
      · have kept : entries.destutter' (· ≠ ·) second ≠ [] := List.destutter'_ne_nil _ _
        rw [List.cons_append, List.destutter'_cons_pos _ same,
          List.destutter'_cons_pos _ same, ih, List.getLast?_cons_of_ne_nil kept]
        split
        · rfl
        · rfl

/-! ## The run -/

namespace ChannelManager

/-- The reports of a manager with a callback are the states it was set to without
repetitions, and its state is the last of them. -/
structure Reports (manager : ChannelManager) (states : List ConnectionState) : Prop where
  callback : manager.callback = true
  reported : ConnectionState.disconnected :: manager.reported =
    states.destutter' (· ≠ ·) .disconnected
  state : (ConnectionState.disconnected :: manager.reported).getLast? = some manager.state

variable {self : ChannelManager} {states : List ConnectionState}

theorem Reports.setState (reports : self.Reports states) (state : ConnectionState) :
    (self.setState state).Reports (states ++ [state]) := by
  have last := reports.state
  rw [reports.reported] at last
  rw [ChannelManager.setState]
  split
  case isTrue same =>
    refine { reports with reported := ?_ }
    rw [destutter'_append_singleton, if_pos (last.trans (congrArg some same))]
    exact reports.reported
  case isFalse different =>
    rw [if_pos reports.callback]
    refine { callback := reports.callback, reported := ?_, state := ?_ }
    · have changed : ¬(states.destutter' (· ≠ ·) .disconnected).getLast? = some state := by
        rw [last]
        exact fun same => different (Option.some.inj same)
      rw [destutter'_append_singleton, if_neg changed, ← reports.reported]
      rfl
    · rw [← List.cons_append, List.getLast?_append]
      rfl

/-- The last report, if any, is the state. -/
theorem Reports.last_eq_state (reports : self.Reports states) {last : ConnectionState}
    (reported : last ∈ self.reported.getLast?) : last = self.state := by
  have nonempty : self.reported ≠ [] := by
    rintro nothing
    rw [nothing] at reported
    cases reported
  have state := reports.state
  rw [List.getLast?_cons_of_ne_nil nonempty] at state
  exact Option.some.inj (reported.symm.trans state)

end ChannelManager

namespace Monitor

@[simp] theorem during_snoc (past : List Connectivity) (gstate : Connectivity) :
    during (past ++ [gstate]) = (during past).probe gstate := by
  simp [during]

/-- What one pass does to the manager: it sets the state the probe stands for, if any. -/
@[simp] theorem probe_manager (self : Monitor) (gstate : Connectivity) :
    (self.probe gstate).manager =
      gstate.mapped.toList.foldl ChannelManager.setState self.manager := by
  cases gstate with
  | idle => rfl
  | connecting => rfl
  | ready => rfl
  | transientFailure => rfl
  | shutdown => rfl

/-- The backoff after one pass: reset, doubled up to its cap, or kept. -/
theorem probe_backoffS (self : Monitor) (gstate : Connectivity) :
    (self.probe gstate).backoffS =
      if gstate = .ready then 1
      else if gstate.failing then min (self.backoffS * 2) 15 else self.backoffS := by
  cases gstate with
  | idle => rfl
  | connecting => rfl
  | ready => rfl
  | transientFailure => rfl
  | shutdown => rfl

@[simp] theorem probe_waits (self : Monitor) (gstate : Connectivity) :
    (self.probe gstate).waits =
      self.waits ++ [if gstate.failing then self.backoffS * 1000 else 500] := by
  cases gstate with
  | idle => rfl
  | connecting => rfl
  | ready => rfl
  | transientFailure => rfl
  | shutdown => rfl

theorem reports_during (past : List Connectivity) :
    (during past).manager.Reports (past.filterMap mapped) := by
  induction past using List.reverseRecOn with
  | nil => exact { callback := rfl, reported := rfl, state := rfl }
  | append_singleton past gstate ih =>
      rw [during_snoc, probe_manager, List.filterMap_append]
      cases stands : gstate.mapped with
      | none =>
          simp only [List.filterMap_cons, stands, List.filterMap_nil, List.append_nil]
          exact ih
      | some state =>
          simp only [List.filterMap_cons, stands, List.filterMap_nil]
          exact ih.setState state

theorem reports_monitorLoop (probes : List Connectivity) :
    (monitorLoop probes).manager.Reports (probes.filterMap mapped ++ [.disconnected]) :=
  (reports_during probes).setState .disconnected

theorem failures_snoc (past : List Connectivity) (gstate : Connectivity) :
    failures (past ++ [gstate]) =
      if gstate = .ready then 0
      else failures past + if gstate.failing then 1 else 0 := by
  rw [failures, Library.countP_rtakeWhile_concat, failures]
  by_cases ready : gstate = .ready
  · simp [ready]
  · simp [ready]

/-- The backoff is the capped power of the failures since the last ready probe. -/
theorem backoffS_during (past : List Connectivity) :
    (during past).backoffS = min (2 ^ failures past) 15 := by
  induction past using List.reverseRecOn with
  | nil => rfl
  | append_singleton past gstate ih =>
      rw [during_snoc, probe_backoffS, failures_snoc, ih]
      split
      · rfl
      · split
        · rw [Nat.pow_succ]
          omega
        · rfl

theorem waits_snoc (past : List Connectivity) (gstate : Connectivity) :
    (during (past ++ [gstate])).waits = (during past).waits ++ [wait past gstate] := by
  rw [during_snoc, probe_waits, backoffS_during, wait]

@[simp] theorem length_waits (past : List Connectivity) :
    (during past).waits.length = past.length := by
  induction past using List.reverseRecOn with
  | nil => rfl
  | append_singleton past gstate ih =>
      rw [waits_snoc, List.length_append, List.length_append, ih]
      rfl

example : (during (List.replicate 6 .transientFailure)).waits =
    [1000, 2000, 4000, 8000, 15000, 15000] := rfl

/-- A wait stays as it was taken. -/
theorem waits_getElem? (past : List Connectivity) (gstate : Connectivity)
    (rest : List Connectivity) :
    (during (past ++ gstate :: rest)).waits[past.length]? = some (wait past gstate) := by
  induction rest using List.reverseRecOn with
  | nil =>
      rw [waits_snoc, List.getElem?_append_right (Nat.le_of_eq (length_waits past)),
        length_waits past, Nat.sub_self]
      rfl
  | append_singleton rest next ih =>
      have inRange : past.length < (during (past ++ gstate :: rest)).waits.length := by
        rw [length_waits, List.length_append]
        exact Nat.lt_add_of_pos_right (Nat.succ_pos _)
      rw [← List.cons_append, ← List.append_assoc, waits_snoc,
        List.getElem?_append_left inRange, ih]

end Monitor

/-- Every run of the loop follows its probes. -/
theorem monitorLoop_followsProbes (probes : List Connectivity) : FollowsProbes probes where
  reports := (Monitor.reports_monitorLoop probes).reported
  differ := by
    have chain := List.isChain_destutter' (· ≠ ·)
      (probes.filterMap mapped ++ [.disconnected]) ConnectionState.disconnected
    rw [← (Monitor.reports_monitorLoop probes).reported] at chain
    exact chain.tail
  current past rest _ last reported := (Monitor.reports_during past).last_eq_state reported
  currentAtExit last reported := (Monitor.reports_monitorLoop probes).last_eq_state reported
  waited := Monitor.length_waits probes
  waits past gstate rest split := by
    rw [split]
    exact Monitor.waits_getElem? past gstate rest

end HWPanel.Core
