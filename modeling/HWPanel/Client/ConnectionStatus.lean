import HWPanel.Core.ChannelManager
import HWPanel.Library.Run

/-!
# The status bar

`ConnectionStatus` of `apps/hwpanel-client/backend/connection_status.cpp` shows the state
last reported by the channel manager, whose reports are queued to the UI thread. The
manager reports changes only, so the bar keeps its first text until there is one.
-/

namespace HWPanel.Core.ConnectionState

/-- `static_cast<int>(state)`. -/
def toInt : ConnectionState → Int
  | .disconnected => 0
  | .connecting => 1
  | .connected => 2

/-- `ToString`. -/
def toString : ConnectionState → String
  | .disconnected => "disconnected"
  | .connecting => "connecting"
  | .connected => "connected"

end HWPanel.Core.ConnectionState

namespace HWPanel.Client

open HWPanel.Core HWPanel.Library

/-- `changes` counts the `changed` signals. -/
structure ConnectionStatus where
  connected : Bool := false
  text : String := "connecting"
  color : String := "#f0a030"
  changes : Nat := 0

namespace ConnectionStatus

/-- `ToString` of the value cast back, which may be no enumerator. -/
def stateText (state : Int) : String :=
  if state = ConnectionState.disconnected.toInt then "disconnected"
  else if state = ConnectionState.connecting.toInt then "connecting"
  else if state = ConnectionState.connected.toInt then "connected"
  else "unknown"

def setState (self : ConnectionStatus) (state : Int) : ConnectionStatus :=
  let connected := decide (state = ConnectionState.connected.toInt)
  { connected
    text := stateText state
    color :=
      if connected then "#3ddc84"
      else if state = ConnectionState.connecting.toInt then "#f0a030" else "#e5484d"
    changes := self.changes + 1 }

/-- The colour for a state. -/
def colorOf : ConnectionState → String
  | .connected => "#3ddc84"
  | .connecting => "#f0a030"
  | .disconnected => "#e5484d"

/-- The bar shows this state. -/
structure Displays (state : ConnectionState) (status : ConnectionStatus) : Prop where
  connected : status.connected = decide (state = .connected)
  text : status.text = state.toString
  color : status.color = colorOf state

theorem displays_setState (self : ConnectionStatus) (state : ConnectionState) :
    Displays state (self.setState state.toInt) := by
  cases state with
  | disconnected => exact ⟨rfl, rfl, rfl⟩
  | connecting => exact ⟨rfl, rfl, rfl⟩
  | connected => exact ⟨rfl, rfl, rfl⟩

end ConnectionStatus

/-- The monitor thread with the callback of `ClientWorker`, and the UI thread, which has
taken `handled` of the `ConnectionChanged` signals. -/
structure StatusBar where
  monitor : Monitor := { manager := { callback := true } }
  exited : Bool := false
  probes : List Connectivity := []
  handled : Nat := 0
  status : ConnectionStatus := {}

inductive StatusEvent where
  | probe (gstate : Connectivity)
  | exit
  | handleState

namespace StatusBar

variable (self : StatusBar)

def step : StatusEvent → Option StatusBar
  | .probe gstate =>
      if self.exited then none
      else some
        { self with
          monitor := self.monitor.probe gstate
          probes := self.probes ++ [gstate] }
  | .exit =>
      if self.exited then none
      else some
        { self with
          monitor :=
            { self.monitor with manager := self.monitor.manager.setState .disconnected }
          exited := true }
  | .handleState =>
      match self.monitor.manager.reported[self.handled]? with
      | some state => some
          { self with
            handled := self.handled + 1
            status := self.status.setState state.toInt }
      | none => none

/-- The states the manager was set to. -/
def states : List ConnectionState :=
  self.probes.filterMap Connectivity.mapped ++
    if self.exited then [.disconnected] else []

/-- The reports handled, with the bar they leave. -/
structure Follows (bar : StatusBar) : Prop where
  reports : bar.monitor.manager.Reports bar.states
  queued : bar.handled ≤ bar.monitor.manager.reported.length
  counted : bar.status.changes = bar.handled
  untouched : bar.handled = 0 → bar.status = {}
  displays : ∀ last ∈ (bar.monitor.manager.reported.take bar.handled).getLast?,
    bar.status.Displays last

variable {self}

theorem setState_extends (manager : ChannelManager) (state : ConnectionState) :
    manager.reported <+: (manager.setState state).reported := by
  rw [ChannelManager.setState]
  split
  · exact List.prefix_rfl
  · split
    · exact List.prefix_append _ _
    · exact List.prefix_rfl

theorem probe_extends (monitor : Monitor) (gstate : Connectivity) :
    monitor.manager.reported <+: (monitor.probe gstate).manager.reported := by
  rw [Monitor.probe_manager]
  cases gstate.mapped with
  | none => exact List.prefix_rfl
  | some state => exact setState_extends _ _

/-- The manager goes on, and what was handled of its reports stays. -/
theorem Follows.with_monitor (follows : Follows self) {monitor : Monitor} {exited : Bool}
    {probes : List Connectivity}
    (extended : self.monitor.manager.reported <+: monitor.manager.reported)
    (reports : monitor.manager.Reports (states { self with monitor, exited, probes })) :
    Follows { self with monitor, exited, probes } := by
  obtain ⟨later, reported⟩ := extended
  constructor
  · exact reports
  · exact follows.queued.trans (List.IsPrefix.length_le ⟨later, reported⟩)
  · exact follows.counted
  · exact follows.untouched
  · show ∀ last ∈ (monitor.manager.reported.take self.handled).getLast?, _
    rw [← reported, List.take_append_of_le_length follows.queued]
    exact follows.displays

theorem Follows.step {event : StatusEvent} {next : StatusBar} (follows : Follows self)
    (taken : self.step event = some next) : Follows next := by
  cases event with
  | probe gstate =>
      obtain ⟨running, nextEq⟩ := Option.ite_none_left_eq_some.mp taken
      cases nextEq
      refine follows.with_monitor (probe_extends _ _) ?_
      have reports := follows.reports
      rw [states, if_neg running, List.append_nil] at reports
      rw [states, if_neg running, List.append_nil, List.filterMap_append, Monitor.probe_manager]
      cases stands : gstate.mapped with
      | none =>
          simp only [List.filterMap_cons, stands, List.filterMap_nil, List.append_nil]
          exact reports
      | some state =>
          simp only [List.filterMap_cons, stands, List.filterMap_nil]
          exact reports.setState state
  | exit =>
      obtain ⟨running, nextEq⟩ := Option.ite_none_left_eq_some.mp taken
      cases nextEq
      refine follows.with_monitor (setState_extends _ _) ?_
      have reports := follows.reports
      rw [states, if_neg running, List.append_nil] at reports
      exact reports.setState .disconnected
  | handleState =>
      simp only [StatusBar.step] at taken
      split at taken
      · rename_i state queued
        cases taken
        obtain ⟨inQueue, -⟩ := List.getElem?_eq_some_iff.mp queued
        constructor
        · exact follows.reports
        · exact inQueue
        · exact congrArg (· + 1) follows.counted
        · exact fun none => absurd none (Nat.succ_ne_zero _)
        · simp only [List.take_add_one, queued]
          rintro last isLast
          rw [Option.toList_some, List.getLast?_append] at isLast
          cases isLast
          exact ConnectionStatus.displays_setState _ _
      · cases taken

theorem follows_of_run {events : List StatusEvent} {bar : StatusBar}
    (executed : run step {} events = some bar) : Follows bar :=
  run_invariant Follows
    { reports := Monitor.reports_during []
      queued := Nat.le_refl _
      counted := rfl
      untouched := fun _ => rfl
      displays := by simp }
    (fun _ _ _ follows taken => follows.step taken) executed

/-- Without repetitions only the first is left when all are like it. -/
theorem destutter'_eq_singleton {first : ConnectionState} (states : List ConnectionState) :
    states.destutter' (· ≠ ·) first = [first] ↔ ∀ state ∈ states, state = first := by
  induction states with
  | nil => simp
  | cons state rest ih =>
      by_cases same : first = state
      · rw [List.destutter'_cons_neg _ (not_not.mpr same), ih, List.forall_mem_cons]
        exact ⟨fun others => ⟨same.symm, others⟩, fun all => all.2⟩
      · rw [List.destutter'_cons_pos _ same, List.forall_mem_cons]
        constructor
        · intro alone
          cases List.destutter'_ne_nil _ _ (List.cons.inj alone).2
        · exact fun all => absurd all.1.symm same

/-- Nothing is reported as long as every probe so far failed or found the channel idle. -/
theorem Follows.reported_eq_nil (follows : Follows self) :
    self.monitor.manager.reported = [] ↔
      ∀ gstate ∈ self.probes, ∀ state ∈ gstate.mapped, state = .disconnected := by
  have nothing : self.monitor.manager.reported = [] ↔
      self.states.destutter' (· ≠ ·) .disconnected = [.disconnected] := by
    rw [← follows.reports.reported]
    exact ⟨fun none => congrArg _ none, fun alone => (List.cons.inj alone).2⟩
  rw [nothing, destutter'_eq_singleton, states, List.forall_mem_append]
  constructor
  · intro all gstate member state stands
    exact all.1 state (List.mem_filterMap.mpr ⟨gstate, member, stands⟩)
  · intro all
    constructor
    · intro state member
      obtain ⟨gstate, probed, stands⟩ := List.mem_filterMap.mp member
      exact all gstate probed state stands
    · split
      · simp
      · simp

end StatusBar

/-- What the bar shows after any steps of the two threads. -/
structure StatusLaw (bar : StatusBar) : Prop where
  /-- The reports are the changes among the states probed. -/
  reports : ConnectionState.disconnected :: bar.monitor.manager.reported =
    bar.states.destutter' (· ≠ ·) .disconnected
  queued : bar.handled ≤ bar.monitor.manager.reported.length
  signals : bar.status.changes = bar.handled
  /-- The last report handled is shown, and before the first one the initial bar. -/
  displays : ∀ last ∈ (bar.monitor.manager.reported.take bar.handled).getLast?,
    bar.status.Displays last
  initially : bar.handled = 0 → bar.status = {}
  /-- With all reports handled the flag is right, and so are the text and the colour of the
  dot if and only if some probe found the channel connecting or connected. -/
  connected : bar.handled = bar.monitor.manager.reported.length →
    bar.status.connected = decide (bar.monitor.manager.state = .connected)
  text : bar.handled = bar.monitor.manager.reported.length →
    (bar.status.text = bar.monitor.manager.state.toString ↔
      ∃ gstate ∈ bar.probes, ∃ state ∈ gstate.mapped, state ≠ .disconnected)
  color : bar.handled = bar.monitor.manager.reported.length →
    (bar.status.color = ConnectionStatus.colorOf bar.monitor.manager.state ↔
      ∃ gstate ∈ bar.probes, ∃ state ∈ gstate.mapped, state ≠ .disconnected)

namespace StatusBar

variable {bar : StatusBar}

/-- With all reports handled the bar is the initial one or shows the manager's state. -/
theorem Follows.settled (follows : Follows bar)
    (drained : bar.handled = bar.monitor.manager.reported.length) :
    (bar.monitor.manager.reported = [] ∧ bar.status = {} ∧
        bar.monitor.manager.state = .disconnected) ∨
      (bar.monitor.manager.reported ≠ [] ∧ bar.status.Displays bar.monitor.manager.state) := by
  have displays := follows.displays
  have state := follows.reports.state
  rw [drained, List.take_length] at displays
  by_cases nothing : bar.monitor.manager.reported = []
  · rw [nothing] at state drained
    exact .inl ⟨nothing, follows.untouched drained, (Option.some.inj state).symm⟩
  · refine .inr ⟨nothing, displays _ ?_⟩
    rwa [List.getLast?_cons_of_ne_nil nothing] at state

/-- What the initial bar shows in place of a state with the value `shown`, and any other bar
shows as it is, is right if and only if there was a report. -/
theorem Follows.shows_iff (follows : Follows bar)
    (drained : bar.handled = bar.monitor.manager.reported.length)
    {field : ConnectionStatus → String} {shown : ConnectionState → String}
    (initial : field {} ≠ shown .disconnected)
    (displayed : ∀ status state, ConnectionStatus.Displays state status →
      field status = shown state) :
    field bar.status = shown bar.monitor.manager.state ↔
      ∃ gstate ∈ bar.probes, ∃ state ∈ gstate.mapped, state ≠ .disconnected := by
  have reported := follows.reported_eq_nil
  rcases follows.settled drained with ⟨nothing, status, state⟩ | ⟨something, displays⟩
  · rw [status, state]
    have all := reported.mp nothing
    constructor
    · exact fun same => absurd same initial
    · rintro ⟨gstate, member, found, stands, other⟩
      exact absurd (all gstate member found stands) other
  · have changed := mt reported.mpr something
    push Not at changed
    exact ⟨fun _ => changed, fun _ => displayed _ _ displays⟩

end StatusBar

/-- The status bar follows the monitor over any run. -/
theorem status_bar_law {events : List StatusEvent} {bar : StatusBar}
    (executed : run StatusBar.step {} events = some bar) : StatusLaw bar := by
  have follows := StatusBar.follows_of_run executed
  constructor
  · exact follows.reports.reported
  · exact follows.queued
  · exact follows.counted
  · exact follows.displays
  · exact follows.untouched
  · intro drained
    rcases follows.settled drained with ⟨-, status, state⟩ | ⟨-, displays⟩
    · rw [status, state]
      rfl
    · exact displays.connected
  · intro drained
    exact follows.shows_iff drained (by decide) fun _ _ displays => displays.text
  · intro drained
    exact follows.shows_iff drained (by decide) fun _ _ displays => displays.color

/-- A service that cannot be reached: the bar goes on to say that it is connecting, with the
dot of that state. -/
theorem status_bar_law_unreachable : ∃ bar,
    run StatusBar.step {} [.probe .idle, .probe .transientFailure, .probe .transientFailure] =
      some bar ∧
    bar.monitor.manager.state = .disconnected ∧ bar.status.text = "connecting" ∧
      bar.status.color = "#f0a030" ∧ StatusLaw bar := by
  have executed : run StatusBar.step {}
      [.probe .idle, .probe .transientFailure, .probe .transientFailure] = some _ := rfl
  exact ⟨_, executed, rfl, rfl, rfl, status_bar_law executed⟩

end HWPanel.Client
