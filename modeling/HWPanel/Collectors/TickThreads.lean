import HWPanel.Collectors.Pipeline
import HWPanel.Collectors.TickPacing

/-!
# The tick threads

`Start` and `Stop` of `CollectorPipeline` statement by statement, beside the threads that
they create. The calls come one after another: `ServiceHost::Start` returns before
`start_done_` is set, and the later ones hold the mutex of the controller. Then one tick
thread publishes at a time, and the pipeline is the one whose `Stop` ends its thread at once.
-/

namespace HWPanel.Collectors

open HWPanel.Library

/-- Where the calling thread is: between calls, before the assignment to `thread_`, or in
the `join`. An assignment to a joinable `std::thread` ends the process. -/
inductive PipelineCaller where
  | idle
  | creating (callback : TickCallback)
  | joining
  | terminated

def TickPhase.executing : TickPhase → Bool
  | .exited => false
  | _ => true

/-- A tick thread and the callback it was given. -/
structure TickThread where
  callback : TickCallback
  loop : TickLoop := {}

namespace TickThread

variable (self : TickThread)

def executing : Bool := self.loop.phase.executing

/-- The next action of the thread calls `TelemetryHub::Publish`. -/
def publishes : Bool :=
  match self.callback, self.loop.phase with
  | .publishToHub, .collecting _ => true
  | _, _ => false

end TickThread

/-- `joinable` is `thread_.joinable()`, which is then the thread created last. `published`
are the threads that have called `TelemetryHub::Publish`, in order. -/
structure TickThreads where
  running : Bool := false
  caller : PipelineCaller := .idle
  joinable : Bool := false
  threads : List TickThread := []
  now : Nat := 0
  published : List Nat := []

/-- The exchanges that `Start` and `Stop` begin with, the statements after them, and an
action of a tick thread, which takes `ns`. -/
inductive PipelineEvent where
  | start (callback : TickCallback)
  | create
  | stop
  | join
  | act (index ns : Nat)

namespace TickThreads

variable (interval : Nat) (self : TickThreads)

/-- An action of a tick thread, which reads the flag of the pipeline. -/
def act (index ns : Nat) : Option TickThreads :=
  self.threads[index]?.bind fun thread =>
    ({ thread.loop with running := self.running }.act interval (self.now + ns)).map fun loop =>
      { self with
        threads := self.threads.set index { thread with loop }
        now := self.now + ns
        published := self.published ++ if thread.publishes then [index] else [] }

def step (event : PipelineEvent) : Option TickThreads :=
  match event, self.caller with
  | _, .terminated => none
  | .start callback, .idle =>
      if self.running then some self
      else some { self with running := true, caller := .creating callback }
  | .create, .creating callback =>
      if self.joinable then some { self with caller := .terminated }
      else some
        { self with
          caller := .idle
          joinable := true
          threads := self.threads ++ [{ callback }] }
  | .stop, .idle =>
      if self.running then some { self with running := false, caller := .joining }
      else some self
  | .join, .joining =>
      if self.joinable && self.threads.getLast?.any TickThread.executing then none
      else some { self with caller := .idle, joinable := false }
  | .act index ns, _ => self.act interval index ns
  | _, _ => none

end TickThreads

namespace TickThread

variable {interval now : Nat} {thread : TickThread} {loop : TickLoop}

/-- A thread that has ended takes no action. -/
theorem executing_of_act {running : Bool}
    (taken : { thread.loop with running }.act interval now = some loop) :
    thread.executing = true := by
  rw [executing]
  cases phase : thread.loop.phase with
  | exited => cases TickLoop.acts_of_act taken <;> simp_all
  | _ => rfl

/-- The loop goes on while the flag is set. -/
theorem executing_act (taken : { thread.loop with running := true }.act interval now = some loop) :
    loop.phase.executing = true := by
  cases TickLoop.acts_of_act taken with
  | leave phase stopped => cases stopped
  | _ => rfl

/-- A thread that executes takes its next action, after 20 ms at the latest. -/
theorem exists_act (executes : thread.executing = true) {running : Bool}
    (slept : thread.loop.now + 20 * msNs ≤ now) :
    ∃ loop, { thread.loop with running }.act interval now = some loop := by
  cases phase : thread.loop.phase with
  | exited =>
      rw [executing, phase] at executes
      cases executes
  | sleeping start =>
      simp only [TickLoop.act, phase, if_pos slept]
      exact ⟨_, rfl⟩
  | _ =>
      simp only [TickLoop.act, phase]
      exact ⟨_, rfl⟩

/-- The action as a step of the loop alone. -/
theorem step_of_act {running : Bool} (past : thread.loop.now ≤ now)
    (taken : { thread.loop with running }.act interval now = some loop) :
    TickLoop.step interval { thread.loop with running } (.act (now - thread.loop.now)) =
      some loop := by
  rw [TickLoop.step, Nat.add_sub_of_le past, taken]

end TickThread

namespace TickThreads

variable {interval : Nat} {self next : TickThreads}

inductive Transition (interval : Nat) (self : TickThreads) : PipelineEvent → TickThreads → Prop
  | started (callback : TickCallback) (idle : self.caller = .idle) (running : self.running = true) :
      Transition interval self (.start callback) self
  | start (callback : TickCallback) (idle : self.caller = .idle)
      (stopped : self.running = false) :
      Transition interval self (.start callback)
        { self with running := true, caller := .creating callback }
  | terminate (callback : TickCallback) (creating : self.caller = .creating callback)
      (joinable : self.joinable = true) :
      Transition interval self .create { self with caller := .terminated }
  | create (callback : TickCallback) (creating : self.caller = .creating callback)
      (joined : self.joinable = false) :
      Transition interval self .create
        { self with
          caller := .idle
          joinable := true
          threads := self.threads ++ [{ callback }] }
  | stopped (idle : self.caller = .idle) (stopped : self.running = false) :
      Transition interval self .stop self
  | stop (idle : self.caller = .idle) (running : self.running = true) :
      Transition interval self .stop { self with running := false, caller := .joining }
  | join (joining : self.caller = .joining)
      (finished : (self.joinable && self.threads.getLast?.any TickThread.executing) = false) :
      Transition interval self .join { self with caller := .idle, joinable := false }
  | act (index ns : Nat) (thread : TickThread) (loop : TickLoop)
      (found : self.threads[index]? = some thread)
      (acted : { thread.loop with running := self.running }.act interval (self.now + ns) =
        some loop) :
      Transition interval self (.act index ns)
        { self with
          threads := self.threads.set index { thread with loop }
          now := self.now + ns
          published := self.published ++ if thread.publishes then [index] else [] }

theorem step_transition {event : PipelineEvent} (taken : self.step interval event = some next) :
    Transition interval self event next := by
  unfold step at taken
  split at taken
  · cases taken
  · rename_i callback idle
    split at taken
    · rename_i running
      cases taken
      exact .started callback idle running
    · rename_i stopped
      cases taken
      exact .start callback idle (Bool.eq_false_iff.mpr stopped)
  · rename_i callback creating
    split at taken
    · rename_i joinable
      cases taken
      exact .terminate callback creating joinable
    · rename_i joined
      cases taken
      exact .create callback creating (Bool.eq_false_iff.mpr joined)
  · rename_i idle
    split at taken
    · rename_i running
      cases taken
      exact .stop idle running
    · rename_i stopped
      cases taken
      exact .stopped idle (Bool.eq_false_iff.mpr stopped)
  · rename_i joining
    split at taken
    · cases taken
    · rename_i finished
      cases taken
      exact .join joining (Bool.eq_false_iff.mpr finished)
  · rename_i index ns live
    obtain ⟨thread, found, acted⟩ := Option.bind_eq_some_iff.mp taken
    obtain ⟨loop, loopTaken, rfl⟩ := Option.map_eq_some_iff.mp acted
    exact .act index ns thread loop found loopTaken
  · cases taken

end TickThreads

/-! ## One thread at a time -/

/-- The pipeline of the calls made, each of them at its exchange. -/
def pipelineOf (events : List PipelineEvent) : CollectorPipeline :=
  events.foldl (fun pipeline event =>
    match event with
    | .start callback => pipeline.start callback
    | .stop => pipeline.stop
    | _ => pipeline) {}

namespace TickThreads

variable {interval : Nat} {events : List PipelineEvent} {self next : TickThreads}

/-- What the statements under way make of the callback that executes, `current`, and of the
pipeline's. -/
def Agrees (caller : PipelineCaller) (running : Bool) (current thread : Option TickCallback) :
    Prop :=
  match caller with
  | .idle => current = thread ∧ current.isSome = running
  | .creating callback => current = none ∧ running = true ∧ thread = some callback
  | .joining => current.isSome = true ∧ running = false ∧ thread = none
  | .terminated => False

/-- The loop of the thread, with the flag that it reads. -/
structure Follows (interval : Nat) (machine : TickThreads) (thread : TickThread) : Prop where
  loop : ∃ loopEvents, run (TickLoop.step interval) {} loopEvents =
    some { thread.loop with running := machine.running }
  past : thread.loop.now ≤ machine.now

/-- `current` is the thread that `thread_` refers to; the others have ended. -/
structure Serial (interval : Nat) (events : List PipelineEvent) (machine : TickThreads)
    (front : List TickThread) (current : Option TickThread) : Prop where
  threads : machine.threads = front ++ current.toList
  ended : ∀ thread ∈ front, thread.executing = false
  joinable : machine.joinable = current.isSome
  agrees : Agrees machine.caller machine.running (current.map (·.callback))
    (pipelineOf events).thread
  running : machine.running = (pipelineOf events).running
  executes : machine.running = true → ∀ thread ∈ current, thread.executing = true
  sorted : machine.published.Pairwise (· ≤ ·)
  bounded : ∀ index ∈ machine.published, index < machine.threads.length
  loops : ∀ thread ∈ front, ∃ loopEvents running,
    run (TickLoop.step interval) {} loopEvents = some { thread.loop with running }
  follows : ∀ thread ∈ current, Follows interval machine thread

theorem serial_initial : Serial interval [] {} [] none where
  threads := rfl
  ended := by simp
  joinable := rfl
  agrees := ⟨rfl, rfl⟩
  running := rfl
  executes := by simp
  sorted := .nil
  bounded := by simp
  loops := by simp
  follows := by simp

theorem pipelineOf_snoc (event : PipelineEvent) : pipelineOf (events ++ [event]) =
    match event with
    | .start callback => (pipelineOf events).start callback
    | .stop => (pipelineOf events).stop
    | _ => pipelineOf events := by
  rw [pipelineOf, List.foldl_append]
  rfl

/-- The thread that acts is the current one. -/
theorem Serial.acts {front : List TickThread} {current : Option TickThread}
    (serial : Serial interval events self front current) {index : Nat} {thread : TickThread}
    (found : self.threads[index]? = some thread) (executes : thread.executing = true) :
    current = some thread ∧ index = front.length := by
  rw [serial.threads] at found
  by_cases inFront : index < front.length
  · rw [List.getElem?_append_left inFront] at found
    have ended := serial.ended thread (List.mem_of_getElem? found)
    cases ended.symm.trans executes
  · have reaches := Nat.not_lt.mp inFront
    rw [List.getElem?_append_right reaches] at found
    cases current with
    | none => cases found
    | some last =>
        rw [Option.toList_some, List.getElem?_singleton] at found
        split at found
        · cases found
          exact ⟨rfl, by omega⟩
        · cases found

/-- An action of the current thread. -/
theorem Serial.act {front : List TickThread} {thread : TickThread}
    (serial : Serial interval events self front (some thread)) {ns : Nat} {loop : TickLoop}
    (taken : { thread.loop with running := self.running }.act interval (self.now + ns) =
      some loop) :
    Serial interval (events ++ [.act front.length ns])
      { self with
        threads := self.threads.set front.length { thread with loop }
        now := self.now + ns
        published := self.published ++ if thread.publishes then [front.length] else [] }
      front (some { thread with loop }) := by
  have sameFlag : loop.running = self.running := (TickLoop.acts_of_act taken).fields.1
  have sameTime := (TickLoop.acts_of_act taken).fields.2
  have threads : self.threads.set front.length { thread with loop } =
      front ++ [{ thread with loop }] := by
    rw [serial.threads, Option.toList_some, List.set_append_right _ _ (le_refl _), Nat.sub_self]
    rfl
  have inRange : front.length < self.threads.length := by
    rw [serial.threads, List.length_append]
    exact Nat.lt_add_of_pos_right Nat.one_pos
  constructor
  · exact threads
  · exact serial.ended
  · exact serial.joinable
  · rw [pipelineOf_snoc]
    exact serial.agrees
  · rw [pipelineOf_snoc]
    exact serial.running
  · rintro running _ ⟨⟩
    rw [show self.running = true from running] at taken
    exact TickThread.executing_act taken
  · refine List.pairwise_append.mpr ⟨serial.sorted, ?_, fun earlier before later after => ?_⟩
    · split
      · exact List.pairwise_singleton _ _
      · exact .nil
    · have bounded := serial.bounded earlier before
      rw [serial.threads, List.length_append] at bounded
      split at after
      · cases List.mem_singleton.mp after
        exact Nat.le_of_lt_succ bounded
      · cases after
  · intro index member
    rw [List.length_set]
    rcases List.mem_append.mp member with before | after
    · exact serial.bounded index before
    · split at after
      · cases List.mem_singleton.mp after
        exact inRange
      · cases after
  · exact serial.loops
  · rintro _ ⟨⟩
    obtain ⟨⟨loopEvents, executed⟩, past⟩ := serial.follows thread rfl
    constructor
    · refine ⟨loopEvents ++ [.act (self.now + ns - thread.loop.now)], ?_⟩
      rw [run_append, executed, Option.bind_some, run_cons,
        TickThread.step_of_act (past.trans (Nat.le_add_right _ _)) taken]
      show some loop = some { loop with running := self.running }
      rw [← sameFlag]
    · exact sameTime.le

/-- A call on a pipeline that it finds as it wants it. -/
theorem Serial.unchanged {front : List TickThread} {current : Option TickThread}
    (serial : Serial interval events self front current) {event : PipelineEvent}
    (same : pipelineOf (events ++ [event]) = pipelineOf events) :
    Serial interval (events ++ [event]) self front current :=
  { serial with
    agrees := by rw [same]; exact serial.agrees
    running := by rw [same]; exact serial.running }

theorem Serial.starts {front : List TickThread} {current : Option TickThread}
    (serial : Serial interval events self front current) (callback : TickCallback)
    (idle : self.caller = .idle) (stopped : self.running = false) :
    Serial interval (events ++ [.start callback])
      { self with running := true, caller := .creating callback } front none := by
  have agrees := serial.agrees
  rw [idle, stopped] at agrees
  have absent : current = none :=
    Option.map_eq_none_iff.mp (Option.not_isSome_iff_eq_none.mp (by rw [agrees.2]; decide))
  have started : pipelineOf (events ++ [.start callback]) =
      { pipelineOf events with running := true, thread := some callback } := by
    rw [pipelineOf_snoc]
    exact if_neg (by rw [← serial.running, stopped]; decide)
  cases absent
  exact
    { serial with
      agrees := ⟨rfl, rfl, by rw [started]⟩
      running := by rw [started]
      executes := by simp
      follows := by simp }

theorem Serial.creates {front : List TickThread} {current : Option TickThread}
    (serial : Serial interval events self front current) {callback : TickCallback}
    (creating : self.caller = .creating callback) :
    Serial interval (events ++ [.create])
      { self with
        caller := .idle
        joinable := true
        threads := self.threads ++ [{ callback }] } front (some { callback }) := by
  have agrees := serial.agrees
  rw [creating] at agrees
  obtain ⟨absent, running, thread⟩ := agrees
  cases Option.map_eq_none_iff.mp absent
  have threads := serial.threads
  rw [Option.toList_none, List.append_nil] at threads
  constructor
  · rw [threads]
    rfl
  · exact serial.ended
  · rfl
  · rw [pipelineOf_snoc]
    exact ⟨thread.symm, running.symm⟩
  · rw [pipelineOf_snoc]
    exact serial.running
  · rintro - _ ⟨⟩
    rfl
  · exact serial.sorted
  · intro index member
    rw [List.length_append]
    exact Nat.lt_succ_of_lt (serial.bounded index member)
  · exact serial.loops
  · rintro _ ⟨⟩
    refine ⟨⟨[], ?_⟩, Nat.zero_le _⟩
    rw [run_nil, show self.running = true from running]

theorem Serial.stops {front : List TickThread} {current : Option TickThread}
    (serial : Serial interval events self front current) (idle : self.caller = .idle)
    (running : self.running = true) :
    Serial interval (events ++ [.stop]) { self with running := false, caller := .joining }
      front current := by
  have agrees := serial.agrees
  rw [idle, running] at agrees
  have stopped : pipelineOf (events ++ [.stop]) =
      { pipelineOf events with running := false, thread := none } := by
    rw [pipelineOf_snoc]
    exact if_neg (by rw [← serial.running, running]; decide)
  exact
    { serial with
      agrees := ⟨agrees.2, rfl, by rw [stopped]⟩
      running := by rw [stopped]
      executes := by simp
      follows := fun thread isCurrent => by
        obtain ⟨⟨loopEvents, executed⟩, past⟩ := serial.follows thread isCurrent
        refine ⟨⟨loopEvents ++ [.stop], ?_⟩, past⟩
        rw [run_append, executed]
        rfl }

/-- The thread that has ended is one of those before. -/
theorem Serial.joins {front : List TickThread} {current : Option TickThread}
    (serial : Serial interval events self front current) (joining : self.caller = .joining)
    (finished : (self.joinable && self.threads.getLast?.any TickThread.executing) = false) :
    Serial interval (events ++ [.join]) { self with caller := .idle, joinable := false }
      (front ++ current.toList) none := by
  have agrees := serial.agrees
  rw [joining] at agrees
  obtain ⟨isSome, stopped, none⟩ := agrees
  obtain ⟨thread, rfl⟩ := Option.isSome_iff_exists.mp (Option.isSome_map.symm.trans isSome)
  have threads := serial.threads
  rw [Option.toList_some] at threads
  have ended : thread.executing = false := by
    rw [serial.joinable, threads, List.getLast?_concat] at finished
    exact finished
  obtain ⟨⟨loopEvents, executed⟩, -⟩ := serial.follows thread rfl
  rw [Option.toList_some]
  constructor
  · rw [Option.toList_none, List.append_nil]
    exact threads
  · intro other member
    rcases List.mem_append.mp member with before | last
    · exact serial.ended other before
    · rw [List.mem_singleton.mp last]
      exact ended
  · rfl
  · rw [pipelineOf_snoc]
    exact ⟨none.symm, stopped.symm⟩
  · rw [pipelineOf_snoc]
    exact serial.running
  · simp
  · exact serial.sorted
  · exact serial.bounded
  · intro other member
    rcases List.mem_append.mp member with before | last
    · exact serial.loops other before
    · rw [List.mem_singleton.mp last]
      exact ⟨loopEvents, self.running, executed⟩
  · simp

theorem Serial.step {front : List TickThread} {current : Option TickThread}
    (serial : Serial interval events self front current) {event : PipelineEvent}
    (taken : self.step interval event = some next) :
    ∃ front current, Serial interval (events ++ [event]) next front current := by
  have agrees := serial.agrees
  cases step_transition taken with
  | started callback idle running =>
      refine ⟨front, current, serial.unchanged ?_⟩
      rw [pipelineOf_snoc]
      exact if_pos (serial.running.symm.trans running)
  | start callback idle stopped => exact ⟨front, none, serial.starts callback idle stopped⟩
  | terminate callback creating joinable =>
      rw [creating] at agrees
      have joined := serial.joinable
      rw [joinable, Option.map_eq_none_iff.mp agrees.1] at joined
      cases joined
  | create callback creating joined => exact ⟨front, some { callback }, serial.creates creating⟩
  | stopped idle stopped =>
      refine ⟨front, current, serial.unchanged ?_⟩
      rw [pipelineOf_snoc]
      exact if_pos (by rw [← serial.running, stopped]; rfl)
  | stop idle running => exact ⟨front, current, serial.stops idle running⟩
  | join joining finished => exact ⟨_, none, serial.joins joining finished⟩
  | act index ns thread loop found acted =>
      obtain ⟨isCurrent, atEnd⟩ := serial.acts found (TickThread.executing_of_act acted)
      cases isCurrent
      cases atEnd
      exact ⟨front, some { thread with loop }, serial.act acted⟩

theorem serial_of_run (executed : run (TickThreads.step interval) {} events = some self) :
    ∃ front current, Serial interval events self front current :=
  run_history (fun events self => ∃ front current, Serial interval events self front current)
    ⟨[], none, serial_initial⟩
    (fun _ _ _ _ ⟨_, _, serial⟩ taken => serial.step taken) executed

/-- The `join` of a `Stop` returns when the thread has ended. -/
theorem Serial.join {front : List TickThread} {thread : TickThread}
    (serial : Serial interval events self front (some thread)) (joining : self.caller = .joining)
    (ended : thread.executing = false) :
    self.step interval .join = some { self with caller := .idle, joinable := false } := by
  have last : self.threads.getLast?.any TickThread.executing = false := by
    rw [serial.threads, Option.toList_some, List.getLast?_concat, Option.any_some, ended]
  simp only [TickThreads.step, joining, last, Bool.and_false, Bool.false_eq_true, if_false]

/-- It does so once the thread has taken the actions that it has left. -/
theorem Serial.returns {front : List TickThread} {thread : TickThread} (left : Nat)
    (serial : Serial interval events self front (some thread)) (joining : self.caller = .joining)
    (bounded : TickLoop.actionsLeft thread.loop.phase ≤ left) :
    ∃ actions : List Nat, actions.length ≤ left ∧ ∃ next,
      run (TickThreads.step interval) self (actions.map (.act front.length) ++ [.join]) =
        some next ∧ next.caller = .idle := by
  induction left generalizing self events thread with
  | zero =>
      have ended : thread.executing = false := by
        rw [TickThread.executing]
        cases phase : thread.loop.phase with
        | exited => rfl
        | _ =>
            rw [phase] at bounded
            cases bounded
      refine ⟨[], Nat.le_refl _, { self with caller := .idle, joinable := false }, ?_, rfl⟩
      rw [List.map_nil, List.nil_append, run_cons, serial.join joining ended]
      rfl
  | succ left ih =>
      have agrees := serial.agrees
      rw [joining] at agrees
      cases executes : thread.executing with
      | false =>
          refine ⟨[], Nat.zero_le _, { self with caller := .idle, joinable := false }, ?_, rfl⟩
          rw [List.map_nil, List.nil_append, run_cons, serial.join joining executes]
          rfl
      | true =>
          have past := (serial.follows thread rfl).past
          obtain ⟨loop, acted⟩ : ∃ loop, { thread.loop with running := self.running }.act interval
              (self.now + 20 * msNs) = some loop :=
            TickThread.exists_act executes (Nat.add_le_add_right past _)
          have winds := TickLoop.winds_step agrees.2.1
            (TickThread.step_of_act (past.trans (Nat.le_add_right _ _)) acted)
          have fewer : TickLoop.actionsLeft loop.phase ≤ left :=
            Nat.le_of_succ_le_succ (winds.actions.trans bounded)
          obtain ⟨actions, short, next, executed, idle⟩ := ih (serial.act acted) joining fewer
          refine ⟨20 * msNs :: actions, Nat.succ_le_succ short, next, ?_, idle⟩
          have found : self.threads[front.length]? = some thread := by
            rw [serial.threads, List.getElem?_append_right (le_refl _), Nat.sub_self]
            rfl
          have taken : self.step interval (.act front.length (20 * msNs)) =
              self.act interval front.length (20 * msNs) := by
            simp only [TickThreads.step, joining]
          rw [List.map_cons, List.cons_append, run_cons, taken, TickThreads.act, found,
            Option.bind_some, acted]
          exact executed

end TickThreads

/-- What every run keeps to. -/
structure TickThreadsLaw (interval : Nat) (events : List PipelineEvent) (machine : TickThreads) :
    Prop where
  alive : machine.caller ≠ .terminated
  /-- Only the thread created last may still execute. -/
  ended : ∀ index thread, machine.threads[index]? = some thread →
    index + 1 < machine.threads.length → thread.executing = false
  /-- Between calls the flag and the threads that execute are those of the pipeline. -/
  refines : machine.caller = .idle → machine.running = (pipelineOf events).running ∧
    (machine.threads.filter TickThread.executing).map (·.callback) =
      (pipelineOf events).thread.toList
  /-- The samples of one thread come before those of the next. -/
  published : machine.published.Pairwise (· ≤ ·)
  /-- Every thread is a run of the loop. -/
  loops : ∀ thread ∈ machine.threads, ∃ loopEvents running,
    run (TickLoop.step interval) {} loopEvents = some { thread.loop with running }
  /-- A `Stop` returns after five actions of the thread at most. -/
  returns : machine.caller = .joining → ∃ actions : List Nat, actions.length ≤ 5 ∧
    ∃ next, run (TickThreads.step interval) machine
      (actions.map (.act (machine.threads.length - 1)) ++ [.join]) = some next ∧
      next.caller = .idle

/-- However the tick threads and the calls of `Start` and `Stop` interleave, one thread
publishes at a time, and the calls are those of the pipeline. -/
theorem one_tick_thread {interval : Nat} {events : List PipelineEvent} {machine : TickThreads}
    (executed : run (TickThreads.step interval) {} events = some machine) :
    TickThreadsLaw interval events machine := by
  obtain ⟨front, current, serial⟩ := TickThreads.serial_of_run executed
  have threads := serial.threads
  have agrees := serial.agrees
  constructor
  · intro terminated
    rw [terminated] at agrees
    exact agrees
  · intro index thread found before
    have inFront : index < front.length := by
      have short : current.toList.length ≤ 1 := by cases current <;> simp
      rw [threads, List.length_append] at before
      omega
    rw [threads, List.getElem?_append_left inFront] at found
    exact serial.ended thread (List.mem_of_getElem? found)
  · intro idle
    rw [idle] at agrees
    refine ⟨serial.running, ?_⟩
    have none : front.filter TickThread.executing = [] :=
      List.filter_eq_nil_iff.mpr fun thread member => by simp [serial.ended thread member]
    rw [threads, List.filter_append, none, List.nil_append, ← agrees.1]
    cases current with
    | none => rfl
    | some thread =>
        have executes := serial.executes agrees.2.symm thread rfl
        rw [Option.toList_some, List.filter_cons_of_pos executes]
        rfl
  · exact serial.sorted
  · intro thread member
    rw [threads] at member
    rcases List.mem_append.mp member with before | last
    · exact serial.loops thread before
    · obtain ⟨loopEvents, loopRun⟩ := (serial.follows thread (Option.mem_toList.mp last)).loop
      exact ⟨loopEvents, machine.running, loopRun⟩
  · intro joining
    rw [joining] at agrees
    obtain ⟨thread, rfl⟩ := Option.isSome_iff_exists.mp (Option.isSome_map.symm.trans agrees.1)
    have last : machine.threads.length - 1 = front.length := by
      rw [threads, Option.toList_some, List.length_append]
      exact Nat.add_sub_cancel _ _
    rw [last]
    exact serial.returns 5 joining (TickLoop.actionsLeft_le thread.loop.phase)

/-- A pause and a continue: the first thread ends its tick, and the second one begins. -/
theorem one_tick_thread_resumed : ∃ machine,
    run (TickThreads.step 1000) {}
      [.start .publishToHub, .create, .act 0 10, .act 0 10, .stop, .act 0 500, .act 0 10,
        .act 0 10, .act 0 10, .join, .start .publishToHub, .create, .act 1 10, .act 1 10,
        .act 1 500] = some machine ∧
    machine.published = [0, 1] ∧ machine.threads.map (·.executing) = [false, true] ∧
    TickThreadsLaw 1000
      [.start .publishToHub, .create, .act 0 10, .act 0 10, .stop, .act 0 500, .act 0 10,
        .act 0 10, .act 0 10, .join, .start .publishToHub, .create, .act 1 10, .act 1 10,
        .act 1 500] machine := by
  have executed : run (TickThreads.step 1000) {}
      [.start .publishToHub, .create, .act 0 10, .act 0 10, .stop, .act 0 500, .act 0 10,
        .act 0 10, .act 0 10, .join, .start .publishToHub, .create, .act 1 10, .act 1 10,
        .act 1 500] = some _ := rfl
  exact ⟨_, executed, rfl, rfl, one_tick_thread executed⟩

end HWPanel.Collectors
