import HWPanel.Service.ProfileRequests

/-!
# Switching from the client

`ClientWorker::SwitchProfile` and `RefreshProfiles` queue their work to the worker's
thread, which runs one remote call at a time; the answers reach the UI thread as
`SwitchResult` and `ProfilesReceived`. A call can fail, by its deadline or with the
connection, before and after the service has served it.
-/

namespace HWPanel.Client

open HWPanel.Config HWPanel.Core HWPanel.Library HWPanel.Platform HWPanel.Service

namespace ProfileModel

structure Row where
  id : String
  name : String
  description : String

inductive Role where
  | id
  | name
  | description
  | active

/-- A `QVariant` that is valid. -/
inductive Value where
  | text (text : String)
  | flag (flag : Bool)

end ProfileModel

/-- `resets` counts the resets, each with one `countChanged` and one `activeChanged`. -/
structure ProfileModel where
  rows : List ProfileModel.Row := []
  activeId : String := ""
  resets : Nat := 0

namespace ProfileModel

variable (self : ProfileModel)

def Row.field (row : Row) (activeId : String) : Role → Value
  | .id => .text row.id
  | .name => .text row.name
  | .description => .text row.description
  | .active => .flag (decide (row.id = activeId))

/-- `data`, for an index with this row; `none` is the invalid `QVariant`. -/
def data (index : Int) (role : Role) : Option Value :=
  if index < 0 ∨ (self.rows.length : Int) ≤ index then none
  else (self.rows[index.toNat]?).map (·.field self.activeId role)

def setProfiles (profiles : List Row) (activeId : String) : ProfileModel where
  rows := profiles
  activeId := activeId
  resets := self.resets + 1

/-- The rows of the active id are marked. -/
theorem data_active_eq {index : Int} :
    self.data index .active = some (.flag true) ↔
      0 ≤ index ∧ (self.rows.map (·.id))[index.toNat]? = some self.activeId := by
  rw [data]
  by_cases outside : index < 0 ∨ (self.rows.length : Int) ≤ index
  · rw [if_pos outside]
    refine iff_of_false (by simp) ?_
    rintro ⟨positive, found⟩
    have inRange := (List.getElem?_eq_some_iff.mp found).1
    rw [List.length_map] at inRange
    omega
  · have positive : 0 ≤ index := by omega
    rw [if_neg outside, List.getElem?_map]
    cases self.rows[index.toNat]? with
    | none => simp
    | some row => simp [Row.field, positive]

end ProfileModel

/-- What `RefreshProfilesInternal` passes on of a profile. -/
def profileRow (profile : V1.Profile) : ProfileModel.Row :=
  ⟨profile.id, profile.name, profile.description⟩

variable {S : Type} {manager : ProfileManager S}

inductive Command where
  | refresh
  | switchProfile (id : String)

/-- A remote call: sent, served with a response, or served and thrown. -/
inductive Call (Response : Type) where
  | sent
  | served (response : Response)
  | thrown

/-- What the worker's thread is doing. -/
inductive CommandPhase where
  | idle
  | switching (id : String) (call : Call SwitchProfileResponse)
  | listing (call : Call V1.ListProfilesResponse)

/-- `state` and `trace` are the service's. `clicked` are the ids of the clicks and
`answered` the `SwitchResult` signals with the ids of their commands; `received` are the
`ProfilesReceived` signals, of which the UI thread has taken `handled`. -/
structure ProfileClient (manager : ProfileManager S) where
  state : ManagerState manager
  trace : List Completed := []
  queue : List Command := []
  phase : CommandPhase := .idle
  clicked : List String := []
  answered : List (String × Bool × String) := []
  received : List V1.ListProfilesResponse := []
  handled : Nat := 0
  model : ProfileModel := {}

/-- `click` is a click on a row, `refresh` the button or the timer. The worker's thread
takes a command, with a channel or without, and sees its call return or fail; `serve` is
the service's, and `other` the request of another client, or one given up by this one. -/
inductive ClientEvent where
  | click (id : String)
  | refresh
  | take (channel : Bool)
  | serve (io : SwitchIO)
  | return_
  | fail (message : String)
  | other (id : String) (io : SwitchIO)
  | setProfiles

namespace ProfileClient

variable (self : ProfileClient manager)

def answer (id : String) (ok : Bool) (message : String) : ProfileClient manager :=
  { self with phase := .idle, answered := self.answered ++ [(id, ok, message)] }

def take (channel : Bool) : Command → ProfileClient manager
  | .refresh => { self with phase := if channel then .listing .sent else .idle }
  | .switchProfile id =>
      if channel then { self with phase := .switching id .sent }
      else self.answer id false "not connected"

/-- A `ListProfiles` that runs at once, as it appears to its callers. -/
def serveList : ProfileClient manager :=
  match manager.store.list self.state.fs with
  | .ok profiles =>
      let response : V1.ListProfilesResponse :=
        ⟨profiles.map profileToProto, manager.activeId self.state⟩
      { self with
        phase := .listing (.served response)
        trace := self.trace ++ [.listed response] }
  | .error _ =>
      { self with phase := .listing .thrown, trace := self.trace ++ [.thrown] }

def serveSwitch (id : String) (io : SwitchIO) : ProfileClient manager :=
  match switchProfile manager id io self.state with
  | (.ok response, state) =>
      { self with
        state
        phase := .switching id (.served response)
        trace := self.trace ++ [.switched id response] }
  | (.error _, state) =>
      { self with
        state
        phase := .switching id .thrown
        trace := self.trace ++ [.thrown] }

def other (id : String) (io : SwitchIO) : ProfileClient manager :=
  match switchProfile manager id io self.state with
  | (.ok response, state) =>
      { self with state, trace := self.trace ++ [.switched id response] }
  | (.error _, state) => { self with state, trace := self.trace ++ [.thrown] }

def step : ClientEvent → Option (ProfileClient manager)
  | .click id => some
      { self with
        queue := self.queue ++ [.switchProfile id, .refresh]
        clicked := self.clicked ++ [id] }
  | .refresh => some { self with queue := self.queue ++ [.refresh] }
  | .take channel =>
      match self.phase, self.queue with
      | .idle, command :: rest => some ({ self with queue := rest }.take channel command)
      | _, _ => none
  | .serve io =>
      match self.phase with
      | .switching id .sent => some (self.serveSwitch id io)
      | .listing .sent => some self.serveList
      | _ => none
  | .return_ =>
      match self.phase with
      | .switching id (.served response) =>
          let answered := self.answer id response.ok response.message
          -- `RefreshProfilesInternal` follows in the same command.
          some (if response.ok then { answered with phase := .listing .sent } else answered)
      | .listing (.served response) => some
          { self with phase := .idle, received := self.received ++ [response] }
      | _ => none
  | .fail message =>
      match self.phase with
      | .switching id _ => some (self.answer id false message)
      | .listing _ => some { self with phase := .idle }
      | .idle => none
  | .other id io => some (self.other id io)
  | .setProfiles =>
      match self.received[self.handled]? with
      | some response => some
          { self with
            handled := self.handled + 1
            model := self.model.setProfiles (response.profiles.map profileRow)
              response.activeProfileId }
      | none => none

/-! ## What the user is told -/

end ProfileClient

def Command.switchId? : Command → Option String
  | .refresh => none
  | .switchProfile id => some id

namespace CommandPhase

/-- The id of the switch that is under way. -/
def switchId? : CommandPhase → Option String
  | .switching id _ => some id
  | _ => none

/-- The answers that have not returned are the service's. -/
def Honest (trace : List Completed) : CommandPhase → Prop
  | .switching id (.served response) => .switched id response ∈ trace
  | .listing (.served response) => .listed response ∈ trace
  | _ => True

theorem Honest.mono {trace : List Completed} {phase : CommandPhase} (honest : phase.Honest trace)
    (completed : Completed) : phase.Honest (trace ++ [completed]) := by
  cases phase with
  | idle => trivial
  | switching id call =>
      cases call with
      | served response => exact List.mem_append_left _ honest
      | _ => trivial
  | listing call =>
      cases call with
      | served response => exact List.mem_append_left _ honest
      | _ => trivial

end CommandPhase

namespace ProfileClient

variable {self : ProfileClient manager}

/-- What a response shows on the profile list. -/
def Shows (response : V1.ListProfilesResponse) (model : ProfileModel) : Prop :=
  model.rows = response.profiles.map profileRow ∧ model.activeId = response.activeProfileId

/-- The last answer of `ListProfiles` is still right as long as no request follows it. -/
def UpToDate (state : ManagerState manager) (trace : List Completed) : Prop :=
  ∀ response, trace.getLast? = some (.listed response) →
    ∃ profiles, manager.store.list state.fs = .ok profiles ∧
      response = ⟨profiles.map profileToProto, manager.activeId state⟩

/-- Each click is answered once and in its turn, and nothing is made up. -/
structure Answers (client : ProfileClient manager) : Prop where
  inTurn : client.clicked = client.answered.map (·.1) ++
    (client.phase.switchId?.toList ++ client.queue.filterMap Command.switchId?)
  honest : ∀ id message, (id, true, message) ∈ client.answered → ∃ response,
    .switched id response ∈ client.trace ∧ response.ok = true ∧ response.message = message
  pending : client.phase.Honest client.trace
  received : ∀ response ∈ client.received, .listed response ∈ client.trace
  queued : client.handled ≤ client.received.length
  shown : ∀ response ∈ (client.received.take client.handled).getLast?,
    Shows response client.model
  upToDate : UpToDate client.state client.trace

theorem answers_initial (state : ManagerState manager) :
    Answers ({ state } : ProfileClient manager) where
  inTurn := rfl
  honest := by simp
  pending := trivial
  received := by simp
  queued := Nat.le_refl _
  shown := by simp
  upToDate := by simp [UpToDate]

/-- The service completes a request. -/
theorem Answers.complete (answers : Answers self) {state : ManagerState manager}
    {phase : CommandPhase} (completed : Completed)
    (same : phase.switchId? = self.phase.switchId?)
    (honest : phase.Honest (self.trace ++ [completed]))
    (listed : ∀ response, completed = .listed response →
      ∃ profiles, manager.store.list state.fs = .ok profiles ∧
        response = ⟨profiles.map profileToProto, manager.activeId state⟩) :
    Answers { self with state, phase, trace := self.trace ++ [completed] } := by
  constructor
  · show self.clicked = _ ++ (phase.switchId?.toList ++ _)
    rw [same]
    exact answers.inTurn
  · intro id message answered
    obtain ⟨response, switched, told⟩ := answers.honest id message answered
    exact ⟨response, List.mem_append_left _ switched, told⟩
  · exact honest
  · exact fun response member => List.mem_append_left _ (answers.received response member)
  · exact answers.queued
  · exact answers.shown
  · intro response last
    rw [List.getLast?_concat] at last
    exact listed response (Option.some.inj last)

/-- The worker's thread is done with a switch. -/
theorem Answers.answer (answers : Answers self) {id : String} {ok : Bool} {message : String}
    (current : self.phase.switchId? = some id)
    (honest : ok = true → ∃ response, .switched id response ∈ self.trace ∧
      response.ok = true ∧ response.message = message) :
    Answers (self.answer id ok message) := by
  constructor
  · have inTurn := answers.inTurn
    rw [current] at inTurn
    simpa [ProfileClient.answer, CommandPhase.switchId?] using inTurn
  · intro other otherMessage answered
    rcases List.mem_append.mp answered with before | now
    · exact answers.honest other otherMessage before
    · cases List.mem_singleton.mp now
      exact honest rfl
  · trivial
  · exact answers.received
  · exact answers.queued
  · exact answers.shown
  · exact answers.upToDate

/-- A phase that switches nothing and holds no answer. -/
theorem Answers.with_phase (answers : Answers self) {phase : CommandPhase}
    (same : phase.switchId? = self.phase.switchId?) (honest : phase.Honest self.trace) :
    Answers { self with phase } := by
  refine { answers with inTurn := ?_, pending := honest }
  show self.clicked = _ ++ (phase.switchId?.toList ++ _)
  rw [same]
  exact answers.inTurn

/-- The worker's thread takes up a command. -/
theorem Answers.take (answers : Answers self) (idle : self.phase = .idle) {command : Command}
    {rest : List Command} (queue : self.queue = command :: rest) (channel : Bool) :
    Answers ({ self with queue := rest }.take channel command) := by
  have inTurn := answers.inTurn
  rw [idle, queue] at inTurn
  cases command with
  | refresh =>
      have inTurn : self.clicked = self.answered.map (·.1) ++
          rest.filterMap Command.switchId? := inTurn
      rw [ProfileClient.take]
      refine { answers with inTurn := ?_, pending := ?_ }
      · cases channel with
        | true => exact inTurn
        | false => exact inTurn
      · cases channel with
        | true => trivial
        | false => trivial
  | switchProfile id =>
      have inTurn : self.clicked = self.answered.map (·.1) ++
          (id :: rest.filterMap Command.switchId?) := inTurn
      have sent : Answers { self with queue := rest, phase := .switching id .sent } :=
        { answers with inTurn := inTurn, pending := trivial }
      rw [ProfileClient.take]
      cases channel with
      | true => exact sent
      | false => exact sent.answer rfl (fun ok => by cases ok)

theorem Answers.serveSwitch (answers : Answers self) {id : String}
    (sent : self.phase = .switching id .sent) (io : SwitchIO) :
    Answers (self.serveSwitch id io) := by
  have same : ∀ call, (CommandPhase.switching id call).switchId? = self.phase.switchId? := by
    intro call
    rw [sent]
    rfl
  rw [ProfileClient.serveSwitch]
  split
  · refine answers.complete _ (same _) ?_ (by simp)
    exact List.mem_append_right _ List.mem_cons_self
  · exact answers.complete _ (same _) trivial (by simp)

theorem Answers.serveList (answers : Answers self) (sent : self.phase = .listing .sent) :
    Answers self.serveList := by
  have same : ∀ call, (CommandPhase.listing call).switchId? = self.phase.switchId? := by
    intro call
    rw [sent]
    rfl
  rw [ProfileClient.serveList]
  split
  · rename_i profiles listed
    refine answers.complete _ (same _) ?_ ?_
    · exact List.mem_append_right _ List.mem_cons_self
    · intro response isListed
      cases isListed
      exact ⟨profiles, listed, rfl⟩
  · exact answers.complete _ (same _) trivial (by simp)

theorem Answers.other (answers : Answers self) (id : String) (io : SwitchIO) :
    Answers (self.other id io) := by
  rw [ProfileClient.other]
  split
  · exact answers.complete _ rfl (answers.pending.mono _) (by simp)
  · exact answers.complete _ rfl (answers.pending.mono _) (by simp)

theorem Answers.return_ (answers : Answers self) {next : ProfileClient manager}
    (taken : self.step .return_ = some next) : Answers next := by
  have pending := answers.pending
  simp only [ProfileClient.step] at taken
  split at taken
  · rename_i id response phase
    cases taken
    rw [phase] at pending
    have answered : Answers (self.answer id response.ok response.message) :=
      answers.answer (by rw [phase]; rfl) fun ok => ⟨response, pending, ok, rfl⟩
    split
    · exact answered.with_phase rfl trivial
    · exact answered
  · rename_i response phase
    cases taken
    rw [phase] at pending
    have idle : Answers { self with phase := .idle } :=
      answers.with_phase (by rw [phase]; rfl) trivial
    refine { idle with received := ?_, queued := ?_, shown := ?_ }
    · intro other member
      rcases List.mem_append.mp member with before | now
      · exact answers.received other before
      · rw [List.mem_singleton.mp now]
        exact pending
    · exact answers.queued.trans (List.IsPrefix.length_le (List.prefix_append _ _))
    · rw [List.take_append_of_le_length answers.queued]
      exact answers.shown
  · cases taken

theorem Answers.setProfiles (answers : Answers self) {next : ProfileClient manager}
    (taken : self.step .setProfiles = some next) : Answers next := by
  simp only [ProfileClient.step] at taken
  split at taken
  · rename_i response queued
    cases taken
    obtain ⟨inQueue, -⟩ := List.getElem?_eq_some_iff.mp queued
    refine { answers with queued := inQueue, shown := ?_ }
    simp only [List.take_add_one, queued]
    intro last isLast
    rw [Option.toList_some, List.getLast?_append] at isLast
    cases isLast
    exact ⟨rfl, rfl⟩
  · cases taken

theorem Answers.step {event : ClientEvent} {next : ProfileClient manager}
    (answers : Answers self) (taken : self.step event = some next) : Answers next := by
  cases event with
  | click id =>
      cases taken
      refine { answers with inTurn := ?_ }
      simp [answers.inTurn, Command.switchId?]
  | refresh =>
      cases taken
      refine { answers with inTurn := ?_ }
      simp [answers.inTurn, Command.switchId?]
  | take channel =>
      simp only [ProfileClient.step] at taken
      split at taken
      · rename_i command rest idle queue
        cases taken
        exact answers.take idle queue channel
      · cases taken
  | serve io =>
      simp only [ProfileClient.step] at taken
      split at taken
      · rename_i id sent
        cases taken
        exact answers.serveSwitch sent io
      · rename_i sent
        cases taken
        exact answers.serveList sent
      · cases taken
  | return_ => exact answers.return_ taken
  | fail message =>
      simp only [ProfileClient.step] at taken
      split at taken
      · rename_i id call phase
        cases taken
        exact answers.answer (by rw [phase]; rfl) (fun ok => by cases ok)
      · rename_i call phase
        cases taken
        exact answers.with_phase (by rw [phase]; rfl) trivial
      · cases taken
  | other id io =>
      cases taken
      exact answers.other id io
  | setProfiles => exact answers.setProfiles taken

end ProfileClient

/-- What a user is told over any run. -/
structure ClickLaw (client : ProfileClient manager) : Prop where
  /-- The results are those of the first clicks, one for each, in their order. -/
  inTurn : client.answered.map (·.1) <+: client.clicked
  /-- With nothing left to do every click has its result. -/
  complete : client.phase = .idle → client.queue = [] →
    client.answered.map (·.1) = client.clicked
  /-- A success is the service's own. -/
  honest : ∀ id message, (id, true, message) ∈ client.answered → ∃ response,
    .switched id response ∈ client.trace ∧ response.ok = true ∧ response.message = message
  /-- The list shown is an answer of the service. -/
  shown : client.handled ≠ 0 →
    ∃ response, .listed response ∈ client.trace ∧ ProfileClient.Shows response client.model
  /-- It is right as long as it is the last answer of the service, and marks the profile that
  is active there. -/
  current : client.handled = client.received.length → ∀ response,
    client.received.getLast? = some response →
      client.trace.getLast? = some (.listed response) →
        ∃ profiles, manager.store.list client.state.fs = .ok profiles ∧
          client.model.rows = profiles.map (fun profile => profileRow (profileToProto profile)) ∧
          client.model.activeId = manager.activeId client.state ∧
          ∀ index, client.model.data index .active = some (.flag true) ↔
            0 ≤ index ∧ (profiles.map (·.id))[index.toNat]? = some (manager.activeId client.state)

/-- Whatever other clients do and whichever calls fail, each click of a user gets one result
in its turn, successes are true, and the profile list shows answers of the service. -/
theorem clicks_are_answered {start : ManagerState manager} {events : List ClientEvent}
    {client : ProfileClient manager}
    (executed : run (fun client => ProfileClient.step client) { state := start } events =
      some client) : ClickLaw client := by
  have answers : client.Answers :=
    run_invariant ProfileClient.Answers (ProfileClient.answers_initial start)
      (fun _ _ _ answers taken => answers.step taken) executed
  constructor
  · rw [answers.inTurn]
    exact List.prefix_append _ _
  · intro idle empty
    rw [answers.inTurn, idle, empty]
    exact (List.append_nil _).symm
  · exact answers.honest
  · intro handled
    have nonempty : client.received.take client.handled ≠ [] := by
      intro nothing
      have length := congrArg List.length nothing
      rw [List.length_take, Nat.min_eq_left answers.queued] at length
      exact handled length
    have last := List.getLast?_eq_some_getLast nonempty
    have member := List.mem_of_mem_take (List.getLast_mem nonempty)
    exact ⟨_, answers.received _ member, answers.shown _ last⟩
  · intro drained response received last
    have shown := answers.shown response (by rw [drained, List.take_length, received]; rfl)
    obtain ⟨profiles, listed, rfl⟩ := answers.upToDate response last
    have rows : client.model.rows =
        profiles.map fun profile => profileRow (profileToProto profile) := by
      rw [shown.1, List.map_map]
      rfl
    refine ⟨profiles, listed, rows, shown.2, fun index => ?_⟩
    rw [ProfileModel.data_active_eq, rows, shown.2, List.map_map]
    rfl

/-- A click that is answered while the second one is still queued. -/
theorem clicks_are_answered_night : ∃ client,
    run (fun client => ProfileClient.step client)
      ({ state := oneProfile } : ProfileClient fakeManager)
      [.click "night", .click "day", .take true,
        .serve ⟨writing (activeDoc "night"), 0⟩, .return_] = some client ∧
    ClickLaw client ∧ client.answered = [("night", true, "ok")] ∧
    client.clicked = ["night", "day"] := by
  obtain ⟨final, switched⟩ := oneProfile_switched
  obtain ⟨sent, clicked, phase, state, answered, texts⟩ : ∃ sent,
      run (fun client => ProfileClient.step client)
        ({ state := oneProfile } : ProfileClient fakeManager)
        [.click "night", .click "day", .take true] = some sent ∧
      sent.phase = .switching "night" .sent ∧ sent.state = oneProfile ∧ sent.answered = [] ∧
      sent.clicked = ["night", "day"] := ⟨_, rfl, rfl, rfl, rfl, rfl⟩
  obtain ⟨served, serve, servedPhase, servedAnswered, servedTexts⟩ : ∃ served,
      sent.step (.serve ⟨writing (activeDoc "night"), 0⟩) = some served ∧
      served.phase = .switching "night" (.served ⟨true, "ok", []⟩) ∧ served.answered = [] ∧
      served.clicked = ["night", "day"] := by
    simp only [ProfileClient.step, phase, ProfileClient.serveSwitch, switchProfile, state,
      switched]
    exact ⟨_, rfl, rfl, answered, texts⟩
  obtain ⟨last, return_, lastAnswered, lastTexts⟩ : ∃ last,
      served.step .return_ = some last ∧ last.answered = [("night", true, "ok")] ∧
      last.clicked = ["night", "day"] := by
    simp only [ProfileClient.step, servedPhase, ProfileClient.answer, servedAnswered]
    exact ⟨_, rfl, rfl, servedTexts⟩
  have executed : run (fun client => ProfileClient.step client)
      ({ state := oneProfile } : ProfileClient fakeManager)
      ([.click "night", .click "day", .take true] ++
        [.serve ⟨writing (activeDoc "night"), 0⟩, .return_]) = some last := by
    rw [run_append, clicked, Option.bind_some, run_cons, serve, Option.bind_some, run_cons,
      return_]
    rfl
  exact ⟨last, executed, clicks_are_answered executed, lastAnswered, lastTexts⟩

end HWPanel.Client
