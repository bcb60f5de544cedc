import HWPanel.Config.ListedSwitch

/-!
# What the event bus is told about switches

`SwitchTo` announces each switch whose profile it could load, once and with its verdict,
however many executors it had to roll back; a run of switches leaves the announcements in
the order of its calls, the last of those applied being that of the active profile.
-/

namespace HWPanel.Config

open HWPanel.Core
open HWPanel.Library
open HWPanel.Platform

/-- A call of `SwitchTo`: what the store has for its id, and what it returns. -/
structure SwitchRecord where
  id : String
  now : Int
  found : Except StoreError (Option Profile)
  returned : Except StoreError SwitchResult

/-- The call left the profile in force. -/
def SwitchRecord.applied (record : SwitchRecord) : Bool :=
  match record.returned with
  | .ok result => result.ok
  | .error _ => false

/-- What the event bus is told for a call. -/
inductive SwitchRecord.Announces (record : SwitchRecord) : List EventMessage → Prop
  | unread (missing : ∀ profile, record.found ≠ .ok (some profile)) : Announces record []
  | applied (profile : Profile) (found : record.found = .ok (some profile))
      (returned : record.returned = .ok ⟨true, "ok", []⟩) :
      Announces record [⟨record.now, "info", "Profile applied", profile.name⟩]
  | failed (profile : Profile) (found : record.found = .ok (some profile))
      (message text : String) (keys : List String)
      (returned : record.returned = .ok ⟨false, message, keys⟩)
      (told : text = message ∨ ∃ setting ∈ profile.settings.entries,
        text = setting.1 ++ ": " ++ message ++ " (rolled back)") :
      Announces record [⟨record.now, "error", "Profile switch failed", text⟩]

/-- The id of the last profile that was applied. -/
def lastApplied (active : String) (records : List SwitchRecord) : String :=
  records.foldl (fun active record => if record.applied then record.id else active) active

namespace ProfileManager

variable {S : Type} {self : ProfileManager S}

/-- The records of a run of calls. -/
def switchRecords (self : ProfileManager S) :
    List (String × SwitchIO) → ManagerState self → List SwitchRecord
  | [], _ => []
  | (id, io) :: rest, state =>
      ⟨id, io.now, self.store.get state.fs id, (self.switchTo id io state).1⟩ ::
        switchRecords self rest (self.switchTo id io state).2

/-- A rollback is silent. -/
@[simp] theorem rollBack_events (applied : List (Fin self.executors.length × String))
    (state : ManagerState self) : (self.rollBack applied state).2.events = state.events := by
  induction applied generalizing state with
  | nil => rfl
  | cons entry rest ih =>
      rw [rollBack]
      exact ih _

/-- A failure exit announces the failure. -/
theorem abort_events (now : Int) (message event : String)
    (applied : List (Fin self.executors.length × String)) (state : ManagerState self) :
    (self.abort now message event applied state).2.events =
      state.events.map (· ++ [⟨now, "error", "Profile switch failed", event⟩]) := by
  have silent := rollBack_events applied.reverse state
  rw [abort, ← silent]
  rfl

/-- The loop is silent until it fails. -/
inductive LoopAnnounces (now : Int) (settings : List (String × String))
    (state : ManagerState self) : Option SwitchResult × ManagerState self → Prop
  | done (final : ManagerState self) (silent : final.events = state.events) :
      LoopAnnounces now settings state (none, final)
  | failed (message text : String) (keys : List String) (final : ManagerState self)
      (told : text = message ∨ ∃ setting ∈ settings,
        text = setting.1 ++ ": " ++ message ++ " (rolled back)")
      (events : final.events =
        state.events.map (· ++ [⟨now, "error", "Profile switch failed", text⟩])) :
      LoopAnnounces now settings state (some ⟨false, message, keys⟩, final)

/-- A setting that is applied is not announced. -/
theorem LoopAnnounces.cons {now : Int} {setting : String × String}
    {rest : List (String × String)} {state next : ManagerState self}
    {outcome : Option SwitchResult × ManagerState self}
    (later : LoopAnnounces now rest next outcome) (silent : next.events = state.events) :
    LoopAnnounces now (setting :: rest) state outcome := by
  cases later with
  | done final same => exact .done final (same.trans silent)
  | failed message text keys final told events =>
      rw [silent] at events
      refine .failed message text keys final ?_ events
      rcases told with same | ⟨other, membership, same⟩
      · exact .inl same
      · exact .inr ⟨other, List.mem_cons_of_mem _ membership, same⟩

theorem loopAnnounces_abort (now : Int) {message text : String}
    {settings : List (String × String)} {state next : ManagerState self}
    (applied : List (Fin self.executors.length × String))
    (told : text = message ∨ ∃ setting ∈ settings,
      text = setting.1 ++ ": " ++ message ++ " (rolled back)")
    (silent : next.events = state.events) :
    LoopAnnounces now settings state (self.abort now message text applied next) := by
  have events := abort_events now message text applied next
  rw [silent] at events
  exact .failed message text _ _ told events

theorem loopAnnounces_applySettings (now : Int) (settings : List (String × String))
    (applied : List (Fin self.executors.length × String)) (state : ManagerState self) :
    LoopAnnounces now settings state (self.applySettings now settings applied state) := by
  induction settings generalizing applied state with
  | nil => exact .done state rfl
  | cons setting rest ih =>
      obtain ⟨key, desired⟩ := setting
      rw [applySettings]
      cases self.findExecutor key with
      | none => exact loopAnnounces_abort now applied (.inl rfl) rfl
      | some i =>
          simp only
          cases (self.executors.get i).attempt desired (state.objects i) with
          | unavailable object => exact loopAnnounces_abort now applied (.inl rfl) rfl
          | failed message object =>
              exact loopAnnounces_abort now applied
                (.inr ⟨(key, desired), List.mem_cons_self, rfl⟩) rfl
          | applied previous object => exact (ih _ _).cons rfl

/-- What one call tells the event bus. -/
theorem switchTo_announces (id : String) (io : SwitchIO) (state : ManagerState self) :
    ∃ announced,
      (self.switchTo id io state).2.events = state.events.map (· ++ announced) ∧
      SwitchRecord.Announces
        ⟨id, io.now, self.store.get state.fs id, (self.switchTo id io state).1⟩ announced := by
  have nothing : state.events = state.events.map (· ++ []) := by
    simp
  rw [switchTo]
  cases found : self.store.get state.fs id with
  | error thrown =>
      exact ⟨[], nothing, .unread fun profile same => by cases same⟩
  | ok answer =>
      cases answer with
      | none => exact ⟨[], nothing, .unread fun profile same => by cases same⟩
      | some profile =>
          have loop := loopAnnounces_applySettings io.now profile.settings.entries [] state
          simp only
          generalize self.applySettings io.now profile.settings.entries [] state = outcome
            at loop ⊢
          cases loop with
          | done final silent =>
              refine ⟨[⟨io.now, "info", "Profile applied", profile.name⟩], ?_,
                .applied profile rfl rfl⟩
              rw [← silent]
              rfl
          | failed message text keys final told events =>
              exact ⟨_, events, .failed profile rfl message text keys rfl told⟩

theorem switchAll_announces (calls : List (String × SwitchIO)) (state : ManagerState self) :
    ∃ announced, List.Forall₂ SwitchRecord.Announces (self.switchRecords calls state) announced ∧
      (self.switchAll calls state).events = state.events.map (· ++ announced.flatten) := by
  induction calls generalizing state with
  | nil => exact ⟨[], .nil, by simp [switchAll]⟩
  | cons call rest ih =>
      obtain ⟨id, io⟩ := call
      obtain ⟨first, events, announces⟩ := switchTo_announces id io state
      obtain ⟨later, announcesLater, eventsLater⟩ := ih (self.switchTo id io state).2
      refine ⟨first :: later, .cons announces announcesLater, ?_⟩
      rw [switchAll, eventsLater, events, Option.map_map, List.flatten_cons]
      simp [Function.comp_def]

/-- The result of a recorded call. -/
theorem applied_iff_succeeded {id : String} {io : SwitchIO} {state : ManagerState self}
    {found : Except StoreError (Option Profile)} :
    SwitchRecord.applied ⟨id, io.now, found, (self.switchTo id io state).1⟩ = true ↔
      Succeeded state id io := by
  rw [SwitchRecord.applied, Succeeded]
  cases (self.switchTo id io state).1 with
  | error thrown => simp
  | ok result => simp

theorem switchAll_activeId (faithful : self.store.codec.Faithful)
    {calls : List (String × SwitchIO)} (persists : ∀ call ∈ calls, self.Persists call.1 call.2)
    (state : ManagerState self) :
    self.activeId (self.switchAll calls state) =
      lastApplied (self.activeId state) (self.switchRecords calls state) := by
  induction calls generalizing state with
  | nil => rfl
  | cons call rest ih =>
      obtain ⟨id, io⟩ := call
      obtain ⟨first, later⟩ := List.forall_mem_cons.mp persists
      have files := switchTo_fs state id io
      have active : self.activeId (self.switchTo id io state).2 =
          if SwitchRecord.applied
              ⟨id, io.now, self.store.get state.fs id, (self.switchTo id io state).1⟩
            then id else self.activeId state := by
        split
        case isTrue applied =>
          obtain ⟨result, returned, ok⟩ := applied_iff_succeeded.mp applied
          exact activeId_of_persisted faithful first returned ok
        case isFalse refused =>
          rw [activeId, files.2 (fun succeeded => refused (applied_iff_succeeded.mpr succeeded))]
          rfl
      rw [switchAll, ih later, switchRecords, active]
      rfl

/-- Each call of a run that could load its profile is announced once, in order and with its
verdict, and no other is; the active profile is the last one announced as applied. -/
theorem switches_announced (faithful : self.store.codec.Faithful)
    (calls : List (String × SwitchIO)) (persists : ∀ call ∈ calls, self.Persists call.1 call.2)
    (initial : ManagerState self) :
    (∃ announced,
      List.Forall₂ SwitchRecord.Announces (self.switchRecords calls initial) announced ∧
      (self.switchAll calls initial).events = initial.events.map (· ++ announced.flatten)) ∧
    self.activeId (self.switchAll calls initial) =
      lastApplied (self.activeId initial) (self.switchRecords calls initial) :=
  ⟨switchAll_announces calls initial, switchAll_activeId faithful persists initial⟩

/-- A profile is applied. -/
theorem switches_announced_night :
    (fakeManager.switchAll [("night", ⟨writing (activeDoc "night"), 0⟩)] acceptingPlan).events =
        some [⟨0, "info", "Profile applied", "Night"⟩] ∧
      fakeManager.activeId (fakeManager.switchAll
        [("night", ⟨writing (activeDoc "night"), 0⟩)] acceptingPlan) = "night" := by
  have loaded : fakeManager.store.get acceptingPlan.fs "night" = .ok (some night) := night_loaded
  have returned : (fakeManager.switchTo "night" ⟨writing (activeDoc "night"), 0⟩
      acceptingPlan).1 = .ok ⟨true, "ok", []⟩ := by
    rw [switchTo, loaded]
    rfl
  have records : fakeManager.switchRecords [("night", ⟨writing (activeDoc "night"), 0⟩)]
      acceptingPlan = [⟨"night", 0, .ok (some night), .ok ⟨true, "ok", []⟩⟩] := by
    rw [switchRecords, loaded, returned]
    rfl
  have faithful : fakeManager.store.codec.Faithful := JsonText.codec_faithful
  have persists : fakeManager.Persists "night" ⟨writing (activeDoc "night"), 0⟩ :=
    writing_succeeds (activeDoc "night")
  obtain ⟨⟨announced, announces, events⟩, active⟩ := switches_announced faithful
    [("night", ⟨writing (activeDoc "night"), 0⟩)] (List.forall_mem_singleton.mpr persists)
    acceptingPlan
  rw [records] at announces active
  cases announces with
  | cons first rest =>
      cases rest
      cases first with
      | unread missing => exact absurd rfl (missing night)
      | applied profile found _ =>
          cases found
          exact ⟨events, active⟩
      | failed profile found message text keys failed told => cases failed

end ProfileManager

end HWPanel.Config
