import HWPanel.Core.StoreEffects

/-!
# The active id as a reference

Whether the active id names a profile that `Get` finds, and what `Save`, `Remove`,
`SetActiveId` and `EnsureDefaults` do to that.
-/

namespace HWPanel.Core

open HWPanel.Library
open HWPanel.Platform

namespace ProfileStore

variable (store : ProfileStore)

/-- `Get` finds a profile. -/
def Found (fs : FileSystem store.env) (id : String) : Prop :=
  ∃ profile, store.get fs id = .ok (some profile)

/-- The active id is empty or names a profile. -/
def Refers (fs : FileSystem store.env) : Prop :=
  store.activeId fs = "" ∨ store.Found fs (store.activeId fs)

/-- An active id comes from a document `SetActiveId` has written for a plain id. -/
def MarkerWritten (fs : FileSystem store.env) : Prop :=
  store.activeId fs = "" ∨ ∃ id, PlainStem store.env id ∧
    fs.find? (store.file "active.json") = some (store.codec.dump (activeDoc id))

variable {store} {fs : FileSystem store.env}

theorem MarkerWritten.plain (written : store.MarkerWritten fs) (faithful : store.codec.Faithful)
    (set : store.activeId fs ≠ "") :
    PlainStem store.env (store.activeId fs) ∧ fs.find? (store.file "active.json") =
      some (store.codec.dump (activeDoc (store.activeId fs))) := by
  obtain ⟨id, plain, found⟩ := written.resolve_left set
  rw [activeId_of_find faithful found]
  exact ⟨plain, found⟩

/-- An active id that names a profile does not name its own file. -/
theorem MarkerWritten.not_namesMarker (written : store.MarkerWritten fs)
    (faithful : store.codec.Faithful) (set : store.activeId fs ≠ "")
    (found : store.Found fs (store.activeId fs)) : ¬store.NamesMarker (store.activeId fs) := by
  intro marker
  obtain ⟨profile, loaded⟩ := found
  rw [NamesMarker, store.file_active] at marker
  obtain ⟨path, got⟩ := get_of_names marker
  rw [got, ← store.file_active, (written.plain faithful set).2] at loaded
  exact not_some_of_warn ((parseBytes_activeDoc faithful _ path).symm.trans loaded)

section Save

variable {profile : Profile} {io : WriteIO}
  (succeeds : io.Succeeds (store.codec.dump (profileDoc profile)).length)
  (plain : PlainStem store.env profile.id) (faithful : store.codec.Faithful)
include succeeds plain faithful

theorem markerWritten_save (written : store.MarkerWritten fs) :
    store.MarkerWritten (store.save fs profile io).2 := by
  by_cases marker : store.NamesMarker profile.id
  · left
    rw [activeId_save succeeds plain faithful, if_pos marker]
  · rw [MarkerWritten, activeId_save succeeds plain faithful, if_neg marker,
      find?_marker_save succeeds plain fs marker]
    exact written

theorem found_save {id : String} (idPlain : PlainStem store.env id)
    (found : store.Found fs id ∨ id = profile.id) :
    store.Found (store.save fs profile io).2 id := by
  rw [Found, get_save succeeds plain faithful fs idPlain]
  by_cases same : store.SameFile id profile.id
  · rw [if_pos same]
    exact ⟨profile, rfl⟩
  · rw [if_neg same]
    apply found.resolve_right
    rintro rfl
    exact same ((store.sameFile_iff plain).mpr ((store.names_iff plain).mpr rfl))

/-- A profile that is saved again keeps being found, under whatever spelling. -/
theorem refers_save (written : store.MarkerWritten fs) (refers : store.Refers fs) :
    store.Refers (store.save fs profile io).2 := by
  rw [Refers, activeId_save succeeds plain faithful]
  by_cases marker : store.NamesMarker profile.id
  · rw [if_pos marker]
    exact .inl rfl
  · rw [if_neg marker]
    by_cases set : store.activeId fs = ""
    · exact .inl set
    · right
      have idPlain := (written.plain faithful set).1
      exact found_save succeeds plain faithful idPlain (.inl (refers.resolve_left set))

end Save

theorem markerWritten_remove (written : store.MarkerWritten fs) (removed : String) :
    store.MarkerWritten (store.remove fs removed true).2 := by
  by_cases marker : store.NamesMarker removed
  · left
    rw [activeId_remove, if_pos marker]
  · rw [MarkerWritten, activeId_remove, if_neg marker, find?_marker_remove fs marker]
    exact written

/-- `Remove` leaves the active id dangling exactly when it removes the file it names. -/
theorem refers_remove_iff (faithful : store.codec.Faithful) (written : store.MarkerWritten fs)
    (refers : store.Refers fs) (removed : String) :
    store.Refers (store.remove fs removed true).2 ↔
      (store.activeId fs ≠ "" → ¬store.SameFile (store.activeId fs) removed) := by
  rw [Refers, activeId_remove]
  by_cases set : store.activeId fs = ""
  · simp [set]
  · have plain := (written.plain faithful set).1
    have found := refers.resolve_left set
    have notMarker := written.not_namesMarker faithful set found
    by_cases marker : store.NamesMarker removed
    · rw [if_pos marker]
      refine iff_of_true (.inl rfl) ?_
      intro _ same
      rw [sameFile_comm, store.sameFile_iff plain] at same
      obtain ⟨path, converted, names⟩ := same
      obtain ⟨other, otherConverted, otherNames⟩ := marker
      cases converted.symm.trans otherConverted
      exact notMarker ((store.names_iff plain).mpr (names.symm.trans otherNames))
    · rw [if_neg marker, Found, get_remove fs removed plain]
      constructor
      · intro kept _ same
        rw [if_pos same] at kept
        obtain ⟨profile, loaded⟩ := kept.resolve_left set
        cases loaded
      · intro apart
        rw [if_neg (apart set)]
        exact refers

section SetActiveId

variable {id : String} {io : WriteIO}
  (succeeds : io.Succeeds (store.codec.dump (activeDoc id)).length)
  (plain : PlainStem store.env id) (faithful : store.codec.Faithful)
include succeeds plain

theorem markerWritten_setActiveId (fs : FileSystem store.env) :
    store.MarkerWritten (store.setActiveId fs id io) := by
  refine .inr ⟨id, plain, ?_⟩
  rw [find?_setActiveId succeeds, if_pos rfl]

include faithful

/-- The id of a profile that is found is a reference unless writing it replaces the very
profile. -/
theorem refers_setActiveId_iff (found : store.Found fs id) :
    store.Refers (store.setActiveId fs id io) ↔ ¬store.NamesMarker id := by
  rw [Refers, activeId_setActiveId faithful fs succeeds, Found,
    get_setActiveId_of_plain succeeds faithful fs plain]
  constructor
  · intro refers marker
    rw [if_pos marker] at refers
    cases refers with
    | inl empty =>
        have short : id.toList.length ≠ 6 := by
          rw [empty]
          decide
        exact store.not_namesMarker_of_length plain short marker
    | inr loaded =>
        obtain ⟨profile, loaded⟩ := loaded
        exact not_some_of_warn loaded
  · intro apart
    rw [if_neg apart]
    exact .inr found

end SetActiveId

/-- The file operations of an `EnsureDefaults` succeed, and the built-in ids are no device
names. -/
structure Seeds (store : ProfileStore) (io : DefaultsIO) : Prop where
  save : ∀ profile ∈ defaults,
    (io.save profile.id).Succeeds (store.codec.dump (profileDoc profile)).length
  setActiveId : io.setActiveId.Succeeds (store.codec.dump (activeDoc "balanced")).length
  plain : ∀ profile ∈ defaults, PlainStem store.env profile.id

section EnsureDefaults

variable {io : DefaultsIO} (faithful : store.codec.Faithful)
include faithful

/-- Saving a list of profiles keeps what each save keeps, and all of them are found. -/
theorem foldl_save_keeps {profiles : List Profile}
    (saves : ∀ profile ∈ profiles,
      (io.save profile.id).Succeeds (store.codec.dump (profileDoc profile)).length)
    (plain : ∀ profile ∈ profiles, PlainStem store.env profile.id)
    (written : store.MarkerWritten fs) :
    store.MarkerWritten (profiles.foldl (fun fs profile =>
        (store.save fs profile (io.save profile.id)).2) fs) ∧
      (store.Refers fs → store.Refers (profiles.foldl (fun fs profile =>
        (store.save fs profile (io.save profile.id)).2) fs)) ∧
      ∀ id, PlainStem store.env id → store.Found fs id ∨ id ∈ profiles.map (·.id) →
        store.Found (profiles.foldl (fun fs profile =>
          (store.save fs profile (io.save profile.id)).2) fs) id := by
  induction profiles generalizing fs with
  | nil =>
      refine ⟨written, fun refers => refers, ?_⟩
      intro id _ found
      exact found.resolve_right List.not_mem_nil
  | cons profile rest ih =>
      have succeeds := saves profile List.mem_cons_self
      have profilePlain := plain profile List.mem_cons_self
      obtain ⟨writtenRest, refersRest, foundRest⟩ := ih
        (fun other member => saves other (List.mem_cons_of_mem _ member))
        (fun other member => plain other (List.mem_cons_of_mem _ member))
        (markerWritten_save succeeds profilePlain faithful written)
      refine ⟨writtenRest, ?_, ?_⟩
      · intro refers
        exact refersRest (refers_save succeeds profilePlain faithful written refers)
      · intro id idPlain found
        apply foundRest id idPlain
        rw [List.map_cons, List.mem_cons, ← or_assoc] at found
        exact found.imp_left (found_save succeeds profilePlain faithful idPlain)

theorem ensureDefaults_keeps {seeded : FileSystem store.env} (seeds : store.Seeds io)
    (written : store.MarkerWritten fs) (ensured : store.ensureDefaults fs io = .ok seeded) :
    store.MarkerWritten seeded ∧ (store.Refers fs → store.Refers seeded) := by
  obtain ⟨writtenSaved, refersSaved, foundSaved⟩ :=
    foldl_save_keeps faithful seeds.save seeds.plain written
  cases listed : store.list fs with
  | error raised =>
      rw [ensureDefaults, listed] at ensured
      cases ensured
  | ok profiles =>
      rw [ensureDefaults_of_list seeds.plain listed] at ensured
      cases ensured
      split
      next =>
        rw [seededFiles]
        split
        next =>
          have plain := seeds.plain balanced List.mem_cons_self
          refine ⟨markerWritten_setActiveId seeds.setActiveId plain _, ?_⟩
          intro _
          apply (refers_setActiveId_iff seeds.setActiveId plain faithful ?_).mpr
          · exact store.not_namesMarker_of_length plain (by decide)
          · exact foundSaved "balanced" plain (.inr List.mem_cons_self)
        next => exact ⟨writtenSaved, refersSaved⟩
      next => exact ⟨written, fun refers => refers⟩

end EnsureDefaults

/-- There is no active id in an empty directory. -/
theorem activeId_of_empty (empty : fs.filesIn store.dir.full = []) : store.activeId fs = "" := by
  apply activeId_of_absent
  rw [store.file_active]
  exact store.find?_of_empty empty _

end ProfileStore

end HWPanel.Core
