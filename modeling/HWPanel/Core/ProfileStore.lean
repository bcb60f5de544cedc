import HWPanel.Platform.FileSystem
import HWPanel.Platform.Json
import Mathlib.Data.List.Sort

/-!
# The profile store

`ProfileStore`: one JSON file for each profile and one for the active id, in a
directory. Every write goes to a temporary file that is renamed.
-/

namespace HWPanel.Core

open HWPanel.Library
open HWPanel.Platform

/-- A persisted configuration profile: executor key to desired value. -/
structure Profile where
  id : String
  name : String
  description : String
  settings : SortedMap String String

/-- The store: its directory, on a machine with this path resolution and JSON library. -/
structure ProfileStore where
  dir : Directory
  env : PathEnv
  codec : JsonCodec
  /-- No name in the directory is taken to be too long: that is left to the outcomes of the
  operations. -/
  room : ∀ name, env.opens (dir.file name) = true

/-- What the store throws: `json::type_error`, or the `std::system_error` of a conversion
between narrow and wide strings. -/
inductive StoreError where
  | typeError
  | noConversion
  deriving DecidableEq

/-- The loop over `doc["settings"]`: values that are no strings are skipped. -/
def settingsOf (fields : List (String × Json)) : SortedMap String String :=
  match Json.find? fields "settings" with
  | some (.object settings) =>
      settings.foldl (fun out field =>
        match field.2 with
        | .string text => out.insert field.1 text
        | _ => out) .empty
  | _ => .empty

/-- `ParseProfileFile` once the text is parsed: `none` is the result false. -/
def profileOfDoc (doc : Json) : Except JsonTypeError (Option Profile) :=
  match doc with
  | .object fields =>
      match Json.find? fields "id" with
      | some (.string _) => do
          let id ← doc.value "id" ""
          let name ← doc.value "name" id
          let description ← doc.value "description" ""
          return some ⟨id, name, description, settingsOf fields⟩
      | _ => .ok none
  | _ => .ok none

/-- The fields of the document `Save` writes, in key order. -/
def profileFields (profile : Profile) : List (String × Json) :=
  [("description", .string profile.description),
    ("id", .string profile.id),
    ("name", .string profile.name),
    ("settings", .object (profile.settings.entries.map fun entry =>
      (entry.1, .string entry.2)))]

def profileDoc (profile : Profile) : Json := .object (profileFields profile)

/-- The document `SetActiveId` writes. -/
def activeDoc (id : String) : Json := .object [("active", .string id)]

/-- The outcomes of the file operations of `EnsureDefaults`. -/
structure DefaultsIO where
  save : String → WriteIO
  setActiveId : WriteIO

namespace ProfileStore

variable (self : ProfileStore)

/-- The file `dir_ / name` stands for. -/
def file (name : String) : FullPath :=
  self.env.resolve (self.dir.path.join (.ofText name.toList))

/-- `dir_ / text` of a narrow string, which is converted from the code page. -/
def child (text : String) : Except StoreError Path :=
  match self.env.codePage.decode text with
  | some name => .ok (self.dir.path.join (.ofText name))
  | none => .error .noConversion

/-- A warning with `file.string()` in its text; the file is no profile. -/
def warn (file : Path) : Except StoreError (Option Profile) :=
  if self.env.codePage.prints file then .ok none else .error .noConversion

/-- `ParseProfileFile`: an unreadable, corrupt or malformed file gives false, the latter two
with a warning; a name or description of another type throws. -/
def parseProfileFile (fs : FileSystem self.env) (file : Path) :
    Except StoreError (Option Profile) :=
  match fs.read (self.env.resolve file) with
  | none => .ok none
  | some bytes =>
      match self.codec.parse bytes with
      | none => self.warn file
      | some doc =>
          match profileOfDoc doc with
          | .error _ => .error .typeError
          | .ok none => self.warn file
          | .ok (some profile) => .ok (some profile)

/-- An entry of the directory that `List` reads; a stream is none. -/
def isProfileFile (file : FullPath) : Bool :=
  let name := file.names.getLast?.getD []
  ':' ∉ name && Path.extension name = ".json".toList && name ≠ "active.json".toList

def readAll (fs : FileSystem self.env) :
    List (FullPath × List UInt8) → Except StoreError (List Profile)
  | [] => .ok []
  | entry :: rest =>
      if isProfileFile entry.1 then do
        let profile ← self.parseProfileFile fs (self.dir.entryPath entry.1)
        let others ← readAll fs rest
        return profile.toList ++ others
      else readAll fs rest

def list (fs : FileSystem self.env) : Except StoreError (List Profile) := do
  let profiles ← self.readAll fs (fs.filesIn self.dir.full)
  return profiles.insertionSort fun first second => first.id ≤ second.id

def get (fs : FileSystem self.env) (id : String) : Except StoreError (Option Profile) := do
  let file ← self.child (id ++ ".json")
  self.parseProfileFile fs file

/-- Both names are converted before a file is touched. -/
def save (fs : FileSystem self.env) (profile : Profile) (io : WriteIO) :
    Except StoreError Bool × FileSystem self.env :=
  match self.child (profile.id ++ ".json"), self.child (profile.id ++ ".json.tmp") with
  | .ok file, .ok tmp =>
      let (done, fs) := fs.replace (self.env.resolve tmp) (self.env.resolve file)
        (self.codec.dump (profileDoc profile)) io
      (.ok (done.getD false), fs)
  | _, _ => (.error .noConversion, fs)

def remove (fs : FileSystem self.env) (id : String) (permitted : Bool) :
    Except StoreError Bool × FileSystem self.env :=
  match self.child (id ++ ".json") with
  | .ok file =>
      let (removed, fs) := fs.remove (self.env.resolve file) permitted
      (.ok removed, fs)
  | .error thrown => (.error thrown, fs)

/-- Everything that can be thrown on the way is caught. The name of the file is ASCII text,
which is the same in every code page. -/
def activeId (fs : FileSystem self.env) : String :=
  match fs.read (self.file "active.json") with
  | none => ""
  | some bytes =>
      match self.codec.parse bytes with
      | none => ""
      | some doc =>
          match doc.value "active" "" with
          | .ok id => id
          | .error _ => ""

def setActiveId (fs : FileSystem self.env) (id : String) (io : WriteIO) :
    FileSystem self.env :=
  (fs.replace (self.file "active.json.tmp") (self.file "active.json")
    (self.codec.dump (activeDoc id)) io).2

def balanced : Profile :=
  ⟨"balanced", "Balanced", "Windows default balanced plan", .singleton "power.plan" "balanced"⟩

def performance : Profile :=
  ⟨"performance", "Performance", "High performance plan for gaming/renders",
    .singleton "power.plan" "high"⟩

def powersaver : Profile :=
  ⟨"powersaver", "Power Saver", "Battery friendly plan", .singleton "power.plan" "saver"⟩

def defaults : List Profile := [balanced, performance, powersaver]

/-- The loop of `EnsureDefaults`. -/
def saveAll (io : DefaultsIO) :
    List Profile → FileSystem self.env → Except StoreError (FileSystem self.env)
  | [], fs => .ok fs
  | profile :: rest, fs =>
      match self.save fs profile (io.save profile.id) with
      | (.ok _, fs) => saveAll io rest fs
      | (.error thrown, _) => .error thrown

def ensureDefaults (fs : FileSystem self.env) (io : DefaultsIO) :
    Except StoreError (FileSystem self.env) := do
  let profiles ← self.list fs
  if profiles.isEmpty then
    let saved ← self.saveAll io defaults fs
    if self.activeId saved = "" then
      return self.setActiveId saved "balanced" io.setActiveId
    else return saved
  else return fs

end ProfileStore

end HWPanel.Core
