import HWPanel.Config.ProfileManager
import HWPanel.Library.Scanf

/-!
# The power plan executor

`PowerPlanExecutor` names a plan by an alias or by the text of its GUID, which
`snprintf` writes and `sscanf_s` reads with one format.
-/

namespace HWPanel.Executors

open HWPanel.Config
open HWPanel.Library

@[ext]
structure Guid where
  data1 : UInt32
  data2 : UInt16
  data3 : UInt16
  data4 : Vector UInt8 8
  deriving DecidableEq

def balanced : Guid :=
  ⟨0x381b4222, 0xf694, 0x41f0, #v[0x96, 0x85, 0xff, 0x5b, 0xb2, 0x60, 0xdf, 0x2e]⟩

def highPerformance : Guid :=
  ⟨0x8c5e7fda, 0xe8bf, 0x4a96, #v[0x9a, 0x85, 0xa6, 0xe2, 0x3a, 0x8c, 0x63, 0x5c]⟩

def powerSaver : Guid :=
  ⟨0xa1841308, 0x3541, 0x4fab, #v[0xbc, 0x81, 0xf7, 0x15, 0x56, 0xf2, 0x0b, 0x4a]⟩

/-- `%08x-%04x-%04x-%02x%02x-%02x%02x%02x%02x%02x%02x`. -/
def guidFormat : List Directive :=
  [.hex 8, .literal '-', .hex 4, .literal '-', .hex 4, .literal '-', .hex 2, .hex 2,
    .literal '-', .hex 2, .hex 2, .hex 2, .hex 2, .hex 2, .hex 2]

/-- The fields of a GUID in the order of the format. -/
def Guid.fields (guid : Guid) : List Nat :=
  guid.data1.toNat :: guid.data2.toNat :: guid.data3.toNat :: guid.data4.toList.map UInt8.toNat

/-- `GuidToString`; `snprintf` writes at most 39 characters to its buffer. -/
def guidToString (guid : Guid) : String :=
  String.ofList ((printf guidFormat guid.fields).take 39)

/-- The GUID that the numbers are narrowed to; a number not assigned is zero. -/
def Guid.ofFields (fields : List Nat) : Guid where
  data1 := UInt32.ofNat (fields.getD 0 0)
  data2 := UInt16.ofNat (fields.getD 1 0)
  data3 := UInt16.ofNat (fields.getD 2 0)
  data4 := Vector.ofFn fun i => UInt8.ofNat (fields.getD (3 + i) 0)

def parseGuid (text : String) : Option Guid :=
  let fields := scanf guidFormat (cString text.toList)
  if fields.length ≠ 11 then none else some (Guid.ofFields fields)

def aliasToGuid (name : String) : Option Guid :=
  if name = "balanced" then some balanced
  else if name = "high" then some highPerformance
  else if name = "saver" then some powerSaver
  else none

def guidToAlias (guid : Guid) : String :=
  if guid = balanced then "balanced"
  else if guid = highPerformance then "high"
  else if guid = powerSaver then "saver"
  else guidToString guid

/-- The name check of `Apply`. -/
def resolve (desired : String) : Option Guid := (aliasToGuid desired).or (parseGuid desired)

/-- The power manager of Windows: what `PowerGetActiveScheme` returns and points to, what
`PowerSetActiveScheme` returns for each scheme, and the calls of it so far. -/
structure PowerManager where
  activeScheme : Nat × Option Guid
  setResult : Guid → Nat
  setCalls : List Guid

def errorSuccess : Nat := 0

def PowerManager.setActiveScheme (self : PowerManager) (guid : Guid) : Nat × PowerManager :=
  let called := { self with setCalls := self.setCalls ++ [guid] }
  if self.setResult guid = errorSuccess then
    (errorSuccess, { called with activeScheme := (errorSuccess, some guid) })
  else (self.setResult guid, called)

namespace PowerPlanExecutor

def currentValue (manager : PowerManager) : String :=
  match manager.activeScheme with
  | (code, some active) => if code ≠ errorSuccess then "" else guidToAlias active
  | (_, none) => ""

/-- `Apply` past its name check. -/
def selectScheme (desired : String) (guid : Guid) (manager : PowerManager) :
    ApplyResult × PowerManager :=
  let (code, manager) := manager.setActiveScheme guid
  if code ≠ errorSuccess then
    (⟨false, "PowerSetActiveScheme failed rc=" ++ toString code⟩, manager)
  else (⟨true, "power plan -> " ++ desired⟩, manager)

def apply (desired : String) (manager : PowerManager) : ApplyResult × PowerManager :=
  match resolve desired with
  | none => (⟨false, "unknown power plan: " ++ desired⟩, manager)
  | some guid => selectScheme desired guid manager

end PowerPlanExecutor

def powerPlanExecutor : IExecutor PowerManager where
  key := "power.plan"
  available manager := (true, manager)
  currentValue manager := (PowerPlanExecutor.currentValue manager, manager)
  apply := PowerPlanExecutor.apply

@[simp] theorem Guid.length_fields (guid : Guid) : guid.fields.length = 11 := by
  simp [fields]

theorem Guid.getD_fields (guid : Guid) (i : Nat) (inRange : i < 8) :
    guid.fields.getD (3 + i) 0 = guid.data4[i].toNat := by
  simp [fields, Nat.add_comm 3 i, inRange]

@[simp] theorem Guid.ofFields_fields (guid : Guid) : Guid.ofFields guid.fields = guid := by
  apply Guid.ext
  · exact UInt32.ofNat_toNat
  · exact UInt16.ofNat_toNat
  · exact UInt16.ofNat_toNat
  · apply Vector.ext
    intro i inRange
    simp only [ofFields, Vector.getElem_ofFn, getD_fields guid i inRange, UInt8.ofNat_toNat]

/-- Numbers in range are kept. -/
theorem Guid.fields_ofFields {time mid high : Nat} {bytes : List Nat} (timeFits : time < 2 ^ 32)
    (midFits : mid < 2 ^ 16) (highFits : high < 2 ^ 16) (eight : bytes.length = 8)
    (bytesFit : ∀ byte ∈ bytes, byte < 2 ^ 8) :
    (Guid.ofFields (time :: mid :: high :: bytes)).fields = time :: mid :: high :: bytes := by
  have byteList : (Guid.ofFields (time :: mid :: high :: bytes)).data4.toList.map UInt8.toNat =
      bytes := by
    apply List.ext_getElem
    · simp [eight]
    · intro i left right
      have kept : bytes[i] % 2 ^ 8 = bytes[i] :=
        Nat.mod_eq_of_lt (bytesFit _ (List.getElem_mem right))
      simpa [ofFields, Nat.add_comm 3 i, right] using kept
  rw [fields, byteList]
  simp only [ofFields, List.getD_cons_zero, List.getD_cons_succ,
    UInt32.toNat_ofNat_of_lt' timeFits, UInt16.toNat_ofNat_of_lt' midFits,
    UInt16.toNat_ofNat_of_lt' highFits]

/-- A list of eight, element by element. -/
theorem toList_eight {α : Type} (bytes : Vector α 8) :
    bytes.toList = [bytes[0], bytes[1], bytes[2], bytes[3], bytes[4], bytes[5], bytes[6],
      bytes[7]] := by
  match bytes with
  | ⟨⟨[_, _, _, _, _, _, _, _]⟩, _⟩ => rfl

theorem Guid.fits_fields (guid : Guid) : Fits guidFormat guid.fields := by
  have byteFits (byte : UInt8) : byte.toNat < 16 ^ 2 := byte.toNat_lt
  rw [fields, toList_eight]
  refine .hex (by decide) guid.data1.toNat_lt (.literal '-' ?_)
  refine .hex (by decide) guid.data2.toNat_lt (.literal '-' ?_)
  refine .hex (by decide) guid.data3.toNat_lt (.literal '-' ?_)
  refine .hex (by decide) (byteFits _) (.hex (by decide) (byteFits _) (.literal '-' ?_))
  refine .hex (by decide) (byteFits _) (.hex (by decide) (byteFits _) ?_)
  refine .hex (by decide) (byteFits _) (.hex (by decide) (byteFits _) ?_)
  exact .hex (by decide) (byteFits _) (.hex (by decide) (byteFits _) .nil)

/-- What spells the format of a GUID is read as those fields. -/
theorem parseGuid_of_spells {text : String} {guid : Guid}
    (spelled : Spells guidFormat text.toList guid.fields) : parseGuid text = some guid := by
  have whole : cString text.toList = text.toList := spelled.cString_text (by simp [guidFormat])
  have assigned : scanf guidFormat (cString text.toList) = guid.fields := by
    rw [whole, spelled.scanned]
  simp only [parseGuid, assigned, guid.length_fields, guid.ofFields_fields]
  rfl

/-- The text of a GUID is no alias. -/
theorem aliasToGuid_of_spells {text : String} {values : List Nat}
    (spelled : Spells guidFormat text.toList values) : aliasToGuid text = none := by
  have long : text.toList.length = 36 := spelled.length_text
  have notAlias (name : String) (short : name.toList.length ≠ 36) : text ≠ name := by
    rintro rfl
    exact short long
  rw [aliasToGuid, if_neg (notAlias _ (by decide)), if_neg (notAlias _ (by decide)),
    if_neg (notAlias _ (by decide))]

theorem resolve_of_spells {text : String} {guid : Guid}
    (spelled : Spells guidFormat text.toList guid.fields) : resolve text = some guid := by
  rw [resolve, aliasToGuid_of_spells spelled, parseGuid_of_spells spelled]
  rfl

/-- The buffer holds the whole text of a GUID. -/
theorem spells_guidToString (guid : Guid) :
    Spells guidFormat (guidToString guid).toList guid.fields := by
  have spelled := guid.fits_fields.spells
  have fits : (printf guidFormat guid.fields).length ≤ 39 := by
    rw [spelled.length_text]
    decide
  rw [guidToString, List.take_of_length_le fits, String.toList_ofList]
  exact spelled

end HWPanel.Executors
