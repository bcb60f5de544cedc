import HWPanel.Core.ProfileMap
import HWPanel.Platform.JsonText

/-!
# The installed store

`ProfilesDir` of a default installation, on a machine that folds ASCII letters only and
has UTF-8 as its code page.
-/

namespace HWPanel.Core

open HWPanel.Platform

theorem not_special_of_letter {c : Char} (low : 65 ≤ c.toNat) (high : c.toNat ≤ 90) :
    isSpecial c = false := by
  rw [← Bool.not_eq_true]
  intro special
  simp only [isSpecial, isReserved, Bool.or_eq_true, decide_eq_true_iff, List.mem_cons,
    List.not_mem_nil, or_false] at special
  rcases special with (control | listed) | listed
  · omega
  · rcases listed with rfl | rfl | rfl | rfl | rfl | rfl | rfl | rfl <;> revert low high <;>
      decide
  · rcases listed with rfl | rfl | rfl <;> revert low high <;> decide

theorem toUpper_special (c : Char) (special : isSpecial c.toUpper = true) : c.toUpper = c := by
  by_cases letter : 'a'.val ≤ c.val ∧ c.val ≤ 'z'.val
  · have low : 97 ≤ c.val.toNat := UInt32.le_iff_toNat_le.mp letter.1
    have high : c.val.toNat ≤ 122 := UInt32.le_iff_toNat_le.mp letter.2
    have upper : c.toUpper.val = c.val + ('A'.val - 'a'.val) := by
      delta Char.toUpper
      rw [dif_pos letter]
    have shifted : c.toUpper.toNat = c.val.toNat - 32 := by
      have step : ('A'.val - 'a'.val : UInt32).toNat = 4294967264 := by decide
      rw [Char.toNat, upper, UInt32.toNat_add, step]
      omega
    rw [not_special_of_letter (by omega) (by omega)] at special
    cases special
  · exact dif_neg letter

/-- The path resolution of the service process. -/
def serviceEnv : PathEnv where
  codePage :=
    { decode text := some text.toList
      decode_ascii _ _ := rfl
      encodes _ := true }
  upcase := Char.toUpper
  upcase_ascii _ _ := rfl
  upcase_special := toUpper_special
  currentDirectory _ := ["Windows".toList, "System32".toList]
  currentDrive := "C:".toList
  mount path :=
    match path.relative with
    | [drive, ':'] :: names => ⟨[drive, ':'], normalise names⟩
    | names => ⟨path.rootName, normalise names⟩
  stream drive names := ⟨drive, names⟩
  opens _ := true
  opens_congr _ _ _ _ := rfl
  devices := ["CON", "PRN", "AUX", "NUL", "COM1", "COM2", "COM3", "COM4", "LPT1", "LPT2"].map
    String.toList
  active_free := by decide
  input names := if names = ["NUL".toList] then some [] else none

def profilesDir : Directory where
  drive := 'C'
  names := ["ProgramData".toList, "HWPanel".toList, "profiles".toList]
  normal := by decide
  named := by decide

def installed : ProfileStore := ⟨profilesDir, serviceEnv, JsonText.codec, fun _ => rfl⟩

theorem plainStem_installed {stem : String} (plain : PlainText stem.toList)
    (notDevice : ¬ installed.env.IsDevice stem.toList) : PlainStem installed.env stem :=
  ⟨plain, notDevice, rfl, rfl⟩

/-- Every file operation on this document succeeds. -/
def writing (doc : Json) : WriteIO := ⟨true, (installed.codec.dump doc).length, true⟩

theorem writing_succeeds (doc : Json) :
    (writing doc).Succeeds (installed.codec.dump doc).length :=
  ⟨rfl, le_rfl, rfl⟩

def seededIds : Set String := {"balanced", "performance", "powersaver"}

theorem seededIds_plain : PlainIds installed.env seededIds := by
  constructor
  · rintro id (rfl | rfl | rfl) <;> apply plainStem_installed <;> decide
  · rintro id (rfl | rfl | rfl) <;> decide
  · rintro id (rfl | rfl | rfl) other (rfl | rfl | rfl) <;> decide
  · rintro id (rfl | rfl | rfl) <;> decide

/-- `EnsureDefaults` with nothing going wrong. -/
def seeding : DefaultsIO where
  save id := match ProfileStore.defaults.find? (·.id = id) with
    | some profile => writing (profileDoc profile)
    | none => writing .null
  setActiveId := writing (activeDoc "balanced")

theorem seeding_permitted : installed.Permits seededIds (.ensureDefaults seeding) := by
  refine ⟨?_, writing_succeeds _⟩
  intro profile membership
  simp only [ProfileStore.defaults, List.mem_cons, List.not_mem_nil, or_false] at membership
  rcases membership with rfl | rfl | rfl
  · exact ⟨by simp [seededIds, ProfileStore.balanced], writing_succeeds _⟩
  · exact ⟨by simp [seededIds, ProfileStore.performance], writing_succeeds _⟩
  · exact ⟨by simp [seededIds, ProfileStore.powersaver], writing_succeeds _⟩

end HWPanel.Core
