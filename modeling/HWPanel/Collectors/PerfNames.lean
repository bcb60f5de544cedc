import HWPanel.Library.CStrings
import HWPanel.Library.Scanf

/-!
# The Perflib name table

`EnglishNameToIndex` walks the `Counter` value of the registry, a list of index and name
strings, with a pointer that it moves past two terminators in each pass. The scan ends
inside the buffer for any content, and finds the first name of a table of pairs.
-/

namespace HWPanel.Collectors

open HWPanel.Library

/-- `wchar_t`: a UTF-16 code unit. -/
abbrev WChar := UInt16

abbrev WString := List WChar

/-- The character of a code unit outside the surrogates. -/
def WChar.toChar (c : WChar) : Char := Char.ofNat c.toNat

/-- `std::wcstoul` with base ten, to a 32-bit `unsigned long`. -/
def wcstoul (text : WString) : Nat := strtoul 32 (text.map WChar.toChar)

/-- A `std::wstring` of that length after a call that was told the length and wrote to its
data, not past it. -/
def filled (length : Nat) (written : WString) : WString :=
  written.take length ++ List.replicate (length - written.length) 0

def regMultiSz : Nat := 7

/-- What the registry answers to the calls of `EnglishNameToIndex`: the code of
`RegOpenKeyExW`, the code, the type and the bytes of the first query, and the code, the
bytes written and the bytes counted of the second. -/
structure Perflib where
  openCode : Nat
  sizeCode : Nat
  type : Nat
  sizeBytes : Nat
  dataCode : Nat
  data : List UInt8
  dataBytes : Nat

/-- The characters in these bytes, the last of them maybe half written. -/
def wideChars : List UInt8 → WString
  | low :: high :: rest => UInt16.ofNat (low.toNat + 256 * high.toNat) :: wideChars rest
  | [low] => [UInt16.ofNat low.toNat]
  | [] => []

/-- A `std::wstring` of that length after these bytes were written to its data; `none` where
they do not fit: the second query is passed the odd byte that `bytes / sizeof(wchar_t)`
cuts off, which would go to the terminator. -/
def overwritten (length : Nat) (bytes : List UInt8) : Option WString :=
  if bytes.length ≤ 2 * length then some (filled length (wideChars bytes)) else none

/-- The bytes allocated for the second query. -/
def Perflib.allocated (self : Perflib) : Nat := 2 * (self.sizeBytes / 2)

/-- The second query writes and counts no more than that. -/
def Perflib.Fits (self : Perflib) : Prop :=
  self.data.length ≤ self.allocated ∧ self.dataBytes ≤ self.allocated

variable (towlower : WChar → WChar)

/-- The comparison loop: the same length, and the same characters in lower case. -/
def sameName (englishName name : WString) : Bool :=
  name.length = englishName.length &&
    (name.zip englishName).all fun pair => towlower pair.1 = towlower pair.2

/-- The scan from position `p` to `last`; `none` is a read outside the buffer, and the
inner `none` no entry. -/
def scanTable (buf : WString) (last : Nat) (englishName : WString) (p : Nat) :
    Option (Option Nat) :=
  if p < last then
    (cell 0 buf p).bind fun c =>
      if c = 0 then some none
      else (readString 0 buf p).bind fun index =>
        let p := p + index.length + 1
        if last ≤ p then some none
        else (cell 0 buf p).bind fun c =>
          if c = 0 then some none
          else (readString 0 buf p).bind fun name =>
            let p := p + name.length + 1
            if sameName towlower englishName name then some (some (wcstoul index))
            else scanTable buf last englishName p
  else some none
termination_by last - p

/-- `EnglishNameToIndex`; `none` is a write or a read outside the buffer. -/
def Perflib.englishNameToIndex (self : Perflib) (englishName : WString) : Option (Option Nat) :=
  if self.openCode ≠ 0 then some none
  else if self.sizeCode ≠ 0 ∨ self.type ≠ regMultiSz ∨ self.sizeBytes < 2 * 2 then some none
  else if self.dataCode ≠ 0 then some none
  else (overwritten (self.sizeBytes / 2) self.data).bind fun buf =>
    scanTable towlower buf (self.dataBytes / 2) englishName 0

@[simp] theorem length_filled (length : Nat) (written : WString) :
    (filled length written).length = length := by
  rw [filled, List.length_append, List.length_take, List.length_replicate]
  omega

variable {towlower}

/-- A read inside the buffer gives what follows an answer. -/
theorem bind_isSome {α β : Type} {read : Option α} {next : α → Option β}
    (inside : read.isSome) (answers : ∀ value, (next value).isSome) :
    (read.bind next).isSome := by
  obtain ⟨value, found⟩ := Option.isSome_iff_exists.mp inside
  rw [found, Option.bind_some]
  exact answers value

/-- The scan ends with an answer when it is not told more characters than there are. -/
theorem scanTable_isSome {buf : WString} {last : Nat} (fits : last ≤ buf.length)
    (englishName : WString) (p : Nat) : (scanTable towlower buf last englishName p).isSome := by
  induction remaining : last - p using Nat.strong_induction_on generalizing p with
  | _ count ih =>
      have inside {position : Nat} (before : position < last) :
          (cell 0 buf position).isSome ∧ (readString 0 buf position).isSome :=
        ⟨(cell_isSome_iff 0 buf position).mpr (by omega), readString_isSome 0 (by omega)⟩
      rw [scanTable]
      split
      case isFalse => rfl
      case isTrue before =>
        refine bind_isSome (inside before).1 fun c => ?_
        split
        · rfl
        · refine bind_isSome (inside before).2 fun index => ?_
          simp only
          split
          case isTrue => rfl
          case isFalse notLast =>
            have before := Nat.lt_of_not_le notLast
            refine bind_isSome (inside before).1 fun c => ?_
            split
            · rfl
            · refine bind_isSome (inside before).2 fun name => ?_
              split
              · rfl
              · exact ih _ (by omega) _ rfl

theorem Perflib.englishNameToIndex_isSome (self : Perflib) (fits : self.Fits)
    (englishName : WString) :
    (self.englishNameToIndex towlower englishName).isSome := by
  have room : self.data.length ≤ 2 * (self.sizeBytes / 2) := fits.1
  have counted : self.dataBytes ≤ 2 * (self.sizeBytes / 2) := fits.2
  rw [englishNameToIndex]
  split
  · rfl
  · split
    · rfl
    · split
      · rfl
      · rw [overwritten, if_pos room, Option.bind_some]
        apply scanTable_isSome
        rw [length_filled]
        exact Nat.div_le_of_le_mul counted

/-! ## A table of pairs -/

/-- The `REG_MULTI_SZ` of pairs of an index and a name. -/
def encodePairs (pairs : List (WString × WString)) : WString :=
  joinStrings 0 (pairs.flatMap fun pair => [pair.1, pair.2]) ++ [0]

/-- The bytes of these characters. -/
def wideBytes (text : WString) : List UInt8 :=
  text.flatMap fun c => [UInt8.ofNat (c.toNat % 256), UInt8.ofNat (c.toNat / 256)]

@[simp] theorem length_wideBytes (text : WString) : (wideBytes text).length = 2 * text.length := by
  induction text with
  | nil => rfl
  | cons c text ih =>
      show (wideBytes text).length + 2 = 2 * (text.length + 1)
      omega

@[simp] theorem wideChars_wideBytes (text : WString) : wideChars (wideBytes text) = text := by
  induction text with
  | nil => rfl
  | cons c text ih =>
      have bound := c.toNat_lt
      have low : (UInt8.ofNat (c.toNat % 256)).toNat = c.toNat % 256 := by simp
      have high : (UInt8.ofNat (c.toNat / 256)).toNat = c.toNat / 256 :=
        UInt8.toNat_ofNat_of_lt (Nat.div_lt_of_lt_mul bound)
      have whole : UInt16.ofNat (c.toNat % 256 + 256 * (c.toNat / 256)) = c := by
        rw [Nat.mod_add_div, UInt16.ofNat_toNat]
      show UInt16.ofNat ((UInt8.ofNat (c.toNat % 256)).toNat +
        256 * (UInt8.ofNat (c.toNat / 256)).toNat) :: wideChars (wideBytes text) = c :: text
      rw [ih, low, high, whole]

/-- The registry with such a table. -/
def Perflib.ofPairs (pairs : List (WString × WString)) : Perflib where
  openCode := 0
  sizeCode := 0
  type := regMultiSz
  sizeBytes := 2 * (encodePairs pairs).length
  dataCode := 0
  data := wideBytes (encodePairs pairs)
  dataBytes := 2 * (encodePairs pairs).length

/-- A string of a table: neither empty nor with a NUL in it. -/
def IsEntry (text : WString) : Prop := text ≠ [] ∧ 0 ∉ text

@[simp] theorem encodePairs_cons (pair : WString × WString) (pairs : List (WString × WString)) :
    encodePairs (pair :: pairs) = pair.1 ++ 0 :: (pair.2 ++ 0 :: encodePairs pairs) := by
  simp [encodePairs]

/-- What a string at a position reads as, and its first character. -/
theorem reads_entry {text : WString} (entry : IsEntry text) (front back : WString) :
    (∃ c, cell 0 (front ++ (text ++ 0 :: back)) front.length = some c ∧ c ≠ 0) ∧
      readString 0 (front ++ (text ++ 0 :: back)) front.length = some text := by
  refine ⟨?_, readString_append 0 entry.2 front back⟩
  cases text with
  | nil => exact absurd rfl entry.1
  | cons c text =>
      exact ⟨c, cell_append 0 front c _, fun same => entry.2 (same ▸ List.mem_cons_self)⟩

/-- The comparison loop finds the names that agree in lower case. -/
theorem sameName_eq (englishName name : WString) :
    sameName towlower englishName name =
      decide (name.map towlower = englishName.map towlower) := by
  rw [Bool.eq_iff_iff, decide_eq_true_eq, sameName, Bool.and_eq_true, decide_eq_true_eq]
  induction name generalizing englishName with
  | nil => cases englishName with
    | nil => simp
    | cons d english => simp
  | cons c name ih =>
      cases englishName with
      | nil => simp
      | cons d english =>
          simp only [List.length_cons, List.zip_cons_cons, List.all_cons, Bool.and_eq_true,
            decide_eq_true_eq, List.map_cons, List.cons.injEq, ← ih english]
          constructor
          · rintro ⟨length, lower, others⟩
            exact ⟨lower, Nat.succ.inj length, others⟩
          · rintro ⟨lower, length, others⟩
            exact ⟨congrArg Nat.succ length, lower, others⟩

/-- The scan from the end of what it has passed finds the first pair of that name. -/
theorem scanTable_encodePairs {pairs : List (WString × WString)}
    (entries : ∀ pair ∈ pairs, IsEntry pair.1 ∧ IsEntry pair.2) (englishName front : WString) :
    scanTable towlower (front ++ encodePairs pairs) (front ++ encodePairs pairs).length
        englishName front.length =
      some ((pairs.find? fun pair => sameName towlower englishName pair.2).map
        fun pair => wcstoul pair.1) := by
  induction pairs generalizing front with
  | nil =>
      have stop : cell 0 (front ++ encodePairs []) front.length = some 0 :=
        cell_append 0 front 0 []
      rw [scanTable, stop]
      simp
  | cons pair pairs ih =>
      obtain ⟨index, name⟩ := pair
      obtain ⟨indexEntry, nameEntry⟩ := entries _ List.mem_cons_self
      -- The buffer again from the name on, and from the next pair on.
      have atName : front ++ encodePairs ((index, name) :: pairs) =
          (front ++ index ++ [0]) ++ (name ++ 0 :: encodePairs pairs) := by
        simp [encodePairs_cons]
      have atNext : front ++ encodePairs ((index, name) :: pairs) =
          (front ++ index ++ [0] ++ name ++ [0]) ++ encodePairs pairs := by
        simp [encodePairs_cons]
      have nameAt : front.length + index.length + 1 = (front ++ index ++ [0]).length := by
        simp only [List.length_append, List.length_singleton]
      have nextAt : (front ++ index ++ [0]).length + name.length + 1 =
          (front ++ index ++ [0] ++ name ++ [0]).length := by
        simp only [List.length_append, List.length_singleton]
      have before : front.length < (front ++ encodePairs ((index, name) :: pairs)).length := by
        simp only [encodePairs_cons, List.length_append, List.length_cons]
        omega
      have inside : ¬(front ++ encodePairs ((index, name) :: pairs)).length ≤
          (front ++ index ++ [0]).length := by
        rw [atName]
        simp only [List.length_append, List.length_cons]
        omega
      obtain ⟨⟨c, first, nonzero⟩, indexRead⟩ :=
        reads_entry indexEntry front (name ++ 0 :: encodePairs pairs)
      obtain ⟨⟨d, second, nonzero'⟩, nameRead⟩ :=
        reads_entry nameEntry (front ++ index ++ [0]) (encodePairs pairs)
      rw [← encodePairs_cons (index, name) pairs] at first indexRead
      rw [← atName] at second nameRead
      rw [scanTable, if_pos before, first, Option.bind_some, if_neg nonzero, indexRead,
        Option.bind_some]
      simp only [nameAt]
      rw [if_neg inside, second, Option.bind_some, if_neg nonzero', nameRead, Option.bind_some,
        List.find?_cons]
      cases same : sameName towlower englishName name with
      | true => rfl
      | false =>
          simp only [nextAt]
          rw [atNext]
          exact ih (fun pair member => entries pair (.tail _ member)) _

/-- The scan of the name table ends without a read outside for every answer of the registry
that fits the bytes allocated. On a table of pairs it gives the index of the first pair of that
name, and an index that is a decimal numeral below 2^32 is that number. -/
theorem english_name_to_index (towlower : WChar → WChar) (englishName : WString) :
    (∀ perflib : Perflib, perflib.Fits →
      (perflib.englishNameToIndex towlower englishName).isSome) ∧
    (∀ pairs : List (WString × WString), (∀ pair ∈ pairs, IsEntry pair.1 ∧ IsEntry pair.2) →
      (Perflib.ofPairs pairs).englishNameToIndex towlower englishName =
        some ((pairs.find? fun pair => pair.2.map towlower = englishName.map towlower).map
          fun pair => wcstoul pair.1)) ∧
    ∀ index : WString, (∀ c ∈ index, isDigitOf 10 c.toChar) →
      numeral 10 (index.map WChar.toChar) < 2 ^ 32 →
        wcstoul index = numeral 10 (index.map WChar.toChar) := by
  refine ⟨fun perflib fits => perflib.englishNameToIndex_isSome fits englishName, ?_, ?_⟩
  · intro pairs entries
    have whole : overwritten (encodePairs pairs).length (wideBytes (encodePairs pairs)) =
        some (encodePairs pairs) := by
      rw [overwritten, if_pos (length_wideBytes _).le, wideChars_wideBytes]
      simp [filled]
    have half : 2 * (encodePairs pairs).length / 2 = (encodePairs pairs).length :=
      Nat.mul_div_cancel_left _ (by decide)
    have found := @scanTable_encodePairs towlower pairs entries englishName []
    simp only [List.nil_append, List.length_nil, sameName_eq] at found
    cases pairs with
    | nil => rfl
    | cons pair pairs =>
        have long : ¬2 * (encodePairs (pair :: pairs)).length < 2 * 2 := by
          simp only [encodePairs_cons, List.length_append, List.length_cons]
          omega
        simp only [Perflib.englishNameToIndex, Perflib.ofPairs, ne_eq, not_true_eq_false,
          false_or, long, if_false, half, whole, Option.bind_some, found]
  · intro index decimal small
    have digits : ∀ c ∈ index.map WChar.toChar, isDigitOf 10 c := by
      intro c member
      obtain ⟨d, inIndex, rfl⟩ := List.mem_map.mp member
      exact decimal d inIndex
    rw [wcstoul, strtoul, scanDecimal_digits digits]
    exact (if_neg (Nat.not_le_of_lt small)).trans (if_neg Bool.false_ne_true)

/-- A table of two pairs, asked for the second in other case, with the index 42, and the
index alone with half a character behind it. -/
theorem english_name_to_index_memory :
    (Perflib.ofPairs [([0x32], [0x53]), ([0x34, 0x32], [0x4d, 0x65])]).englishNameToIndex
        (fun c => if c < 0x60 then c + 0x20 else c) [0x6d, 0x65] = some (some 42) ∧
      wcstoul [0x34, 0x32] = 42 ∧
      (Perflib.englishNameToIndex (fun c => c)
        ⟨0, 0, regMultiSz, 7, 0, [0x34, 0, 0x32, 0, 0x4d], 5⟩ [0x4d, 0x65]).isSome := by
  have scan := english_name_to_index (fun c => if c < 0x60 then c + 0x20 else c) [0x6d, 0x65]
  have decimal : ∀ c ∈ ([0x34, 0x32] : WString), isDigitOf 10 c.toChar :=
    List.forall_mem_cons.mpr ⟨rfl, List.forall_mem_singleton.mpr rfl⟩
  have value : numeral 10 (List.map WChar.toChar [0x34, 0x32]) = 42 := rfl
  refine ⟨?_, scan.2.2 [0x34, 0x32] decimal (by rw [value]; omega),
    (english_name_to_index (fun c => c) [0x4d, 0x65]).1 _ ⟨by decide, by decide⟩⟩
  refine (scan.2.1 [([0x32], [0x53]), ([0x34, 0x32], [0x4d, 0x65])] ?_).trans ?_
  · simp [IsEntry]
  · rfl

end HWPanel.Collectors
