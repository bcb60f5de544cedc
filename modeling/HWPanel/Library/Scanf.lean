import HWPanel.Library.Numerals
import Mathlib.Algebra.Ring.Int.Defs
import Mathlib.Data.List.TakeWhile

/-!
# Formatted input

The scanning functions of the C library on characters. `scanf` is described twice:
by its scanner, and by the texts a format matches (`Matches`), where a hexadecimal
field is skipped blanks, a sign, a marker and digits, cut at the field's width.
-/

namespace HWPanel.Library

/-- What a C string holds: the characters before its first NUL. -/
def cString (text : List Char) : List Char := text.takeWhile (· ≠ '\x00')

/-- An optional sign, and what follows. -/
def scanSign : List Char → List Char × List Char
  | c :: rest => if c = '+' ∨ c = '-' then ([c], rest) else ([], c :: rest)
  | [] => ([], [])

/-- At most `width` characters that pass the test, and what follows. -/
def scanRun (test : Char → Bool) : Nat → List Char → List Char × List Char
  | width + 1, c :: rest =>
      if test c then (c :: (scanRun test width rest).1, (scanRun test width rest).2)
      else ([], c :: rest)
  | _, text => ([], text)

/-- An optional `0x` that fits in the width, and what follows. -/
def scanMarker (width : Nat) : List Char → List Char × List Char
  | zero :: x :: rest =>
      if 2 ≤ width ∧ zero = '0' ∧ (x = 'x' ∨ x = 'X') then ([zero, x], rest)
      else ([], zero :: x :: rest)
  | text => ([], text)

variable {text sign marker run rest : List Char} {test : Char → Bool} {width : Nat}

/-- The text of an optional sign. -/
def IsSign (sign : List Char) : Prop := sign = [] ∨ sign = ['+'] ∨ sign = ['-']

/-- The text of an optional marker. -/
def IsMarker (marker : List Char) : Prop :=
  marker = [] ∨ marker = ['0', 'x'] ∨ marker = ['0', 'X']

/-- The text goes on with a character that passes the test. -/
def StartsWith (test : Char → Bool) (text : List Char) : Prop := ∃ c ∈ text.head?, test c

@[simp] theorem not_startsWith_nil : ¬StartsWith test [] := by
  simp [StartsWith]

@[simp] theorem startsWith_cons {c : Char} : StartsWith test (c :: rest) ↔ test c := by
  simp [StartsWith]

theorem scanSign_eq_iff : scanSign text = (sign, rest) ↔
    text = sign ++ rest ∧ IsSign sign ∧
      (sign = [] → ¬StartsWith (fun c => c = '+' ∨ c = '-') rest) := by
  cases text with
  | nil =>
      constructor
      · intro scanned
        cases scanned
        exact ⟨rfl, .inl rfl, fun _ => not_startsWith_nil⟩
      · rintro ⟨split, -, -⟩
        obtain ⟨rfl, rfl⟩ := List.append_eq_nil_iff.mp split.symm
        rfl
  | cons c after =>
      rw [scanSign]
      split
      case isTrue signed =>
        constructor
        · intro scanned
          cases scanned
          exact ⟨rfl, .inr (by simpa using signed), by simp⟩
        · rintro ⟨split, kind | kind | kind, unsigned⟩
          · subst kind
            subst split
            exact absurd (startsWith_cons.mpr (by simpa using signed)) (unsigned rfl)
          · subst kind
            cases split
            rfl
          · subst kind
            cases split
            rfl
      case isFalse plain =>
        constructor
        · intro scanned
          cases scanned
          exact ⟨rfl, .inl rfl, fun _ => by simpa using plain⟩
        · rintro ⟨split, kind | kind | kind, -⟩
          · subst kind
            cases split
            rfl
          · subst kind
            cases split
            simp at plain
          · subst kind
            cases split
            simp at plain

theorem scanRun_eq_iff : scanRun test width text = (run, rest) ↔
    text = run ++ rest ∧ (∀ c ∈ run, test c) ∧ run.length ≤ width ∧
      (run.length < width → ¬StartsWith test rest) := by
  induction width generalizing text run with
  | zero =>
      constructor
      · intro scanned
        cases scanned
        simp
      · rintro ⟨rfl, -, short, -⟩
        rw [List.length_eq_zero_iff.mp (Nat.le_zero.mp short)]
        rfl
  | succ width ih =>
      cases text with
      | nil =>
          constructor
          · intro scanned
            cases scanned
            simp
          · rintro ⟨split, -, -, -⟩
            obtain ⟨rfl, rfl⟩ := List.append_eq_nil_iff.mp split.symm
            rfl
      | cons c after =>
          rw [scanRun]
          split
          case isTrue passed =>
            constructor
            · intro scanned
              cases scanned
              obtain ⟨split, passes, short, maximal⟩ := (@ih after _).mp rfl
              refine ⟨congrArg (c :: ·) split, ?_, Nat.succ_le_succ short, fun shorter =>
                maximal (Nat.lt_of_succ_lt_succ shorter)⟩
              intro d member
              rcases List.mem_cons.mp member with rfl | inRun
              · exact passed
              · exact passes d inRun
            · rintro ⟨split, passes, short, maximal⟩
              cases run with
              | nil =>
                  subst split
                  exact absurd (startsWith_cons.mpr passed) (maximal (Nat.succ_pos width))
              | cons d run =>
                  cases split
                  have scanned := ih.mpr ⟨rfl, fun d member => passes d (.tail c member),
                    Nat.le_of_succ_le_succ short, fun shorter =>
                      maximal (Nat.succ_lt_succ shorter)⟩
                  exact congrArg (fun scanned => (c :: scanned.1, scanned.2)) scanned
          case isFalse failed =>
            constructor
            · intro scanned
              cases scanned
              exact ⟨rfl, by simp, Nat.zero_le _, fun _ => by simpa using failed⟩
            · rintro ⟨split, passes, -, -⟩
              cases run with
              | nil =>
                  cases split
                  rfl
              | cons d run =>
                  cases split
                  exact absurd (passes c List.mem_cons_self) failed

/-- A marker is taken whenever it is there and fits. -/
theorem scanMarker_eq_iff : scanMarker width text = (marker, rest) ↔
    text = marker ++ rest ∧ IsMarker marker ∧ (marker ≠ [] → 2 ≤ width) ∧
      (marker = [] → 2 ≤ width → ∀ x after, rest = '0' :: x :: after → x ≠ 'x' ∧ x ≠ 'X') := by
  rcases text with _ | ⟨zero, _ | ⟨x, after⟩⟩
  · constructor
    · intro scanned
      cases scanned
      simp [IsMarker]
    · rintro ⟨split, -, -, -⟩
      obtain ⟨rfl, rfl⟩ := List.append_eq_nil_iff.mp split.symm
      rfl
  · constructor
    · intro scanned
      cases scanned
      simp [IsMarker]
    · rintro ⟨split, rfl | rfl | rfl, -, -⟩
      · cases split
        rfl
      · simp at split
      · simp at split
  · rw [scanMarker]
    split
    case isTrue marked =>
      obtain ⟨fits, rfl, kind⟩ := marked
      constructor
      · intro scanned
        cases scanned
        rcases kind with rfl | rfl
        · exact ⟨rfl, .inr (.inl rfl), fun _ => fits, by simp⟩
        · exact ⟨rfl, .inr (.inr rfl), fun _ => fits, by simp⟩
      · rintro ⟨split, rfl | rfl | rfl, -, unmarked⟩
        · have different := unmarked rfl fits x after split.symm
          rcases kind with rfl | rfl
          · exact absurd rfl different.1
          · exact absurd rfl different.2
        · cases split
          rfl
        · cases split
          rfl
    case isFalse plain =>
      constructor
      · intro scanned
        cases scanned
        refine ⟨rfl, .inl rfl, by simp, fun _ fits other tail same => ?_⟩
        cases same
        simpa [fits] using plain
      · rintro ⟨split, rfl | rfl | rfl, fits, -⟩
        · cases split
          rfl
        · cases split
          simp [fits] at plain
        · cases split
          simp [fits] at plain

/-- A 32-bit `unsigned` from the sign and the digits of a field of at most eight digits. -/
def fieldValue (sign digits : List Char) : Nat :=
  if sign = ['-'] then (2 ^ 32 - numeral 16 digits) % 2 ^ 32 else numeral 16 digits

/-- `%<width>x`: the longest text that begins a number is taken, so a marker without a
digit fails. -/
def scanHex (width : Nat) (text : List Char) : Option (Nat × List Char) :=
  let (sign, unsigned) := scanSign (text.dropWhile isSpace)
  let (marker, digitsText) := scanMarker (width - sign.length) unsigned
  let (digits, rest) :=
    scanRun (isDigitOf 16) (width - sign.length - marker.length) digitsText
  if digits = [] then none else some (fieldValue sign digits, rest)

/-- The pieces of a text that starts with a hexadecimal field, and what follows it. -/
structure HexField (width : Nat) (blanks sign marker digits rest : List Char) : Prop where
  blank : ∀ c ∈ blanks, isSpace c
  isSign : IsSign sign
  isMarker : IsMarker marker
  hexadecimal : ∀ c ∈ digits, isDigitOf 16 c
  nonempty : digits ≠ []
  fits : sign.length + marker.length + digits.length ≤ width
  maximal : sign.length + marker.length + digits.length < width →
    ¬StartsWith (isDigitOf 16) rest
  unmarked : marker = [] → digits = ['0'] → sign.length + 1 < width →
    ¬StartsWith (fun c => c = 'x' ∨ c = 'X') rest

/-- A digit is neither blank nor a sign. -/
theorem isDigitOf_not_lead {c : Char} (digit : isDigitOf 16 c) :
    isSpace c = false ∧ c ≠ '+' ∧ c ≠ '-' := by
  have figure : digitValue c < 16 := of_decide_eq_true digit
  refine ⟨?_, ?_, ?_⟩
  · by_contra blank
    rw [Bool.not_eq_false, isSpace, Bool.or_eq_true, decide_eq_true_eq, Bool.and_eq_true,
      decide_eq_true_eq, decide_eq_true_eq] at blank
    rcases blank with rfl | ⟨-, le⟩
    · exact absurd figure (by decide)
    · have notFigure : ¬('0' ≤ c) := fun low =>
        absurd (Char.le_trans low le) (by decide : ¬('0' ≤ '\r'))
      have notLower : ¬('a' ≤ c) := fun low =>
        absurd (Char.le_trans low le) (by decide : ¬('a' ≤ '\r'))
      have notUpper : ¬('A' ≤ c) := fun low =>
        absurd (Char.le_trans low le) (by decide : ¬('A' ≤ '\r'))
      simp [digitValue, notFigure, notLower, notUpper] at figure
  · rintro rfl
    exact absurd figure (by decide)
  · rintro rfl
    exact absurd figure (by decide)

/-- A run that passes the test ends where it stops passing. -/
theorem dropWhile_append_of_startsWith {front back : List Char}
    (passes : ∀ c ∈ front, test c) (stops : StartsWith (fun c => !test c) back) :
    (front ++ back).dropWhile test = back := by
  rw [List.dropWhile_append_of_pos passes]
  cases back with
  | nil => rfl
  | cons c back =>
      have failed := startsWith_cons.mp stops
      rw [List.dropWhile_cons_of_neg (by simpa using failed)]

namespace HexField

variable {blanks digits : List Char}

/-- What follows the sign of a field starts with a digit. -/
theorem startsWith_digit (field : HexField width blanks sign marker digits rest) :
    StartsWith (isDigitOf 16) (marker ++ (digits ++ rest)) := by
  rcases field.isMarker with rfl | rfl | rfl
  · cases digits with
    | nil => exact absurd rfl field.nonempty
    | cons c digits => exact startsWith_cons.mpr (field.hexadecimal c List.mem_cons_self)
  · exact startsWith_cons.mpr (by decide)
  · exact startsWith_cons.mpr (by decide)

/-- What follows the blanks of a field is not blank. -/
theorem startsWith_not_space (field : HexField width blanks sign marker digits rest) :
    StartsWith (fun c => !isSpace c) (sign ++ (marker ++ (digits ++ rest))) := by
  rcases field.isSign with rfl | rfl | rfl
  · obtain ⟨c, first, digit⟩ := field.startsWith_digit
    exact ⟨c, first, by simp [isDigitOf_not_lead digit]⟩
  · exact startsWith_cons.mpr (by decide)
  · exact startsWith_cons.mpr (by decide)

theorem scanned (field : HexField width blanks sign marker digits rest) :
    scanHex width (blanks ++ (sign ++ (marker ++ (digits ++ rest)))) =
      some (fieldValue sign digits, rest) := by
  have fits := field.fits
  have positive := List.length_pos_iff.mpr field.nonempty
  have skipped : (blanks ++ (sign ++ (marker ++ (digits ++ rest)))).dropWhile isSpace =
      sign ++ (marker ++ (digits ++ rest)) :=
    dropWhile_append_of_startsWith field.blank field.startsWith_not_space
  have signed : scanSign (sign ++ (marker ++ (digits ++ rest))) =
      (sign, marker ++ (digits ++ rest)) := by
    refine scanSign_eq_iff.mpr ⟨rfl, field.isSign, fun _ started => ?_⟩
    obtain ⟨c, first, digit⟩ := field.startsWith_digit
    obtain ⟨d, same, isSign⟩ := started
    cases Option.mem_unique first same
    have notLead := isDigitOf_not_lead digit
    simp [notLead.2] at isSign
  have marked : scanMarker (width - sign.length) (marker ++ (digits ++ rest)) =
      (marker, digits ++ rest) := by
    refine scanMarker_eq_iff.mpr ⟨rfl, field.isMarker, fun marked => ?_, ?_⟩
    · rcases field.isMarker with rfl | rfl | rfl
      · exact absurd rfl marked
      · simp only [List.length_cons, List.length_nil] at fits
        omega
      · simp only [List.length_cons, List.length_nil] at fits
        omega
    · intro noMarker wide x after split
      have notDigit : ¬(x = 'x' ∨ x = 'X') := by
        rintro isX
        cases digits with
        | nil => exact absurd rfl field.nonempty
        | cons zero others =>
            cases others with
            | nil =>
                cases split
                exact field.unmarked noMarker rfl (by omega)
                  (startsWith_cons.mpr (decide_eq_true isX))
            | cons second others =>
                cases split
                have digit := field.hexadecimal x (.tail _ List.mem_cons_self)
                rcases isX with rfl | rfl
                · exact absurd digit (by decide)
                · exact absurd digit (by decide)
      exact not_or.mp notDigit
  have run : scanRun (isDigitOf 16) (width - sign.length - marker.length) (digits ++ rest) =
      (digits, rest) := by
    refine scanRun_eq_iff.mpr ⟨rfl, field.hexadecimal, by omega, fun shorter => ?_⟩
    exact field.maximal (by omega)
  simp only [scanHex, skipped, signed, marked, run, if_neg field.nonempty]

end HexField

/-- Exactly the texts that start with a field are scanned. -/
theorem scanHex_eq_some_iff {value : Nat} :
    scanHex width text = some (value, rest) ↔
      ∃ blanks sign marker digits,
        HexField width blanks sign marker digits rest ∧
          text = blanks ++ (sign ++ (marker ++ (digits ++ rest))) ∧
          value = fieldValue sign digits := by
  constructor
  · intro scanned
    generalize signed : scanSign (text.dropWhile isSpace) = first at scanned
    obtain ⟨sign, unsigned⟩ := first
    generalize marked : scanMarker (width - sign.length) unsigned = second at scanned
    obtain ⟨marker, digitsText⟩ := second
    generalize run : scanRun (isDigitOf 16) (width - sign.length - marker.length) digitsText =
      third at scanned
    obtain ⟨digits, after⟩ := third
    simp only [scanHex, signed, marked, run] at scanned
    split at scanned
    · cases scanned
    · rename_i nonempty
      cases scanned
      obtain ⟨signSplit, isSign, -⟩ := scanSign_eq_iff.mp signed
      obtain ⟨markerSplit, isMarker, markerFits, unmarked⟩ := scanMarker_eq_iff.mp marked
      obtain ⟨rfl, hexadecimal, fits, maximal⟩ := scanRun_eq_iff.mp run
      have positive := List.length_pos_iff.mpr nonempty
      refine ⟨text.takeWhile isSpace, sign, marker, digits, ?_, ?_, rfl⟩
      · refine
          { blank := fun c member => List.mem_takeWhile_imp member
            isSign
            isMarker
            hexadecimal
            nonempty
            fits := by omega
            maximal := fun shorter => maximal (by omega)
            unmarked := fun noMarker zero wide started => ?_ }
        cases rest with
        | nil => exact not_startsWith_nil started
        | cons x after =>
            have different := unmarked noMarker (by omega) x after (by rw [zero]; rfl)
            have isX := of_decide_eq_true (startsWith_cons.mp started)
            exact isX.elim different.1 different.2
      · rw [← markerSplit, ← signSplit, List.takeWhile_append_dropWhile]
  · rintro ⟨blanks, sign, marker, digits, field, rfl, rfl⟩
    exact field.scanned

/-- The sign and the magnitude of the decimal integer a text starts with, after blanks;
zero when no digit is there. -/
def scanDecimal (text : List Char) : Bool × Nat :=
  let (sign, unsigned) := scanSign (text.dropWhile isSpace)
  (sign = ['-'], numeral 10 (unsigned.takeWhile (isDigitOf 10)))

/-- `atoi`, which gives the nearest 32-bit `int`. -/
def atoi (text : List Char) : Int :=
  let (negative, magnitude) := scanDecimal text
  if negative then max (-(magnitude : Int)) (-2 ^ 31) else min (magnitude : Int) (2 ^ 31 - 1)

/-- `strtoul` with base ten, for an `unsigned long` of that many bits. -/
def strtoul (bits : Nat) (text : List Char) : Nat :=
  let (negative, magnitude) := scanDecimal text
  if 2 ^ bits ≤ magnitude then 2 ^ bits - 1
  else if negative then (2 ^ bits - magnitude) % 2 ^ bits
  else magnitude

theorem isDigitOf_mono {fewer base : Nat} (le : fewer ≤ base) {c : Char}
    (digit : isDigitOf fewer c) : isDigitOf base c :=
  decide_eq_true (Nat.lt_of_lt_of_le (of_decide_eq_true digit) le)

/-- A text of digits is read whole. -/
theorem scanDecimal_digits {digits : List Char} (decimal : ∀ c ∈ digits, isDigitOf 10 c) :
    scanDecimal digits = (false, numeral 10 digits) := by
  have lead : ∀ c ∈ digits, isSpace c = false ∧ c ≠ '+' ∧ c ≠ '-' := fun c member =>
    isDigitOf_not_lead (isDigitOf_mono (by decide) (decimal c member))
  have skipped : digits.dropWhile isSpace = digits := by
    cases digits with
    | nil => rfl
    | cons c rest => simp [(lead c List.mem_cons_self).1]
  have unsigned : scanSign digits = ([], digits) := by
    cases digits with
    | nil => rfl
    | cons c rest =>
        have notSign := lead c List.mem_cons_self
        simp [scanSign, notSign.2]
  have whole : digits.takeWhile (isDigitOf 10) = digits :=
    List.takeWhile_eq_self_iff.mpr decimal
  simp [scanDecimal, skipped, unsigned, whole]

/-! ## Formats -/

/-- A conversion `%<width>x`, or a character that stands for itself. -/
inductive Directive where
  | hex (width : Nat)
  | literal (c : Char)

/-- `scanf`: the values it assigned when it stopped. -/
def scanf : List Directive → List Char → List Nat
  | .hex width :: format, text =>
      match scanHex width text with
      | some (value, rest) => value :: scanf format rest
      | none => []
  | .literal c :: format, d :: rest => if d = c then scanf format rest else []
  | .literal _ :: _, [] => []
  | [], _ => []

def conversions (format : List Directive) : Nat :=
  format.countP fun
    | .hex _ => true
    | .literal _ => false

/-- The text matches every conversion of the format, with these values; nothing is asked
of what follows the last one. -/
inductive Matches : List Directive → List Char → List Nat → Prop where
  | done {format : List Directive} (finished : conversions format = 0) (text : List Char) :
      Matches format text []
  | literal {format : List Directive} {rest : List Char} {values : List Nat} (c : Char)
      (after : Matches format rest values) : Matches (.literal c :: format) (c :: rest) values
  | hex {format : List Directive} {width : Nat} {blanks sign marker digits rest : List Char}
      {values : List Nat} (field : HexField width blanks sign marker digits rest)
      (after : Matches format rest values) :
      Matches (.hex width :: format) (blanks ++ (sign ++ (marker ++ (digits ++ rest))))
        (fieldValue sign digits :: values)

variable {format : List Directive} {values : List Nat}

theorem scanf_of_conversions_eq_zero (finished : conversions format = 0) (text : List Char) :
    scanf format text = [] := by
  induction format generalizing text with
  | nil => rw [scanf]
  | cons directive format ih =>
      cases directive with
      | hex width => simp [conversions] at finished
      | literal c =>
          have others : conversions format = 0 := by simpa [conversions] using finished
          cases text with
          | nil => rfl
          | cons d rest =>
              rw [scanf, ih others]
              split
              · rfl
              · rfl

/-- `scanf` assigns every conversion exactly on the texts that match the format. -/
theorem matches_iff :
    Matches format text values ↔
      scanf format text = values ∧ values.length = conversions format := by
  constructor
  · intro match_
    induction match_ with
    | done finished text => exact ⟨scanf_of_conversions_eq_zero finished text, finished.symm⟩
    | literal c after ih =>
        rw [scanf, if_pos rfl]
        exact ⟨ih.1, by simpa [conversions] using ih.2⟩
    | hex field after ih =>
        rw [scanf, field.scanned]
        exact ⟨congrArg _ ih.1, by simpa [conversions] using ih.2⟩
  · rintro ⟨assigned, all⟩
    induction format generalizing text values with
    | nil =>
        rw [List.length_eq_zero_iff.mp all]
        exact .done rfl text
    | cons directive format ih =>
        cases directive with
        | hex width =>
            cases scanned : scanHex width text with
            | none =>
                rw [scanf, scanned] at assigned
                subst assigned
                simp [conversions] at all
            | some result =>
                obtain ⟨value, rest⟩ := result
                rw [scanf, scanned] at assigned
                subst assigned
                obtain ⟨blanks, sign, marker, digits, field, rfl, rfl⟩ :=
                  scanHex_eq_some_iff.mp scanned
                exact .hex field (ih rfl (by simpa [conversions] using all))
        | literal c =>
            have others : values.length = conversions format := by
              simpa [conversions] using all
            cases finished : conversions format with
            | zero =>
                rw [List.length_eq_zero_iff.mp (others.trans finished)]
                exact .done (by simpa [conversions] using finished) text
            | succ count =>
                cases text with
                | nil =>
                    rw [scanf] at assigned
                    subst assigned
                    simp [finished] at others
                | cons d rest =>
                    rw [scanf] at assigned
                    split at assigned
                    · rename_i same
                      rw [same]
                      exact .literal c (ih assigned others)
                    · subst assigned
                      simp [finished] at others

/-- `printf`, with every number padded to the width of its conversion. -/
def printf : List Directive → List Nat → List Char
  | .hex width :: format, value :: values => paddedDigits 16 width value ++ printf format values
  | .literal c :: format, values => c :: printf format values
  | _, _ => []

/-- The text is the format with each conversion replaced by as many digits as it is wide,
in either case. -/
inductive Spells : List Directive → List Char → List Nat → Prop where
  | nil : Spells [] [] []
  | literal {format : List Directive} {rest : List Char} {values : List Nat} (c : Char)
      (after : Spells format rest values) : Spells (.literal c :: format) (c :: rest) values
  | hex {format : List Directive} {width : Nat} {digits rest : List Char} {values : List Nat}
      (hexadecimal : ∀ c ∈ digits, isDigitOf 16 c) (full : digits.length = width)
      (positive : 0 < width) (after : Spells format rest values) :
      Spells (.hex width :: format) (digits ++ rest) (numeral 16 digits :: values)

/-- A full field is scanned whole, whatever follows. -/
theorem HexField.of_full {digits : List Char} (hexadecimal : ∀ c ∈ digits, isDigitOf 16 c)
    (full : digits.length = width) (positive : 0 < width) (rest : List Char) :
    HexField width [] [] [] digits rest where
  blank c member := absurd member List.not_mem_nil
  isSign := .inl rfl
  isMarker := .inl rfl
  hexadecimal := hexadecimal
  nonempty := List.length_pos_iff.mp (by omega)
  fits := by
    simp only [List.length_nil]
    omega
  maximal shorter := by
    simp only [List.length_nil] at shorter
    omega
  unmarked _ zero wide := by
    rw [zero] at full
    simp only [List.length_cons, List.length_nil] at full wide
    omega

namespace Spells

theorem matches_ (spelled : Spells format text values) : Matches format text values := by
  induction spelled with
  | nil => exact .done rfl []
  | literal c after ih => exact .literal c ih
  | hex hexadecimal full positive after ih =>
      exact .hex (HexField.of_full hexadecimal full positive _) ih

theorem scanned (spelled : Spells format text values) : scanf format text = values :=
  (matches_iff.mp spelled.matches_).1

theorem append {otherFormat : List Directive} {otherText : List Char} {others : List Nat}
    (spelled : Spells format text values) (other : Spells otherFormat otherText others) :
    Spells (format ++ otherFormat) (text ++ otherText) (values ++ others) := by
  induction spelled with
  | nil => exact other
  | literal c after ih => exact .literal c ih
  | hex hexadecimal full positive after ih =>
      rw [List.append_assoc]
      exact .hex hexadecimal full positive ih

end Spells

/-- The number of characters a full directive stands for. -/
def Directive.span : Directive → Nat
  | .hex width => width
  | .literal _ => 1

namespace Spells

theorem length_text (spelled : Spells format text values) :
    text.length = (format.map Directive.span).sum := by
  induction spelled with
  | nil => rfl
  | literal c after ih =>
      simp only [List.length_cons, ih, List.map_cons, List.sum_cons, Directive.span]
      omega
  | hex hexadecimal full positive after ih =>
      simp only [List.length_append, ih, full, List.map_cons, List.sum_cons, Directive.span]

theorem mem_text (spelled : Spells format text values) :
    ∀ c ∈ text, isDigitOf 16 c ∨ .literal c ∈ format := by
  induction spelled with
  | nil => exact fun c member => absurd member List.not_mem_nil
  | literal d after ih =>
      intro c member
      rcases List.mem_cons.mp member with rfl | inRest
      · exact .inr List.mem_cons_self
      · exact (ih c inRest).imp_right (.tail _)
  | hex hexadecimal full positive after ih =>
      intro c member
      rcases List.mem_append.mp member with inDigits | inRest
      · exact .inl (hexadecimal c inDigits)
      · exact (ih c inRest).imp_right (.tail _)

/-- A spelled text is a C string when no literal is NUL. -/
theorem cString_text (spelled : Spells format text values)
    (noNul : .literal '\x00' ∉ format) : cString text = text := by
  refine List.takeWhile_eq_self_iff.mpr fun c member => decide_eq_true ?_
  rintro rfl
  exact (spelled.mem_text _ member).elim (fun digit => absurd digit (by decide)) noNul

end Spells

/-- The values of consecutive pairs of digits. -/
def digitPairs : List Char → List Nat
  | high :: low :: digits => numeral 16 [high, low] :: digitPairs digits
  | _ => []

theorem digitPairs_append {count : Nat} {front : List Char} (even : front.length = 2 * count)
    (back : List Char) : digitPairs (front ++ back) = digitPairs front ++ digitPairs back := by
  induction count generalizing front with
  | zero =>
      rw [List.length_eq_zero_iff.mp even]
      rfl
  | succ count ih =>
      match front, even with
      | high :: low :: front, even =>
          have fewer : front.length = 2 * count := by
            simp only [List.length_cons] at even
            omega
          exact congrArg (numeral 16 [high, low] :: ·) (ih fewer)

/-- A text of digits spells its pairs. -/
theorem spells_digitPairs {count : Nat} {digits : List Char} (even : digits.length = 2 * count)
    (hexadecimal : ∀ c ∈ digits, isDigitOf 16 c) :
    Spells (List.replicate count (.hex 2)) digits (digitPairs digits) := by
  induction count generalizing digits with
  | zero =>
      rw [List.length_eq_zero_iff.mp even]
      exact .nil
  | succ count ih =>
      match digits, even, hexadecimal with
      | high :: low :: digits, even, hexadecimal =>
          have fewer : digits.length = 2 * count := by
            simp only [List.length_cons] at even
            omega
          refine Spells.hex (?_ : ∀ c ∈ [high, low], _) rfl (by decide) (ih fewer ?_)
          · intro c member
            exact hexadecimal c (List.mem_append_left digits member)
          · intro c member
            exact hexadecimal c (List.mem_append_right [high, low] member)

/-- Pairs of digits are bytes, half as many as the digits. -/
theorem digitPairs_bytes {count : Nat} {digits : List Char} (even : digits.length = 2 * count)
    (hexadecimal : ∀ c ∈ digits, isDigitOf 16 c) :
    (digitPairs digits).length = count ∧ ∀ byte ∈ digitPairs digits, byte < 2 ^ 8 := by
  induction count generalizing digits with
  | zero =>
      rw [List.length_eq_zero_iff.mp even]
      exact ⟨rfl, fun byte member => absurd member List.not_mem_nil⟩
  | succ count ih =>
      match digits, even, hexadecimal with
      | high :: low :: digits, even, hexadecimal =>
          have fewer : digits.length = 2 * count := by
            simp only [List.length_cons] at even
            omega
          obtain ⟨length, bytes⟩ := ih fewer fun c member =>
            hexadecimal c (List.mem_append_right [high, low] member)
          have first : numeral 16 [high, low] < 16 ^ [high, low].length :=
            numeral_lt fun c member => hexadecimal c (List.mem_append_left digits member)
          refine ⟨congrArg (· + 1) length, fun byte member => ?_⟩
          rcases List.mem_cons.mp member with rfl | later
          · exact first
          · exact bytes byte later

/-- Every value fits in the width of its conversion. -/
inductive Fits : List Directive → List Nat → Prop where
  | nil : Fits [] []
  | literal {format : List Directive} {values : List Nat} (c : Char)
      (after : Fits format values) : Fits (.literal c :: format) values
  | hex {format : List Directive} {values : List Nat} {width value : Nat}
      (positive : 0 < width) (small : value < 16 ^ width) (after : Fits format values) :
      Fits (.hex width :: format) (value :: values)

/-- What is printed spells the values. -/
theorem Fits.spells (fits : Fits format values) :
    Spells format (printf format values) values := by
  induction fits with
  | nil => exact .nil
  | literal c after ih => exact .literal c ih
  | @hex format values width value positive small after ih =>
      have spelled := Spells.hex
        (isDigitOf_paddedDigits (by decide) (by decide) width value)
        (length_paddedDigits (by decide) positive small) positive ih
      rw [numeral_paddedDigits (by decide) (by decide)] at spelled
      exact spelled

end HWPanel.Library
