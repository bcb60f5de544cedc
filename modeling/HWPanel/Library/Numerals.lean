import Mathlib.Data.List.Induction
import Mathlib.Algebra.Ring.Nat

/-!
# Numerals in text

Digits and numerals as the C library reads them: a character is a digit of a base
when its value is below the base. What `Nat.toDigits` writes, also padded with zeros,
reads back as the number.
-/

namespace HWPanel.Library

/-- The value of a letter or figure as a digit; 36 is none. -/
def digitValue (c : Char) : Nat :=
  if '0' ≤ c ∧ c ≤ '9' then c.toNat - '0'.toNat
  else if 'a' ≤ c ∧ c ≤ 'z' then c.toNat - 'a'.toNat + 10
  else if 'A' ≤ c ∧ c ≤ 'Z' then c.toNat - 'A'.toNat + 10
  else 36

def isDigitOf (base : Nat) (c : Char) : Bool := digitValue c < base

/-- The number a list of digits denotes, most significant first. -/
def numeral (base : Nat) (digits : List Char) : Nat :=
  digits.foldl (fun value c => base * value + digitValue c) 0

/-- `isspace` in the "C" locale. -/
def isSpace (c : Char) : Bool := c = ' ' || ('\t' ≤ c && c ≤ '\r')

variable {base : Nat} {digits : List Char}

@[simp] theorem numeral_nil : numeral base [] = 0 := rfl

@[simp] theorem numeral_concat (digits : List Char) (c : Char) :
    numeral base (digits ++ [c]) = base * numeral base digits + digitValue c := by
  simp [numeral]

theorem numeral_lt (digit : ∀ c ∈ digits, isDigitOf base c) :
    numeral base digits < base ^ digits.length := by
  induction digits using List.reverseRecOn with
  | nil => simp
  | append_singleton front c ih =>
      have small : digitValue c < base :=
        of_decide_eq_true (digit c (List.mem_append_right _ (List.mem_singleton_self c)))
      have frontSmall := ih fun c member => digit c (List.mem_append_left _ member)
      rw [numeral_concat, List.length_append, List.length_singleton, Nat.pow_succ,
        Nat.mul_comm _ base]
      calc base * numeral base front + digitValue c
        _ < base * numeral base front + base := Nat.add_lt_add_left small _
        _ = base * (numeral base front + 1) := by rw [Nat.mul_add, Nat.mul_one]
        _ ≤ base * base ^ front.length := Nat.mul_le_mul_left _ frontSmall

@[simp] theorem numeral_replicate_zero_append (count : Nat) (digits : List Char) :
    numeral base (List.replicate count '0' ++ digits) = numeral base digits := by
  have zeros : numeral base (List.replicate count '0') = 0 := by
    induction count with
    | zero => rfl
    | succ count ih =>
        rw [List.replicate_succ', numeral_concat, ih]
        rfl
  rw [numeral, List.foldl_append]
  exact congrArg (fun value => digits.foldl _ value) zeros

@[simp] theorem digitValue_digitChar {value : Nat} (small : value < 16) :
    digitValue value.digitChar = value := by
  revert value
  decide

theorem isDigitOf_digitChar (letters : base ≤ 16) {value : Nat} (small : value < base) :
    isDigitOf base value.digitChar := by
  rw [isDigitOf, digitValue_digitChar (Nat.lt_of_lt_of_le small letters)]
  exact decide_eq_true small

/-- A number is written as the digits of its quotient and its last digit. -/
theorem toDigits_div_mod (based : 1 < base) {value : Nat} (long : base ≤ value) :
    Nat.toDigits base value =
      Nat.toDigits base (value / base) ++ [(value % base).digitChar] := by
  rw [Nat.toDigits_of_base_le based long]

theorem isDigitOf_toDigits (based : 1 < base) (letters : base ≤ 16) (value : Nat) :
    ∀ c ∈ Nat.toDigits base value, isDigitOf base c := by
  induction value using Nat.strong_induction_on with
  | _ value ih =>
      intro c member
      rcases Nat.lt_or_ge value base with short | long
      · rw [Nat.toDigits_of_lt_base short, List.mem_singleton] at member
        rw [member]
        exact isDigitOf_digitChar letters short
      · rw [toDigits_div_mod based long, List.mem_append, List.mem_singleton] at member
        have smaller : value / base < value := Nat.div_lt_self (by omega) based
        rcases member with front | last
        · exact ih _ smaller c front
        · rw [last]
          exact isDigitOf_digitChar letters (Nat.mod_lt _ (by omega))

@[simp] theorem numeral_toDigits (based : 1 < base) (letters : base ≤ 16) (value : Nat) :
    numeral base (Nat.toDigits base value) = value := by
  induction value using Nat.strong_induction_on with
  | _ value ih =>
      rcases Nat.lt_or_ge value base with short | long
      · rw [Nat.toDigits_of_lt_base short, ← List.nil_append [_], numeral_concat, numeral_nil,
          Nat.mul_zero, Nat.zero_add, digitValue_digitChar (Nat.lt_of_lt_of_le short letters)]
      · have smaller : value / base < value := Nat.div_lt_self (by omega) based
        have lastDigit : value % base < base := Nat.mod_lt _ (by omega)
        rw [toDigits_div_mod based long, numeral_concat, ih _ smaller,
          digitValue_digitChar (Nat.lt_of_lt_of_le lastDigit letters), Nat.div_add_mod]

/-- `%0<width>x` and its like: at least `width` digits. -/
def paddedDigits (base width value : Nat) : List Char :=
  List.leftpad width '0' (Nat.toDigits base value)

@[simp] theorem numeral_paddedDigits (based : 1 < base) (letters : base ≤ 16) (width value : Nat) :
    numeral base (paddedDigits base width value) = value := by
  rw [paddedDigits, List.leftpad, numeral_replicate_zero_append, numeral_toDigits based letters]

@[simp] theorem length_paddedDigits (based : 1 < base) {width value : Nat} (positive : 0 < width)
    (fits : value < base ^ width) : (paddedDigits base width value).length = width := by
  rw [paddedDigits, List.length_leftpad]
  exact Nat.max_eq_left ((Nat.length_toDigits_le_iff based positive).mpr fits)

theorem isDigitOf_paddedDigits (based : 1 < base) (letters : base ≤ 16) (width value : Nat) :
    ∀ c ∈ paddedDigits base width value, isDigitOf base c := by
  intro c member
  rcases List.mem_append.mp member with padding | written
  · rw [List.eq_of_mem_replicate padding]
    exact decide_eq_true (Nat.lt_trans Nat.zero_lt_one based)
  · exact isDigitOf_toDigits based letters value c written

end HWPanel.Library
