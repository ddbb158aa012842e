/-
This file models the decimal conversions of the C++ standard library: `std::to_string` of
an unsigned number, and `std::stol`, which skips white space, reads an optional sign and
the longest run of digits behind it, ignores what follows, and throws when there is no
digit or when the number does not fit in a `long`.

The two conversions fit together: `std::stol` reads back every number `std::to_string`
wrote, as long as it fits.
-/

import Mathlib.Data.List.TakeWhile
import Mathlib.Tactic.NormNum

namespace Library

/-- The exceptions `std::stol` throws. -/
inductive StolError
  | invalidArgument
  | outOfRange
deriving DecidableEq, Repr

/-- `std::to_string` of an unsigned number. -/
def stdToString (value : Nat) : String := value.repr

/-- `isspace` in the C locale. -/
def isSpace (character : Char) : Bool :=
  character == ' ' || character == '\t' || character == '\n' || character == '\r' ||
    character == '\x0B' || character == '\x0C'

/-- An optional sign: whether it is a minus, and what follows it. -/
def takeSign : List Char → Bool × List Char
  | '-' :: rest => (true, rest)
  | '+' :: rest => (false, rest)
  | rest => (false, rest)

/-- A number, if it fits in a `long` of the given width. -/
def checkLong (longBits : Nat) (value : Int) : Except StolError Int :=
  if -(2 ^ (longBits - 1)) ≤ value ∧ value < 2 ^ (longBits - 1) then .ok value
  else .error .outOfRange

/-- `std::stol`, with the width of a `long`. -/
def stol (longBits : Nat) (text : String) : Except StolError Int :=
  let signed := takeSign (text.toList.dropWhile isSpace)
  let digits := signed.2.takeWhile Char.isDigit
  if digits = [] then
    .error .invalidArgument
  else
    let magnitude : Int := Nat.ofDigitChars 10 digits 0
    checkLong longBits (if signed.1 then -magnitude else magnitude)

/-- A digit is not white space. -/
theorem isSpace_of_isDigit {character : Char} (digit : character.isDigit = true) :
    isSpace character = false := by
  refine Bool.eq_false_iff.mpr fun space => ?_
  simp only [isSpace, Bool.or_eq_true, beq_iff_eq, or_assoc] at space
  rcases space with rfl | rfl | rfl | rfl | rfl | rfl
  all_goals exact absurd digit (by decide)

/-- Nor is it a sign. -/
theorem takeSign_of_isDigit {character : Char} (digit : character.isDigit = true)
    (rest : List Char) : takeSign (character :: rest) = (false, character :: rest) := by
  unfold takeSign
  split
  · rename_i same
    rw [(List.cons.inj same).1] at digit
    exact absurd digit (by decide)
  · rename_i same
    rw [(List.cons.inj same).1] at digit
    exact absurd digit (by decide)
  · rfl

theorem checkLong_of_fits {longBits value : Nat} (fits : value < 2 ^ (longBits - 1)) :
    checkLong longBits value = .ok (value : Int) := by
  have high : (value : Int) < 2 ^ (longBits - 1) := by
    exact_mod_cast fits
  have low : -(2 ^ (longBits - 1) : Int) ≤ value := by
    have positive : (0 : Int) < 2 ^ (longBits - 1) := by
      exact_mod_cast Nat.two_pow_pos (longBits - 1)
    exact le_trans (Int.neg_nonpos_of_nonneg positive.le) (Int.natCast_nonneg value)
  unfold checkLong
  rw [if_pos ⟨low, high⟩]

/-- Digits are read as the number they stand for, if it fits. -/
theorem stol_ofList_eq (longBits : Nat) {digits : List Char} (nonempty : digits ≠ [])
    (allDigits : ∀ character ∈ digits, character.isDigit = true) :
    stol longBits (String.ofList digits) =
      checkLong longBits (Nat.ofDigitChars 10 digits 0 : Int) := by
  have taken : digits.takeWhile Char.isDigit = digits := List.takeWhile_eq_self_iff.mpr allDigits
  cases digits with
  | nil => exact absurd rfl nonempty
  | cons first rest =>
    have head := allDigits first (List.mem_cons_self ..)
    unfold stol
    dsimp only
    rw [String.toList_ofList, List.dropWhile_cons, isSpace_of_isDigit head,
      if_neg Bool.false_ne_true, takeSign_of_isDigit head, taken, if_neg nonempty]
    rfl

/-- `std::stol` checks the number `std::to_string` wrote. -/
theorem stol_eq (longBits value : Nat) :
    stol longBits (stdToString value) = checkLong longBits (value : Int) := by
  have digits : ∀ character ∈ Nat.toDigits 10 value, character.isDigit = true :=
    fun character => Nat.isDigit_of_mem_toDigits (by decide) (by decide)
  have read := stol_ofList_eq longBits Nat.toDigits_ne_nil digits
  rw [Nat.ofDigitChars_ten_toDigits] at read
  exact read

/-- `std::stol` reads back what `std::to_string` wrote. -/
theorem stol_stdToString {longBits value : Nat} (fits : value < 2 ^ (longBits - 1)) :
    stol longBits (stdToString value) = .ok (value : Int) := by
  rw [stol_eq]
  exact checkLong_of_fits fits

/-- It reads nothing else, whatever the width of a `long`. -/
theorem stol_of_ok {longBits value : Nat} {number : Int}
    (read : stol longBits (stdToString value) = .ok number) : number = value := by
  rw [stol_eq, checkLong] at read
  split at read
  · exact (Except.ok.inj read).symm
  · exact absurd read (by simp)

/-- A text that is read back is that of a number that fits. -/
theorem fits_of_stol {longBits value : Nat} {number : Int}
    (read : stol longBits (stdToString value) = .ok number) : value < 2 ^ (longBits - 1) := by
  rw [stol_eq, checkLong] at read
  split at read
  · rename_i inRange
    exact_mod_cast inRange.2
  · exact absurd read (by simp)

/-- Different numbers have different texts. -/
theorem stdToString_injective : Function.Injective stdToString := by
  intro first second same
  have digits : Nat.toDigits 10 first = Nat.toDigits 10 second := by
    rw [← Nat.toList_repr, ← Nat.toList_repr]
    exact congrArg String.toList same
  rw [← Nat.ofDigitChars_ten_toDigits (n := first), digits, Nat.ofDigitChars_ten_toDigits]

end Library
