/-
This file is about numbers in a memory of bytes. A number of a given size is stored as the list of
its digits in base 256, lowest first or highest first, and read back from where it was stored.
-/

import Mathlib.Data.List.Infix
import Mathlib.Data.Nat.Digits.Defs

namespace Library

/-! ### Where bytes lie -/

/-- The bytes are in the memory, from the offset on. -/
def LiesAt (memory bytes : List UInt8) (offset : Nat) : Prop := bytes <+: memory.drop offset

namespace LiesAt

variable {memory bytes first second : List UInt8} {offset : Nat}

theorem left (lies : LiesAt memory (first ++ second) offset) : LiesAt memory first offset :=
  (List.prefix_append first second).trans lies

theorem right (lies : LiesAt memory (first ++ second) offset) :
    LiesAt memory second (offset + first.length) := by
  have rest : (first ++ second).drop first.length <+: (memory.drop offset).drop first.length :=
    List.IsPrefix.drop lies first.length
  rwa [List.drop_left, List.drop_drop] at rest

theorem length_le (lies : LiesAt memory bytes offset) : bytes.length ≤ memory.length - offset := by
  rw [← List.length_drop]
  exact List.IsPrefix.length_le lies

theorem take_drop (lies : LiesAt memory bytes offset) :
    (memory.drop offset).take bytes.length = bytes :=
  (List.prefix_iff_eq_take.mp lies).symm

theorem getElem? (lies : LiesAt memory bytes offset) {index : Nat} (within : index < bytes.length) :
    memory[offset + index]? = some bytes[index] := by
  rw [← List.getElem?_drop]
  exact List.prefix_iff_getElem?.mp lies index within

end LiesAt

/-! ### Numbers -/

/-- The order of the bytes of a number. -/
inductive ByteOrder
  | little
  | big

namespace ByteOrder

/-- The number that bytes stand for. -/
def toNat (order : ByteOrder) (bytes : List UInt8) : Nat :=
  match order with
  | .little => Nat.ofDigits 256 (bytes.map UInt8.toNat)
  | .big => Nat.ofDigits 256 (bytes.reverse.map UInt8.toNat)

/-- The lowest digits of a number, lowest first. -/
def digits : Nat → Nat → List UInt8
  | 0, _ => []
  | size + 1, number => UInt8.ofNat (number % 256) :: digits size (number / 256)

/-- A number of the given size, stored. -/
def bytes (order : ByteOrder) (size number : Nat) : List UInt8 :=
  match order with
  | .little => digits size number
  | .big => (digits size number).reverse

/-- The number of the given size at an offset, if it is inside the memory. -/
def numberAt (order : ByteOrder) (memory : List UInt8) (offset size : Nat) : Option Nat :=
  if offset + size ≤ memory.length then some (order.toNat ((memory.drop offset).take size))
  else none

/-- The 16-bit number at an offset. -/
def u16At (order : ByteOrder) (memory : List UInt8) (offset : Nat) : Option UInt16 :=
  (order.numberAt memory offset 2).map UInt16.ofNat

/-- The 32-bit number at an offset. -/
def u32At (order : ByteOrder) (memory : List UInt8) (offset : Nat) : Option UInt32 :=
  (order.numberAt memory offset 4).map UInt32.ofNat

/-! ### Inside the memory -/

variable {order : ByteOrder} {memory : List UInt8} {offset : Nat}

theorem exists_u16At (inside : offset + 2 ≤ memory.length) :
    ∃ number, order.u16At memory offset = some number := by
  unfold u16At numberAt
  rw [if_pos inside]
  exact ⟨_, rfl⟩

theorem exists_u32At (inside : offset + 4 ≤ memory.length) :
    ∃ number, order.u32At memory offset = some number := by
  unfold u32At numberAt
  rw [if_pos inside]
  exact ⟨_, rfl⟩

/-! ### What was stored is read -/

theorem ofDigits_digits (size number : Nat) :
    Nat.ofDigits 256 ((digits size number).map UInt8.toNat) = number % 256 ^ size := by
  induction size generalizing number with
  | zero => rw [pow_zero, Nat.mod_one]; rfl
  | succ size inductionHypothesis =>
    have digit : (UInt8.ofNat (number % 256)).toNat = number % 256 :=
      UInt8.toNat_ofNat_of_lt' (Nat.mod_lt _ (by decide))
    rw [digits, List.map_cons, Nat.ofDigits_cons, inductionHypothesis, digit, pow_succ',
      Nat.mod_mul]

theorem length_digits (size number : Nat) : (digits size number).length = size := by
  induction size generalizing number with
  | zero => rfl
  | succ size inductionHypothesis => exact congrArg (· + 1) (inductionHypothesis _)

@[simp] theorem length_bytes (order : ByteOrder) (size number : Nat) :
    (order.bytes size number).length = size := by
  cases order with
  | little => exact length_digits size number
  | big => exact List.length_reverse.trans (length_digits size number)

theorem toNat_bytes (order : ByteOrder) (size number : Nat) :
    order.toNat (order.bytes size number) = number % 256 ^ size := by
  cases order with
  | little => exact ofDigits_digits size number
  | big =>
    show Nat.ofDigits 256 ((digits size number).reverse.reverse.map UInt8.toNat) = _
    rw [List.reverse_reverse, ofDigits_digits]

theorem numberAt_eq_some {size number : Nat} (some_byte : 0 < size)
    (lies : LiesAt memory (order.bytes size number) offset) :
    order.numberAt memory offset size = some (number % 256 ^ size) := by
  have inside := lies.length_le
  have read := lies.take_drop
  rw [length_bytes] at inside read
  unfold numberAt
  rw [if_pos (by omega), read, toNat_bytes]

theorem u16At_eq_some {number : UInt16}
    (lies : LiesAt memory (order.bytes 2 number.toNat) offset) :
    order.u16At memory offset = some number := by
  have small : number.toNat % 256 ^ 2 = number.toNat := Nat.mod_eq_of_lt number.toNat_lt
  unfold u16At
  rw [numberAt_eq_some (by decide) lies, small, Option.map_some, UInt16.ofNat_toNat]

theorem u32At_eq_some {number : UInt32}
    (lies : LiesAt memory (order.bytes 4 number.toNat) offset) :
    order.u32At memory offset = some number := by
  have small : number.toNat % 256 ^ 4 = number.toNat := Nat.mod_eq_of_lt number.toNat_lt
  unfold u32At
  rw [numberAt_eq_some (by decide) lies, small, Option.map_some, UInt32.ofNat_toNat]

end ByteOrder

end Library
