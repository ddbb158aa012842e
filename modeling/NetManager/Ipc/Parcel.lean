/-
This file models parcels as sequences of typed cells. Writing appends a cell, reading takes the
first one and fails when there is none or when it has another type. The types that clients pass
through parcels write their fields in a fixed order and read them back in the same order.
-/

import NetManager.Conn.Types
import NetManager.Library.Codec
import Mathlib.Algebra.Group.Nat.Defs

namespace NetManager

open Library

/-! ### Cells -/

/-- One written value. -/
inductive ParcelCell
  | bool (value : Bool)
  | uint8 (value : UInt8)
  | uint16 (value : UInt16)
  | uint32 (value : UInt32)
  | uint64 (value : UInt64)
  | int32 (value : Int32)
  | string (value : String)
  | interfaceToken (descriptor : String)
deriving DecidableEq, Repr

/-- What works on a parcel. The source returns `false` or a null pointer where this fails. -/
abbrev ParcelM := CellM ParcelCell

namespace Parcel

def writeBool (value : Bool) : ParcelM Unit := writeCell (.bool value)
def writeUint8 (value : UInt8) : ParcelM Unit := writeCell (.uint8 value)
def writeUint16 (value : UInt16) : ParcelM Unit := writeCell (.uint16 value)
def writeUint32 (value : UInt32) : ParcelM Unit := writeCell (.uint32 value)
def writeUint64 (value : UInt64) : ParcelM Unit := writeCell (.uint64 value)
def writeInt32 (value : Int32) : ParcelM Unit := writeCell (.int32 value)
def writeString (value : String) : ParcelM Unit := writeCell (.string value)

def writeInterfaceToken (descriptor : String) : ParcelM Unit :=
  writeCell (.interfaceToken descriptor)

def readBool : ParcelM Bool := readCell fun
  | .bool value => some value
  | _ => none

def readUint8 : ParcelM UInt8 := readCell fun
  | .uint8 value => some value
  | _ => none

def readUint16 : ParcelM UInt16 := readCell fun
  | .uint16 value => some value
  | _ => none

def readUint32 : ParcelM UInt32 := readCell fun
  | .uint32 value => some value
  | _ => none

def readUint64 : ParcelM UInt64 := readCell fun
  | .uint64 value => some value
  | _ => none

def readInt32 : ParcelM Int32 := readCell fun
  | .int32 value => some value
  | _ => none

def readString : ParcelM String := readCell fun
  | .string value => some value
  | _ => none

def readInterfaceToken : ParcelM String := readCell fun
  | .interfaceToken descriptor => some descriptor
  | _ => none

theorem exact_readBool : Exact readBool (fun value => [.bool value]) fun _ => True :=
  exact_cell (by rintro (_ | _) value <;> simp)

theorem exact_readUint8 : Exact readUint8 (fun value => [.uint8 value]) fun _ => True :=
  exact_cell (by rintro (_ | _) value <;> simp)

theorem exact_readUint16 : Exact readUint16 (fun value => [.uint16 value]) fun _ => True :=
  exact_cell (by rintro (_ | _) value <;> simp)

theorem exact_readUint32 : Exact readUint32 (fun value => [.uint32 value]) fun _ => True :=
  exact_cell (by rintro (_ | _) value <;> simp)

theorem exact_readUint64 : Exact readUint64 (fun value => [.uint64 value]) fun _ => True :=
  exact_cell (by rintro (_ | _) value <;> simp)

theorem exact_readInt32 : Exact readInt32 (fun value => [.int32 value]) fun _ => True :=
  exact_cell (by rintro (_ | _) value <;> simp)

theorem exact_readString : Exact readString (fun value => [.string value]) fun _ => True :=
  exact_cell (by rintro (_ | _) value <;> simp)

theorem exact_readInterfaceToken :
    Exact readInterfaceToken (fun descriptor => [.interfaceToken descriptor]) fun _ => True :=
  exact_cell (by rintro (_ | _) value <;> simp)

/-- The name of the interface stands before the data of a request. -/
theorem run_readInterfaceToken (descriptor : String) (data : List ParcelCell) :
    readInterfaceToken.run (.interfaceToken descriptor :: data) = some (descriptor, data) :=
  exact_readInterfaceToken.reads_cells trivial data

/-! ### Lists -/

/-- Write the length of a list, then its items. -/
def writeList {Item : Type} (write : Item → ParcelM Unit) (items : List Item) : ParcelM Unit := do
  writeUint32 (UInt32.ofNat items.length)
  items.forM write

/-- Read a length, then so many items. -/
def readList {Item : Type} (read : ParcelM Item) : ParcelM (List Item) := do
  let size ← readUint32
  readMany read size.toNat

/-- The cells of a list. -/
def listCells {Item : Type} (encode : Item → List ParcelCell) (items : List Item) :
    List ParcelCell :=
  .uint32 (UInt32.ofNat items.length) :: items.flatMap encode

theorem writes_list {Item : Type} {write : Item → ParcelM Unit}
    {encode : Item → List ParcelCell} (writes : ∀ item, Writes (write item) (encode item))
    (items : List Item) : Writes (writeList write items) (listCells encode items) :=
  (writes_cell _).andThen (writes_forM writes items)

theorem exact_list {Item : Type} {read : ParcelM Item} {encode : Item → List ParcelCell}
    (reads : Exact read encode fun _ => True) :
    Exact (readList read) (listCells encode) fun items => items.length < 2 ^ 32 := by
  refine (exact_readUint32.counted reads UInt32.toNat UInt32.ofNat (2 ^ 32) UInt32.toNat_lt
    (fun count => UInt32.ofNat_toNat) (fun length few => ?_)).congr (fun items => ?_)
    (fun items _ => rfl)
  · exact UInt32.toNat_ofNat_of_lt' few
  · exact and_iff_left fun _ _ => trivial

end Parcel

end NetManager
