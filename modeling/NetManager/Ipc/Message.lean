/-
This file models the parcels of the calls that carry more than plain values: remote objects, and
the vectors that a parcel writes as a whole. What is known of plain values holds among them.
-/

import NetManager.Ipc.Parcel
import NetManager.Library.MixedCells

namespace NetManager

open Library

/-- What a parcel can hold besides plain values. A remote object is known by its identity. -/
inductive Attachment
  | remoteObject (object : Nat)
  | uint32Vector (value : List UInt32)
deriving DecidableEq, Repr

/-- One written value or attachment. -/
abbrev MessageCell := ParcelCell ⊕ Attachment

/-- What reads and writes a parcel with attachments, or fails. -/
abbrev MessageM := CellM MessageCell

namespace Message

/-- Write plain values. -/
def plain (values : ParcelM Unit) : MessageM Unit := writeAmong values

/-- `Parcel::WriteRemoteObject`. -/
def writeRemoteObject (object : Nat) : MessageM Unit := writeCell (.inr (.remoteObject object))

/-- `Parcel::ReadRemoteObject`. What is no remote object is read as a null pointer. -/
def readRemoteObject : List MessageCell → Option Nat
  | .inr (.remoteObject object) :: _ => some object
  | _ => none

/-- `Parcel::WriteUInt32Vector`. -/
def writeUint32Vector (value : List UInt32) : MessageM Unit :=
  writeCell (.inr (.uint32Vector value))

/-- `Parcel::ReadUInt32Vector`. -/
def readUint32Vector : MessageM (List UInt32) := readCell fun
  | .inr (.uint32Vector value) => some value
  | _ => none

/-- Read plain values, or take it that the pointer to them is null. Nothing is read after them. -/
def orNull {Value : Type} (values : ParcelM Value) : MessageM (Option Value) := fun cells =>
  some (((among values).run cells).elim (none, cells) fun (value, rest) => (some value, rest))

/-- What can be read is no null pointer. -/
theorem run_orNull {Value : Type} {values : ParcelM Value} {encode : Value → List ParcelCell}
    {Allowed : Value → Prop} (reads : Exact values encode Allowed) {value : Value}
    (allowed : Allowed value) (rest : List MessageCell) :
    (orNull values).run ((encode value).map Sum.inl ++ rest) = some (some value, rest) := by
  show some (((among values).run _).elim _ _) = _
  rw [reads.among.reads_cells allowed]
  rfl

/-- A pointer that is not null was read from the cells of the value. -/
theorem orNull_some {Value : Type} {values : ParcelM Value} {encode : Value → List ParcelCell}
    {Allowed : Value → Prop} (reads : Exact values encode Allowed) {value : Value}
    {cells rest : List MessageCell}
    (read : (orNull values).run cells = some (some value, rest)) :
    cells = (encode value).map Sum.inl ++ rest := by
  have same : ((among values).run cells).elim (none, cells)
      (fun (value, rest) => (some value, rest)) = (some value, rest) := Option.some.inj read
  cases found : (among values).run cells with
  | none =>
    rw [found] at same
    cases same
  | some pair =>
    rw [found] at same
    obtain ⟨⟩ := Prod.mk.inj same
    cases same
    exact ((reads.among _ _ _).mp found).2

/-- The remote object of a proxy. There may be none, or it may return an error without delivering
the message; or it delivers it to the stub. -/
inductive Remote
  | null
  | broken (error : Int)
  | stub
deriving DecidableEq

/-- The name of the interface that a request starts with, which is empty when there is none, and
the data that follows it. -/
def interfaceToken (data : List MessageCell) : String × List MessageCell :=
  ((among Parcel.readInterfaceToken).run data).getD ("", data)

theorem interfaceToken_cons (descriptor : String) (data : List MessageCell) :
    interfaceToken (.inl (.interfaceToken descriptor) :: data) = (descriptor, data) := by
  unfold interfaceToken
  rw [show (among Parcel.readInterfaceToken).run (.inl (.interfaceToken descriptor) :: data) =
    some (descriptor, data) from Parcel.exact_readInterfaceToken.among.reads_cells trivial data]
  rfl

/-- Who names an interface says so in the first cell. -/
theorem interfaceToken_eq {descriptor : String} (named : descriptor ≠ "")
    {data rest : List MessageCell} (read : interfaceToken data = (descriptor, rest)) :
    data = .inl (.interfaceToken descriptor) :: rest := by
  unfold interfaceToken at read
  cases found : (among Parcel.readInterfaceToken).run data with
  | none =>
    rw [found, Option.getD_none] at read
    exact absurd (congrArg Prod.fst read).symm named
  | some pair =>
    rw [found, Option.getD_some] at read
    obtain ⟨_, split⟩ := (Parcel.exact_readInterfaceToken.among _ _ _).mp (found.trans
      (congrArg some read))
    exact split

end Message

end NetManager
