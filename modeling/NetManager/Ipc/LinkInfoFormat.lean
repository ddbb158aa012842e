/-
This file models how addresses, routes and link information travel through parcels. Each type has
two writers, one that is a member and one that takes a pointer, and one reader. The reader reads a
value from the cells that either writer writes, and from no others.
-/

import NetManager.Ipc.Parcel

namespace NetManager

open Library Parcel

/-! ### Addresses -/

namespace INetAddr

/-- `INetAddr::Marshalling`. -/
def marshalling (this : INetAddr) : ParcelM Unit := do
  writeUint8 this.type
  writeUint8 this.family
  writeUint8 this.prefixlen
  writeString this.address
  writeString this.netMask
  writeString this.hostName

/-- `INetAddr::Marshalling(parcel, object)`. -/
def marshallingObject : Option INetAddr → ParcelM Unit
  | none => failure
  | some object => do
    writeUint8 object.type
    writeUint8 object.family
    writeUint8 object.prefixlen
    writeString object.address
    writeString object.netMask
    writeString object.hostName

/-- `INetAddr::Unmarshalling`. -/
def unmarshalling : ParcelM INetAddr := do
  let type ← readUint8
  let family ← readUint8
  let prefixlen ← readUint8
  let address ← readString
  let netMask ← readString
  let hostName ← readString
  return { type, family, prefixlen, address, netMask, hostName }

/-- The cells of an address. -/
def cells (this : INetAddr) : List ParcelCell :=
  [.uint8 this.type, .uint8 this.family, .uint8 this.prefixlen, .string this.address,
    .string this.netMask, .string this.hostName]

theorem writes_marshalling (this : INetAddr) : Writes this.marshalling this.cells :=
  (writes_cell _).andThen <| (writes_cell _).andThen <| (writes_cell _).andThen <|
    (writes_cell _).andThen <| (writes_cell _).andThen (writes_cell _)

theorem exact_unmarshalling : Exact unmarshalling cells fun _ => True := by
  have reads :=
    exact_readUint8.field type (fun _ _ => congrArg type) fun _ =>
    exact_readUint8.field family (fun _ _ => congrArg family) fun _ =>
    exact_readUint8.field prefixlen (fun _ _ => congrArg prefixlen) fun _ =>
    exact_readString.field address (fun _ _ => congrArg address) fun _ =>
    exact_readString.field netMask (fun _ _ => congrArg netMask) fun _ =>
    exact_readString.field hostName (fun _ _ => congrArg hostName) fun _ =>
    exact_pure (INetAddr.mk _ _ _ _ _ _)
  exact reads.congr (fun _ => iff_true_intro rfl) fun _ _ => rfl

end INetAddr

/-! ### Routes -/

namespace Route

/-- `Route::Marshalling`. -/
def marshalling (this : Route) : ParcelM Unit := do
  writeString this.iface
  this.destination.marshalling
  this.gateway.marshalling

/-- `Route::Marshalling(parcel, object)`. -/
def marshallingObject : Option Route → ParcelM Unit
  | none => failure
  | some object => do
    writeString object.iface
    object.destination.marshalling
    object.gateway.marshalling

/-- `Route::Unmarshalling`. -/
def unmarshalling : ParcelM Route := do
  let iface ← readString
  let destination ← INetAddr.unmarshalling
  let gateway ← INetAddr.unmarshalling
  return { iface, destination, gateway }

/-- The cells of a route. -/
def cells (this : Route) : List ParcelCell :=
  .string this.iface :: (this.destination.cells ++ this.gateway.cells)

theorem writes_marshalling (this : Route) : Writes this.marshalling this.cells :=
  (writes_cell _).andThen <|
    this.destination.writes_marshalling.andThen this.gateway.writes_marshalling

theorem exact_unmarshalling : Exact unmarshalling cells fun _ => True := by
  have reads :=
    exact_readString.field iface (fun _ _ => congrArg iface) fun _ =>
    INetAddr.exact_unmarshalling.field destination (fun _ _ => congrArg destination) fun _ =>
    INetAddr.exact_unmarshalling.field gateway (fun _ _ => congrArg gateway) fun _ =>
    exact_pure (Route.mk _ _ _)
  refine reads.congr (fun _ => iff_true_intro rfl) fun this _ => ?_
  rw [List.append_nil]
  rfl

end Route

/-! ### Link information -/

namespace NetLinkInfo

/-- `NetLinkInfo::Marshalling`. -/
def marshalling (this : NetLinkInfo) : ParcelM Unit := do
  writeString this.ifaceName
  writeString this.domain
  writeList INetAddr.marshalling this.netAddrList
  writeList INetAddr.marshalling this.dnsList
  writeList Route.marshalling this.routeList
  writeUint16 this.mtu

/-- `NetLinkInfo::Marshalling(parcel, object)`. -/
def marshallingObject : Option NetLinkInfo → ParcelM Unit
  | none => failure
  | some object => do
    writeString object.ifaceName
    writeString object.domain
    writeList INetAddr.marshalling object.netAddrList
    writeList INetAddr.marshalling object.dnsList
    writeList Route.marshalling object.routeList
    writeUint16 object.mtu

/-- `NetLinkInfo::Unmarshalling`. -/
def unmarshalling : ParcelM NetLinkInfo := do
  let ifaceName ← readString
  let domain ← readString
  let netAddrList ← readList INetAddr.unmarshalling
  let dnsList ← readList INetAddr.unmarshalling
  let routeList ← readList Route.unmarshalling
  let mtu ← readUint16
  return { ifaceName, domain, netAddrList, dnsList, routeList, mtu }

/-- The cells of link information. -/
def cells (this : NetLinkInfo) : List ParcelCell :=
  .string this.ifaceName :: .string this.domain ::
    (listCells INetAddr.cells this.netAddrList ++ (listCells INetAddr.cells this.dnsList ++
      (listCells Route.cells this.routeList ++ [.uint16 this.mtu])))

theorem writes_marshalling (this : NetLinkInfo) : Writes this.marshalling this.cells :=
  (writes_cell _).andThen <| (writes_cell _).andThen <|
    (writes_list INetAddr.writes_marshalling _).andThen <|
    (writes_list INetAddr.writes_marshalling _).andThen <|
    (writes_list Route.writes_marshalling _).andThen (writes_cell _)

/-- The lengths of the three lists can be written. -/
structure ListsFit (this : NetLinkInfo) : Prop where
  netAddrList : this.netAddrList.length < 2 ^ 32
  dnsList : this.dnsList.length < 2 ^ 32
  routeList : this.routeList.length < 2 ^ 32

theorem exact_unmarshalling : Exact unmarshalling cells ListsFit := by
  have readsAddresses := exact_list INetAddr.exact_unmarshalling
  have reads :=
    exact_readString.field ifaceName (fun _ _ allowed => congrArg ifaceName allowed.2.2.2)
    fun _ => exact_readString.field domain (fun _ _ allowed => congrArg domain allowed.2.2.2)
    fun _ => readsAddresses.bind netAddrList
      (fun _ _ allowed => congrArg netAddrList allowed.2.2)
    fun _ => readsAddresses.bind dnsList (fun _ _ allowed => congrArg dnsList allowed.2)
    fun _ => (exact_list Route.exact_unmarshalling).bind routeList
      (fun _ _ => congrArg routeList)
    fun _ => exact_readUint16.field mtu (fun _ _ => congrArg mtu)
    fun _ => exact_pure (NetLinkInfo.mk _ _ _ _ _ _)
  refine reads.congr (fun this => ?_) fun _ _ => rfl
  constructor
  · rintro ⟨netAddrs, dns, routes, _⟩
    exact ⟨netAddrs, dns, routes⟩
  · rintro ⟨netAddrs, dns, routes⟩
    exact ⟨netAddrs, dns, routes, rfl⟩

/-- Link information is read from exactly the cells it is written to, and the two writers of each
type write the same. -/
theorem wire_format (this : NetLinkInfo) (netAddrs : this.netAddrList.length < 2 ^ 32)
    (dns : this.dnsList.length < 2 ^ 32) (routes : this.routeList.length < 2 ^ 32) :
    (∀ parcel rest, unmarshalling.run parcel = some (this, rest) ↔
      ∃ written, this.marshalling.run [] = some ((), written) ∧ parcel = written ++ rest) ∧
    (∀ (object : NetLinkInfo) (parcel : List ParcelCell),
      (marshallingObject (some object)).run parcel = object.marshalling.run parcel) ∧
    (∀ (object : Route) (parcel : List ParcelCell),
      (Route.marshallingObject (some object)).run parcel = object.marshalling.run parcel) ∧
    ∀ (object : INetAddr) (parcel : List ParcelCell),
      (INetAddr.marshallingObject (some object)).run parcel = object.marshalling.run parcel :=
  ⟨exact_unmarshalling.read_iff_written writes_marshalling ⟨netAddrs, dns, routes⟩,
    fun _ _ => rfl, fun _ _ => rfl, fun _ _ => rfl⟩

/-- Link information with an address and a route is read back from what was written, with what
follows it left over. -/
theorem wire_format_example :
    let info : NetLinkInfo := {
      ifaceName := "eth0"
      netAddrList := [{ address := "192.168.2.0" }]
      routeList := [{ iface := "eth0", destination := { address := "0.0.0.0" } }]
      mtu := 1500 }
    unmarshalling.run (info.cells ++ [.int32 7]) = some (info, [.int32 7]) := by
  intro info
  refine ((wire_format info (by decide) (by decide) (by decide)).1 _ _).mpr ⟨info.cells, ?_, rfl⟩
  exact writes_marshalling info []

end NetLinkInfo

end NetManager
