/-
This file models how interface configurations travel through parcels.
-/

import NetManager.Ethernet.DevInterfaceState
import NetManager.Ipc.LinkInfoFormat

namespace NetManager

open Library Parcel

namespace StaticConfiguration

/-- `StaticConfiguration::Marshalling`. -/
def marshalling (this : StaticConfiguration) : ParcelM Unit := do
  this.ipAddr.marshalling
  this.route.marshalling
  this.gate.marshalling
  this.netMask.marshalling
  writeList INetAddr.marshalling this.dnsServers
  writeString this.domain

/-- `StaticConfiguration::Unmarshalling`. -/
def unmarshalling : ParcelM StaticConfiguration := do
  let ipAddr ← INetAddr.unmarshalling
  let route ← INetAddr.unmarshalling
  let gate ← INetAddr.unmarshalling
  let netMask ← INetAddr.unmarshalling
  let dnsServers ← readList INetAddr.unmarshalling
  let domain ← readString
  return { ipAddr, route, gate, netMask, dnsServers, domain }

/-- The cells of a static configuration. -/
def cells (this : StaticConfiguration) : List ParcelCell :=
  this.ipAddr.cells ++ (this.route.cells ++ (this.gate.cells ++ (this.netMask.cells ++
    (listCells INetAddr.cells this.dnsServers ++ [.string this.domain]))))

/-- The length of the list of DNS servers can be written. -/
def ListFits (this : StaticConfiguration) : Prop := this.dnsServers.length < 2 ^ 32

instance (this : StaticConfiguration) : Decidable this.ListFits :=
  inferInstanceAs (Decidable (this.dnsServers.length < 2 ^ 32))

theorem writes_marshalling (this : StaticConfiguration) : Writes this.marshalling this.cells :=
  (INetAddr.writes_marshalling _).andThen <| (INetAddr.writes_marshalling _).andThen <|
    (INetAddr.writes_marshalling _).andThen <| (INetAddr.writes_marshalling _).andThen <|
    (writes_list INetAddr.writes_marshalling _).andThen (writes_cell _)

theorem exact_unmarshalling : Exact unmarshalling cells ListFits := by
  have readsAddress := INetAddr.exact_unmarshalling
  have reads :=
    readsAddress.field ipAddr (fun _ _ allowed => congrArg ipAddr allowed.2) fun _ =>
    readsAddress.field route (fun _ _ allowed => congrArg route allowed.2) fun _ =>
    readsAddress.field gate (fun _ _ allowed => congrArg gate allowed.2) fun _ =>
    readsAddress.field netMask (fun _ _ allowed => congrArg netMask allowed.2) fun _ =>
    (exact_list readsAddress).bind dnsServers (fun _ _ => congrArg dnsServers) fun _ =>
    exact_readString.field domain (fun _ _ => congrArg domain) fun _ =>
    exact_pure (StaticConfiguration.mk _ _ _ _ _ _)
  exact reads.congr (fun _ => and_iff_left rfl) fun _ _ => rfl

end StaticConfiguration

namespace InterfaceConfiguration

/-- `InterfaceConfiguration::Marshalling`. -/
def marshalling (this : InterfaceConfiguration) : ParcelM Unit := do
  writeInt32 this.mode.value
  this.ipStatic.marshalling

/-- `InterfaceConfiguration::Unmarshalling`. -/
def unmarshalling : ParcelM InterfaceConfiguration := do
  let mode ← readInt32
  let ipStatic ← StaticConfiguration.unmarshalling
  return { mode := ⟨mode⟩, ipStatic }

/-- The cells of an interface configuration. -/
def cells (this : InterfaceConfiguration) : List ParcelCell :=
  .int32 this.mode.value :: this.ipStatic.cells

theorem writes_marshalling (this : InterfaceConfiguration) :
    Writes this.marshalling this.cells :=
  (writes_cell _).andThen this.ipStatic.writes_marshalling

theorem exact_unmarshalling :
    Exact unmarshalling cells fun this => this.ipStatic.ListFits := by
  have reads :=
    exact_readInt32.field (fun this => this.mode.value)
      (fun _ _ allowed => congrArg (fun this => this.mode.value) allowed.2) fun _ =>
    StaticConfiguration.exact_unmarshalling.bind ipStatic (fun _ _ => congrArg ipStatic) fun _ =>
    exact_pure (InterfaceConfiguration.mk _ _)
  refine reads.congr (fun _ => and_iff_left rfl) fun this _ => ?_
  rw [List.append_nil]
  rfl

end InterfaceConfiguration

end NetManager
