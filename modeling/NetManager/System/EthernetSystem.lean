/-
This file puts the Ethernet manager and the connection service together. The manager holds its
lock while it makes its calls, so nothing else happens to a device until they have returned; but
the service answers one request after the other, and those of other clients come in between. A call
that was made and has not reached the service yet is under way.

The manager asks for nothing but the id of a supplier. So the service can be seen as the directory
it is, and a step of the system as what it does to the devices, to the calls under way and to the
entries of the directory.
-/

import NetManager.Conn.DirectoryRefinement
import NetManager.Ethernet.HeldSuppliers

namespace NetManager

open Library

/-- The manager, the interfaces `Init` has still to add, the calls under way with the interfaces
they are made for, and the connection service. -/
structure EthernetSystem where
  linkInfos : List NlkEventInfo
  ethernet : EthernetManagement
  underWay : List (String × DeviceCall) := []
  connection : NetConnService

/-- The request that the connection service sees of a call. A registration waits for its answer,
so it is never under way, and the other calls go to the kernel and to the DHCP service. -/
def DeviceCall.request : DeviceCall → Option NetConnService.Action
  | .updateNetSupplierInfo netSupplier netSupplierInfo =>
    some (.updateNetSupplierInfo (UInt32.ofInt netSupplier) (some netSupplierInfo))
  | .updateNetLinkInfo netSupplier linkInfo =>
    some (.updateNetLinkInfo (UInt32.ofInt netSupplier) (some linkInfo))
  | _ => none

namespace EthernetManagement

open DevInterfaceState

/-- The device `Init` makes of an interface, as it is when its registration was answered. -/
def registerDevice (info : NlkEventInfo) (supplierId : Int) : DevInterfaceState :=
  let configured := ({} : DevInterfaceState).setIfcfg { mode := .static }
  let named := { configured with
    devName := info.iface, linkUp := info.up, lowerUp := info.lowerUp }
  named.remoteRegisterNetSupplier supplierId

/-- The calls made for a device from one moment to another. -/
def callsBetween (before after : DevInterfaceState) : List DeviceCall :=
  (after.sent.drop before.sent.length).map SentCall.call

end EthernetManagement

namespace EthernetSystem

open EthernetManagement

/-! ### Steps -/

/-- What can happen: `Init` goes on to the next interface, the manager handles an event or a
request, a call under way arrives, or another client or a timer calls the service. -/
inductive Action
  | addDevice
  | ethernet (action : EthernetManagement.Action)
  | deliver
  | client (action : NetConnService.Action)

/-- What `Init` does with one interface. -/
def register (this : EthernetSystem) (info : NlkEventInfo) : EthernetSystem :=
  if info.iface = "" then this
  else
    let registration := this.connection.perform (.registerNetSupplier NetworkType.ethernet.code
      info.iface NetCapabilities.internet.code)
    let answers :=
      Function.update this.ethernet.answers this.ethernet.registrations registration.1
    { this with
      ethernet := { this.ethernet with answers := answers }.addDevice info
      underWay := (callsBetween (registerDevice info registration.1)
        (makeDevice info registration.1)).map (info.iface, ·)
      connection := registration.2 }

/-- What the manager does. -/
def act (this : EthernetSystem) (action : EthernetManagement.Action) : EthernetSystem :=
  let after := this.ethernet.step action
  { this with
    ethernet := after
    underWay :=
      match this.ethernet.devs.read action.iface, after.devs.read action.iface with
      | some before, some after => (callsBetween before after).map (action.iface, ·)
      | _, _ => [] }

/-- The system after an action. The manager goes on when its calls have returned, and handles
events and requests when `Init` is done. -/
def step (this : EthernetSystem) : Action → EthernetSystem
  | .addDevice =>
    match this.underWay, this.linkInfos with
    | [], info :: rest => { this with linkInfos := rest }.register info
    | _, _ => this
  | .ethernet action =>
    match this.underWay, this.linkInfos with
    | [], [] => this.act action
    | _, _ => this
  | .deliver =>
    match this.underWay with
    | [] => this
    | (_, call) :: rest =>
      { this with
        underWay := rest
        connection := call.request.elim this.connection this.connection.step }
  | .client action => { this with connection := this.connection.step action }

/-- The system as the services start, for the interfaces the kernel lists. -/
def start (answers : Nat → Int) (linkInfos : List NlkEventInfo) : EthernetSystem where
  linkInfos := linkInfos
  ethernet := { answers := fun _ => 0 }
  connection := .start answers

/-- The calls under way for an interface. -/
def underWayFor (this : EthernetSystem) (dev : String) : List DeviceCall :=
  (this.underWay.filter fun call => call.1 = dev).map Prod.snd

/-- Other clients leave the suppliers of Ethernet to the manager. -/
def LeavesEthernet (this : EthernetSystem) : Action → Prop
  | .client action =>
    (∀ netType ident netCapabilities,
      action = .registerNetSupplier netType ident netCapabilities →
        netType ≠ NetworkType.ethernet.code) ∧
    ∀ supplierId supplier, action.supplierId? = some supplierId →
      this.connection.getNetSupplierFromListById supplierId = some supplier →
        (this.connection.world.supplier supplier).netSupplierType ≠ .ethernet
  | _ => True

end EthernetSystem

end NetManager
