/-
This file models an Ethernet interface of the Ethernet manager: its configuration, its link
information and the state of its registration with the connection service. A device keeps a
record of the calls made for it, each with the link state and the configuration it had at that
moment; nothing reads the record.
-/

import NetManager.Conn.Types
import NetManager.Library.Log

namespace NetManager

/-! ### Configurations -/

/-- `IPSetMode` of `interface_configuration.h`. It is cast from an `int32_t` of a parcel, which can
make a value without a name. -/
structure IPSetMode where
  value : Int32
deriving DecidableEq, Repr

namespace IPSetMode

def static : IPSetMode := ⟨0⟩
def dhcp : IPSetMode := ⟨1⟩

end IPSetMode

/-- `StaticConfiguration` of `static_configuration.h`. -/
structure StaticConfiguration where
  ipAddr : INetAddr := {}
  route : INetAddr := {}
  gate : INetAddr := {}
  netMask : INetAddr := {}
  dnsServers : List INetAddr := []
  domain : String := ""
deriving DecidableEq, Repr

/-- `InterfaceConfiguration` of `interface_configuration.h`. -/
structure InterfaceConfiguration where
  mode : IPSetMode
  ipStatic : StaticConfiguration := {}
deriving DecidableEq, Repr

/-- The members of `DhcpResult` that the Ethernet manager reads. -/
structure DhcpResult where
  iptype : Int
  strYourCli : String
  strServer : String
  strRouter1 : String
  strRouter2 : String
  strDns1 : String
  strDns2 : String
deriving DecidableEq, Repr

/-! ### Calls -/

/-- `ConnLinkState` of `dev_interface_state.h`. -/
inductive ConnLinkState
  | registered
  | unregistered
  | linkAvailable
  | linkUnavailable
deriving DecidableEq, Repr

/-- The calls made for a device: to the connection service, to the DHCP service and to the
kernel. -/
inductive DeviceCall
  | registerNetSupplier (networkType : NetworkType) (devName : String) (netCapabilities : UInt64)
  | updateNetSupplierInfo (netSupplier : Int) (netSupplierInfo : NetSupplierInfo)
  | updateNetLinkInfo (netSupplier : Int) (linkInfo : NetLinkInfo)
  | setIpAddr (devName : String) (address : String)
  | startDhcpClient (dev : String) (ipv6 : Bool)
  | stopDhcpClient (dev : String) (ipv6 : Bool)
  | getDhcpResult (dev : String) (timeout : Int)
deriving DecidableEq, Repr

/-- A call, with the link state and the configuration of the device when it was made. -/
structure SentCall where
  connLinkState : ConnLinkState
  ifcfg : Option InterfaceConfiguration
  call : DeviceCall
deriving DecidableEq, Repr

namespace SentCall

/-- The supplier information of a call of `UpdateNetSupplierInfo`. -/
def supplierInfo (sent : SentCall) : Option NetSupplierInfo :=
  match sent.call with
  | .updateNetSupplierInfo _ netSupplierInfo => some netSupplierInfo
  | _ => none

/-- The link information of a call of `UpdateNetLinkInfo`. -/
def linkInfo (sent : SentCall) : Option NetLinkInfo :=
  match sent.call with
  | .updateNetLinkInfo _ linkInfo => some linkInfo
  | _ => none

end SentCall

/-! ### Devices -/

/-- `DevInterfaceState` of `dev_interface_state.h`. Its supplier information is never null: the
constructor makes it. -/
structure DevInterfaceState where
  connLinkState : ConnLinkState := .unregistered
  netSupplier : Int := 0
  devName : String := ""
  linkUp : Bool := false
  lowerUp : Bool := false
  dhcpReqState : Bool := false
  linkInfo : Option NetLinkInfo := none
  netSupplierInfo : NetSupplierInfo := {}
  ifcfg : Option InterfaceConfiguration := none
  netCapabilities : UInt64 := NetCapabilities.internet.code
  sent : List SentCall := []
deriving DecidableEq, Repr

namespace DevInterfaceState

/-- `MINIMUM_SUPPLIER_ID`. -/
def minimumSupplierId : Int := 1000

/-- Make a call for the device. -/
def send (this : DevInterfaceState) (call : DeviceCall) : DevInterfaceState :=
  { this with sent := this.sent ++ [⟨this.connLinkState, this.ifcfg, call⟩] }

/-- What was sent by `UpdateNetSupplierInfo`, the last at the end. -/
def supplierInfosSent (this : DevInterfaceState) : List NetSupplierInfo :=
  this.sent.filterMap SentCall.supplierInfo

/-- What was sent by `UpdateNetLinkInfo`, the last at the end. -/
def linkInfosSent (this : DevInterfaceState) : List NetLinkInfo :=
  this.sent.filterMap SentCall.linkInfo

/-- `DevInterfaceState::GetIPSetMode`. -/
def getIPSetMode (this : DevInterfaceState) : IPSetMode :=
  match this.ifcfg with
  | none => .static
  | some ifcfg => ifcfg.mode

/-- `DevInterfaceState::RemoteRegisterNetSupplier`, when the connection service answers
`supplierId`. -/
def remoteRegisterNetSupplier (this : DevInterfaceState) (supplierId : Int) : DevInterfaceState :=
  if this.connLinkState = .unregistered then
    let asked := this.send (.registerNetSupplier .ethernet this.devName this.netCapabilities)
    { asked with
      netSupplier := supplierId
      connLinkState := if supplierId > minimumSupplierId then .registered else .unregistered }
  else this

/-- `DevInterfaceState::RemoteUpdateNetLinkInfo`. No caller reads what it returns. -/
def remoteUpdateNetLinkInfo (this : DevInterfaceState) : DevInterfaceState :=
  if this.connLinkState = .linkUnavailable then this
  else
    match this.linkInfo with
    | none => this
    | some linkInfo => this.send (.updateNetLinkInfo this.netSupplier linkInfo)

/-- `DevInterfaceState::UpdateSupplierAvailable`. -/
def updateSupplierAvailable (this : DevInterfaceState) : DevInterfaceState :=
  let isAvailable := this.linkUp && this.lowerUp
  { this with
    netSupplierInfo := { this.netSupplierInfo with isAvailable := isAvailable }
    connLinkState := if isAvailable then .linkAvailable else .linkUnavailable }

/-- `DevInterfaceState::RemoteUpdateNetSupplierInfo`. No caller reads what it returns. -/
def remoteUpdateNetSupplierInfo (this : DevInterfaceState) : DevInterfaceState :=
  if this.connLinkState = .unregistered then this
  else
    let updated := this.updateSupplierAvailable
    updated.send (.updateNetSupplierInfo updated.netSupplier updated.netSupplierInfo)

/-- The link information of a static configuration, in place of the lists of another one. -/
def staticLinkInfo (devName : String) (ipStatic : StaticConfiguration) (linkInfo : NetLinkInfo) :
    NetLinkInfo :=
  { linkInfo with
    netAddrList := [ipStatic.ipAddr]
    routeList := [{ iface := devName, destination := ipStatic.route, gateway := ipStatic.gate }]
    dnsList := ipStatic.dnsServers }

/-- `DevInterfaceState::UpdateLinkInfo()`. It is called only with a configuration, for which its
test lets every mode pass. -/
def updateLinkInfo (this : DevInterfaceState) : DevInterfaceState :=
  match this.ifcfg with
  | none => this
  | some ifcfg =>
    { this with
      linkInfo := some (staticLinkInfo this.devName ifcfg.ipStatic (this.linkInfo.getD {})) }

/-- The route `DevInterfaceState::UpdateLinkInfo(iface, result)` adds for one of the two routers. -/
def dhcpRoute (iface : String) (result : DhcpResult) (strRouter : String) : List Route :=
  if result.strServer ≠ strRouter then
    [{ iface := iface
       destination := { address := if strRouter = "*" then "0.0.0.0" else strRouter }
       gateway := { address := result.strServer } }]
  else []

/-- The link information of a DHCP result. The addresses and routes replace the old ones, the DNS
servers are added to the old ones. -/
def dhcpLinkInfo (iface : String) (result : DhcpResult) (linkInfo : NetLinkInfo) : NetLinkInfo :=
  let ipAddr : INetAddr := { type := UInt8.ofInt result.iptype, address := result.strYourCli }
  { linkInfo with
    netAddrList := [ipAddr]
    routeList := dhcpRoute iface result result.strRouter1 ++
      dhcpRoute iface result result.strRouter2
    dnsList := linkInfo.dnsList ++
      [{ ipAddr with address := result.strDns1 }, { ipAddr with address := result.strDns2 }] }

/-- `DevInterfaceState::UpdateLinkInfo(iface, result)`. -/
def updateLinkInfoDhcp (this : DevInterfaceState) (iface : String) (result : DhcpResult) :
    DevInterfaceState :=
  { this with linkInfo := some (dhcpLinkInfo iface result (this.linkInfo.getD {})) }

/-- `DevInterfaceState::SetIpAddr`. -/
def setIpAddr (this : DevInterfaceState) : DevInterfaceState :=
  match this.ifcfg with
  | none => this
  | some ifcfg => this.send (.setIpAddr this.devName ifcfg.ipStatic.ipAddr.address)

/-- `DevInterfaceState::SetIfcfg`. -/
def setIfcfg (this : DevInterfaceState) (ifcfg : InterfaceConfiguration) : DevInterfaceState :=
  let configured := { this with ifcfg := some ifcfg }
  if ifcfg.mode = .static then
    let addressed := configured.updateLinkInfo.setIpAddr
    if addressed.connLinkState = .linkAvailable then addressed.remoteUpdateNetLinkInfo
    else addressed
  else configured

end DevInterfaceState

end NetManager
