/-
This file holds the value types of the connection manager: the enumerations of
the net types, the capabilities, the service states and the result codes, and
the records clients pass in. Enumerations keep the numbers the source gives
them, because masks, callbacks and broadcasts carry the numbers.
-/

import Mathlib.Data.Int.Notation

namespace NetManager

/-! ### Enumerations -/

/-- `NetworkType` of `net_specifier.h`. -/
inductive NetworkType
  | unknown
  | cellular
  | ethernet
  | max
deriving DecidableEq, Repr, Inhabited

/-- The number of a net type. -/
def NetworkType.code : NetworkType → UInt32
  | .unknown => 0
  | .cellular => 1
  | .ethernet => 2
  | .max => 3

/-- `static_cast<NetworkType>(netType)`, which the source reaches only for the two numbers
strictly between `NET_TYPE_UNKNOWN` and `NET_TYPE_MAX`. -/
def NetworkType.ofCode (netType : UInt32) : NetworkType :=
  if netType = NetworkType.cellular.code then .cellular
  else if netType = NetworkType.ethernet.code then .ethernet
  else .unknown

theorem NetworkType.code_ofCode {netType : UInt32}
    (valid : ¬(netType ≥ NetworkType.max.code ∨ netType ≤ NetworkType.unknown.code)) :
    (NetworkType.ofCode netType).code = netType := by
  rw [not_or] at valid
  have above : 0 < netType.toNat := Nat.lt_of_not_le valid.2
  have below : netType.toNat < 3 := Nat.lt_of_not_le valid.1
  unfold ofCode
  split
  · rename_i same
    exact same.symm
  · split
    · rename_i same
      exact same.symm
    · rename_i cellular ethernet
      have one : netType.toNat ≠ 1 := fun same => cellular (UInt32.toNat_inj.mp same)
      have two : netType.toNat ≠ 2 := fun same => ethernet (UInt32.toNat_inj.mp same)
      omega

theorem NetworkType.ofCode_code {netType : UInt32} {type : NetworkType}
    (valid : ¬(netType ≥ NetworkType.max.code ∨ netType ≤ NetworkType.unknown.code))
    (same : netType = type.code) : NetworkType.ofCode netType = type := by
  subst same
  cases type with
  | unknown => exact absurd (Or.inr (by decide)) valid
  | cellular => rfl
  | ethernet => rfl
  | max => exact absurd (Or.inl (by decide)) valid

/-- `NetCapabilities` of `net_specifier.h`. -/
inductive NetCapabilities
  | none
  | internet
  | mms
  | max
deriving DecidableEq, Repr, Inhabited

/-- The mask bits of a capability. -/
def NetCapabilities.code : NetCapabilities → UInt64
  | .none => 0
  | .internet => 1
  | .mms => 2
  | .max => 3

/-- `netCapabilities & capability`, read as a condition. -/
def NetCapabilities.isIn (capability : NetCapabilities) (netCapabilities : UInt64) : Bool :=
  netCapabilities &&& capability.code != 0

/-- `ServiceState` of `net_service.h`. -/
inductive ServiceState
  | unknown
  | idle
  | connecting
  | ready
  | connected
  | disconnecting
  | disconnected
  | failure
deriving DecidableEq, Repr, Inhabited

/-- The number of a service state. -/
def ServiceState.code : ServiceState → Int
  | .unknown => 0
  | .idle => 1
  | .connecting => 2
  | .ready => 3
  | .connected => 4
  | .disconnecting => 5
  | .disconnected => 6
  | .failure => 7

/-- The members of `ResultCode` of `net_conn_types.h` that the connection service returns. -/
inductive ResultCode
  | none
  | serviceRequestSuccess
  | serviceRequestConnectFail
  | serviceConnecting
  | serviceConnected
  | serviceDisconnectedFail
  | serviceDisconnecting
  | serviceDisconnectedSuccess
  | serviceNullPtr
  | noSupplier
  | noNetwork
  | invalidParams
  | invalidNetorkType
  | netTypeNotFound
  | noAnyNetType
  | noRegistered
deriving DecidableEq, Repr, Inhabited

/-- The `int32_t` of a result code. -/
def ResultCode.code : ResultCode → Int
  | .none => 0
  | .serviceRequestSuccess => -1
  | .serviceRequestConnectFail => -2
  | .serviceConnecting => -4
  | .serviceConnected => -5
  | .serviceDisconnectedFail => -6
  | .serviceDisconnecting => -7
  | .serviceDisconnectedSuccess => -8
  | .serviceNullPtr => -9
  | .noSupplier => -10
  | .noNetwork => -11
  | .invalidParams => -12
  | .invalidNetorkType => -13
  | .netTypeNotFound => -18
  | .noAnyNetType => -19
  | .noRegistered => -20

/-- No error is a positive number. -/
theorem ResultCode.code_nonpos (result : ResultCode) : result.code ≤ 0 := by
  cases result <;> decide

/-! ### Machine integers -/

/-- A `uint32_t` returned as an `int32_t`. -/
def asInt32 (value : UInt32) : Int := value.toInt32.toInt

/-- An `int32_t` passed as a `uint16_t`. -/
def asUInt16 (value : Int) : UInt16 := UInt16.ofInt value

/-! ### Link information -/

/-- `INetAddr` of `inet_addr.h`. -/
structure INetAddr where
  type : UInt8 := 0
  family : UInt8 := 0
  prefixlen : UInt8 := 0
  address : String := ""
  netMask : String := ""
  hostName : String := ""
deriving DecidableEq, Repr, Inhabited

/-- `INetAddr::operator==`. -/
def INetAddr.equals (first second : INetAddr) : Bool :=
  first.type == second.type && first.family == second.family &&
    first.prefixlen == second.prefixlen && first.address == second.address &&
    first.netMask == second.netMask && first.hostName == second.hostName

/-- `Route` of `route.h`. -/
structure Route where
  iface : String := ""
  destination : INetAddr := {}
  gateway : INetAddr := {}
deriving DecidableEq, Repr, Inhabited

/-- `Route::operator==`. -/
def Route.equals (first second : Route) : Bool :=
  first.iface == second.iface && first.destination.equals second.destination &&
    first.gateway.equals second.gateway

/-- `NetLinkInfo` of `net_link_info.h`. -/
structure NetLinkInfo where
  ifaceName : String := ""
  domain : String := ""
  netAddrList : List INetAddr := []
  dnsList : List INetAddr := []
  routeList : List Route := []
  mtu : UInt16 := 0
deriving DecidableEq, Repr, Inhabited

theorem INetAddr.equals_iff (first second : INetAddr) :
    first.equals second = true ↔ first = second := by
  cases first
  cases second
  simp only [INetAddr.equals, Bool.and_eq_true, beq_iff_eq, INetAddr.mk.injEq, and_assoc]

/-- The source compares routes field by field, so equal routes are equal in every field. -/
theorem Route.equals_iff (first second : Route) :
    first.equals second = true ↔ first = second := by
  cases first
  cases second
  simp only [Route.equals, Bool.and_eq_true, beq_iff_eq, INetAddr.equals_iff, Route.mk.injEq,
    and_assoc]

/-! ### Requests of clients -/

/-- `NetSupplierInfo` of `net_supplier_info.h`. -/
structure NetSupplierInfo where
  isAvailable : Bool := false
  isRoaming : Bool := false
  strength : UInt8 := 0
  frequency : UInt32 := 0
deriving DecidableEq, Repr, Inhabited

/-- `NetSpecifier` of `net_specifier.h`. -/
structure NetSpecifier where
  ident : String := ""
  netType : UInt32 := 0
  netCapabilities : UInt64 := 0
deriving DecidableEq, Repr, Inhabited

/-- A client callback, known to the service by its remote object. -/
structure INetConnCallback where
  asObject : Nat
deriving DecidableEq, Repr, Inhabited

/-- `NetConnCallbackInfo` of `net_conn_callback_info.h`. -/
structure NetConnCallbackInfo where
  netState : Int := 0
  netType : UInt32 := 0
deriving DecidableEq, Repr, Inhabited

/-- `BroadcastInfo` of `broadcast_manager.h`, with the parameters sent along. -/
structure BroadcastInfo where
  action : String
  data : String
  code : Int
  ordered : Bool
  param : List (String × String)
deriving DecidableEq, Repr

end NetManager
