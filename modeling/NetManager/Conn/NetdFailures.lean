/-
This file is about netd calls that fail. netd answers each call of an `UpdateNetLinkInfo` with a
code, and no caller reads one: the update returns `ERR_NONE` and records the new link information
whatever netd answered. Later updates are differences to what is recorded, so a call that failed is
made again by the same update only if it is made by every update, which is the case for the
resolver call alone.
-/

import NetManager.Conn.Capabilities
import NetManager.Conn.LinkHistory

namespace NetManager

open Library

/-! ### Refused calls -/

/-- netd answered the call with an error: `codes` are its answers to the calls, by their
positions. -/
def Refused (codes : Nat → Int) (calls : List NetdCall) (call : NetdCall) : Prop :=
  ∃ index, calls[index]? = some call ∧ codes index ≠ 0

theorem Refused.mem {codes : Nat → Int} {calls : List NetdCall} {call : NetdCall}
    (refused : Refused codes calls call) : call ∈ calls := by
  obtain ⟨index, issued, _⟩ := refused
  exact List.mem_of_getElem? issued

/-- Link information of the network with this id claims what the call was to add. -/
def NetLinkInfo.Claims (netLinkInfo : NetLinkInfo) (netId : Int) (call : NetdCall) : Prop :=
  call = .networkAddInterface netId netLinkInfo.ifaceName ∨
    ∃ route ∈ netLinkInfo.routeList, call =
      .networkAddRoute netId route.iface route.destination.address route.gateway.address

namespace NetConnService

/-! ### The calls of an update -/

/-- The state after `UpdateNetLinkInfo`. -/
def linked (state : NetConnService) (supplierId : UInt32) (netLinkInfo : NetLinkInfo) :
    NetConnService :=
  (state.updateNetLinkInfo supplierId (some netLinkInfo)).2

/-- The netd calls `UpdateNetLinkInfo` issues. -/
def linkCalls (state : NetConnService) (supplierId : UInt32) (netLinkInfo : NetLinkInfo) :
    List NetdCall :=
  (state.linked supplierId netLinkInfo).world.netdCalls.drop state.world.netdCalls.length

variable {state : NetConnService} {supplierId : UInt32} {supplier : Ref NetSupplier}
  {network : Ref Network}

theorem updateNetLinkInfo_eq
    (found : state.getSupplierAndNetwork supplierId = .ok (supplier, network))
    (netLinkInfo : NetLinkInfo) :
    state.updateNetLinkInfo supplierId (some netLinkInfo) =
      (.none,
        { state with world := Network.updateNetLinkInfo state.world network netLinkInfo }) := by
  simp only [updateNetLinkInfo, found]

/-- An update for an unknown supplier issues nothing. -/
theorem linkCalls_of_error {code : ResultCode}
    (failed : state.getSupplierAndNetwork supplierId = .error code) (netLinkInfo : NetLinkInfo) :
    state.linkCalls supplierId netLinkInfo = [] := by
  simp only [linkCalls, linked, updateNetLinkInfo, failed, List.drop_length]

/-- The calls of an update are the difference to the recorded link information. -/
theorem linkCalls_eq
    (found : state.getSupplierAndNetwork supplierId = .ok (supplier, network))
    (netLinkInfo : NetLinkInfo) :
    state.linkCalls supplierId netLinkInfo =
      Network.linkInfoCalls (state.world.network network).netId
        (state.world.network network).netLinkInfo netLinkInfo := by
  simp only [linkCalls, linked, updateNetLinkInfo_eq found, Network.netdCalls_updateNetLinkInfo]

/-- The same network is found after the update. -/
theorem getSupplierAndNetwork_linked (netLinkInfo : NetLinkInfo) :
    (state.linked supplierId netLinkInfo).getSupplierAndNetwork supplierId =
      state.getSupplierAndNetwork supplierId := by
  have same := state.registry_updateNetLinkInfo supplierId (some netLinkInfo)
  exact Registry.supplierAndNetwork_of_membership (congrArg Registry.membership same) supplierId

theorem network_linked
    (found : state.getSupplierAndNetwork supplierId = .ok (supplier, network))
    (netLinkInfo : NetLinkInfo) :
    (state.linked supplierId netLinkInfo).world.network network =
      { state.world.network network with netLinkInfo := netLinkInfo } := by
  simp only [linked, updateNetLinkInfo_eq found, Network.network_updateNetLinkInfo]

/-- The same update again issues the resolver call and nothing else. -/
theorem linkCalls_linked
    (found : state.getSupplierAndNetwork supplierId = .ok (supplier, network))
    (netLinkInfo : NetLinkInfo) :
    (state.linked supplierId netLinkInfo).linkCalls supplierId netLinkInfo =
      Network.updateDnses (state.world.network network).netId netLinkInfo := by
  rw [linkCalls_eq ((getSupplierAndNetwork_linked netLinkInfo).trans found), network_linked found,
    Network.linkInfoCalls_self]

/-! ### Failures -/

/-- An update whose calls netd answers with these codes swallows no failure: for each call that
netd refused it returns an error, or the same update issues the call again; and what netd refused
to add is not recorded unless the same update issues the call again. -/
structure ReportsFailures (codes : Nat → Int) (state : NetConnService) (supplierId : UInt32)
    (netLinkInfo : NetLinkInfo) : Prop where
  reported : ∀ call, Refused codes (state.linkCalls supplierId netLinkInfo) call →
    (state.updateNetLinkInfo supplierId (some netLinkInfo)).1 ≠ .none ∨
      call ∈ (state.linked supplierId netLinkInfo).linkCalls supplierId netLinkInfo
  recorded : ∀ call, Refused codes (state.linkCalls supplierId netLinkInfo) call →
    ∀ supplier network, state.getSupplierAndNetwork supplierId = .ok (supplier, network) →
      ((state.linked supplierId netLinkInfo).world.network network).netLinkInfo.Claims
          (state.world.network network).netId call →
        call ∈ (state.linked supplierId netLinkInfo).linkCalls supplierId netLinkInfo

/-- netd refuses no interface, route or MTU call of the difference between the recorded link
information and the new one: at most the resolver call fails. -/
def RefusesOnlyResolver (codes : Nat → Int) (state : NetConnService) (supplierId : UInt32)
    (netLinkInfo : NetLinkInfo) : Prop :=
  ∀ supplier network, state.getSupplierAndNetwork supplierId = .ok (supplier, network) →
    ∀ call, Refused codes (Network.linkInfoCalls (state.world.network network).netId
        (state.world.network network).netLinkInfo netLinkInfo) call →
      call.resolverLists? ≠ none

/-- The resolver call of a difference is the one of the new link information. -/
theorem mem_updateDnses_iff {netId : Int} {old new : NetLinkInfo} {call : NetdCall}
    (issued : call ∈ Network.linkInfoCalls netId old new) :
    call ∈ Network.updateDnses netId new ↔ call.resolverLists? ≠ none := by
  have others : ∀ other ∈ Network.updateInterfaces netId old new ++
      Network.updateRoutes netId old new ++ Network.updateMtu old new,
      other.resolverLists? = none :=
    List.forall_mem_append.mpr ⟨List.forall_mem_append.mpr
      ⟨Network.forall_updateInterfaces old new (fun _ => rfl) (fun _ => rfl),
        Network.forall_updateRoutes old new (fun _ _ _ => rfl) (fun _ _ _ => rfl)⟩,
      Network.forall_updateMtu old new fun _ _ => rfl⟩
  constructor
  · intro member
    rw [List.mem_singleton.mp member]
    exact Option.some_ne_none _
  · intro resolver
    by_contra absent
    refine resolver (others call ?_)
    simp only [Network.linkInfoCalls, List.mem_append, absent, or_false] at issued ⊢
    exact issued

/-- Failures are reported exactly when netd refuses no interface, route or MTU call. -/
theorem reportsFailures_iff (codes : Nat → Int) (state : NetConnService) (supplierId : UInt32)
    (netLinkInfo : NetLinkInfo) :
    state.ReportsFailures codes supplierId netLinkInfo ↔
      state.RefusesOnlyResolver codes supplierId netLinkInfo := by
  constructor
  · intro reports supplier network found call refused
    have again := reports.reported call (by rw [linkCalls_eq found]; exact refused)
    rw [updateNetLinkInfo_eq found, linkCalls_linked found] at again
    exact (mem_updateDnses_iff refused.mem).mp (again.resolve_left fun failed => failed rfl)
  · intro only
    have again : ∀ call, Refused codes (state.linkCalls supplierId netLinkInfo) call →
        call ∈ (state.linked supplierId netLinkInfo).linkCalls supplierId netLinkInfo := by
      intro call refused
      cases found : state.getSupplierAndNetwork supplierId with
      | error code =>
        rw [linkCalls_of_error found] at refused
        exact absurd refused.mem List.not_mem_nil
      | ok pair =>
        rw [linkCalls_eq found] at refused
        rw [linkCalls_linked found]
        exact (mem_updateDnses_iff refused.mem).mpr
          (only pair.1 pair.2 found call refused)
    exact ⟨fun call refused => Or.inr (again call refused),
      fun call refused _ _ _ _ => again call refused⟩

/-- A route that netd refused is recorded, and the same update does not add it again. -/
theorem refused_route_is_lost :
    let state := run step (start fun _ => 1) [.registerNetSupplier 1 "slot0" 1]
    let route : Route :=
      { iface := "rmnet0"
        destination := { address := "0.0.0.0" }
        gateway := { address := "10.0.0.1" } }
    let netLinkInfo : NetLinkInfo := { ifaceName := "rmnet0", routeList := [route] }
    let codes := fun index => if index = 1 then -1 else 0
    (state.updateNetLinkInfo 0x03EB (some netLinkInfo)).1 = .none ∧
      ¬ state.ReportsFailures codes 0x03EB netLinkInfo := by
  intro state route netLinkInfo codes
  refine ⟨by decide, fun reports => ?_⟩
  have again := reports.reported (.networkAddRoute 0 "rmnet0" "0.0.0.0" "10.0.0.1")
    ⟨1, by decide, by decide⟩
  exact absurd again (by decide)

end NetConnService

end NetManager
