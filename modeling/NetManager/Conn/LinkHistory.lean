/-
This file follows one network through a sequence of `UpdateNetLinkInfo` calls, with
the netd calls it issues. What a call issues depends on the net id, on the link
information recorded before and on the new one, and on nothing else: a network is a
ledger of these (`Ledger`), and reading the ledger of a network commutes with the
updates.

Two things are read off the ledger here. The interfaces of netd are those of the
recorded link information, because an interface is known by its name and no update
drops the name it keeps. And the resolver has the lists of the last update, which
every update sends again; everything else an update issues is a difference, and the
difference to itself is empty.
-/

import NetManager.Library.Log
import NetManager.Conn.Leftovers

namespace NetManager

open Library

namespace Network

/-! ### Histories of a network -/

/-- The process, and the netd calls one of its networks has issued. -/
structure History where
  world : World
  calls : List NetdCall

/-- Construct a network. -/
def created (world : World) (supplier : Ref NetSupplier) : History where
  world := (make world supplier).2
  calls := (make world supplier).2.netdCalls.drop world.netdCalls.length

/-- One `UpdateNetLinkInfo`, with the calls it issues. -/
def historyStep (this : Ref Network) (history : History) (netLinkInfo : NetLinkInfo) :
    History where
  world := updateNetLinkInfo history.world this netLinkInfo
  calls := history.calls ++
    (updateNetLinkInfo history.world this netLinkInfo).netdCalls.drop
      history.world.netdCalls.length

/-- What the calls of a network depend on, and the calls. -/
structure Ledger where
  netId : Int
  netLinkInfo : NetLinkInfo
  calls : List NetdCall

/-- Record new link information and issue the calls for it. -/
def Ledger.update (ledger : Ledger) (netLinkInfo : NetLinkInfo) : Ledger :=
  { ledger with
    netLinkInfo := netLinkInfo
    calls := ledger.calls ++ linkInfoCalls ledger.netId ledger.netLinkInfo netLinkInfo }

/-- The ledger of a network. -/
def ledger (this : Ref Network) (history : History) : Ledger where
  netId := (history.world.network this).netId
  netLinkInfo := (history.world.network this).netLinkInfo
  calls := history.calls

/-- The ledger of a new network. -/
def newLedger (world : World) : Ledger where
  netId := world.netIdManager.reserveNetId.1
  netLinkInfo := {}
  calls := [.createNetworkCache (asUInt16 world.netIdManager.reserveNetId.1)]

theorem ledger_created (world : World) (supplier : Ref NetSupplier) :
    ledger (make world supplier).1 (created world supplier) = newLedger world := by
  have issued : (created world supplier).calls = (newLedger world).calls := List.drop_left
  unfold ledger
  rw [issued, show (created world supplier).world = (make world supplier).2 from rfl, network_make]
  rfl

theorem ledger_historyStep (this : Ref Network) (history : History) (netLinkInfo : NetLinkInfo) :
    ledger this (historyStep this history netLinkInfo) =
      (ledger this history).update netLinkInfo := by
  unfold ledger historyStep
  rw [netdCalls_updateNetLinkInfo, network_updateNetLinkInfo]
  rfl

/-- Reading the ledger of a new network commutes with its updates. -/
theorem ledger_run (world : World) (supplier : Ref NetSupplier) (updates : List NetLinkInfo) :
    ledger (make world supplier).1
        (run (historyStep (make world supplier).1) (created world supplier) updates) =
      run Ledger.update (newLedger world) updates := by
  rw [run_reading _ _ Ledger.update (ledger_historyStep _), ledger_created]

namespace Ledger

/-- The link information of the last update is recorded. -/
theorem netLinkInfo_run (ledger : Ledger) (updates : List NetLinkInfo) :
    (run update ledger updates).netLinkInfo = updates.getLast?.getD ledger.netLinkInfo := by
  induction updates generalizing ledger with
  | nil => rfl
  | cons netLinkInfo rest inductionHypothesis =>
    rw [run_cons, inductionHypothesis, List.getLast?_cons]
    rfl

/-! ### Interfaces -/

/-- netd has the interface of the recorded link information. -/
def InterfaceKept (ledger : Ledger) : Prop :=
  interfacesAfter ledger.netId ∅ ledger.calls = Mirror.keys id ledger.netLinkInfo.interfaces

theorem InterfaceKept.update {ledger : Ledger} (kept : ledger.InterfaceKept)
    (netLinkInfo : NetLinkInfo) : (ledger.update netLinkInfo).InterfaceKept := by
  have before : Mirror.Exact id ⟨ledger.netLinkInfo.interfaces,
      interfacesAfter ledger.netId ∅ ledger.calls⟩ := kept
  have apart : Mirror.DropsApart id ledger.netLinkInfo.interfaces netLinkInfo.interfaces := by
    intro iface _ gone other listed same
    rw [id, id] at same
    exact gone (same ▸ listed)
  have after := (Mirror.exact_update_iff id before netLinkInfo.interfaces).mpr apart
  show interfacesAfter ledger.netId ∅ (ledger.calls ++ _) = _
  unfold interfacesAfter
  rw [List.foldl_append]
  exact (interfacesAfter_linkInfoCalls ledger.netId _ ledger.netLinkInfo netLinkInfo).trans after

theorem interfaceKept_new (world : World) : (newLedger world).InterfaceKept := by
  unfold InterfaceKept newLedger
  rfl

theorem interfaceKept_run (world : World) (updates : List NetLinkInfo) :
    (run update (newLedger world) updates).InterfaceKept :=
  run_invariant update InterfaceKept (fun _ netLinkInfo kept => kept.update netLinkInfo)
    (interfaceKept_new world) updates

end Ledger

end Network

/-! ### The resolver -/

/-- The servers and domains a call gives the resolver. -/
def NetdCall.resolverLists? : NetdCall → Option (List String × List String)
  | .setResolverConfig _ _ _ servers domains => some (servers, domains)
  | _ => none

namespace Network

/-- Only the last call of `UpdateMtu` follows the resolver call, and it is no resolver call. -/
theorem resolverLists_linkInfoCalls (netId : Int) (old new : NetLinkInfo) :
    latest NetdCall.resolverLists? (linkInfoCalls netId old new) =
      some (new.dnsList.map (·.address), new.dnsList.map (·.hostName)) := by
  have mtu : latest NetdCall.resolverLists? (updateMtu old new) = none :=
    latest_eq_none (forall_updateMtu old new fun _ _ => rfl)
  unfold linkInfoCalls
  rw [latest_append, latest_append, mtu, Option.none_or]
  unfold updateDnses
  rw [latest_singleton]
  rfl

/-! ### Repeating an update -/

theorem updateRoutes_self (netId : Int) (netLinkInfo : NetLinkInfo) :
    updateRoutes netId netLinkInfo netLinkInfo = [] := by
  unfold updateRoutes
  rw [filter_isNewRoute]
  simp [Mirror.missing]

/-- The difference to itself is empty: only the resolver is told again. -/
theorem linkInfoCalls_self (netId : Int) (netLinkInfo : NetLinkInfo) :
    linkInfoCalls netId netLinkInfo netLinkInfo = updateDnses netId netLinkInfo := by
  have interfaces : updateInterfaces netId netLinkInfo netLinkInfo = [] := if_pos rfl
  have mtu : updateMtu netLinkInfo netLinkInfo = [] := if_pos rfl
  unfold linkInfoCalls
  rw [interfaces, updateRoutes_self, mtu, List.append_nil, List.nil_append, List.nil_append]

/-- What the updates of a network leave in netd: the interface of the last one if it names one,
and its resolver lists. The last one again is a resolver call and nothing else. -/
structure Reconciled (this : Ref Network) (history : History) (last : NetLinkInfo) : Prop where
  interface : interfacesAfter (history.world.network this).netId ∅ history.calls =
    if last.ifaceName = "" then ∅ else {last.ifaceName}
  resolver : latest NetdCall.resolverLists? history.calls =
    some (last.dnsList.map (·.address), last.dnsList.map (·.hostName))
  repeated : (historyStep this history last).calls =
    history.calls ++ updateDnses (history.world.network this).netId last

/-- Right after an update that kept the interface, netd is reconciled with it. -/
theorem reconciled_of_ledger {this : Ref Network} {history : History} {earlier : Ledger}
    {last : NetLinkInfo} (read : ledger this history = earlier.update last)
    (kept : (earlier.update last).InterfaceKept) : Reconciled this history last := by
  have recorded : (history.world.network this).netLinkInfo = last :=
    congrArg Ledger.netLinkInfo read
  have calls : history.calls = earlier.calls ++ linkInfoCalls earlier.netId earlier.netLinkInfo
      last := congrArg Ledger.calls read
  have again : (historyStep this history last).calls = history.calls ++
      linkInfoCalls (history.world.network this).netId
        (history.world.network this).netLinkInfo last :=
    congrArg Ledger.calls (ledger_historyStep this history last)
  rw [← read] at kept
  refine ⟨?_, ?_, ?_⟩
  · have interfaces : interfacesAfter (history.world.network this).netId ∅ history.calls =
        Mirror.keys id (history.world.network this).netLinkInfo.interfaces := kept
    rw [interfaces, recorded]
    unfold NetLinkInfo.interfaces
    split
    · rfl
    · rfl
  · rw [calls, latest_append, resolverLists_linkInfoCalls, Option.some_or]
  · rw [again, recorded, linkInfoCalls_self]

/-- After any updates of a new network, netd is reconciled with the last one. -/
theorem reconciled_run (world : World) (supplier : Ref NetSupplier) (updates : List NetLinkInfo)
    (last : NetLinkInfo) :
    Reconciled (make world supplier).1
      (run (historyStep (make world supplier).1) (created world supplier) (updates ++ [last]))
      last := by
  have read := ledger_run world supplier (updates ++ [last])
  have kept := Ledger.interfaceKept_run world (updates ++ [last])
  rw [run_concat Ledger.update] at read kept
  exact reconciled_of_ledger read kept

end Network

end NetManager
