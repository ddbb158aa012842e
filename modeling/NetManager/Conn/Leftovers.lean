/-
This file settles what an unregistration leaves in netd. The only thing the process ever releases
is the cache of a network, in its destructor; a physical network is never destroyed, and the
interface and the routes a network gave netd stay until link information drops them. So nothing
is left as long as the network goes with the unregistration and has nothing in netd any more.
-/

import NetManager.Conn.PhysicalNetwork
import NetManager.Conn.Routes

namespace NetManager

open Library

/-! ### The interfaces of netd -/

/-- What a call does to the interfaces netd keeps for a network. -/
def NetdCall.onInterfaces (netId : Int) (table : Finset String) : NetdCall → Finset String
  | .networkAddInterface id iface => if id = netId then insert iface table else table
  | .networkRemoveInterface id iface => if id = netId then table.erase iface else table
  | _ => table

/-- netd carries out calls in order. -/
def interfacesAfter (netId : Int) (table : Finset String) (calls : List NetdCall) :
    Finset String :=
  calls.foldl (NetdCall.onInterfaces netId) table

/-- The interfaces of link information: at most one. -/
def NetLinkInfo.interfaces (netLinkInfo : NetLinkInfo) : List String :=
  if netLinkInfo.ifaceName = "" then [] else [netLinkInfo.ifaceName]

/-- Creating a physical network changes neither the net id nor the link information of a network. -/
theorem NetdSide.createPhysical_kept (side : NetdSide) (network : Ref Network)
    {other : Ref Network} (allocated : side.records.Allocated other) :
    (side.createPhysical network).records.Allocated other ∧
      ((side.createPhysical network).records.cell other).netId =
        (side.records.cell other).netId ∧
      ((side.createPhysical network).records.cell other).netLinkInfo =
        (side.records.cell other).netLinkInfo := by
  unfold NetdSide.createPhysical
  split
  · exact ⟨allocated, rfl, rfl⟩
  · refine ⟨allocated, ?_⟩
    by_cases here : other = network
    · subst here
      rw [Heap.cell_set_self]
      exact ⟨rfl, rfl⟩
    · rw [Heap.cell_set_of_ne _ _ here]
      exact ⟨rfl, rfl⟩

/-! ### What netd keeps for net ids -/

/-- One kind of things netd keeps under names for every net id, and where link information lists
them. Creating caches and physical networks is not about them; the calls of an update reconcile
those of one net id with the new list. -/
structure NetdTable (Item Key : Type) [DecidableEq Item] [DecidableEq Key] where
  on : Int → Finset Key → NetdCall → Finset Key
  items : NetLinkInfo → List Item
  key : Item → Key
  cache : ∀ netId table call, call.aboutCache = true → on netId table call = table
  physical : ∀ netId table id permission,
    on netId table (.networkCreatePhysical id permission) = table
  linkInfo : ∀ netId table old new,
    (Network.linkInfoCalls netId old new).foldl (on netId) table =
      ((Mirror.mk (items old) table).update key (items new)).table
  others : ∀ netId table id old new, id ≠ netId →
    (Network.linkInfoCalls id old new).foldl (on netId) table = table

namespace NetdTable

/-- Calls that leave a table alone, one by one. -/
theorem foldl_kept {Table : Type} {on : Table → NetdCall → Table} {calls : List NetdCall}
    {table : Table} (kept : ∀ call ∈ calls, on table call = table) :
    calls.foldl on table = table := by
  induction calls with
  | nil => rfl
  | cons call rest inductionHypothesis =>
    obtain ⟨head, tail⟩ := List.forall_mem_cons.mp kept
    rw [List.foldl_cons, head, inductionHypothesis tail]

end NetdTable

namespace Network

/-- The calls of an update that are not about interfaces. -/
theorem interfacesAfter_rest (netId : Int) (table : Finset String) (old new : NetLinkInfo) :
    interfacesAfter netId table (updateRoutes netId old new ++ updateDnses netId new ++
      updateMtu old new) = table := by
  refine NetdTable.foldl_kept (List.forall_mem_append.mpr ⟨List.forall_mem_append.mpr ⟨?_, ?_⟩, ?_⟩)
  · exact forall_updateRoutes old new (fun _ _ _ => rfl) (fun _ _ _ => rfl)
  · exact List.forall_mem_singleton.mpr rfl
  · exact forall_updateMtu old new fun _ _ => rfl

/-- The calls of an update reconcile the interfaces of netd with the new interface. -/
theorem interfacesAfter_linkInfoCalls (netId : Int) (table : Finset String)
    (old new : NetLinkInfo) :
    interfacesAfter netId table (linkInfoCalls netId old new) =
      ((Mirror.mk old.interfaces table).update id new.interfaces).table := by
  have split : interfacesAfter netId table (linkInfoCalls netId old new) =
      interfacesAfter netId table (updateInterfaces netId old new) := by
    unfold linkInfoCalls
    rw [List.append_assoc, List.append_assoc, ← List.append_assoc (updateRoutes netId old new)]
    unfold interfacesAfter
    rw [List.foldl_append]
    exact interfacesAfter_rest netId _ old new
  rw [split]
  ext name
  rw [Mirror.mem_update]
  unfold interfacesAfter updateInterfaces NetLinkInfo.interfaces Mirror.Adds Mirror.Drops
  by_cases same : new.ifaceName = old.ifaceName
  · rw [if_pos same, same]
    by_cases empty : old.ifaceName = ""
    · simp [empty]
    · simp [empty]
  · rw [if_neg same]
    by_cases empty : new.ifaceName = ""
    · by_cases emptyOld : old.ifaceName = ""
      · exact absurd (empty.trans emptyOld.symm) same
      · simp [empty, emptyOld, NetdCall.onInterfaces, and_comm, eq_comm]
    · by_cases emptyOld : old.ifaceName = ""
      · simp [empty, emptyOld, NetdCall.onInterfaces, or_comm, eq_comm]
      · simp [empty, emptyOld, same, NetdCall.onInterfaces, and_comm, or_comm, eq_comm,
          Ne.symm same]

end Network

namespace NetdTable

/-- The interfaces of a network. -/
def interfaces : NetdTable String String where
  on := NetdCall.onInterfaces
  items := NetLinkInfo.interfaces
  key := id
  cache := by
    intro netId table call cache
    cases call <;> first | rfl | cases cache
  physical := fun _ _ _ _ => rfl
  linkInfo := Network.interfacesAfter_linkInfoCalls
  others := by
    intro netId table id old new other
    exact foldl_kept (Network.forall_linkInfoCalls old new (fun _ => if_neg other)
      (fun _ => if_neg other) (fun _ _ _ => rfl) (fun _ _ _ => rfl) (fun _ _ => rfl)
      (fun _ _ => rfl))

/-- The routes of a network. -/
def routes : NetdTable Route RouteKey where
  on := NetdCall.onRoutes
  items := NetLinkInfo.routeList
  key := Route.key
  cache := by
    intro netId table call cache
    cases call <;> first | rfl | cases cache
  physical := fun _ _ _ _ => rfl
  linkInfo := Network.routesAfter_linkInfoCalls
  others := by
    intro netId table id old new other
    exact foldl_kept (Network.forall_linkInfoCalls old new (fun _ => rfl) (fun _ => rfl)
      (fun _ _ _ => if_neg other) (fun _ _ _ => if_neg other) (fun _ _ => rfl) (fun _ _ => rfl))

variable {Item Key : Type} [DecidableEq Item] [DecidableEq Key] (kind : NetdTable Item Key)

/-- What netd keeps for a net id after the calls. -/
def after (netId : Int) (calls : List NetdCall) : Finset Key := calls.foldl (kind.on netId) ∅

/-- What netd keeps for a net id is listed in the link information of a network with that id. -/
def Listed (side : NetdSide) : Prop :=
  ∀ netId, ∀ name ∈ kind.after netId side.calls, ∃ network, side.records.Allocated network ∧
    (side.records.cell network).netId = netId ∧
      name ∈ Mirror.keys kind.key (kind.items (side.records.cell network).netLinkInfo)

variable {kind} {side : NetdSide}

theorem Listed.grows {later : NetdSide} (listed : kind.Listed side) (grows : side.Grows later) :
    kind.Listed later := by
  obtain ⟨issued, appended, caches, _⟩ := grows.calls
  intro netId name member
  have same : kind.after netId later.calls = kind.after netId side.calls := by
    unfold after
    rw [appended, List.foldl_append]
    exact foldl_kept fun call issuedCall => kind.cache netId _ call (caches call issuedCall)
  rw [same] at member
  obtain ⟨network, allocated, own, named⟩ := listed netId name member
  obtain ⟨still, kept⟩ := grows.records.kept network allocated
  exact ⟨network, still, by rw [kept]; exact own, by rw [kept]; exact named⟩

theorem Listed.createPhysical (listed : kind.Listed side) (network : Ref Network) :
    kind.Listed (side.createPhysical network) := by
  intro netId name member
  have same : kind.after netId (side.createPhysical network).calls =
      kind.after netId side.calls := by
    unfold NetdSide.createPhysical after
    split
    · rfl
    · rw [List.foldl_append]
      exact kind.physical netId _ _ 0
  rw [same] at member
  obtain ⟨other, allocated, own, named⟩ := listed netId name member
  obtain ⟨still, sameId, sameInfo⟩ := side.createPhysical_kept network allocated
  exact ⟨other, still, sameId.trans own, by rw [sameInfo]; exact named⟩

theorem Listed.updateLinkInfo (listed : kind.Listed side) {network : Ref Network}
    (allocated : side.records.Allocated network) (netLinkInfo : NetLinkInfo) :
    kind.Listed (side.updateLinkInfo network netLinkInfo) := by
  have netIds (other : Ref Network) :
      ((side.updateLinkInfo network netLinkInfo).records.cell other).netId =
        (side.records.cell other).netId :=
    NetdSide.netId_set side.records network other rfl
  have updated : ((side.updateLinkInfo network netLinkInfo).records.cell network).netLinkInfo =
      netLinkInfo :=
    congrArg NetdRecord.netLinkInfo (Heap.cell_set_self _ _ _)
  have untouched {other : Ref Network} (different : other ≠ network) :
      ((side.updateLinkInfo network netLinkInfo).records.cell other).netLinkInfo =
        (side.records.cell other).netLinkInfo :=
    congrArg NetdRecord.netLinkInfo (Heap.cell_set_of_ne _ _ different)
  intro netId name member
  have split : kind.after netId (side.updateLinkInfo network netLinkInfo).calls =
      (Network.linkInfoCalls (side.records.cell network).netId
        (side.records.cell network).netLinkInfo netLinkInfo).foldl (kind.on netId)
          (kind.after netId side.calls) := List.foldl_append
  rw [split] at member
  by_cases own : (side.records.cell network).netId = netId
  · subst own
    rw [kind.linkInfo] at member
    rcases Mirror.mem_update_source kind.key member with named | ⟨stored, unlisted⟩
    · exact ⟨network, allocated, netIds network, by rw [updated]; exact named⟩
    · obtain ⟨other, otherAllocated, same, named⟩ := listed _ name stored
      have different : other ≠ network := by
        rintro rfl
        exact unlisted named
      refine ⟨other, otherAllocated, (netIds other).trans same, ?_⟩
      rw [untouched different]
      exact named
  · rw [kind.others netId _ _ _ _ own] at member
    obtain ⟨other, otherAllocated, same, named⟩ := listed netId name member
    have different : other ≠ network := by
      rintro rfl
      exact own same
    refine ⟨other, otherAllocated, (netIds other).trans same, ?_⟩
    rw [untouched different]
    exact named

/-- When every network with the net id lists nothing, netd keeps nothing for it. -/
theorem Listed.empty (listed : kind.Listed side) {netId : Int}
    (dropped : ∀ network, side.records.Allocated network →
      (side.records.cell network).netId = netId →
        kind.items (side.records.cell network).netLinkInfo = []) :
    kind.after netId side.calls = ∅ := by
  refine Finset.eq_empty_of_forall_notMem fun name member => ?_
  obtain ⟨network, allocated, own, named⟩ := listed netId name member
  rw [dropped network allocated own] at named
  obtain ⟨item, absent, _⟩ := (Mirror.mem_keys kind.key [] name).mp named
  exact List.not_mem_nil absent

end NetdTable

/-! ### What an unregistration leaves -/

/-- The cache of a net id was destroyed, and not created again. -/
def CacheDestroyed (netId : Int) (calls : List NetdCall) : Prop :=
  ∃ before after, calls = before ++ .destoryNetworkCache (asUInt16 netId) :: after ∧
    .createNetworkCache (asUInt16 netId) ∉ after

/-- The physical network of a net id was destroyed, or netd keeps no interface and no route for
it. -/
def PhysicalReleased (netId : Int) (calls : List NetdCall) : Prop :=
  .networkDestroy netId ∈ calls ∨
    interfacesAfter netId ∅ calls = ∅ ∧ routesAfter netId ∅ calls = ∅

/-- Nothing that was created for a net id remains. -/
structure NothingLeft (netId : Int) (calls : List NetdCall) : Prop where
  cache : CacheDestroyed netId calls
  physical : PhysicalSince netId calls → PhysicalReleased netId calls

namespace NetConnService

/-- An unregistration that succeeds leaves nothing for the net id of the network it removes. -/
def LeavesNothing (state : NetConnService) : Action → Prop
  | .unregisterNetSupplier supplierId =>
    (state.unregisterNetSupplier supplierId).1 = .none → ∃ network,
      state.getNetworkFromListBySupplierId supplierId = some network ∧
        NothingLeft (state.world.network network).netId
          (state.unregisterNetSupplier supplierId).2.world.netdCalls
  | _ => True

/-- The networks with the net id have no interface and no routes. -/
def Dropped (state : NetConnService) (netId : Int) : Prop :=
  ∀ network, state.world.netdSide.records.Allocated network →
    (state.world.network network).netId = netId →
      (state.world.network network).netLinkInfo.ifaceName = "" ∧
        (state.world.network network).netLinkInfo.routeList = []

/-- The network an unregistration removes is not the network of the default service; and if there
is a physical network with its net id, the interface and the routes were dropped before. -/
def Emptied (state : NetConnService) : Action → Prop
  | .unregisterNetSupplier supplierId =>
    ∀ network, state.getNetworkFromListBySupplierId supplierId = some network →
      (∀ service, state.defaultNetService = some service →
        (state.world.service service).network ≠ network) ∧
      (state.world.netdSide.HasPhysical (state.world.network network).netId →
        state.Dropped (state.world.network network).netId)
  | _ => True

/-- What holds in every state of a run. -/
structure Accounted (state : NetConnService) : Prop extends state.NetdInvariant where
  interfaces : NetdTable.interfaces.Listed state.world.netdSide
  routes : NetdTable.routes.Listed state.world.netdSide

theorem listed_step {Item Key : Type} [DecidableEq Item] [DecidableEq Key]
    (kind : NetdTable Item Key) (state : NetConnService) (action : Action)
    (wellFormed : state.registry.WellFormed) (listed : kind.Listed state.world.netdSide) :
    kind.Listed (state.step action).world.netdSide := by
  generalize reached : (state.step action).world.netdSide = after
  have step := state.netdStep wellFormed action
  rw [reached] at step
  cases step with
  | grows _ grows => exact listed.grows grows
  | physical network _ _ => exact listed.createPhysical network
  | linkInfo network netLinkInfo _ member =>
    exact listed.updateLinkInfo (wellFormed.networks network member) netLinkInfo

theorem accounted_step (state : NetConnService) (action : Action) (accounted : state.Accounted) :
    (state.step action).Accounted where
  toNetdInvariant := netdInvariant_step state action accounted.toNetdInvariant
  interfaces := listed_step _ state action accounted.wellFormed accounted.interfaces
  routes := listed_step _ state action accounted.wellFormed accounted.routes

theorem start_accounted (answers : Nat → Int) : (start answers).Accounted where
  toNetdInvariant := start_netdInvariant answers
  interfaces := fun _ name member => absurd member (Finset.notMem_empty name)
  routes := fun _ name member => absurd member (Finset.notMem_empty name)

/-- An unregistration that succeeds removes a listed network; unless it is the network of the
default service, it is destroyed. -/
theorem unregisterNetSupplier_destroys {state : NetConnService}
    (wellFormed : state.registry.WellFormed) {supplierId : UInt32}
    (succeeds : (state.unregisterNetSupplier supplierId).1 = .none) :
    ∃ network, state.getNetworkFromListBySupplierId supplierId = some network ∧
      ((∀ service, state.defaultNetService = some service →
          (state.world.service service).network ≠ network) →
        (state.unregisterNetSupplier supplierId).2.world =
          Network.destroy state.world network) := by
  unfold unregisterNetSupplier at succeeds ⊢
  cases known : state.getNetSupplierFromListById supplierId with
  | none =>
    rw [known] at succeeds
    cases succeeds
  | some supplier =>
    rw [known] at succeeds
    cases found : state.getNetworkFromListBySupplierId supplierId with
    | none =>
      rw [found] at succeeds
      cases succeeds
    | some network =>
      refine ⟨network, rfl, fun other => ?_⟩
      have removed : state.registry.networkOfId supplierId = some network := found
      have unheld : (((state.deleteServiceFromListByNet
          network).deleteNetworkFromListBySupplierId supplierId).deleteSupplierFromListById
            supplierId).holdsNetwork network = false := by
        unfold holdsNetwork
        rw [Bool.or_eq_false_iff, Bool.or_eq_false_iff]
        refine ⟨⟨?_, ?_⟩, ?_⟩
        · refine decide_eq_false fun listed => ?_
          exact ((wellFormed.mem_networks_remove removed network).mp listed).2 rfl
        · refine List.any_eq_false.mpr fun service listed same => ?_
          exact ((wellFormed.mem_netServices_remove removed service).mp listed).2
            (eq_of_beq same)
        · show state.defaultNetService.any _ = false
          cases selected : state.defaultNetService with
          | none => rfl
          | some service => exact beq_eq_false_iff_ne.mpr (other service selected)
      dsimp only
      unfold dropNetwork
      rw [unheld]
      rfl

theorem leavesNothing_step (state : NetConnService) (action : Action)
    (accounted : state.Accounted) (emptied : state.Emptied action) :
    state.LeavesNothing action := by
  cases action with
  | unregisterNetSupplier supplierId =>
    intro succeeds
    obtain ⟨network, found, destroyed⟩ :=
      unregisterNetSupplier_destroys accounted.wellFormed succeeds
    obtain ⟨other, dropped⟩ := emptied network found
    refine ⟨network, found, ?_⟩
    have side : (state.unregisterNetSupplier supplierId).2.world.netdSide =
        (Network.destroy state.world network).netdSide := by rw [destroyed other]
    have grows : state.world.netdSide.Grows
        (state.unregisterNetSupplier supplierId).2.world.netdSide := by
      rw [side]
      exact Network.netdSide_destroy state.world network
    have recorded := accounted.recorded.grows grows
    refine ⟨⟨state.world.netdCalls, [], ?_, List.not_mem_nil⟩, fun created => Or.inr ?_⟩
    · rw [destroyed other]
      rfl
    · obtain ⟨known, allocated, same, flag⟩ := (recorded.physical _).mp created
      rw [side] at allocated same flag
      have empty := dropped ⟨known, allocated, same, flag⟩
      refine ⟨(accounted.interfaces.grows grows).empty fun network allocated same => ?_,
        (accounted.routes.grows grows).empty fun network allocated same => ?_⟩
      · rw [side] at allocated same ⊢
        exact if_pos (empty network allocated same).1
      · rw [side] at allocated same ⊢
        exact (empty network allocated same).2
  | _ => trivial

/-- In a run in which every network is out of use in netd before its supplier is unregistered, no
unregistration leaves anything behind. -/
theorem leavesNothing_run (answers : Nat → Int) (actions : List Action)
    (emptied : Guarded step Emptied (start answers) actions) :
    Guarded step LeavesNothing (start answers) actions := by
  rintro before action after rfl
  exact leavesNothing_step _ action (run_invariant step Accounted accounted_step
    (start_accounted answers) before) (emptied before action after rfl)

/-- A network whose interface was dropped before its supplier is unregistered. -/
theorem dropped_interface_leaves_nothing :
    Guarded step LeavesNothing (start fun _ => 0) [.registerNetSupplier 2 "eth0" 0,
      .updateNetSupplierInfo 1003 (some {}),
      .updateNetLinkInfo 1003 (some { ifaceName := "eth0" }), .updateNetLinkInfo 1003 (some {}),
      .unregisterNetSupplier 1003] := by
  refine leavesNothing_run (fun _ => 0) _ ?_
  refine (guarded_cons _ _ _ _ _).mpr ⟨trivial, (guarded_cons _ _ _ _ _).mpr ⟨trivial,
    (guarded_cons _ _ _ _ _).mpr ⟨trivial, (guarded_cons _ _ _ _ _).mpr ⟨trivial,
      (guarded_cons _ _ _ _ _).mpr ⟨?_, guarded_nil _ _ _⟩⟩⟩⟩⟩
  rintro network found
  refine ⟨fun service selected => ?_, fun _ other allocated _ => ?_⟩
  · cases selected
  · obtain rfl : other = ⟨0⟩ := congrArg Ref.mk (Nat.lt_one_iff.mp allocated)
    exact ⟨by decide, by decide⟩

/-- The interface of an unregistered network stays in netd, and so does the cache of the network
of an unregistered default service. -/
theorem unregistered_network_left :
    ¬ Guarded step LeavesNothing (start fun _ => 0) [.registerNetSupplier 2 "eth0" 0,
        .updateNetSupplierInfo 1003 (some {}),
        .updateNetLinkInfo 1003 (some { ifaceName := "eth0" }), .unregisterNetSupplier 1003] ∧
      ¬ Guarded step LeavesNothing (start fun _ => 0) [.registerNetSupplier 2 "eth0" 1,
        .unregisterNetSupplier 1003] := by
  refine ⟨fun guarded => ?_, fun guarded => ?_⟩
  · obtain ⟨network, found, nothing⟩ := guarded [.registerNetSupplier 2 "eth0" 0,
      .updateNetSupplierInfo 1003 (some {}),
      .updateNetLinkInfo 1003 (some { ifaceName := "eth0" })] _ [] rfl (by decide)
    have known : (run step (start fun _ => 0) [.registerNetSupplier 2 "eth0" 0,
        .updateNetSupplierInfo 1003 (some {}), .updateNetLinkInfo 1003
          (some { ifaceName := "eth0" })]).getNetworkFromListBySupplierId 1003 = some ⟨0⟩ := by
      decide
    obtain rfl := Option.some.inj (known.symm.trans found)
    rcases nothing.physical ⟨.networkCreatePhysical 0 0, by decide, by decide⟩ with
      destroyed | ⟨interfaces, _⟩
    · exact absurd destroyed (by decide)
    · exact absurd interfaces (by decide)
  · obtain ⟨network, found, nothing⟩ := guarded [.registerNetSupplier 2 "eth0" 1] _ [] rfl
      (by decide)
    have known : (run step (start fun _ => 0) [.registerNetSupplier 2 "eth0"
        1]).getNetworkFromListBySupplierId 1003 = some ⟨0⟩ := by decide
    obtain rfl := Option.some.inj (known.symm.trans found)
    obtain ⟨before, after, split, _⟩ := nothing.cache
    have destroyed : NetdCall.destoryNetworkCache 0 ∈ [NetdCall.createNetworkCache 0] := by
      rw [show [NetdCall.createNetworkCache 0] = _ from split]
      exact List.mem_append_right before List.mem_cons_self
    exact absurd destroyed (by decide)

end NetConnService

end NetManager
