/-
This file follows the routes of one network into netd. The network keeps the list of
routes it was last given and compares routes in all their fields; netd knows a route by
its interface, its destination and its gateway. So the network and netd are a mirror in
the sense of `Library.Mirror`, and the table of netd follows the list exactly as long as
no route that is dropped names a route of the next list.
-/

import NetManager.Library.Reconcile
import NetManager.Conn.Network

namespace NetManager

open Library

/-! ### The routes of netd -/

/-- What netd knows of a route: the interface, the destination and the gateway. -/
abbrev RouteKey := String × String × String

/-- The key under which netd keeps a route. -/
def Route.key (route : Route) : RouteKey :=
  (route.iface, route.destination.address, route.gateway.address)

/-- What a call does to the routes netd keeps for a network. -/
def NetdCall.onRoutes (netId : Int) (table : Finset RouteKey) : NetdCall → Finset RouteKey
  | .networkAddRoute id ifName destination nextHop =>
    if id = netId then insert (ifName, destination, nextHop) table else table
  | .networkRemoveRoute id ifName destination nextHop =>
    if id = netId then table.erase (ifName, destination, nextHop) else table
  | _ => table

/-- netd carries out calls in order. -/
def routesAfter (netId : Int) (table : Finset RouteKey) (calls : List NetdCall) :
    Finset RouteKey :=
  calls.foldl (NetdCall.onRoutes netId) table

/-- A call that is not about routes. -/
def NetdCall.Routeless (call : NetdCall) : Prop :=
  ∀ netId table, call.onRoutes netId table = table

theorem routesAfter_append (netId : Int) (table : Finset RouteKey) (first second : List NetdCall) :
    routesAfter netId table (first ++ second) =
      routesAfter netId (routesAfter netId table first) second :=
  List.foldl_append

theorem routesAfter_routeless (netId : Int) (table : Finset RouteKey) {calls : List NetdCall}
    (routeless : ∀ call ∈ calls, call.Routeless) : routesAfter netId table calls = table := by
  induction calls with
  | nil => rfl
  | cons call rest inductionHypothesis =>
    obtain ⟨head, tail⟩ := List.forall_mem_cons.mp routeless
    have kept : routesAfter netId table (call :: rest) =
        routesAfter netId (call.onRoutes netId table) rest := rfl
    rw [kept, head netId table, inductionHypothesis tail]

/-- Additions are a union. -/
theorem routesAfter_adds (netId : Int) (table : Finset RouteKey) (routes : List Route) :
    routesAfter netId table (routes.map fun route =>
        .networkAddRoute netId route.iface route.destination.address route.gateway.address) =
      table ∪ Mirror.keys Route.key routes := by
  induction routes generalizing table with
  | nil =>
    ext name
    simp [routesAfter]
  | cons route rest inductionHypothesis =>
    have first : NetdCall.onRoutes netId table (.networkAddRoute netId route.iface
        route.destination.address route.gateway.address) = insert route.key table := if_pos rfl
    have next := inductionHypothesis (insert route.key table)
    rw [← first] at next
    refine next.trans ?_
    rw [first]
    ext name
    simp only [Finset.mem_union, Finset.mem_insert, Mirror.mem_keys, List.exists_mem_cons_iff]
    rw [eq_comm, or_comm (a := route.key = name), or_assoc]

/-- Removals are a difference. -/
theorem routesAfter_removes (netId : Int) (table : Finset RouteKey) (routes : List Route) :
    routesAfter netId table (routes.map fun route =>
        .networkRemoveRoute netId route.iface route.destination.address route.gateway.address) =
      table \ Mirror.keys Route.key routes := by
  induction routes generalizing table with
  | nil =>
    ext name
    simp [routesAfter]
  | cons route rest inductionHypothesis =>
    have first : NetdCall.onRoutes netId table (.networkRemoveRoute netId route.iface
        route.destination.address route.gateway.address) = table.erase route.key := if_pos rfl
    have next := inductionHypothesis (table.erase route.key)
    rw [← first] at next
    refine next.trans ?_
    rw [first]
    ext name
    simp only [Finset.mem_sdiff, Finset.mem_erase, Mirror.mem_keys, List.exists_mem_cons_iff,
      not_or]
    rw [eq_comm (a := route.key), and_comm (a := name ≠ route.key), and_assoc]

namespace Network

/-! ### The calls of an update -/

/-- Looking for a route in a list is membership. -/
theorem isNewRoute_iff (routeList : List Route) (route : Route) :
    isNewRoute routeList route = decide (route ∉ routeList) := by
  rw [Bool.eq_iff_iff]
  simp only [isNewRoute, Bool.not_eq_true', List.any_eq_false, Route.equals_iff,
    decide_eq_true_iff]
  constructor
  · exact fun different member => different route member rfl
  · rintro absent other member rfl
    exact absent member

theorem filter_isNewRoute (present wanted : List Route) :
    wanted.filter (isNewRoute present) = Mirror.missing present wanted :=
  List.filter_congr fun route _ => isNewRoute_iff present route

theorem routeless_updateInterfaces (netId : Int) (old new : NetLinkInfo) :
    ∀ call ∈ updateInterfaces netId old new, call.Routeless :=
  forall_updateInterfaces old new (fun _ _ _ => rfl) (fun _ _ _ => rfl)

theorem routeless_updateDnses (netId : Int) (new : NetLinkInfo) :
    ∀ call ∈ updateDnses netId new, call.Routeless := by
  intro call member
  rw [List.mem_singleton.mp member]
  exact fun _ _ => rfl

theorem routeless_updateMtu (old new : NetLinkInfo) :
    ∀ call ∈ updateMtu old new, call.Routeless :=
  forall_updateMtu old new fun _ _ _ _ => rfl

/-- The calls of an update reconcile the routes of netd with the new list. -/
theorem routesAfter_linkInfoCalls (netId : Int) (table : Finset RouteKey)
    (old new : NetLinkInfo) :
    routesAfter netId table (linkInfoCalls netId old new) =
      ((Mirror.mk old.routeList table).update Route.key new.routeList).table := by
  unfold linkInfoCalls
  rw [routesAfter_append, routesAfter_append, routesAfter_append,
    routesAfter_routeless netId _ (routeless_updateInterfaces netId old new),
    routesAfter_routeless netId _ (routeless_updateDnses netId new),
    routesAfter_routeless netId _ (routeless_updateMtu old new)]
  unfold updateRoutes
  rw [routesAfter_append, routesAfter_adds, routesAfter_removes, filter_isNewRoute,
    filter_isNewRoute]
  rfl

/-! ### Runs of updates -/

/-- The process, and the routes netd keeps for one of its networks. -/
structure Routed where
  world : World
  table : Finset RouteKey

/-- Construct a network. netd keeps no route for it. -/
def routed (world : World) (supplier : Ref NetSupplier) : Routed where
  world := (make world supplier).2
  table := ∅

/-- One `UpdateNetLinkInfo`, after which netd carries out the calls it issued. -/
def routedStep (this : Ref Network) (state : Routed) (netLinkInfo : NetLinkInfo) : Routed where
  world := updateNetLinkInfo state.world this netLinkInfo
  table := routesAfter (state.world.network this).netId state.table
    ((updateNetLinkInfo state.world this netLinkInfo).netdCalls.drop state.world.netdCalls.length)

/-- The list of the network, mirrored in the table of netd. -/
def mirror (this : Ref Network) (state : Routed) : Mirror Route RouteKey where
  items := (state.world.network this).netLinkInfo.routeList
  table := state.table

/-- An update is a step of the mirror. -/
theorem mirror_routedStep (this : Ref Network) (state : Routed) (netLinkInfo : NetLinkInfo) :
    mirror this (routedStep this state netLinkInfo) =
      Mirror.step Route.key NetLinkInfo.routeList (mirror this state) netLinkInfo := by
  unfold mirror routedStep Mirror.step
  rw [netdCalls_updateNetLinkInfo, network_updateNetLinkInfo, routesAfter_linkInfoCalls]
  rfl

/-- A new network is mirrored exactly: it has no route. -/
theorem mirror_routed (world : World) (supplier : Ref NetSupplier) :
    mirror (make world supplier).1 (routed world supplier) = ⟨[], ∅⟩ := by
  unfold mirror routed
  rw [network_make]

/-- netd has the routes of the list of the network. -/
def Converged (this : Ref Network) (state : Routed) : Prop :=
  state.table = Mirror.keys Route.key (state.world.network this).netLinkInfo.routeList

/-- After any updates of a new network, netd has the routes of the last list exactly when each of
them has a name that some update adds and that neither it nor a later one drops. After each of the
updates netd has the routes of the list just given exactly when no update drops a route under
the name of a route it keeps or adds. -/
theorem converged_run (world : World) (supplier : Ref NetSupplier) (updates : List NetLinkInfo) :
    ((run (routedStep (make world supplier).1) (routed world supplier) updates).table =
        Mirror.keys Route.key (Mirror.latest NetLinkInfo.routeList [] updates) ↔
      ∀ route ∈ Mirror.latest NetLinkInfo.routeList [] updates,
        Mirror.Lasting Route.key NetLinkInfo.routeList route.key [] updates) ∧
    (Always (routedStep (make world supplier).1) (Converged (make world supplier).1)
        (routed world supplier) updates ↔
      Guarded (Mirror.follow NetLinkInfo.routeList)
        (fun old netLinkInfo => Mirror.DropsApart Route.key old netLinkInfo.routeList)
        [] updates) := by
  have commutes := mirror_routedStep (make world supplier).1
  have start := mirror_routed world supplier
  constructor
  · have last := run_reading _ (mirror (make world supplier).1) _ commutes
      (routed world supplier) updates
    have exact_iff := Mirror.exact_run_iff Route.key NetLinkInfo.routeList
      (show (⟨[], ∅⟩ : Mirror Route RouteKey).table = ∅ from rfl) updates
    rw [start] at last
    rw [← last] at exact_iff
    exact exact_iff
  · have always := always_reading _ (mirror (make world supplier).1) _ commutes
      (Mirror.Exact Route.key) (routed world supplier) updates
    rw [start] at always
    exact always.trans (Mirror.always_exact_iff Route.key NetLinkInfo.routeList
      (show Mirror.Exact Route.key ⟨[], ∅⟩ from rfl) updates)

/-- A route through a gateway, and the same route with a shorter prefix. -/
def prefixRoute (prefixlen : UInt8) : NetLinkInfo where
  routeList := [{ iface := "eth0"
                  destination := { address := "10.0.0.0", prefixlen := prefixlen }
                  gateway := { address := "10.0.0.1" } }]

/-- When only the prefix length of a route changes, netd ends up without the route. -/
theorem prefix_change_loses_route :
    (make { answers := fun _ => 1 } ⟨0⟩).1 = ⟨0⟩ ∧
      (run (routedStep ⟨0⟩) (routed { answers := fun _ => 1 } ⟨0⟩)
        [prefixRoute 24, prefixRoute 16]).table = ∅ ∧
      Mirror.keys Route.key (Mirror.latest NetLinkInfo.routeList []
        [prefixRoute 24, prefixRoute 16]) = {("eth0", "10.0.0.0", "10.0.0.1")} ∧
      (run (routedStep ⟨0⟩) (routed { answers := fun _ => 1 } ⟨0⟩)
        [prefixRoute 24, prefixRoute 16]).table ≠
          Mirror.keys Route.key (Mirror.latest NetLinkInfo.routeList []
            [prefixRoute 24, prefixRoute 16]) := by
  decide

end Network

end NetManager
