/-
This file follows netd through whole runs of the connection service. The calls about one net id
are made for one network, because no net id is given out twice while there are any left. So what
netd keeps for a network is what the updates of that network make of it, whatever happens to the
others in between: its interface is the recorded one, the resolver has the recorded servers, and
there is no route that is not recorded.

What netd keeps for a net id is a reading of the calls (`NetdView`), and a reading that every
update brings to agree with the new link information agrees with it in every state of a run.
-/

import NetManager.Conn.DirectoryRefinement
import NetManager.Conn.LinkHistory

namespace NetManager

open Library

/-! ### Readings of the calls -/

/-- The net ids that a `uint16_t` tells apart. -/
def InUInt16 (netId : Int) : Prop := 0 ≤ netId ∧ netId < 65536

theorem asUInt16_ne {first second : Int} (firstFits : InUInt16 first)
    (secondFits : InUInt16 second) (different : first ≠ second) :
    asUInt16 first ≠ asUInt16 second := by
  intro same
  obtain ⟨firstValue, rfl⟩ := Int.eq_ofNat_of_zero_le firstFits.1
  obtain ⟨secondValue, rfl⟩ := Int.eq_ofNat_of_zero_le secondFits.1
  have firstSmall : firstValue < 65536 := Int.ofNat_lt.mp firstFits.2
  have secondSmall : secondValue < 65536 := Int.ofNat_lt.mp secondFits.2
  have value (number : Nat) (small : number < 2 ^ 16) :
      (asUInt16 (number : Int)).toNat = number := by
    have bound : (number : Int) < 2 ^ 16 := by exact_mod_cast small
    show (UInt16.ofNat ((number : Int) % 2 ^ 16).toNat).toNat = number
    rw [Int.emod_eq_of_lt (Int.natCast_nonneg _) bound, Int.toNat_natCast]
    exact UInt16.toNat_ofNat_of_lt' small
  refine different (congrArg Int.ofNat ?_)
  rw [← value firstValue firstSmall, same, value secondValue secondSmall]

/-- Something that netd keeps for every net id, and when it agrees with link information. Creating
caches and physical networks is not about it, and the calls of an update bring what is kept for
one net id to agree with the new link information. -/
structure NetdView (Kept : Type) where
  initial : Kept
  on : Int → Kept → NetdCall → Kept
  Agrees : NetLinkInfo → Kept → Prop
  blank : Agrees {} initial
  cache : ∀ netId kept call, call.aboutCache = true → on netId kept call = kept
  physical : ∀ netId kept id permission,
    on netId kept (.networkCreatePhysical id permission) = kept
  linkInfo : ∀ netId kept old new, Agrees old kept →
    Agrees new ((Network.linkInfoCalls netId old new).foldl (on netId) kept)
  others : ∀ netId kept id old new, InUInt16 netId → InUInt16 id → id ≠ netId →
    (Network.linkInfoCalls id old new).foldl (on netId) kept = kept

namespace NetdView

variable {Kept : Type} (view : NetdView Kept)

/-- What netd keeps for a net id after the calls. -/
def after (netId : Int) (calls : List NetdCall) : Kept := calls.foldl (view.on netId) view.initial

theorem after_append (netId : Int) (first second : List NetdCall) :
    view.after netId (first ++ second) = second.foldl (view.on netId) (view.after netId first) :=
  List.foldl_append

/-- netd agrees with every network, and keeps nothing for the net ids of none. -/
structure Mirrors (side : NetdSide) : Prop where
  networks : ∀ network, side.records.Allocated network →
    view.Agrees (side.records.cell network).netLinkInfo
      (view.after (side.records.cell network).netId side.calls)
  unused : ∀ netId, InUInt16 netId → (∀ network, side.records.Allocated network →
    (side.records.cell network).netId ≠ netId) → view.after netId side.calls = view.initial

/-- Every network has a net id of its own. -/
structure Apart (side : NetdSide) : Prop where
  fits : ∀ network, side.records.Allocated network → InUInt16 (side.records.cell network).netId
  distinct : ∀ first second, side.records.Allocated first → side.records.Allocated second →
    (side.records.cell first).netId = (side.records.cell second).netId → first = second

variable {view} {side : NetdSide}

/-- A new network finds nothing under its net id. -/
theorem Mirrors.grows {later : NetdSide} (mirrors : view.Mirrors side) (grows : side.Grows later)
    (apart : Apart later) : view.Mirrors later := by
  obtain ⟨issued, appended, caches, _⟩ := grows.calls
  have same (netId : Int) : view.after netId later.calls = view.after netId side.calls := by
    rw [appended, after_append]
    exact NetdTable.foldl_kept fun call member => view.cache netId _ call (caches call member)
  constructor
  · intro network allocated
    rw [same]
    by_cases present : side.records.Allocated network
    · rw [(grows.records.kept network present).2]
      exact mirrors.networks network present
    · have free (other : Ref Network) (known : side.records.Allocated other) :
          (side.records.cell other).netId ≠ (later.records.cell network).netId := by
        intro shared
        obtain ⟨still, kept⟩ := grows.records.kept other known
        rw [← kept] at shared
        exact present (apart.distinct other network still allocated shared ▸ known)
      rw [(grows.records.new network allocated present).2,
        mirrors.unused _ (apart.fits network allocated) free]
      exact view.blank
  · intro netId fits free
    rw [same]
    refine mirrors.unused netId fits fun network allocated own => ?_
    obtain ⟨still, kept⟩ := grows.records.kept network allocated
    exact free network still (by rw [kept]; exact own)

theorem Mirrors.createPhysical (mirrors : view.Mirrors side) (network : Ref Network) :
    view.Mirrors (side.createPhysical network) := by
  have same (netId : Int) : view.after netId (side.createPhysical network).calls =
      view.after netId side.calls := by
    unfold NetdSide.createPhysical
    split
    · rfl
    · rw [after_append]
      exact view.physical netId _ _ 0
  have known {other : Ref Network}
      (allocated : (side.createPhysical network).records.Allocated other) :
      side.records.Allocated other := by
    unfold NetdSide.createPhysical at allocated
    split at allocated
    · exact allocated
    · exact allocated
  constructor
  · intro other allocated
    obtain ⟨_, sameId, sameInfo⟩ := side.createPhysical_kept network (known allocated)
    rw [same, sameId, sameInfo]
    exact mirrors.networks other (known allocated)
  · intro netId fits free
    rw [same]
    refine mirrors.unused netId fits fun other allocated own => ?_
    obtain ⟨still, sameId, _⟩ := side.createPhysical_kept network allocated
    exact free other still (sameId.trans own)

/-- An update brings what is kept for its network to agree with the new link information, and
the net ids of the others are others. -/
theorem Mirrors.updateLinkInfo (mirrors : view.Mirrors side) (apart : Apart side)
    {network : Ref Network} (allocated : side.records.Allocated network)
    (netLinkInfo : NetLinkInfo) : view.Mirrors (side.updateLinkInfo network netLinkInfo) := by
  have netIds (other : Ref Network) :
      ((side.updateLinkInfo network netLinkInfo).records.cell other).netId =
        (side.records.cell other).netId :=
    NetdSide.netId_set side.records network other rfl
  have split (netId : Int) :
      view.after netId (side.updateLinkInfo network netLinkInfo).calls =
        (Network.linkInfoCalls (side.records.cell network).netId
          (side.records.cell network).netLinkInfo netLinkInfo).foldl (view.on netId)
            (view.after netId side.calls) := view.after_append netId _ _
  have ownId := apart.fits network allocated
  constructor
  · intro other otherAllocated
    rw [netIds, split]
    by_cases here : other = network
    · subst here
      have updated : ((side.updateLinkInfo other netLinkInfo).records.cell other).netLinkInfo =
          netLinkInfo := congrArg NetdRecord.netLinkInfo (Heap.cell_set_self _ _ _)
      rw [updated]
      exact view.linkInfo _ _ _ _ (mirrors.networks other allocated)
    · have untouched : ((side.updateLinkInfo network netLinkInfo).records.cell other).netLinkInfo =
          (side.records.cell other).netLinkInfo :=
        congrArg NetdRecord.netLinkInfo (Heap.cell_set_of_ne _ _ here)
      have different : (side.records.cell network).netId ≠ (side.records.cell other).netId :=
        fun same => here (apart.distinct network other allocated otherAllocated same).symm
      rw [untouched, view.others _ _ _ _ _ (apart.fits other otherAllocated) ownId different]
      exact mirrors.networks other otherAllocated
  · intro netId fits free
    have free (other : Ref Network) (known : side.records.Allocated other) :
        (side.records.cell other).netId ≠ netId := netIds other ▸ free other known
    rw [split, view.others _ _ _ _ _ fits ownId (free network allocated)]
    exact mirrors.unused netId fits free

/-! ### The readings -/

/-- What netd lists for a net id is listed in the link information. -/
def listed {Item Key : Type} [DecidableEq Item] [DecidableEq Key] (kind : NetdTable Item Key) :
    NetdView (Finset Key) where
  initial := ∅
  on := kind.on
  Agrees netLinkInfo table := table ⊆ Mirror.keys kind.key (kind.items netLinkInfo)
  blank := Finset.empty_subset _
  cache := kind.cache
  physical := kind.physical
  linkInfo := by
    intro netId table old new subset
    let mirror : Mirror Item Key := ⟨kind.items old, table⟩
    have kept : mirror.table ⊆ Mirror.keys kind.key mirror.items := subset
    rw [kind.linkInfo]
    exact Mirror.update_subset kind.key kept (kind.items new)
  others netId table id old new _ _ other := kind.others netId table id old new other

/-- netd has the interface of the link information. -/
def interfaces : NetdView (Finset String) where
  initial := ∅
  on := NetdTable.interfaces.on
  Agrees netLinkInfo table := table = Mirror.keys id netLinkInfo.interfaces
  blank := rfl
  cache := NetdTable.interfaces.cache
  physical := NetdTable.interfaces.physical
  linkInfo := by
    intro netId table old new before
    have apart : Mirror.DropsApart id old.interfaces new.interfaces := by
      intro iface _ gone other listed same
      rw [id, id] at same
      exact gone (same ▸ listed)
    rw [NetdTable.interfaces.linkInfo]
    have exact : Mirror.Exact id ⟨old.interfaces, table⟩ := before
    exact (Mirror.exact_update_iff id exact new.interfaces).mpr apart
  others netId table id old new _ _ other :=
    NetdTable.interfaces.others netId table id old new other

end NetdView

/-- The servers and the domains that the resolver has for a net id. -/
def NetdCall.onResolver (netId : Int) (lists : List String × List String) :
    NetdCall → List String × List String
  | .setResolverConfig id _ _ servers domains =>
    if id = asUInt16 netId then (servers, domains) else lists
  | _ => lists

namespace NetdView

/-- The resolver has the servers of the link information. -/
def resolver : NetdView (List String × List String) where
  initial := ([], [])
  on := NetdCall.onResolver
  Agrees netLinkInfo lists :=
    lists = (netLinkInfo.dnsList.map (·.address), netLinkInfo.dnsList.map (·.hostName))
  blank := rfl
  cache := by
    intro netId lists call cache
    cases call <;> first | rfl | cases cache
  physical := fun _ _ _ _ => rfl
  linkInfo := by
    intro netId lists old new _
    have before : ∀ call ∈ Network.updateInterfaces netId old new ++
        Network.updateRoutes netId old new, NetdCall.onResolver netId lists call = lists :=
      List.forall_mem_append.mpr
        ⟨Network.forall_updateInterfaces old new (fun _ => rfl) (fun _ => rfl),
          Network.forall_updateRoutes old new (fun _ _ _ => rfl) (fun _ _ _ => rfl)⟩
    have told : NetdCall.onResolver netId lists (.setResolverConfig (asUInt16 netId) 0 1
        (new.dnsList.map (·.address)) (new.dnsList.map (·.hostName))) =
          (new.dnsList.map (·.address), new.dnsList.map (·.hostName)) := if_pos rfl
    unfold Network.linkInfoCalls Network.updateDnses
    rw [List.foldl_append, List.foldl_append, NetdTable.foldl_kept before, List.foldl_cons, told,
      List.foldl_nil]
    exact NetdTable.foldl_kept (Network.forall_updateMtu old new fun _ _ => rfl)
  others := by
    intro netId lists id old new fits idFits other
    exact NetdTable.foldl_kept (Network.forall_linkInfoCalls old new (fun _ => rfl) (fun _ => rfl)
      (fun _ _ _ => rfl) (fun _ _ _ => rfl) (fun _ _ => if_neg (asUInt16_ne idFits fits other))
      (fun _ _ => rfl))

end NetdView

/-! ### Runs -/

namespace NetConnService

variable {state : NetConnService}

/-- While there are net ids left, every network has one of its own. -/
theorem netIds_apart (wellFormed : state.registry.WellFormed)
    (few : state.createdSuppliers ≤ NetIdManager.capacity) :
    NetdView.Apart state.world.netdSide := by
  constructor
  · intro network allocated
    have netId : (state.registry.network network).netId = network.address :=
      wellFormed.netId_eq few allocated
    have created : network.address < state.createdSuppliers :=
      Nat.lt_of_lt_of_eq allocated wellFormed.identities.paired
    have room : network.address < NetIdManager.capacity := Nat.lt_of_lt_of_le created few
    show InUInt16 (state.registry.network network).netId
    rw [netId]
    rw [NetIdManager.capacity_eq] at room
    exact ⟨Int.natCast_nonneg _, by omega⟩
  · exact fun first second firstAllocated secondAllocated same =>
      wellFormed.netId_injective few firstAllocated secondAllocated same

theorem mirrors_step {Kept : Type} {view : NetdView Kept} (wellFormed : state.registry.WellFormed)
    (mirrors : view.Mirrors state.world.netdSide) (action : Action)
    (few : (state.step action).createdSuppliers ≤ NetIdManager.capacity) :
    view.Mirrors (state.step action).world.netdSide := by
  have apart := netIds_apart wellFormed
    (le_trans (createdSuppliers_le_step wellFormed action) few)
  have later := netIds_apart (step_wellFormed state action wellFormed) few
  have step := state.netdStep wellFormed action
  generalize (state.step action).world.netdSide = after at step later ⊢
  cases step with
  | grows _ grows => exact mirrors.grows grows later
  | physical network _ _ => exact mirrors.createPhysical network
  | linkInfo network netLinkInfo _ member =>
    exact mirrors.updateLinkInfo apart (wellFormed.networks network member) netLinkInfo

theorem mirrors_run {Kept : Type} (view : NetdView Kept) (answers : Nat → Int)
    (actions : List Action)
    (few : (run step (start answers) actions).createdSuppliers ≤ NetIdManager.capacity) :
    view.Mirrors (run step (start answers) actions).world.netdSide := by
  induction actions using List.reverseRecOn with
  | nil =>
    refine ⟨fun network allocated => absurd allocated (Nat.not_lt_zero _), fun _ _ _ => rfl⟩
  | append_singleton actions action inductionHypothesis =>
    rw [run_concat] at few ⊢
    have wellFormed := run_wellFormed answers actions
    exact mirrors_step wellFormed (inductionHypothesis (le_trans
      (createdSuppliers_le_step wellFormed action) few)) action few

/-- The net id of the network that is listed under an id. -/
def netIdOf (state : NetConnService) (supplierId : UInt32) : Option Int :=
  (state.getNetworkFromListBySupplierId supplierId).map fun network =>
    (state.world.network network).netId

/-- netd has carried out link information for a net id: it has the interface, the resolver has the
servers, and there are no other routes. -/
structure CarriedOut (netId : Int) (netLinkInfo : NetLinkInfo) (calls : List NetdCall) : Prop where
  interfaces : interfacesAfter netId ∅ calls =
    if netLinkInfo.ifaceName = "" then ∅ else {netLinkInfo.ifaceName}
  resolver : calls.foldl (NetdCall.onResolver netId) ([], []) =
    (netLinkInfo.dnsList.map (·.address), netLinkInfo.dnsList.map (·.hostName))
  routes : routesAfter netId ∅ calls ⊆ Mirror.keys Route.key netLinkInfo.routeList

/-- Every entry of the directory has a net id, for which what netd keeps agrees with the entry. -/
theorem agrees_run (answers : Nat → Int) (actions : List Action)
    (few : (run step (start answers) actions).createdSuppliers ≤ NetIdManager.capacity)
    {supplierId : UInt32} {entry : SupplierEntry}
    (kept : (run step (start answers) actions).directory.entry supplierId = some entry) :
    ∃ netId, (run step (start answers) actions).netIdOf supplierId = some netId ∧
      ∀ {Kept : Type} (view : NetdView Kept), view.Agrees entry.netLinkInfo
        (view.after netId (run step (start answers) actions).world.netdCalls) := by
  have wellFormed := run_wellFormed answers actions
  have fewIds := le_trans few (by decide : NetIdManager.capacity ≤ 2 ^ 32 - 1003)
  obtain ⟨network, ⟨listed, sameId⟩, rfl⟩ :=
    (entry_eq_some_iff wellFormed fewIds supplierId entry).mp kept
  have found :=
    (networkOfId_eq_some_iff wellFormed fewIds supplierId network).mpr ⟨listed, sameId⟩
  exact ⟨_, Option.map_eq_some_iff.mpr ⟨network, found, rfl⟩, fun view =>
    (mirrors_run view answers actions few).networks network (wellFormed.networks network listed)⟩

/-- netd has carried out every entry of the directory. -/
theorem carriedOut_run (answers : Nat → Int) (actions : List Action)
    (few : (run step (start answers) actions).createdSuppliers ≤ NetIdManager.capacity)
    {supplierId : UInt32} {entry : SupplierEntry}
    (kept : (run step (start answers) actions).directory.entry supplierId = some entry) :
    ∃ netId, (run step (start answers) actions).netIdOf supplierId = some netId ∧
      CarriedOut netId entry.netLinkInfo (run step (start answers) actions).world.netdCalls := by
  obtain ⟨netId, own, agrees⟩ := agrees_run answers actions few kept
  refine ⟨netId, own, ?_, agrees NetdView.resolver, agrees (NetdView.listed .routes)⟩
  refine (agrees NetdView.interfaces).trans ?_
  show Mirror.keys id (NetLinkInfo.interfaces _) = _
  unfold NetLinkInfo.interfaces
  split
  · rfl
  · rfl

/-- Every entry of the directory has a net id of its own. -/
theorem netIdOf_injective {state : NetConnService} (wellFormed : state.registry.WellFormed)
    (few : state.createdSuppliers ≤ NetIdManager.capacity) {first second : UInt32} {netId : Int}
    (firstId : state.netIdOf first = some netId) (secondId : state.netIdOf second = some netId) :
    first = second := by
  have fewIds := le_trans few (by decide : NetIdManager.capacity ≤ 2 ^ 32 - 1003)
  obtain ⟨firstNetwork, firstFound, firstSame⟩ := Option.map_eq_some_iff.mp firstId
  obtain ⟨secondNetwork, secondFound, secondSame⟩ := Option.map_eq_some_iff.mp secondId
  obtain ⟨firstListed, rfl⟩ :=
    (networkOfId_eq_some_iff wellFormed fewIds first firstNetwork).mp firstFound
  obtain ⟨secondListed, rfl⟩ :=
    (networkOfId_eq_some_iff wellFormed fewIds second secondNetwork).mp secondFound
  obtain rfl : firstNetwork = secondNetwork := (netIds_apart wellFormed few).distinct _ _
    (wellFormed.networks _ firstListed) (wellFormed.networks _ secondListed)
    (firstSame.trans secondSame.symm)
  rfl

/-- At any time, as long as there were net ids for all suppliers, netd has carried out what is kept
in the directory: every entry has a net id of its own, for which netd keeps what the link
information of the entry says. -/
theorem netd_run (answers : Nat → Int) (actions : List Action)
    (few : (run step (start answers) actions).createdSuppliers ≤ 64512) :
    let reached := run step (start answers) actions
    (∀ supplierId entry, reached.directory.entry supplierId = some entry →
      ∃ netId, reached.netIdOf supplierId = some netId ∧
        CarriedOut netId entry.netLinkInfo reached.world.netdCalls) ∧
    ∀ first second netId, reached.netIdOf first = some netId →
      reached.netIdOf second = some netId → first = second :=
  ⟨fun _ _ kept => carriedOut_run answers actions few kept,
    fun _ _ _ firstId secondId =>
      netIdOf_injective (run_wellFormed answers actions) few firstId secondId⟩

/-- Two suppliers report one interface each, and one of them is replaced. -/
theorem netd_run_example :
    let actions : List Action := [.registerNetSupplier 2 "eth0" 1, .registerNetSupplier 1 "slot0" 3,
      .updateNetLinkInfo 1003 (some { ifaceName := "eth0" }),
      .updateNetLinkInfo 1004 (some { ifaceName := "rmnet0" }),
      .updateNetLinkInfo 1003 (some { ifaceName := "eth1" })]
    ∃ netId, (run step (start fun _ => 1) actions).netIdOf 1003 = some netId ∧
      interfacesAfter netId ∅ (run step (start fun _ => 1) actions).world.netdCalls = {"eth1"} := by
  intro actions
  obtain ⟨entry, kept, named⟩ := Option.map_eq_some_iff.mp
    (show ((run step (start fun _ => 1) actions).directory.entry 1003).map
      (fun entry => entry.netLinkInfo.ifaceName) = some "eth1" by decide)
  obtain ⟨netId, own, carriedOut⟩ := (netd_run (fun _ => 1) actions (by decide)).1 1003 entry kept
  refine ⟨netId, own, carriedOut.interfaces.trans ?_⟩
  rw [named]
  rfl

end NetConnService

end NetManager
