/-
This file settles when a physical network exists before it is used. `UpdateNetSupplierInfo` creates
it for a network the first time, and `UpdateNetLinkInfo` adds interfaces and routes without asking
whether it was created. So every use of a net id comes after the creation exactly as long as link
information that adds something is given only for a net id that has its physical network.
-/

import NetManager.Conn.NetdSide
import Mathlib.Data.List.TakeWhile

namespace NetManager

open Library

/-! ### Calls -/

/-- The net id under which a call adds an interface or a route. -/
def NetdCall.uses : NetdCall → Option Int
  | .networkAddInterface netId _ => some netId
  | .networkAddRoute netId _ _ _ => some netId
  | _ => none

/-- The net id for which a call creates a physical network. -/
def NetdCall.creates : NetdCall → Option Int
  | .networkCreatePhysical netId _ => some netId
  | _ => none

/-- Calls about caches neither create nor use a physical network. -/
theorem NetdCall.aboutCache_neutral {call : NetdCall} (cache : call.aboutCache = true) :
    call.creates = none ∧ call.uses = none := by
  cases call <;> first | exact ⟨rfl, rfl⟩ | cases cache

/-- The calls since a net id was reserved. A network creates its cache as soon as it has its id. -/
def sinceReserved (netId : Int) (calls : List NetdCall) : List NetdCall :=
  calls.dropWhile fun call => call ≠ .createNetworkCache (asUInt16 netId)

/-- A physical network was created since the net id was reserved. -/
def PhysicalSince (netId : Int) (calls : List NetdCall) : Prop :=
  ∃ call ∈ sinceReserved netId calls, call.creates = some netId

/-- Every interface and every route is added after the physical network was created. -/
def CreatedBeforeUse (calls : List NetdCall) : Prop :=
  ∀ before call after netId, calls = before ++ call :: after → call.uses = some netId →
    PhysicalSince netId before

theorem sinceReserved_append {netId : Int} {calls : List NetdCall}
    (reserved : .createNetworkCache (asUInt16 netId) ∈ calls) (more : List NetdCall) :
    sinceReserved netId (calls ++ more) = sinceReserved netId calls ++ more := by
  have begun : (calls.dropWhile fun call =>
      call ≠ .createNetworkCache (asUInt16 netId)).isEmpty = false := by
    rw [List.isEmpty_eq_false_iff, Ne, List.dropWhile_eq_nil_iff]
    intro missing
    exact absurd rfl (of_decide_eq_true (missing _ reserved))
  unfold sinceReserved
  rw [List.dropWhile_append, begun]
  rfl

theorem sinceReserved_of_not_mem {netId : Int} {calls : List NetdCall}
    (unreserved : .createNetworkCache (asUInt16 netId) ∉ calls) (more : List NetdCall) :
    sinceReserved netId (calls ++ more) = sinceReserved netId more := by
  refine List.dropWhile_append_of_pos fun call member => decide_eq_true ?_
  rintro rfl
  exact unreserved member

/-- Calls that create no physical network for a net id. -/
theorem physicalSince_append {netId : Int} (calls : List NetdCall) {more : List NetdCall}
    (none : ∀ call ∈ more, call.creates ≠ some netId) :
    PhysicalSince netId (calls ++ more) ↔ PhysicalSince netId calls := by
  unfold PhysicalSince
  by_cases reserved : .createNetworkCache (asUInt16 netId) ∈ calls
  · rw [sinceReserved_append reserved]
    constructor
    · rintro ⟨call, member, creates⟩
      rcases List.mem_append.mp member with before | now
      · exact ⟨call, before, creates⟩
      · exact absurd creates (none call now)
    · rintro ⟨call, member, creates⟩
      exact ⟨call, List.mem_append_left _ member, creates⟩
  · have empty := sinceReserved_of_not_mem reserved []
    rw [List.append_nil] at empty
    rw [sinceReserved_of_not_mem reserved, empty]
    constructor
    · rintro ⟨call, member, creates⟩
      exact absurd creates (none call ((List.dropWhile_sublist _).subset member))
    · rintro ⟨call, member, _⟩
      exact absurd member List.not_mem_nil

/-- The creation of the physical network of a reserved net id. -/
theorem physicalSince_create {netId : Int} {calls : List NetdCall}
    (reserved : .createNetworkCache (asUInt16 netId) ∈ calls) (permission : Int) :
    PhysicalSince netId (calls ++ [.networkCreatePhysical netId permission]) := by
  refine ⟨.networkCreatePhysical netId permission, ?_, rfl⟩
  rw [sinceReserved_append reserved]
  exact List.mem_append_right _ (List.mem_singleton_self _)

/-- One more call. -/
theorem createdBeforeUse_concat (calls : List NetdCall) (call : NetdCall) :
    CreatedBeforeUse (calls ++ [call]) ↔ CreatedBeforeUse calls ∧
      ∀ netId, call.uses = some netId → PhysicalSince netId calls := by
  constructor
  · intro created
    refine ⟨fun before use after netId split => ?_, fun netId => created calls call [] netId rfl⟩
    refine created before use (after ++ [call]) netId ?_
    rw [split, List.append_assoc, List.cons_append]
  · rintro ⟨created, last⟩ before use after netId split
    rcases List.eq_nil_or_concat after with rfl | ⟨inner, final, rfl⟩
    · obtain ⟨rfl, same⟩ := List.append_inj' split rfl
      rw [← List.singleton_inj.mp same]
      exact last netId
    · rw [List.concat_eq_append, ← List.cons_append, ← List.append_assoc] at split
      exact created before use inner netId (List.append_inj' split rfl).1

/-- More calls, none of which creates a physical network. -/
theorem createdBeforeUse_append (calls : List NetdCall) {more : List NetdCall}
    (none : ∀ call ∈ more, call.creates = none) :
    CreatedBeforeUse (calls ++ more) ↔ CreatedBeforeUse calls ∧
      ∀ call ∈ more, ∀ netId, call.uses = some netId → PhysicalSince netId calls := by
  induction more using List.reverseRecOn with
  | nil =>
    rw [List.append_nil]
    exact (and_iff_left fun _ member => absurd member List.not_mem_nil).symm
  | append_singleton more call inductionHypothesis =>
    obtain ⟨earlier, last⟩ := List.forall_mem_append.mp none
    have unchanged (netId : Int) : PhysicalSince netId (calls ++ more) ↔
        PhysicalSince netId calls :=
      physicalSince_append calls fun call member creates => by
        rw [earlier call member] at creates
        cases creates
    rw [← List.append_assoc, createdBeforeUse_concat, inductionHypothesis earlier,
      List.forall_mem_append, List.forall_mem_singleton, and_assoc]
    simp only [unchanged]

/-! ### What an update adds -/

namespace Network

/-- The new link information has another interface or new routes. -/
def adds (old new : NetLinkInfo) : Bool :=
  (new.ifaceName ≠ old.ifaceName && new.ifaceName ≠ "") ||
    new.routeList.any (isNewRoute old.routeList)

theorem creates_linkInfoCalls (netId : Int) (old new : NetLinkInfo) :
    ∀ call ∈ linkInfoCalls netId old new, call.creates = none :=
  forall_linkInfoCalls old new (fun _ => rfl) (fun _ => rfl) (fun _ _ _ => rfl) (fun _ _ _ => rfl)
    (fun _ _ => rfl) (fun _ _ => rfl)

theorem uses_updateInterfaces (netId : Int) (old new : NetLinkInfo) (used : Int) :
    (∃ call ∈ updateInterfaces netId old new, call.uses = some used) ↔
      used = netId ∧ (new.ifaceName ≠ old.ifaceName && new.ifaceName ≠ "") = true := by
  unfold updateInterfaces
  by_cases same : new.ifaceName = old.ifaceName
  · rw [if_pos same]
    simp [same]
  · rw [if_neg same]
    by_cases empty : new.ifaceName = ""
    · rw [if_pos empty]
      by_cases emptyOld : old.ifaceName = ""
      · simp [empty, emptyOld]
      · simp [empty, emptyOld, NetdCall.uses]
    · rw [if_neg empty]
      by_cases emptyOld : old.ifaceName = ""
      · simp [empty, emptyOld, NetdCall.uses, eq_comm]
      · simp [same, empty, emptyOld, NetdCall.uses, eq_comm]

theorem uses_updateRoutes (netId : Int) (old new : NetLinkInfo) (used : Int) :
    (∃ call ∈ updateRoutes netId old new, call.uses = some used) ↔
      used = netId ∧ new.routeList.any (isNewRoute old.routeList) = true := by
  unfold updateRoutes
  constructor
  · rintro ⟨call, member, uses⟩
    rcases List.mem_append.mp member with added | removed
    · obtain ⟨route, kept, rfl⟩ := List.mem_map.mp added
      obtain ⟨listed, isNew⟩ := List.mem_filter.mp kept
      exact ⟨(Option.some.inj uses).symm, List.any_eq_true.mpr ⟨route, listed, isNew⟩⟩
    · obtain ⟨route, _, rfl⟩ := List.mem_map.mp removed
      cases uses
  · rintro ⟨rfl, some⟩
    obtain ⟨route, listed, isNew⟩ := List.any_eq_true.mp some
    exact ⟨_, List.mem_append_left _ (List.mem_map_of_mem (List.mem_filter.mpr ⟨listed, isNew⟩)),
      rfl⟩

/-- An update uses no other net id, and uses its own exactly when it adds something. -/
theorem uses_linkInfoCalls (netId : Int) (old new : NetLinkInfo) (used : Int) :
    (∃ call ∈ linkInfoCalls netId old new, call.uses = some used) ↔
      used = netId ∧ adds old new = true := by
  have rest : ∀ call ∈ updateDnses netId new ++ updateMtu old new, call.uses = none := by
    intro call member
    rcases List.mem_append.mp member with dnses | mtu
    · rw [List.mem_singleton.mp dnses]
      rfl
    · unfold updateMtu at mtu
      split at mtu
      · cases mtu
      · rw [List.mem_singleton.mp mtu]
        rfl
  have interfaces := uses_updateInterfaces netId old new used
  have routes := uses_updateRoutes netId old new used
  unfold linkInfoCalls adds
  rw [List.append_assoc, Bool.or_eq_true, and_or_left, ← interfaces, ← routes]
  constructor
  · rintro ⟨call, member, uses⟩
    rcases List.mem_append.mp member with member | other
    · rcases List.mem_append.mp member with interface | route
      · exact Or.inl ⟨call, interface, uses⟩
      · exact Or.inr ⟨call, route, uses⟩
    · rw [rest call other] at uses
      cases uses
  · rintro (⟨call, member, uses⟩ | ⟨call, member, uses⟩)
    · exact ⟨call, List.mem_append_left _ (List.mem_append_left _ member), uses⟩
    · exact ⟨call, List.mem_append_left _ (List.mem_append_right _ member), uses⟩

end Network

/-! ### Physical networks and their flags -/

/-- Some network with this net id has its physical network. -/
def NetdSide.HasPhysical (side : NetdSide) (netId : Int) : Prop :=
  ∃ network, side.records.Allocated network ∧ (side.records.cell network).netId = netId ∧
    (side.records.cell network).isPhyNetCreated = true

/-- The calls agree with the networks. -/
structure NetdSide.Recorded (side : NetdSide) : Prop where
  cached : ∀ network, side.records.Allocated network →
    .createNetworkCache (asUInt16 (side.records.cell network).netId) ∈ side.calls
  physical : ∀ netId, PhysicalSince netId side.calls ↔ side.HasPhysical netId

namespace NetdSide

theorem Recorded.grows {before after : NetdSide} (recorded : before.Recorded)
    (grows : before.Grows after) : after.Recorded := by
  obtain ⟨issued, appended, caches, created⟩ := grows.calls
  refine ⟨fun network allocated => ?_, fun netId => ?_⟩
  · rw [appended]
    by_cases old : before.records.Allocated network
    · rw [(grows.records.kept network old).2]
      exact List.mem_append_left _ (recorded.cached network old)
    · exact List.mem_append_right _ (created network allocated old)
  · have none : ∀ call ∈ issued, call.creates ≠ some netId := by
      intro call member
      rw [(NetdCall.aboutCache_neutral (caches call member)).1]
      exact (Option.some_ne_none netId).symm
    rw [appended, physicalSince_append _ none, recorded.physical]
    constructor
    · rintro ⟨network, allocated, same, flag⟩
      obtain ⟨still, kept⟩ := grows.records.kept network allocated
      exact ⟨network, still, by rw [kept]; exact same, by rw [kept]; exact flag⟩
    · rintro ⟨network, allocated, same, flag⟩
      by_cases old : before.records.Allocated network
      · rw [(grows.records.kept network old).2] at same flag
        exact ⟨network, old, same, flag⟩
      · rw [(grows.records.new network allocated old).1] at flag
        cases flag

/-- A write that keeps the net id of a network. -/
theorem netId_set (records : Heap Network NetdRecord) (network other : Ref Network)
    {record : NetdRecord} (same : record.netId = (records.cell network).netId) :
    ((records.set network record).cell other).netId = (records.cell other).netId := by
  by_cases here : other = network
  · rw [here, Heap.cell_set_self, same]
  · rw [Heap.cell_set_of_ne _ _ here]

theorem Recorded.createPhysical {side : NetdSide} (recorded : side.Recorded)
    {network : Ref Network} (allocated : side.records.Allocated network) :
    (side.createPhysical network).Recorded := by
  unfold NetdSide.createPhysical
  by_cases created : (side.records.cell network).isPhyNetCreated = true
  · rw [if_pos created]
    exact recorded
  · rw [if_neg created]
    have netIds (other : Ref Network) : ((side.records.set network
        { side.records.cell network with isPhyNetCreated := true }).cell other).netId =
          (side.records.cell other).netId :=
      netId_set side.records network other rfl
    refine ⟨fun other otherAllocated => ?_, fun netId => ?_⟩
    · show NetdCall.createNetworkCache (asUInt16 ((side.records.set _ _).cell other).netId) ∈ _
      rw [netIds other]
      exact List.mem_append_left _ (recorded.cached other otherAllocated)
    · by_cases own : (side.records.cell network).netId = netId
      · subst own
        refine iff_of_true (physicalSince_create (recorded.cached network allocated) 0) ?_
        refine ⟨network, allocated, netIds network, ?_⟩
        exact congrArg NetdRecord.isPhyNetCreated (Heap.cell_set_self _ _ _)
      · have none : ∀ call ∈ [NetdCall.networkCreatePhysical (side.records.cell network).netId 0],
            call.creates ≠ some netId := by
          intro call member creates
          rw [List.mem_singleton.mp member] at creates
          exact own (Option.some.inj creates)
        rw [physicalSince_append _ none, recorded.physical]
        refine exists_congr fun other => and_congr_right fun _ => ?_
        show _ ↔ ((side.records.set _ _).cell other).netId = netId ∧ _
        rw [netIds other]
        refine and_congr_right fun same => ?_
        rw [Heap.cell_set_of_ne]
        rintro rfl
        exact own same

theorem Recorded.updateLinkInfo {side : NetdSide} (recorded : side.Recorded)
    (network : Ref Network) (netLinkInfo : NetLinkInfo) :
    (side.updateLinkInfo network netLinkInfo).Recorded := by
  have netIds (other : Ref Network) :
      ((side.updateLinkInfo network netLinkInfo).records.cell other).netId =
        (side.records.cell other).netId :=
    netId_set side.records network other rfl
  refine ⟨fun other otherAllocated => ?_, fun netId => ?_⟩
  · rw [netIds other]
    exact List.mem_append_left _ (recorded.cached other otherAllocated)
  · have none : ∀ call ∈ Network.linkInfoCalls (side.records.cell network).netId
        (side.records.cell network).netLinkInfo netLinkInfo, call.creates ≠ some netId := by
      intro call member
      rw [Network.creates_linkInfoCalls _ _ _ call member]
      exact (Option.some_ne_none netId).symm
    have flags (other : Ref Network) : ((side.updateLinkInfo network
        netLinkInfo).records.cell other).isPhyNetCreated =
          (side.records.cell other).isPhyNetCreated := by
      show ((side.records.set _ _).cell other).isPhyNetCreated = _
      by_cases here : other = network
      · rw [here, Heap.cell_set_self]
      · rw [Heap.cell_set_of_ne _ _ here]
    refine (physicalSince_append side.calls none).trans ((recorded.physical netId).trans ?_)
    refine exists_congr fun other => and_congr_right fun _ => ?_
    rw [flags other, netIds other]

/-! ### One step -/

theorem Grows.createdBeforeUse {before after : NetdSide} (grows : before.Grows after) :
    CreatedBeforeUse after.calls ↔ CreatedBeforeUse before.calls := by
  obtain ⟨issued, appended, caches, _⟩ := grows.calls
  rw [appended, createdBeforeUse_append _ fun call member =>
    (NetdCall.aboutCache_neutral (caches call member)).1]
  refine and_iff_left fun call member netId uses => ?_
  rw [(NetdCall.aboutCache_neutral (caches call member)).2] at uses
  cases uses

theorem createdBeforeUse_createPhysical (side : NetdSide) (network : Ref Network) :
    CreatedBeforeUse (side.createPhysical network).calls ↔ CreatedBeforeUse side.calls := by
  unfold NetdSide.createPhysical
  split
  · exact Iff.rfl
  · refine (createdBeforeUse_concat _ _).trans (and_iff_left fun netId uses => ?_)
    cases uses

theorem Recorded.createdBeforeUse_updateLinkInfo {side : NetdSide} (recorded : side.Recorded)
    (network : Ref Network) (netLinkInfo : NetLinkInfo) :
    CreatedBeforeUse (side.updateLinkInfo network netLinkInfo).calls ↔
      CreatedBeforeUse side.calls ∧
        (Network.adds (side.records.cell network).netLinkInfo netLinkInfo = true →
          side.HasPhysical (side.records.cell network).netId) := by
  have uses := Network.uses_linkInfoCalls (side.records.cell network).netId
    (side.records.cell network).netLinkInfo netLinkInfo
  refine (createdBeforeUse_append _ (Network.creates_linkInfoCalls _ _ _)).trans ?_
  refine and_congr_right fun _ => ?_
  rw [← recorded.physical]
  constructor
  · intro every adds
    obtain ⟨call, member, used⟩ := (uses _).mpr ⟨rfl, adds⟩
    exact every call member _ used
  · intro created call member netId used
    obtain ⟨rfl, adds⟩ := (uses netId).mp ⟨call, member, used⟩
    exact created adds

end NetdSide

namespace NetConnService

/-- An action that adds an interface or a route to a network comes when some network with its net
id has its physical network. -/
def AddsToPhysical (state : NetConnService) (action : Action) : Prop :=
  ∀ network netLinkInfo, state.linkTarget action = some (network, netLinkInfo) →
    Network.adds (state.world.network network).netLinkInfo netLinkInfo = true →
      state.world.netdSide.HasPhysical (state.world.network network).netId

/-- What holds in every state of a run. -/
structure NetdInvariant (state : NetConnService) : Prop where
  wellFormed : state.registry.WellFormed
  recorded : state.world.netdSide.Recorded

theorem netdInvariant_step (state : NetConnService) (action : Action)
    (invariant : state.NetdInvariant) : (state.step action).NetdInvariant := by
  refine ⟨step_wellFormed state action invariant.wellFormed, ?_⟩
  have allocated (network : Ref Network) (listed : network ∈ state.networks) :
      state.world.netdSide.records.Allocated network :=
    invariant.wellFormed.networks network listed
  generalize reached : (state.step action).world.netdSide = after
  have step := state.netdStep invariant.wellFormed action
  rw [reached] at step
  cases step with
  | grows _ grows => exact invariant.recorded.grows grows
  | physical network _ listed => exact invariant.recorded.createPhysical (allocated network listed)
  | linkInfo network netLinkInfo _ _ =>
    exact invariant.recorded.updateLinkInfo network netLinkInfo

theorem createdBeforeUse_step (state : NetConnService) (action : Action)
    (invariant : state.NetdInvariant) (created : CreatedBeforeUse state.world.netdCalls) :
    CreatedBeforeUse (state.step action).world.netdCalls ↔ state.AddsToPhysical action := by
  have untargeted (other : state.linkTarget action = none) : state.AddsToPhysical action := by
    intro network netLinkInfo target
    rw [other] at target
    cases target
  show CreatedBeforeUse (state.step action).world.netdSide.calls ↔ _
  generalize reached : (state.step action).world.netdSide = after
  have step := state.netdStep invariant.wellFormed action
  rw [reached] at step
  cases step with
  | grows other grows =>
    exact iff_of_true (grows.createdBeforeUse.mpr created) (untargeted other)
  | physical network other _ =>
    exact iff_of_true ((NetdSide.createdBeforeUse_createPhysical _ network).mpr created)
      (untargeted other)
  | linkInfo network netLinkInfo target _ =>
    rw [invariant.recorded.createdBeforeUse_updateLinkInfo]
    refine (and_iff_right created).trans ⟨fun physical other otherInfo same => ?_, ?_⟩
    · rw [target] at same
      cases same
      exact physical
    · exact fun guard => guard network netLinkInfo target

theorem start_netdInvariant (answers : Nat → Int) : (start answers).NetdInvariant := by
  have unallocated (network : Ref Network) :
      ¬ (start answers).world.netdSide.records.Allocated network := Nat.not_lt_zero _
  refine ⟨start_wellFormed answers, fun network allocated => ?_, fun netId => ?_⟩
  · exact absurd allocated (unallocated network)
  · refine iff_of_false ?_ ?_
    · rintro ⟨_, member, _⟩
      exact absurd member List.not_mem_nil
    · rintro ⟨network, allocated, _⟩
      exact unallocated network allocated

/-- Interfaces and routes are added after the physical network was created exactly as long as
nothing is added to a network whose net id has no physical network yet. -/
theorem createdBeforeUse_run (answers : Nat → Int) (actions : List Action) :
    Always step (fun state => CreatedBeforeUse state.world.netdCalls) (start answers) actions ↔
      Guarded step AddsToPhysical (start answers) actions := by
  refine always_iff_guarded step netdInvariant_step createdBeforeUse_step
    (start_netdInvariant answers) ?_ actions
  intro before call after netId split
  exact absurd split.symm (List.append_ne_nil_of_right_ne_nil _ (List.cons_ne_nil _ _))

/-- Link information before any supplier information: the interface is added to a net id that has
no physical network. -/
theorem interface_before_physical_network :
    let actions := [.registerNetSupplier 2 "eth0" 0,
      .updateNetLinkInfo 1003 (some { ifaceName := "eth0" })]
    ¬ Always step (fun state => CreatedBeforeUse state.world.netdCalls) (start fun _ => 0)
      actions := by
  intro actions always
  have calls : (run step (start fun _ => 0) actions).world.netdCalls =
      [.createNetworkCache 0] ++ .networkAddInterface 0 "eth0" ::
        [.setResolverConfig 0 0 1 [] []] := by decide
  obtain ⟨call, member, creates⟩ := always actions [] rfl _ _ _ 0 calls rfl
  have same : call = .createNetworkCache 0 := List.mem_singleton.mp member
  rw [same] at creates
  cases creates

end NetConnService

end NetManager
