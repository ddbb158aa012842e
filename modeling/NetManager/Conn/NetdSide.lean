/-
This file follows what netd is told. Of a network only its id, its link information and the flag
that tells whether a physical network was created for it decide about calls to netd. The connection
state machine and the callback requests write none of these and make no such call; constructing a
network creates its cache, destroying it destroys the cache; the two updates of a network do the
rest.
-/

import NetManager.Conn.Attempt
import NetManager.Conn.Membership

namespace NetManager

open Library

/-! ### The netd side of a world -/

/-- What decides about the calls a network makes. -/
structure NetdRecord where
  netId : Int
  isPhyNetCreated : Bool := false
  netLinkInfo : NetLinkInfo := {}
deriving DecidableEq

/-- A network that was only constructed. -/
def NetdRecord.Blank (record : NetdRecord) : Prop :=
  record.isPhyNetCreated = false ∧ record.netLinkInfo = {}

def Network.netdRecord (object : Network) : NetdRecord :=
  ⟨object.netId, object.isPhyNetCreated, object.netLinkInfo⟩

/-- The networks as netd knows them, and the calls made so far. -/
structure NetdSide where
  records : Heap Network NetdRecord
  calls : List NetdCall

/-- The netd side of a world. -/
def World.netdSide (world : World) : NetdSide where
  records := world.networkHeap.map Network.netdRecord
  calls := world.netdCalls

theorem World.netdSide_setNetwork (world : World) (ref : Ref Network) (object : Network) :
    (world.setNetwork ref object).netdSide =
      { world.netdSide with records := world.netdSide.records.set ref object.netdRecord } := by
  unfold netdSide setNetwork
  rw [Heap.map_set]

theorem World.netdSide_setNetwork_of_kept (world : World) (ref : Ref Network) (object : Network)
    (kept : object.netdRecord = (world.network ref).netdRecord) :
    (world.setNetwork ref object).netdSide = world.netdSide := by
  unfold netdSide setNetwork
  rw [world.networkHeap.map_set_of_kept Network.netdRecord ref object kept]

/-! ### What netd does not notice -/

theorem NetSupplier.netdSide_supplierDisconnection (world : World) (this : Ref NetSupplier)
    (netCapabilities : NetCapabilities) :
    (supplierDisconnection world this netCapabilities).2.netdSide = world.netdSide := by
  unfold supplierDisconnection
  cases (world.supplier this).netController with
  | none => rfl
  | some _ =>
    dsimp only
    split
    · rfl
    · rfl

/-- Connecting a service tells netd nothing. -/
theorem World.netdSide_frame :
    World.ConnectionFrame fun before after => after.netdSide = before.netdSide where
  refl _ := rfl
  trans earlier later := later.trans earlier
  supplierDisconnection := NetSupplier.netdSide_supplierDisconnection
  activate _ _ := World.netdSide_setNetwork_of_kept _ _ _ rfl
  updateServiceState _ _ _ := rfl

/-! ### Constructions and destructions -/

/-- The call creates or destroys a cache. -/
def NetdCall.aboutCache : NetdCall → Bool
  | .createNetworkCache _ => true
  | .destoryNetworkCache _ => true
  | _ => false

namespace NetdSide

/-- Networks may be constructed and destroyed: a constructed network is blank, its cache is created,
and there are no calls about anything but caches. -/
structure Grows (before after : NetdSide) : Prop where
  records : Heap.GrowsBy NetdRecord.Blank before.records after.records
  calls : ∃ issued, after.calls = before.calls ++ issued ∧
    (∀ call ∈ issued, call.aboutCache = true) ∧
    ∀ network, after.records.Allocated network → ¬ before.records.Allocated network →
      .createNetworkCache (asUInt16 (after.records.cell network).netId) ∈ issued

theorem Grows.refl (side : NetdSide) : side.Grows side := by
  refine ⟨.refl _ _, [], (List.append_nil _).symm, ?_, ?_⟩
  · exact fun _ member => absurd member List.not_mem_nil
  · exact fun _ allocated absent => absurd allocated absent

theorem Grows.trans {first second third : NetdSide} (earlier : first.Grows second)
    (later : second.Grows third) : first.Grows third := by
  obtain ⟨issued, appended, caches, created⟩ := earlier.calls
  obtain ⟨more, appendedMore, cachesMore, createdMore⟩ := later.calls
  refine ⟨earlier.records.trans later.records, issued ++ more, ?_, ?_, ?_⟩
  · rw [appendedMore, appended, List.append_assoc]
  · exact List.forall_mem_append.mpr ⟨caches, cachesMore⟩
  · intro network allocated absent
    by_cases middle : second.records.Allocated network
    · rw [(later.records.kept network middle).2]
      exact List.mem_append_left _ (created network middle absent)
    · exact List.mem_append_right _ (createdMore network allocated middle)

theorem Grows.of_eq {before after : NetdSide} (same : after = before) : before.Grows after :=
  same ▸ .refl before

end NetdSide

theorem Network.netdSide_make (world : World) (supplier : Ref NetSupplier) :
    world.netdSide.Grows (make world supplier).2.netdSide := by
  have allocated : (make world supplier).2.netdSide.records =
      world.netdSide.records.alloc { netId := world.netIdManager.reserveNetId.1 } :=
    Heap.map_alloc _ _ _
  refine ⟨?_, [.createNetworkCache (asUInt16 world.netIdManager.reserveNetId.1)], rfl, ?_, ?_⟩
  · rw [allocated]
    exact .alloc _ ⟨rfl, rfl⟩
  · exact List.forall_mem_singleton.mpr rfl
  · intro network made absent
    rw [allocated] at made ⊢
    rw [((Heap.allocated_alloc_iff _ _ network).mp made).resolve_left absent,
      Heap.cell_alloc_fresh]
    exact List.mem_singleton_self _

theorem Network.netdSide_destroy (world : World) (network : Ref Network) :
    world.netdSide.Grows (destroy world network).netdSide := by
  refine ⟨.refl _ _, [.destoryNetworkCache (asUInt16 (world.network network).netId)], rfl, ?_, ?_⟩
  · exact List.forall_mem_singleton.mpr rfl
  · exact fun _ allocated absent => absurd allocated absent

/-- Constructing and destroying objects. -/
theorem World.netdGrows_frame :
    World.ConstructionFrame fun before after => before.netdSide.Grows after.netdSide where
  refl := fun world => .refl world.netdSide
  trans := NetdSide.Grows.trans
  makeSupplier := fun world _ _ => .refl world.netdSide
  makeNetwork := Network.netdSide_make
  makeService := fun world _ _ _ _ => .refl world.netdSide
  destroy := Network.netdSide_destroy

/-- Callback requests write services only. -/
theorem World.netdSame_frame : World.RegistrationFrame (fun _ => True)
    fun before after => after.netdSide = before.netdSide :=
  .of_setCallbacks (fun _ => rfl) (fun earlier later => later.trans earlier) fun _ _ _ => rfl

/-! ### Updates -/

namespace NetdSide

/-- What `UpdateNetSupplierInfo` tells netd. -/
def createPhysical (side : NetdSide) (network : Ref Network) : NetdSide :=
  if (side.records.cell network).isPhyNetCreated then side
  else
    { records := side.records.set network
        { side.records.cell network with isPhyNetCreated := true }
      calls := side.calls ++ [.networkCreatePhysical (side.records.cell network).netId 0] }

/-- What `UpdateNetLinkInfo` tells netd. -/
def updateLinkInfo (side : NetdSide) (network : Ref Network) (netLinkInfo : NetLinkInfo) :
    NetdSide where
  records := side.records.set network { side.records.cell network with netLinkInfo := netLinkInfo }
  calls := side.calls ++ Network.linkInfoCalls (side.records.cell network).netId
    (side.records.cell network).netLinkInfo netLinkInfo

end NetdSide

theorem Network.netdSide_updateNetSupplierInfo (world : World) (this : Ref Network)
    (netSupplierInfo : NetSupplierInfo) :
    (updateNetSupplierInfo world this netSupplierInfo).netdSide =
      world.netdSide.createPhysical this := by
  by_cases created : (world.network this).isPhyNetCreated = true
  · have kept : updateNetSupplierInfo world this netSupplierInfo =
        NetSupplier.updateNetSupplierInfo world (world.network this).supplier netSupplierInfo :=
      if_pos created
    rw [kept]
    exact (if_pos created).symm
  · have made : updateNetSupplierInfo world this netSupplierInfo =
        ((NetSupplier.updateNetSupplierInfo world (world.network this).supplier
          netSupplierInfo).netd [.networkCreatePhysical (world.network this).netId 0]).setNetwork
            this { world.network this with isPhyNetCreated := true } := if_neg created
    rw [made, World.netdSide_setNetwork]
    exact (if_neg created).symm

theorem Network.netdSide_updateNetLinkInfo (world : World) (this : Ref Network)
    (netLinkInfo : NetLinkInfo) :
    (updateNetLinkInfo world this netLinkInfo).netdSide =
      world.netdSide.updateLinkInfo this netLinkInfo := by
  unfold updateNetLinkInfo
  rw [World.netdSide_setNetwork]
  rfl

/-! ### Every step -/

namespace NetConnService

/-- The network whose link information an action updates, and the new link information. -/
def linkTarget (state : NetConnService) : Action → Option (Ref Network × NetLinkInfo)
  | .updateNetLinkInfo supplierId (some netLinkInfo) =>
    (state.getNetworkFromListBySupplierId supplierId).map fun network => (network, netLinkInfo)
  | _ => none

/-- What an action can tell netd: constructions and destructions, the creation of a physical
network, or new link information. -/
inductive NetdStep (state : NetConnService) (action : Action) : NetdSide → Prop
  | grows {after : NetdSide} (other : state.linkTarget action = none)
      (grows : state.world.netdSide.Grows after) : NetdStep state action after
  | physical (network : Ref Network) (other : state.linkTarget action = none)
      (listed : network ∈ state.networks) :
      NetdStep state action (state.world.netdSide.createPhysical network)
  | linkInfo (network : Ref Network) (netLinkInfo : NetLinkInfo)
      (target : state.linkTarget action = some (network, netLinkInfo))
      (listed : network ∈ state.networks) :
      NetdStep state action (state.world.netdSide.updateLinkInfo network netLinkInfo)

/-- An action that does not update a network. -/
theorem netdSide_grows (state : NetConnService) {action : Action}
    (constructs : action.updatesNetwork = false) :
    state.world.netdSide.Grows (state.step action).world.netdSide := by
  refine World.netdGrows_frame.step state (fun world service => ?_) (fun about => ?_) constructs
  · exact .of_eq (World.netdSide_frame.attempt action world service)
  · exact .of_eq (World.netdSame_frame.aboutCallback state about fun _ _ => trivial)

theorem netdStep (state : NetConnService) (wellFormed : state.registry.WellFormed)
    (action : Action) : state.NetdStep action (state.step action).world.netdSide := by
  cases constructs : action.updatesNetwork with
  | false =>
    refine .grows ?_ (state.netdSide_grows constructs)
    cases action with
    | updateNetLinkInfo supplierId netLinkInfo => cases constructs
    | _ => rfl
  | true =>
    cases action with
    | updateNetSupplierInfo supplierId netSupplierInfo =>
      cases netSupplierInfo with
      | none => exact .grows rfl (.refl _)
      | some netSupplierInfo =>
        rcases getSupplierAndNetwork_cases wellFormed supplierId with
          ⟨failed, _⟩ | ⟨supplier, network, found, _, listed⟩
        · have same : state.step (.updateNetSupplierInfo supplierId (some netSupplierInfo)) =
              state := by
            simp only [step, perform, updateNetSupplierInfo, failed]
          rw [same]
          exact .grows rfl (.refl _)
        · have same : (state.step (.updateNetSupplierInfo supplierId
              (some netSupplierInfo))).world =
              Network.updateNetSupplierInfo state.world network netSupplierInfo := by
            simp only [step, perform, updateNetSupplierInfo, found]
          rw [same, Network.netdSide_updateNetSupplierInfo]
          exact .physical network rfl listed
    | updateNetLinkInfo supplierId netLinkInfo =>
      cases netLinkInfo with
      | none => exact .grows rfl (.refl _)
      | some netLinkInfo =>
        rcases getSupplierAndNetwork_cases wellFormed supplierId with
          ⟨failed, absent⟩ | ⟨supplier, network, found, target, listed⟩
        · have same : state.step (.updateNetLinkInfo supplierId (some netLinkInfo)) = state := by
            simp only [step, perform, updateNetLinkInfo, failed]
          rw [same]
          refine .grows ?_ (.refl _)
          simp only [linkTarget, absent, Option.map_none]
        · have same : (state.step (.updateNetLinkInfo supplierId (some netLinkInfo))).world =
              Network.updateNetLinkInfo state.world network netLinkInfo := by
            simp only [step, perform, updateNetLinkInfo, found]
          rw [same, Network.netdSide_updateNetLinkInfo]
          refine .linkInfo network netLinkInfo ?_ listed
          simp only [linkTarget, target, Option.map_some]
    | _ => cases constructs

end NetConnService

end NetManager
