/-
This file follows the status of a supplier: whether it is available and roams, its strength and
its frequency. `UpdateNetSupplierInfo` writes the status of the supplier its id finds, and nothing
else writes the status of a supplier there is. What it writes is not all that it is given, since
the frequency is narrowed, and what the getters return is not all that was written, since they
return the strength and the frequency as `bool`.
-/

import NetManager.Conn.Growth
import NetManager.Conn.Membership

namespace NetManager

open Library

/-! ### Statuses -/

/-- What `UpdateNetSupplierInfo` writes of a supplier. -/
structure SupplierStatus where
  isAvailable : Bool := false
  isRoaming : Bool := false
  strength : UInt8 := 0
  frequency : UInt16 := 0
deriving DecidableEq, Repr, Inhabited

/-- The status of a supplier. -/
def NetSupplier.status (this : NetSupplier) : SupplierStatus where
  isAvailable := this.isAvailable
  isRoaming := this.isRoaming
  strength := this.strength
  frequency := this.frequency

/-- The status that is written for what a client says. -/
def NetSupplierInfo.status (this : NetSupplierInfo) : SupplierStatus where
  isAvailable := this.isAvailable
  isRoaming := this.isRoaming
  strength := this.strength
  frequency := this.frequency.toUInt16

/-- The statuses of all suppliers. -/
def World.statuses (world : World) : Heap NetSupplier SupplierStatus :=
  world.supplierHeap.map NetSupplier.status

/-- From one world to the other suppliers may be constructed, and no status is written. -/
def World.StatusesGrow (before after : World) : Prop :=
  Heap.GrowsBy (fun status => status = {}) before.statuses after.statuses

theorem World.StatusesGrow.of_same {before after : World}
    (same : after.statuses = before.statuses) : before.StatusesGrow after := by
  unfold World.StatusesGrow
  rw [same]
  exact Heap.GrowsBy.refl _ _

/-! ### What writes no status -/

theorem NetSupplier.statuses_supplierDisconnection (world : World) (this : Ref NetSupplier)
    (netCapabilities : NetCapabilities) :
    (supplierDisconnection world this netCapabilities).2.statuses = world.statuses := by
  unfold supplierDisconnection
  cases (world.supplier this).netController with
  | none => rfl
  | some _ =>
    dsimp only
    split
    · exact world.supplierHeap.map_set_of_kept NetSupplier.status this _ rfl
    · rfl

/-- Connecting a service calls the controller, and that writes a flag of the supplier only. -/
theorem World.statuses_connectionFrame :
    World.ConnectionFrame fun before after => after.statuses = before.statuses where
  refl _ := rfl
  trans earlier later := later.trans earlier
  supplierDisconnection := NetSupplier.statuses_supplierDisconnection
  activate _ _ := rfl
  updateServiceState _ _ _ := rfl

theorem World.statuses_constructionFrame : World.ConstructionFrame World.StatusesGrow where
  refl world := .of_same rfl
  trans := Heap.GrowsBy.trans
  makeSupplier world type ident := by
    unfold World.StatusesGrow World.statuses NetSupplier.make
    rw [Heap.map_alloc]
    exact Heap.GrowsBy.alloc _ rfl
  makeNetwork _ _ := .of_same rfl
  makeService _ _ _ _ _ := .of_same rfl
  destroy _ _ := .of_same rfl

/-- Callback requests write services only. -/
theorem World.statuses_registrationFrame : World.RegistrationFrame (fun _ => True)
    fun before after => after.statuses = before.statuses :=
  .of_setCallbacks (fun _ => rfl) (fun earlier later => later.trans earlier) fun _ _ _ => rfl

/-- The status of the supplier of a network is written. -/
theorem Network.statuses_updateNetSupplierInfo (world : World) (this : Ref Network)
    (netSupplierInfo : NetSupplierInfo) :
    (updateNetSupplierInfo world this netSupplierInfo).statuses =
      world.statuses.set (world.network this).supplier netSupplierInfo.status := by
  have written : (NetSupplier.updateNetSupplierInfo world (world.network this).supplier
      netSupplierInfo).statuses =
      world.statuses.set (world.network this).supplier netSupplierInfo.status :=
    world.supplierHeap.map_set NetSupplier.status _ _
  unfold updateNetSupplierInfo
  dsimp only
  split
  · exact written
  · exact written

namespace NetConnService

variable {state : NetConnService}

/-! ### Updates -/

/-- The supplier whose status an action writes. A null pointer for what the client says is
refused. -/
def updatedSupplier (state : NetConnService) : Action → Option (Ref NetSupplier)
  | .updateNetSupplierInfo supplierId (some _) => state.getNetSupplierFromListById supplierId
  | _ => none

/-- The id of a registered supplier finds it, and a network of it. -/
theorem getSupplierAndNetwork_registered (wellFormed : state.registry.WellFormed)
    {supplierId : UInt32} {supplier : Ref NetSupplier}
    (registered : state.getNetSupplierFromListById supplierId = some supplier) :
    ∃ network, state.getSupplierAndNetwork supplierId = .ok (supplier, network) ∧
      (state.world.network network).supplier = supplier := by
  rcases getSupplierAndNetwork_cases wellFormed supplierId with
    ⟨_, absent⟩ | ⟨owner, network, found, _, _⟩
  · have unknown : state.getNetSupplierFromListById supplierId = none := by
      have corresponding := wellFormed.supplierOfId_eq supplierId
      rw [show state.registry.networkOfId supplierId = none from absent] at corresponding
      exact corresponding
    rw [registered] at unknown
    exact absurd unknown (Option.some_ne_none _)
  · obtain ⟨byId, _, held⟩ := wellFormed.supplierAndNetwork_ok found
    obtain rfl : supplier = owner := Option.some.inj (registered.symm.trans byId)
    exact ⟨network, found, held⟩

/-- An update is answered with `ERR_NONE`, and writes the status of the supplier. -/
theorem updateNetSupplierInfo_registered (wellFormed : state.registry.WellFormed)
    {supplierId : UInt32} {supplier : Ref NetSupplier}
    (registered : state.getNetSupplierFromListById supplierId = some supplier)
    (netSupplierInfo : NetSupplierInfo) :
    (state.updateNetSupplierInfo supplierId (some netSupplierInfo)).1 = .none ∧
      (state.updateNetSupplierInfo supplierId (some netSupplierInfo)).2.world.statuses =
        state.world.statuses.set supplier netSupplierInfo.status := by
  obtain ⟨network, found, rfl⟩ := getSupplierAndNetwork_registered wellFormed registered
  unfold updateNetSupplierInfo
  rw [found]
  exact ⟨rfl, Network.statuses_updateNetSupplierInfo _ _ _⟩

/-- An update of an unknown supplier is refused. -/
theorem updateNetSupplierInfo_unknown {supplierId : UInt32}
    (unknown : state.getNetSupplierFromListById supplierId = none)
    (netSupplierInfo : NetSupplierInfo) :
    (state.updateNetSupplierInfo supplierId (some netSupplierInfo)).2 = state := by
  unfold updateNetSupplierInfo getSupplierAndNetwork
  rw [unknown]

/-! ### Steps and runs -/

/-- An action that does not write the status of a constructed supplier leaves it. -/
theorem status_step (wellFormed : state.registry.WellFormed) {supplier : Ref NetSupplier}
    (allocated : state.world.statuses.Allocated supplier) {action : Action}
    (spares : state.updatedSupplier action ≠ some supplier) :
    (state.step action).world.statuses.Allocated supplier ∧
      (state.step action).world.statuses.cell supplier = state.world.statuses.cell supplier := by
  cases constructs : action.updatesNetwork with
  | false =>
    refine (World.statuses_constructionFrame.step state (fun world service => ?_)
      (fun about => ?_) constructs).kept supplier allocated
    · exact .of_same (World.statuses_connectionFrame.attempt action world service)
    · exact .of_same (World.statuses_registrationFrame.aboutCallback state about
        fun _ _ => trivial)
  | true =>
    cases action with
    | updateNetSupplierInfo supplierId netSupplierInfo =>
      cases netSupplierInfo with
      | none => exact ⟨allocated, rfl⟩
      | some netSupplierInfo =>
        show (state.updateNetSupplierInfo _ _).2.world.statuses.Allocated supplier ∧
          (state.updateNetSupplierInfo _ _).2.world.statuses.cell supplier = _
        cases found : state.getNetSupplierFromListById supplierId with
        | none =>
          rw [updateNetSupplierInfo_unknown found]
          exact ⟨allocated, rfl⟩
        | some other =>
          have different : supplier ≠ other := fun same => spares (by rw [same]; exact found)
          rw [(updateNetSupplierInfo_registered wellFormed found netSupplierInfo).2]
          exact ⟨allocated, Heap.cell_set_of_ne _ _ different⟩
    | updateNetLinkInfo supplierId netLinkInfo =>
      have same : (state.updateNetLinkInfo supplierId netLinkInfo).2.world.statuses =
          state.world.statuses := by
        unfold updateNetLinkInfo
        split
        · rfl
        · split
          · rfl
          · rfl
      show (state.updateNetLinkInfo _ _).2.world.statuses.Allocated supplier ∧
        (state.updateNetLinkInfo _ _).2.world.statuses.cell supplier = _
      rw [same]
      exact ⟨allocated, rfl⟩
    | _ => cases constructs

/-- A run of such actions leaves it, too. -/
theorem status_run (wellFormed : state.registry.WellFormed) {supplier : Ref NetSupplier}
    (allocated : state.world.statuses.Allocated supplier) {actions : List Action}
    (spares : Guarded step (fun state action => state.updatedSupplier action ≠ some supplier)
      state actions) :
    (run step state actions).world.statuses.cell supplier =
      state.world.statuses.cell supplier := by
  have always : Always step (fun later => later.world.statuses.Allocated supplier ∧
      later.world.statuses.cell supplier = state.world.statuses.cell supplier) state actions := by
    refine always_of_guarded step step_wellFormed ?_ wellFormed ⟨allocated, rfl⟩ spares
    intro later action wellFormed kept spared
    obtain ⟨still, same⟩ := status_step wellFormed kept.1 spared
    exact ⟨still, same.trans kept.2⟩
  exact (always actions [] (List.append_nil _).symm).2

end NetConnService

/-! ### Reading a status -/

namespace NetSupplier

/-- The getters return what the client said, as numbers. -/
structure ReadsAs (this : NetSupplier) (info : NetSupplierInfo) : Prop where
  available : this.getAvailable = info.isAvailable
  roaming : this.getRoaming = info.isRoaming
  strength : this.getStrength.toNat = info.strength.toNat
  frequency : this.getFrequency.toNat = info.frequency.toNat

/-- A flag says of a number that it is not zero, and is the number only if that is at most one. -/
theorem toNat_flag_iff (number : Nat) {flag : Bool} (zero : number = 0 → flag = false)
    (one : number = 1 → flag = true) : flag.toNat = number ↔ number ≤ 1 := by
  constructor
  · intro same
    rw [← same]
    exact Bool.toNat_le flag
  · intro small
    rcases Nat.le_one_iff_eq_zero_or_eq_one.mp small with rfl | rfl
    · rw [zero rfl, Bool.toNat_false]
    · rw [one rfl, Bool.toNat_true]

/-- What was written reads as what the client said exactly when both numbers fit into a flag. -/
theorem readsAs_iff {this : NetSupplier} {info : NetSupplierInfo}
    (written : this.status = info.status) :
    this.ReadsAs info ↔ info.strength ≤ 1 ∧ info.frequency ≤ 1 := by
  obtain ⟨isAvailable, isRoaming, strength, frequency⟩ := SupplierStatus.mk.inj written
  have strengthRead : this.getStrength.toNat = info.strength.toNat ↔ info.strength.toNat ≤ 1 := by
    unfold getStrength
    rw [strength]
    refine toNat_flag_iff _ (fun zero => ?_) fun one => ?_
    · rw [UInt8.toNat_inj.mp (zero.trans UInt8.toNat_zero.symm)]
      rfl
    · rw [UInt8.toNat_inj.mp (one.trans UInt8.toNat_one.symm)]
      rfl
  have frequencyRead :
      this.getFrequency.toNat = info.frequency.toNat ↔ info.frequency.toNat ≤ 1 := by
    unfold getFrequency
    rw [frequency]
    refine toNat_flag_iff _ (fun zero => ?_) fun one => ?_
    · rw [UInt32.toNat_inj.mp (zero.trans UInt32.toNat_zero.symm)]
      rfl
    · rw [UInt32.toNat_inj.mp (one.trans UInt32.toNat_one.symm)]
      rfl
  rw [UInt8.le_iff_toNat_le, UInt32.le_iff_toNat_le]
  constructor
  · intro reads
    exact ⟨strengthRead.mp reads.strength, frequencyRead.mp reads.frequency⟩
  · rintro ⟨strengthSmall, frequencySmall⟩
    exact ⟨isAvailable, isRoaming, strengthRead.mpr strengthSmall,
      frequencyRead.mpr frequencySmall⟩

end NetSupplier

end NetManager
