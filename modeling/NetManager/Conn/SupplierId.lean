/-
This file proves that supplier ids are faithful handles. A supplier is known by its
reference; the history of a reference is that it is constructed by one registration,
listed from then on until an unregistration removes it, and never listed again. As
long as the id counter has not reached the sign bit, ids and references correspond,
so the same history holds of the ids clients see.
-/

import NetManager.Conn.Membership
import NetManager.Conn.Representation

namespace NetManager

open Library

/-! ### The history of a supplier -/

namespace Registry

/-- What a later registry knows of an earlier one: constructed suppliers are what they were, and
of these only those that were listed still are. -/
structure Precedes (before after : Registry) : Prop where
  size : before.identities.suppliers.size ≤ after.identities.suppliers.size
  supplier : ∀ supplier, before.identities.suppliers.Allocated supplier →
    after.supplier supplier = before.supplier supplier
  listed : ∀ supplier ∈ after.netSupplier, before.identities.suppliers.Allocated supplier →
    supplier ∈ before.netSupplier

namespace Precedes

variable {first second third : Registry}

theorem refl (registry : Registry) : registry.Precedes registry :=
  ⟨le_refl _, fun _ _ => rfl, fun _ member _ => member⟩

theorem allocated (precedes : first.Precedes second) {supplier : Ref NetSupplier}
    (allocated : first.identities.suppliers.Allocated supplier) :
    second.identities.suppliers.Allocated supplier :=
  Nat.lt_of_lt_of_le allocated precedes.size

theorem trans (earlier : first.Precedes second) (later : second.Precedes third) :
    first.Precedes third := by
  refine ⟨le_trans earlier.size later.size, ?_, ?_⟩
  · intro supplier allocated
    rw [later.supplier supplier (earlier.allocated allocated),
      earlier.supplier supplier allocated]
  · intro supplier member allocated
    exact earlier.listed supplier
      (later.listed supplier member (earlier.allocated allocated)) allocated

/-- Precedence is a matter of the membership. -/
theorem of_membership (precedes : first.Precedes second)
    (same : third.membership = second.membership) : first.Precedes third := by
  have suppliers : third.identities.suppliers = second.identities.suppliers :=
    congrArg Membership.suppliers same
  have lists : third.netSupplier = second.netSupplier := congrArg Membership.netSupplier same
  refine ⟨?_, ?_, ?_⟩
  · rw [suppliers]
    exact precedes.size
  · intro supplier allocated
    show third.identities.suppliers.cell supplier = _
    rw [suppliers]
    exact precedes.supplier supplier allocated
  · rw [lists]
    exact precedes.listed

end Precedes

theorem precedes_enroll (registry : Registry) (type : NetworkType) (ident : String) :
    registry.Precedes (registry.enroll type ident) := by
  refine ⟨Nat.le_succ _, fun supplier => registry.supplier_enroll type ident, ?_⟩
  intro supplier member allocated
  rcases List.mem_append.mp member with before | new
  · exact before
  · rw [List.mem_singleton.mp new] at allocated
    exact absurd allocated (Nat.lt_irrefl _)

namespace WellFormed

variable {registry : Registry}

theorem precedes_step (wellFormed : registry.WellFormed) (action : NetConnService.Action) :
    registry.Precedes (registry.step action) := by
  cases wellFormed.change action with
  | enrolled netType ident netCapabilities creates same =>
    exact (registry.precedes_enroll _ ident).of_membership same
  | removed supplierId network supplierFound networkFound same =>
    rw [same]
    exact ⟨le_refl _, fun _ _ => rfl,
      fun supplier member _ => ((wellFormed.mem_netSupplier_remove supplierFound network
        supplier).mp member).1⟩
  | kept _ known unknown same => exact (Precedes.refl registry).of_membership same

/-- A listed supplier stays listed unless the action unregisters it. -/
theorem netSupplier_step (wellFormed : registry.WellFormed) (action : NetConnService.Action)
    {supplier : Ref NetSupplier} (member : supplier ∈ registry.netSupplier) :
    supplier ∈ (registry.step action).netSupplier ∨
      ∃ supplierId, action = .unregisterNetSupplier supplierId ∧
        registry.supplierOfId supplierId = some supplier := by
  cases wellFormed.change action with
  | enrolled netType ident netCapabilities creates same =>
    left
    rw [show (registry.step _).netSupplier = _ from congrArg Membership.netSupplier same]
    exact List.mem_append_left _ member
  | removed supplierId network supplierFound networkFound same =>
    by_cases gone : supplier = (registry.network network).supplier
    · right
      exact ⟨supplierId, rfl, by rw [supplierFound, gone]⟩
    · left
      rw [same]
      exact (wellFormed.mem_netSupplier_remove supplierFound network supplier).mpr ⟨member, gone⟩
  | kept _ known unknown same =>
    left
    rw [show (registry.step _).netSupplier = _ from congrArg Membership.netSupplier same]
    exact member

/-- The supplier an unregistration finds is not listed any more. -/
theorem unregistered (wellFormed : registry.WellFormed) {supplierId : UInt32}
    {supplier : Ref NetSupplier} (found : registry.supplierOfId supplierId = some supplier) :
    supplier ∉ (registry.step (.unregisterNetSupplier supplierId)).netSupplier := by
  cases wellFormed.change (.unregisterNetSupplier supplierId) with
  | removed _ network supplierFound networkFound same =>
    rw [same]
    intro member
    exact ((wellFormed.mem_netSupplier_remove found network supplier).mp member).2 rfl
  | kept _ known unknown same =>
    rw [unknown supplierId rfl] at found
    exact absurd found (Option.some_ne_none supplier).symm

end WellFormed

end Registry

/-! ### Ids as clients see them -/

theorem asInt32_injective : Function.Injective asInt32 := by
  intro first second same
  have signed : first.toInt32 = second.toInt32 := Int32.toInt.inj same
  rw [← first.toUInt32_toInt32, signed, second.toUInt32_toInt32]

/-- Until the counter reaches the sign bit, ids are positive numbers above every error code. -/
theorem asInt32_supplierIdAt {count : Nat} (small : count < 2 ^ 31 - 0x03EB) :
    asInt32 (supplierIdAt count) = 0x03EB + count := by
  have value : (Int32.ofNat (0x03EB + count)).toInt = ((0x03EB + count : Nat) : Int) :=
    Int32.toInt_ofNat_of_lt (by omega)
  unfold asInt32 supplierIdAt
  rw [UInt32.toInt32_ofNat', value]
  exact Int.natCast_add _ _

namespace NetConnService

/-! ### What registrations and unregistrations return -/

/-- The type of a registration is one of the types the source accepts. -/
def ValidType (netType : UInt32) : Prop :=
  ¬(netType ≥ NetworkType.max.code ∨ netType ≤ NetworkType.unknown.code)

/-- A registration that finds the supplier returns its id and does nothing. -/
theorem perform_register_known {state : NetConnService} {netType : UInt32} {ident : String}
    {supplier : Ref NetSupplier} (valid : ValidType netType)
    (known : state.getNetSupplierFromList netType ident = some supplier)
    (netCapabilities : UInt64) :
    state.perform (.registerNetSupplier netType ident netCapabilities) =
      (asInt32 (state.world.supplier supplier).supplierId, state) := by
  simp only [perform, registerNetSupplier, if_neg valid, known]

theorem registry_register_new {state : NetConnService} {netType : UInt32} {ident : String}
    (valid : ValidType netType) (unknown : state.getNetSupplierFromList netType ident = none)
    (netCapabilities : UInt64) :
    (state.step (.registerNetSupplier netType ident netCapabilities)).registry =
      state.registry.create (NetworkType.ofCode netType) ident netCapabilities := by
  rw [registry_step]
  show state.registry.register netType ident netCapabilities = _
  unfold Registry.register
  rw [if_neg valid, show state.registry.supplierOfKey netType ident = none from unknown]

/-- The supplier a registration creates. -/
theorem supplier_register_new {state : NetConnService} {netType : UInt32} {ident : String}
    (valid : ValidType netType) (unknown : state.getNetSupplierFromList netType ident = none)
    (netCapabilities : UInt64) :
    (state.step (.registerNetSupplier netType ident netCapabilities)).registry.supplier
        state.world.supplierHeap.fresh =
      state.registry.identities.newSupplier (NetworkType.ofCode netType) ident := by
  have membership := Registry.membership_createServices
    (state.registry.enroll (NetworkType.ofCode netType) ident) ident
    (NetworkType.ofCode netType) netCapabilities state.registry.identities.networks.fresh
  have cells := congrArg (fun membership : Membership =>
    membership.suppliers.cell state.world.supplierHeap.fresh) membership
  rw [registry_register_new valid unknown]
  exact cells.trans (state.registry.supplier_enroll_fresh _ _)

/-- A registration that creates the supplier returns the next id. -/
theorem perform_register_new {state : NetConnService} {netType : UInt32} {ident : String}
    (valid : ValidType netType) (unknown : state.getNetSupplierFromList netType ident = none)
    (netCapabilities : UInt64) :
    state.perform (.registerNetSupplier netType ident netCapabilities) =
      (asInt32 state.world.nextNetSupplierId,
        (state.createSupplier (NetworkType.ofCode netType) ident
          netCapabilities).connectDefaultService) := by
  have new := supplier_register_new valid unknown netCapabilities
  unfold step at new
  simp only [perform, registerNetSupplier, if_neg valid, unknown] at new ⊢
  exact Prod.ext (congrArg (asInt32 ∘ SupplierIdentity.supplierId) new) rfl

/-- A registration with a valid type returns the id of a listed supplier with the key asked for,
which was listed before or is new. -/
theorem registerNetSupplier_spec (state : NetConnService) (netType : UInt32) (ident : String)
    (netCapabilities : UInt64) (valid : ValidType netType) :
    ∃ supplier,
      supplier ∈ (state.step (.registerNetSupplier netType ident netCapabilities)).netSupplier ∧
      (state.step (.registerNetSupplier netType ident netCapabilities)).registry.key supplier =
        (NetworkType.ofCode netType, ident) ∧
      (state.perform (.registerNetSupplier netType ident netCapabilities)).1 =
        asInt32 ((state.step (.registerNetSupplier netType ident
          netCapabilities)).registry.supplier supplier).supplierId ∧
      (supplier ∈ state.netSupplier ∨
        ¬state.registry.identities.suppliers.Allocated supplier) := by
  cases known : state.getNetSupplierFromList netType ident with
  | some supplier =>
    have listed := List.mem_of_find?_eq_some known
    have hit := List.find?_some known
    rw [Bool.and_eq_true, beq_iff_eq, beq_iff_eq] at hit
    unfold step
    rw [perform_register_known valid known]
    refine ⟨supplier, listed, ?_, rfl, Or.inl listed⟩
    refine Prod.ext ?_ hit.2.symm
    exact (NetworkType.ofCode_code valid hit.1).symm
  | none =>
    have created := registry_register_new valid known netCapabilities
    have identity := supplier_register_new valid known netCapabilities
    refine ⟨state.world.supplierHeap.fresh, ?_, ?_, ?_, Or.inr (Nat.lt_irrefl _)⟩
    · have lists := congrArg Membership.netSupplier (Registry.membership_createServices
        (state.registry.enroll (NetworkType.ofCode netType) ident) ident
        (NetworkType.ofCode netType) netCapabilities state.registry.identities.networks.fresh)
      show _ ∈ (state.step _).registry.netSupplier
      rw [created, show (state.registry.create _ ident netCapabilities).netSupplier = _ from lists]
      exact List.mem_append_right _ (List.mem_singleton.mpr rfl)
    · unfold Registry.key
      rw [identity]
      rfl
    · rw [identity, perform_register_new valid known]
      rfl

/-- An unregistration returns `ERR_NONE` exactly when it finds the supplier. -/
theorem unregisterNetSupplier_spec (state : NetConnService)
    (wellFormed : state.registry.WellFormed) (supplierId : UInt32) :
    (state.perform (.unregisterNetSupplier supplierId)).1 = ResultCode.none.code ↔
      ∃ supplier, state.registry.supplierOfId supplierId = some supplier := by
  have lookup : state.registry.supplierOfId supplierId =
      state.getNetSupplierFromListById supplierId := rfl
  cases wellFormed.change (.unregisterNetSupplier supplierId) with
  | removed _ network supplierFound networkFound same =>
    refine iff_of_true ?_ ⟨_, supplierFound⟩
    have owned : state.getNetworkFromListBySupplierId supplierId = some network := networkFound
    rw [lookup] at supplierFound
    simp only [perform, unregisterNetSupplier, supplierFound, owned]
  | kept _ known unknown same =>
    have missing := unknown supplierId rfl
    rw [missing]
    refine iff_of_false (fun succeeds => ?_) (fun found => ?_)
    · rw [lookup] at missing
      simp only [perform, unregisterNetSupplier, missing] at succeeds
      exact absurd succeeds (by decide)
    · obtain ⟨supplier, found⟩ := found
      exact Option.some_ne_none supplier found.symm

/-- The supplier id a request names, if it names one. -/
def Action.supplierId? : Action → Option UInt32
  | .unregisterNetSupplier supplierId => some supplierId
  | .updateNetSupplierInfo supplierId _ => some supplierId
  | .updateNetCapabilities supplierId _ => some supplierId
  | .updateNetLinkInfo supplierId _ => some supplierId
  | _ => none

/-- The info object of the request, if it takes one, is not null. -/
def Action.hasInfo : Action → Bool
  | .updateNetSupplierInfo _ netSupplierInfo => netSupplierInfo.isSome
  | .updateNetLinkInfo _ netLinkInfo => netLinkInfo.isSome
  | _ => true

/-- Every request that names an unknown id returns `ERR_NO_SUPPLIER`. -/
theorem perform_noSupplier (state : NetConnService) (action : Action) {supplierId : UInt32}
    (names : action.supplierId? = some supplierId) (info : action.hasInfo = true)
    (missing : state.getNetSupplierFromListById supplierId = none) :
    (state.perform action).1 = ResultCode.noSupplier.code := by
  have noPair : state.getSupplierAndNetwork supplierId = .error .noSupplier := by
    unfold getSupplierAndNetwork
    rw [missing]
  cases action with
  | unregisterNetSupplier id =>
    obtain rfl : id = supplierId := Option.some.inj names
    simp only [perform, unregisterNetSupplier, missing]
  | updateNetSupplierInfo id netSupplierInfo =>
    obtain rfl : id = supplierId := Option.some.inj names
    obtain ⟨netSupplierInfo, rfl⟩ := Option.isSome_iff_exists.mp info
    simp only [perform, updateNetSupplierInfo, noPair]
  | updateNetCapabilities id netCapabilities =>
    obtain rfl : id = supplierId := Option.some.inj names
    simp only [perform, updateNetCapabilities, noPair]
  | updateNetLinkInfo id netLinkInfo =>
    obtain rfl : id = supplierId := Option.some.inj names
    obtain ⟨netLinkInfo, rfl⟩ := Option.isSome_iff_exists.mp info
    simp only [perform, updateNetLinkInfo, noPair]
  | registerNetSupplier _ _ _ => exact absurd names (by simp [Action.supplierId?])
  | registerNetConnCallback _ => exact absurd names (by simp [Action.supplierId?])
  | registerNetConnCallbackBySpecifier _ _ => exact absurd names (by simp [Action.supplierId?])
  | unregisterNetConnCallback _ => exact absurd names (by simp [Action.supplierId?])
  | unregisterNetConnCallbackBySpecifier _ _ => exact absurd names (by simp [Action.supplierId?])
  | reConnectServiceTask => exact absurd names (by simp [Action.supplierId?])

/-! ### Runs -/

theorem run_wellFormed_from {state : NetConnService} (wellFormed : state.registry.WellFormed)
    (actions : List Action) : (run step state actions).registry.WellFormed :=
  run_invariant step (fun state => state.registry.WellFormed) step_wellFormed wellFormed actions

theorem precedes_run {state : NetConnService} (wellFormed : state.registry.WellFormed)
    (actions : List Action) : state.registry.Precedes (run step state actions).registry := by
  induction actions generalizing state with
  | nil => exact Registry.Precedes.refl _
  | cons action rest inductionHypothesis =>
    have first := wellFormed.precedes_step action
    rw [← registry_step] at first
    exact first.trans (inductionHypothesis (step_wellFormed state action wellFormed))

/-- A supplier that is not listed any more was unregistered on the way. -/
theorem exists_unregister {state : NetConnService} (wellFormed : state.registry.WellFormed)
    {supplier : Ref NetSupplier} (actions : List Action)
    (listed : supplier ∈ state.netSupplier)
    (gone : supplier ∉ (run step state actions).netSupplier) :
    ∃ earlier supplierId later, actions = earlier ++ .unregisterNetSupplier supplierId :: later ∧
      (run step state earlier).registry.supplierOfId supplierId = some supplier := by
  induction actions generalizing state with
  | nil => exact absurd listed gone
  | cons action rest inductionHypothesis =>
    rcases wellFormed.netSupplier_step action listed with stays | ⟨supplierId, rfl, found⟩
    · rw [← registry_step] at stays
      obtain ⟨earlier, supplierId, later, rfl, found⟩ :=
        inductionHypothesis (step_wellFormed state action wellFormed) stays gone
      exact ⟨action :: earlier, supplierId, later, rfl, found⟩
    · exact ⟨[], supplierId, rest, rfl, found⟩

/-- While the counter lasts, two ids read at different moments are equal exactly when they are
ids of the same supplier. -/
theorem asInt32_supplierId_iff {first second : Registry} (precedes : first.Precedes second)
    (wellFormed : second.WellFormed)
    (few : second.identities.suppliers.size ≤ 2 ^ 32 - 0x03EB) {earlier later : Ref NetSupplier}
    (earlierAllocated : first.identities.suppliers.Allocated earlier)
    (laterAllocated : second.identities.suppliers.Allocated later) :
    asInt32 (first.supplier earlier).supplierId = asInt32 (second.supplier later).supplierId ↔
      earlier = later := by
  rw [← precedes.supplier earlier earlierAllocated]
  constructor
  · intro same
    exact wellFormed.supplierId_injective few (precedes.allocated earlierAllocated)
      laterAllocated (asInt32_injective same)
  · intro same
    rw [same]

/-- A listed supplier is still listed after a run exactly when no unregistration of its id
succeeded on the way. -/
theorem listed_run_iff {state : NetConnService} (wellFormed : state.registry.WellFormed)
    {supplier : Ref NetSupplier} (listed : supplier ∈ state.netSupplier) (actions : List Action)
    (few : (run step state actions).createdSuppliers ≤ 2 ^ 32 - 0x03EB) :
    supplier ∈ (run step state actions).netSupplier ↔
      ¬∃ earlier supplierId later,
        actions = earlier ++ .unregisterNetSupplier supplierId :: later ∧
          asInt32 supplierId = asInt32 (state.registry.supplier supplier).supplierId ∧
            ((run step state earlier).perform (.unregisterNetSupplier supplierId)).1 =
              ResultCode.none.code := by
  have allocated := wellFormed.supplier_allocated listed
  constructor
  · rintro stays ⟨earlier, supplierId, later, rfl, sameId, succeeds⟩
    have middle := run_wellFormed_from wellFormed earlier
    have before := precedes_run wellFormed earlier
    obtain ⟨found, lookup⟩ := (unregisterNetSupplier_spec _ middle supplierId).mp succeeds
    obtain ⟨foundListed, foundId⟩ := Registry.WellFormed.supplierOfId_spec lookup
    have after := precedes_run (step_wellFormed _ (.unregisterNetSupplier supplierId) middle) later
    rw [run_append, run_cons] at few stays
    have afterStep := middle.precedes_step (.unregisterNetSupplier supplierId)
    rw [← registry_step] at afterStep
    have fewMiddle := le_trans (afterStep.trans after).size few
    have same : supplier = found := by
      refine (asInt32_supplierId_iff before middle fewMiddle allocated
        (middle.supplier_allocated foundListed)).mp ?_
      rw [← sameId, ← foundId]
    have gone := middle.unregistered lookup
    rw [← registry_step, ← same] at gone
    exact gone (after.listed supplier stays (afterStep.allocated (before.allocated allocated)))
  · intro untouched
    by_contra gone
    obtain ⟨earlier, supplierId, later, split, found⟩ :=
      exists_unregister wellFormed actions listed gone
    have middle := run_wellFormed_from wellFormed earlier
    refine untouched ⟨earlier, supplierId, later, split, ?_,
      (unregisterNetSupplier_spec _ middle supplierId).mpr ⟨supplier, found⟩⟩
    rw [(Registry.WellFormed.supplierOfId_spec found).2,
      (precedes_run wellFormed earlier).supplier supplier allocated]

/-! ### Faithful handles -/

/-- What an action returns when it is taken after `before`. -/
def returned (initial : NetConnService) (before : List Action) (action : Action) : Int :=
  ((run step initial before).perform action).1

/-- The ids a run returns are handles of its suppliers. -/
structure FaithfulHandles (initial : NetConnService) (actions : List Action) : Prop where
  /-- Registering a key again returns its id exactly when the id was not unregistered since. -/
  sameKey : ∀ before between after netType ident firstMask secondMask,
    actions = before ++ .registerNetSupplier netType ident firstMask ::
        (between ++ .registerNetSupplier netType ident secondMask :: after) →
      ValidType netType →
        (returned initial before (.registerNetSupplier netType ident firstMask) =
            returned initial (before ++ .registerNetSupplier netType ident firstMask :: between)
              (.registerNetSupplier netType ident secondMask) ↔
          ¬∃ earlier supplierId later,
            between = earlier ++ .unregisterNetSupplier supplierId :: later ∧
              asInt32 supplierId =
                returned initial before (.registerNetSupplier netType ident firstMask) ∧
              returned initial
                  (before ++ .registerNetSupplier netType ident firstMask :: earlier)
                  (.unregisterNetSupplier supplierId) = ResultCode.none.code)
  /-- Different keys never get the same id. -/
  otherKey : ∀ before between after firstType firstIdent firstMask secondType secondIdent
      secondMask,
    actions = before ++ .registerNetSupplier firstType firstIdent firstMask ::
        (between ++ .registerNetSupplier secondType secondIdent secondMask :: after) →
      ValidType firstType → ValidType secondType →
        (firstType, firstIdent) ≠ (secondType, secondIdent) →
          returned initial before (.registerNetSupplier firstType firstIdent firstMask) ≠
            returned initial
              (before ++ .registerNetSupplier firstType firstIdent firstMask :: between)
              (.registerNetSupplier secondType secondIdent secondMask)
  /-- An id is greater than 1000, and error codes are not positive. -/
  positive : ∀ before after netType ident mask,
    actions = before ++ .registerNetSupplier netType ident mask :: after → ValidType netType →
      1000 < returned initial before (.registerNetSupplier netType ident mask)
  /-- An unregistered id is unknown for the rest of the run. -/
  retired : ∀ before between after supplierId action,
    actions = before ++ .unregisterNetSupplier supplierId :: (between ++ action :: after) →
      returned initial before (.unregisterNetSupplier supplierId) = ResultCode.none.code →
        action.supplierId? = some supplierId → action.hasInfo = true →
          returned initial (before ++ .unregisterNetSupplier supplierId :: between) action =
            ResultCode.noSupplier.code

/-- Registering the same key twice. -/
theorem sameKey_iff {state : NetConnService} (wellFormed : state.registry.WellFormed)
    (between : List Action) (netType : UInt32) (ident : String) (firstMask secondMask : UInt64)
    (valid : ValidType netType)
    (few : (run step (state.step (.registerNetSupplier netType ident firstMask))
      (between ++ [.registerNetSupplier netType ident secondMask])).createdSuppliers ≤
        2 ^ 32 - 0x03EB) :
    (state.perform (.registerNetSupplier netType ident firstMask)).1 =
        ((run step (state.step (.registerNetSupplier netType ident firstMask)) between).perform
          (.registerNetSupplier netType ident secondMask)).1 ↔
      ¬∃ earlier supplierId later,
        between = earlier ++ .unregisterNetSupplier supplierId :: later ∧
          asInt32 supplierId =
            (state.perform (.registerNetSupplier netType ident firstMask)).1 ∧
          ((run step (state.step (.registerNetSupplier netType ident firstMask))
            earlier).perform (.unregisterNetSupplier supplierId)).1 = ResultCode.none.code := by
  obtain ⟨first, firstListed, firstKey, firstReturned, _⟩ :=
    registerNetSupplier_spec state netType ident firstMask valid
  have started := step_wellFormed state (.registerNetSupplier netType ident firstMask) wellFormed
  have resumed := run_wellFormed_from started between
  obtain ⟨second, secondListed, secondKey, secondReturned, origin⟩ :=
    registerNetSupplier_spec (run step (state.step (.registerNetSupplier netType ident
      firstMask)) between) netType ident secondMask valid
  have finished := step_wellFormed _ (.registerNetSupplier netType ident secondMask) resumed
  have toResumed := precedes_run started between
  have toFinished := resumed.precedes_step (.registerNetSupplier netType ident secondMask)
  rw [← registry_step] at toFinished
  rw [run_concat] at few
  have firstAllocated := started.supplier_allocated firstListed
  rw [firstReturned, secondReturned, asInt32_supplierId_iff (toResumed.trans toFinished) finished
    few firstAllocated (finished.supplier_allocated secondListed),
    ← listed_run_iff started firstListed between (le_trans toFinished.size few)]
  constructor
  · rintro rfl
    exact origin.resolve_right fun new => new (toResumed.allocated firstAllocated)
  · intro stays
    have stillListed : first ∈ ((run step (state.step (.registerNetSupplier netType ident
        firstMask)) between).step (.registerNetSupplier netType ident secondMask)).netSupplier := by
      rcases resumed.netSupplier_step (.registerNetSupplier netType ident secondMask) stays with
        kept | ⟨supplierId, equal, _⟩
      · rw [← registry_step] at kept
        exact kept
      · cases equal
    refine List.inj_on_of_nodup_map finished.keys stillListed secondListed ?_
    rw [secondKey, ← firstKey]
    have identity := (toResumed.trans toFinished).supplier first firstAllocated
    unfold Registry.key
    rw [identity]

/-- Registering two keys. -/
theorem otherKey_ne {state : NetConnService} (wellFormed : state.registry.WellFormed)
    (between : List Action) {firstType secondType : UInt32} {firstIdent secondIdent : String}
    (firstMask secondMask : UInt64) (firstValid : ValidType firstType)
    (secondValid : ValidType secondType)
    (different : (firstType, firstIdent) ≠ (secondType, secondIdent))
    (few : (run step (state.step (.registerNetSupplier firstType firstIdent firstMask))
      (between ++ [.registerNetSupplier secondType secondIdent secondMask])).createdSuppliers ≤
        2 ^ 32 - 0x03EB) :
    (state.perform (.registerNetSupplier firstType firstIdent firstMask)).1 ≠
      ((run step (state.step (.registerNetSupplier firstType firstIdent firstMask))
        between).perform (.registerNetSupplier secondType secondIdent secondMask)).1 := by
  obtain ⟨first, firstListed, firstKey, firstReturned, _⟩ :=
    registerNetSupplier_spec state firstType firstIdent firstMask firstValid
  have started := step_wellFormed state (.registerNetSupplier firstType firstIdent firstMask)
    wellFormed
  have resumed := run_wellFormed_from started between
  obtain ⟨second, secondListed, secondKey, secondReturned, _⟩ :=
    registerNetSupplier_spec (run step (state.step (.registerNetSupplier firstType firstIdent
      firstMask)) between) secondType secondIdent secondMask secondValid
  have finished := step_wellFormed _ (.registerNetSupplier secondType secondIdent secondMask)
    resumed
  have toFinished := resumed.precedes_step
    (.registerNetSupplier secondType secondIdent secondMask)
  rw [← registry_step] at toFinished
  have precedes := (precedes_run started between).trans toFinished
  rw [run_concat] at few
  have firstAllocated := started.supplier_allocated firstListed
  rw [firstReturned, secondReturned, Ne, asInt32_supplierId_iff precedes finished few
    firstAllocated (finished.supplier_allocated secondListed)]
  rintro rfl
  have identity := precedes.supplier first firstAllocated
  unfold Registry.key at firstKey secondKey
  rw [identity, firstKey] at secondKey
  obtain ⟨sameType, sameIdent⟩ := Prod.mk.inj secondKey
  have sameCode := congrArg NetworkType.code sameType
  rw [NetworkType.code_ofCode firstValid, NetworkType.code_ofCode secondValid] at sameCode
  exact different (Prod.ext sameCode sameIdent)

/-- The number a registration returns. -/
theorem registerNetSupplier_positive {state : NetConnService}
    (wellFormed : state.registry.WellFormed) (netType : UInt32) (ident : String) (mask : UInt64)
    (valid : ValidType netType)
    (few : (state.step (.registerNetSupplier netType ident mask)).createdSuppliers ≤
      2 ^ 31 - 0x03EB) :
    1000 < (state.perform (.registerNetSupplier netType ident mask)).1 := by
  obtain ⟨supplier, listed, _, result, _⟩ :=
    registerNetSupplier_spec state netType ident mask valid
  have after := step_wellFormed state (.registerNetSupplier netType ident mask) wellFormed
  have allocated := after.supplier_allocated listed
  have identity : (Registry.supplier _ supplier).supplierId = _ :=
    after.identities.supplierId supplier allocated
  rw [result, identity, asInt32_supplierIdAt (Nat.lt_of_lt_of_le allocated few)]
  omega

/-- A request on an unregistered id. -/
theorem retired_noSupplier {state : NetConnService} (wellFormed : state.registry.WellFormed)
    (between : List Action) {supplierId : UInt32} {action : Action}
    (succeeds : (state.perform (.unregisterNetSupplier supplierId)).1 = ResultCode.none.code)
    (names : action.supplierId? = some supplierId) (info : action.hasInfo = true)
    (few : (run step (state.step (.unregisterNetSupplier supplierId)) between).createdSuppliers ≤
      2 ^ 32 - 0x03EB) :
    ((run step (state.step (.unregisterNetSupplier supplierId)) between).perform action).1 =
      ResultCode.noSupplier.code := by
  refine perform_noSupplier _ action names info ?_
  obtain ⟨supplier, found⟩ := (unregisterNetSupplier_spec state wellFormed supplierId).mp succeeds
  obtain ⟨listed, sameId⟩ := Registry.WellFormed.supplierOfId_spec found
  have allocated := wellFormed.supplier_allocated listed
  have started := step_wellFormed state (.unregisterNetSupplier supplierId) wellFormed
  have first := wellFormed.precedes_step (.unregisterNetSupplier supplierId)
  have gone := wellFormed.unregistered found
  rw [← registry_step] at first gone
  have rest := precedes_run started between
  have resumed := run_wellFormed_from started between
  show (run step (state.step (.unregisterNetSupplier supplierId))
    between).registry.supplierOfId supplierId = none
  cases lookup : (run step (state.step (.unregisterNetSupplier supplierId))
      between).registry.supplierOfId supplierId with
  | none => rfl
  | some other =>
    obtain ⟨otherListed, otherId⟩ := Registry.WellFormed.supplierOfId_spec lookup
    have same : supplier = other := by
      refine (asInt32_supplierId_iff (first.trans rest) resumed few allocated
        (resumed.supplier_allocated otherListed)).mp ?_
      rw [← sameId, ← otherId]
    rw [← same] at otherListed
    exact absurd (rest.listed supplier otherListed (first.allocated allocated)) gone

/-- Over every run that creates fewer than 2^31 - 1003 suppliers, supplier ids are faithful
handles. -/
theorem faithfulHandles_run (answers : Nat → Int) (actions : List Action)
    (few : (run step (start answers) actions).createdSuppliers < 2 ^ 31 - 1003) :
    FaithfulHandles (start answers) actions := by
  have created (before after : List Action) (split : actions = before ++ after) :
      (run step (start answers) before).createdSuppliers ≤ 2 ^ 31 - 1003 := by
    rw [split, run_append] at few
    exact le_trans (precedes_run (run_wellFormed answers before) after).size (le_of_lt few)
  have wide : 2 ^ 31 - 1003 ≤ 2 ^ 32 - 0x03EB := by decide
  refine ⟨?_, ?_, ?_, ?_⟩
  · intro before between after netType ident firstMask secondMask split valid
    have limit := created (before ++ .registerNetSupplier netType ident firstMask ::
      (between ++ [.registerNetSupplier netType ident secondMask])) after (by simp [split])
    unfold returned
    simp only [run_append, run_cons] at limit ⊢
    exact sameKey_iff (run_wellFormed answers before) between netType ident firstMask secondMask
      valid (by rw [run_append]; exact le_trans limit wide)
  · intro before between after firstType firstIdent firstMask secondType secondIdent secondMask
      split firstValid secondValid different
    have limit := created (before ++ .registerNetSupplier firstType firstIdent firstMask ::
      (between ++ [.registerNetSupplier secondType secondIdent secondMask])) after
        (by simp [split])
    unfold returned
    simp only [run_append, run_cons] at limit ⊢
    exact otherKey_ne (run_wellFormed answers before) between firstMask secondMask firstValid
      secondValid different (by rw [run_append]; exact le_trans limit wide)
  · intro before after netType ident mask split valid
    have limit := created (before ++ [.registerNetSupplier netType ident mask]) after
      (by simp [split])
    rw [run_concat] at limit
    exact registerNetSupplier_positive (run_wellFormed answers before) netType ident mask valid
      limit
  · intro before between after supplierId action split succeeds names info
    have limit := created (before ++ .unregisterNetSupplier supplierId :: between)
      (action :: after) (by simp [split])
    unfold returned
    simp only [run_append, run_cons] at limit ⊢
    exact retired_noSupplier (run_wellFormed answers before) between succeeds names info
      (le_trans limit wide)

/-- A supplier that is registered, found again, unregistered and registered anew. -/
theorem faithfulHandles_example :
    FaithfulHandles (start fun _ => 1) [.registerNetSupplier 1 "slot0" 1,
      .registerNetSupplier 1 "slot0" 1, .unregisterNetSupplier 1003,
      .registerNetSupplier 1 "slot0" 1, .updateNetCapabilities 1003 1] :=
  faithfulHandles_run _ _ (by decide)

end NetConnService

end NetManager
