/-
This file proves that refused requests change nothing. Every request checks its arguments and does
its lookups before it changes anything, with one exception: an unregistration that finds the
supplier but not its network deletes the supplier and returns `ERR_NO_NETWORK`. In a well-formed
registry every listed supplier has a listed network, so this branch is never taken.
-/

import NetManager.Conn.SupplierId

namespace NetManager

open Library

namespace NetConnService

/-- The action is a request of a client, not the firing of a timer. -/
def Action.isRequest : Action → Bool
  | .reConnectServiceTask => false
  | _ => true

/-! ### Lookups -/

/-- The lookup the updates share fails only for an unknown supplier. -/
theorem getSupplierAndNetwork_error {state : NetConnService}
    (wellFormed : state.registry.WellFormed) {supplierId : UInt32} {code : ResultCode}
    (failed : state.getSupplierAndNetwork supplierId = .error code) : code = .noSupplier := by
  rcases getSupplierAndNetwork_cases wellFormed supplierId with ⟨unknown, _⟩ | ⟨_, _, found, _⟩
  · rw [unknown] at failed
    exact (Except.error.inj failed).symm
  · rw [found] at failed
    cases failed

/-- A step creates at most one supplier. -/
theorem createdSuppliers_step {state : NetConnService} (wellFormed : state.registry.WellFormed)
    (action : Action) :
    (state.step action).createdSuppliers ≤ state.createdSuppliers + 1 := by
  have size (membership : Membership)
      (same : (state.registry.step action).membership = membership) :
      (state.step action).createdSuppliers = membership.suppliers.size := by
    rw [← registry_step] at same
    exact congrArg (fun membership : Membership => membership.suppliers.size) same
  cases wellFormed.change action with
  | enrolled netType ident netCapabilities creates same => exact le_of_eq (size _ same)
  | removed supplierId network supplierFound networkFound same =>
    exact le_trans (le_of_eq (size _ (congrArg Registry.membership same))) (Nat.le_succ _)
  | kept _ known unknown same => exact le_trans (le_of_eq (size _ same)) (Nat.le_succ _)

/-! ### Requests -/

/-- A registration is refused only for its type. -/
theorem registerNetSupplier_refused {state : NetConnService}
    (wellFormed : state.registry.WellFormed) (few : state.createdSuppliers < 2 ^ 31 - 0x03EB)
    {netType : UInt32} {ident : String} {netCapabilities : UInt64}
    (refused : (state.perform (.registerNetSupplier netType ident netCapabilities)).1 < 0) :
    state.perform (.registerNetSupplier netType ident netCapabilities) =
      (ResultCode.invalidNetorkType.code, state) := by
  by_cases valid : ValidType netType
  · have positive := registerNetSupplier_positive wellFormed netType ident netCapabilities valid
      (le_trans (createdSuppliers_step wellFormed _) few)
    omega
  · exact if_pos (not_not.mp valid)

/-- The request succeeds or changes nothing, and it does not return `ERR_NO_NETWORK`. -/
structure Atomic (state : NetConnService) (result : ResultCode × NetConnService) : Prop where
  unchanged : result.1 ≠ .none → result.2 = state
  network : result.1 ≠ .noNetwork

theorem Atomic.refused (state : NetConnService) {code : ResultCode} (other : code ≠ .noNetwork) :
    state.Atomic (code, state) :=
  ⟨fun _ => rfl, other⟩

theorem Atomic.succeeded (state after : NetConnService) : state.Atomic (.none, after) :=
  ⟨fun failed => absurd rfl failed, fun same => by cases same⟩

theorem atomic_unregisterNetSupplier {state : NetConnService}
    (wellFormed : state.registry.WellFormed) (supplierId : UInt32) :
    state.Atomic (state.unregisterNetSupplier supplierId) := by
  unfold unregisterNetSupplier
  cases known : state.getNetSupplierFromListById supplierId with
  | none => exact .refused state (by decide)
  | some supplier =>
    have registered : state.registry.supplierOfId supplierId = some supplier := known
    rw [wellFormed.supplierOfId_eq supplierId] at registered
    obtain ⟨network, owned, _⟩ := Option.map_eq_some_iff.mp registered
    dsimp only
    rw [show state.getNetworkFromListBySupplierId supplierId = some network from owned]
    exact .succeeded state _

theorem atomic_updateNetSupplierInfo {state : NetConnService}
    (wellFormed : state.registry.WellFormed) (supplierId : UInt32)
    (netSupplierInfo : Option NetSupplierInfo) :
    state.Atomic (state.updateNetSupplierInfo supplierId netSupplierInfo) := by
  unfold updateNetSupplierInfo
  split
  · exact .refused state (by decide)
  · split
    · rename_i failed
      rw [getSupplierAndNetwork_error wellFormed failed]
      exact .refused state (by decide)
    · exact .succeeded state _

theorem atomic_updateNetLinkInfo {state : NetConnService}
    (wellFormed : state.registry.WellFormed) (supplierId : UInt32)
    (netLinkInfo : Option NetLinkInfo) :
    state.Atomic (state.updateNetLinkInfo supplierId netLinkInfo) := by
  unfold updateNetLinkInfo
  split
  · exact .refused state (by decide)
  · split
    · rename_i failed
      rw [getSupplierAndNetwork_error wellFormed failed]
      exact .refused state (by decide)
    · exact .succeeded state _

theorem atomic_updateNetCapabilities {state : NetConnService}
    (wellFormed : state.registry.WellFormed) (supplierId : UInt32) (netCapabilities : UInt64) :
    state.Atomic (state.updateNetCapabilities supplierId netCapabilities) := by
  unfold updateNetCapabilities
  split
  · rename_i failed
    rw [getSupplierAndNetwork_error wellFormed failed]
    exact .refused state (by decide)
  · exact .succeeded state _

theorem atomic_registerNetConnCallback (state : NetConnService)
    (callback : Option INetConnCallback) :
    state.Atomic (state.registerNetConnCallback callback) := by
  unfold registerNetConnCallback
  split
  · exact .refused state (by decide)
  · split
    · exact .refused state (by decide)
    · exact .succeeded state _

theorem atomic_registerNetConnCallbackBySpecifier (state : NetConnService)
    (netSpecifier : Option NetSpecifier) (callback : Option INetConnCallback) :
    state.Atomic (state.registerNetConnCallbackBySpecifier netSpecifier callback) := by
  unfold registerNetConnCallbackBySpecifier
  split
  · split
    · exact .refused state (by decide)
    · split
      · exact .refused state (by decide)
      · exact .succeeded state _
  · exact .refused state (by decide)

theorem atomic_unregisterNetConnCallback (state : NetConnService)
    (callback : Option INetConnCallback) :
    state.Atomic (state.unregisterNetConnCallback callback) := by
  unfold unregisterNetConnCallback
  split
  · exact .refused state (by decide)
  · split
    · exact .refused state (by decide)
    · exact .succeeded state _

theorem atomic_unregisterNetConnCallbackBySpecifier (state : NetConnService)
    (netSpecifier : Option NetSpecifier) (callback : Option INetConnCallback) :
    state.Atomic (state.unregisterNetConnCallbackBySpecifier netSpecifier callback) := by
  unfold unregisterNetConnCallbackBySpecifier
  split
  · split
    · exact .refused state (by decide)
    · split
      · exact .refused state (by decide)
      · dsimp only
        unfold NetService.unregisterNetConnCallback
        dsimp only
        split
        · exact .succeeded state _
        · exact ⟨fun _ => rfl, fun same => by cases same⟩
  · exact .refused state (by decide)

theorem code_eq_noNetwork {result : ResultCode}
    (same : result.code = ResultCode.noNetwork.code) : result = .noNetwork := by
  revert same
  cases result <;> decide

/-- What an atomic request returns as a number. -/
theorem Atomic.code {state : NetConnService} {result : ResultCode × NetConnService}
    (atomic : state.Atomic result) :
    (result.1.code < 0 → result.2 = state) ∧ result.1.code ≠ ResultCode.noNetwork.code := by
  refine ⟨fun refused => atomic.unchanged fun succeeded => ?_,
    fun same => atomic.network (code_eq_noNetwork same)⟩
  rw [succeeded] at refused
  exact absurd refused (by decide)

/-- Every request but the registration of a supplier is atomic. -/
theorem atomic_perform {state : NetConnService} (wellFormed : state.registry.WellFormed)
    {action : Action} (request : action.isRequest = true)
    (notRegister : ∀ netType ident netCapabilities,
      action ≠ .registerNetSupplier netType ident netCapabilities) :
    ((state.perform action).1 < 0 → (state.perform action).2 = state) ∧
      (state.perform action).1 ≠ ResultCode.noNetwork.code := by
  cases action with
  | registerNetSupplier netType ident netCapabilities => exact absurd rfl (notRegister _ _ _)
  | unregisterNetSupplier supplierId =>
    exact (atomic_unregisterNetSupplier wellFormed supplierId).code
  | updateNetSupplierInfo supplierId info =>
    exact (atomic_updateNetSupplierInfo wellFormed supplierId info).code
  | updateNetCapabilities supplierId netCapabilities =>
    exact (atomic_updateNetCapabilities wellFormed supplierId netCapabilities).code
  | updateNetLinkInfo supplierId info =>
    exact (atomic_updateNetLinkInfo wellFormed supplierId info).code
  | registerNetConnCallback callback => exact (atomic_registerNetConnCallback state callback).code
  | registerNetConnCallbackBySpecifier netSpecifier callback =>
    exact (atomic_registerNetConnCallbackBySpecifier state netSpecifier callback).code
  | unregisterNetConnCallback callback =>
    exact (atomic_unregisterNetConnCallback state callback).code
  | unregisterNetConnCallbackBySpecifier netSpecifier callback =>
    exact (atomic_unregisterNetConnCallbackBySpecifier state netSpecifier callback).code
  | reConnectServiceTask => cases request

/-! ### Every run -/

/-- In every state of a run that has created fewer than 2^31 - 1003 suppliers, a request that
returns a negative code has changed nothing, and no request returns `ERR_NO_NETWORK`. The second
also holds of longer runs, in which only a supplier id can be the same number. -/
theorem refused_requests_unchanged (answers : Nat → Int) (actions : List Action) (action : Action)
    (request : action.isRequest = true) :
    let reached := run step (start answers) actions
    (reached.createdSuppliers < 2 ^ 31 - 1003 →
      ((reached.perform action).1 < 0 → (reached.perform action).2 = reached) ∧
        (reached.perform action).1 ≠ ResultCode.noNetwork.code) ∧
    ((∀ netType ident netCapabilities,
        action ≠ .registerNetSupplier netType ident netCapabilities) →
      (reached.perform action).1 ≠ ResultCode.noNetwork.code) := by
  intro reached
  have wellFormed : reached.registry.WellFormed := run_wellFormed answers actions
  refine ⟨fun few => ?_, fun notRegister => (atomic_perform wellFormed request notRegister).2⟩
  by_cases registers : ∃ netType ident netCapabilities,
      action = .registerNetSupplier netType ident netCapabilities
  · obtain ⟨netType, ident, netCapabilities, rfl⟩ := registers
    constructor
    · intro refused
      rw [registerNetSupplier_refused wellFormed few refused]
    · intro same
      have refused := registerNetSupplier_refused wellFormed few (lt_of_eq_of_lt same (by decide))
      have other : ResultCode.invalidNetorkType.code ≠ ResultCode.noNetwork.code := by decide
      exact other ((congrArg Prod.fst refused).symm.trans same)
  · exact atomic_perform wellFormed request fun netType ident netCapabilities same =>
      registers ⟨netType, ident, netCapabilities, same⟩

/-- An unregistration of an unknown supplier, and a registration with an unknown type. -/
theorem refused_requests_example :
    let reached := run step (start fun _ => 1) [.registerNetSupplier 1 "slot0" 3]
    (reached.perform (.unregisterNetSupplier 7)).2 = reached ∧
      (reached.perform (.registerNetSupplier 9 "eth0" 1)).2 = reached := by
  intro reached
  exact ⟨((refused_requests_unchanged _ _ _ rfl).1 (by decide)).1 (by decide),
    ((refused_requests_unchanged _ _ _ rfl).1 (by decide)).1 (by decide)⟩

end NetConnService

end NetManager
