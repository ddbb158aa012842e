/-
This file settles what the net-id allocator guarantees. Ids are reserved by the
constructor of a network and given back by nobody, because `Network::~Network` does
not call `ReleaseNetId`. The pool is therefore the closed form of a pool that only
reserves: after 64512 networks were ever created no id is left, and every later
network gets the top id.

Two things follow. A new network shares its id with a listed one exactly when the
range is exhausted and a listed network holds the id handed out last. And the ids in
use are those of the listed networks exactly until the first supplier is
unregistered.
-/

import NetManager.Conn.Membership

namespace NetManager

open Library

/-! ### The properties -/

namespace NetConnService

/-- The net ids of the listed networks, in order. -/
def netIds (state : NetConnService) : List Int :=
  state.networks.map fun network => (state.world.network network).netId

/-- No two listed networks share a net id. -/
def NetIdsDistinct (state : NetConnService) : Prop := state.netIds.Nodup

/-- If the action creates a supplier, then either some id of the range is free or no listed
network holds the id the allocator handed out last. -/
def ReservesFresh (state : NetConnService) (action : Action) : Prop :=
  ∀ netType ident netCapabilities,
    action = .registerNetSupplier netType ident netCapabilities →
      ¬(netType ≥ NetworkType.max.code ∨ netType ≤ NetworkType.unknown.code) ∧
          state.getNetSupplierFromList netType ident = none →
        (∃ netId, minNetId ≤ netId ∧ netId ≤ maxNetId ∧
            netId ∉ state.world.netIdManager.netIdInUse) ∨
          state.world.netIdManager.lastNetId ∉ state.netIds

/-- The ids in use are the ids of the listed networks. -/
def PoolMatches (state : NetConnService) : Prop :=
  state.world.netIdManager.netIdInUse = state.netIds.toFinset

/-- If the action is an unregistration that succeeds, it frees the id of the removed network
and no other. -/
def FreesNetId (state : NetConnService) (action : Action) : Prop :=
  ∀ supplierId network, action = .unregisterNetSupplier supplierId →
    (state.perform action).1 = ResultCode.none.code →
      state.getNetworkFromListBySupplierId supplierId = some network →
        (state.step action).world.netIdManager.netIdInUse =
          state.world.netIdManager.netIdInUse.erase (state.world.network network).netId

/-- The action does not unregister a registered supplier. -/
def KeepsSuppliers (state : NetConnService) (action : Action) : Prop :=
  ∀ supplierId, action = .unregisterNetSupplier supplierId →
    state.getNetSupplierFromListById supplierId = none

end NetConnService

/-! ### Net ids of the registry -/

namespace Registry

/-- The net ids of the listed networks, in order. -/
def netIds (registry : Registry) : List Int :=
  registry.networks.map fun network => (registry.network network).netId

theorem netIds_of_membership {first second : Registry}
    (same : first.membership = second.membership) : first.netIds = second.netIds :=
  congrArg (fun membership : Membership => membership.networks.map fun network =>
    (membership.networkHeap.cell network).netId) same

theorem pool_of_membership {first second : Registry}
    (same : first.membership = second.membership) :
    first.identities.netIdManager = second.identities.netIdManager :=
  congrArg Membership.netIdManager same

namespace WellFormed

variable {registry : Registry}

/-- The reservation an enrolment makes. -/
theorem reservation (wellFormed : registry.WellFormed) :
    registry.identities.netIdManager.reserveNetId =
      (NetIdManager.netIdAt registry.identities.networks.size,
        NetIdManager.reserved (registry.identities.networks.size + 1)) := by
  rw [wellFormed.identities.pool, NetIdManager.reserveNetId_reserved]

theorem netIds_enroll (wellFormed : registry.WellFormed) (type : NetworkType) (ident : String) :
    (registry.enroll type ident).netIds =
      registry.netIds ++ [NetIdManager.netIdAt registry.identities.networks.size] := by
  have new : ((registry.enroll type ident).network registry.identities.networks.fresh).netId =
      NetIdManager.netIdAt registry.identities.networks.size := by
    rw [network_enroll_fresh, wellFormed.reservation]
  show (registry.networks ++ [registry.identities.networks.fresh]).map _ = _
  rw [List.map_append, List.map_singleton, new]
  refine congrArg (· ++ _) (List.map_congr_left fun network listed => ?_)
  rw [network_enroll registry type ident (wellFormed.networks network listed)]

/-- The net ids of the listed networks are among those reserved so far. -/
theorem netIds_lt (wellFormed : registry.WellFormed) {netId : Int}
    (member : netId ∈ registry.netIds) :
    ∃ count, count < registry.identities.networks.size ∧ netId = NetIdManager.netIdAt count := by
  obtain ⟨network, listed, same⟩ := List.mem_map.mp member
  have allocated := wellFormed.networks network listed
  have identity : registry.network network = _ := wellFormed.identities.network network allocated
  rw [identity] at same
  exact ⟨network.address, allocated, same.symm⟩

/-! ### Distinct net ids -/

/-- The id of a new network is new exactly when the range has room or no listed network holds
the last id. -/
theorem netIdAt_fresh_iff (wellFormed : registry.WellFormed) :
    NetIdManager.netIdAt registry.identities.networks.size ∉ registry.netIds ↔
      (∃ netId, minNetId ≤ netId ∧ netId ≤ maxNetId ∧
          netId ∉ registry.identities.netIdManager.netIdInUse) ∨
        registry.identities.netIdManager.lastNetId ∉ registry.netIds := by
  have pool := wellFormed.identities.pool
  by_cases room : registry.identities.networks.size < NetIdManager.capacity
  · refine iff_of_true (fun member => ?_) (Or.inl ⟨maxNetId, by decide, le_refl _, ?_⟩)
    · obtain ⟨count, earlier, same⟩ := wellFormed.netIds_lt member
      rw [NetIdManager.netIdAt_of_lt room, NetIdManager.netIdAt_of_lt (earlier.trans room)] at same
      exact Nat.ne_of_gt earlier (Int.ofNat.inj same)
    · rw [pool]
      exact NetIdManager.maxNetId_free room
  · have full : NetIdManager.capacity ≤ registry.identities.networks.size := not_lt.mp room
    rw [pool, NetIdManager.lastNetId_of_full full, or_iff_right]
    rintro ⟨netId, low, high, free⟩
    exact free (NetIdManager.mem_reserved_of_full full low high)

end WellFormed

end Registry

namespace NetConnService

theorem netIdsDistinct_step (state : NetConnService) (action : Action)
    (wellFormed : state.registry.WellFormed) (distinct : state.NetIdsDistinct) :
    (state.step action).NetIdsDistinct ↔ state.ReservesFresh action := by
  have before : state.registry.netIds.Nodup := distinct
  show (state.step action).registry.netIds.Nodup ↔ _
  rw [registry_step]
  cases wellFormed.change action with
  | enrolled netType ident netCapabilities creates same =>
    rw [Registry.netIds_of_membership same, wellFormed.netIds_enroll, ← List.concat_eq_append,
      List.nodup_concat, and_iff_left before, wellFormed.netIdAt_fresh_iff]
    constructor
    · intro fresh _ _ _ _ _
      exact fresh
    · intro guard
      exact guard netType ident netCapabilities rfl creates
  | removed supplierId network supplierFound networkFound same =>
    refine iff_of_true ?_ (fun _ _ _ equal => by cases equal)
    rw [same]
    exact before.sublist (List.eraseP_sublist.map _)
  | kept _ known unknown same =>
    rw [Registry.netIds_of_membership same]
    refine iff_of_true before fun netType ident netCapabilities equal creates => ?_
    exact absurd creates (known netType ident netCapabilities equal)

/-- In every run the net ids of the listed networks stay distinct exactly when every supplier
is created while an id of the range is free or the id handed out last is held by no listed
network. -/
theorem netIdsDistinct_run (answers : Nat → Int) (actions : List Action) :
    Always step NetIdsDistinct (start answers) actions ↔
      Guarded step ReservesFresh (start answers) actions :=
  always_iff_guarded step step_wellFormed netIdsDistinct_step (start_wellFormed answers)
    List.nodup_nil actions

/-! ### An exhausted range -/

/-- Register one supplier and unregister it again, `count` times. -/
def churn : Nat → List Action
  | 0 => []
  | count + 1 => churn count ++
      [.registerNetSupplier 2 "eth0" 0, .unregisterNetSupplier (supplierIdAt count)]

/-- No network is listed, and `count` were created. -/
structure Vacant (state : NetConnService) (count : Nat) : Prop where
  wellFormed : state.registry.WellFormed
  networks : state.registry.networks = []
  created : state.registry.identities.networks.size = count

theorem Vacant.netSupplier {state : NetConnService} {count : Nat} (vacant : state.Vacant count) :
    state.registry.netSupplier = [] := by
  rw [← vacant.wellFormed.suppliers, vacant.networks]
  rfl

/-- Registering an ethernet supplier with no capability only enrols it. -/
theorem registry_registerEthernet (state : NetConnService) (ident : String)
    (unknown : state.registry.supplierOfKey 2 ident = none) :
    (state.step (.registerNetSupplier 2 ident 0)).registry =
      state.registry.enroll .ethernet ident := by
  rw [registry_step]
  show state.registry.register 2 ident 0 = _
  unfold Registry.register
  rw [if_neg (by decide), unknown]
  rfl

theorem Vacant.netIds {state : NetConnService} {count : Nat} (vacant : state.Vacant count) :
    state.registry.netIds = [] :=
  congrArg (List.map _) vacant.networks

theorem Vacant.registerEthernet {state : NetConnService} {count : Nat}
    (vacant : state.Vacant count) :
    (state.step (.registerNetSupplier 2 "eth0" 0)).registry =
      state.registry.enroll .ethernet "eth0" :=
  registry_registerEthernet state "eth0"
    (by unfold Registry.supplierOfKey; rw [vacant.netSupplier]; rfl)

/-- One round of the churn leaves nothing listed and uses up one net id. -/
theorem Vacant.round {state : NetConnService} {count : Nat} (vacant : state.Vacant count) :
    (run step state [.registerNetSupplier 2 "eth0" 0,
      .unregisterNetSupplier (supplierIdAt count)]).Vacant (count + 1) := by
  have enrolled := vacant.registerEthernet
  have wellFormed := step_wellFormed state (.registerNetSupplier 2 "eth0" 0) vacant.wellFormed
  rw [enrolled] at wellFormed
  have listed : (state.registry.enroll .ethernet "eth0").networks =
      [state.registry.identities.networks.fresh] :=
    congrArg (· ++ _) vacant.networks
  obtain ⟨network, found, removed⟩ : ∃ network,
      (state.registry.enroll .ethernet "eth0").networkOfId (supplierIdAt count) = some network ∧
        (run step state [.registerNetSupplier 2 "eth0" 0,
          .unregisterNetSupplier (supplierIdAt count)]).registry =
            (state.registry.enroll .ethernet "eth0").remove (supplierIdAt count) network := by
    rw [run_cons, run_cons, run_nil, registry_step, enrolled]
    cases wellFormed.change (.unregisterNetSupplier (supplierIdAt count)) with
    | removed _ network supplierFound networkFound same => exact ⟨network, networkFound, same⟩
    | kept _ known unknown same =>
      have missed := List.find?_eq_none.mp (unknown _ rfl)
        state.registry.identities.suppliers.fresh
        (List.mem_append_right _ (List.mem_singleton.mpr rfl))
      have sameId : supplierIdAt count = state.registry.identities.nextNetSupplierId := by
        rw [vacant.wellFormed.identities.nextId, ← vacant.wellFormed.identities.paired,
          vacant.created]
      rw [Registry.supplier_enroll_fresh, sameId] at missed
      exact absurd (beq_self_eq_true _) missed
  refine ⟨run_invariant step _ step_wellFormed vacant.wellFormed _, ?_, ?_⟩
  · rw [removed, List.eq_nil_iff_forall_not_mem]
    intro other member
    obtain ⟨before, different⟩ := (wellFormed.mem_networks_remove found other).mp member
    have member := List.mem_of_find?_eq_some found
    rw [listed, List.mem_singleton] at before member
    exact different (before.trans member.symm)
  · rw [removed]
    exact congrArg (· + 1) vacant.created

theorem churn_vacant (answers : Nat → Int) (count : Nat) :
    (run step (start answers) (churn count)).Vacant count := by
  induction count with
  | zero => exact ⟨start_wellFormed answers, rfl, rfl⟩
  | succ count inductionHypothesis =>
    rw [churn, run_append]
    exact inductionHypothesis.round

/-- The churn is made of registrations and unregistrations. -/
theorem churn_actions (count : Nat) (action : Action) (member : action ∈ churn count) :
    (∃ netType ident netCapabilities,
        action = .registerNetSupplier netType ident netCapabilities) ∨
      ∃ supplierId, action = .unregisterNetSupplier supplierId := by
  induction count with
  | zero => exact absurd member List.not_mem_nil
  | succ count inductionHypothesis =>
    rcases List.mem_append.mp member with earlier | last
    · exact inductionHypothesis earlier
    · rcases List.mem_cons.mp last with first | second
      · exact Or.inl ⟨_, _, _, first⟩
      · exact Or.inr ⟨_, List.mem_singleton.mp second⟩

/-- The supplier of a round is the only one. -/
theorem Vacant.registered {state : NetConnService} {count : Nat} (vacant : state.Vacant count) :
    (state.step (.registerNetSupplier 2 "eth0" 0)).registry.netSupplier =
      [state.registry.identities.suppliers.fresh] := by
  rw [vacant.registerEthernet]
  exact congrArg (· ++ _) vacant.netSupplier

/-- At most one supplier is registered at any moment of the churn. -/
theorem churn_registered (answers : Nat → Int) (count : Nat) :
    Always step (fun state => state.netSupplier.length ≤ 1) (start answers) (churn count) := by
  induction count with
  | zero => exact (always_nil step _ _).mpr (Nat.zero_le 1)
  | succ count inductionHypothesis =>
    have vacant := churn_vacant answers count
    rw [churn, always_append, always_cons, always_cons, always_nil]
    refine ⟨inductionHypothesis, ?_, ?_, ?_⟩
    · exact le_of_eq_of_le (congrArg List.length vacant.netSupplier) (Nat.zero_le 1)
    · exact le_of_eq (congrArg List.length vacant.registered)
    · exact le_of_eq_of_le (congrArg List.length vacant.round.netSupplier) (Nat.zero_le 1)

/-- Two registrations after a churn. -/
theorem Vacant.registerTwo {state : NetConnService} {count : Nat} (vacant : state.Vacant count) :
    (run step state [.registerNetSupplier 2 "eth0" 0,
        .registerNetSupplier 2 "eth1" 0]).registry =
      (state.registry.enroll .ethernet "eth0").enroll .ethernet "eth1" := by
  have first := vacant.registerEthernet
  rw [run_cons, run_cons, run_nil, registry_registerEthernet, first]
  unfold Registry.supplierOfKey
  rw [vacant.registered, first, List.find?_singleton, Registry.supplier_enroll_fresh]
  rfl

theorem Vacant.registeredTwo {state : NetConnService} {count : Nat} (vacant : state.Vacant count) :
    (run step state [.registerNetSupplier 2 "eth0" 0,
        .registerNetSupplier 2 "eth1" 0]).registry.netSupplier =
      [state.registry.identities.suppliers.fresh,
        (state.registry.enroll .ethernet "eth0").identities.suppliers.fresh] := by
  rw [vacant.registerTwo]
  exact congrArg (fun suppliers => (suppliers ++ [_]) ++ [_]) vacant.netSupplier

theorem Vacant.netIds_registerTwo {state : NetConnService} {count : Nat}
    (vacant : state.Vacant count) :
    (run step state [.registerNetSupplier 2 "eth0" 0,
        .registerNetSupplier 2 "eth1" 0]).registry.netIds =
      [NetIdManager.netIdAt count, NetIdManager.netIdAt (count + 1)] := by
  have free : ∀ supplier ∈ state.registry.netSupplier,
      state.registry.key supplier ≠ (.ethernet, "eth0") := by
    rw [vacant.netSupplier]
    exact fun supplier member => absurd member List.not_mem_nil
  have second := (vacant.wellFormed.enroll .ethernet "eth0" free).netIds_enroll .ethernet "eth1"
  have size : (state.registry.enroll .ethernet "eth0").identities.networks.size = count + 1 :=
    congrArg (· + 1) vacant.created
  rw [vacant.registerTwo, second, vacant.wellFormed.netIds_enroll, vacant.netIds, vacant.created,
    size]
  rfl

/-- The churn followed by two registrations. -/
def churnThenTwo (count : Nat) : List Action :=
  churn count ++ [.registerNetSupplier 2 "eth0" 0, .registerNetSupplier 2 "eth1" 0]

theorem churnThenTwo_actions (count : Nat) (action : Action)
    (member : action ∈ churnThenTwo count) :
    (∃ netType ident netCapabilities,
        action = .registerNetSupplier netType ident netCapabilities) ∨
      ∃ supplierId, action = .unregisterNetSupplier supplierId := by
  rcases List.mem_append.mp member with earlier | last
  · exact churn_actions count action earlier
  · rcases List.mem_cons.mp last with first | second
    · exact Or.inl ⟨_, _, _, first⟩
    · exact Or.inl ⟨_, _, _, List.mem_singleton.mp second⟩

theorem churnThenTwo_registered (answers : Nat → Int) (count : Nat) :
    Always step (fun state => state.netSupplier.length ≤ 2) (start answers)
      (churnThenTwo count) := by
  have vacant := churn_vacant answers count
  rw [churnThenTwo, always_append, always_cons, always_cons, always_nil]
  refine ⟨?_, ?_, ?_, ?_⟩
  · exact fun before after split =>
      le_trans (churn_registered answers count before after split) (by decide)
  · exact le_of_eq_of_le (congrArg List.length vacant.netSupplier) (by decide)
  · exact le_of_eq_of_le (congrArg List.length vacant.registered) (Nat.le_succ 1)
  · exact le_of_eq (congrArg List.length vacant.registeredTwo)

/-- Once the churn has used the range up, the two suppliers get the same net id. -/
theorem churnThenTwo_shares (answers : Nat → Int) (count : Nat)
    (full : NetIdManager.capacity ≤ count + 1) :
    ¬ (run step (start answers) (churnThenTwo count)).NetIdsDistinct := by
  have shared : (run step (start answers) (churnThenTwo count)).netIds =
      [NetIdManager.netIdAt count, NetIdManager.netIdAt (count + 1)] := by
    rw [churnThenTwo, run_append]
    exact (churn_vacant answers count).netIds_registerTwo
  unfold NetIdsDistinct
  rw [shared, NetIdManager.netIdAt_of_le full, NetIdManager.netIdAt_of_le (Nat.le_succ_of_le full)]
  decide

/-- A run of registrations and unregistrations with at most two suppliers registered at any
moment that ends with two listed networks sharing a net id. -/
theorem churn_shares_netId :
    (∀ action ∈ churnThenTwo 64511,
        (∃ netType ident netCapabilities,
            action = .registerNetSupplier netType ident netCapabilities) ∨
          ∃ supplierId, action = .unregisterNetSupplier supplierId) ∧
      Always step (fun state => state.netSupplier.length ≤ 2) (start fun _ => 1)
        (churnThenTwo 64511) ∧
      ¬ (run step (start fun _ => 1) (churnThenTwo 64511)).NetIdsDistinct :=
  ⟨churnThenTwo_actions 64511, churnThenTwo_registered _ 64511,
    churnThenTwo_shares _ 64511 (le_refl _)⟩

/-! ### Ids in use -/

theorem poolMatches_step (state : NetConnService) (action : Action)
    (wellFormed : state.registry.WellFormed) (matching : state.PoolMatches)
    (keeps : state.KeepsSuppliers action) : (state.step action).PoolMatches := by
  have before : state.registry.identities.netIdManager.netIdInUse =
      state.registry.netIds.toFinset := matching
  show (state.step action).registry.identities.netIdManager.netIdInUse =
    (state.step action).registry.netIds.toFinset
  rw [registry_step]
  cases wellFormed.change action with
  | enrolled netType ident netCapabilities creates same =>
    rw [Registry.netIds_of_membership same, Registry.pool_of_membership same,
      wellFormed.netIds_enroll, List.toFinset_append, ← before]
    show state.registry.identities.netIdManager.reserveNetId.2.netIdInUse = _
    rw [wellFormed.reservation, NetIdManager.netIdInUse_reserved_succ,
      ← wellFormed.identities.pool, Finset.insert_eq, Finset.union_comm]
    rfl
  | removed supplierId network supplierFound networkFound same =>
    have missing : state.registry.supplierOfId supplierId = none := keeps supplierId rfl
    rw [missing] at supplierFound
    exact absurd supplierFound (Option.some_ne_none _).symm
  | kept _ known unknown same =>
    rw [Registry.netIds_of_membership same, Registry.pool_of_membership same]
    exact before

/-- An unregistration that succeeds frees nothing, although the id of the network is in use. -/
theorem keepsSuppliers_of_frees (state : NetConnService) (action : Action)
    (wellFormed : state.registry.WellFormed) (frees : state.FreesNetId action) :
    state.KeepsSuppliers action := by
  cases wellFormed.change action with
  | enrolled netType ident netCapabilities creates same => exact fun _ equal => by cases equal
  | removed supplierId network supplierFound networkFound same =>
    have succeeds : (state.perform (.unregisterNetSupplier supplierId)).1 =
        ResultCode.none.code := by
      have supplier : state.getNetSupplierFromListById supplierId = some _ := supplierFound
      have owned : state.getNetworkFromListBySupplierId supplierId = some network := networkFound
      simp only [perform, unregisterNetSupplier, supplier, owned]
    have freed := frees supplierId network rfl succeeds networkFound
    have unchanged : (state.step (.unregisterNetSupplier supplierId)).registry.identities =
        state.registry.identities := by
      rw [registry_step, same]
      rfl
    have inUse : (state.registry.network network).netId ∈
        state.registry.identities.netIdManager.netIdInUse := by
      have allocated := wellFormed.networks network (List.mem_of_find?_eq_some networkFound)
      have identity : state.registry.network network = _ :=
        wellFormed.identities.network network allocated
      rw [identity, wellFormed.identities.pool]
      exact NetIdManager.netIdAt_mem_reserved allocated
    have erased : state.registry.identities.netIdManager.netIdInUse =
        state.registry.identities.netIdManager.netIdInUse.erase
          (state.registry.network network).netId :=
      (congrArg (fun identities => identities.netIdManager.netIdInUse) unchanged).symm.trans freed
    rw [erased] at inUse
    exact absurd rfl (Finset.mem_erase.mp inUse).1
  | kept _ known unknown same => exact unknown

/-- In every run the ids in use are those of the listed networks after every action, and every
unregistration that succeeds frees exactly the id of the network it removes, exactly when no
action of the run unregisters a registered supplier. -/
theorem poolMatches_run (answers : Nat → Int) (actions : List Action) :
    (Always step PoolMatches (start answers) actions ∧
        Guarded step FreesNetId (start answers) actions) ↔
      Guarded step KeepsSuppliers (start answers) actions := by
  constructor
  · rintro ⟨_, frees⟩ before action after split
    exact keepsSuppliers_of_frees _ action (run_wellFormed answers before)
      (frees before action after split)
  · intro guarded
    refine ⟨always_of_guarded step step_wellFormed poolMatches_step (start_wellFormed answers)
      rfl guarded, ?_⟩
    intro before action after split supplierId network equal succeeds found
    have missing := guarded before action after split supplierId equal
    rw [equal] at succeeds
    simp only [perform, unregisterNetSupplier, missing] at succeeds
    exact absurd succeeds (by decide)

/-- After one registration and its unregistration no network is listed and id 0 is in use. -/
theorem unregister_keeps_netId :
    (run step (start fun _ => 1) [.registerNetSupplier 2 "eth0" 0,
        .unregisterNetSupplier 1003]).networks = [] ∧
      ¬ (run step (start fun _ => 1) [.registerNetSupplier 2 "eth0" 0,
        .unregisterNetSupplier 1003]).PoolMatches := by
  refine ⟨by decide, fun matching => ?_⟩
  have inUse : (0 : Int) ∈ (run step (start fun _ => 1) [.registerNetSupplier 2 "eth0" 0,
      .unregisterNetSupplier 1003]).world.netIdManager.netIdInUse := by decide
  rw [matching] at inUse
  exact absurd inUse (by decide)

end NetConnService

end NetManager
