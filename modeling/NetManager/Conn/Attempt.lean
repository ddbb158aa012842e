/-
This file follows one attempt to connect a service. Between two actions the world is
steady: every service rests or is ready, the two flags of a network agree, and a ready
service has the flags of its network up. On a network with the flag up an attempt gets
nowhere; on a network with the flag down it succeeds exactly when the service is
cellular and the controller answers `REG_OK`. Attempts keep the world steady, and so
does growth.
-/

import NetManager.Conn.Growth

namespace NetManager

open Library

/-! ### Steady worlds -/

/-- What holds of flags and states between two actions. -/
structure World.Steady (world : World) : Prop where
  paired : ∀ network, world.networkHeap.Allocated network →
    (world.network network).isConnecting = (world.network network).isConnected
  settled : ∀ service, world.serviceHeap.Allocated service →
    NetService.Resting (world.service service).state ∨ (world.service service).state = .ready
  active : ∀ service, world.serviceHeap.Allocated service →
    (world.service service).state = .ready →
      (world.network (world.service service).network).isConnecting = true

/-- The flags of every network are down. -/
def World.Inactive (world : World) : Prop :=
  ∀ network, world.networkHeap.Allocated network →
    (world.network network).flags = ⟨false, false⟩

namespace World.Steady

variable {before after : World}

/-- Growth keeps a world steady. -/
theorem of_grows (steady : before.Steady) (identities : before.identities.WellFormed)
    (grows : before.Grows after) : after.Steady := by
  refine ⟨?_, ?_, ?_⟩
  · intro network allocated
    by_cases old : before.networkHeap.Allocated network
    · obtain ⟨connecting, connected⟩ := Flags.mk.inj (grows.networkKept network old).2
      rw [connecting, connected]
      exact steady.paired network old
    · obtain ⟨connecting, connected⟩ := Flags.mk.inj (grows.networkNew network allocated old)
      rw [connecting, connected]
  · intro service allocated
    by_cases old : before.serviceHeap.Allocated service
    · rw [(grows.serviceKept service old).2.1]
      exact steady.settled service old
    · exact Or.inl (Or.inl (grows.serviceNew service allocated old))
  · intro service allocated ready
    by_cases old : before.serviceHeap.Allocated service
    · obtain ⟨_, state, network⟩ := grows.serviceKept service old
      rw [state] at ready
      have owner : before.networkHeap.Allocated (before.service service).network :=
        (identities.service service old).network
      obtain ⟨connecting, _⟩ := Flags.mk.inj (grows.networkKept _ owner).2
      rw [network, connecting]
      exact steady.active service old ready
    · rw [grows.serviceNew service allocated old] at ready
      exact absurd ready (by decide)

end World.Steady

theorem World.Inactive.of_grows {before after : World} (inactive : before.Inactive)
    (grows : before.Grows after) : after.Inactive := by
  intro network allocated
  by_cases old : before.networkHeap.Allocated network
  · rw [(grows.networkKept network old).2]
    exact inactive network old
  · exact grows.networkNew network allocated old

/-! ### Attempts to connect -/

/-- The world a connection or a reconnection of a service leaves. -/
def World.Attempted (before after : World) (service : Ref NetService) : Prop :=
  after = (NetService.serviceConnect before service).2 ∨
    after = (NetService.reConnect before service).2

namespace World

variable {before after : World} {service : Ref NetService}

theorem Attempted.identities (attempted : before.Attempted after service) :
    after.identities = before.identities := by
  rcases attempted with rfl | rfl
  · exact NetService.identities_serviceConnect before service
  · exact NetService.identities_reConnect before service

/-- A constructed cellular service has a controller. -/
theorem cellular_controlled (wellFormed : before.identities.WellFormed)
    (allocated : before.serviceHeap.Allocated service)
    (cellular : (before.service service).networkType = .cellular) :
    (before.supplier (before.network (before.service service).network).supplier).netController =
      some .telephony := by
  obtain ⟨network, type, _, _⟩ := wellFormed.service service allocated
  have controller := wellFormed.controller _ (wellFormed.supplier_allocated network)
  have supplierType : (before.supplier
      (before.network (before.service service).network).supplier).netSupplierType = .cellular :=
    type.symm.trans cellular
  have made : (before.supplier
      (before.network (before.service service).network).supplier).netController =
        NetSupplier.makeNetController (before.supplier
          (before.network (before.service service).network).supplier).netSupplierType :=
    controller
  rw [made, supplierType]
  rfl

/-- On a network with the flag up an attempt changes at most the state of the service, and does
not make it ready. -/
theorem Attempted.flagged (attempted : before.Attempted after service) (steady : before.Steady)
    (allocated : before.serviceHeap.Allocated service)
    (flag : (before.network (before.service service).network).isConnecting = true) :
    ∃ state, (NetService.Resting state ∨ state = .ready) ∧
      after.connection = before.connection.become service state := by
  have settled := steady.settled service allocated
  rcases attempted with rfl | rfl
  · refine ⟨(before.service service).state, settled, ?_⟩
    rw [show (before.service service).state = before.connection.services.cell service from rfl,
      Connection.become_cell]
    rcases settled with resting | ready
    · rw [NetService.serviceConnect_connecting before service resting flag]
    · rw [NetService.serviceConnect_ready before service ready]
  · obtain ⟨_, rest, resting, connection⟩ :=
      NetService.reConnect_connecting before service settled flag
    exact ⟨rest, Or.inl resting, connection⟩

/-- On a network with the flag down the service rests, and a reconnection is a connection. -/
theorem Steady.resting (steady : before.Steady)
    (allocated : before.serviceHeap.Allocated service)
    (flag : (before.network (before.service service).network).isConnecting = false) :
    NetService.Resting (before.service service).state := by
  refine (steady.settled service allocated).resolve_right fun ready => ?_
  rw [steady.active service allocated ready] at flag
  exact absurd flag (by decide)

theorem Attempted.eq_serviceConnect (attempted : before.Attempted after service)
    (steady : before.Steady) (allocated : before.serviceHeap.Allocated service)
    (flag : (before.network (before.service service).network).isConnecting = false) :
    after = (NetService.serviceConnect before service).2 := by
  rcases attempted with rfl | rfl
  · rfl
  · rw [NetService.reConnect_resting before service (steady.resting allocated flag) flag]

/-- On a network with the flag down an attempt on a cellular service that is answered with
`REG_OK` succeeds. -/
theorem Steady.connects (steady : before.Steady) (wellFormed : before.identities.WellFormed)
    (allocated : before.serviceHeap.Allocated service)
    (flag : (before.network (before.service service).network).isConnecting = false)
    (cellular : (before.service service).networkType = .cellular)
    (answered : before.nextAnswer = NetSupplier.regOk) :
    (NetService.serviceConnect before service).1 = .serviceRequestSuccess ∧
      (NetService.serviceConnect before service).2.connection =
        (before.connection.activate (before.service service).network).become service .ready := by
  have network := (wellFormed.service service allocated).network
  have connected : (before.network (before.service service).network).isConnected = false :=
    (steady.paired _ network).symm.trans flag
  rw [NetService.serviceConnect_resting before service (steady.resting allocated flag) flag,
    if_pos cellular]
  exact (NetService.connectCellular_spec before service connected
    (cellular_controlled wellFormed allocated cellular)).1 answered

/-- Any other attempt on such a network leaves the service resting. -/
theorem Steady.refuses (steady : before.Steady) (wellFormed : before.identities.WellFormed)
    (allocated : before.serviceHeap.Allocated service)
    (flag : (before.network (before.service service).network).isConnecting = false)
    (refused : (before.service service).networkType = .cellular →
      before.nextAnswer ≠ NetSupplier.regOk) :
    ∃ state, NetService.Resting state ∧
      (NetService.serviceConnect before service).2.connection =
        before.connection.become service state := by
  have resting := steady.resting allocated flag
  have network := (wellFormed.service service allocated).network
  have connected : (before.network (before.service service).network).isConnected = false :=
    (steady.paired _ network).symm.trans flag
  rw [NetService.serviceConnect_resting before service resting flag]
  by_cases cellular : (before.service service).networkType = .cellular
  · rw [if_pos cellular]
    exact ⟨.idle, Or.inl rfl, ((NetService.connectCellular_spec before service connected
      (cellular_controlled wellFormed allocated cellular)).2 (refused cellular)).2⟩
  · rw [if_neg cellular]
    exact ⟨(before.service service).state, resting, (Connection.become_cell _ service).symm⟩

/-! ### Steady worlds stay steady -/

/-- Equal identities have the same objects. -/
theorem allocated_of_identities (same : after.identities = before.identities) :
    (∀ network, after.networkHeap.Allocated network → before.networkHeap.Allocated network) ∧
      ∀ service, after.serviceHeap.Allocated service → before.serviceHeap.Allocated service := by
  have networks : after.networkHeap.size = before.networkHeap.size :=
    congrArg (fun identities : Identities => identities.networks.size) same
  have services : after.serviceHeap.size = before.serviceHeap.size :=
    congrArg (fun identities : Identities => identities.services.size) same
  exact ⟨fun _ allocated => Nat.lt_of_lt_of_eq allocated networks,
    fun _ allocated => Nat.lt_of_lt_of_eq allocated services⟩

/-- What is read from a connection after one service changed its state. -/
theorem reads_become {state : ServiceState}
    (same : after.connection = before.connection.become service state) :
    (∀ network, (after.network network).flags = (before.network network).flags) ∧
      (after.service service).state = state ∧
        ∀ other, other ≠ service → (after.service other).state = (before.service other).state := by
  refine ⟨fun network => ?_, ?_, fun other different => ?_⟩
  · exact congrArg (fun connection : Connection => connection.networks.cell network) same
  · exact (congrArg (fun connection : Connection => connection.services.cell service) same).trans
      (Heap.cell_set_self _ _ _)
  · exact (congrArg (fun connection : Connection => connection.services.cell other) same).trans
      (Heap.cell_set_of_ne _ _ different)

theorem Steady.of_become (steady : before.Steady) {state : ServiceState}
    (identities : after.identities = before.identities)
    (same : after.connection = before.connection.become service state)
    (settled : NetService.Resting state ∨ state = .ready)
    (active : state = .ready →
      (before.network (before.service service).network).isConnecting = true) :
    after.Steady := by
  obtain ⟨flags, own, others⟩ := reads_become same
  obtain ⟨networkOld, serviceOld⟩ := allocated_of_identities identities
  refine ⟨?_, ?_, ?_⟩
  · intro network allocated
    obtain ⟨connecting, connected⟩ := Flags.mk.inj (flags network)
    rw [connecting, connected]
    exact steady.paired network (networkOld network allocated)
  · intro other allocated
    by_cases this : other = service
    · rw [this, own]
      exact settled
    · rw [others other this]
      exact steady.settled other (serviceOld other allocated)
  · intro other allocated ready
    rw [World.service_network identities other, (Flags.mk.inj (flags _)).1]
    by_cases this : other = service
    · rw [this] at ready ⊢
      exact active (own.symm.trans ready)
    · rw [others other this] at ready
      exact steady.active other (serviceOld other allocated) ready

/-- What is read from a connection after a service became ready and its network active. -/
theorem reads_activate {network : Ref Network}
    (same : after.connection = (before.connection.activate network).become service .ready) :
    (after.network network).flags = ⟨true, true⟩ ∧
      (∀ other, other ≠ network →
        (after.network other).flags = (before.network other).flags) ∧
        (after.service service).state = .ready ∧
          ∀ other, other ≠ service →
            (after.service other).state = (before.service other).state := by
  refine ⟨?_, fun other different => ?_, ?_, fun other different => ?_⟩
  · exact (congrArg (fun connection : Connection => connection.networks.cell network) same).trans
      (Heap.cell_set_self _ _ _)
  · exact (congrArg (fun connection : Connection => connection.networks.cell other) same).trans
      (Heap.cell_set_of_ne _ _ different)
  · exact (congrArg (fun connection : Connection => connection.services.cell service) same).trans
      (Heap.cell_set_self _ _ _)
  · exact (congrArg (fun connection : Connection => connection.services.cell other) same).trans
      (Heap.cell_set_of_ne _ _ different)

theorem Steady.of_activate (steady : before.Steady)
    (identities : after.identities = before.identities)
    (same : after.connection =
      (before.connection.activate (before.service service).network).become service .ready) :
    after.Steady := by
  obtain ⟨up, flags, own, others⟩ := reads_activate same
  obtain ⟨networkOld, serviceOld⟩ := allocated_of_identities identities
  refine ⟨?_, ?_, ?_⟩
  · intro network allocated
    by_cases this : network = (before.service service).network
    · obtain ⟨connecting, connected⟩ := Flags.mk.inj up
      rw [this, connecting, connected]
    · obtain ⟨connecting, connected⟩ := Flags.mk.inj (flags network this)
      rw [connecting, connected]
      exact steady.paired network (networkOld network allocated)
  · intro other allocated
    by_cases this : other = service
    · rw [this, own]
      exact Or.inr rfl
    · rw [others other this]
      exact steady.settled other (serviceOld other allocated)
  · intro other allocated ready
    rw [World.service_network identities other]
    by_cases shared : (before.service other).network = (before.service service).network
    · rw [shared]
      exact (Flags.mk.inj up).1
    · have this : other ≠ service := fun same => shared (by rw [same])
      rw [(Flags.mk.inj (flags _ shared)).1]
      rw [others other this] at ready
      exact steady.active other (serviceOld other allocated) ready

/-- An attempt keeps a world steady. -/
theorem Attempted.steady (attempted : before.Attempted after service) (steady : before.Steady)
    (wellFormed : before.identities.WellFormed)
    (allocated : before.serviceHeap.Allocated service) : after.Steady := by
  have identities := attempted.identities
  cases flag : (before.network (before.service service).network).isConnecting with
  | true =>
    obtain ⟨state, settled, same⟩ := attempted.flagged steady allocated flag
    exact steady.of_become identities same settled fun _ => flag
  | false =>
    have connected := attempted.eq_serviceConnect steady allocated flag
    by_cases answered : (before.service service).networkType = .cellular ∧
        before.nextAnswer = NetSupplier.regOk
    · obtain ⟨_, same⟩ := steady.connects wellFormed allocated flag answered.1 answered.2
      rw [← connected] at same
      exact steady.of_activate identities same
    · obtain ⟨state, resting, same⟩ := steady.refuses wellFormed allocated flag
        fun cellular answer => answered ⟨cellular, answer⟩
      rw [← connected] at same
      refine steady.of_become identities same (Or.inl resting) fun ready => ?_
      rcases resting with idle | failure
      · exact absurd (idle.symm.trans ready) (by decide)
      · exact absurd (failure.symm.trans ready) (by decide)

/-- With all flags down an attempt that is refused leaves them down. -/
theorem Attempted.inactive (attempted : before.Attempted after service) (steady : before.Steady)
    (wellFormed : before.identities.WellFormed)
    (allocated : before.serviceHeap.Allocated service) (inactive : before.Inactive)
    (refused : (before.service service).networkType = .cellular →
      before.nextAnswer ≠ NetSupplier.regOk) : after.Inactive := by
  have network := (wellFormed.service service allocated).network
  have flag := (Flags.mk.inj (inactive _ network)).1
  obtain ⟨networkOld, _⟩ := allocated_of_identities attempted.identities
  obtain ⟨state, _, same⟩ := steady.refuses wellFormed allocated flag refused
  rw [← attempted.eq_serviceConnect steady allocated flag] at same
  intro other otherAllocated
  rw [(reads_become same).1 other]
  exact inactive other (networkOld other otherAllocated)

end World

end NetManager
