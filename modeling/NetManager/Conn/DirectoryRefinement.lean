/-
This file proves that the connection service is a directory: an action takes the directory of
the service to what the directory makes of the action, and returns what the directory answers.
The three things that an action can do to the membership are an entry that is added, an entry
that is removed, and entries that stay and are written to.
-/

import NetManager.Conn.Directory

namespace NetManager

open Library

/-- Writing to the entry of an id is a change of that entry. -/
theorem Directory.change_written (this : Directory) {action : NetConnService.Action}
    {supplierId : UInt32} {change : SupplierEntry → Option SupplierEntry}
    (named : action.supplierId? = some supplierId)
    (writes : ∀ entry, change entry = some (action.writes entry)) (other : UInt32) :
    (this.change supplierId change).entry other = (this.entry other).map fun entry =>
      if action.supplierId? = some other then action.writes entry else entry := by
  show Function.update this.entry supplierId _ other = _
  rw [named]
  by_cases here : other = supplierId
  · subst here
    rw [Function.update_self, funext writes]
    cases this.entry other with
    | none => rfl
    | some entry => exact congrArg some (if_pos rfl).symm
  · rw [Function.update_of_ne here]
    cases this.entry other with
    | none => rfl
    | some entry =>
      exact congrArg some (if_neg fun same => here (Option.some.inj same).symm).symm

/-! ### Steps that spare an entry -/

namespace Directory

/-- Only an action that names an id, or a registration that is given it, changes its entry. -/
theorem entry_step_of_spared {this : Directory} {action : NetConnService.Action}
    {supplierId : UInt32} (used : supplierId ≠ supplierIdAt this.created)
    (spared : action.supplierId? ≠ some supplierId) :
    (this.step action).entry supplierId = this.entry supplierId := by
  have other {named : UInt32} (names : action.supplierId? = some named)
      (changed : SupplierEntry → Option SupplierEntry) :
      (this.change named changed).entry supplierId = this.entry supplierId :=
    Function.update_of_ne (fun same => spared (by rw [same, names])) _ _
  cases action with
  | registerNetSupplier netType ident netCapabilities =>
    unfold step
    dsimp only
    split
    · exact Function.update_of_ne used _ _
    · rfl
  | unregisterNetSupplier named => exact other rfl _
  | updateNetSupplierInfo named netSupplierInfo =>
    cases netSupplierInfo with
    | none => rfl
    | some netSupplierInfo => exact other rfl _
  | updateNetLinkInfo named netLinkInfo =>
    cases netLinkInfo with
    | none => rfl
    | some netLinkInfo => exact other rfl _
  | _ => rfl

/-- An entry was there before the action, with the same key, or the action registered it. -/
theorem entry_step_cases {this : Directory} {action : NetConnService.Action} {supplierId : UInt32}
    {entry : SupplierEntry} (kept : (this.step action).entry supplierId = some entry) :
    (∃ old, this.entry supplierId = some old ∧ entry.key = old.key) ∨
      ∃ netType ident netCapabilities,
        action = .registerNetSupplier netType ident netCapabilities ∧
          NetConnService.ValidType netType ∧ supplierId = supplierIdAt this.created ∧
            entry = { type := NetworkType.ofCode netType, ident } := by
  have changed {named : UInt32} {change : SupplierEntry → Option SupplierEntry}
      (keeps : ∀ old new, change old = some new → new.key = old.key)
      (after : (this.change named change).entry supplierId = some entry) :
      ∃ old, this.entry supplierId = some old ∧ entry.key = old.key := by
    by_cases here : supplierId = named
    · subst here
      rw [show (this.change supplierId change).entry supplierId =
        (this.entry supplierId).bind change from Function.update_self _ _ _] at after
      obtain ⟨old, before, new⟩ := Option.bind_eq_some_iff.mp after
      exact ⟨old, before, keeps old entry new⟩
    · rw [show (this.change named change).entry supplierId = this.entry supplierId from
        Function.update_of_ne here _ _] at after
      exact ⟨entry, after, rfl⟩
  cases action with
  | registerNetSupplier netType ident netCapabilities =>
    unfold step at kept
    dsimp only at kept
    split at kept
    · rename_i creates
      by_cases here : supplierId = supplierIdAt this.created
      · rw [here, show (this.enrol _ ident).entry (supplierIdAt this.created) = some _ from
          Function.update_self _ _ _] at kept
        exact .inr ⟨netType, ident, netCapabilities, rfl, creates.1, here,
          (Option.some.inj kept).symm⟩
      · rw [show (this.enrol _ ident).entry supplierId = this.entry supplierId from
          Function.update_of_ne here _ _] at kept
        exact .inl ⟨entry, kept, rfl⟩
    · exact .inl ⟨entry, kept, rfl⟩
  | unregisterNetSupplier named => exact .inl (changed (fun _ _ same => by cases same) kept)
  | updateNetSupplierInfo named netSupplierInfo =>
    cases netSupplierInfo with
    | none => exact .inl ⟨entry, kept, rfl⟩
    | some netSupplierInfo => exact .inl (changed (fun _ _ same => by cases same; rfl) kept)
  | updateNetLinkInfo named netLinkInfo =>
    cases netLinkInfo with
    | none => exact .inl ⟨entry, kept, rfl⟩
    | some netLinkInfo => exact .inl (changed (fun _ _ same => by cases same; rfl) kept)
  | _ => exact .inl ⟨entry, kept, rfl⟩

end Directory

namespace NetConnService

variable {state : NetConnService}

/-! ### Keys -/

/-- A registration creates a supplier when nothing is kept for its key. -/
theorem creates_iff (wellFormed : state.registry.WellFormed)
    (few : state.createdSuppliers ≤ 2 ^ 32 - 1003) (netType : UInt32) (ident : String) :
    state.registry.Creates netType ident ↔
      ValidType netType ∧ state.directory.Unknown (NetworkType.ofCode netType, ident) := by
  refine and_congr_right fun valid => ?_
  constructor
  · intro unknown supplierId entry kept sameKey
    obtain ⟨network, ⟨listed, _⟩, rfl⟩ :=
      (entry_eq_some_iff wellFormed few supplierId entry).mp kept
    exact Registry.WellFormed.key_free valid unknown _ (wellFormed.supplier_listed listed) sameKey
  · intro unknown
    cases found : state.registry.supplierOfKey netType ident with
    | none => rfl
    | some supplier =>
      have hit := List.find?_some found
      rw [Bool.and_eq_true, beq_iff_eq, beq_iff_eq] at hit
      obtain ⟨network, listed, held⟩ :=
        wellFormed.exists_network (List.mem_of_find?_eq_some found)
      have kept := (entry_eq_some_iff wellFormed few _ _).mpr ⟨network, ⟨listed, rfl⟩, rfl⟩
      refine absurd ?_ (unknown _ _ kept)
      have holder : (state.world.network network).supplier = supplier := held
      unfold SupplierEntry.key entryOf
      rw [holder]
      exact Prod.ext (NetworkType.ofCode_code valid hit.1).symm hit.2.symm

/-! ### A new entry -/

/-- What the service knows of a network that was just constructed with its supplier. -/
theorem entryOf_enrolled (wellFormed : state.registry.WellFormed) {netType : UInt32}
    {ident : String} {netCapabilities : UInt64}
    (same : (state.registry.step (.registerNetSupplier netType ident
      netCapabilities)).membership =
        (state.registry.enroll (NetworkType.ofCode netType) ident).membership) :
    (state.step (.registerNetSupplier netType ident netCapabilities)).entryOf
        state.world.networkHeap.fresh = { type := NetworkType.ofCode netType, ident } := by
  generalize registration : Action.registerNetSupplier netType ident netCapabilities = action
    at same ⊢
  have constructs : action.updatesNetwork = false := by
    rw [← registration]
    rfl
  have callback : action.aboutCallback = false := by
    rw [← registration]
    rfl
  have after := step_wellFormed state action wellFormed
  rw [← registry_step] at same
  have networks : (state.step action).registry.identities.networks =
      (state.registry.enroll (NetworkType.ofCode netType) ident).identities.networks :=
    congrArg Membership.networkHeap same
  have suppliers : (state.step action).registry.identities.suppliers =
      (state.registry.enroll (NetworkType.ofCode netType) ident).identities.suppliers :=
    congrArg Membership.suppliers same
  have paired : state.world.networkHeap.size = state.world.supplierHeap.size :=
    wellFormed.identities.paired
  have allocated : (state.step action).world.networkHeap.Allocated
      state.world.networkHeap.fresh := by
    have made := state.registry.identities.networks.allocated_fresh
      ⟨state.registry.identities.suppliers.fresh,
        state.registry.identities.netIdManager.reserveNetId.1⟩
    show (state.step action).registry.identities.networks.Allocated _
    rw [networks]
    exact made
  have holder : ((state.step action).world.network state.world.networkHeap.fresh).supplier =
      state.world.supplierHeap.fresh := by
    rw [network_supplier after allocated]
    exact congrArg Ref.mk paired
  have identity : (state.step action).registry.supplier state.world.supplierHeap.fresh =
      state.registry.identities.newSupplier (NetworkType.ofCode netType) ident :=
    (congrArg (fun heap => Heap.cell heap state.world.supplierHeap.fresh) suppliers).trans
      (state.registry.supplier_enroll_fresh _ _)
  have status : ((state.step action).world.supplier state.world.supplierHeap.fresh).status =
      {} := by
    have grows : World.StatusesGrow state.world (state.step action).world :=
      World.statuses_constructionFrame.step state
        (fun world service =>
          .of_same (World.statuses_connectionFrame.attempt action world service))
        (fun about => absurd about (by rw [callback]; exact Bool.false_ne_true)) constructs
    refine grows.new state.world.supplierHeap.fresh ?_ (Nat.lt_irrefl _)
    show (state.step action).registry.identities.suppliers.Allocated _
    rw [suppliers]
    exact state.registry.identities.suppliers.allocated_fresh _
  have linkInfo : ((state.step action).world.network
      state.world.networkHeap.fresh).netLinkInfo = {} :=
    ((state.netdSide_grows constructs).records.new state.world.networkHeap.fresh allocated
      (Nat.lt_irrefl _)).2
  unfold entryOf
  dsimp only
  rw [holder, status, linkInfo]
  exact congrArg₂ (fun type ident => ({ type, ident } : SupplierEntry))
    (congrArg SupplierIdentity.type identity) (congrArg SupplierIdentity.ident identity)

/-! ### Steps that add an entry -/

/-- An action only adds suppliers. -/
theorem createdSuppliers_le_step (wellFormed : state.registry.WellFormed) (action : Action) :
    state.createdSuppliers ≤ (state.step action).createdSuppliers := by
  have precedes := wellFormed.precedes_step action
  rw [← registry_step] at precedes
  exact precedes.size

section Enrolled

variable {netType : UInt32} {ident : String} {netCapabilities : UInt64}
  (same : (state.registry.step (.registerNetSupplier netType ident netCapabilities)).membership =
    (state.registry.enroll (NetworkType.ofCode netType) ident).membership)

include same

theorem networks_step_enrolled :
    (state.step (.registerNetSupplier netType ident netCapabilities)).networks =
      state.networks ++ [state.world.networkHeap.fresh] := by
  rw [← registry_step] at same
  exact congrArg Membership.networks same

theorem createdSuppliers_step_enrolled :
    (state.step (.registerNetSupplier netType ident netCapabilities)).createdSuppliers =
      state.createdSuppliers + 1 := by
  rw [← registry_step] at same
  exact congrArg (fun membership : Membership => membership.suppliers.size) same

variable (wellFormed : state.registry.WellFormed)
  (few : (state.step (.registerNetSupplier netType ident netCapabilities)).createdSuppliers ≤
    2 ^ 32 - 1003)

include wellFormed few

/-- The new supplier has the next id. -/
theorem entry_step_new :
    (state.step (.registerNetSupplier netType ident netCapabilities)).directory.entry
        (supplierIdAt state.createdSuppliers) =
      some { type := NetworkType.ofCode netType, ident } := by
  have after := step_wellFormed state (.registerNetSupplier netType ident netCapabilities)
    wellFormed
  have paired : state.world.networkHeap.size = state.createdSuppliers :=
    wellFormed.identities.paired
  refine (entry_eq_some_iff after few _ _).mpr
    ⟨state.world.networkHeap.fresh, ⟨?_, congrArg supplierIdAt paired⟩,
      entryOf_enrolled wellFormed same⟩
  rw [networks_step_enrolled same]
  exact List.mem_append_right _ (List.mem_singleton_self _)

/-- The other suppliers keep what is known of them. -/
theorem entry_step_old {supplierId : UInt32}
    (old : supplierId ≠ supplierIdAt state.createdSuppliers) :
    (state.step (.registerNetSupplier netType ident netCapabilities)).directory.entry supplierId =
      state.directory.entry supplierId := by
  have fewBefore := le_trans (createdSuppliers_le_step wellFormed _) few
  have after := step_wellFormed state (.registerNetSupplier netType ident netCapabilities)
    wellFormed
  have paired : state.world.networkHeap.size = state.createdSuppliers :=
    wellFormed.identities.paired
  have untouched {network : Ref Network} (listed : network ∈ state.networks) :
      (state.step (.registerNetSupplier netType ident netCapabilities)).entryOf network =
        state.entryOf network :=
    (entryOf_step wellFormed fewBefore listed _).trans (if_neg (Option.some_ne_none _).symm)
  refine Option.ext fun entry => ?_
  rw [entry_eq_some_iff after few, networks_step_enrolled same,
    entry_eq_some_iff wellFormed fewBefore]
  constructor
  · rintro ⟨network, ⟨member, sameId⟩, rfl⟩
    rcases List.mem_append.mp member with listed | fresh
    · exact ⟨network, ⟨listed, sameId⟩, (untouched listed).symm⟩
    · rw [List.mem_singleton.mp fresh] at sameId
      exact absurd (sameId.symm.trans (congrArg supplierIdAt paired)) old
  · rintro ⟨network, ⟨listed, sameId⟩, rfl⟩
    exact ⟨network, ⟨List.mem_append_left _ listed, sameId⟩, untouched listed⟩

/-- A registration that creates a supplier adds its entry. -/
theorem directory_step_enrolled (creates : state.registry.Creates netType ident) :
    (state.step (.registerNetSupplier netType ident netCapabilities)).directory =
      state.directory.step (.registerNetSupplier netType ident netCapabilities) := by
  have fewBefore := le_trans (createdSuppliers_le_step wellFormed _) few
  refine Eq.trans ?_ (if_pos ((creates_iff wellFormed fewBefore netType ident).mp creates)).symm
  refine Directory.ext (createdSuppliers_step_enrolled same) (funext fun supplierId => ?_)
  show _ = Function.update state.directory.entry (supplierIdAt state.createdSuppliers) _ supplierId
  by_cases new : supplierId = supplierIdAt state.createdSuppliers
  · subst new
    rw [Function.update_self]
    exact entry_step_new same wellFormed few
  · rw [Function.update_of_ne new]
    exact entry_step_old same wellFormed few new

end Enrolled

/-! ### Steps that remove an entry -/

section Removed

variable {supplierId : UInt32} {network : Ref Network}
  (networkFound : state.registry.networkOfId supplierId = some network)
  (same : state.registry.step (.unregisterNetSupplier supplierId) =
    state.registry.remove supplierId network)
  (wellFormed : state.registry.WellFormed)

include networkFound same wellFormed

theorem mem_networks_step_removed (other : Ref Network) :
    other ∈ (state.step (.unregisterNetSupplier supplierId)).networks ↔
      other ∈ state.networks ∧ other ≠ network := by
  rw [← registry_step] at same
  rw [show (state.step (.unregisterNetSupplier supplierId)).networks =
    (state.registry.remove supplierId network).networks from congrArg Registry.networks same]
  exact wellFormed.mem_networks_remove networkFound other

variable (few : (state.step (.unregisterNetSupplier supplierId)).createdSuppliers ≤ 2 ^ 32 - 1003)

include few

/-- Nothing is known under the id any more. -/
theorem entry_step_gone :
    (state.step (.unregisterNetSupplier supplierId)).directory.entry supplierId = none := by
  have fewBefore := le_trans (createdSuppliers_le_step wellFormed _) few
  have after := step_wellFormed state (.unregisterNetSupplier supplierId) wellFormed
  obtain ⟨listed, sameId⟩ :=
    (networkOfId_eq_some_iff wellFormed fewBefore supplierId network).mp networkFound
  rw [Option.eq_none_iff_forall_ne_some]
  intro entry kept
  obtain ⟨found, ⟨member, foundId⟩, _⟩ := (entry_eq_some_iff after few _ _).mp kept
  obtain ⟨foundListed, different⟩ :=
    (mem_networks_step_removed networkFound same wellFormed found).mp member
  exact different (Ref.ext (supplierIdAt_injective
    (Nat.lt_of_lt_of_le (listed_lt wellFormed foundListed) fewBefore)
    (Nat.lt_of_lt_of_le (listed_lt wellFormed listed) fewBefore) (foundId.trans sameId.symm)))

/-- The other suppliers keep what is known of them. -/
theorem entry_step_other {other : UInt32} (stays : other ≠ supplierId) :
    (state.step (.unregisterNetSupplier supplierId)).directory.entry other =
      state.directory.entry other := by
  have fewBefore := le_trans (createdSuppliers_le_step wellFormed _) few
  have after := step_wellFormed state (.unregisterNetSupplier supplierId) wellFormed
  have removed :=
    (networkOfId_eq_some_iff wellFormed fewBefore supplierId network).mp networkFound
  have untouched {found : Ref Network} (listed : found ∈ state.networks) :
      (state.step (.unregisterNetSupplier supplierId)).entryOf found = state.entryOf found :=
    (entryOf_step wellFormed fewBefore listed _).trans (ite_self _)
  refine Option.ext fun entry => ?_
  rw [entry_eq_some_iff after few, entry_eq_some_iff wellFormed fewBefore]
  refine exists_congr fun found => ?_
  rw [mem_networks_step_removed networkFound same wellFormed]
  constructor
  · rintro ⟨⟨⟨listed, _⟩, sameId⟩, rfl⟩
    exact ⟨⟨listed, sameId⟩, (untouched listed).symm⟩
  · rintro ⟨⟨listed, sameId⟩, rfl⟩
    refine ⟨⟨⟨listed, ?_⟩, sameId⟩, untouched listed⟩
    rintro rfl
    exact stays (sameId.symm.trans removed.2)

/-- An unregistration that finds its network removes the entry. -/
theorem directory_step_removed :
    (state.step (.unregisterNetSupplier supplierId)).directory =
      state.directory.step (.unregisterNetSupplier supplierId) := by
  have created : (state.step (.unregisterNetSupplier supplierId)).createdSuppliers =
      state.createdSuppliers := by
    have removed := same
    rw [← registry_step] at removed
    exact congrArg (fun registry : Registry => registry.identities.suppliers.size) removed
  refine Directory.ext created (funext fun other => ?_)
  show _ = Function.update state.directory.entry supplierId _ other
  by_cases gone : other = supplierId
  · subst gone
    rw [Function.update_self, entry_step_gone networkFound same wellFormed few]
    cases state.directory.entry other with
    | none => rfl
    | some entry => rfl
  · rw [Function.update_of_ne gone]
    exact entry_step_other networkFound same wellFormed few gone

end Removed

/-! ### Steps that keep the membership -/

section Kept

variable {action : Action}
  (same : (state.registry.step action).membership = state.registry.membership)

include same

theorem createdSuppliers_step_kept :
    (state.step action).createdSuppliers = state.createdSuppliers := by
  rw [← registry_step] at same
  exact congrArg (fun membership : Membership => membership.suppliers.size) same

variable (wellFormed : state.registry.WellFormed)
  (few : (state.step action).createdSuppliers ≤ 2 ^ 32 - 1003)

include wellFormed few

/-- The entry of the id an action names is written to. -/
theorem entry_step_of_kept (supplierId : UInt32) :
    (state.step action).directory.entry supplierId =
      (state.directory.entry supplierId).map fun entry =>
        if action.supplierId? = some supplierId then action.writes entry else entry := by
  have fewBefore := le_trans (createdSuppliers_le_step wellFormed action) few
  have after := step_wellFormed state action wellFormed
  rw [← registry_step] at same
  have networks : (state.step action).networks = state.networks :=
    congrArg Membership.networks same
  refine Option.ext fun entry => ?_
  rw [entry_eq_some_iff after few, Option.map_eq_some_iff, networks]
  constructor
  · rintro ⟨network, ⟨listed, rfl⟩, rfl⟩
    exact ⟨_, (entry_eq_some_iff wellFormed fewBefore _ _).mpr ⟨network, ⟨listed, rfl⟩, rfl⟩,
      (entryOf_step wellFormed fewBefore listed action).symm⟩
  · rintro ⟨old, kept, rfl⟩
    obtain ⟨network, ⟨listed, rfl⟩, rfl⟩ :=
      (entry_eq_some_iff wellFormed fewBefore supplierId old).mp kept
    exact ⟨network, ⟨listed, rfl⟩, entryOf_step wellFormed fewBefore listed action⟩

/-- An action that writes nothing, to the entry it names or because it names none, leaves the
directory as it is. -/
theorem directory_step_unwritten
    (unwritten : action.supplierId? = none ∨ ∀ entry, action.writes entry = entry) :
    (state.step action).directory = state.directory := by
  refine Directory.ext (createdSuppliers_step_kept same) (funext fun other => ?_)
  rw [entry_step_of_kept same wellFormed few]
  have kept : (fun entry => if action.supplierId? = some other then action.writes entry
      else entry) = id := by
    funext entry
    rcases unwritten with none | nothing
    · rw [none]
      exact if_neg (Option.some_ne_none _).symm
    · rw [nothing, ite_self]
      rfl
  rw [kept]
  exact congrFun Option.map_id _

/-- One that writes changes the entry it names. -/
theorem directory_step_written {supplierId : UInt32} {change : SupplierEntry → Option SupplierEntry}
    (named : action.supplierId? = some supplierId)
    (writes : ∀ entry, change entry = some (action.writes entry)) :
    (state.step action).directory = state.directory.change supplierId change :=
  Directory.ext (createdSuppliers_step_kept same) (funext fun other =>
    (entry_step_of_kept same wellFormed few other).trans
      (state.directory.change_written named writes other).symm)

/-- An action that adds and removes nobody writes to entries as the directory does. -/
theorem directory_step_kept
    (known : ∀ netType ident netCapabilities,
      action = .registerNetSupplier netType ident netCapabilities →
        ¬state.registry.Creates netType ident)
    (unknown : ∀ supplierId, action = .unregisterNetSupplier supplierId →
      state.registry.supplierOfId supplierId = none) :
    (state.step action).directory = state.directory.step action := by
  have unwritten := directory_step_unwritten same wellFormed few
  cases action with
  | registerNetSupplier netType ident netCapabilities =>
    rw [unwritten (.inl rfl)]
    refine (if_neg fun creates => known netType ident netCapabilities rfl ?_).symm
    have fewBefore := le_trans (createdSuppliers_le_step wellFormed _) few
    exact (creates_iff wellFormed fewBefore netType ident).mpr creates
  | unregisterNetSupplier supplierId =>
    rw [unwritten (.inr fun _ => rfl)]
    have absent : state.directory.entry supplierId = none := by
      have missing := unknown supplierId rfl
      rw [wellFormed.supplierOfId_eq, Option.map_eq_none_iff] at missing
      exact Option.map_eq_none_iff.mpr missing
    refine Directory.ext rfl (Eq.symm ?_)
    show Function.update state.directory.entry supplierId _ = _
    rw [absent]
    exact Function.update_eq_self_iff.mpr absent.symm
  | updateNetSupplierInfo supplierId netSupplierInfo =>
    cases netSupplierInfo with
    | none => exact unwritten (.inr fun _ => rfl)
    | some netSupplierInfo => exact directory_step_written same wellFormed few rfl fun _ => rfl
  | updateNetLinkInfo supplierId netLinkInfo =>
    cases netLinkInfo with
    | none => exact unwritten (.inr fun _ => rfl)
    | some netLinkInfo => exact directory_step_written same wellFormed few rfl fun _ => rfl
  | updateNetCapabilities supplierId netCapabilities => exact unwritten (.inr fun _ => rfl)
  | registerNetConnCallback callback => exact unwritten (.inl rfl)
  | registerNetConnCallbackBySpecifier netSpecifier callback => exact unwritten (.inl rfl)
  | unregisterNetConnCallback callback => exact unwritten (.inl rfl)
  | unregisterNetConnCallbackBySpecifier netSpecifier callback => exact unwritten (.inl rfl)
  | reConnectServiceTask => exact unwritten (.inl rfl)

end Kept

/-! ### One step -/

/-- Reading the directory commutes with every action. -/
theorem directory_step (wellFormed : state.registry.WellFormed) (action : Action)
    (few : (state.step action).createdSuppliers ≤ 2 ^ 32 - 1003) :
    (state.step action).directory = state.directory.step action := by
  cases wellFormed.change action with
  | enrolled netType ident netCapabilities creates same =>
    exact directory_step_enrolled same wellFormed few creates
  | removed supplierId network supplierFound networkFound same =>
    exact directory_step_removed networkFound same wellFormed few
  | kept _ known unknown same => exact directory_step_kept same wellFormed few known unknown

/-! ### Entries -/

/-- Nothing is kept under the next id. -/
theorem entry_next (wellFormed : state.registry.WellFormed)
    (few : state.createdSuppliers < 2 ^ 32 - 1003) :
    state.directory.entry (supplierIdAt state.createdSuppliers) = none := by
  rw [Option.eq_none_iff_forall_ne_some]
  intro entry kept
  obtain ⟨network, ⟨listed, sameId⟩, _⟩ :=
    (entry_eq_some_iff wellFormed few.le _ _).mp kept
  have small := listed_lt wellFormed listed
  exact absurd (supplierIdAt_injective (small.trans few) few sameId) small.ne

/-- The supplier of an entry. -/
theorem supplier_of_entry (wellFormed : state.registry.WellFormed) {supplierId : UInt32}
    {entry : SupplierEntry} (kept : state.directory.entry supplierId = some entry) :
    ∃ supplier, state.getNetSupplierFromListById supplierId = some supplier ∧
      (state.world.supplier supplier).netSupplierType = entry.type := by
  have corresponding : state.getNetSupplierFromListById supplierId =
      (state.getNetworkFromListBySupplierId supplierId).map _ :=
    wellFormed.supplierOfId_eq supplierId
  obtain ⟨network, found, rfl⟩ := Option.map_eq_some_iff.mp kept
  rw [found] at corresponding
  exact ⟨_, corresponding, rfl⟩

/-- An entry outlives a step that does not name its id. -/
theorem entry_step_of_spared (wellFormed : state.registry.WellFormed)
    {action : Action} (few : (state.step action).createdSuppliers ≤ 2 ^ 31 - 1003)
    {supplierId : UInt32} {entry : SupplierEntry}
    (kept : state.directory.entry supplierId = some entry)
    (spared : action.supplierId? ≠ some supplierId) :
    (state.step action).directory.entry supplierId = some entry := by
  have fewBefore : state.createdSuppliers < 2 ^ 32 - 1003 :=
    lt_of_le_of_lt ((createdSuppliers_le_step wellFormed action).trans few) (by decide)
  rw [directory_step wellFormed action (few.trans (by decide)),
    Directory.entry_step_of_spared ?_ spared, kept]
  rintro rfl
  exact Option.some_ne_none entry (kept.symm.trans (entry_next wellFormed fewBefore))

/-! ### Answers -/

/-- The supplier of an id is found when an entry is kept for the id. -/
theorem codeOf_eq (wellFormed : state.registry.WellFormed) (supplierId : UInt32) :
    state.directory.codeOf supplierId =
      if (state.getNetSupplierFromListById supplierId).isSome then .none else .noSupplier := by
  have corresponding : state.getNetSupplierFromListById supplierId =
      (state.getNetworkFromListBySupplierId supplierId).map _ :=
    wellFormed.supplierOfId_eq supplierId
  unfold Directory.codeOf
  rw [corresponding, Option.isSome_map]
  show (if ((state.getNetworkFromListBySupplierId supplierId).map state.entryOf).isSome then _
    else _) = _
  rw [Option.isSome_map]

/-- A request about an id is answered with the code of the directory. -/
theorem perform_codeOf (wellFormed : state.registry.WellFormed) {action : Action}
    {supplierId : UInt32} (named : action.supplierId? = some supplierId)
    (info : action.hasInfo = true) :
    (state.perform action).1 = (state.directory.codeOf supplierId).code := by
  rw [codeOf_eq wellFormed]
  cases known : state.getNetSupplierFromListById supplierId with
  | none => exact perform_noSupplier state action named info known
  | some supplier =>
    obtain ⟨network, found, _⟩ := getSupplierAndNetwork_registered wellFormed known
    cases action with
    | unregisterNetSupplier id =>
      obtain rfl : id = supplierId := Option.some.inj named
      exact (unregisterNetSupplier_spec state wellFormed id).mpr ⟨supplier, known⟩
    | updateNetSupplierInfo id netSupplierInfo =>
      obtain rfl : id = supplierId := Option.some.inj named
      obtain ⟨netSupplierInfo, rfl⟩ := Option.isSome_iff_exists.mp info
      exact congrArg ResultCode.code (updateNetSupplierInfo_registered wellFormed known _).1
    | updateNetCapabilities id netCapabilities =>
      obtain rfl : id = supplierId := Option.some.inj named
      show (state.updateNetCapabilities id netCapabilities).1.code = _
      unfold updateNetCapabilities
      rw [found]
      rfl
    | updateNetLinkInfo id netLinkInfo =>
      obtain rfl : id = supplierId := Option.some.inj named
      obtain ⟨netLinkInfo, rfl⟩ := Option.isSome_iff_exists.mp info
      show (state.updateNetLinkInfo id (some netLinkInfo)).1.code = _
      unfold updateNetLinkInfo
      dsimp only
      rw [found]
      rfl
    | _ => cases named

/-- What an action returns is an answer of the directory. -/
theorem directory_answers (wellFormed : state.registry.WellFormed) (action : Action)
    (few : (state.step action).createdSuppliers ≤ 2 ^ 32 - 1003) :
    state.directory.Answers action (state.perform action).1 := by
  cases action with
  | registerNetSupplier netType ident netCapabilities =>
    constructor
    · intro invalid
      show (state.registerNetSupplier netType ident netCapabilities).1 = _
      unfold registerNetSupplier
      rw [if_pos (not_not.mp invalid)]
    · intro valid
      obtain ⟨supplier, listed, key, returned, _⟩ :=
        registerNetSupplier_spec state netType ident netCapabilities valid
      have after := step_wellFormed state (.registerNetSupplier netType ident netCapabilities)
        wellFormed
      obtain ⟨network, networkListed, held⟩ := after.exists_network listed
      have holder : ((state.step (.registerNetSupplier netType ident
          netCapabilities)).world.network network).supplier = supplier := held
      have id := networkSupplierId_listed after networkListed
      unfold networkSupplierId at id
      rw [holder] at id
      refine ⟨supplierIdAt network.address,
        (state.step (.registerNetSupplier netType ident netCapabilities)).entryOf network, ?_, ?_,
        returned.trans (congrArg asInt32 id)⟩
      · rw [← directory_step wellFormed _ few]
        exact (entry_eq_some_iff after few _ _).mpr ⟨network, ⟨networkListed, rfl⟩, rfl⟩
      · unfold SupplierEntry.key entryOf
        rw [holder]
        exact key
  | unregisterNetSupplier supplierId => exact perform_codeOf wellFormed rfl rfl
  | updateNetCapabilities supplierId netCapabilities => exact perform_codeOf wellFormed rfl rfl
  | updateNetSupplierInfo supplierId netSupplierInfo =>
    cases netSupplierInfo with
    | none => rfl
    | some netSupplierInfo => exact perform_codeOf wellFormed rfl rfl
  | updateNetLinkInfo supplierId netLinkInfo =>
    cases netLinkInfo with
    | none => rfl
    | some netLinkInfo => exact perform_codeOf wellFormed rfl rfl
  | _ => trivial

/-! ### Every run -/

theorem createdSuppliers_le_run (wellFormed : state.registry.WellFormed) (actions : List Action) :
    state.createdSuppliers ≤ (run step state actions).createdSuppliers :=
  (precedes_run wellFormed actions).size

theorem directory_run_from (wellFormed : state.registry.WellFormed) (actions : List Action)
    (few : (run step state actions).createdSuppliers ≤ 2 ^ 32 - 1003) :
    (run step state actions).directory = run Directory.step state.directory actions := by
  induction actions generalizing state with
  | nil => rfl
  | cons action rest inductionHypothesis =>
    have after := step_wellFormed state action wellFormed
    rw [run_cons] at few ⊢
    rw [inductionHypothesis after few, run_cons, directory_step wellFormed action
      (le_trans (createdSuppliers_le_run after rest) few)]

/-- As long as the counter of ids does not wrap, a run of the service is a run of the directory,
and every action of the run returns what the directory answers at that moment. -/
theorem directory_run (answers : Nat → Int) (actions : List Action)
    (few : (run step (start answers) actions).createdSuppliers ≤ 2 ^ 32 - 1003) :
    (run step (start answers) actions).directory = run Directory.step .empty actions ∧
      ∀ before action after, actions = before ++ action :: after →
        (run Directory.step .empty before).Answers action
          (returned (start answers) before action) := by
  have started : (start answers).directory = .empty := rfl
  refine ⟨started ▸ directory_run_from (start_wellFormed answers) actions few, ?_⟩
  rintro before action after rfl
  rw [run_append, run_cons] at few
  have reached := run_wellFormed answers before
  have stepped := step_wellFormed _ action reached
  have fewStepped := le_trans (createdSuppliers_le_run stepped after) few
  rw [← started, ← directory_run_from (start_wellFormed answers) before
    (le_trans (createdSuppliers_le_step reached action) fewStepped)]
  exact directory_answers reached action fewStepped

/-- Two suppliers are registered, one is updated and the other one is unregistered. -/
theorem directory_run_example :
    let actions : List Action := [.registerNetSupplier 2 "eth0" 1, .registerNetSupplier 1 "slot0" 3,
      .updateNetSupplierInfo 1003 (some { isAvailable := true }), .unregisterNetSupplier 1004]
    (run step (start fun _ => 1) actions).directory = run Directory.step .empty actions := by
  intro actions
  exact (directory_run (fun _ => 1) actions (by decide)).1

end NetConnService

end NetManager
