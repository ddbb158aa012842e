/-
This file runs registrations at the same time. `RegisterNetSupplier` searches the list of
suppliers, and only then creates the supplier, its network and its services and appends them; the
service takes no lock around the two. So a registration is a request in two steps in the sense of
`Library.CheckThenAct`, and two registrations with one type and ident create two suppliers exactly
when one searches the list between the two steps of the other.
-/

import NetManager.Library.CheckThenAct
import NetManager.Conn.Membership

namespace NetManager

open Library

/-- The arguments of `RegisterNetSupplier`. -/
structure SupplierRequest where
  netType : UInt32
  ident : String
  netCapabilities : UInt64

/-- What a request searches for. -/
def SupplierRequest.key (request : SupplierRequest) : Option (UInt32 × String) :=
  if request.netType ≥ NetworkType.max.code ∨ request.netType ≤ NetworkType.unknown.code then none
  else some (request.netType, request.ident)

namespace NetConnService

/-! ### The two steps -/

/-- The first part of `RegisterNetSupplier`, up to `GetNetSupplierFromList`: what it returns if it
returns there. -/
def searchSupplier (state : NetConnService) (request : SupplierRequest) : Option Int :=
  if request.netType ≥ NetworkType.max.code ∨ request.netType ≤ NetworkType.unknown.code then
    some ResultCode.invalidNetorkType.code
  else
    (state.getNetSupplierFromList request.netType request.ident).map fun supplier =>
      asInt32 (state.world.supplier supplier).supplierId

/-- The rest of `RegisterNetSupplier`. -/
def insertSupplier (state : NetConnService) (request : SupplierRequest) : Int × NetConnService :=
  let supplier := state.world.supplierHeap.fresh
  let registered := (state.createSupplier (NetworkType.ofCode request.netType) request.ident
    request.netCapabilities).connectDefaultService
  (asInt32 (registered.world.supplier supplier).supplierId, registered)

/-- A registration is its two parts, when nothing comes between them. -/
theorem registerNetSupplier_eq (state : NetConnService) (request : SupplierRequest) :
    state.registerNetSupplier request.netType request.ident request.netCapabilities =
      match state.searchSupplier request with
      | some answer => (answer, state)
      | none => state.insertSupplier request := by
  unfold registerNetSupplier searchSupplier
  split
  · rfl
  · cases state.getNetSupplierFromList request.netType request.ident with
    | some supplier => rfl
    | none => rfl

/-- What a search looks for. -/
def supplierKey (state : NetConnService) (supplier : Ref NetSupplier) : UInt32 × String :=
  ((state.world.supplier supplier).netSupplierType.code,
    (state.world.supplier supplier).netSupplierIdent)

/-- The listed suppliers: what they are found by, and the id they are known by. -/
def supplierEntries (state : NetConnService) : List ((UInt32 × String) × Int) :=
  state.netSupplier.map fun supplier =>
    (state.supplierKey supplier, asInt32 (state.world.supplier supplier).supplierId)

/-- Every listed supplier was constructed. -/
def SuppliersAllocated (state : NetConnService) : Prop :=
  ∀ supplier ∈ state.netSupplier, state.registry.identities.suppliers.Allocated supplier

theorem searchSupplier_entries (state : NetConnService) (request : SupplierRequest)
    {key : UInt32 × String} (own : request.key = some key) :
    state.searchSupplier request =
      (state.supplierEntries.find? fun entry => entry.1 = key).map Prod.snd := by
  unfold SupplierRequest.key at own
  unfold searchSupplier
  split at own
  · cases own
  · rename_i valid
    rw [if_neg valid]
    obtain rfl := Option.some.inj own
    unfold supplierEntries getNetSupplierFromList
    rw [List.find?_map, Option.map_map]
    refine congrArg (Option.map _) (congrArg (fun test => List.find? test _) ?_)
    funext supplier
    show _ = decide (state.supplierKey supplier = (request.netType, request.ident))
    rw [Bool.eq_iff_iff, decide_eq_true_iff, Bool.and_eq_true, beq_iff_eq, beq_iff_eq]
    unfold supplierKey
    rw [Prod.mk.injEq, eq_comm, eq_comm (a := request.ident)]

/-- The identities and the list after an insertion. -/
theorem membership_insert (state : NetConnService) (request : SupplierRequest) :
    (state.insertSupplier request).2.registry.membership =
      (state.registry.enroll (NetworkType.ofCode request.netType) request.ident).membership := by
  unfold insertSupplier
  dsimp only
  rw [registry_connectDefaultService, registry_createSupplier]
  exact Registry.membership_createServices _ _ _ _ _

/-- A listed supplier keeps its identity. -/
theorem supplier_insert {state : NetConnService} (request : SupplierRequest)
    {supplier : Ref NetSupplier}
    (allocated : state.registry.identities.suppliers.Allocated supplier) :
    (state.insertSupplier request).2.registry.supplier supplier =
      state.registry.supplier supplier := by
  have same : (state.insertSupplier request).2.registry.supplier supplier =
      (state.registry.enroll _ request.ident).supplier supplier :=
    congrArg (fun membership => membership.suppliers.cell supplier)
      (state.membership_insert request)
  rw [same, Registry.supplier_enroll _ _ _ allocated]

/-- The new supplier has the type and the ident of the request. -/
theorem supplier_insert_fresh (state : NetConnService) (request : SupplierRequest) :
    (state.insertSupplier request).2.registry.supplier state.world.supplierHeap.fresh =
      state.registry.identities.newSupplier (NetworkType.ofCode request.netType)
        request.ident := by
  have same : (state.insertSupplier request).2.registry.supplier state.world.supplierHeap.fresh =
      (state.registry.enroll _ request.ident).supplier state.world.supplierHeap.fresh :=
    congrArg (fun membership => membership.suppliers.cell state.world.supplierHeap.fresh)
      (state.membership_insert request)
  rw [same]
  exact Registry.supplier_enroll_fresh _ _ _

theorem netSupplier_insert (state : NetConnService) (request : SupplierRequest) :
    (state.insertSupplier request).2.netSupplier =
      state.netSupplier ++ [state.world.supplierHeap.fresh] :=
  congrArg Membership.netSupplier (state.membership_insert request)

/-- The suppliers after an insertion: one more, with the key of the request and the id that the
request returns. -/
theorem supplierEntries_insert (state : NetConnService) (allocated : state.SuppliersAllocated)
    (request : SupplierRequest) {key : UInt32 × String}
    (own : request.key = some key) :
    (state.insertSupplier request).2.supplierEntries =
      state.supplierEntries ++ [(key, (state.insertSupplier request).1)] := by
  unfold supplierEntries
  rw [netSupplier_insert, List.map_append, List.map_singleton]
  refine congrArg₂ (· ++ ·) (List.map_congr_left fun supplier listed => ?_) ?_
  · have kept := supplier_insert request (allocated supplier listed)
    exact congrArg (fun identity : SupplierIdentity =>
      ((identity.type.code, identity.ident), asInt32 identity.supplierId)) kept
  · unfold SupplierRequest.key at own
    split at own
    · cases own
    · rename_i valid
      obtain rfl := Option.some.inj own
      have created := state.supplier_insert_fresh request
      refine congrArg (fun key => [(key, (state.insertSupplier request).1)]) (Prod.ext ?_ ?_)
      · refine (congrArg (fun identity : SupplierIdentity => identity.type.code) created).trans ?_
        exact NetworkType.code_ofCode valid
      · exact congrArg SupplierIdentity.ident created

theorem suppliersAllocated_insert (state : NetConnService) (request : SupplierRequest)
    (allocated : state.SuppliersAllocated) :
    (state.insertSupplier request).2.SuppliersAllocated := by
  have heap : (state.insertSupplier request).2.registry.identities.suppliers =
      state.registry.identities.suppliers.alloc _ :=
    congrArg Membership.suppliers (state.membership_insert request)
  intro supplier listed
  rw [netSupplier_insert] at listed
  rw [heap]
  rcases List.mem_append.mp listed with old | new
  · exact Heap.allocated_alloc _ _ (allocated supplier old)
  · rw [List.mem_singleton.mp new]
    exact Heap.allocated_fresh _ _

/-! ### Requests in flight -/

/-- `RegisterNetSupplier` as a check and an act. -/
def registration : CheckThenAct NetConnService SupplierRequest (UInt32 × String) Int where
  check := searchSupplier
  act := insertSupplier
  key := SupplierRequest.key
  refusal := ResultCode.invalidNetorkType.code
  entries := supplierEntries
  Valid := SuppliersAllocated
  check_refused := by
    intro state request refused
    unfold SupplierRequest.key at refused
    unfold searchSupplier
    split at refused
    · rename_i invalid
      exact if_pos invalid
    · cases refused
  check_entries := fun state request _ own => state.searchSupplier_entries request own
  valid_act := suppliersAllocated_insert
  entries_act := fun state request _ allocated own =>
    state.supplierEntries_insert allocated request own

/-- There is at most one supplier for a type and an ident. -/
def OneSupplier (state : NetConnService) : Prop :=
  (state.netSupplier.map state.supplierKey).Nodup

/-- Requests with one type and one ident return one number. -/
def SameAnswers {Thread : Type} (requests : Thread → SupplierRequest)
    (state : InFlight NetConnService Thread Int) : Prop :=
  ∀ first second one other, (requests first).netType = (requests second).netType →
    (requests first).ident = (requests second).ident →
      state.progress first = .answered one → state.progress second = .answered other →
        one = other

/-- A request searches the list when no other request for the same has searched it in vain and not
yet inserted its supplier. -/
def SearchesAlone {Thread : Type} (requests : Thread → SupplierRequest)
    (state : InFlight NetConnService Thread Int) (thread : Thread) : Prop :=
  state.progress thread = .waiting → ∀ other, state.progress other = .missed →
    (requests other).key ≠ (requests thread).key

theorem oneSupplier_iff (state : NetConnService) :
    state.OneSupplier ↔ (registration.keys state).Nodup := by
  unfold OneSupplier CheckThenAct.keys
  show _ ↔ ((state.netSupplier.map _).map Prod.fst).Nodup
  rw [List.map_map]
  rfl

/-- A well-formed registry lists constructed suppliers, no two of them for one type and ident. -/
theorem oneSupplier_of_wellFormed {state : NetConnService}
    (wellFormed : state.registry.WellFormed) : state.OneSupplier := by
  have codes : Function.Injective NetworkType.code := by
    intro first second
    cases first <;> cases second <;> decide
  have mapped := wellFormed.keys.map (codes.prodMap Function.injective_id)
  rwa [List.map_map] at mapped

/-- Registrations in flight, from any state a run reaches: when all have returned, there is at most
one supplier for a type and an ident and requests with one type and ident returned one id, exactly
when no request searched the list while another one for the same was between its two steps. -/
theorem concurrent_registrations_iff {Thread : Type} [DecidableEq Thread] (answers : Nat → Int)
    (actions : List Action) (requests : Thread → SupplierRequest) (schedule : List Thread)
    (finished : ∀ thread, ∃ answer, (run (registration.step requests)
      (CheckThenAct.begin (run step (start answers) actions)) schedule).progress thread =
        .answered answer) :
    ((run (registration.step requests) (CheckThenAct.begin (run step (start answers) actions))
        schedule).shared.OneSupplier ∧
      SameAnswers requests (run (registration.step requests)
        (CheckThenAct.begin (run step (start answers) actions)) schedule)) ↔
      Guarded (registration.step requests) (SearchesAlone requests)
        (CheckThenAct.begin (run step (start answers) actions)) schedule := by
  have wellFormed := run_wellFormed answers actions
  have valid : registration.Valid (run step (start answers) actions) :=
    fun supplier listed => wellFormed.supplier_allocated listed
  have distinct := (oneSupplier_iff _).mp (oneSupplier_of_wellFormed wellFormed)
  have sound := run_invariant (registration.step requests) (registration.Sound requests)
    (fun _ thread sound => sound.step thread) (CheckThenAct.sound_begin valid) schedule
  refine Iff.trans ?_ (CheckThenAct.distinct_run_iff valid distinct schedule finished)
  rw [oneSupplier_iff]
  refine and_iff_left_of_imp fun keys first second one other sameType sameIdent => ?_
  refine sound.agree keys ?_
  show (requests first).key = (requests second).key
  unfold SupplierRequest.key
  rw [sameType, sameIdent]

/-- Two registrations for one type and ident, one after the other. -/
theorem registrations_in_turn :
    let requests : Bool → SupplierRequest := fun _ => ⟨2, "eth0", 0⟩
    let ended := run (registration.step requests)
      (CheckThenAct.begin (run step (start fun _ => 0) [])) [false, false, true]
    ended.shared.OneSupplier ∧ SameAnswers requests ended := by
  intro requests ended
  refine (concurrent_registrations_iff (fun _ => 0) [] requests [false, false, true] ?_).mpr ?_
  · rintro (_ | _)
    · exact ⟨1003, by decide⟩
    · exact ⟨1003, by decide⟩
  · refine (guarded_cons _ _ _ _ _).mpr ⟨fun _ other missed => ?_,
      (guarded_cons _ _ _ _ _).mpr ⟨fun waiting => ?_,
        (guarded_cons _ _ _ _ _).mpr ⟨fun _ other missed => ?_, guarded_nil _ _ _⟩⟩⟩
    · cases missed
    · exact absurd waiting (by decide)
    · revert missed
      cases other <;> decide

/-- Both registrations search the list before either of them inserts its supplier: there are two
suppliers with the ids 1003 and 1004. -/
theorem overlapping_registrations_differ :
    let requests : Bool → SupplierRequest := fun _ => ⟨2, "eth0", 0⟩
    let ended := run (registration.step requests)
      (CheckThenAct.begin (run step (start fun _ => 0) [])) [false, true, false, true]
    ended.progress false = .answered 1003 ∧ ended.progress true = .answered 1004 ∧
      ¬ ended.shared.OneSupplier ∧ ¬ SameAnswers requests ended := by
  intro requests ended
  have first : ended.progress false = .answered 1003 := by decide
  have second : ended.progress true = .answered 1004 := by decide
  refine ⟨first, second, fun one => ?_, fun same => ?_⟩
  · exact absurd (show (ended.shared.netSupplier.map ended.shared.supplierKey).Nodup from one)
      (by decide)
  · exact absurd (same false true 1003 1004 rfl rfl first second) (by decide)

end NetConnService

end NetManager
