/-
This file proves that nothing a device says is lost, said twice or mixed up. Whatever other clients
do in between, what the connection service keeps for an interface is what the calls say that were
made for it, up to those that are still under way, and in the order in which they were made. The
entries of Ethernet suppliers and the devices of the manager correspond.

The invariant gives every device the id of an entry, and splits its calls into those that have
arrived and those under way. A step of the system concerns one device, or none: the calls of the
others name other ids, because no two entries have one key.
-/

import NetManager.System.EthernetSystem

namespace NetManager

open Library DevInterfaceState EthernetManagement

/-! ### What calls say -/

/-- What a call makes of the entry of its device. -/
def DeviceCall.tells (call : DeviceCall) (entry : SupplierEntry) : SupplierEntry :=
  match call with
  | .updateNetSupplierInfo _ netSupplierInfo => { entry with status := netSupplierInfo.status }
  | .updateNetLinkInfo _ linkInfo => { entry with netLinkInfo := linkInfo }
  | _ => entry

/-- What calls make of the entry that an interface is registered with. -/
def entryAfter (dev : String) (calls : List DeviceCall) : SupplierEntry :=
  calls.foldl (fun entry call => call.tells entry) { type := .ethernet, ident := dev }

theorem entryAfter_concat (dev : String) (calls : List DeviceCall) (call : DeviceCall) :
    entryAfter dev (calls ++ [call]) = call.tells (entryAfter dev calls) :=
  List.foldl_concat _ _ _ _

/-- Calls leave the key. -/
theorem key_entryAfter (dev : String) (calls : List DeviceCall) :
    (entryAfter dev calls).key = (.ethernet, dev) := by
  induction calls using List.reverseRecOn with
  | nil => rfl
  | append_singleton calls call inductionHypothesis =>
    rw [entryAfter_concat]
    exact (by cases call <;> rfl : (call.tells _).key = (entryAfter dev calls).key).trans
      inductionHypothesis

/-- The id of a request is the id that the call names. -/
theorem ofInt_asInt32 (supplierId : UInt32) : UInt32.ofInt (asInt32 supplierId) = supplierId := by
  have value : (asInt32 supplierId % 2 ^ 32).toNat = supplierId.toNat :=
    (BitVec.toNat_ofInt _).symm.trans (congrArg BitVec.toNat BitVec.ofInt_toInt)
  show UInt32.ofNat (asInt32 supplierId % 2 ^ 32).toNat = supplierId
  rw [value, UInt32.ofNat_toNat]

/-- What a call makes of an entry is what its request writes. -/
theorem DeviceCall.request_cases (call : DeviceCall) :
    (call.request = none ∧ ∀ entry, call.tells entry = entry) ∨
      ∃ netSupplier action, SentCall.supplierId ⟨.registered, none, call⟩ = some netSupplier ∧
        call.request = some action ∧ action.supplierId? = some (UInt32.ofInt netSupplier) ∧
        ∀ entry, call.tells entry = action.writes entry := by
  cases call with
  | updateNetSupplierInfo netSupplier netSupplierInfo =>
    exact .inr ⟨netSupplier, _, rfl, rfl, rfl, fun _ => rfl⟩
  | updateNetLinkInfo netSupplier linkInfo =>
    exact .inr ⟨netSupplier, _, rfl, rfl, rfl, fun _ => rfl⟩
  | _ => exact .inl ⟨rfl, fun _ => rfl⟩

namespace EthernetSystem

/-! ### The invariant -/

/-- The device has an id, and what is kept under it is what the calls say that have arrived. The
others are under way. -/
structure Attached (this : EthernetSystem) (dev : String) (devState : DevInterfaceState)
    (supplierId : UInt32) : Prop where
  registered : RegisteredWith (asInt32 supplierId) devState
  valid : minimumSupplierId < asInt32 supplierId
  kept : ∃ arrived, arrived ++ this.underWayFor dev = devState.sent.map SentCall.call ∧
    this.connection.directory.entry supplierId = some (entryAfter dev arrived)

/-- What holds of the system at every moment. -/
structure Connected (this : EthernetSystem) : Prop where
  wellFormed : this.connection.registry.WellFormed
  devices : ∀ dev devState, this.ethernet.devs.read dev = some devState →
    ∃ supplierId, this.Attached dev devState supplierId
  entries : ∀ supplierId entry, this.connection.directory.entry supplierId = some entry →
    entry.type = .ethernet → ∃ devState, this.ethernet.devs.read entry.ident = some devState ∧
      this.Attached entry.ident devState supplierId
  distinct : this.linkInfos.Pairwise fun first second =>
    first.iface = "" ∨ first.iface ≠ second.iface
  unknown : ∀ info ∈ this.linkInfos, info.iface ≠ "" →
    this.ethernet.devs.read info.iface = none
  known : ∀ call ∈ this.underWay, this.ethernet.devs.read call.1 ≠ none

variable {this : EthernetSystem}

/-- No two devices have one id. -/
theorem Attached.same {dev other : String} {devState otherState : DevInterfaceState}
    {supplierId : UInt32} (attached : this.Attached dev devState supplierId)
    (otherAttached : this.Attached other otherState supplierId) : dev = other := by
  obtain ⟨arrived, _, kept⟩ := attached.kept
  obtain ⟨otherArrived, _, otherKept⟩ := otherAttached.kept
  have same := congrArg SupplierEntry.key (Option.some.inj (kept.symm.trans otherKept))
  rw [key_entryAfter, key_entryAfter] at same
  exact (Prod.mk.inj same).2

/-- A call that names a supplier names that of its device. -/
theorem Attached.request {dev : String} {devState : DevInterfaceState} {supplierId : UInt32}
    (attached : this.Attached dev devState supplierId) {call : DeviceCall}
    (underWay : call ∈ this.underWayFor dev) {action : NetConnService.Action}
    (request : call.request = some action) :
    action.supplierId? = some supplierId ∧ ∀ entry, call.tells entry = action.writes entry := by
  obtain ⟨arrived, split, _⟩ := attached.kept
  have made : call ∈ devState.sent.map SentCall.call := by
    rw [← split]
    exact List.mem_append_right _ underWay
  obtain ⟨sent, member, rfl⟩ := List.mem_map.mp made
  rcases sent.call.request_cases with ⟨none, _⟩ | ⟨netSupplier, found, named, same, id, tells⟩
  · rw [none] at request
    cases request
  · obtain rfl := Option.some.inj (same.symm.trans request)
    have own := attached.registered.own netSupplier
      (List.mem_filterMap.mpr ⟨sent, member, named⟩)
    rw [own, ofInt_asInt32] at id
    exact ⟨id, tells⟩

/-- A device stays attached when its calls under way stay and its entry does. -/
theorem Attached.congr {after : EthernetSystem} {dev : String} {devState : DevInterfaceState}
    {supplierId : UInt32} (attached : this.Attached dev devState supplierId)
    (underWay : after.underWayFor dev = this.underWayFor dev)
    (entry : ∀ entry, this.connection.directory.entry supplierId = some entry →
      after.connection.directory.entry supplierId = some entry) :
    after.Attached dev devState supplierId := by
  obtain ⟨arrived, split, kept⟩ := attached.kept
  exact ⟨attached.registered, attached.valid, arrived, underWay ▸ split, entry _ kept⟩

/-! ### Other clients -/

/-- What other clients do keeps the devices and their entries together. -/
theorem Connected.client (connected : this.Connected) {action : NetConnService.Action}
    (few : (this.connection.step action).createdSuppliers ≤ 2 ^ 31 - 1003)
    (leaves : this.LeavesEthernet (.client action)) : (this.step (.client action)).Connected := by
  have still {dev : String} {devState : DevInterfaceState} {supplierId : UInt32}
      (attached : this.Attached dev devState supplierId) :
      (this.step (.client action)).Attached dev devState supplierId := by
    refine attached.congr rfl fun entry kept => ?_
    refine NetConnService.entry_step_of_spared connected.wellFormed few kept fun named => ?_
    obtain ⟨arrived, _, own⟩ := attached.kept
    obtain ⟨supplier, found, type⟩ :=
      NetConnService.supplier_of_entry connected.wellFormed own
    exact leaves.2 supplierId supplier named found
      (type.trans (Prod.mk.inj (key_entryAfter dev arrived)).1)
  refine ⟨NetConnService.step_wellFormed _ action connected.wellFormed, ?_, ?_,
    connected.distinct, connected.unknown, connected.known⟩
  · intro dev devState known
    obtain ⟨supplierId, attached⟩ := connected.devices dev devState known
    exact ⟨supplierId, still attached⟩
  · intro supplierId entry kept type
    have stepped : (this.connection.directory.step action).entry supplierId = some entry := by
      rw [← NetConnService.directory_step connected.wellFormed action (few.trans (by decide))]
      exact kept
    rcases Directory.entry_step_cases stepped with ⟨old, before, key⟩ | ⟨netType, ident,
      netCapabilities, same, valid, _, rfl⟩
    · obtain ⟨sameType, sameIdent⟩ := Prod.mk.inj key
      obtain ⟨devState, known, attached⟩ :=
        connected.entries supplierId old before (sameType.symm.trans type)
      rw [sameIdent]
      exact ⟨devState, known, still attached⟩
    · have code := NetworkType.code_ofCode valid
      rw [show NetworkType.ofCode netType = .ethernet from type] at code
      exact absurd code.symm (leaves.1 netType ident netCapabilities same)

/-! ### A call arrives -/

/-- An entry after a request for its id. -/
theorem entry_request {directory : Directory} {call : DeviceCall}
    {action : NetConnService.Action} (request : call.request = some action)
    {supplierId : UInt32} (named : action.supplierId? = some supplierId) {entry : SupplierEntry}
    (kept : directory.entry supplierId = some entry) :
    (directory.step action).entry supplierId = some (call.tells entry) := by
  have changed (change : SupplierEntry → Option SupplierEntry) :
      (directory.change supplierId change).entry supplierId = change entry := by
    have at_id : (directory.change supplierId change).entry supplierId =
        (directory.entry supplierId).bind change := Function.update_self _ _ _
    rw [at_id, kept, Option.bind_some]
  cases call with
  | updateNetSupplierInfo netSupplier netSupplierInfo =>
    obtain rfl := Option.some.inj request
    obtain rfl : UInt32.ofInt netSupplier = supplierId := Option.some.inj named
    exact changed _
  | updateNetLinkInfo netSupplier linkInfo =>
    obtain rfl := Option.some.inj request
    obtain rfl : UInt32.ofInt netSupplier = supplierId := Option.some.inj named
    exact changed _
  | _ => cases request

/-- What a call does to the service. -/
def receive (connection : NetConnService) (call : DeviceCall) : NetConnService :=
  call.request.elim connection connection.step

/-- A call registers nobody, so every entry was there before it. -/
theorem entry_receive {connection : NetConnService} (wellFormed : connection.registry.WellFormed)
    {call : DeviceCall} (few : (receive connection call).createdSuppliers ≤ 2 ^ 31 - 1003)
    {supplierId : UInt32} {entry : SupplierEntry}
    (kept : (receive connection call).directory.entry supplierId = some entry) :
    ∃ old, connection.directory.entry supplierId = some old ∧ entry.key = old.key := by
  unfold receive at few kept
  cases request : call.request with
  | none =>
    rw [request] at kept
    exact ⟨entry, kept, rfl⟩
  | some action =>
    rw [request, Option.elim_some] at few kept
    rw [NetConnService.directory_step wellFormed action (few.trans (by decide))] at kept
    rcases Directory.entry_step_cases kept with old | ⟨netType, ident, netCapabilities, rfl, _⟩
    · exact old
    · cases call <;> cases request

/-- What is under way for an interface when a call was under way first. -/
theorem underWayFor_cons {dev : String} {call : DeviceCall} {rest : List (String × DeviceCall)}
    (first : this.underWay = (dev, call) :: rest) (other : String) :
    this.underWayFor other = (if dev = other then [call] else []) ++
      { this with underWay := rest }.underWayFor other := by
  unfold underWayFor
  rw [first]
  by_cases here : dev = other
  · rw [List.filter_cons_of_pos (by simpa using here), if_pos here]
    rfl
  · rw [List.filter_cons_of_neg (by simpa using here), if_neg here]
    rfl

/-- A call that arrives changes the entry of its device, and no other one. -/
theorem Connected.arrives (connected : this.Connected) {dev : String} {call : DeviceCall}
    {rest : List (String × DeviceCall)} (first : this.underWay = (dev, call) :: rest)
    (few : (receive this.connection call).createdSuppliers ≤ 2 ^ 31 - 1003) :
    { this with
      underWay := rest, connection := receive this.connection call }.Connected := by
  have member : (dev, call) ∈ this.underWay := by
    rw [first]
    exact List.mem_cons_self
  obtain ⟨caller, calling⟩ := Option.ne_none_iff_exists'.mp (connected.known _ member)
  obtain ⟨callerId, callerAttached⟩ := connected.devices dev caller calling
  have makes : call ∈ this.underWayFor dev := by
    rw [underWayFor_cons first dev, if_pos rfl]
    exact List.mem_cons_self
  have still {other : String} {devState : DevInterfaceState} {supplierId : UInt32}
      (attached : this.Attached other devState supplierId) :
      { this with underWay := rest, connection := receive this.connection call }.Attached other
        devState supplierId := by
    obtain ⟨arrived, split, kept⟩ := attached.kept
    rw [underWayFor_cons first other] at split
    unfold receive at few ⊢
    by_cases here : dev = other
    · subst here
      rw [if_pos rfl, ← List.append_assoc] at split
      refine ⟨attached.registered, attached.valid, arrived ++ [call], split, ?_⟩
      rw [entryAfter_concat]
      cases request : call.request with
      | none =>
        rcases call.request_cases with ⟨_, tells⟩ | ⟨_, _, _, same, _⟩
        · rw [tells]
          exact kept
        · exact absurd (request.symm.trans same) (Option.some_ne_none _).symm
      | some action =>
        rw [request, Option.elim_some] at few
        show (this.connection.step action).directory.entry supplierId = _
        rw [NetConnService.directory_step connected.wellFormed action (few.trans (by decide))]
        exact entry_request request (attached.request makes request).1 kept
    · rw [if_neg here, List.nil_append] at split
      refine ⟨attached.registered, attached.valid, arrived, split, ?_⟩
      cases request : call.request with
      | none => exact kept
      | some action =>
        rw [request, Option.elim_some] at few
        refine NetConnService.entry_step_of_spared connected.wellFormed few kept fun named => ?_
        have own := (callerAttached.request makes request).1
        obtain rfl := Option.some.inj (own.symm.trans named)
        exact here (callerAttached.same attached)
  refine ⟨?_, ?_, ?_, connected.distinct, connected.unknown, ?_⟩
  · show (receive this.connection call).registry.WellFormed
    unfold receive
    cases call.request with
    | none => exact connected.wellFormed
    | some action => exact NetConnService.step_wellFormed _ action connected.wellFormed
  · intro other devState known
    obtain ⟨supplierId, attached⟩ := connected.devices other devState known
    exact ⟨supplierId, still attached⟩
  · intro supplierId entry kept type
    obtain ⟨old, before, key⟩ := entry_receive connected.wellFormed few kept
    obtain ⟨sameType, sameIdent⟩ := Prod.mk.inj key
    obtain ⟨devState, known, attached⟩ :=
      connected.entries supplierId old before (sameType.symm.trans type)
    rw [sameIdent]
    exact ⟨devState, known, still attached⟩
  · intro other mem
    exact connected.known other (by rw [first]; exact List.mem_cons_of_mem _ mem)

/-! ### The manager acts -/

/-- What a device says in one step is under way then. -/
theorem callsBetween_deviceStep (dev : String) (devState : DevInterfaceState)
    (action : EthernetManagement.Action) :
    devState.sent.map SentCall.call ++ callsBetween devState (deviceStep dev devState action) =
      (deviceStep dev devState action).sent.map SentCall.call := by
  obtain ⟨calls, appended, _⟩ := (deviceStep_namesOwn dev devState action).sent
  unfold callsBetween
  rw [appended, List.drop_left, List.map_append]

/-- Calls made for one interface are under way for that one only. -/
theorem underWayFor_of_map {dev : String} {calls : List DeviceCall}
    (same : this.underWay = calls.map (dev, ·)) (other : String) :
    this.underWayFor other = if dev = other then calls else [] := by
  unfold underWayFor
  rw [same]
  split
  · rename_i here
    have all : (calls.map (dev, ·)).filter (fun call => call.1 = other) = calls.map (dev, ·) := by
      refine List.filter_eq_self.mpr fun call member => ?_
      obtain ⟨_, _, rfl⟩ := List.mem_map.mp member
      exact decide_eq_true here
    rw [all, List.map_map]
    exact List.map_id' calls
  · rename_i elsewhere
    refine List.map_eq_nil_iff.mpr (List.filter_eq_nil_iff.mpr fun call member held => ?_)
    obtain ⟨_, _, rfl⟩ := List.mem_map.mp member
    exact elsewhere (of_decide_eq_true held)

/-- What is under way for a device when the manager has acted. -/
theorem underWayFor_act (action : EthernetManagement.Action) {dev : String}
    {devState : DevInterfaceState} (known : this.ethernet.devs.read dev = some devState) :
    (this.act action).underWayFor dev =
      callsBetween devState (deviceStep dev devState action) := by
  by_cases about : action.iface = dev
  · subst about
    have after := this.ethernet.read_step action action.iface
    rw [known, Option.map_some] at after
    have calls : (this.act action).underWay = (callsBetween devState
        (deviceStep action.iface devState action)).map (action.iface, ·) := by
      unfold act
      dsimp only
      rw [known, after]
    rw [underWayFor_of_map calls, if_pos rfl]
  · rw [deviceStep_other about]
    have unchanged : callsBetween devState devState = [] := by
      unfold callsBetween
      rw [List.drop_length, List.map_nil]
    have calls : ∃ made : List DeviceCall,
        (this.act action).underWay = made.map (action.iface, ·) := by
      unfold act
      dsimp only
      split
      · exact ⟨_, rfl⟩
      · exact ⟨[], rfl⟩
    obtain ⟨made, calls⟩ := calls
    rw [underWayFor_of_map calls, if_neg about, unchanged]

/-- The manager acts on one device, whose calls are under way then. -/
theorem Connected.acts (connected : this.Connected) (idle : this.underWay = [])
    (added : this.linkInfos = []) (action : EthernetManagement.Action) :
    (this.act action).Connected := by
  have quiet (dev : String) : this.underWayFor dev = [] := by
    unfold underWayFor
    rw [idle]
    rfl
  have read (dev : String) : (this.act action).ethernet.devs.read dev =
      (this.ethernet.devs.read dev).map fun devState => deviceStep dev devState action :=
    this.ethernet.read_step action dev
  have still {dev : String} {devState : DevInterfaceState} {supplierId : UInt32}
      (known : this.ethernet.devs.read dev = some devState)
      (attached : this.Attached dev devState supplierId) :
      (this.act action).Attached dev (deviceStep dev devState action) supplierId := by
    obtain ⟨arrived, split, kept⟩ := attached.kept
    rw [quiet, List.append_nil] at split
    refine ⟨attached.registered.deviceStep dev action, attached.valid, arrived, ?_, kept⟩
    rw [split, underWayFor_act action known, callsBetween_deviceStep]
  refine ⟨connected.wellFormed, ?_, ?_, ?_, ?_, ?_⟩
  · intro dev after reached
    rw [read, Option.map_eq_some_iff] at reached
    obtain ⟨devState, known, rfl⟩ := reached
    obtain ⟨supplierId, attached⟩ := connected.devices dev devState known
    exact ⟨supplierId, still known attached⟩
  · intro supplierId entry kept type
    obtain ⟨devState, known, attached⟩ := connected.entries supplierId entry kept type
    refine ⟨deviceStep entry.ident devState action, ?_, still known attached⟩
    rw [read, known, Option.map_some]
  · exact connected.distinct
  · intro info member
    rw [show (this.act action).linkInfos = [] from added] at member
    cases member
  · intro call member
    have about : call.1 = action.iface ∧
        ∃ devState, this.ethernet.devs.read action.iface = some devState := by
      unfold act at member
      dsimp only at member
      split at member
      · rename_i before _ known _
        obtain ⟨made, _, rfl⟩ := List.mem_map.mp member
        exact ⟨rfl, before, known⟩
      · cases member
    obtain ⟨same, devState, known⟩ := about
    rw [same, read, known]
    exact Option.some_ne_none _

/-! ### The start -/

/-- The device that was made has said what is under way, and before that nothing that changes an
entry. -/
theorem callsBetween_makeDevice (info : NlkEventInfo) (supplierId : Int) :
    ∃ arrived, arrived ++ callsBetween (registerDevice info supplierId)
        (makeDevice info supplierId) = (makeDevice info supplierId).sent.map SentCall.call ∧
      entryAfter info.iface arrived = { type := .ethernet, ident := info.iface } := by
  have made : makeDevice info supplierId = if info.up && info.lowerUp then
      (registerDevice info supplierId).remoteUpdateNetSupplierInfo
    else registerDevice info supplierId := rfl
  refine ⟨(registerDevice info supplierId).sent.map SentCall.call, ?_, rfl⟩
  have appended : ∃ calls, (makeDevice info supplierId).sent =
      (registerDevice info supplierId).sent ++ calls := by
    rw [made]
    split
    · obtain ⟨calls, appended, _⟩ :=
        (informs_remoteUpdateNetSupplierInfo (registerDevice info supplierId)).sent
      exact ⟨calls, appended⟩
    · exact ⟨[], (List.append_nil _).symm⟩
  obtain ⟨calls, appended⟩ := appended
  unfold callsBetween
  rw [appended, List.drop_left, List.map_append]

/-- The registration that `Init` makes for an interface. -/
def registering (dev : String) : NetConnService.Action :=
  .registerNetSupplier NetworkType.ethernet.code dev NetCapabilities.internet.code

/-- What `Init` does with an interface that has a name. -/
theorem register_devices {info : NlkEventInfo} (named : info.iface ≠ "") (dev : String) :
    (this.register info).ethernet.devs.read dev = (this.ethernet.devs.read dev).or
      (if info.iface = dev then
        some (makeDevice info (this.connection.perform (registering info.iface)).1) else none) := by
  have added : (this.register info).ethernet = { this.ethernet with
      answers := Function.update this.ethernet.answers this.ethernet.registrations
        (this.connection.perform (registering info.iface)).1 }.addDevice info := by
    unfold register
    rw [if_neg named]
    rfl
  rw [added, addDevice_read _ named]
  dsimp only
  rw [Function.update_self]

/-- The registration of a key for which nothing is kept makes a blank entry. -/
theorem registered_blank (wellFormed : this.connection.registry.WellFormed) {dev : String}
    (few : (this.connection.step (registering dev)).createdSuppliers ≤ 2 ^ 31 - 1003)
    (unknown : this.connection.directory.Unknown (.ethernet, dev)) :
    ∃ supplierId, (this.connection.perform (registering dev)).1 = asInt32 supplierId ∧
      minimumSupplierId < asInt32 supplierId ∧
      supplierId = supplierIdAt this.connection.directory.created ∧
      (this.connection.step (registering dev)).directory.entry supplierId =
        some { type := .ethernet, ident := dev } := by
  have fewIds := few.trans (by decide : 2 ^ 31 - 1003 ≤ 2 ^ 32 - 1003)
  have valid : NetConnService.ValidType NetworkType.ethernet.code := by
    unfold NetConnService.ValidType
    decide
  obtain ⟨supplierId, entry, kept, key, returned⟩ :=
    (NetConnService.directory_answers wellFormed (registering dev) fewIds).2 valid
  have positive := NetConnService.registerNetSupplier_positive wellFormed
    NetworkType.ethernet.code dev NetCapabilities.internet.code valid few
  refine ⟨supplierId, returned, returned ▸ positive, ?_⟩
  rw [NetConnService.directory_step wellFormed _ fewIds, kept]
  rcases Directory.entry_step_cases kept with ⟨old, before, sameKey⟩ | ⟨netType, ident,
    netCapabilities, same, _, new, rfl⟩
  · exact absurd (sameKey.symm.trans key) (unknown supplierId old before)
  · obtain ⟨rfl, rfl, rfl⟩ := NetConnService.Action.registerNetSupplier.inj same
    exact ⟨new, rfl⟩

/-- Nothing is kept for an interface without a device. -/
theorem Connected.unknown_of_absent (connected : this.Connected) {dev : String}
    (absent : this.ethernet.devs.read dev = none) :
    this.connection.directory.Unknown (.ethernet, dev) := by
  intro supplierId entry kept key
  obtain ⟨type, ident⟩ := Prod.mk.inj key
  obtain ⟨devState, known, _⟩ := connected.entries supplierId entry kept type
  rw [show entry.ident = dev from ident, absent] at known
  cases known

section Registration

variable {info : NlkEventInfo} (named : info.iface ≠ "")

include named

theorem connection_register : (this.register info).connection =
    this.connection.step (registering info.iface) :=
  congrArg EthernetSystem.connection (if_neg named)

theorem linkInfos_register : (this.register info).linkInfos = this.linkInfos := by
  unfold register
  rw [if_neg named]

theorem underWay_register : (this.register info).underWay = (callsBetween
    (registerDevice info (this.connection.perform (registering info.iface)).1)
    (makeDevice info (this.connection.perform (registering info.iface)).1)).map (info.iface, ·) :=
  congrArg EthernetSystem.underWay (if_neg named)

/-- No other device is made. -/
theorem read_register_of_ne {dev : String} (other : info.iface ≠ dev) :
    (this.register info).ethernet.devs.read dev = this.ethernet.devs.read dev := by
  rw [register_devices named, if_neg other, Option.or_none]

variable (connected : this.Connected) (absent : this.ethernet.devs.read info.iface = none)
  (few : (this.register info).connection.createdSuppliers ≤ 2 ^ 31 - 1003)

include connected absent few

/-- The device that is made is attached to a new entry. -/
theorem attached_register_new : ∃ devState supplierId,
    (this.register info).ethernet.devs.read info.iface = some devState ∧
      (this.register info).Attached info.iface devState supplierId ∧
      supplierId = supplierIdAt this.connection.directory.created := by
  rw [connection_register named] at few
  obtain ⟨newId, returned, valid, next, blank⟩ :=
    registered_blank connected.wellFormed few (connected.unknown_of_absent absent)
  have calls : (this.register info).underWay = _ := underWay_register named
  rw [returned] at calls
  refine ⟨makeDevice info (asInt32 newId), newId, ?_, ?_, next⟩
  · rw [register_devices named, absent, Option.none_or, if_pos rfl, returned]
  · obtain ⟨arrived, split, same⟩ := callsBetween_makeDevice info (asInt32 newId)
    refine ⟨makeDevice_registeredWith info _, valid, arrived, ?_, ?_⟩
    · rw [underWayFor_of_map calls, if_pos rfl, split]
    · rw [connection_register named, blank, same]

/-- The devices before it stay attached to theirs. -/
theorem attached_register_old (idle : this.underWay = []) {dev : String}
    {devState : DevInterfaceState} {supplierId : UInt32}
    (known : this.ethernet.devs.read dev = some devState)
    (attached : this.Attached dev devState supplierId) :
    (this.register info).ethernet.devs.read dev = some devState ∧
      (this.register info).Attached dev devState supplierId := by
  have other : info.iface ≠ dev := by
    rintro rfl
    exact Option.some_ne_none _ (known.symm.trans absent)
  rw [connection_register named] at few
  refine ⟨(read_register_of_ne named other).trans known, attached.congr ?_ fun entry kept => ?_⟩
  · rw [underWayFor_of_map (underWay_register named), if_neg other]
    unfold underWayFor
    rw [idle]
    rfl
  · rw [connection_register named]
    exact NetConnService.entry_step_of_spared connected.wellFormed few kept
      (Option.some_ne_none _).symm

/-- Every device has an entry afterwards. -/
theorem devices_register (idle : this.underWay = []) (dev : String) (devState : DevInterfaceState)
    (known : (this.register info).ethernet.devs.read dev = some devState) :
    ∃ supplierId, (this.register info).Attached dev devState supplierId := by
  by_cases here : info.iface = dev
  · subst here
    obtain ⟨new, newId, made, own, _⟩ := attached_register_new named connected absent few
    obtain rfl := Option.some.inj (made.symm.trans known)
    exact ⟨newId, own⟩
  · rw [read_register_of_ne named here] at known
    obtain ⟨supplierId, attached⟩ := connected.devices dev devState known
    exact ⟨supplierId,
      (attached_register_old named connected absent few idle known attached).2⟩

/-- Every Ethernet entry has a device afterwards. -/
theorem entries_register (idle : this.underWay = []) (supplierId : UInt32) (entry : SupplierEntry)
    (kept : (this.register info).connection.directory.entry supplierId = some entry)
    (type : entry.type = .ethernet) :
    ∃ devState, (this.register info).ethernet.devs.read entry.ident = some devState ∧
      (this.register info).Attached entry.ident devState supplierId := by
  have fewIds := few.trans (by decide : 2 ^ 31 - 1003 ≤ 2 ^ 32 - 1003)
  rw [connection_register named] at kept fewIds
  rw [NetConnService.directory_step connected.wellFormed _ fewIds] at kept
  rcases Directory.entry_step_cases kept with ⟨old, before, key⟩ | ⟨netType, ident,
    netCapabilities, same, _, new, rfl⟩
  · obtain ⟨sameType, sameIdent⟩ := Prod.mk.inj key
    obtain ⟨devState, known, attached⟩ :=
      connected.entries supplierId old before (sameType.symm.trans type)
    rw [sameIdent]
    exact ⟨devState, attached_register_old named connected absent few idle known attached⟩
  · obtain ⟨rfl, rfl, rfl⟩ := NetConnService.Action.registerNetSupplier.inj same
    obtain ⟨devState, newId, made, own, next⟩ := attached_register_new named connected absent few
    obtain rfl : supplierId = newId := new.trans next.symm
    exact ⟨devState, made, own⟩

end Registration

/-- `Init` attaches the device of an interface to a new entry. -/
theorem Connected.registers (connected : this.Connected) (idle : this.underWay = [])
    {info : NlkEventInfo} (named : info.iface ≠ "")
    (absent : this.ethernet.devs.read info.iface = none)
    (apart : ∀ other ∈ this.linkInfos, info.iface ≠ other.iface)
    (few : (this.register info).connection.createdSuppliers ≤ 2 ^ 31 - 1003) :
    (this.register info).Connected where
  wellFormed := by
    rw [connection_register named]
    exact NetConnService.step_wellFormed _ _ connected.wellFormed
  devices := devices_register named connected absent few idle
  entries := entries_register named connected absent few idle
  distinct := by
    rw [linkInfos_register named]
    exact connected.distinct
  unknown := by
    intro other member otherNamed
    rw [linkInfos_register named] at member
    rw [read_register_of_ne named (apart other member)]
    exact connected.unknown other member otherNamed
  known := by
    intro call member
    rw [underWay_register named] at member
    obtain ⟨_, _, rfl⟩ := List.mem_map.mp member
    obtain ⟨devState, _, made, _⟩ := attached_register_new named connected absent few
    rw [made]
    exact Option.some_ne_none _

/-! ### Every step -/

/-- A step of the system is at most one step of the service. -/
theorem connection_step (this : EthernetSystem) (action : Action) :
    (this.step action).connection = this.connection ∨
      ∃ request, (this.step action).connection = this.connection.step request := by
  cases action with
  | addDevice =>
    unfold step
    dsimp only
    split
    · unfold register
      split
      · exact .inl rfl
      · exact .inr ⟨_, rfl⟩
    · exact .inl rfl
  | ethernet action =>
    unfold step
    dsimp only
    split
    · exact .inl rfl
    · exact .inl rfl
  | deliver =>
    unfold step
    dsimp only
    split
    · exact .inl rfl
    · rename_i call _ _
      cases request : call.request with
      | none => exact .inl rfl
      | some action => exact .inr ⟨action, rfl⟩
  | client action => exact .inr ⟨action, rfl⟩

/-- The service stays well-formed and never has fewer suppliers than before. -/
theorem created_step (wellFormed : this.connection.registry.WellFormed) (action : Action) :
    (this.step action).connection.registry.WellFormed ∧
      this.connection.createdSuppliers ≤ (this.step action).connection.createdSuppliers := by
  rcases this.connection_step action with same | ⟨request, same⟩
  · rw [same]
    exact ⟨wellFormed, le_rfl⟩
  · rw [same]
    exact ⟨NetConnService.step_wellFormed _ request wellFormed,
      NetConnService.createdSuppliers_le_step wellFormed request⟩

theorem created_run (wellFormed : this.connection.registry.WellFormed) (actions : List Action) :
    this.connection.createdSuppliers ≤ (run step this actions).connection.createdSuppliers := by
  induction actions generalizing this with
  | nil => exact le_rfl
  | cons action rest inductionHypothesis =>
    obtain ⟨after, more⟩ := created_step wellFormed action
    exact more.trans (inductionHypothesis after)

/-- `Init` goes on to the next interface. -/
theorem Connected.adds (connected : this.Connected) (idle : this.underWay = [])
    {info : NlkEventInfo} {rest : List NlkEventInfo} (next : this.linkInfos = info :: rest)
    (few : ({ this with linkInfos := rest }.register info).connection.createdSuppliers ≤
      2 ^ 31 - 1003) : ({ this with linkInfos := rest }.register info).Connected := by
  have distinct := connected.distinct
  have unknown := connected.unknown
  rw [next] at distinct unknown
  obtain ⟨apart, distinctRest⟩ := List.pairwise_cons.mp distinct
  obtain ⟨absent, unknownRest⟩ := List.forall_mem_cons.mp unknown
  have remaining : { this with linkInfos := rest }.Connected := by
    refine ⟨connected.wellFormed, fun dev devState known => ?_,
      fun supplierId entry kept type => ?_, distinctRest, unknownRest, connected.known⟩
    · obtain ⟨supplierId, attached⟩ := connected.devices dev devState known
      exact ⟨supplierId, attached.congr rfl fun _ kept => kept⟩
    · obtain ⟨devState, known, attached⟩ := connected.entries supplierId entry kept type
      exact ⟨devState, known, attached.congr rfl fun _ kept => kept⟩
  by_cases unnamed : info.iface = ""
  · have skipped : { this with linkInfos := rest }.register info =
        { this with linkInfos := rest } := if_pos unnamed
    rw [skipped]
    exact remaining
  · exact remaining.registers idle unnamed (absent unnamed)
      (fun other member => (apart other member).resolve_left unnamed) few

/-- Every step keeps the devices and their entries together, while other clients leave Ethernet to
the manager. -/
theorem Connected.step (connected : this.Connected) {action : Action}
    (few : (this.step action).connection.createdSuppliers ≤ 2 ^ 31 - 1003)
    (leaves : this.LeavesEthernet action) : (this.step action).Connected := by
  cases action with
  | client action => exact connected.client few leaves
  | deliver =>
    unfold EthernetSystem.step at few ⊢
    dsimp only at few ⊢
    split
    · exact connected
    · rename_i dev call rest first
      rw [first] at few
      exact connected.arrives first few
  | ethernet action =>
    unfold EthernetSystem.step
    dsimp only
    split
    · rename_i idle added
      exact connected.acts idle added action
    · exact connected
  | addDevice =>
    cases idle : this.underWay with
    | cons _ _ =>
      have waits : this.step .addDevice = this := by
        unfold EthernetSystem.step
        dsimp only
        rw [idle]
      rw [waits]
      exact connected
    | nil =>
      cases next : this.linkInfos with
      | nil =>
        have done : this.step .addDevice = this := by
          unfold EthernetSystem.step
          dsimp only
          rw [idle, next]
        rw [done]
        exact connected
      | cons info rest =>
        have added : this.step .addDevice = { this with linkInfos := rest }.register info := by
          unfold EthernetSystem.step
          dsimp only
          rw [idle, next]
        rw [added] at few ⊢
        exact connected.adds idle next few

/-! ### Every run -/

theorem Connected.run (connected : this.Connected) {actions : List Action}
    (leaves : Guarded EthernetSystem.step LeavesEthernet this actions)
    (few : (Library.run EthernetSystem.step this actions).connection.createdSuppliers ≤
      2 ^ 31 - 1003) : (Library.run EthernetSystem.step this actions).Connected := by
  induction actions generalizing this with
  | nil => exact connected
  | cons action rest inductionHypothesis =>
    obtain ⟨leavesFirst, leavesRest⟩ := (guarded_cons _ _ _ _ _).mp leaves
    obtain ⟨after, _⟩ := created_step connected.wellFormed action
    exact inductionHypothesis
      (connected.step ((created_run after rest).trans few) leavesFirst) leavesRest few

end EthernetSystem

end NetManager
