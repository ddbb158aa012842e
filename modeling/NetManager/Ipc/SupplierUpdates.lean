/-
This file follows what a client says about a supplier from the proxy to the getters. The parcel
carries it as it is, the stub hands it to the service, and the service writes it to the supplier;
what a getter returns afterwards is a flag.
-/

import NetManager.Conn.SupplierStatus
import NetManager.Ipc.RoundTrips

namespace NetManager.NetConnService

open Library Parcel EthernetService

/-- The descriptor of the interface. -/
def descriptor : String := "OHOS.NetManagerStandard.INetConnService"

section Codes

/- The codes of the base system. -/
variable (errFlattenObject errNullObject : Int)

/-! ### The stub -/

/-- What handling a request leaves: a code, a reply and the service. -/
structure Handled where
  code : Int
  reply : List ParcelCell
  service : NetConnService

/-- `NetConnServiceStub::OnUpdateNetSupplierInfo`. What cannot be read is a null pointer, and the
service is asked nevertheless. -/
def onUpdateNetSupplierInfo (service : NetConnService) (data : List ParcelCell) : Handled :=
  match readUint32.run data with
  | none => ⟨errFlattenObject, [], service⟩
  | some (supplierId, rest) =>
    let netSupplierInfo := (NetSupplierInfo.unmarshalling.run rest).map Prod.fst
    let (ret, updated) := service.updateNetSupplierInfo supplierId netSupplierInfo
    match (writeInt32 (Int32.ofInt ret.code)).run [] with
    | none => ⟨errFlattenObject, [], updated⟩
    | some (_, reply) => ⟨errNone, reply, updated⟩

/-- `NetConnServiceStub::OnRemoteRequest` for `CMD_NM_SET_NET_SUPPLIER_INFO`. A descriptor that
cannot be read is empty. -/
def onRemoteRequest (service : NetConnService) (data : List ParcelCell) : Handled :=
  let (remoteDescriptor, rest) := (readInterfaceToken.run data).getD ("", data)
  if descriptor ≠ remoteDescriptor then ⟨errFlattenObject, [], service⟩
  else onUpdateNetSupplierInfo errFlattenObject service rest

/-! ### The proxy -/

/-- `NetConnServiceProxy::UpdateNetSupplierInfo`. The proxy may have no remote object, and a reply
without a number is read as zero. -/
def proxyUpdateNetSupplierInfo (service : NetConnService) (remote : Bool) (supplierId : UInt32)
    (netSupplierInfo : NetSupplierInfo) : Int × NetConnService :=
  let written : ParcelM Unit := do
    writeInterfaceToken descriptor
    writeUint32 supplierId
    netSupplierInfo.marshalling
  match written.run [] with
  | none => (errFlattenObject, service)
  | some (_, data) =>
    if remote = false then (errNullObject, service)
    else
      let handled := onRemoteRequest errFlattenObject service data
      if handled.code ≠ errNone then (handled.code, handled.service)
      else
        match readInt32.run handled.reply with
        | none => (0, handled.service)
        | some (ret, _) => (ret.toInt, handled.service)

/-! ### What a client says arrives -/

/-- The code of the service fits into the reply. -/
theorem toInt_ofInt_code (result : ResultCode) : (Int32.ofInt result.code).toInt = result.code := by
  cases result <;> rfl

/-- The stub reads what a proxy wrote. -/
theorem onRemoteRequest_cells (service : NetConnService) (supplierId : UInt32)
    (netSupplierInfo : NetSupplierInfo) :
    onRemoteRequest errFlattenObject service
        (.interfaceToken descriptor :: .uint32 supplierId :: netSupplierInfo.cells) =
      ⟨errNone,
        [.int32 (Int32.ofInt (service.updateNetSupplierInfo supplierId
          (some netSupplierInfo)).1.code)],
        (service.updateNetSupplierInfo supplierId (some netSupplierInfo)).2⟩ := by
  have id : readUint32.run (.uint32 supplierId :: netSupplierInfo.cells) =
      some (supplierId, netSupplierInfo.cells) := rfl
  have info : NetSupplierInfo.unmarshalling.run netSupplierInfo.cells =
      some (netSupplierInfo, []) := NetSupplierInfo.exact_unmarshalling.reads_whole trivial
  unfold onRemoteRequest
  rw [run_readInterfaceToken, Option.getD_some]
  dsimp only
  rw [if_neg (not_not_intro rfl)]
  unfold onUpdateNetSupplierInfo
  rw [id]
  dsimp only
  rw [info]
  rfl

/-- A proxy with a remote object does what the service does. -/
theorem proxyUpdateNetSupplierInfo_eq (service : NetConnService) (supplierId : UInt32)
    (netSupplierInfo : NetSupplierInfo) :
    service.proxyUpdateNetSupplierInfo errFlattenObject errNullObject true supplierId
        netSupplierInfo =
      service.perform (.updateNetSupplierInfo supplierId (some netSupplierInfo)) := by
  have written : StateT.run (do
      writeInterfaceToken descriptor
      writeUint32 supplierId
      netSupplierInfo.marshalling : ParcelM Unit) [] =
      some ((), .interfaceToken descriptor :: .uint32 supplierId :: netSupplierInfo.cells) :=
    (writes_cell _).andThen ((writes_cell _).andThen netSupplierInfo.writes_marshalling) []
  unfold proxyUpdateNetSupplierInfo
  dsimp only
  rw [written]
  dsimp only
  rw [if_neg Bool.noConfusion, onRemoteRequest_cells]
  refine Prod.ext ?_ rfl
  exact toInt_ofInt_code _

/-! ### What the getters return -/

/-- After an update of a registered supplier that a client sent, and until the next update of that
supplier, the getters return what the client said exactly when the strength and the frequency are
at most one. -/
theorem readsAs_run_iff (answers : Nat → Int) (actions : List Action) {supplierId : UInt32}
    {supplier : Ref NetSupplier}
    (registered : (run step (start answers) actions).getNetSupplierFromListById supplierId =
      some supplier)
    (info : NetSupplierInfo) {later : List Action}
    (spares : Guarded step (fun state action => state.updatedSupplier action ≠ some supplier)
      ((run step (start answers) actions).proxyUpdateNetSupplierInfo errFlattenObject
        errNullObject true supplierId info).2 later) :
    ((run step (start answers) actions).proxyUpdateNetSupplierInfo errFlattenObject
        errNullObject true supplierId info).1 = ResultCode.none.code ∧
      (((run step ((run step (start answers) actions).proxyUpdateNetSupplierInfo errFlattenObject
          errNullObject true supplierId info).2 later).world.supplier supplier).ReadsAs info ↔
        info.strength ≤ 1 ∧ info.frequency ≤ 1) := by
  have wellFormed := run_wellFormed answers actions
  revert spares
  generalize run step (start answers) actions = state at registered wellFormed ⊢
  rw [proxyUpdateNetSupplierInfo_eq]
  intro spares
  have updated := updateNetSupplierInfo_registered wellFormed registered info
  have allocated : state.world.statuses.Allocated supplier :=
    wellFormed.supplier_allocated (List.mem_of_find?_eq_some registered)
  have written : (state.step (.updateNetSupplierInfo supplierId (some info))).world.statuses =
      state.world.statuses.set supplier info.status := updated.2
  have still : (state.step (.updateNetSupplierInfo supplierId
      (some info))).world.statuses.Allocated supplier := by
    rw [written]
    exact allocated
  have kept := status_run (step_wellFormed state _ wellFormed) still spares
  rw [written, Heap.cell_set_self] at kept
  exact ⟨congrArg ResultCode.code updated.1, NetSupplier.readsAs_iff kept⟩

/-- A supplier of another strength is registered in between, and updated. -/
theorem readsAs_run_example :
    let state := run step (start fun _ => 1) [.registerNetSupplier 2 "eth0" 1]
    let info : NetSupplierInfo := { isAvailable := true, strength := 1 }
    let sent := state.proxyUpdateNetSupplierInfo 5 6 true 1003 info
    let later : List Action := [.registerNetSupplier 1 "slot0" 1,
      .updateNetSupplierInfo 1004 (some { strength := 200 })]
    sent.1 = ResultCode.none.code ∧
      (((run step sent.2 later).world.supplier ⟨0⟩).ReadsAs info ↔
        info.strength ≤ 1 ∧ info.frequency ≤ 1) := by
  intro state info sent later
  refine readsAs_run_iff 5 6 (fun _ => 1) [.registerNetSupplier 2 "eth0" 1] (by decide) _ ?_
  refine (guarded_cons _ _ _ _ _).mpr ⟨by decide, ?_⟩
  refine (guarded_cons _ _ _ _ _).mpr ⟨?_, guarded_nil _ _ _⟩
  decide

/-- A strength of 80 is read as one, and a frequency of 65536 as zero. -/
theorem strength_reads_as_flag :
    let state := run step (start fun _ => 1) [.registerNetSupplier 2 "eth0" 1]
    state.getNetSupplierFromListById 1003 = some ⟨0⟩ ∧
      ¬ ((state.proxyUpdateNetSupplierInfo 5 6 true 1003
        { strength := 80, frequency := 65536 }).2.world.supplier ⟨0⟩).ReadsAs
          { strength := 80, frequency := 65536 } := by
  refine ⟨by decide, fun reads => ?_⟩
  exact absurd reads.strength (by decide)

end Codes

end NetManager.NetConnService
