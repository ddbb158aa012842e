/-
This file models how a client reaches the Ethernet manager: the proxy writes a request to a parcel,
the stub reads it, asks the manager and writes a reply, which the proxy reads. A configuration
passes through unchanged in both directions, so a client that reads the configuration of a device
gets the last one that was set.
-/

import NetManager.Ethernet.StaticConfiguration
import NetManager.Ipc.ConfigurationFormat

namespace NetManager

open Library Parcel

namespace EthernetManagement

/-- `EthernetManagement::GetDevInterfaceCfg`. -/
def getDevInterfaceCfg (this : EthernetManagement) (iface : String) :
    Option InterfaceConfiguration :=
  match this.devs.read iface with
  | none => none
  | some devState => devState.ifcfg

/-! ### What a device is configured with -/

/-- Only an accepted configuration changes what a device is configured with. -/
theorem deviceStep_ifcfg {this : EthernetManagement} {dev : String} {devState : DevInterfaceState}
    (known : this.devs.read dev = some devState) (action : Action) :
    (deviceStep dev devState action).ifcfg =
      (configuredBy dev this action).or devState.ifcfg := by
  by_cases about : action.iface = dev
  · unfold deviceStep
    rw [if_pos about]
    cases action with
    | handle info =>
      exact (keepsConfiguration_updateDevice devState dev info.up info.lowerUp).ifcfg
    | setIfaceConfig iface cfg =>
      obtain rfl : iface = dev := about
      have accepted := this.setIfaceConfig_succeeds_iff iface cfg
      rw [known] at accepted
      unfold configuredBy
      dsimp only
      by_cases up : devState.linkUp = true
      · rw [if_pos up, if_pos ⟨rfl, accepted.mpr ⟨devState, rfl, up⟩⟩,
          (devState.setIfcfg_keepsConfiguration cfg).ifcfg, Option.some_or]
      · rw [if_neg up, if_neg]
        · rfl
        · rintro ⟨_, succeeded⟩
          obtain ⟨_, ⟨⟩, isUp⟩ := accepted.mp succeeded
          exact up isUp
    | onSuccess ifname result =>
      dsimp only
      split
      · exact (DevInterfaceState.keepsConfiguration_remoteUpdateNetLinkInfo _).ifcfg
      · rfl
  · rw [deviceStep_other about]
    cases action with
    | setIfaceConfig iface cfg => rw [configuredBy, if_neg fun both => about both.1, Option.none_or]
    | handle | onSuccess => rfl

theorem getDevInterfaceCfg_step (this : EthernetManagement) (action : Action) (dev : String) :
    (this.step action).getDevInterfaceCfg dev =
      (configuredBy dev this action).or (this.getDevInterfaceCfg dev) := by
  unfold getDevInterfaceCfg
  rw [read_step]
  cases known : this.devs.read dev with
  | none =>
    cases configured : configuredBy dev this action with
    | none => rfl
    | some cfg =>
      obtain ⟨_, devState, found, _⟩ := configuredBy_eq_some configured
      rw [known] at found
      cases found
  | some devState => exact deviceStep_ifcfg known action

/-- A device is configured as it was last configured in the run, or else as before. -/
theorem getDevInterfaceCfg_run (this : EthernetManagement) (actions : List Action)
    (dev : String) :
    (run step this actions).getDevInterfaceCfg dev =
      (lastConfiguration dev this actions).or (this.getDevInterfaceCfg dev) := by
  induction actions generalizing this with
  | nil => rfl
  | cons action rest inductionHypothesis =>
    rw [run_cons, inductionHypothesis, getDevInterfaceCfg_step, lastConfiguration, Option.or_assoc]

/-- `Init` configures every device with the empty static configuration. -/
theorem getDevInterfaceCfg_init {answers : Nat → Int} {linkInfos : List NlkEventInfo}
    {dev : String} {made : DevInterfaceState}
    (known : (init answers linkInfos).devs.read dev = some made) :
    (init answers linkInfos).getDevInterfaceCfg dev = some { mode := .static } := by
  obtain ⟨info, supplierId, _, rfl⟩ := init_read answers linkInfos known
  have registered (this : DevInterfaceState) :
      (this.remoteRegisterNetSupplier supplierId).ifcfg = this.ifcfg := by
    unfold DevInterfaceState.remoteRegisterNetSupplier
    split <;> rfl
  unfold getDevInterfaceCfg
  rw [known]
  unfold makeDevice
  dsimp only
  split
  · rw [(DevInterfaceState.keepsConfiguration_remoteUpdateNetSupplierInfo _).ifcfg, registered]
    rfl
  · rw [registered]
    rfl

end EthernetManagement

namespace EthernetService

open EthernetManagement

/-! ### Codes -/

/-- `NETMANAGER_SUCCESS`. -/
def netmanagerSuccess : Int := 0

/-- `ERR_NONE` of the calls to a remote object. -/
def errNone : Int := 0

/-- `GET_CFG_SUC`. -/
def getCfgSuc : Int32 := 1

/-- The requests of `i_ethernet_service.h` that carry configurations. -/
inductive Command
  | setIfCfg
  | getIfCfg
deriving DecidableEq, Repr

/-- The descriptor of the interface. -/
def descriptor : String := "OHOS.NetManagerStandard.IEthernetService"

section Codes

/- The common error codes count up from an offset that the base system defines. -/
variable (commonErrOffset : Int)

/-- `NETMANAGER_ERR_LOCAL_PTR_NULL`. -/
def netmanagerErrLocalPtrNull : Int := commonErrOffset + 5

/-- `NETMANAGER_ERR_DESCRIPTOR_MISMATCH`. -/
def netmanagerErrDescriptorMismatch : Int := commonErrOffset + 7

/-- `NETMANAGER_ERR_WRITE_DESCRIPTOR_TOKEN_FAIL`. -/
def netmanagerErrWriteDescriptorTokenFail : Int := commonErrOffset + 8

/-- `NETMANAGER_ERR_WRITE_REPLY_FAIL`. -/
def netmanagerErrWriteReplyFail : Int := commonErrOffset + 10

/-- `NETMANAGER_ERR_READ_DATA_FAIL`. -/
def netmanagerErrReadDataFail : Int := commonErrOffset + 11

/-- `NETMANAGER_ERR_IPC_CONNECT_STUB_FAIL`. -/
def netmanagerErrIpcConnectStubFail : Int := commonErrOffset + 13

/-! ### The stub -/

/-- What handling a request leaves: a code, a reply and the manager. -/
structure Handled where
  code : Int
  reply : List ParcelCell
  ethManagement : EthernetManagement

/-- `EthernetServiceStub::OnSetIfaceConfig`. -/
def onSetIfaceConfig (ethManagement : EthernetManagement) (data : List ParcelCell) : Handled :=
  match readString.run data with
  | none => ⟨netmanagerErrReadDataFail commonErrOffset, [], ethManagement⟩
  | some (iface, rest) =>
    match InterfaceConfiguration.unmarshalling.run rest with
    | none => ⟨netmanagerErrLocalPtrNull commonErrOffset, [], ethManagement⟩
    | some (ic, _) =>
      let (ret, configured) := ethManagement.updateDevInterfaceState iface ic
      match (writeInt32 (Int32.ofInt ret)).run [] with
      | none => ⟨netmanagerErrWriteReplyFail commonErrOffset, [], configured⟩
      | some (_, reply) => ⟨netmanagerSuccess, reply, configured⟩

/-- `EthernetServiceStub::OnGetIfaceConfig`. -/
def onGetIfaceConfig (ethManagement : EthernetManagement) (data : List ParcelCell) : Handled :=
  match readString.run data with
  | none => ⟨netmanagerErrReadDataFail commonErrOffset, [], ethManagement⟩
  | some (iface, _) =>
    let written : ParcelM Unit :=
      match ethManagement.getDevInterfaceCfg iface with
      | some ic => do
        writeInt32 getCfgSuc
        ic.marshalling
      | none => writeInt32 0
    match written.run [] with
    | none => ⟨netmanagerErrWriteReplyFail commonErrOffset, [], ethManagement⟩
    | some (_, reply) => ⟨netmanagerSuccess, reply, ethManagement⟩

/-- `EthernetServiceStub::OnRemoteRequest`. A descriptor that cannot be read is empty. -/
def onRemoteRequest (ethManagement : EthernetManagement) (code : Command)
    (data : List ParcelCell) : Handled :=
  let (remoteDescriptor, rest) := (readInterfaceToken.run data).getD ("", data)
  if descriptor ≠ remoteDescriptor then
    ⟨netmanagerErrDescriptorMismatch commonErrOffset, [], ethManagement⟩
  else
    match code with
    | .setIfCfg => onSetIfaceConfig commonErrOffset ethManagement rest
    | .getIfCfg => onGetIfaceConfig commonErrOffset ethManagement rest

/-! ### The proxy -/

/-- `EthernetServiceProxy::SetIfaceConfig`. A reply without a number is read as zero. -/
def setIfaceConfig (ethManagement : EthernetManagement) (iface : String)
    (ic : InterfaceConfiguration) : Int × EthernetManagement :=
  let written : ParcelM Unit := do
    writeInterfaceToken descriptor
    writeString iface
    ic.marshalling
  match written.run [] with
  | none => (netmanagerErrWriteDescriptorTokenFail commonErrOffset, ethManagement)
  | some (_, data) =>
    let handled := onRemoteRequest commonErrOffset ethManagement .setIfCfg data
    if handled.code ≠ errNone then
      (netmanagerErrIpcConnectStubFail commonErrOffset, handled.ethManagement)
    else
      match readInt32.run handled.reply with
      | none => (0, handled.ethManagement)
      | some (ret, _) => (ret.toInt, handled.ethManagement)

/-- `EthernetServiceProxy::GetIfaceConfig`. The manager is only asked. -/
def getIfaceConfig (ethManagement : EthernetManagement) (iface : String) :
    Option InterfaceConfiguration :=
  let written : ParcelM Unit := do
    writeInterfaceToken descriptor
    writeString iface
  match written.run [] with
  | none => none
  | some (_, data) =>
    let handled := onRemoteRequest commonErrOffset ethManagement .getIfCfg data
    if handled.code ≠ errNone then none
    else
      match readInt32.run handled.reply with
      | none => none
      | some (res, rest) =>
        if res ≠ getCfgSuc then none
        else (InterfaceConfiguration.unmarshalling.run rest).map Prod.fst

/-! ### Requests pass through -/

/-- The code of a request that was handled fits into the reply. -/
theorem toInt_ofInt_updateDevInterfaceState (ethManagement : EthernetManagement) (iface : String)
    (ic : InterfaceConfiguration) :
    (Int32.ofInt (ethManagement.updateDevInterfaceState iface ic).1).toInt =
      (ethManagement.updateDevInterfaceState iface ic).1 := by
  unfold updateDevInterfaceState
  split
  · rfl
  · split <;> rfl

/-- A request that names the interface is handled. -/
theorem onRemoteRequest_eq (ethManagement : EthernetManagement) (code : Command)
    (data : List ParcelCell) :
    onRemoteRequest commonErrOffset ethManagement code (.interfaceToken descriptor :: data) =
      match code with
      | .setIfCfg => onSetIfaceConfig commonErrOffset ethManagement data
      | .getIfCfg => onGetIfaceConfig commonErrOffset ethManagement data := by
  unfold onRemoteRequest
  rw [run_readInterfaceToken, Option.getD_some]
  exact if_neg (not_not_intro rfl)

/-- A configuration is read back from its cells. -/
theorem run_unmarshalling {ic : InterfaceConfiguration} (fits : ic.ipStatic.ListFits) :
    InterfaceConfiguration.unmarshalling.run ic.cells = some (ic, []) :=
  InterfaceConfiguration.exact_unmarshalling.reads_whole fits

/-- A configuration whose list fits reaches the manager as it is. -/
theorem setIfaceConfig_eq (ethManagement : EthernetManagement) (iface : String)
    {ic : InterfaceConfiguration} (fits : ic.ipStatic.ListFits) :
    setIfaceConfig commonErrOffset ethManagement iface ic =
      ethManagement.updateDevInterfaceState iface ic := by
  have written : StateT.run (do
      writeInterfaceToken descriptor
      writeString iface
      ic.marshalling : ParcelM Unit) [] =
      some ((), .interfaceToken descriptor :: .string iface :: ic.cells) :=
    (writes_cell _).andThen ((writes_cell _).andThen ic.writes_marshalling) []
  have handled : onRemoteRequest commonErrOffset ethManagement .setIfCfg
      (.interfaceToken descriptor :: .string iface :: ic.cells) =
      ⟨netmanagerSuccess, [.int32 (Int32.ofInt (ethManagement.updateDevInterfaceState iface ic).1)],
        (ethManagement.updateDevInterfaceState iface ic).2⟩ := by
    have read : readString.run (.string iface :: ic.cells) = some (iface, ic.cells) := rfl
    rw [onRemoteRequest_eq]
    dsimp only
    rw [onSetIfaceConfig, read]
    dsimp only
    rw [run_unmarshalling fits]
    rfl
  unfold setIfaceConfig
  dsimp only
  rw [written]
  dsimp only
  rw [handled]
  refine Prod.ext ?_ rfl
  exact toInt_ofInt_updateDevInterfaceState ethManagement iface ic

/-- A configuration whose list fits is read as it is. -/
theorem getIfaceConfig_eq (ethManagement : EthernetManagement) (iface : String)
    {ic : InterfaceConfiguration} (fits : ic.ipStatic.ListFits)
    (configured : ethManagement.getDevInterfaceCfg iface = some ic) :
    getIfaceConfig commonErrOffset ethManagement iface = some ic := by
  have written : StateT.run (do
      writeInterfaceToken descriptor
      writeString iface : ParcelM Unit) [] =
      some ((), [.interfaceToken descriptor, .string iface]) := rfl
  have replied : StateT.run (do
      writeInt32 getCfgSuc
      ic.marshalling : ParcelM Unit) [] = some ((), .int32 getCfgSuc :: ic.cells) :=
    (writes_cell _).andThen ic.writes_marshalling []
  have handled : onRemoteRequest commonErrOffset ethManagement .getIfCfg
      [.interfaceToken descriptor, .string iface] =
      ⟨netmanagerSuccess, .int32 getCfgSuc :: ic.cells, ethManagement⟩ := by
    have read : readString.run [.string iface] = some (iface, []) := rfl
    rw [onRemoteRequest_eq]
    dsimp only
    rw [onGetIfaceConfig, read]
    dsimp only
    rw [configured]
    dsimp only
    rw [replied]
  unfold getIfaceConfig
  dsimp only
  rw [written]
  dsimp only
  rw [handled]
  have read : readInt32.run (.int32 getCfgSuc :: ic.cells) = some (getCfgSuc, ic.cells) := rfl
  have succeeded : ¬ netmanagerSuccess ≠ errNone := not_not_intro rfl
  dsimp only
  rw [if_neg succeeded, read]
  dsimp only
  rw [if_neg (not_not_intro rfl), run_unmarshalling fits, Option.map_some]

/-! ### Runs of clients -/

/-- An action, where the requests of clients go through proxy and stub. -/
def perform (this : EthernetManagement) : Action → Int × EthernetManagement
  | .setIfaceConfig iface ic => setIfaceConfig commonErrOffset this iface ic
  | .handle info => this.perform (.handle info)
  | .onSuccess ifname result => this.perform (.onSuccess ifname result)

/-- The manager after an action. -/
def step (this : EthernetManagement) (action : Action) : EthernetManagement :=
  (perform commonErrOffset this action).2

/-- The configuration that a client set successfully for a device by an action. -/
def acceptedBy (dev : String) (this : EthernetManagement) (action : Action) :
    Option InterfaceConfiguration :=
  match action with
  | .setIfaceConfig iface ic =>
    if iface = dev ∧ (perform commonErrOffset this action).1 = ethernetSuccess then some ic
    else none
  | _ => none

/-- The last configuration that a client set successfully for a device in a run. -/
def lastAccepted (dev : String) : EthernetManagement → List Action →
    Option InterfaceConfiguration
  | _, [] => none
  | this, action :: rest =>
    (lastAccepted dev (step commonErrOffset this action) rest).or
      (acceptedBy commonErrOffset dev this action)

/-- The lengths of the lists of an action can be written. -/
def Fits (action : Action) : Prop :=
  ∀ iface ic, action = .setIfaceConfig iface ic → ic.ipStatic.ListFits

theorem perform_eq (this : EthernetManagement) {action : Action} (fits : Fits action) :
    perform commonErrOffset this action = this.perform action := by
  cases action with
  | setIfaceConfig iface ic =>
    exact setIfaceConfig_eq commonErrOffset this iface (fits iface ic rfl)
  | handle | onSuccess => rfl

theorem step_eq (this : EthernetManagement) {action : Action} (fits : Fits action) :
    step commonErrOffset this action = this.step action :=
  congrArg Prod.snd (perform_eq commonErrOffset this fits)

theorem acceptedBy_eq (dev : String) (this : EthernetManagement) {action : Action}
    (fits : Fits action) :
    acceptedBy commonErrOffset dev this action = configuredBy dev this action := by
  cases action with
  | setIfaceConfig iface ic =>
    unfold acceptedBy configuredBy
    dsimp only
    rw [perform_eq commonErrOffset this fits]
  | handle | onSuccess => rfl

/-- A run of requests through proxy and stub is a run of the manager. -/
theorem run_eq (this : EthernetManagement) (dev : String) {actions : List Action}
    (fits : ∀ action ∈ actions, Fits action) :
    run (step commonErrOffset) this actions = run EthernetManagement.step this actions ∧
      lastAccepted commonErrOffset dev this actions = lastConfiguration dev this actions := by
  induction actions generalizing this with
  | nil => exact ⟨rfl, rfl⟩
  | cons action rest inductionHypothesis =>
    obtain ⟨head, tail⟩ := List.forall_mem_cons.mp fits
    obtain ⟨sameRun, sameLast⟩ := inductionHypothesis (this.step action) tail
    rw [run_cons, run_cons, lastAccepted, lastConfiguration, step_eq commonErrOffset this head,
      acceptedBy_eq commonErrOffset dev this head]
    exact ⟨sameRun, congrArg (Option.or · _) sameLast⟩

/-- What was accepted in a run fits. -/
theorem lastConfiguration_fits {dev : String} {this : EthernetManagement} {actions : List Action}
    (fits : ∀ action ∈ actions, Fits action) {ic : InterfaceConfiguration}
    (last : lastConfiguration dev this actions = some ic) : ic.ipStatic.ListFits := by
  induction actions generalizing this with
  | nil => cases last
  | cons action rest inductionHypothesis =>
    obtain ⟨head, tail⟩ := List.forall_mem_cons.mp fits
    rw [lastConfiguration, Option.or_eq_some_iff] at last
    rcases last with later | ⟨_, now⟩
    · exact inductionHypothesis tail later
    · exact head dev ic (configuredBy_eq_some now).1

/-- What a client reads is what a client last set successfully, or the configuration from `Init`
when nobody did. Nothing else changes it. -/
theorem configuration_read_back (answers : Nat → Int) (linkInfos : List NlkEventInfo)
    {actions : List Action} (fits : ∀ action ∈ actions, Fits action) {dev : String}
    {devState : DevInterfaceState}
    (known : (run (step commonErrOffset) (init answers linkInfos) actions).devs.read dev =
      some devState) :
    getIfaceConfig commonErrOffset (run (step commonErrOffset) (init answers linkInfos) actions)
        dev =
      some ((lastAccepted commonErrOffset dev (init answers linkInfos) actions).getD
        { mode := .static }) ∧
    ∀ action, Fits action →
      let reached := run (step commonErrOffset) (init answers linkInfos) actions
      acceptedBy commonErrOffset dev reached action = none →
        getIfaceConfig commonErrOffset (step commonErrOffset reached action) dev =
          getIfaceConfig commonErrOffset reached dev := by
  obtain ⟨sameRun, sameLast⟩ := run_eq commonErrOffset (init answers linkInfos) dev fits
  rw [sameRun] at known ⊢
  rw [sameLast]
  have madeKnown := known
  rw [read_run, Option.map_eq_some_iff] at madeKnown
  obtain ⟨made, initKnown, _⟩ := madeKnown
  have configured := getDevInterfaceCfg_run (init answers linkInfos) actions dev
  rw [getDevInterfaceCfg_init initKnown, Option.or_some] at configured
  have listFits : ((lastConfiguration dev (init answers linkInfos) actions).getD
      { mode := .static }).ipStatic.ListFits := by
    cases last : lastConfiguration dev (init answers linkInfos) actions with
    | none => exact Nat.two_pow_pos 32
    | some ic => exact lastConfiguration_fits fits last
  refine ⟨getIfaceConfig_eq commonErrOffset _ dev listFits configured, fun action actionFits => ?_⟩
  intro reached unaccepted
  rw [acceptedBy_eq commonErrOffset dev reached actionFits] at unaccepted
  have same := getDevInterfaceCfg_step reached action dev
  rw [unaccepted, Option.none_or, configured] at same
  rw [step_eq commonErrOffset reached actionFits, getIfaceConfig_eq commonErrOffset _ dev listFits
    same, getIfaceConfig_eq commonErrOffset _ dev listFits configured]

/-- A client sets a configuration while the link is up, and the configuration it sets when the link
is down is not accepted. -/
theorem configuration_read_back_example :
    let eth0 (flags : UInt64) : NlkEventInfo := { iface := "eth0", ifiFlags := flags }
    let ic : InterfaceConfiguration :=
      { mode := .dhcp, ipStatic := { dnsServers := [{ address := "8.8.8.8" }] } }
    getIfaceConfig 0 (run (step 0) (init (fun _ => 1001) [eth0 0x1])
      [.setIfaceConfig "eth0" ic, .handle (eth0 0x0),
        .setIfaceConfig "eth0" { mode := .static }]) "eth0" = some ic := by
  intro eth0 ic
  have fits : ∀ action ∈ [Action.setIfaceConfig "eth0" ic, .handle (eth0 0x0),
      .setIfaceConfig "eth0" { mode := .static }], Fits action := by
    intro action member iface requested same
    rcases List.mem_cons.mp member with rfl | member
    · cases same
      decide
    · rcases List.mem_cons.mp member with rfl | member
      · cases same
      · rw [List.mem_singleton.mp member] at same
        cases same
        decide
  obtain ⟨devState, known, _⟩ := Option.map_eq_some_iff.mp
    (show ((run (step 0) (init (fun _ => 1001) [eth0 0x1])
      [.setIfaceConfig "eth0" ic, .handle (eth0 0x0),
        .setIfaceConfig "eth0" { mode := .static }]).devs.read "eth0").map
      DevInterfaceState.linkUp = some false by decide)
  rw [(configuration_read_back 0 _ _ fits known).1]
  decide

end Codes

end EthernetService

end NetManager
