/-
This file reads the entries of the interfaces when no call is under way. Then the connection
service calls an interface available exactly when its link is up and has a carrier, and its link
information is what the device sent last. With static configurations that is the configuration of
the last request that was accepted, as soon as the link is available.
-/

import NetManager.System.Delivery

namespace NetManager

open Library DevInterfaceState EthernetManagement

/-! ### The last report -/

namespace DevInterfaceState

/-- A device whose link is available has said so. -/
def HasReported (this : DevInterfaceState) : Prop :=
  this.connLinkState = .linkAvailable → this.supplierInfosSent ≠ []

theorem HasReported.quiet {before after : DevInterfaceState} (reported : before.HasReported)
    (quiet : Quiet before after) : after.HasReported := by
  unfold HasReported
  rw [quiet.connLinkState, quiet.supplierInfosSent]
  exact reported

/-- A registered device makes one report when it reports its link. -/
theorem supplierInfosSent_remoteUpdateNetSupplierInfo {this : DevInterfaceState}
    (registered : this.connLinkState ≠ .unregistered) :
    this.remoteUpdateNetSupplierInfo.supplierInfosSent =
      this.supplierInfosSent ++ [this.updateSupplierAvailable.netSupplierInfo] := by
  unfold remoteUpdateNetSupplierInfo
  rw [if_neg registered]
  exact List.filterMap_append

/-- Reporting the link is a report. -/
theorem hasReported_remoteUpdateNetSupplierInfo (this : DevInterfaceState) :
    this.remoteUpdateNetSupplierInfo.HasReported := by
  by_cases unregistered : this.connLinkState = .unregistered
  · have silent : this.remoteUpdateNetSupplierInfo = this := if_pos unregistered
    rw [silent]
    intro available
    rw [unregistered] at available
    cases available
  · intro _
    rw [supplierInfosSent_remoteUpdateNetSupplierInfo unregistered]
    exact List.append_ne_nil_of_right_ne_nil _ (List.cons_ne_nil _ _)

end DevInterfaceState

namespace EthernetManagement

theorem makeDevice_hasReported (info : NlkEventInfo) (supplierId : Int) :
    (makeDevice info supplierId).HasReported := by
  have made : makeDevice info supplierId = if info.up && info.lowerUp then
      (registerDevice info supplierId).remoteUpdateNetSupplierInfo
    else registerDevice info supplierId := rfl
  rw [made]
  split
  · exact hasReported_remoteUpdateNetSupplierInfo _
  · intro available
    have state : (registerDevice info supplierId).connLinkState =
        if supplierId > minimumSupplierId then .registered else .unregistered := rfl
    rw [state] at available
    split at available
    · cases available
    · cases available

theorem hasReported_updateDevice (devState : DevInterfaceState) (dev : String)
    (up lowerUp : Bool) : (updateDevice devState dev up lowerUp).HasReported := by
  unfold updateDevice
  dsimp only
  split
  · have updated := hasReported_remoteUpdateNetSupplierInfo
      { devState with linkUp := up, lowerUp := lowerUp }
    split
    · exact updated.quiet ((quiet_send _ ⟨rfl, fun _ => rfl⟩).trans
        (quiet_dhcp _ true ⟨rfl, fun _ => rfl⟩))
    · exact updated.quiet (quiet_remoteUpdateNetLinkInfo _)
  · exact hasReported_remoteUpdateNetSupplierInfo _

theorem hasReported_deviceStep {devState : DevInterfaceState} (reported : devState.HasReported)
    (dev : String) (action : Action) : (deviceStep dev devState action).HasReported := by
  unfold deviceStep
  split
  · cases action with
    | handle info => exact hasReported_updateDevice devState dev info.up info.lowerUp
    | setIfaceConfig iface cfg =>
      dsimp only
      split
      · exact reported.quiet (quiet_setIfcfg devState cfg)
      · exact reported
    | onSuccess ifname result =>
      dsimp only
      split
      · exact reported.quiet ((quiet_updateLinkInfoDhcp devState dev result).trans
          (quiet_remoteUpdateNetLinkInfo _))
      · exact reported
  · exact reported

end EthernetManagement

/-! ### What the calls of a device say -/

/-- The entry has the status that was reported last, and the link information sent last. -/
theorem entryAfter_sent (dev : String) (sent : List SentCall) :
    (entryAfter dev (sent.map SentCall.call)).status =
        ((latest SentCall.supplierInfo sent).map NetSupplierInfo.status).getD {} ∧
      (entryAfter dev (sent.map SentCall.call)).netLinkInfo =
        (latest SentCall.linkInfo sent).getD {} := by
  induction sent using List.reverseRecOn with
  | nil => exact ⟨rfl, rfl⟩
  | append_singleton earlier last inductionHypothesis =>
    rw [List.map_append, List.map_singleton, entryAfter_concat, latest_append, latest_append,
      latest_singleton, latest_singleton]
    obtain ⟨connLinkState, ifcfg, call⟩ := last
    cases call with
    | updateNetSupplierInfo netSupplier netSupplierInfo => exact ⟨rfl, inductionHypothesis.2⟩
    | updateNetLinkInfo netSupplier linkInfo => exact ⟨inductionHypothesis.1, rfl⟩
    | _ => exact inductionHypothesis

/-- A registered device is reported to be available when both flags of its link are set. -/
theorem isAvailable_of_tracks {supplierId : Int} {devState : DevInterfaceState}
    (valid : minimumSupplierId < supplierId) (tracks : Tracks supplierId devState)
    (reported : devState.HasReported) :
    (((latest SentCall.supplierInfo devState.sent).map NetSupplierInfo.status).getD
      {}).isAvailable = (devState.linkUp && devState.lowerUp) := by
  cases last : latest SentCall.supplierInfo devState.sent with
  | some info => exact tracks.reported info last
  | none =>
    have silent : devState.supplierInfosSent = [] := List.getLast?_eq_none_iff.mp last
    cases both : devState.linkUp && devState.lowerUp with
    | false => rfl
    | true =>
      exact absurd silent (reported ((tracks.available valid).mpr (Bool.and_eq_true_iff.mp both)))

namespace EthernetSystem

variable {this : EthernetSystem}

/-! ### The manager in a run of the system -/

/-- What the manager handles in a step. It handles nothing while it is busy. -/
def handles (this : EthernetSystem) (action : Action) : List EthernetManagement.Action :=
  match action, this.underWay, this.linkInfos with
  | .ethernet action, [], [] => [action]
  | _, _, _ => []

/-- What the manager handles in a run. -/
def handled : EthernetSystem → List Action → List EthernetManagement.Action
  | _, [] => []
  | this, action :: rest => this.handles action ++ handled (this.step action) rest

/-- What `Init` makes hold of a device and every step of the device keeps, every step of the system
keeps for all devices. -/
theorem allDevices_step {Holds : String → DevInterfaceState → Prop}
    (made : ∀ info supplierId, info.iface ≠ "" → Holds info.iface (makeDevice info supplierId))
    (preserved : ∀ dev devState action, Holds dev devState →
      Holds dev (deviceStep dev devState action))
    (this : EthernetSystem) (action : Action) (all : this.ethernet.AllDevices Holds) :
    (this.step action).ethernet.AllDevices Holds := by
  have added (info : NlkEventInfo) (rest : List NlkEventInfo) :
      ({ this with linkInfos := rest }.register info).ethernet.AllDevices Holds := by
    by_cases named : info.iface = ""
    · unfold register
      rw [if_pos named]
      exact all
    · intro dev devState known
      rw [register_devices named] at known
      cases before : this.ethernet.devs.read dev with
      | some old =>
        rw [before, Option.some_or] at known
        exact Option.some.inj known ▸ all dev old before
      | none =>
        rw [before, Option.none_or] at known
        split at known
        · rename_i here
          subst here
          exact Option.some.inj known ▸ made info _ named
        · cases known
  cases action with
  | client action => exact all
  | deliver =>
    unfold step
    dsimp only
    split
    · exact all
    · exact all
  | ethernet action =>
    unfold step
    dsimp only
    split
    · exact EthernetManagement.allDevices_step preserved this.ethernet action all
    · exact all
  | addDevice =>
    unfold step
    dsimp only
    split
    · exact added _ _
    · exact all

/-- When no call is under way, an entry says what its device said. -/
theorem Attached.settled {dev : String} {devState : DevInterfaceState} {supplierId : UInt32}
    (attached : this.Attached dev devState supplierId) (settled : this.underWay = [])
    (reported : devState.HasReported) :
    ∃ entry, this.connection.directory.entry supplierId = some entry ∧
      entry.key = (.ethernet, dev) ∧
      entry.status.isAvailable = (devState.linkUp && devState.lowerUp) ∧
      entry.netLinkInfo = devState.linkInfosSent.getLast?.getD {} := by
  obtain ⟨arrived, split, kept⟩ := attached.kept
  have all : arrived = devState.sent.map SentCall.call := by
    rw [← split]
    unfold underWayFor
    rw [settled]
    exact (List.append_nil arrived).symm
  subst all
  obtain ⟨status, linkInfo⟩ := entryAfter_sent dev devState.sent
  refine ⟨_, kept, key_entryAfter dev _, ?_, linkInfo⟩
  rw [status]
  exact isAvailable_of_tracks attached.valid attached.registered.toTracks reported

/-- When no call is under way, the entry of a configured device whose link is available has the
link information of the device. -/
theorem Attached.configured {dev : String} {devState : DevInterfaceState} {supplierId : UInt32}
    (attached : this.Attached dev devState supplierId) (settled : this.underWay = [])
    (reported : devState.HasReported) {cfg : InterfaceConfiguration}
    (delivered : Delivered dev cfg devState) (up : devState.linkUp = true)
    (lowerUp : devState.lowerUp = true) :
    ∃ entry, this.connection.directory.entry supplierId = some entry ∧
      entry.key = (.ethernet, dev) ∧ entry.status.isAvailable = true ∧
      devState.linkInfo = some entry.netLinkInfo ∧ Derives dev cfg.ipStatic entry.netLinkInfo := by
  obtain ⟨entry, kept, key, available, linkInfo⟩ := attached.settled settled reported
  have linkAvailable : devState.connLinkState = .linkAvailable :=
    (attached.registered.available attached.valid).mpr ⟨up, lowerUp⟩
  obtain ⟨info, current, derives⟩ := delivered.derives
  rw [delivered.delivered linkAvailable, current, Option.getD_some] at linkInfo
  refine ⟨entry, kept, key, ?_, ?_, ?_⟩
  · rw [available, up, lowerUp]
    rfl
  · rw [linkInfo, current]
  · rw [linkInfo]
    exact derives

end EthernetSystem

end NetManager
