/-
This file compares the link information of a device after a DHCP result with its history. A result
replaces the addresses and the routes of the link information whatever was there before, but its
two DNS servers are added to the ones that are listed, where a static configuration replaces them.
So two histories lead to the same lists when both leave no DNS server behind, and a lease that is
renewed lists its servers once more each time.
-/

import NetManager.Ethernet.StaticConfiguration
import Mathlib.Data.List.Induction

namespace NetManager

open Library

namespace DevInterfaceState

/-! ### Histories -/

/-- What can happen to the link information of a device: `SetIfcfg` with a configuration, or
`UpdateLinkInfo(iface, result)` with a DHCP result. -/
inductive Update
  | setIfcfg (cfg : InterfaceConfiguration)
  | updateLinkInfo (iface : String) (result : DhcpResult)
deriving DecidableEq, Repr

def apply (this : DevInterfaceState) : Update → DevInterfaceState
  | .setIfcfg cfg => this.setIfcfg cfg
  | .updateLinkInfo iface result => this.updateLinkInfoDhcp iface result

/-- The three lists of a link information that the updates write. -/
structure LinkLists where
  netAddrList : List INetAddr
  routeList : List Route
  dnsList : List INetAddr
deriving DecidableEq, Repr

/-- The lists of the link information of the device, empty before it has one. -/
def lists (this : DevInterfaceState) : LinkLists :=
  let linkInfo := this.linkInfo.getD {}
  ⟨linkInfo.netAddrList, linkInfo.routeList, linkInfo.dnsList⟩

/-- The servers a DHCP result names, with the address type of the result. -/
def dhcpServers (result : DhcpResult) : List INetAddr :=
  [{ type := UInt8.ofInt result.iptype, address := result.strDns1 },
    { type := UInt8.ofInt result.iptype, address := result.strDns2 }]

/-- The addresses and the routes after a result depend on the interface and the result alone; the
servers are added to the ones before. -/
@[simp] theorem lists_updateLinkInfoDhcp (this : DevInterfaceState) (iface : String)
    (result : DhcpResult) :
    (this.updateLinkInfoDhcp iface result).lists =
      ⟨[{ type := UInt8.ofInt result.iptype, address := result.strYourCli }],
        dhcpRoute iface result result.strRouter1 ++ dhcpRoute iface result result.strRouter2,
        this.lists.dnsList ++ dhcpServers result⟩ := rfl

/-- A static configuration replaces the servers. -/
theorem dnsList_setIfcfg (this : DevInterfaceState) (cfg : InterfaceConfiguration) :
    (this.setIfcfg cfg).lists.dnsList =
      if cfg.mode = .static then cfg.ipStatic.dnsServers else this.lists.dnsList := by
  have stored := (this.setIfcfg_keepsConfiguration cfg).linkInfo
  simp only [lists, stored]
  by_cases static : cfg.mode = .static
  · simp only [if_pos static, Option.getD_some, staticLinkInfo]
  · simp only [if_neg static]

/-! ### The servers a history leaves -/

/-- The update writes the lists of the link information. -/
def Update.writes : Update → Bool
  | .setIfcfg cfg => decide (cfg.mode = .static)
  | .updateLinkInfo _ _ => true

/-- The history leaves no DNS server behind: the last update that writes the lists is a static
configuration without servers, or there is none and the device has no server. -/
def LeavesNoServer (this : DevInterfaceState) (history : List Update) : Prop :=
  match (history.filter Update.writes).getLast? with
  | none => this.lists.dnsList = []
  | some (.setIfcfg cfg) => cfg.ipStatic.dnsServers = []
  | some (.updateLinkInfo _ _) => False

instance (this : DevInterfaceState) (history : List Update) :
    Decidable (this.LeavesNoServer history) := by
  unfold LeavesNoServer
  split <;> infer_instance

/-- An update that does not write the lists keeps the servers. -/
theorem dnsList_apply_of_not_writes {update : Update} (silent : ¬ update.writes = true)
    (this : DevInterfaceState) : (this.apply update).lists.dnsList = this.lists.dnsList := by
  cases update with
  | setIfcfg cfg =>
    have notStatic : ¬ cfg.mode = .static := fun static => silent (decide_eq_true static)
    exact (this.dnsList_setIfcfg cfg).trans (if_neg notStatic)
  | updateLinkInfo iface result => exact absurd rfl silent

/-- The condition says what the run does to the servers. -/
theorem dnsList_run_eq_nil_iff (this : DevInterfaceState) (history : List Update) :
    (run apply this history).lists.dnsList = [] ↔ this.LeavesNoServer history := by
  induction history using List.reverseRecOn with
  | nil => exact Iff.rfl
  | append_singleton earlier update inductionHypothesis =>
    rw [run_concat]
    by_cases writes : update.writes = true
    · have last : ((earlier ++ [update]).filter Update.writes).getLast? = some update := by
        rw [List.filter_append, List.filter_cons_of_pos writes, List.filter_nil]
        exact List.getLast?_concat
      simp only [LeavesNoServer, last]
      cases update with
      | setIfcfg cfg =>
        have static : cfg.mode = .static := of_decide_eq_true writes
        simp only [apply, dnsList_setIfcfg, if_pos static]
      | updateLinkInfo iface result =>
        simp only [apply, lists_updateLinkInfoDhcp, dhcpServers, iff_false]
        exact List.append_ne_nil_of_right_ne_nil _ (List.cons_ne_nil _ _)
    · have same : (earlier ++ [update]).filter Update.writes = earlier.filter Update.writes := by
        rw [List.filter_append, List.filter_cons_of_neg writes, List.filter_nil, List.append_nil]
      rw [dnsList_apply_of_not_writes writes, inductionHypothesis]
      simp only [LeavesNoServer, same]

/-! ### Renewals -/

/-- A lease that is renewed lists its servers once more each time. -/
theorem dnsList_renewals (this : DevInterfaceState) (iface : String) (result : DhcpResult)
    (count : Nat) :
    (run apply this (List.replicate count (.updateLinkInfo iface result))).lists.dnsList =
      this.lists.dnsList ++ (List.replicate count (dhcpServers result)).flatten := by
  induction count generalizing this with
  | zero => exact (List.append_nil _).symm
  | succ count inductionHypothesis =>
    rw [List.replicate_succ, run_cons, inductionHypothesis, List.replicate_succ, List.flatten_cons,
      ← List.append_assoc]
    rfl

/-! ### Independence of history -/

/-- After a DHCP result the lists are the same for both histories, with exactly the two servers of
the result. -/
structure IndependentOfHistory (this : DevInterfaceState) (first second : List Update)
    (iface : String) (result : DhcpResult) : Prop where
  same : ((run apply this first).updateLinkInfoDhcp iface result).lists =
    ((run apply this second).updateLinkInfoDhcp iface result).lists
  servers : ((run apply this first).updateLinkInfoDhcp iface result).lists.dnsList =
    dhcpServers result

/-- The lists after a DHCP result do not depend on the history exactly when both histories leave
no DNS server behind. -/
theorem independentOfHistory_iff (this : DevInterfaceState) (first second : List Update)
    (iface : String) (result : DhcpResult) :
    this.IndependentOfHistory first second iface result ↔
      this.LeavesNoServer first ∧ this.LeavesNoServer second := by
  rw [← dnsList_run_eq_nil_iff, ← dnsList_run_eq_nil_iff]
  constructor
  · intro independent
    have same := congrArg LinkLists.dnsList independent.same
    have servers := independent.servers
    simp only [lists_updateLinkInfoDhcp] at same servers
    have none : (run apply this first).lists.dnsList = [] := List.append_left_eq_self.mp servers
    exact ⟨none, (List.append_cancel_right same).symm.trans none⟩
  · rintro ⟨firstNone, secondNone⟩
    constructor
    · simp only [lists_updateLinkInfoDhcp, firstNone, secondNone]
    · simp only [lists_updateLinkInfoDhcp, firstNone, List.nil_append]

/-- A fresh device whose lease is renewed lists four servers, where the first result listed two. -/
theorem renewed_lease_lists_servers_twice :
    let result : DhcpResult :=
      { iptype := 0, strYourCli := "10.0.0.5", strServer := "10.0.0.1", strRouter1 := "10.0.0.1",
        strRouter2 := "*", strDns1 := "8.8.8.8", strDns2 := "8.8.4.4" }
    ¬ DevInterfaceState.IndependentOfHistory { devName := "eth0" } []
      [.updateLinkInfo "eth0" result] "eth0" result := by
  intro result independent
  exact absurd independent.same (by decide)

end DevInterfaceState

end NetManager
