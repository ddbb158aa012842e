/-
This file settles which MTU the interface of a network has in netd. An update sends
the MTU when the recorded one differs, for the interface it names; it does not send it
when only the interface differs. So the interface that is recorded now has the recorded
MTU exactly when every update that kept the MTU named an interface that had already
been given this MTU last.

What an interface was given last depends on the updates alone (`mtuGiven`).
-/

import NetManager.Conn.LinkHistory

namespace NetManager

open Library

/-- The MTU a call gives the interface. -/
def NetdCall.mtu? (iface : String) : NetdCall → Option Int
  | .interfaceSetMtu ifName mtu => if ifName = iface then some mtu else none
  | _ => none

namespace Network

/-! ### What an interface was given -/

/-- The MTU an interface is given by the last of the updates that name it and change the MTU. -/
def mtuGiven (iface : String) (recorded : NetLinkInfo) : List NetLinkInfo → Option UInt16
  | [] => none
  | update :: rest =>
    (mtuGiven iface update rest).or
      (if update.ifaceName = iface ∧ update.mtu ≠ recorded.mtu then some update.mtu else none)

theorem mtuGiven_concat (iface : String) (recorded : NetLinkInfo) (updates : List NetLinkInfo)
    (last : NetLinkInfo) :
    mtuGiven iface recorded (updates ++ [last]) =
      (if last.ifaceName = iface ∧ last.mtu ≠ (updates.getLast?.getD recorded).mtu then
        some last.mtu else none).or (mtuGiven iface recorded updates) := by
  induction updates generalizing recorded with
  | nil =>
    show Option.none.or _ = Option.or _ none
    rw [Option.none_or, Option.or_none]
    rfl
  | cons update rest inductionHypothesis =>
    rw [List.cons_append, mtuGiven, mtuGiven, inductionHypothesis, Option.or_assoc,
      List.getLast?_cons]
    rfl

/-- As long as all updates name the interface, it is given every change of the MTU. -/
theorem mtuGiven_of_named {iface : String} {updates : List NetLinkInfo}
    (named : ∀ update ∈ updates, update.ifaceName = iface) (recorded : NetLinkInfo) :
    (mtuGiven iface recorded updates).getD recorded.mtu =
      (updates.getLast?.getD recorded).mtu := by
  induction updates generalizing recorded with
  | nil => rfl
  | cons update rest inductionHypothesis =>
    obtain ⟨first, others⟩ := List.forall_mem_cons.mp named
    have last := inductionHypothesis others update
    rw [List.getLast?_cons, mtuGiven]
    cases given : mtuGiven iface update rest with
    | some mtu =>
      rw [given] at last
      exact last
    | none =>
      rw [given] at last
      rw [Option.none_or]
      refine Eq.trans ?_ last
      by_cases same : update.mtu = recorded.mtu
      · rw [if_neg fun changed => changed.2 same]
        exact same.symm
      · rw [if_pos ⟨first, same⟩]
        rfl

/-- An update gives an interface its MTU when it names the interface and changes the MTU. -/
theorem mtu_linkInfoCalls (iface : String) (netId : Int) (old new : NetLinkInfo) :
    latest (NetdCall.mtu? iface) (linkInfoCalls netId old new) =
      if new.ifaceName = iface ∧ new.mtu ≠ old.mtu then some (new.mtu.toNat : Int) else none := by
  have silent : latest (NetdCall.mtu? iface) (updateInterfaces netId old new ++
      updateRoutes netId old new ++ updateDnses netId new) = none := by
    refine latest_eq_none (List.forall_mem_append.mpr ⟨List.forall_mem_append.mpr ⟨?_, ?_⟩, ?_⟩)
    · exact forall_updateInterfaces old new (fun _ => rfl) (fun _ => rfl)
    · exact forall_updateRoutes old new (fun _ _ _ => rfl) (fun _ _ _ => rfl)
    · exact List.forall_mem_singleton.mpr rfl
  unfold linkInfoCalls
  rw [latest_append, silent, Option.or_none]
  unfold updateMtu
  by_cases same : new.mtu = old.mtu
  · simp [same, latest]
  · rw [if_neg same, latest_singleton]
    simp [NetdCall.mtu?, same]

/-- What the calls of a run give an interface last. -/
theorem mtu_run (iface : String) (ledger : Ledger) (updates : List NetLinkInfo) :
    latest (NetdCall.mtu? iface) (run Ledger.update ledger updates).calls =
      ((mtuGiven iface ledger.netLinkInfo updates).map fun mtu => (mtu.toNat : Int)).or
        (latest (NetdCall.mtu? iface) ledger.calls) := by
  induction updates generalizing ledger with
  | nil => rfl
  | cons update rest inductionHypothesis =>
    have issued : (ledger.update update).calls = ledger.calls ++
        linkInfoCalls ledger.netId ledger.netLinkInfo update := rfl
    rw [run_cons, inductionHypothesis, issued, latest_append, mtu_linkInfoCalls, mtuGiven,
      Option.map_or, Option.or_assoc]
    split
    · rfl
    · rfl

/-! ### The recorded MTU -/

/-- If an interface and an MTU are recorded, the last MTU the network gave the interface is the
recorded one. -/
def MtuInForce (this : Ref Network) (history : History) : Prop :=
  (history.world.network this).netLinkInfo.ifaceName ≠ "" →
    (history.world.network this).netLinkInfo.mtu ≠ 0 →
      latest (NetdCall.mtu? (history.world.network this).netLinkInfo.ifaceName) history.calls =
        some ((history.world.network this).netLinkInfo.mtu.toNat : Int)

instance (this : Ref Network) (history : History) : Decidable (MtuInForce this history) :=
  inferInstanceAs (Decidable (_ → _ → _))

/-- An update that keeps the MTU the earlier ones left names an interface that was given this MTU
last. -/
def KeepsMtu (earlier : List NetLinkInfo) (update : NetLinkInfo) : Prop :=
  update.ifaceName ≠ "" → update.mtu ≠ 0 → update.mtu = (earlier.getLast?.getD {}).mtu →
    mtuGiven update.ifaceName {} earlier = some update.mtu

theorem mtuInForce_iff (world : World) (supplier : Ref NetSupplier) (earlier : List NetLinkInfo)
    (update : NetLinkInfo) :
    MtuInForce (make world supplier).1 (run (historyStep (make world supplier).1)
        (created world supplier) (earlier ++ [update])) ↔ KeepsMtu earlier update := by
  have read := ledger_run world supplier (earlier ++ [update])
  generalize run (historyStep (make world supplier).1) (created world supplier)
    (earlier ++ [update]) = history at read ⊢
  have recorded : (history.world.network (make world supplier).1).netLinkInfo = update := by
    refine (congrArg Ledger.netLinkInfo read).trans ?_
    rw [Ledger.netLinkInfo_run, List.getLast?_concat]
    rfl
  have calls : history.calls = (run Ledger.update (newLedger world) (earlier ++ [update])).calls :=
    congrArg Ledger.calls read
  have fresh : latest (NetdCall.mtu? update.ifaceName) (newLedger world).calls = none :=
    latest_singleton _ _
  have start : (newLedger world).netLinkInfo = {} := rfl
  unfold MtuInForce KeepsMtu
  rw [recorded, calls, mtu_run, fresh, Option.or_none, start, mtuGiven_concat]
  refine imp_congr_right fun _ => imp_congr_right fun _ => ?_
  by_cases same : update.mtu = (earlier.getLast?.getD {}).mtu
  · have injective : Function.Injective fun mtu : UInt16 => (mtu.toNat : Int) :=
      fun first second equal => UInt16.toNat_inj.mp (Int.ofNat.inj equal)
    rw [if_neg fun changed => changed.2 same, Option.none_or, imp_iff_right same]
    exact (Option.map_injective injective).eq_iff' rfl
  · rw [if_pos ⟨rfl, same⟩, Option.some_or]
    exact iff_of_true rfl fun equal => absurd equal same

/-- When each update that keeps the MTU names an interface that was given this MTU last, the
recorded interface always has the recorded MTU. -/
theorem mtuInForce_of_keepsMtu (world : World) (supplier : Ref NetSupplier)
    {updates : List NetLinkInfo}
    (keeps : ∀ earlier update later, updates = earlier ++ update :: later →
      KeepsMtu earlier update) :
    Always (historyStep (make world supplier).1) (MtuInForce (make world supplier).1)
      (created world supplier) updates := by
  intro before after split
  rcases List.eq_nil_or_concat before with rfl | ⟨earlier, update, rfl⟩
  · have unnamed : ((created world supplier).world.network (make world supplier).1).netLinkInfo =
        {} := congrArg Ledger.netLinkInfo (ledger_created world supplier)
    intro named
    rw [run_nil, unnamed] at named
    exact absurd rfl named
  · rw [List.concat_eq_append] at split ⊢
    refine (mtuInForce_iff world supplier earlier update).mpr (keeps earlier update after ?_)
    rw [split, List.append_assoc]
    rfl

/-- After every update of a new network the recorded interface has the recorded MTU exactly when
each update that keeps the MTU names an interface that was given this MTU last. -/
theorem mtuInForce_run (world : World) (supplier : Ref NetSupplier) (updates : List NetLinkInfo) :
    Always (historyStep (make world supplier).1) (MtuInForce (make world supplier).1)
        (created world supplier) updates ↔
      ∀ earlier update later, updates = earlier ++ update :: later → KeepsMtu earlier update := by
  constructor
  · intro always earlier update later split
    refine (mtuInForce_iff world supplier earlier update).mp (always _ later ?_)
    rw [split, List.append_assoc]
    rfl
  · exact mtuInForce_of_keepsMtu world supplier

/-- A network that never changes its interface always has the recorded MTU. -/
theorem mtuInForce_of_named (world : World) (supplier : Ref NetSupplier) {iface : String}
    {updates : List NetLinkInfo} (named : ∀ update ∈ updates, update.ifaceName = iface) :
    Always (historyStep (make world supplier).1) (MtuInForce (make world supplier).1)
      (created world supplier) updates := by
  refine mtuInForce_of_keepsMtu world supplier ?_
  rintro earlier update later rfl _ nonzero kept
  obtain ⟨before, rest⟩ := List.forall_mem_append.mp named
  have last := mtuGiven_of_named before {}
  rw [(List.forall_mem_cons.mp rest).1]
  cases given : mtuGiven iface {} earlier with
  | none =>
    rw [given, ← kept] at last
    exact absurd last.symm nonzero
  | some mtu =>
    rw [given, ← kept] at last
    exact congrArg some last

/-- Link information of an interface with the MTU of ethernet. -/
def ethernetLink (ifaceName : String) : NetLinkInfo where
  ifaceName := ifaceName
  mtu := 1500

/-- A second interface with the MTU of the first is never given it. -/
theorem second_interface_without_mtu :
    (make { answers := fun _ => 1 } ⟨0⟩).1 = ⟨0⟩ ∧
      ¬MtuInForce ⟨0⟩ (run (historyStep ⟨0⟩) (created { answers := fun _ => 1 } ⟨0⟩)
        [ethernetLink "eth0", ethernetLink "eth1"]) := by
  decide

end Network

end NetManager
