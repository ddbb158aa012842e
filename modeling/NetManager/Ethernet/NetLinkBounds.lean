/-
This file settles which received bytes are parsed without reading past them. The two walks never
leave the bytes, whatever lengths are claimed. But the interface information of a link message is
read without asking whether the message is long enough to have it, and the name of an interface is
copied up to the next NUL without asking where the attribute ends. So parsing stays inside exactly
as long as every link message has its interface information inside, and every name that is copied
has a NUL inside.
-/

import NetManager.Ethernet.NetLinkRtnl
import Mathlib.Data.List.Induction

namespace NetManager

open Library

namespace NetLinkRtnl

/-! ### Names -/

/-- Copying a string stays inside exactly when there is a NUL inside. -/
theorem safe_cString (bytes : List UInt8) (offset : Nat) (len : Int32) :
    (cString bytes offset).Safe (Access.Within len) ↔
      ∃ index : Nat, bytes[index]? = some 0 ∧ (offset + index : Int) < len.toInt := by
  induction bytes generalizing offset with
  | nil =>
    refine iff_of_false ?_ ?_
    · rintro ⟨_, name, returned⟩
      cases returned
    · rintro ⟨index, found, _⟩
      cases found
  | cons byte rest inductionHypothesis =>
    have here : Access.Within len (.character offset) ↔ (offset + 1 : Int) ≤ len.toInt :=
      Iff.rfl
    rw [cString, Traced.safe_bind_of_result _ rfl, Traced.safe_touch, here]
    by_cases nul : byte = 0
    · subst nul
      rw [if_pos rfl, and_iff_left (Traced.safe_pure _ _)]
      constructor
      · exact fun inside => ⟨0, rfl, by omega⟩
      · rintro ⟨index, _, inside⟩
        omega
    · rw [if_neg nul, Traced.safe_bind, inductionHypothesis]
      constructor
      · rintro ⟨_, ⟨index, found, inside⟩, _⟩
        exact ⟨index + 1, found, by push_cast; omega⟩
      · rintro ⟨index, found, inside⟩
        cases index with
        | zero => exact absurd (Option.some.inj found) nul
        | succ index =>
          push_cast at inside
          exact ⟨by omega, ⟨index, found, by omega⟩, fun _ _ => Traced.safe_pure _ _⟩

theorem result_cString {bytes : List UInt8} (terminated : 0 ∈ bytes) (offset : Nat) :
    (cString bytes offset).result = some (bytes.takeWhile (· ≠ 0)) := by
  induction bytes generalizing offset with
  | nil => cases terminated
  | cons byte rest inductionHypothesis =>
    rw [cString, Traced.result_bind, Traced.result_touch, Option.bind_some]
    by_cases nul : byte = 0
    · subst nul
      rfl
    · have later : 0 ∈ rest := (List.mem_cons.mp terminated).resolve_left (Ne.symm nul)
      rw [if_neg nul, Traced.result_bind, inductionHypothesis later, Option.bind_some,
        List.takeWhile_cons_of_pos (by simpa using nul)]
      rfl

section Bounds

variable (platform : Platform) (memory : List UInt8)

/-! ### What a message says -/

/-- The attributes the loop of a link message enters. -/
def attributesAt (nh : Nat) : List Nat :=
  match platform.order.u32At memory nh with
  | none => []
  | some nlmsgLen =>
    (attributes platform).visited memory (nh + 32) (nlmsgLen - 32).toInt32

/-- The attribute has type `IFLA_IFNAME`. -/
def isName (attr : Nat) : Bool :=
  (platform.order.u16At memory (attr + 2)).any fun rtaType => rtaType.toNat == iflaIfname

/-- The attribute the name of the interface is taken from. -/
def nameAt (nh : Nat) : Option Nat := ((attributesAt platform memory nh).filter
  (isName platform memory)).getLast?

/-- The message is about a link. -/
def isLinkAt (nh : Nat) : Bool := (platform.order.u16At memory (nh + 4)).any isLink

/-- The message is about an Ethernet link. -/
def isEtherAt (nh : Nat) : Bool := platform.order.u16At memory (nh + 18) == some arphrdEther

/-- The name of the interface. -/
def ifaceAt (nh : Nat) : String :=
  match nameAt platform memory nh with
  | none => ""
  | some attr => text ((memory.drop (attr + 4)).takeWhile (· ≠ 0))

/-- What a link message says, if it is about an Ethernet link. -/
def linkInfoAt (nh : Nat) : Option NlkEventInfo :=
  if isEtherAt platform memory nh then
    some {
      iface := ifaceAt platform memory nh
      ifiFlags := ((platform.order.u32At memory (nh + 24)).getD 0).toUInt64 }
  else none

/-- The name that is copied ends inside. -/
def NameInside (len : Int32) (nh : Nat) : Prop :=
  ∀ attr, nameAt platform memory nh = some attr →
    ∃ index : Nat, attr + 4 ≤ index ∧ (index : Int) < len.toInt ∧ memory[index]? = some 0

/-- The interface information of a link message is inside, and so is the end of the name that is
copied. -/
def LinkInside (len : Int32) (nh : Nat) : Prop :=
  (nh + 32 : Int) ≤ len.toInt ∧
    (isEtherAt platform memory nh = true → NameInside platform memory len nh)

/-- The link messages among the received messages. -/
def linkMessages (len : Int32) : List Nat :=
  ((messages platform).visited memory 0 len).filter (isLinkAt platform memory)

/-- Every link message is inside. -/
def LinksInside (len : Int32) : Prop :=
  ∀ nh ∈ linkMessages platform memory len, LinkInside platform memory len nh

/-! ### The loop over the attributes -/

/-- `tb` after one round. -/
def entered (tb : AttributeTable platform) (attr : Nat) : AttributeTable platform :=
  match platform.order.u16At memory (attr + 2) with
  | none => tb
  | some rtaType => enter platform rtaType attr tb

variable {platform memory}

theorem nameEntry_enter (rtaType : UInt16) (attr : Nat) (tb : AttributeTable platform) :
    nameEntry platform (enter platform rtaType attr tb) =
      if rtaType.toNat = iflaIfname then some attr else nameEntry platform tb := by
  have known := platform.iflaIfname_le
  unfold enter nameEntry
  by_cases place : rtaType.toNat ≤ platform.iflaMax
  · rw [dif_pos place, Function.update_apply]
    by_cases same : rtaType.toNat = iflaIfname
    · rw [if_pos same, if_pos (Fin.ext same.symm)]
    · rw [if_neg same, if_neg]
      exact fun equal => same (congrArg Fin.val equal).symm
  · have other : rtaType.toNat ≠ iflaIfname := by
      intro same
      exact place (same ▸ known)
    rw [dif_neg place, if_neg other]

theorem nameEntry_entered (attr : Nat) (tb : AttributeTable platform) :
    nameEntry platform (entered platform memory tb attr) =
      if isName platform memory attr then some attr else nameEntry platform tb := by
  unfold entered isName
  cases platform.order.u16At memory (attr + 2) with
  | none => rfl
  | some rtaType =>
    rw [nameEntry_enter]
    exact if_congr beq_iff_eq.symm rfl rfl

/-- The loop leaves the last name attribute in its entry. -/
theorem nameEntry_foldl (attrs : List Nat) :
    nameEntry platform (attrs.foldl (entered platform memory) fun _ => none) =
      (attrs.filter (isName platform memory)).getLast? := by
  induction attrs using List.reverseRecOn with
  | nil => rfl
  | append_singleton attrs attr inductionHypothesis =>
    rw [List.foldl_append, List.foldl_cons, List.foldl_nil, nameEntry_entered,
      List.filter_append, inductionHypothesis]
    by_cases name : isName platform memory attr = true
    · rw [if_pos name, List.filter_cons_of_pos name, List.filter_nil, List.getLast?_concat]
    · rw [if_neg name, List.filter_cons_of_neg name, List.filter_nil, List.append_nil]

/-- What remains of a message after its headers, which may be less than nothing. -/
theorem toInt_data {nlmsgLen : UInt32} (header : 16 ≤ nlmsgLen.toNat)
    (small : nlmsgLen.toNat < 2 ^ 31) :
    (nlmsgLen - 32).toInt32.toInt = nlmsgLen.toNat - 32 := by
  show (nlmsgLen.toBitVec - 32#32).toInt = nlmsgLen.toBitVec.toNat - 32
  have header : 16 ≤ nlmsgLen.toBitVec.toNat := header
  have small : nlmsgLen.toBitVec.toNat < 2 ^ 31 := small
  have thirtyTwo : (32#32).toNat = 32 := rfl
  rw [BitVec.toInt_eq_toNat_cond, BitVec.toNat_sub, thirtyTwo]
  split
  · omega
  · omega

variable {len : Int32} {nh : Nat} {nlmsgLen : UInt32}

/-- A round of the loop enters the attribute in the table. -/
theorem collect_round {attr : Nat} {rtaType : UInt16} (inside : (attr + 4 : Int) ≤ len.toInt)
    (typed : platform.order.u16At memory (attr + 2) = some rtaType)
    (tb : AttributeTable platform) :
    (collect platform memory attr tb).Safe (Access.Within len) ∧
      (collect platform memory attr tb).result = some (entered platform memory tb attr) := by
  unfold collect entered
  rw [Traced.safe_bind_of_result _ rfl, Traced.safe_touch, Traced.result_bind,
    Traced.result_touch, Option.bind_some, typed, Traced.require_some_bind]
  exact ⟨⟨inside, Traced.safe_pure _ _⟩, rfl⟩

/-- Whatever lengths the attributes claim, the loop over them stays in the message. -/
theorem collect_spec (received : len.toInt ≤ memory.length)
    (claimed : platform.order.u32At memory nh = some nlmsgLen) (header : 16 ≤ nlmsgLen.toNat)
    (inside : (nh + nlmsgLen.toNat : Int) ≤ len.toInt) :
    ((attributes platform).walk memory (collect platform memory) (nh + 32)
        (nlmsgLen - 32).toInt32 fun _ => none).Safe (Access.Within len) ∧
      ∃ tb, ((attributes platform).walk memory (collect platform memory) (nh + 32)
          (nlmsgLen - 32).toInt32 fun _ => none).result = some tb ∧
        nameEntry platform tb = nameAt platform memory nh := by
  have short := len.toInt_lt
  have data := toInt_data header (by omega)
  have visitedAt : attributesAt platform memory nh =
      (attributes platform).visited memory (nh + 32) (nlmsgLen - 32).toInt32 := by
    unfold attributesAt
    rw [claimed]
  have touches : ∀ attr : Nat, (attr + (attributes platform).header : Int) ≤ len.toInt →
      Access.Within len ((attributes platform).touch attr) := fun _ fits => fits
  have readable : ∀ attr : Nat, (attr + (attributes platform).header : Int) ≤ len.toInt →
      ∃ rtaLen, (attributes platform).size memory attr = some rtaLen := by
    intro attr fits
    have fits : (attr + 4 : Int) ≤ len.toInt := fits
    obtain ⟨rtaLen, read⟩ : ∃ rtaLen, platform.order.u16At memory attr = some rtaLen :=
      ByteOrder.exists_u16At (by omega)
    exact ⟨rtaLen.toUInt32, congrArg (Option.map UInt16.toUInt32) read⟩
  have round : ∀ attr ∈ (attributes platform).visited memory (nh + 32) (nlmsgLen - 32).toInt32,
      ∀ tb, (collect platform memory attr tb).Safe (Access.Within len) ∧
        (collect platform memory attr tb).result = some (entered platform memory tb attr) := by
    intro attr member
    obtain ⟨rtaLen, _, least, fits⟩ := RecordKind.claims_of_visited member
    have least : 4 ≤ rtaLen.toNat := least
    push_cast at fits
    obtain ⟨rtaType, typed⟩ : ∃ rtaType, platform.order.u16At memory (attr + 2) = some rtaType :=
      ByteOrder.exists_u16At (by omega)
    exact collect_round (by omega) typed
  obtain ⟨safe, result⟩ := RecordKind.walk_spec touches readable (by push_cast; omega)
    (fun attr member tb => iff_true_intro (round attr member tb).1)
    (fun attr member _ tb => (round attr member tb).2) fun _ => none
  refine ⟨safe.mpr fun _ _ => trivial, _, result fun _ _ => trivial, ?_⟩
  rw [nameEntry_foldl, ← visitedAt]
  rfl

/-- The name is copied from the last name attribute. -/
theorem readName_spec {tb : AttributeTable platform}
    (name : nameEntry platform tb = nameAt platform memory nh) :
    ((readName platform memory tb).Safe (Access.Within len) ↔
        NameInside platform memory len nh) ∧
      (NameInside platform memory len nh →
        (readName platform memory tb).result = some (ifaceAt platform memory nh)) := by
  unfold readName NameInside ifaceAt
  rw [name]
  cases nameAt platform memory nh with
  | none =>
    refine ⟨iff_of_true (Traced.safe_pure _ _) fun attr absent => ?_, fun _ => rfl⟩
    cases absent
  | some attr =>
    have nul : (∃ index : Nat, (memory.drop (attr + 4))[index]? = some 0 ∧
        ((attr + 4 : Nat) + index : Int) < len.toInt) ↔
          ∃ index : Nat, attr + 4 ≤ index ∧ (index : Int) < len.toInt ∧
            memory[index]? = some 0 := by
      constructor
      · rintro ⟨index, found, inside⟩
        rw [List.getElem?_drop] at found
        exact ⟨attr + 4 + index, by omega, by push_cast at inside ⊢; omega, found⟩
      · rintro ⟨index, after, inside, found⟩
        obtain ⟨distance, rfl⟩ := Nat.exists_eq_add_of_le after
        refine ⟨distance, by rw [List.getElem?_drop]; exact found, ?_⟩
        push_cast at inside ⊢
        omega
    dsimp only
    rw [Traced.safe_map, safe_cString, nul]
    constructor
    · exact ⟨fun terminated _ same => Option.some.inj same ▸ terminated,
        fun terminated => terminated attr rfl⟩
    · intro terminated
      obtain ⟨index, found, _⟩ := nul.mpr (terminated attr rfl)
      rw [Traced.result_map, result_cString (List.mem_of_getElem? found), Option.map_some]

/-- Reading a message about an Ethernet link whose interface information is inside. -/
theorem readLink_ether (received : len.toInt ≤ memory.length)
    (claimed : platform.order.u32At memory nh = some nlmsgLen) (header : 16 ≤ nlmsgLen.toNat)
    (inside : (nh + nlmsgLen.toNat : Int) ≤ len.toInt) (reach : (nh + 32 : Int) ≤ len.toInt)
    (ether : platform.order.u16At memory (nh + 18) = some arphrdEther) :
    ((readLink platform memory nh).Safe (Access.Within len) ↔
        NameInside platform memory len nh) ∧
      (NameInside platform memory len nh →
        (readLink platform memory nh).result = some (linkInfoAt platform memory nh)) := by
  have info : Access.Within len (.ifinfomsg (nh + 16)) := reach
  have own : Access.Within len (.nlmsghdr nh) := by
    show (nh + 16 : Int) ≤ len.toInt
    omega
  obtain ⟨ifiFlags, flagged⟩ : ∃ ifiFlags,
      platform.order.u32At memory (nh + 24) = some ifiFlags :=
    ByteOrder.exists_u32At (by omega)
  obtain ⟨safe, tb, collected, name⟩ := collect_spec received claimed header inside
  obtain ⟨nameSafe, nameResult⟩ : (_ ↔ NameInside platform memory len nh) ∧ _ :=
    readName_spec name
  unfold readLink
  rw [ether, Traced.require_some_bind, if_neg (not_not.mpr rfl), claimed,
    Traced.require_some_bind, flagged]
  constructor
  · rw [Traced.safe_bind_of_result _ rfl, Traced.safe_touch, and_iff_right info,
      Traced.safe_bind_of_result _ rfl, Traced.safe_touch, and_iff_right own,
      Traced.safe_bind_of_result _ collected, and_iff_right safe, Traced.safe_bind, nameSafe]
    refine and_iff_left fun iface _ => ?_
    rw [Traced.safe_bind_of_result _ rfl, Traced.safe_touch]
    exact ⟨info, Traced.safe_pure _ _⟩
  · intro nameInside
    have kind : isEtherAt platform memory nh = true := by
      unfold isEtherAt
      rw [ether]
      exact beq_self_eq_true _
    unfold linkInfoAt
    rw [if_pos kind, flagged]
    simp only [Traced.result_bind, Traced.result_touch, Option.bind_some, collected,
      nameResult nameInside]
    rfl

/-- Reading a link message that is inside, as far as its header claims. -/
theorem readLink_spec (received : len.toInt ≤ memory.length)
    (claimed : platform.order.u32At memory nh = some nlmsgLen) (header : 16 ≤ nlmsgLen.toNat)
    (inside : (nh + nlmsgLen.toNat : Int) ≤ len.toInt) :
    ((readLink platform memory nh).Safe (Access.Within len) ↔
        LinkInside platform memory len nh) ∧
      (LinkInside platform memory len nh →
        (readLink platform memory nh).result = some (linkInfoAt platform memory nh)) := by
  have info : Access.Within len (.ifinfomsg (nh + 16)) ↔ (nh + 32 : Int) ≤ len.toInt := Iff.rfl
  unfold LinkInside
  by_cases reach : (nh + 32 : Int) ≤ len.toInt
  · obtain ⟨ifiType, typed⟩ : ∃ ifiType, platform.order.u16At memory (nh + 18) = some ifiType :=
      ByteOrder.exists_u16At (by omega)
    have kind : isEtherAt platform memory nh = true ↔ ifiType = arphrdEther := by
      unfold isEtherAt
      rw [typed, beq_iff_eq, Option.some.injEq]
    rw [and_iff_right reach, kind]
    by_cases ether : ifiType = arphrdEther
    · subst ether
      have spec := readLink_ether received claimed header inside reach typed
      rwa [forall_prop_of_true rfl]
    · unfold readLink linkInfoAt
      rw [Traced.safe_bind_of_result _ rfl, Traced.safe_touch, info, Traced.result_bind,
        Traced.result_touch, Option.bind_some, typed, Traced.require_some_bind, if_pos ether,
        if_neg (fun same => ether (kind.mp same))]
      exact ⟨iff_of_true ⟨reach, Traced.safe_pure _ _⟩ fun same => absurd same ether,
        fun _ => rfl⟩
  · refine ⟨iff_of_false (fun safe => reach ?_) fun inside => reach inside.1, ?_⟩
    · unfold readLink at safe
      rw [Traced.safe_bind_of_result _ rfl, Traced.safe_touch, info] at safe
      exact safe.1
    · exact fun inside => absurd inside.1 reach

/-! ### The loop over the messages -/

/-- A parser that reads a link message and goes on with what it says. -/
structure ReadsLink {State : Type} (platform : Platform) (memory : List UInt8) (len : Int32)
    (process : Nat → State → Traced Access State)
    (next : State → Option NlkEventInfo → State) : Prop where
  safe : ∀ nh state, (process nh state).Safe (Access.Within len) ↔
    (readLink platform memory nh).Safe (Access.Within len)
  returns : ∀ nh info, (readLink platform memory nh).result = some info → ∀ state,
    (process nh state).result = some (next state info)

theorem readsLink_pushLinkMsg (platform : Platform) (memory : List UInt8) (len : Int32) :
    ReadsLink platform memory len (pushLinkMsg platform memory)
      fun infos info => infos ++ [info.getD {}] where
  safe nh infos := by
    unfold pushLinkMsg processLinkMsg
    rw [Traced.safe_bind, Traced.safe_map]
    exact and_iff_left fun _ _ => Traced.safe_pure _ _
  returns nh info read infos := by
    unfold pushLinkMsg processLinkMsg
    rw [Traced.result_bind, Traced.result_map, read]
    rfl

theorem readsLink_processIfInfoMsg {Handler : Type} (platform : Platform) (memory : List UInt8)
    (len : Int32) (nlkHandles : List Handler) :
    ReadsLink platform memory len (processIfInfoMsg platform memory nlkHandles)
      fun handled info => handled ++ info.toList.flatMap fun info =>
        nlkHandles.map fun handle => (handle, info) where
  safe nh handled := by
    unfold processIfInfoMsg
    rw [Traced.safe_bind]
    refine and_iff_left fun info _ => ?_
    cases info with
    | none => exact Traced.safe_pure _ _
    | some info => exact Traced.safe_pure _ _
  returns nh info read handled := by
    unfold processIfInfoMsg
    rw [Traced.result_bind, read, Option.bind_some]
    cases info with
    | none =>
      show some handled = some (handled ++ [])
      rw [List.append_nil]
    | some info =>
      show some _ = some (handled ++ List.flatMap _ [info])
      rw [List.flatMap_singleton]

section OnLink

variable {State : Type} {process : Nat → State → Traced Access State}
variable {next : State → Option NlkEventInfo → State}

/-- A round of the loop over the messages parses a link message and passes over another one. -/
theorem onLink_round (reads : ReadsLink platform memory len process next)
    (received : len.toInt ≤ memory.length)
    (member : nh ∈ (messages platform).visited memory 0 len) (state : State) :
    ((onLink platform memory process nh state).Safe (Access.Within len) ↔
        (isLinkAt platform memory nh = true → LinkInside platform memory len nh)) ∧
      ((isLinkAt platform memory nh = true → LinkInside platform memory len nh) →
        (onLink platform memory process nh state).result =
          some (if isLinkAt platform memory nh then next state (linkInfoAt platform memory nh)
            else state)) := by
  obtain ⟨nlmsgLen, claimed, header, fits⟩ := RecordKind.claims_of_visited member
  have header : 16 ≤ nlmsgLen.toNat := header
  have own : Access.Within len (.nlmsghdr nh) := by
    show (nh + 16 : Int) ≤ len.toInt
    omega
  obtain ⟨nlmsgType, typed⟩ : ∃ nlmsgType,
      platform.order.u16At memory (nh + 4) = some nlmsgType :=
    ByteOrder.exists_u16At (by omega)
  obtain ⟨linkSafe, linkResult⟩ : (_ ↔ LinkInside platform memory len nh) ∧ _ :=
    readLink_spec received claimed header (by omega)
  unfold onLink isLinkAt
  rw [Traced.safe_bind_of_result _ rfl, Traced.safe_touch, and_iff_right own,
    Traced.result_bind, Traced.result_touch, Option.bind_some, typed, Traced.require_some_bind,
    Option.any_some]
  by_cases link : isLink nlmsgType = true
  · rw [if_pos link, if_pos link, reads.safe, linkSafe]
    exact ⟨⟨fun inside _ => inside, fun inside => inside link⟩,
      fun inside => reads.returns nh _ (linkResult (inside link)) state⟩
  · rw [if_neg link, if_neg link]
    exact ⟨iff_of_true (Traced.safe_pure _ _) fun same => absurd same link, fun _ => rfl⟩

/-- The loop over the messages is safe exactly when every link message is inside; and then it goes
on with what they say, one after the other. -/
theorem onLink_spec (reads : ReadsLink platform memory len process next)
    (received : len.toInt ≤ memory.length) (state : State) :
    (((messages platform).walk memory (onLink platform memory process) 0 len state).Safe
        (Access.Within len) ↔ LinksInside platform memory len) ∧
      (LinksInside platform memory len →
        ((messages platform).walk memory (onLink platform memory process) 0 len state).result =
          some ((linkMessages platform memory len).foldl
            (fun state nh => next state (linkInfoAt platform memory nh)) state)) := by
  have touches : ∀ nh : Nat, (nh + (messages platform).header : Int) ≤ len.toInt →
      Access.Within len ((messages platform).touch nh) := fun _ fits => fits
  have readable : ∀ nh : Nat, (nh + (messages platform).header : Int) ≤ len.toInt →
      ∃ nlmsgLen, (messages platform).size memory nh = some nlmsgLen := by
    intro nh fits
    have fits : (nh + 16 : Int) ≤ len.toInt := fits
    exact ByteOrder.exists_u32At (by omega)
  obtain ⟨walkSafe, walkResult⟩ := RecordKind.walk_spec touches readable (by push_cast; omega)
    (fun nh member state => (onLink_round reads received member state).1)
    (fun nh member inside state => (onLink_round reads received member state).2 inside) state
  have links : LinksInside platform memory len ↔
      ∀ nh ∈ (messages platform).visited memory 0 len,
        isLinkAt platform memory nh = true → LinkInside platform memory len nh := by
    unfold LinksInside linkMessages
    simp only [List.mem_filter, and_imp]
  rw [links]
  refine ⟨walkSafe, fun inside => (walkResult inside).trans ?_⟩
  unfold linkMessages
  rw [List.foldl_filter]

end OnLink

/-- `ProcessReadMsg` reads inside exactly when every link message is inside; and then it collects
what they say. -/
theorem processReadMsg_spec (received : len.toInt ≤ memory.length) (infos : List NlkEventInfo) :
    ((processReadMsg platform (some memory) len infos).Safe (Access.Within len) ↔
        LinksInside platform memory len) ∧
      (LinksInside platform memory len →
        (processReadMsg platform (some memory) len infos).result =
          some (infos ++ (linkMessages platform memory len).map fun nh =>
            (linkInfoAt platform memory nh).getD {})) := by
  have spec := onLink_spec (readsLink_pushLinkMsg platform memory len) received infos
  rw [List.foldl_append_eq_append, ← List.flatMap_def, ← List.map_eq_flatMap] at spec
  exact spec

/-- `ProcessLinkEventMsg` reads inside exactly when every link message is inside; and then it
hands what the messages about Ethernet links say to every handler. -/
theorem processLinkEventMsg_spec {Handler : Type} (nlkHandles : List Handler)
    (received : len.toInt ≤ memory.length) (handled : List (Handler × NlkEventInfo)) :
    ((processLinkEventMsg platform nlkHandles (some memory) len handled).Safe
        (Access.Within len) ↔ LinksInside platform memory len) ∧
      (LinksInside platform memory len →
        (processLinkEventMsg platform nlkHandles (some memory) len handled).result =
          some (handled ++ ((linkMessages platform memory len).filterMap
            (linkInfoAt platform memory)).flatMap fun info =>
              nlkHandles.map fun handle => (handle, info))) := by
  have spec := onLink_spec (readsLink_processIfInfoMsg platform memory len nlkHandles) received
    handled
  rw [List.foldl_append_eq_append, ← List.flatMap_def] at spec
  rw [List.filterMap_eq_flatMap_toList, List.flatMap_assoc]
  exact spec

/-- For every buffer and every received length that is not larger, both parsers return having read
received bytes only, exactly when every link message is inside. -/
theorem parsing_inside_iff {Handler : Type} (platform : Platform) (memory : List UInt8)
    (len : Int32) (received : len.toInt ≤ memory.length) (nlkHandles : List Handler) :
    ((processReadMsg platform (some memory) len []).Safe (Access.Within len) ↔
        LinksInside platform memory len) ∧
      ((processLinkEventMsg platform nlkHandles (some memory) len []).Safe (Access.Within len) ↔
        LinksInside platform memory len) :=
  ⟨(processReadMsg_spec received []).1, (processLinkEventMsg_spec nlkHandles received []).1⟩

end Bounds

/-! ### Examples of received bytes -/

/-- A little-endian machine whose kernel headers know 62 attribute types. -/
def littlePlatform : Platform where
  order := .little
  iflaMax := 62
  iflaIfname_le := by decide

/-- An `RTM_NEWLINK` message about an Ethernet link with one name attribute, of the given name and
of the four bytes of the given payload. -/
def namedLink (payload : List UInt8) : List UInt8 :=
  [40, 0, 0, 0, 16, 0, 0, 0, 0, 0, 0, 0, 0, 0, 0, 0, 0, 0, 1, 0, 0, 0, 0, 0, 3, 0, 1, 0,
    0, 0, 0, 0, 8, 0, 3, 0] ++ payload

/-- An `RTM_NEWLINK` message that ends after its header. -/
def headerOnly : List UInt8 := [16, 0, 0, 0, 16, 0, 0, 0, 0, 0, 0, 0, 0, 0, 0, 0]

/-- The link messages among the bytes of one message. -/
theorem linkMessages_single (platform : Platform) {memory : List UInt8} {len : Int32}
    {nlmsgLen : UInt32} (claimed : platform.order.u32At memory 0 = some nlmsgLen)
    (header : 16 ≤ nlmsgLen.toNat) (fits : (nlmsgLen.toNat : Int) ≤ len.toInt)
    (single : (remaining len nlmsgLen).toInt < 16) (link : isLinkAt platform memory 0 = true) :
    linkMessages platform memory len = [0] := by
  have visited : (messages platform).visited memory 0 len = [0] := by
    rw [RecordKind.visited_record claimed header fits, RecordKind.visited_short single]
  unfold linkMessages
  rw [visited, List.filter_cons_of_pos link, List.filter_nil]

/-- The one attribute of the message is the name. -/
theorem nameAt_namedLink (first second third fourth : UInt8) :
    nameAt littlePlatform (namedLink [first, second, third, fourth]) 0 = some 32 := by
  have sized : (attributes littlePlatform).size (namedLink [first, second, third, fourth]) 32 =
      some 8 := rfl
  have attrs : attributesAt littlePlatform (namedLink [first, second, third, fourth]) 0 = [32] := by
    have claimed : littlePlatform.order.u32At (namedLink [first, second, third, fourth]) 0 =
        some 40 := rfl
    have data : (40 - 32 : UInt32).toInt32 = 8 := by decide
    unfold attributesAt
    rw [claimed]
    dsimp only
    rw [data, RecordKind.visited_record sized (by decide) (by decide),
      RecordKind.visited_short (by decide)]
  have name : isName littlePlatform (namedLink [first, second, third, fourth]) 32 = true := rfl
  unfold nameAt
  rw [attrs, List.filter_cons_of_pos name, List.filter_nil, List.getLast?_singleton]

theorem linkMessages_namedLink (first second third fourth : UInt8) :
    linkMessages littlePlatform (namedLink [first, second, third, fourth]) 40 = [0] := by
  have claimed : littlePlatform.order.u32At (namedLink [first, second, third, fourth]) 0 =
      some 40 := rfl
  exact linkMessages_single littlePlatform claimed (by decide) (by decide) (by decide) rfl

/-- A name of two characters and two NULs is copied inside. -/
theorem terminated_name_inside :
    (processReadMsg littlePlatform (some (namedLink [108, 111, 0, 0])) 40 []).Safe
      (Access.Within 40) := by
  refine (parsing_inside_iff littlePlatform (namedLink [108, 111, 0, 0]) 40 (by decide)
    ([] : List Unit)).1.mpr ?_
  intro nh member
  rw [linkMessages_namedLink, List.mem_singleton] at member
  subst member
  refine ⟨by decide, fun _ attr named => ?_⟩
  rw [nameAt_namedLink, Option.some.injEq] at named
  subst named
  exact ⟨38, by decide, by decide, rfl⟩

/-- A name without a NUL is copied past the end of the message, and the interface information of
a message that is a header only is read past its end. -/
theorem unterminated_bytes_left :
    (¬ (processReadMsg littlePlatform (some (namedLink [101, 116, 104, 48])) 40 []).Safe
        (Access.Within 40) ∧
      ¬ (processLinkEventMsg littlePlatform [()] (some (namedLink [101, 116, 104, 48])) 40 []).Safe
        (Access.Within 40)) ∧
    (¬ (processReadMsg littlePlatform (some headerOnly) 16 []).Safe (Access.Within 16) ∧
      ¬ (processLinkEventMsg littlePlatform [()] (some headerOnly) 16 []).Safe
        (Access.Within 16)) := by
  have unterminated : ¬ LinksInside littlePlatform (namedLink [101, 116, 104, 48]) 40 := by
    intro inside
    have message := inside 0 (by rw [linkMessages_namedLink]; exact List.mem_singleton_self 0)
    obtain ⟨index, after, before, nul⟩ := message.2 rfl 32 (nameAt_namedLink 101 116 104 48)
    have before : (index : Int) < 40 := before
    obtain rfl | rfl | rfl | rfl : index = 36 ∨ index = 37 ∨ index = 38 ∨ index = 39 := by omega
    all_goals cases nul
  have short : ¬ LinksInside littlePlatform headerOnly 16 := by
    have claimed : littlePlatform.order.u32At headerOnly 0 = some 16 := rfl
    have links : linkMessages littlePlatform headerOnly 16 = [0] :=
      linkMessages_single littlePlatform claimed (by decide) (by decide) (by decide) rfl
    intro inside
    have message := inside 0 (by rw [links]; exact List.mem_singleton_self 0)
    exact absurd message.1 (by decide)
  have first : (40 : Int32).toInt ≤ (namedLink [101, 116, 104, 48]).length := by decide
  have second : (16 : Int32).toInt ≤ headerOnly.length := by decide
  exact ⟨⟨fun safe => unterminated ((processReadMsg_spec first []).1.mp safe),
      fun safe => unterminated ((processLinkEventMsg_spec [()] first []).1.mp safe)⟩,
    ⟨fun safe => short ((processReadMsg_spec second []).1.mp safe),
      fun safe => short ((processLinkEventMsg_spec [()] second []).1.mp safe)⟩⟩

end NetLinkRtnl

end NetManager
