/-
This file settles which replies crash a client of the DNS resolver. Both questions for addresses
read a count from the reply and then as many elements. `GetAddrInfo` gives up at the first element
that cannot be read; `GetAddressesByName` dereferences what it read without looking, and that is a
null pointer when the reply holds fewer addresses than it announces.
-/

import NetManager.Ipc.ResolverConfiguration

namespace NetManager

open Library Parcel

namespace DnsResolverService

open EthernetService Traced

/-! ### The methods of the proxy -/

/-- A pointer is dereferenced. -/
inductive Dereference
  | hints (pointer : Option DnsAddrInfo)
  | addr (pointer : Option INetAddr)

/-- The pointer is not null. -/
def Dereference.NotNull : Dereference → Prop
  | .hints pointer => pointer ≠ none
  | .addr pointer => pointer ≠ none

/-- The remote object of a proxy: how it handles a request. The proxy may have none. -/
abbrev Remote := Option (UInt32 → List ParcelCell → Handled)

section Proxy

variable (commonErrOffset : Int)

/-- `NETMANAGER_ERR_STRING_EMPTY`. -/
def netmanagerErrStringEmpty : Int := commonErrOffset + 4

/-- Send a request and read the reply. -/
def askRemote {Answer : Type} (remote : Remote) (code : UInt32) (data : List ParcelCell)
    (giveUp : Int → Answer) (read : List ParcelCell → Traced Dereference Answer) :
    Traced Dereference Answer :=
  match remote with
  | none => pure (giveUp (netmanagerErrIpcConnectStubFail commonErrOffset))
  | some sendRequest =>
    let handled := sendRequest code data
    if handled.code ≠ errNone then
      pure (giveUp (netmanagerErrIpcConnectStubFail commonErrOffset))
    else read handled.reply

/-- The loop of `GetAddressesByName`, with the rounds left: `addrInfo.push_back(*addr)`, whatever
`addr` is. -/
def pushAddresses : Nat → List INetAddr → List ParcelCell →
    Traced Dereference (List INetAddr × List ParcelCell)
  | 0, addrInfo, reply => pure (addrInfo, reply)
  | rounds + 1, addrInfo, reply => do
    let read := INetAddr.unmarshalling.run reply
    touch (.addr (read.map Prod.fst))
    let (addr, reply) ← require read
    pushAddresses rounds (addrInfo ++ [addr]) reply

/-- How `DnsResolverServiceProxy::GetAddressesByName` reads the reply. -/
def readAddresses (addrInfo : List INetAddr) (reply : List ParcelCell) :
    Traced Dereference (Int × List INetAddr) :=
  match readInt32.run reply with
  | none => pure (netmanagerErrReadReplyFail commonErrOffset, addrInfo)
  | some (vsize, reply) => do
    let (addrInfo, reply) ← pushAddresses vsize.toInt.toNat addrInfo reply
    pure (readResult reply, addrInfo)

/-- `DnsResolverServiceProxy::GetAddressesByName`: the code, and the list of the caller. -/
def proxyGetAddressesByName (remote : Remote) (hostName : String) (addrInfo : List INetAddr) :
    Traced Dereference (Int × List INetAddr) :=
  let giveUp (code : Int) := (code, addrInfo)
  if hostName = "" then pure (giveUp (netmanagerErrStringEmpty commonErrOffset))
  else
    match (writeInterfaceToken descriptor).run [] with
    | none => pure (giveUp (netmanagerErrWriteDescriptorTokenFail commonErrOffset))
    | some (_, data) =>
      match (writeString hostName).run data with
      | none => pure (giveUp (netmanagerErrWriteDataFail commonErrOffset))
      | some (_, data) =>
        askRemote commonErrOffset remote cmdGetAddrByName data giveUp
          (readAddresses commonErrOffset addrInfo)

/-- How `DnsResolverServiceProxy::GetAddrInfo` reads the reply. The elements stay behind their
pointers, and a null pointer ends the loop. -/
def readAddrInfo (dnsAddrInfo : List DnsAddrInfo) (reply : List ParcelCell) :
    Int × List DnsAddrInfo :=
  match readInt32.run reply with
  | none => (netmanagerErrReadReplyFail commonErrOffset, dnsAddrInfo)
  | some (vsize, reply) =>
    match pushMany DnsAddrInfo.unmarshalling vsize.toInt.toNat dnsAddrInfo reply with
    | (dnsAddrInfo, none) => (netmanagerErrLocalPtrNull commonErrOffset, dnsAddrInfo)
    | (dnsAddrInfo, some reply) => (readResult reply, dnsAddrInfo)

/-- `DnsResolverServiceProxy::GetAddrInfo`: the code, and the list of the caller. -/
def proxyGetAddrInfo (remote : Remote) (hostName server : String) (hints : Option DnsAddrInfo)
    (dnsAddrInfo : List DnsAddrInfo) : Traced Dereference (Int × List DnsAddrInfo) :=
  let giveUp (code : Int) := (code, dnsAddrInfo)
  if hostName = "" then pure (giveUp (netmanagerErrStringEmpty commonErrOffset))
  else
    match (writeInterfaceToken descriptor).run [] with
    | none => pure (giveUp (netmanagerErrWriteDescriptorTokenFail commonErrOffset))
    | some (_, data) =>
      match (do writeString hostName; writeString server : ParcelM Unit).run data with
      | none => pure (giveUp (netmanagerErrWriteDataFail commonErrOffset))
      | some (_, data) => do
        touch (.hints hints)
        let hints ← require hints
        match hints.marshalling.run data with
        | none => pure (giveUp (netmanagerErrWriteDataFail commonErrOffset))
        | some (_, data) =>
          askRemote commonErrOffset remote cmdGetAddrInfo data giveUp fun reply =>
            pure (readAddrInfo commonErrOffset dnsAddrInfo reply)

/-! ### The properties -/

/-- The request of `GetAddressesByName`. -/
def addressesRequest (hostName : String) : List ParcelCell :=
  [.interfaceToken descriptor, .string hostName]

/-- The request of `GetAddrInfo`. -/
def addrInfoRequest (hostName server : String) (hints : DnsAddrInfo) : List ParcelCell :=
  [.interfaceToken descriptor, .string hostName, .string server] ++ hints.cells

/-- The error codes of the two methods. -/
def proxyErrors : List Int :=
  [netmanagerErrStringEmpty commonErrOffset,
    netmanagerErrLocalPtrNull commonErrOffset,
    netmanagerErrWriteDescriptorTokenFail commonErrOffset,
    netmanagerErrWriteDataFail commonErrOffset,
    netmanagerErrReadReplyFail commonErrOffset,
    netmanagerErrIpcConnectStubFail commonErrOffset]

/-- The answer is what the reply holds: as many elements as its count announces, behind those the
caller had, and the code after them. -/
def IsDecoded {Item : Type} (unmarshalling : ParcelM Item) (caller : List Item)
    (reply : List ParcelCell) (answer : Int × List Item) : Prop :=
  ∃ vsize elements items rest, readInt32.run reply = some (vsize, elements) ∧
    (readMany unmarshalling vsize.toInt.toNat).run elements = some (items, rest) ∧
    answer = (readResult rest, caller ++ items)

/-- A call that sends this request dereferences no null pointer, and it returns an error code or
what the reply holds. -/
structure Survives {Item : Type} (unmarshalling : ParcelM Item) (caller : List Item)
    (remote : Remote) (code : UInt32) (data : List ParcelCell)
    (call : Traced Dereference (Int × List Item)) : Prop where
  safe : call.Safe Dereference.NotNull
  answered : ∀ answer, call.result = some answer → answer.1 ∈ proxyErrors commonErrOffset ∨
    ∃ sendRequest, remote = some sendRequest ∧
      IsDecoded unmarshalling caller (sendRequest code data).reply answer

/-- Both methods survive what the remote object replies. -/
structure ClientSurvives (remote : Remote) (hostName server : String) (hints : DnsAddrInfo)
    (addrInfo : List INetAddr) (dnsAddrInfo : List DnsAddrInfo) : Prop where
  getAddressesByName : Survives commonErrOffset INetAddr.unmarshalling addrInfo remote
    cmdGetAddrByName (addressesRequest hostName)
    (proxyGetAddressesByName commonErrOffset remote hostName addrInfo)
  getAddrInfo : Survives commonErrOffset DnsAddrInfo.unmarshalling dnsAddrInfo remote
    cmdGetAddrInfo (addrInfoRequest hostName server hints)
    (proxyGetAddrInfo commonErrOffset remote hostName server (some hints) dnsAddrInfo)

/-- A reply that starts with a count holds as many addresses. -/
def HoldsAnnounced (reply : List ParcelCell) : Prop :=
  ∀ vsize elements, reply = .int32 vsize :: elements →
    ∃ (items : List INetAddr) (rest : List ParcelCell), items.length = vsize.toInt.toNat ∧
      elements = items.flatMap INetAddr.cells ++ rest

/-! ### The two loops -/

/-- The loop of `GetAddressesByName` returns what can be read as a list, and otherwise not. -/
theorem pushAddresses_result (rounds : Nat) (addrInfo : List INetAddr) (reply : List ParcelCell) :
    (pushAddresses rounds addrInfo reply).result =
      ((readMany INetAddr.unmarshalling rounds).run reply).map fun read =>
        (addrInfo ++ read.1, read.2) := by
  induction rounds generalizing addrInfo reply with
  | zero =>
    show some (addrInfo, reply) = some (addrInfo ++ [], reply)
    rw [List.append_nil]
  | succ rounds inductionHypothesis =>
    rw [pushAddresses, readMany, result_bind, result_touch, Option.bind_some, StateT.run_bind]
    cases INetAddr.unmarshalling.run reply with
    | none => rfl
    | some found =>
      obtain ⟨item, remaining⟩ := found
      rw [require_some_bind]
      show (pushAddresses rounds (addrInfo ++ [item]) remaining).result = Option.map _
        ((readMany INetAddr.unmarshalling rounds >>= fun items =>
          pure (item :: items)).run remaining)
      rw [inductionHypothesis, StateT.run_bind]
      cases (readMany INetAddr.unmarshalling rounds).run remaining with
      | none => rfl
      | some read =>
        show some (addrInfo ++ [item] ++ read.1, read.2) = some (addrInfo ++ item :: read.1, read.2)
        rw [List.append_assoc, List.singleton_append]

/-- The loop of `GetAddressesByName` is safe exactly when all elements can be read. -/
theorem safe_pushAddresses (rounds : Nat) (addrInfo : List INetAddr) (reply : List ParcelCell) :
    (pushAddresses rounds addrInfo reply).Safe Dereference.NotNull ↔
      ∃ items rest, (readMany INetAddr.unmarshalling rounds).run reply = some (items, rest) := by
  induction rounds generalizing addrInfo reply with
  | zero => exact iff_of_true (safe_pure _ _) ⟨[], reply, rfl⟩
  | succ rounds inductionHypothesis =>
    rw [pushAddresses, safe_touch_bind, safe_require_bind]
    simp only [inductionHypothesis, readMany, run_bind_eq_some, Prod.exists]
    constructor
    · rintro ⟨_, item, remaining, readItem, others, rest, readOthers⟩
      exact ⟨item :: others, rest, item, remaining, readItem, others, rest, readOthers, rfl⟩
    · rintro ⟨_, _, item, remaining, readItem, others, rest, readOthers, _⟩
      refine ⟨?_, item, remaining, readItem, others, rest, readOthers⟩
      rw [readItem]
      exact Option.some_ne_none item

/-! ### Replies -/

theorem safe_readAddresses (addrInfo : List INetAddr) (reply : List ParcelCell) :
    (readAddresses commonErrOffset addrInfo reply).Safe Dereference.NotNull ↔
      HoldsAnnounced reply := by
  have reads (vsize : Int32) (elements : List ParcelCell) :
      readInt32.run reply = some (vsize, elements) ↔ reply = .int32 vsize :: elements := by
    rw [exact_readInt32, and_iff_right trivial, List.singleton_append]
  unfold readAddresses HoldsAnnounced
  cases count : readInt32.run reply with
  | none =>
    refine iff_of_true (safe_pure _ _) fun vsize elements same => ?_
    rw [(reads vsize elements).mpr same] at count
    cases count
  | some found =>
    obtain ⟨vsize, elements⟩ := found
    obtain rfl := (reads vsize elements).mp count
    dsimp only
    rw [safe_bind, and_iff_left fun _ _ => safe_pure _ _, safe_pushAddresses]
    simp only [exact_readMany INetAddr.exact_unmarshalling vsize.toInt.toNat elements, implies_true,
      and_true]
    constructor
    · rintro ⟨items, rest, held⟩ _ _ ⟨⟩
      exact ⟨items, rest, held⟩
    · intro held
      exact held vsize elements rfl

theorem answered_readAddresses {addrInfo : List INetAddr} {reply : List ParcelCell}
    {answer : Int × List INetAddr}
    (returned : (readAddresses commonErrOffset addrInfo reply).result = some answer) :
    answer.1 ∈ proxyErrors commonErrOffset ∨
      IsDecoded INetAddr.unmarshalling addrInfo reply answer := by
  unfold readAddresses at returned
  cases count : readInt32.run reply with
  | none =>
    rw [count] at returned
    cases returned
    exact Or.inl (by simp [proxyErrors])
  | some found =>
    obtain ⟨vsize, elements⟩ := found
    rw [count] at returned
    dsimp only at returned
    rw [result_bind, Option.bind_eq_some_iff, pushAddresses_result] at returned
    obtain ⟨pushed, pushes, last⟩ := returned
    obtain ⟨⟨items, rest⟩, read, rfl⟩ := Option.map_eq_some_iff.mp pushes
    cases last
    exact Or.inr ⟨vsize, elements, items, rest, count, read, rfl⟩

theorem answered_readAddrInfo (dnsAddrInfo : List DnsAddrInfo) (reply : List ParcelCell) :
    (readAddrInfo commonErrOffset dnsAddrInfo reply).1 ∈ proxyErrors commonErrOffset ∨
      IsDecoded DnsAddrInfo.unmarshalling dnsAddrInfo reply
        (readAddrInfo commonErrOffset dnsAddrInfo reply) := by
  unfold readAddrInfo
  cases count : readInt32.run reply with
  | none => exact Or.inl (by simp [proxyErrors])
  | some found =>
    obtain ⟨vsize, elements⟩ := found
    dsimp only
    cases pushes : pushMany DnsAddrInfo.unmarshalling vsize.toInt.toNat dnsAddrInfo elements with
    | mk pushed remaining =>
      cases remaining with
      | none => exact Or.inl (by simp [proxyErrors])
      | some rest =>
        obtain ⟨items, read, rfl⟩ := readMany_of_pushMany pushes
        exact Or.inr ⟨vsize, elements, items, rest, count, read, rfl⟩

/-! ### The two methods -/

variable (remote : Remote) (hostName server : String) (hints : DnsAddrInfo)
  (addrInfo : List INetAddr) (dnsAddrInfo : List DnsAddrInfo)

theorem proxyGetAddressesByName_eq (named : hostName ≠ "") :
    proxyGetAddressesByName commonErrOffset remote hostName addrInfo =
      askRemote commonErrOffset remote cmdGetAddrByName (addressesRequest hostName)
        (fun code => (code, addrInfo)) (readAddresses commonErrOffset addrInfo) :=
  if_neg named

theorem proxyGetAddrInfo_eq (named : hostName ≠ "") :
    proxyGetAddrInfo commonErrOffset remote hostName server (some hints) dnsAddrInfo =
      (do
        touch (.hints (some hints))
        askRemote commonErrOffset remote cmdGetAddrInfo (addrInfoRequest hostName server hints)
          (fun code => (code, dnsAddrInfo)) fun reply =>
            pure (readAddrInfo commonErrOffset dnsAddrInfo reply)) :=
  if_neg named

/-- A call that gives up, or reads the reply of the remote object. -/
theorem survives_askRemote_iff {Item : Type} {unmarshalling : ParcelM Item} {caller : List Item}
    {read : List ParcelCell → Traced Dereference (Int × List Item)}
    (answered : ∀ reply answer, (read reply).result = some answer →
      answer.1 ∈ proxyErrors commonErrOffset ∨ IsDecoded unmarshalling caller reply answer)
    (code : UInt32) (data : List ParcelCell) :
    Survives commonErrOffset unmarshalling caller remote code data
        (askRemote commonErrOffset remote code data (fun code => (code, caller)) read) ↔
      ∀ sendRequest, remote = some sendRequest → (sendRequest code data).code = errNone →
        (read (sendRequest code data).reply).Safe Dereference.NotNull := by
  have gaveUp : netmanagerErrIpcConnectStubFail commonErrOffset ∈ proxyErrors commonErrOffset := by
    simp [proxyErrors]
  cases remote with
  | none =>
    refine iff_of_true ⟨safe_pure _ _, ?_⟩ fun _ absent => by cases absent
    rintro answer ⟨⟩
    exact Or.inl gaveUp
  | some sendRequest =>
    unfold askRemote
    dsimp only
    split
    · rename_i failed
      refine iff_of_true ⟨safe_pure _ _, ?_⟩ ?_
      · rintro answer ⟨⟩
        exact Or.inl gaveUp
      · rintro _ ⟨⟩ reached
        exact absurd reached failed
    · rename_i reached
      constructor
      · rintro survives _ ⟨⟩ _
        exact survives.safe
      · intro safe
        refine ⟨safe sendRequest rfl (not_not.mp reached), fun answer returned => ?_⟩
        exact (answered _ answer returned).imp_right fun decoded =>
          ⟨sendRequest, rfl, decoded⟩

/-- `GetAddrInfo` survives every reply. -/
theorem getAddrInfo_survives :
    Survives commonErrOffset DnsAddrInfo.unmarshalling dnsAddrInfo remote
      cmdGetAddrInfo (addrInfoRequest hostName server hints)
      (proxyGetAddrInfo commonErrOffset remote hostName server (some hints) dnsAddrInfo) := by
  by_cases named : hostName = ""
  · unfold proxyGetAddrInfo
    rw [if_pos named]
    refine ⟨safe_pure _ _, ?_⟩
    rintro answer ⟨⟩
    exact Or.inl (by simp [proxyErrors])
  · rw [proxyGetAddrInfo_eq commonErrOffset remote hostName server hints dnsAddrInfo named]
    have asked : Survives commonErrOffset DnsAddrInfo.unmarshalling dnsAddrInfo remote
        cmdGetAddrInfo (addrInfoRequest hostName server hints)
        (askRemote commonErrOffset remote cmdGetAddrInfo (addrInfoRequest hostName server hints)
          (fun code => (code, dnsAddrInfo)) fun reply =>
            pure (readAddrInfo commonErrOffset dnsAddrInfo reply)) := by
      refine (survives_askRemote_iff commonErrOffset remote ?_ _ _).mpr fun _ _ _ => safe_pure _ _
      rintro reply answer ⟨⟩
      exact answered_readAddrInfo commonErrOffset dnsAddrInfo reply
    refine ⟨(safe_touch_bind _ _ _).mpr ⟨Option.some_ne_none hints, asked.safe⟩, ?_⟩
    intro answer returned
    rw [result_bind] at returned
    exact asked.answered answer returned

/-- The clients survive what is replied exactly when the reply to `GetAddressesByName`, if it
comes to one, holds the addresses it announces. -/
theorem clientSurvives_iff :
    ClientSurvives commonErrOffset remote hostName server hints addrInfo dnsAddrInfo ↔
      ∀ sendRequest, remote = some sendRequest → hostName ≠ "" →
        (sendRequest cmdGetAddrByName (addressesRequest hostName)).code = errNone →
          HoldsAnnounced (sendRequest cmdGetAddrByName (addressesRequest hostName)).reply := by
  have addresses : Survives commonErrOffset INetAddr.unmarshalling addrInfo remote
        cmdGetAddrByName (addressesRequest hostName)
        (proxyGetAddressesByName commonErrOffset remote hostName addrInfo) ↔
      ∀ sendRequest, remote = some sendRequest → hostName ≠ "" →
        (sendRequest cmdGetAddrByName (addressesRequest hostName)).code = errNone →
          HoldsAnnounced (sendRequest cmdGetAddrByName (addressesRequest hostName)).reply := by
    by_cases named : hostName = ""
    · unfold proxyGetAddressesByName
      rw [if_pos named]
      refine iff_of_true ⟨safe_pure _ _, ?_⟩ fun _ _ nonempty => absurd named nonempty
      rintro answer ⟨⟩
      exact Or.inl (by simp [proxyErrors])
    · rw [proxyGetAddressesByName_eq commonErrOffset remote hostName addrInfo named,
        survives_askRemote_iff commonErrOffset remote
          (fun _ _ => answered_readAddresses commonErrOffset)]
      simp only [safe_readAddresses, ne_eq, named, not_false_eq_true, forall_const]
  rw [← addresses]
  constructor
  · exact ClientSurvives.getAddressesByName
  · intro survives
    exact ⟨survives,
      getAddrInfo_survives commonErrOffset remote hostName server hints dnsAddrInfo⟩

end Proxy

/-- A reply that announces an address and ends. -/
theorem announced_address_missing :
    ¬ ClientSurvives 0 (some fun _ _ => ⟨errNone, [.int32 1]⟩) "a.b.cd" "" {} [] [] := by
  intro survives
  obtain ⟨answer, returned⟩ := survives.getAddressesByName.safe.2
  have crashed : (proxyGetAddressesByName 0 (some fun _ _ => ⟨errNone, [.int32 1]⟩) "a.b.cd"
      []).result = none := by decide
  rw [crashed] at returned
  cases returned

end DnsResolverService

end NetManager
