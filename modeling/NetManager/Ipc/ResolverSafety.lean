/-
This file settles which requests crash the DNS resolver service. Every handler of the stub gives up
when a field of the request cannot be read, except one: the hints of `GetAddrInfo` are passed on
as they were unmarshalled, and that is a null pointer when the request ends too early. The service
dereferences it as soon as the host name is valid. Nothing else that a request carries leads to a
null pointer.
-/

import NetManager.Ipc.DnsResolverService

namespace NetManager

open Library Parcel

namespace DnsResolverService

open EthernetService Traced

/-- When the call is `GetAddrInfo`, it comes with hints. -/
def HasHints : ServiceCall → Prop
  | .getAddrInfo _ _ hints => hints ≠ none
  | _ => True

/-- After the two names the request has no complete hints. -/
def HintsMissing (code : UInt32) (data : List ParcelCell) : Prop :=
  code = cmdGetAddrInfo ∧ ∃ hostname server rest,
    data = .interfaceToken descriptor :: .string hostname :: .string server :: rest ∧
      ∀ (hints : DnsAddrInfo) (after : List ParcelCell), rest ≠ hints.cells ++ after

section Safety

variable (commonErrOffset : Int) {netd : Netd} (fills : netd.FillsAddresses)

/-! ### The service -/

theorem safe_processIp {addr : AddrInfo} (present : addr.aiAddr ≠ none)
    (addrInfo : List INetAddr) : (processIp addr addrInfo).Safe HasHints := by
  obtain ⟨address, known⟩ := Option.ne_none_iff_exists'.mp present
  unfold processIp
  rw [safe_require_bind]
  exact ⟨address, known, safe_pure _ _⟩

theorem safe_describe {cur : AddrInfo} (present : cur.aiFamily = afInet → cur.aiAddr ≠ none) :
    (describe cur).Safe HasHints := by
  unfold describe
  dsimp only
  split
  · rename_i internet
    obtain ⟨addr, known⟩ := Option.ne_none_iff_exists'.mp (present internet)
    rw [safe_require_bind]
    exact ⟨addr, known, safe_pure _ _⟩
  · exact safe_pure _ _

include fills

theorem safe_getAddressesByName (hostName : String) :
    (getAddressesByName netd hostName).Safe HasHints := by
  unfold getAddressesByName
  rw [safe_touch_bind]
  refine ⟨trivial, ?_⟩
  split
  · exact safe_pure _ _
  · dsimp only
    split
    · exact safe_pure _ _
    · split
      · exact safe_pure _ _
      · rw [safe_bind]
        refine ⟨safe_foldlM HasHints (fun addrInfo cur member => ?_) [], fun _ _ => safe_pure _ _⟩
        have filled := fills _ _ _ _ cur member
        split
        · rename_i internet
          exact safe_processIp (filled (Or.inl internet)) addrInfo
        · split
          · rename_i internet
            exact safe_processIp (filled (Or.inr internet)) addrInfo
          · exact safe_pure _ _

/-- With hints, `GetAddrInfo` is safe. -/
theorem safe_getAddrInfo (hostName server : String) (hints : DnsAddrInfo) :
    (getAddrInfo netd hostName server (some hints)).Safe HasHints := by
  unfold getAddrInfo
  rw [safe_touch_bind]
  refine ⟨Option.some_ne_none hints, ?_⟩
  split
  · exact safe_pure _ _
  · rw [require_some_bind]
    dsimp only
    split
    · exact safe_pure _ _
    · split
      · exact safe_pure _ _
      · rw [safe_bind]
        refine ⟨safe_foldlM HasHints (fun dnsAddrInfo cur member => ?_) [],
          fun _ _ => safe_pure _ _⟩
        rw [safe_bind]
        refine ⟨safe_describe fun internet => ?_, fun _ _ => safe_pure _ _⟩
        exact fills _ _ _ _ cur member (Or.inl internet)

omit fills

/-- Without hints, `GetAddrInfo` returns exactly for host names that are not valid. -/
theorem getAddrInfo_none (hostName server : String) :
    getAddrInfo netd hostName server none =
      ⟨[.getAddrInfo hostName server none],
        if isDomainValid hostName then none else some (dnsError, [])⟩ := by
  unfold getAddrInfo
  cases isDomainValid hostName <;> rfl

/-! ### The stub -/

theorem safe_onNetworkCache {method : UInt16 → Traced ServiceCall Int32}
    (safe : ∀ netId, (method netId).Safe HasHints) (data : List ParcelCell) :
    (onNetworkCache commonErrOffset method data).Safe HasHints := by
  unfold onNetworkCache
  split
  · exact safe_pure _ _
  · rw [safe_bind]
    exact ⟨safe _, fun _ _ => safe_pure _ _⟩

theorem safe_onSetResolverConfig (data : List ParcelCell) :
    (onSetResolverConfig commonErrOffset netd data).Safe HasHints := by
  unfold onSetResolverConfig
  split
  · exact safe_pure _ _
  · unfold setResolverConfig
    simp only [safe_bind, safe_touch, safe_pure, HasHints]
    simp

theorem safe_onGetResolverInfo (data : List ParcelCell) :
    (onGetResolverInfo commonErrOffset netd data).Safe HasHints := by
  unfold onGetResolverInfo
  split
  · exact safe_pure _ _
  · unfold getResolverInfo
    simp only [safe_bind, safe_touch, safe_pure, HasHints]
    simp

/-- A sequence of a string and what follows it. -/
theorem run_readString_eq_some (data : List ParcelCell) (text : String) (rest : List ParcelCell) :
    readString.run data = some (text, rest) ↔ data = .string text :: rest := by
  rw [exact_readString, and_iff_right trivial, List.singleton_append]

/-- The hints are null when the request has no complete ones. -/
theorem hints_eq_none_iff (rest : List ParcelCell) :
    (DnsAddrInfo.unmarshalling.run rest).map Prod.fst = none ↔
      ∀ (hints : DnsAddrInfo) (after : List ParcelCell), rest ≠ hints.cells ++ after := by
  rw [Option.map_eq_none_iff, Option.eq_none_iff_forall_ne_some, Prod.forall]
  simp only [ne_eq, DnsAddrInfo.exact_unmarshalling rest, not_and]
  constructor
  · intro absent hints after
    exact absent { hints with canonName := "" } after rfl
  · intro absent hints after _
    exact absent hints after

include fills

theorem safe_onGetAddressesByName (data : List ParcelCell) :
    (onGetAddressesByName commonErrOffset netd data).Safe HasHints := by
  unfold onGetAddressesByName
  split
  · exact safe_pure _ _
  · rw [safe_bind]
    exact ⟨safe_getAddressesByName fills _, fun _ _ => safe_pure _ _⟩

/-- `OnGetAddrInfo` is safe unless the hints are missing after the two names. -/
theorem safe_onGetAddrInfo_iff (data : List ParcelCell) :
    (onGetAddrInfo commonErrOffset netd data).Safe HasHints ↔
      ¬ HintsMissing cmdGetAddrInfo (.interfaceToken descriptor :: data) := by
  have complete (missing : HintsMissing cmdGetAddrInfo (.interfaceToken descriptor :: data)) :
      ∃ hostname server rest, readString.run data = some (hostname, .string server :: rest) ∧
        (DnsAddrInfo.unmarshalling.run rest).map Prod.fst = none := by
    obtain ⟨_, hostname, server, rest, split, absent⟩ := missing
    obtain ⟨_, rfl⟩ := List.cons.inj split
    exact ⟨hostname, server, rest, rfl, (hints_eq_none_iff rest).mpr absent⟩
  unfold onGetAddrInfo
  cases readHost : readString.run data with
  | none =>
    refine iff_of_true (safe_pure _ _) fun missing => ?_
    obtain ⟨_, _, _, found, _⟩ := complete missing
    rw [readHost] at found
    cases found
  | some host =>
    obtain ⟨hostname, afterHost⟩ := host
    dsimp only
    cases readServer : readString.run afterHost with
    | none =>
      refine iff_of_true (safe_pure _ _) fun missing => ?_
      obtain ⟨_, _, _, found, _⟩ := complete missing
      rw [readHost] at found
      cases found
      cases readServer
    | some serverRest =>
      obtain ⟨server, rest⟩ := serverRest
      dsimp only
      obtain rfl := (run_readString_eq_some _ _ _).mp readServer
      obtain rfl := (run_readString_eq_some _ _ _).mp readHost
      cases hints : (DnsAddrInfo.unmarshalling.run rest).map Prod.fst with
      | none =>
        refine iff_of_false ?_ (not_not_intro ⟨rfl, hostname, server, rest, rfl,
          (hints_eq_none_iff rest).mp hints⟩)
        rw [safe_bind]
        rintro ⟨⟨entered, _⟩, _⟩
        rw [getAddrInfo_none] at entered
        exact entered _ (List.mem_singleton_self _) rfl
      | some hints' =>
        refine iff_of_true ?_ fun missing => ?_
        · rw [safe_bind]
          exact ⟨safe_getAddrInfo fills hostname server hints', fun _ _ => safe_pure _ _⟩
        · obtain ⟨_, _, _, found, absent⟩ := complete missing
          cases found
          rw [hints] at absent
          cases absent

/-! ### Every request -/

/-- A request that names the interface. -/
theorem named_request_safe_iff (ipcObjectStub : UInt32 → List ParcelCell → Handled)
    (code : UInt32) (data : List ParcelCell) :
    (onRemoteRequest commonErrOffset netd ipcObjectStub code
        (.interfaceToken descriptor :: data)).Safe HasHints ↔
      ¬ HintsMissing code (.interfaceToken descriptor :: data) := by
  rw [onRemoteRequest_eq]
  by_cases addrInfo : code = cmdGetAddrInfo
  · rw [addrInfo, ← safe_onGetAddrInfo_iff commonErrOffset fills]
    rfl
  · refine iff_of_true ?_ fun missing => addrInfo missing.1
    unfold memberFuncMap
    rw [if_neg addrInfo]
    split_ifs
    · exact safe_onGetAddressesByName commonErrOffset fills data
    · exact safe_onNetworkCache commonErrOffset
        (fun _ => by simp [createNetworkCache, safe_touch_bind, HasHints]) data
    · exact safe_onNetworkCache commonErrOffset
        (fun _ => by simp [destoryNetworkCache, safe_touch_bind, HasHints]) data
    · exact safe_onNetworkCache commonErrOffset
        (fun _ => by simp [flushNetworkCache, safe_touch_bind, HasHints]) data
    · exact safe_onSetResolverConfig commonErrOffset data
    · exact safe_onGetResolverInfo commonErrOffset data
    · exact safe_pure _ _

omit fills in
/-- A request that does not name it is refused. -/
theorem unnamed_request_safe (ipcObjectStub : UInt32 → List ParcelCell → Handled) (code : UInt32)
    {data : List ParcelCell} (unnamed : ∀ rest, data ≠ .interfaceToken descriptor :: rest) :
    (onRemoteRequest commonErrOffset netd ipcObjectStub code data).Safe HasHints := by
  unfold onRemoteRequest
  cases token : readInterfaceToken.run data with
  | none =>
    rw [Option.getD_none]
    dsimp only
    rw [if_pos (by decide)]
    exact safe_pure _ _
  | some found =>
    obtain ⟨remoteDescripter, rest⟩ := found
    have other : descriptor ≠ remoteDescripter := by
      rintro rfl
      exact unnamed rest ((exact_readInterfaceToken _ _ _).mp token).2
    rw [Option.getD_some]
    dsimp only
    rw [if_pos other]
    exact safe_pure _ _

/-- A request is handled safely unless it is one for addresses whose hints are missing. -/
theorem request_safe_of_hints (ipcObjectStub : UInt32 → List ParcelCell → Handled) {code : UInt32}
    {data : List ParcelCell} (complete : ¬ HintsMissing code data) :
    (onRemoteRequest commonErrOffset netd ipcObjectStub code data).Safe HasHints := by
  by_cases named : ∃ rest, data = .interfaceToken descriptor :: rest
  · obtain ⟨rest, rfl⟩ := named
    exact (named_request_safe_iff commonErrOffset fills ipcObjectStub code rest).mpr complete
  · exact unnamed_request_safe commonErrOffset ipcObjectStub code
      fun rest same => named ⟨rest, same⟩

/-- A request is handled safely exactly when it is not one for addresses whose hints are
missing. -/
theorem request_safe_iff (ipcObjectStub : UInt32 → List ParcelCell → Handled) (code : UInt32)
    (data : List ParcelCell) :
    (onRemoteRequest commonErrOffset netd ipcObjectStub code data).Safe HasHints ↔
      ¬ HintsMissing code data := by
  constructor
  · intro safe missing
    obtain ⟨_, hostname, server, rest, rfl, _⟩ := id missing
    exact (named_request_safe_iff commonErrOffset fills ipcObjectStub code _).mp safe missing
  · exact request_safe_of_hints commonErrOffset fills ipcObjectStub

omit fills

end Safety

/-- A complete request for addresses is safe. -/
theorem complete_request_safe :
    (onRemoteRequest 0 oneAddress (fun _ _ => ⟨0, []⟩) cmdGetAddrInfo
      ([.interfaceToken descriptor, .string "a.b.cd", .string ""] ++
        ({ family := afInet } : DnsAddrInfo).cells)).Safe HasHints := by
  refine (request_safe_iff 0 oneAddress_fills _ _ _).mpr ?_
  rintro ⟨_, hostname, server, rest, split, absent⟩
  simp only [List.cons_append, List.nil_append, List.cons.injEq, ParcelCell.string.injEq] at split
  obtain ⟨_, _, _, rfl⟩ := split
  exact absent { family := afInet } [] rfl

/-- A request for the addresses of a valid host name that ends after the names dereferences a null
pointer. -/
theorem truncated_request_crashes :
    let request := onRemoteRequest 0 oneAddress (fun _ _ => ⟨0, []⟩) cmdGetAddrInfo
      [.interfaceToken descriptor, .string "a.b.cd", .string ""]
    request.accesses = [.getAddrInfo "a.b.cd" "" none] ∧ request.result = none ∧
      ¬ request.Safe HasHints := by
  intro request
  have crashed : request.result = none := by decide
  refine ⟨by decide, crashed, ?_⟩
  rintro ⟨_, handled, returned⟩
  rw [crashed] at returned
  cases returned

/-- Of the requests whose hints are missing, the ones for a valid host name crash. -/
theorem request_crashes_iff (commonErrOffset : Int) {netd : Netd} (fills : netd.FillsAddresses)
    (ipcObjectStub : UInt32 → List ParcelCell → Handled) (code : UInt32)
    (data : List ParcelCell) :
    (onRemoteRequest commonErrOffset netd ipcObjectStub code data).result = none ↔
      HintsMissing code data ∧
        ∃ hostname rest, data = .interfaceToken descriptor :: .string hostname :: rest ∧
          isDomainValid hostname = true := by
  by_cases missing : HintsMissing code data
  · rw [and_iff_right missing]
    obtain ⟨rfl, hostname, server, rest, rfl, absent⟩ := missing
    have entered : (onRemoteRequest commonErrOffset netd ipcObjectStub cmdGetAddrInfo
        (.interfaceToken descriptor :: .string hostname :: .string server :: rest)).result = none ↔
        (getAddrInfo netd hostname server none).result = none := by
      rw [onRemoteRequest_eq]
      show (onGetAddrInfo commonErrOffset netd _).result = none ↔ _
      unfold onGetAddrInfo
      rw [(run_readString_eq_some _ hostname (.string server :: rest)).mpr rfl]
      dsimp only
      rw [(run_readString_eq_some _ server rest).mpr rfl]
      dsimp only
      rw [(hints_eq_none_iff rest).mpr absent, result_bind]
      cases (getAddrInfo netd hostname server none).result <;> simp
    rw [entered, getAddrInfo_none]
    cases valid : isDomainValid hostname with
    | true => exact iff_of_true rfl ⟨hostname, _, rfl, valid⟩
    | false =>
      refine iff_of_false (Option.some_ne_none _) ?_
      rintro ⟨_, _, same, isValid⟩
      cases same
      rw [valid] at isValid
      cases isValid
  · refine iff_of_false ?_ fun both => missing both.1
    obtain ⟨_, handled, returned⟩ :=
      request_safe_of_hints commonErrOffset fills ipcObjectStub missing
    rw [returned]
    exact Option.some_ne_none handled

end DnsResolverService

end NetManager
