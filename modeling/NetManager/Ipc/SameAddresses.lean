/-
This file compares what the two questions for addresses answer. Both walk over the same list of
records. `GetAddressesByName` writes down the address of an internet record of either family;
`GetAddrInfo` describes every record, but writes down the address only when its family is
`AF_INET`. So they report the same addresses exactly when no record of the other family has a
text.
-/

import NetManager.Ipc.DnsResolverService

namespace NetManager

open Library Parcel

namespace DnsResolverService

open Traced

/-! ### What the resolver lists -/

/-- An internet record of the list that `getaddrinfo` makes. -/
structure InternetRecord (Address : Type) where
  flags : Int32
  sockType : Int32
  protocol : Int32
  ipv6 : Bool
  address : Address

namespace InternetRecord

variable {Address : Type} (inetNtop : Int32 → Address → String)

/-- `AF_INET` or `AF_INET6`. -/
def family (this : InternetRecord Address) : Int32 := if this.ipv6 then afInet6 else afInet

/-- The text that `inet_ntop` makes of the address. -/
def text (this : InternetRecord Address) : String := inetNtop this.family this.address

/-- The record as an entry of the list. -/
def entry (this : InternetRecord Address) : AddrInfo where
  aiFlags := this.flags
  aiFamily := this.family
  aiSocktype := this.sockType
  aiProtocol := this.protocol
  aiAddr := some (this.text inetNtop)

/-- What `GetAddressesByName` makes of the record. -/
def iNetAddr (this : InternetRecord Address) : INetAddr where
  family := UInt8.ofInt this.family.toInt
  address := this.text inetNtop

/-- What `GetAddrInfo` makes of the record. -/
def dnsAddrInfo (this : InternetRecord Address) : DnsAddrInfo where
  flags := this.flags
  family := this.family
  sockType := this.sockType
  protocol := this.protocol
  addr := if this.ipv6 then "" else this.text inetNtop

theorem family_agrees (this : InternetRecord Address) :
    (this.dnsAddrInfo inetNtop).family.toInt = (this.iNetAddr inetNtop).family.toNat := by
  show this.family.toInt = ((UInt8.ofInt this.family.toInt).toNat : Int)
  unfold family
  cases this.ipv6 <;> decide

/-- Both questions write down the same address unless it is one of `AF_INET6`. -/
theorem addr_eq_address_iff (this : InternetRecord Address) :
    (this.dnsAddrInfo inetNtop).addr = (this.iNetAddr inetNtop).address ↔
      (this.ipv6 = true → this.text inetNtop = "") := by
  show (if this.ipv6 then "" else this.text inetNtop) = this.text inetNtop ↔ _
  cases this.ipv6 with
  | false => exact iff_of_true rfl fun absurd => by cases absurd
  | true =>
    constructor
    · intro same _
      exact same.symm
    · intro empty
      exact (empty rfl).symm

end InternetRecord

/-! ### The two questions -/

section Questions

variable {Address : Type} (inetNtop : Int32 → Address → String) (netd : Netd)
  (records : List (InternetRecord Address)) (hostName server : String) (hints : DnsAddrInfo)

/-- netd, when it finds these records. -/
def finding : Netd :=
  { netd with getAddrInfo := fun _ _ _ _ => (0, records.map (InternetRecord.entry inetNtop)) }

/-- The two questions are answered with the same addresses, in the same order and of the same
families. -/
def SameAddresses : Prop :=
  ∃ firstCode addrInfo secondCode dnsAddrInfo,
    (getAddressesByName (finding inetNtop netd records) hostName).result =
        some (firstCode, addrInfo) ∧
      (getAddrInfo (finding inetNtop netd records) hostName server (some hints)).result =
        some (secondCode, dnsAddrInfo) ∧
      dnsAddrInfo.map DnsAddrInfo.addr = addrInfo.map INetAddr.address ∧
      dnsAddrInfo.map (fun info => info.family.toInt) =
        addrInfo.map fun address => (address.family.toNat : Int)

/-- The loop of `GetAddressesByName` pushes every record. -/
theorem process_entry (addrInfo : List INetAddr) (record : InternetRecord Address) :
    (if (record.entry inetNtop).aiFamily = afInet then processIPV4 (record.entry inetNtop) addrInfo
      else if (record.entry inetNtop).aiFamily = afInet6 then
        processIPV6 (record.entry inetNtop) addrInfo
      else pure addrInfo : Traced ServiceCall (List INetAddr)).result =
        some (addrInfo ++ [record.iNetAddr inetNtop]) := by
  cases version : record.ipv6 with
  | false =>
    have inet : (record.entry inetNtop).aiFamily = afInet := if_neg (by rw [version]; decide)
    rw [if_pos inet]
    rfl
  | true =>
    have inet6 : (record.entry inetNtop).aiFamily = afInet6 := if_pos version
    rw [if_neg (by rw [inet6]; decide), if_pos inet6]
    rfl

/-- The loop of `GetAddrInfo` pushes every record, without the text of an `AF_INET6` one. -/
theorem describe_entry (dnsAddrInfo : List DnsAddrInfo) (record : InternetRecord Address) :
    (do
      let d ← describe (record.entry inetNtop)
      pure (dnsAddrInfo ++ [d]) : Traced ServiceCall (List DnsAddrInfo)).result =
        some (dnsAddrInfo ++ [record.dnsAddrInfo inetNtop]) := by
  have described : (describe (record.entry inetNtop)).result =
      some (record.dnsAddrInfo inetNtop) := by
    unfold describe InternetRecord.dnsAddrInfo
    cases version : record.ipv6 with
    | false =>
      have inet : (record.entry inetNtop).aiFamily = afInet := if_neg (by rw [version]; decide)
      dsimp only
      rw [if_pos inet]
      rfl
    | true =>
      have inet6 : (record.entry inetNtop).aiFamily = afInet6 := if_pos version
      dsimp only
      rw [if_neg (by rw [inet6]; decide)]
      rfl
  rw [result_bind, described]
  rfl

/-- `GetAddressesByName` reports the records. -/
theorem getAddressesByName_finding (valid : isDomainValid hostName = true) :
    ∃ code, (getAddressesByName (finding inetNtop netd records) hostName).result =
      some (code, records.map (InternetRecord.iNetAddr inetNtop)) := by
  unfold getAddressesByName
  rw [result_bind, result_touch, Option.bind_some, valid]
  by_cases empty : records = []
  · subst empty
    exact ⟨dnsError, rfl⟩
  · have listed : records.map (InternetRecord.entry inetNtop) ≠ [] := by simpa using empty
    refine ⟨dnsSuccess, ?_⟩
    show (if records.map (InternetRecord.entry inetNtop) = [] then _ else _ :
      Traced ServiceCall (Int32 × List INetAddr)).result = _
    have looped : ((records.map (InternetRecord.entry inetNtop)).foldlM (fun addrInfo cur =>
        if cur.aiFamily = afInet then processIPV4 cur addrInfo
        else if cur.aiFamily = afInet6 then processIPV6 cur addrInfo
        else pure addrInfo) [] : Traced ServiceCall (List INetAddr)).result =
          some (records.map (InternetRecord.iNetAddr inetNtop)) := by
      rw [List.foldlM_map]
      exact result_foldlM_push (fun addrInfo record _ => process_entry inetNtop addrInfo record) []
    rw [if_neg listed, result_bind]
    exact congrArg (Option.bind · _) looped

/-- `GetAddrInfo` describes the records. -/
theorem getAddrInfo_finding (valid : isDomainValid hostName = true) :
    ∃ code, (getAddrInfo (finding inetNtop netd records) hostName server (some hints)).result =
      some (code, records.map (InternetRecord.dnsAddrInfo inetNtop)) := by
  unfold getAddrInfo
  rw [result_bind, result_touch, Option.bind_some, valid]
  by_cases empty : records = []
  · subst empty
    exact ⟨dnsError, rfl⟩
  · have listed : records.map (InternetRecord.entry inetNtop) ≠ [] := by simpa using empty
    refine ⟨dnsSuccess, ?_⟩
    show (if records.map (InternetRecord.entry inetNtop) = [] then _ else _ :
      Traced ServiceCall (Int32 × List DnsAddrInfo)).result = _
    have looped : ((records.map (InternetRecord.entry inetNtop)).foldlM (fun dnsAddrInfo cur => do
        let d ← describe cur
        pure (dnsAddrInfo ++ [d])) [] : Traced ServiceCall (List DnsAddrInfo)).result =
          some (records.map (InternetRecord.dnsAddrInfo inetNtop)) := by
      rw [List.foldlM_map]
      exact result_foldlM_push (fun info record _ => describe_entry inetNtop info record) []
    rw [if_neg listed, result_bind]
    exact congrArg (Option.bind · _) looped

/-- The two questions report the same addresses exactly when the host name is refused or no
`AF_INET6` record has a text. -/
theorem sameAddresses_iff :
    SameAddresses inetNtop netd records hostName server hints ↔
      (isDomainValid hostName = true →
        ∀ record ∈ records, record.ipv6 = true → record.text inetNtop = "") := by
  cases valid : isDomainValid hostName with
  | false =>
    refine iff_of_true ⟨dnsError, [], dnsError, [], ?_, ?_, rfl, rfl⟩ fun refused => ?_
    · unfold getAddressesByName
      rw [valid]
      rfl
    · unfold getAddrInfo
      rw [valid]
      rfl
    · cases refused
  | true =>
    obtain ⟨firstCode, byName⟩ := getAddressesByName_finding inetNtop netd records hostName valid
    obtain ⟨secondCode, described⟩ :=
      getAddrInfo_finding inetNtop netd records hostName server hints valid
    have addresses : (records.map (InternetRecord.dnsAddrInfo inetNtop)).map DnsAddrInfo.addr =
          (records.map (InternetRecord.iNetAddr inetNtop)).map INetAddr.address ↔
        ∀ record ∈ records, record.ipv6 = true → record.text inetNtop = "" := by
      rw [List.map_map, List.map_map, List.map_inj_left]
      exact forall₂_congr fun record _ => record.addr_eq_address_iff inetNtop
    refine Iff.trans ?_ (addresses.trans ⟨fun texts _ => texts, fun texts => texts rfl⟩)
    constructor
    · rintro ⟨_, addrInfo, _, dnsAddrInfo, first, second, same, _⟩
      rw [byName] at first
      rw [described] at second
      cases first
      cases second
      exact same
    · intro same
      refine ⟨firstCode, _, secondCode, _, byName, described, same, ?_⟩
      rw [List.map_map, List.map_map]
      exact List.map_congr_left fun record _ => record.family_agrees inetNtop

end Questions

/-- The loopback address of the sixth version. -/
theorem inet6_address_missing :
    ¬ SameAddresses (fun _ address => address) oneAddress
      [{ flags := 0, sockType := 1, protocol := 6, ipv6 := true, address := "::1" }]
      "a.b.cd" "" {} := by
  rintro ⟨_, addrInfo, _, dnsAddrInfo, byName, described, same, _⟩
  have valid : isDomainValid "a.b.cd" = true := by decide
  obtain ⟨_, named⟩ := getAddressesByName_finding (fun _ address => address) oneAddress
    [{ flags := 0, sockType := 1, protocol := 6, ipv6 := true, address := "::1" }] "a.b.cd" valid
  obtain ⟨_, info⟩ := getAddrInfo_finding (fun _ address => address) oneAddress
    [{ flags := 0, sockType := 1, protocol := 6, ipv6 := true, address := "::1" }] "a.b.cd" "" {}
    valid
  rw [named] at byName
  rw [info] at described
  cases byName
  cases described
  exact absurd same (by decide)

end DnsResolverService

end NetManager
