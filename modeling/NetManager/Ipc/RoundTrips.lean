/-
This file settles which values survive a parcel. A specifier, what is known of a supplier and what
a callback is told come back as they were written. The address of a resolver comes back without
its canonical name, which neither its writer nor its reader knows. In a reply that carries a list
and a return code, as the one to `GetAddrInfo`, a list comes back when its values do and the
signed count can hold its length.
-/

import NetManager.Ipc.ResolverReplies
import Mathlib.Algebra.Group.Int.Defs

namespace NetManager

open Library Parcel

/-! ### Specifiers -/

namespace NetSpecifier

/-- `NetSpecifier::Marshalling`. -/
def marshalling (this : NetSpecifier) : ParcelM Unit := do
  writeString this.ident
  writeUint32 this.netType
  writeUint64 this.netCapabilities

/-- `NetSpecifier::Unmarshalling`. -/
def unmarshalling : ParcelM NetSpecifier := do
  let ident ← readString
  let netType ← readUint32
  let netCapabilities ← readUint64
  return { ident, netType, netCapabilities }

/-- The cells of a specifier. -/
def cells (this : NetSpecifier) : List ParcelCell :=
  [.string this.ident, .uint32 this.netType, .uint64 this.netCapabilities]

theorem writes_marshalling (this : NetSpecifier) : Writes this.marshalling this.cells :=
  (writes_cell _).andThen <| (writes_cell _).andThen (writes_cell _)

theorem exact_unmarshalling : Exact unmarshalling cells fun _ => True := by
  have reads :=
    exact_readString.field ident (fun _ _ => congrArg ident) fun _ =>
    exact_readUint32.field netType (fun _ _ => congrArg netType) fun _ =>
    exact_readUint64.field netCapabilities (fun _ _ => congrArg netCapabilities) fun _ =>
    exact_pure (NetSpecifier.mk _ _ _)
  exact reads.congr (fun _ => iff_true_intro rfl) fun _ _ => rfl

end NetSpecifier

/-! ### What is known of a supplier -/

namespace NetSupplierInfo

/-- `NetSupplierInfo::Marshalling`. -/
def marshalling (this : NetSupplierInfo) : ParcelM Unit := do
  writeBool this.isAvailable
  writeBool this.isRoaming
  writeUint8 this.strength
  writeUint32 this.frequency

/-- `NetSupplierInfo::Unmarshalling`. -/
def unmarshalling : ParcelM NetSupplierInfo := do
  let isAvailable ← readBool
  let isRoaming ← readBool
  let strength ← readUint8
  let frequency ← readUint32
  return { isAvailable, isRoaming, strength, frequency }

/-- The cells of what is known of a supplier. -/
def cells (this : NetSupplierInfo) : List ParcelCell :=
  [.bool this.isAvailable, .bool this.isRoaming, .uint8 this.strength, .uint32 this.frequency]

theorem writes_marshalling (this : NetSupplierInfo) : Writes this.marshalling this.cells :=
  (writes_cell _).andThen <| (writes_cell _).andThen <| (writes_cell _).andThen (writes_cell _)

theorem exact_unmarshalling : Exact unmarshalling cells fun _ => True := by
  have reads :=
    exact_readBool.field isAvailable (fun _ _ => congrArg isAvailable) fun _ =>
    exact_readBool.field isRoaming (fun _ _ => congrArg isRoaming) fun _ =>
    exact_readUint8.field strength (fun _ _ => congrArg strength) fun _ =>
    exact_readUint32.field frequency (fun _ _ => congrArg frequency) fun _ =>
    exact_pure (NetSupplierInfo.mk _ _ _ _)
  exact reads.congr (fun _ => iff_true_intro rfl) fun _ _ => rfl

end NetSupplierInfo

/-! ### What a callback is told -/

namespace NetConnCallbackInfo

/-- `netState_` is an `int32_t`. -/
def InInt32 (this : NetConnCallbackInfo) : Prop :=
  -2 ^ 31 ≤ this.netState ∧ this.netState < 2 ^ 31

/-- `NetConnCallbackInfo::Marshalling`. -/
def marshalling (this : NetConnCallbackInfo) : ParcelM Unit := do
  writeInt32 (Int32.ofInt this.netState)
  writeUint32 this.netType

/-- `NetConnCallbackInfo::Unmarshalling`. -/
def unmarshalling : ParcelM NetConnCallbackInfo := do
  let netState ← readInt32
  let netType ← readUint32
  return { netState := netState.toInt, netType }

/-- The cells of what a callback is told. -/
def cells (this : NetConnCallbackInfo) : List ParcelCell :=
  [.int32 (Int32.ofInt this.netState), .uint32 this.netType]

theorem writes_marshalling (this : NetConnCallbackInfo) : Writes this.marshalling this.cells :=
  (writes_cell _).andThen (writes_cell _)

theorem exact_unmarshalling : Exact unmarshalling cells InInt32 := by
  have reads :=
    exact_readInt32.field (fun this => Int32.ofInt this.netState)
      (fun read _ allowed => by rw [allowed, Int32.ofInt_toInt]) fun read =>
    exact_readUint32.field netType (fun _ _ => congrArg netType) fun _ =>
    exact_pure (NetConnCallbackInfo.mk read.toInt _)
  refine reads.congr (fun this => ?_) fun _ _ => rfl
  constructor
  · intro same
    rw [same]
    exact ⟨Int32.le_toInt _, Int32.toInt_lt _⟩
  · rintro ⟨low, high⟩
    rw [Int32.toInt_ofInt_of_le low high]

end NetConnCallbackInfo

/-! ### Lists with a return code -/

namespace DnsResolverService

section Answers

variable {Item : Type} {write : Item → ParcelM Unit} {read : ParcelM Item}
  {encode : Item → List ParcelCell} {Allowed : Item → Prop}

/-- Write a list and a return code as `OnGetAddrInfo` does. -/
def writeAnswer (write : Item → ParcelM Unit) (answer : List Item × Int32) : ParcelM Unit := do
  writeCounted write answer.1
  writeInt32 answer.2

/-- Read a list and a return code in the order of `GetAddrInfo`. -/
def readAnswer (read : ParcelM Item) : ParcelM (List Item × Int32) := do
  let vsize ← readInt32
  let items ← readMany read vsize.toInt.toNat
  let ret ← readInt32
  return (items, ret)

/-- The cells of a list and a return code. -/
def answerCells (encode : Item → List ParcelCell) (answer : List Item × Int32) :
    List ParcelCell :=
  countedCells encode answer.1 ++ [.int32 answer.2]

theorem writes_answer (writes : ∀ item, Writes (write item) (encode item))
    (answer : List Item × Int32) : Writes (writeAnswer write answer) (answerCells encode answer) :=
  (writes_counted writes answer.1).andThen (writes_cell _)

theorem toNat_count_lt (length : Nat) : (Int32.ofNat length).toInt.toNat < 2 ^ 31 := by
  have high := (Int32.ofNat length).toInt_lt
  omega

/-- The items of a list can be read from its cells. -/
theorem run_readMany_flatMap (reads : Exact read encode Allowed) {items : List Item}
    (allowed : ∀ item ∈ items, Allowed item) (rest : List ParcelCell) :
    (readMany read items.length).run (items.flatMap encode ++ rest) = some (items, rest) :=
  (exact_readMany reads items.length _ _ _).mpr ⟨⟨rfl, allowed⟩, rfl⟩

/-- A list comes back with its return code exactly when its items come back and the count can
hold its length. -/
theorem answer_roundTrips_iff (writes : ∀ item, Writes (write item) (encode item))
    (reads : Exact read encode Allowed) (items : List Item) (ret : Int32) :
    RoundTrips (writeAnswer write) (readAnswer read) (items, ret) ↔
      items.length < 2 ^ 31 ∧ ∀ item ∈ items, Allowed item := by
  constructor
  · rintro ⟨written, wrote, back⟩
    rw [writes_answer writes] at wrote
    obtain ⟨⟩ := wrote
    have readBack := back []
    rw [readAnswer, run_bind_eq_some] at readBack
    obtain ⟨vsize, elements, ⟨⟩, readItems⟩ := readBack
    rw [run_bind_eq_some] at readItems
    obtain ⟨others, remaining, readOthers, readRet⟩ := readItems
    rw [run_bind_eq_some] at readRet
    obtain ⟨code, last, _, ⟨⟩⟩ := readRet
    obtain ⟨⟨counted, allowed⟩, _⟩ := (exact_readMany reads _ _ _ _).mp readOthers
    exact ⟨counted ▸ toNat_count_lt items.length, allowed⟩
  · rintro ⟨few, allowed⟩
    refine ⟨answerCells encode (items, ret), writes_answer writes _ [], fun rest => ?_⟩
    rw [readAnswer, run_bind_eq_some]
    refine ⟨Int32.ofNat items.length, items.flatMap encode ++ [.int32 ret] ++ rest, rfl, ?_⟩
    rw [run_bind_eq_some, toNat_count few, List.append_assoc]
    refine ⟨items, [.int32 ret] ++ rest, run_readMany_flatMap reads allowed _, ?_⟩
    rw [run_bind_eq_some]
    exact ⟨ret, rest, rfl, rfl⟩

/-- Each value of a list comes back, and so does the list with a return code. -/
structure ComesBack (write : Item → ParcelM Unit) (read : ParcelM Item) (items : List Item)
    (ret : Int32) : Prop where
  values : ∀ item ∈ items, RoundTrips write read item
  list : RoundTrips (writeAnswer write) (readAnswer read) (items, ret)

theorem comesBack_iff (writes : ∀ item, Writes (write item) (encode item))
    (reads : Exact read encode Allowed) (items : List Item) (ret : Int32) :
    ComesBack write read items ret ↔ items.length < 2 ^ 31 ∧ ∀ item ∈ items, Allowed item := by
  rw [← answer_roundTrips_iff writes reads items ret]
  constructor
  · exact ComesBack.list
  · intro list
    refine ⟨fun item member => ?_, list⟩
    rw [reads.roundTrips_iff writes]
    exact ((answer_roundTrips_iff writes reads items ret).mp list).2 item member

end Answers

/-! ### The four types -/

variable (commonErrOffset : Int)

/-- What the caller of `GetAddrInfo` gets from the reply that `OnGetAddrInfo` writes. -/
def deliveredAddrInfo (dnsAddrInfo : List DnsAddrInfo) (ret : Int32) : Int × List DnsAddrInfo :=
  readAddrInfo commonErrOffset []
    (replied commonErrOffset do
      writeCounted DnsAddrInfo.marshalling dnsAddrInfo
      writeInt32 ret).reply

/-- A reply with few addresses that have no canonical name is delivered as it is. -/
theorem deliveredAddrInfo_eq {dnsAddrInfo : List DnsAddrInfo} (few : dnsAddrInfo.length < 2 ^ 31)
    (nameless : ∀ info ∈ dnsAddrInfo, info.canonName = "") (ret : Int32) :
    deliveredAddrInfo commonErrOffset dnsAddrInfo ret = (ret.toInt, dnsAddrInfo) := by
  have writes : (do
      writeCounted DnsAddrInfo.marshalling dnsAddrInfo
      writeInt32 ret : ParcelM Unit).run [] =
        some ((), answerCells DnsAddrInfo.cells (dnsAddrInfo, ret)) :=
    writes_answer DnsAddrInfo.writes_marshalling (dnsAddrInfo, ret) []
  have pushes := pushMany_of_readMany
    (run_readMany_flatMap DnsAddrInfo.exact_unmarshalling nameless [.int32 ret]) []
  have count : readInt32.run (answerCells DnsAddrInfo.cells (dnsAddrInfo, ret)) =
      some (Int32.ofNat dnsAddrInfo.length,
        dnsAddrInfo.flatMap DnsAddrInfo.cells ++ [.int32 ret]) := rfl
  unfold deliveredAddrInfo replied
  rw [writes]
  dsimp only
  unfold readAddrInfo
  rw [count]
  dsimp only
  rw [toNat_count few, pushes]
  rfl

/-- Values of the four types come back from parcels, alone and in lists with a return code, and
the caller of `GetAddrInfo` gets the list and the code of the service. -/
structure ParcelsRoundTrip (specifiers : List NetSpecifier)
    (supplierInfos : List NetSupplierInfo) (callbackInfos : List NetConnCallbackInfo)
    (dnsAddrInfo : List DnsAddrInfo) (ret : Int32) : Prop where
  specifier : ComesBack NetSpecifier.marshalling NetSpecifier.unmarshalling specifiers ret
  supplierInfo : ComesBack NetSupplierInfo.marshalling NetSupplierInfo.unmarshalling
    supplierInfos ret
  callbackInfo : ComesBack NetConnCallbackInfo.marshalling NetConnCallbackInfo.unmarshalling
    callbackInfos ret
  addrInfo : ComesBack DnsAddrInfo.marshalling DnsAddrInfo.unmarshalling dnsAddrInfo ret
  delivered : deliveredAddrInfo commonErrOffset dnsAddrInfo ret = (ret.toInt, dnsAddrInfo)

/-- All of them come back exactly when no resolver address has a canonical name and the counts can
hold the lengths of the lists. -/
theorem parcelsRoundTrip_iff (specifiers : List NetSpecifier)
    (supplierInfos : List NetSupplierInfo) (callbackInfos : List NetConnCallbackInfo)
    (states : ∀ info ∈ callbackInfos, info.InInt32) (dnsAddrInfo : List DnsAddrInfo)
    (ret : Int32) :
    ParcelsRoundTrip commonErrOffset specifiers supplierInfos callbackInfos dnsAddrInfo ret ↔
      (specifiers.length < 2 ^ 31 ∧ supplierInfos.length < 2 ^ 31 ∧
        callbackInfos.length < 2 ^ 31 ∧ dnsAddrInfo.length < 2 ^ 31) ∧
      ∀ info ∈ dnsAddrInfo, info.canonName = "" := by
  have specifiersBack := comesBack_iff NetSpecifier.writes_marshalling
    NetSpecifier.exact_unmarshalling specifiers ret
  have suppliersBack := comesBack_iff NetSupplierInfo.writes_marshalling
    NetSupplierInfo.exact_unmarshalling supplierInfos ret
  have callbacksBack := comesBack_iff NetConnCallbackInfo.writes_marshalling
    NetConnCallbackInfo.exact_unmarshalling callbackInfos ret
  have addressesBack := comesBack_iff DnsAddrInfo.writes_marshalling
    DnsAddrInfo.exact_unmarshalling dnsAddrInfo ret
  constructor
  · intro back
    exact ⟨⟨(specifiersBack.mp back.specifier).1, (suppliersBack.mp back.supplierInfo).1,
      (callbacksBack.mp back.callbackInfo).1, (addressesBack.mp back.addrInfo).1⟩,
      (addressesBack.mp back.addrInfo).2⟩
  · rintro ⟨⟨fewSpecifiers, fewSuppliers, fewCallbacks, fewAddresses⟩, nameless⟩
    exact {
      specifier := specifiersBack.mpr ⟨fewSpecifiers, fun _ _ => trivial⟩
      supplierInfo := suppliersBack.mpr ⟨fewSuppliers, fun _ _ => trivial⟩
      callbackInfo := callbacksBack.mpr ⟨fewCallbacks, states⟩
      addrInfo := addressesBack.mpr ⟨fewAddresses, nameless⟩
      delivered := deliveredAddrInfo_eq commonErrOffset fewAddresses nameless ret }

/-- One value of each type. -/
theorem parcelsRoundTrip_example :
    ParcelsRoundTrip 0 [{ ident := "slot0", netType := 1, netCapabilities := 3 }]
      [{ isAvailable := true, strength := 200, frequency := 100000 }]
      [{ netState := -1, netType := 2 }] [{ family := afInet, addr := "10.0.0.1" }] 7 := by
  refine (parcelsRoundTrip_iff 0 _ _ _ ?_ _ _).mpr ⟨by decide, by decide⟩
  intro info member
  rw [List.mem_singleton.mp member]
  exact ⟨by decide, by decide⟩

/-- The canonical name of an address does not come back. -/
theorem canonical_name_lost :
    ¬ RoundTrips DnsAddrInfo.marshalling DnsAddrInfo.unmarshalling
      { addr := "10.0.0.1", canonName := "host.example.com" } := by
  rw [DnsAddrInfo.exact_unmarshalling.roundTrips_iff DnsAddrInfo.writes_marshalling]
  decide

end DnsResolverService

end NetManager
