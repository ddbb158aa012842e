/-
This file holds the data of the policy service: the result codes, the policies a user can
have, and the entries in which the service and its file keep them. An entry is two
decimal texts, not two numbers.
-/

import NetManager.Library.Decimal

namespace NetManager

/-- `NetPolicyResultCode` of `net_policy_constants.h`. -/
inductive NetPolicyResultCode
  | none
  | internalError
  | invalidUid
  | invalidPolicy
deriving DecidableEq, Repr

/-- `NetUidPolicy` of `net_policy_constants.h`, an enumeration over `int32_t`: a cast can make a
value without a name. -/
@[ext]
structure NetUidPolicy where
  value : Int32
deriving DecidableEq, Repr

namespace NetUidPolicy

def none : NetUidPolicy := ⟨0⟩
def allowMeteredBackground : NetUidPolicy := ⟨(1 : Int32) <<< 0⟩
def temporaryAllowMetered : NetUidPolicy := ⟨(1 : Int32) <<< 1⟩
def rejectMeteredBackground : NetUidPolicy := ⟨(1 : Int32) <<< 2⟩
def allowAll : NetUidPolicy := ⟨(1 : Int32) <<< 5⟩
def rejectAll : NetUidPolicy := ⟨(1 : Int32) <<< 6⟩

/-- `static_cast<uint32_t>` of a policy. -/
def toUInt32 (policy : NetUidPolicy) : UInt32 := policy.value.toUInt32

/-- `static_cast<NetUidPolicy>` of a `long`. -/
def ofLong (value : Int) : NetUidPolicy := ⟨Int32.ofInt value⟩

end NetUidPolicy

/-- `NET_POLICY_ALLOW_MASK` of `net_policy_define.h`. -/
def netPolicyAllowMask : UInt32 := 0b00100011

/-- `UidPolicy` of `net_policy_define.h`. -/
structure UidPolicy where
  uid : String
  policy : String
deriving DecidableEq, Repr

/-- `NetPolicy` of `net_policy_define.h`. -/
structure NetPolicy where
  uidPolicys : List UidPolicy := []
  hosVersion : String := ""
deriving DecidableEq, Repr

/-- The values of `Json::Value`. The members of an object stand in the order of their names, as
jsoncpp keeps them. The policy file is written from texts, arrays and objects; a number or a truth
value, which only a file of someone else can hold, is kept as the text `asString` gives for it. -/
inductive JsonValue
  | string (text : String)
  | array (elements : List JsonValue)
  | object (members : List (String × JsonValue))
  | null
  | scalar (text : String)

/-- The exception jsoncpp throws when a value is not of the kind it is used as. -/
inductive JsonError
  | logicError
deriving DecidableEq, Repr

namespace JsonValue

/-- `Json::Value::asString`. -/
def asString : JsonValue → Except JsonError String
  | .null => .ok ""
  | .string text => .ok text
  | .scalar text => .ok text
  | .array _ => .error .logicError
  | .object _ => .error .logicError

/-- `Json::Value::operator[]` with the name of a member. A member that is missing is null, and so
is every member of null. -/
def member (value : JsonValue) (name : String) : Except JsonError JsonValue :=
  match value with
  | .object members =>
    match members.find? fun member => member.1 = name with
    | some found => .ok found.2
    | none => .ok .null
  | .null => .ok .null
  | _ => .error .logicError

/-- The values `value[0]` to `value[value.size() - 1]`. An object has a size, but only an array
has values at numbers. -/
def elements : JsonValue → Except JsonError (List JsonValue)
  | .array elements => .ok elements
  | .object (_ :: _) => .error .logicError
  | _ => .ok []

end JsonValue

/-- What the service takes from the platform: the width of a `long`, and the text
`Json::StreamWriter` writes for a value. -/
structure Platform where
  longBits : Nat
  streamWriter : JsonValue → String

/-- The file system: the contents of its files, and which attempts to open a file succeed. -/
structure FileSystem where
  contents : String → Option String
  opens : Nat → Bool
  opened : Nat := 0

/-- Open a file for reading, and read all of it. -/
def FileSystem.read (files : FileSystem) (fileName : String) : Option String × FileSystem :=
  let attempted := { files with opened := files.opened + 1 }
  if files.opens files.opened then (files.contents fileName, attempted) else (none, attempted)

/-- Open a file for writing, which empties it, and write a text. -/
def FileSystem.write (files : FileSystem) (fileName text : String) : Bool × FileSystem :=
  if files.opens files.opened then
    (true, { files with
      contents := fun name => if name = fileName then some text else files.contents name
      opened := files.opened + 1 })
  else
    (false, { files with opened := files.opened + 1 })

end NetManager
