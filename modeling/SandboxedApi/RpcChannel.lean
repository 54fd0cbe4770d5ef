import SandboxedApi.Sandbox2.Comms.RecvFd
import SandboxedApi.Sandbox2.Comms.TlvRoundTrip

/-! # The host's reads on the RPC channel

Each `RPCChannel` operation sends one request TLV and reads the sandboxee's answer with
`Return`, a `kMsgReturn` TLV holding a `FuncRet`. `RPCChannel::RecvFD` reads a descriptor in
between, with `Comms::RecvFD`: one `recvmsg` into the 8-byte `InternalTLV`, on a stream socket,
which takes whatever eight bytes are next, whether or not they came with the descriptor.

The sandboxee's bytes are the stream of `Comms.recv`; what `recvmsg` hands over is the bytes at
the reader's position, as many as the kernel gives, with the control messages sent with them.
-/
namespace SandboxedApi

open Bytes Sandbox2 Sandbox2.Comms

def kMsgAllocate : UInt32 := 0x102
def kMsgRecvFd : UInt32 := 0x107
def kMsgReturn : UInt32 := 0x201

/-- `v::Type`. -/
inductive VType where
  | kVoid
  | kInt
  | kFloat
  | kPointer
  | kStruct
  | kArray
  | kFd
  | kProto
  | kLenVal
deriving DecidableEq, Repr

/-- The value of a `v::Type` in memory. -/
def VType.toNat : VType → Nat
  | .kVoid => 0
  | .kInt => 1
  | .kFloat => 2
  | .kPointer => 3
  | .kStruct => 4
  | .kArray => 5
  | .kFd => 6
  | .kProto => 7
  | .kLenVal => 8

def sizeofFuncRet : Nat := 48

/-- `ret_type` and `success` as `Return` reads them from the buffer. -/
def retTypeOf (ret : List UInt8) : Nat := leValue (ret.take 4)
def successOf (ret : List UInt8) : Bool := ret.getD 32 0 != 0

/-! ### The host -/

section Host

variable (stream : List UInt8) (chunk : Nat → Nat)

/-- `RPCChannel::Return(exp_type)`; a receive that fails is `none`, reported by `Return` as
`Receiving TLV value failed` with the channel in an unknown place. -/
def rpcReturn (expType : VType) : RecvM (Except String (List UInt8)) := do
  let (tag,len,ret) ← recvTLVBuffer stream chunk sizeofFuncRet
  if tag ≠ kMsgReturn then pure (.error "Received TLV has incorrect tag")
  else if len ≠ sizeofFuncRet then pure (.error "Received TLV has incorrect length")
  else if retTypeOf ret ≠ expType.toNat then pure (.error "Received TLV has incorrect return type")
  else if !successOf ret then pure (.error "Function call failed")
  else pure (.ok ret)

/-- `Comms::RecvFD` on the stream socket: `recvmsg` into the 8-byte `InternalTLV` takes at most
eight bytes at the reader's position, `len` of them as the kernel decides, with the control
messages `control`; `none` where the scan of the control messages does not end. -/
def recvFDStream (fuel len : Nat) (control : List CmsgHdr) : RecvM RecvFdResult := fun r =>
  let bytes := (stream.drop r.pos).take (min len 8)
  (recvFD fuel ⟨bytes.length,false,(leValue (bytes.take 4)).toUInt32,control⟩).map fun res =>
    (res,⟨r.pos + bytes.length,r.reads + 1⟩)

/-- `RPCChannel::RecvFD`, once its request went out: the descriptor, then the reply. -/
def rpcRecvFD (fuel len : Nat) (control : List CmsgHdr) : RecvM (Except String Int) := do
  let res ← recvFDStream stream fuel len control
  match res.fd with
  | none => pure (.error "Receving FD failed")
  | some fd => do
    let fret ← rpcReturn stream chunk .kVoid
    pure (fret.bind fun ret =>
      if !successOf ret then .error "RecvFD failed on the remote side" else .ok fd)

end Host

/-! ### The host's reads -/

variable {stream : List UInt8} {chunk : Nat → Nat}

/-- `Comms::RecvFD` reads what a successful `SendFD` sent, whole, and returns the descriptor. -/
theorem recvFDStream_sendFD {fuel : Nat} (hf : 1 ≤ fuel) (fd : Int) {more : List UInt8}
    {r : Reader} (h : stream.drop r.pos = leBytes 4 kTagFd.toNat ++ leBytes 4 0 ++ more) :
    (recvFDStream stream fuel 8 [sendFDHdr fd]).run r =
      some (⟨false,some fd⟩,⟨r.pos + 8,r.reads + 1⟩) := by
  have hb : (stream.drop r.pos).take (min 8 8) = leBytes 4 kTagFd.toNat ++ leBytes 4 0 := by
    rw [h,Nat.min_self,List.take_left' (by simp)]
  show (recvFD fuel _).map _ = _
  rw [hb,List.take_left' (length_leBytes 4 _),tag_leBytes]
  rw [show ((leBytes 4 kTagFd.toNat ++ leBytes 4 0).length : Int) = sizeofTlv by simp [sizeofTlv],
    recvFD_sendFD false fd hf]
  simp

theorem recvFD_of_tag_ne {fuel : Nat} {msg : Recvmsg} (hl : msg.len = sizeofTlv)
    (ht : msg.tag ≠ kTagFd) : recvFD fuel msg = some ⟨false,none⟩ := by
  rw [recvFD,if_neg (by rw [hl]; decide),if_neg (by rw [hl]; decide),if_neg (by simp [hl]),if_pos ht]

end SandboxedApi
