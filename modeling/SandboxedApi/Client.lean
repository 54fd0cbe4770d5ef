import Mathlib
import SandboxedApi.SandboxCall

/-! # The sandboxee's side of the RPC channel

`ServeRequest` of `sandboxed_api/client.cc` runs in the sandboxee in a loop: it receives one TLV
with `RecvTLV(&tag, &bytes)`, picks the handler by the tag, takes the arguments out of the value
with `BytesAs<T>` (a `CHECK` that the value has `sizeof(T)` bytes, then a `memcpy`), and sends the
handler's `FuncRet` back as a `kMsgReturn` TLV. A failed `CHECK`, a `LOG(FATAL)` and an unknown
tag stop the sandboxee; `kMsgExit` ends it with `exit_group`.

What the C library and the kernel answer the handlers in one round is `Effects`. The `FuncCall`
of a `kMsgCall` is the 640 bytes `Sandbox::Call` fills, and the sandboxee reads its fields at
their offsets; `FunctionCallPreparer` turns the types it holds into `ffi_type`s with
`GetFFIType`, which stops the sandboxee on a type it does not know.

A socket carries bytes, and with the bytes of one `sendmsg` the control messages sent with them
(`Segment`); `recvmsg` hands over the control messages of the segment that starts at the
reader's position (`controlAt`).
-/
namespace SandboxedApi

open Bytes Sandbox2 Sandbox2.Comms

def kMsgCall : UInt32 := 0x101
def kMsgFree : UInt32 := 0x103
def kMsgExit : UInt32 := 0x104
def kMsgSymbol : UInt32 := 0x105
def kMsgSendFd : UInt32 := 0x106
def kMsgClose : UInt32 := 0x108
def kMsgReallocate : UInt32 := 0x109
def kMsgStrlen : UInt32 := 0x10A

/-! ### The socket -/

/-- What one `write` or `sendmsg` puts on a socket. -/
structure Segment where
  bytes : List UInt8
  control : List CmsgHdr

def streamOf (segs : List Segment) : List UInt8 := segs.flatMap Segment.bytes

/-- The control messages `recvmsg` hands over with the bytes from position `p` on. -/
def controlAt : List Segment → Nat → List CmsgHdr
  | [], _ => []
  | seg :: segs, p =>
    if p < seg.bytes.length then (if p = 0 then seg.control else [])
    else controlAt segs (p - seg.bytes.length)

/-- What `Comms::SendTLV` of a message puts on the socket. -/
def tlvSegment (m : Tlv) : Segment := ⟨tlvBytes m,[]⟩

/-- What `Comms::SendFD` puts on the socket: the `InternalTLV` of `kTagFd` with the rights header
of the descriptor, under the number the kernel gives it on the receiving side. -/
def sendFDSegment (fd : Int) : Segment := ⟨leBytes 4 kTagFd.toNat ++ leBytes 4 0,[sendFDHdr fd]⟩

/-- What the `sendmsg` of `Comms::SendFD` put on the socket: as many bytes of the `InternalTLV`
as it returned, with the rights header when it sent any. -/
def sentFD (fd : Int) (msg : Sendmsg) : List Segment :=
  if 0 < msg.len then [⟨(sendFDSegment fd).bytes.take msg.len.toNat,[sendFDHdr fd]⟩] else []

/-- `Comms::RecvFD` at the reader's position, with the control messages sent with the bytes
there. The scan of the headers gets a round for each and one more: a scan that does not end
within them does not end at all. -/
def recvFDAt (stream : List UInt8) (ctrl : Nat → List CmsgHdr) : RecvM RecvFdResult := fun r =>
  (recvFDStream stream ((ctrl r.pos).length + 1) 8 (ctrl r.pos)).run r

@[simp] theorem streamOf_nil : streamOf [] = [] := rfl

@[simp] theorem streamOf_cons (seg : Segment) (segs : List Segment) :
    streamOf (seg :: segs) = seg.bytes ++ streamOf segs := by
  simp [streamOf]

@[simp] theorem streamOf_append (a b : List Segment) : streamOf (a ++ b) = streamOf a ++ streamOf b := by
  simp [streamOf]

theorem controlAt_append_left {a : List Segment} (b : List Segment) {q : Nat}
    (hq : q < (streamOf a).length) : controlAt (a ++ b) q = controlAt a q := by
  induction a generalizing q with
  | nil => simp at hq
  | cons seg a ih =>
    simp only [List.cons_append,controlAt]
    by_cases hlt : q < seg.bytes.length
    · simp only [if_pos hlt]
    · simp only [streamOf_cons,List.length_append] at hq
      simp only [if_neg hlt]
      exact ih (by omega)

theorem controlAt_append_right (a b : List Segment) (q : Nat) :
    controlAt (a ++ b) ((streamOf a).length + q) = controlAt b q := by
  induction a with
  | nil => simp
  | cons seg a ih =>
    simp only [List.cons_append,controlAt,streamOf_cons,List.length_append]
    rw [if_neg (by omega),show seg.bytes.length + (streamOf a).length + q - seg.bytes.length =
      (streamOf a).length + q by omega]
    exact ih

/-- From position `pos` on, `recvmsg` hands over the control messages the segments were sent
with. -/
def ControlFrom (ctrl : Nat → List CmsgHdr) (pos : Nat) (segs : List Segment) : Prop :=
  ∀ q < (streamOf segs).length, ctrl (pos + q) = controlAt segs q

section ControlFrom

variable {ctrl : Nat → List CmsgHdr} {pos : Nat} {a b : List Segment}

theorem ControlFrom.left (h : ControlFrom ctrl pos (a ++ b)) : ControlFrom ctrl pos a := by
  intro q hq
  rw [h q (by simp; omega),controlAt_append_left b hq]

theorem ControlFrom.right (h : ControlFrom ctrl pos (a ++ b)) :
    ControlFrom ctrl (pos + (streamOf a).length) b := by
  intro q hq
  rw [Nat.add_assoc,h _ (by simp; omega),controlAt_append_right]

theorem controlFrom_controlAt (segs : List Segment) : ControlFrom (controlAt segs) 0 segs := by
  intro q _
  rw [Nat.zero_add]

end ControlFrom

/-! ### The fields of a request -/

/-- The `v::Type` a number stands for. -/
def VType.ofValue : Nat → Option VType
  | 0 => some .kVoid
  | 1 => some .kInt
  | 2 => some .kFloat
  | 3 => some .kPointer
  | 4 => some .kStruct
  | 5 => some .kArray
  | 6 => some .kFd
  | 7 => some .kProto
  | 8 => some .kLenVal
  | _ => none

def VType.toUInt32 (t : VType) : UInt32 := t.toNat.toUInt32

/-- The field of `size` bytes at `offset` of a structure copied in as bytes. -/
def fieldOf (bytes : List UInt8) (offset size : Nat) : Nat := leValue ((bytes.drop offset).take size)

/-- The C string at the start of a buffer: the bytes before the first `NUL`. -/
def cString (bytes : List UInt8) : List UInt8 := bytes.takeWhile (· != 0)

namespace Client

/-! ### Calls through libffi -/

/-- The `ffi_type`s `GetFFIType` picks from. -/
inductive FfiType where
  | void
  | pointer
  | sint
  | float
  | double
  | longdouble
  | uint8
  | uint16
  | uint32
  | uint64
deriving DecidableEq, Repr

/-- `GetFFIType(size, type)`; `none` is its `LOG(FATAL)`, for a struct, a proto, a size it does
not know and every other type. -/
def getFFIType (size type : Nat) : Option FfiType :=
  match VType.ofValue type with
  | some .kVoid => some .void
  | some .kPointer => some .pointer
  | some .kFd => some .sint
  | some .kFloat =>
    if size = 4 then some .float
    else if size = 8 then some .double
    else if size = 16 then some .longdouble
    else none
  | some .kInt =>
    if size = 1 then some .uint8
    else if size = 2 then some .uint16
    else if size = 4 then some .uint32
    else if size = 8 then some .uint64
    else none
  | _ => none

/-- Argument `i` is a pointer to a protobuf, which `FunctionCallPreparer` deserialises. -/
def isProtoArg (call : List UInt8) (i : Nat) : Bool :=
  fieldOf call (offArgType + 4 * i) 4 = VType.kPointer.toNat &&
    fieldOf call (offAuxType + 4 * i) 4 = VType.kProto.toNat

/-- `FunctionCallPreparer(call)`: the return type and the argument types it hands to
`ffi_prep_cif`, or `none` where it stops the sandboxee: the `CHECK` on `argc`, a type
`GetFFIType` refuses, or a protobuf argument that does not deserialise (or serialise back after
the call), which `protoOk` tells. -/
def functionCallPreparer (protoOk : Nat → Bool) (call : List UInt8) : Option (FfiType × List FfiType) :=
  let argc := fieldOf call offArgc 8
  if kArgsMax < argc then none
  else do
    let argTypes ← (List.range argc).mapM fun i =>
      getFFIType (fieldOf call (offArgSize + 8 * i) 8) (fieldOf call (offArgType + 4 * i) 4)
    let retType ← getFFIType (fieldOf call offRetSize 8) (fieldOf call offRetType 4)
    if (List.range argc).all fun i => !isProtoArg call i || protoOk i then some (retType,argTypes)
    else none

/-! ### The handlers -/

/-- `client::Error`, the `int_val` of a failed call. -/
inductive Error where
  | kUnset
  | kDlOpen
  | kDlSym
  | kCall
deriving DecidableEq, Repr

def Error.toNat : Error → Nat
  | .kUnset => 0
  | .kDlOpen => 1
  | .kDlSym => 2
  | .kCall => 3

/-- The `FuncRet` a handler fills: `ret_type` as the number it holds, the union of `int_val` and
`float_val` as the number its sixteen bytes stand for, and `success`. -/
structure Reply where
  retType : UInt32
  value : Nat
  success : Bool
deriving DecidableEq, Repr

/-- The bytes of a zero-initialised `FuncRet` (x86-64): `ret_type` at offset 0, the union at 16,
`success` at 32. -/
def Reply.bytes (ret : Reply) : List UInt8 :=
  leBytes 4 ret.retType.toNat ++ List.replicate 12 0 ++ leBytes 16 ret.value ++
    [if ret.success then 1 else 0] ++ List.replicate 15 0

/-- What `ServeRequest` sends for a reply: `SendTLV(kMsgReturn, sizeof(ret), &ret)`. -/
def Reply.segment (ret : Reply) : Segment := tlvSegment ⟨kMsgReturn,ret.bytes⟩

/-- What the C library and the kernel give the handlers in one round: whether `dlopen` of the
program works, `dlsym` of a name (`0` for none), whether a protobuf argument deserialises,
whether `ffi_prep_cif` accepts the types, what `ffi_call` of a function leaves in the return
union, `malloc`, `realloc`, `strlen` of a sandboxee string, what the `sendmsg` of `SendFD` of a
descriptor returns, and the numbers the kernel gives a descriptor the host sends (`installedFd`)
and one the sandboxee sends (`passedFd`) on the receiving side. -/
structure Effects where
  dlopenOk : Bool
  dlsym : List UInt8 → UInt64
  protoOk : Nat → Bool
  prepCifOk : Nat → FfiType → List FfiType → Bool
  ffiCall : UInt64 → List UInt8 → Nat
  malloc : UInt64 → UInt64
  realloc : UInt64 → UInt64 → UInt64
  strlen : UInt64 → UInt64
  sendmsgFd : Int32 → Sendmsg
  installedFd : Int
  passedFd : Int

/-- `HandleCallMsg(call, &ret)`; `none` where `FunctionCallPreparer` stops the sandboxee. -/
def handleCallMsg (eff : Effects) (call : List UInt8) : Option Reply :=
  let retType := (fieldOf call offRetType 4).toUInt32
  if !eff.dlopenOk then some ⟨retType,Error.kDlOpen.toNat,false⟩
  else
    let f := eff.dlsym (cString (call.drop offFunc))
    if f = 0 then some ⟨retType,Error.kDlSym.toNat,false⟩
    else
      match functionCallPreparer eff.protoOk call with
      | none => none
      | some (ret,args) =>
        if !eff.prepCifOk (fieldOf call offArgc 8) ret args then some ⟨retType,Error.kCall.toNat,false⟩
        -- `ffi_call` writes `float_val` or `int_val`: both start the union
        else some ⟨retType,eff.ffiCall f call,true⟩

def handleAllocMsg (eff : Effects) (size : UInt64) : Reply :=
  ⟨VType.kPointer.toUInt32,(eff.malloc size).toNat,true⟩

def handleReallocMsg (eff : Effects) (ptr size : UInt64) : Reply :=
  ⟨VType.kPointer.toUInt32,(eff.realloc ptr size).toNat,true⟩

def handleFreeMsg (_ptr : UInt64) : Reply := ⟨VType.kVoid.toUInt32,0,true⟩

def handleSymbolMsg (eff : Effects) (symname : List UInt8) : Reply :=
  if !eff.dlopenOk then ⟨VType.kPointer.toUInt32,Error.kDlOpen.toNat,false⟩
  else ⟨VType.kPointer.toUInt32,(eff.dlsym symname).toNat,true⟩

/-- `HandleRecvFd(comms, fd, &ret)`: what `SendFD` of the descriptor puts on the socket, whether it
closed the channel, and the reply. -/
def handleRecvFd (eff : Effects) (fd : Int32) : List Segment × Bool × Reply :=
  let res := sendFD (eff.sendmsgFd fd)
  (sentFD eff.passedFd (eff.sendmsgFd fd),res.terminated,⟨VType.kVoid.toUInt32,0,res.ok⟩)

def handleCloseFd (_fd : Int32) : Reply := ⟨VType.kVoid.toUInt32,0,true⟩

def handleStrlen (eff : Effects) (ptr : UInt64) : Reply := ⟨VType.kInt.toUInt32,(eff.strlen ptr).toNat,true⟩

/-- `HandleSendFd(comms, &ret)` once `RecvFD` returned: `int_val = fd` widens the descriptor to a
`uintptr_t`. -/
def handleSendFdOf (fd : Option Int) : Reply :=
  match fd with
  | none => ⟨VType.kInt.toUInt32,0,false⟩
  | some fd => ⟨VType.kInt.toUInt32,(fd % 2 ^ 64).toNat,true⟩

@[simp] theorem length_reply_bytes (ret : Reply) : ret.bytes.length = sizeofFuncRet := by
  simp [Reply.bytes,sizeofFuncRet]

theorem retTypeOf_reply_bytes (ret : Reply) : retTypeOf ret.bytes = ret.retType.toNat := by
  unfold retTypeOf Reply.bytes
  simp only [List.append_assoc]
  rw [List.take_left' (length_leBytes 4 _),leValue_leBytes_of_lt (by simpa using ret.retType.toNat_lt)]

theorem successOf_reply_bytes (ret : Reply) : successOf ret.bytes = ret.success := by
  obtain ⟨retType,value,success⟩ := ret
  cases success <;> simp [successOf,Reply.bytes,List.getD_eq_getElem?_getD]

/-! ### `SendFD` in `HandleRecvFd` -/

theorem sentFD_of_whole (fd : Int) {msg : Sendmsg} (h : msg.len = sizeofTlv) :
    sentFD fd msg = [sendFDSegment fd] := by
  have hlen : msg.len.toNat = (sendFDSegment fd).bytes.length := by
    rw [h]
    rfl
  rw [sentFD,if_pos (by rw [h]; decide),hlen,List.take_length]
  rfl

theorem sentFD_of_neg (fd : Int) {msg : Sendmsg} (h : msg.len < 0) : sentFD fd msg = [] := by
  rw [sentFD,if_neg (by omega)]

/-- A `sendmsg` that sends the whole `InternalTLV` passes the descriptor, and the reply says so. -/
theorem handleRecvFd_of_whole {eff : Effects} {fd : Int32} (h : (eff.sendmsgFd fd).len = sizeofTlv) :
    handleRecvFd eff fd = ([sendFDSegment eff.passedFd],false,⟨VType.kVoid.toUInt32,0,true⟩) := by
  rw [handleRecvFd,sendFD_of_whole h,sentFD_of_whole _ h]

/-- A `sendmsg` that fails sends nothing; the reply says so, and a fatal `errno` closes the
channel. -/
theorem handleRecvFd_of_neg {eff : Effects} {fd : Int32} (h : (eff.sendmsgFd fd).len < 0) :
    handleRecvFd eff fd =
      ([],isFatalError (eff.sendmsgFd fd).errno,⟨VType.kVoid.toUInt32,0,false⟩) := by
  have hok : (sendFD (eff.sendmsgFd fd)).ok = false := by
    rw [Bool.eq_false_iff,ne_eq,sendFD_ok_iff]
    simp only [sizeofTlv]
    omega
  have hterm : (sendFD (eff.sendmsgFd fd)).terminated = isFatalError (eff.sendmsgFd fd).errno := by
    rw [Bool.eq_iff_iff,sendFD_terminated_iff]
    simp [h]
  rw [handleRecvFd,sentFD_of_neg _ h,hok,hterm]

/-! ### Serving requests -/

/-- How a round of `ServeRequest` ends: it sent `out` (for `kMsgRecvFd` the descriptor, then the
reply), `exit_group` ended the sandboxee, or a `CHECK` or `LOG(FATAL)` stopped it. -/
inductive Served where
  | replied (out : List Segment)
  | exited
  | aborted

/-- A round that sent `out`, or stopped the sandboxee where there is nothing. -/
def Served.ofOption : Option (List Segment) → Served
  | none => .aborted
  | some out => .replied out

/-- `CHECK(comms->SendTLV(kMsgReturn, ...))` after a handler that sent `out`: once the handler's
`SendFD` or `RecvFD` has closed the channel, the send fails and the check stops the sandboxee. -/
def Served.afterSend (terminated : Bool) (out : List Segment) : Served :=
  if terminated then .aborted else .replied out

/-- `BytesAs<T>` for a `T` of `size` bytes: `CHECK_EQ(bytes.size(), sizeof(T))`, then the bytes
copied into the object. -/
def bytesAs (size : Nat) (bytes : List UInt8) : Option (List UInt8) :=
  if bytes.length = size then some bytes else none

/-- The `CHECK_EQ` of `kMsgSymbol`: the value ends at its first `NUL`. -/
def endsAtNul (bytes : List UInt8) : Bool := bytes.length == 1 + bytes.idxOf 0

section Serve

variable (stream : List UInt8) (ctrl : Nat → List CmsgHdr) (chunk : Nat → Nat)

/-- `HandleSendFd(comms, &ret)`: `RecvFD` of the descriptor the host sent; whether it closed the
channel, and the reply. -/
def handleSendFd : RecvM (Bool × Reply) := do
  let res ← recvFDAt stream ctrl
  pure (res.terminated,handleSendFdOf res.fd)

/-- The `switch (tag)` of `ServeRequest`, on the message it received. -/
def serveMessage (eff : Effects) (m : Tlv) : RecvM Served :=
  if m.tag = kMsgCall then
    pure (.ofOption (((bytesAs sizeofFuncCall m.value).bind (handleCallMsg eff)).map fun ret => [ret.segment]))
  else if m.tag = kMsgAllocate then
    pure (.ofOption ((bytesAs 8 m.value).map fun size => [(handleAllocMsg eff (leValue size).toUInt64).segment]))
  else if m.tag = kMsgReallocate then
    pure (.ofOption ((bytesAs 16 m.value).map fun req =>
      [(handleReallocMsg eff (fieldOf req 0 8).toUInt64 (fieldOf req 8 8).toUInt64).segment]))
  else if m.tag = kMsgFree then
    pure (.ofOption ((bytesAs 8 m.value).map fun ptr => [(handleFreeMsg (leValue ptr).toUInt64).segment]))
  else if m.tag = kMsgSymbol then
    pure (if endsAtNul m.value then .replied [(handleSymbolMsg eff (cString m.value)).segment] else .aborted)
  else if m.tag = kMsgExit then pure .exited
  else if m.tag = kMsgSendFd then do
    let (terminated,ret) ← handleSendFd stream ctrl
    pure (.afterSend terminated [ret.segment])
  else if m.tag = kMsgRecvFd then
    pure (match bytesAs 4 m.value with
      | none => .aborted
      | some fd =>
        let (sent,terminated,ret) := handleRecvFd eff (leValue fd).toUInt32.toInt32
        .afterSend terminated (sent ++ [ret.segment]))
  else if m.tag = kMsgClose then
    pure (.ofOption ((bytesAs 4 m.value).map fun fd => [(handleCloseFd (leValue fd).toUInt32.toInt32).segment]))
  else if m.tag = kMsgStrlen then
    pure (.ofOption ((bytesAs 8 m.value).map fun ptr => [(handleStrlen eff (leValue ptr).toUInt64).segment]))
  else pure .aborted

/-- `ServeRequest(comms)`: `CHECK(comms->RecvTLV(&tag, &bytes))`, then the handler. The run has
no result only where `RecvFD` does not return. -/
def serveRequest (eff : Effects) : RecvM Served := fun r =>
  match (recvTLVGeneric stream chunk).run r with
  | none => some (.aborted,r)
  | some (m,r') => (serveMessage stream ctrl eff m).run r'

/-- The first `n` rounds of `while (true) ServeRequest(&comms)` from round `round`, in which the C
library and the kernel answer as `env round` says: what the sandboxee sent, and whether it stopped. -/
def serveLoop (env : Nat → Effects) : Nat → Nat → RecvM (List Segment × Bool)
  | 0, _ => pure ([],false)
  | n + 1, round => do
    match ← serveRequest stream ctrl chunk (env round) with
    | .replied out => do
      let (rest,stopped) ← serveLoop env n (round + 1)
      pure (out ++ rest,stopped)
    | _ => pure ([],true)

/-! ### Reading the arguments back -/

theorem bytesAs_of_length {size : Nat} {bytes : List UInt8} (h : bytes.length = size) :
    bytesAs size bytes = some bytes := by
  rw [bytesAs,if_pos h]

theorem toUInt64_leValue (x : UInt64) : (leValue (leBytes 8 x.toNat)).toUInt64 = x := by
  rw [leValue_leBytes_of_lt (by simpa using x.toNat_lt)]
  simp

theorem ofNat_leValue (x : Int32) : Int32.ofNat (leValue (leBytes 4 x.toUInt32.toNat)) = x := by
  rw [leValue_leBytes_of_lt (by simpa using x.toUInt32.toNat_lt),← Int32.toBitVec_inj]
  simp

theorem fieldOf_leBytes_left (a b : UInt64) : fieldOf (leBytes 8 a.toNat ++ leBytes 8 b.toNat) 0 8 = a.toNat := by
  rw [fieldOf,List.drop_zero,List.take_left' (length_leBytes 8 _),
    leValue_leBytes_of_lt (by simpa using a.toNat_lt)]

theorem fieldOf_leBytes_right (a b : UInt64) : fieldOf (leBytes 8 a.toNat ++ leBytes 8 b.toNat) 8 8 = b.toNat := by
  rw [fieldOf,List.drop_left' (length_leBytes 8 _),List.take_of_length_le (by simp),
    leValue_leBytes_of_lt (by simpa using b.toNat_lt)]

theorem zero_not_mem_cString (s : List UInt8) : 0 ∉ cString s := by
  intro h
  simpa using List.mem_takeWhile_imp h

theorem endsAtNul_cString (s : List UInt8) : endsAtNul (cString s ++ [0]) = true := by
  rw [endsAtNul,List.idxOf_append_of_notMem (zero_not_mem_cString s)]
  simp [List.idxOf_cons_self]
  omega

theorem cString_cString (s : List UInt8) : cString (cString s ++ [0]) = cString s := by
  rw [cString,List.takeWhile_append_of_pos]
  · simp
  · intro x hx
    have := zero_not_mem_cString s
    simp only [bne_iff_ne,ne_eq]
    rintro rfl
    exact this hx

/-! ### A round of `ServeRequest` -/

variable {stream : List UInt8} {ctrl : Nat → List CmsgHdr} {chunk : Nat → Nat} {eff : Effects}

theorem serveRequest_of_recv {r r' : Reader} {m : Tlv} (hk : (recvTLVGeneric stream chunk).run r = some (m,r')) :
    (serveRequest stream ctrl chunk eff).run r = (serveMessage stream ctrl eff m).run r' := by
  show serveRequest stream ctrl chunk eff r = _
  unfold serveRequest
  rw [hk]

theorem serveMessage_sendFD {r : Reader} {fd : Int} {rest : List UInt8}
    (h : stream.drop r.pos = (sendFDSegment fd).bytes ++ rest) (hc : ctrl r.pos = [sendFDHdr fd]) :
    (serveMessage stream ctrl eff ⟨kMsgSendFd,[]⟩).run r =
      some (.replied [(handleSendFdOf (some fd)).segment],⟨r.pos + 8,r.reads + 1⟩) := by
  have hrecv : (recvFDAt stream ctrl).run r = some (⟨false,some fd⟩,⟨r.pos + 8,r.reads + 1⟩) := by
    show (recvFDStream stream ((ctrl r.pos).length + 1) 8 (ctrl r.pos)).run r = _
    rw [hc]
    exact recvFDStream_sendFD (by simp) fd h
  have hsend : (handleSendFd stream ctrl).run r = some ((false,handleSendFdOf (some fd)),⟨r.pos + 8,r.reads + 1⟩) := by
    unfold handleSendFd
    rw [run_bind_of_some hrecv]
    rfl
  rw [serveMessage,if_neg (by decide),if_neg (by decide),if_neg (by decide),if_neg (by decide),
    if_neg (by decide),if_neg (by decide),if_pos rfl,run_bind_of_some hsend]
  rfl

end Serve

end Client

end SandboxedApi
