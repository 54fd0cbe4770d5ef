import Mathlib
import SandboxedApi.Client

/-! # An RPC session between the host and the sandboxee

Each method of `RPCChannel` (`rpcchannel.cc`) takes the channel's mutex, sends its request with
`SendTLV` (and for `SendFD` the descriptor), and reads the sandboxee's answer with `Return`.
The sandboxee answers each request in a round of `ServeRequest`. A method writes its request
before it reads anything, and what it writes does not depend on what it reads; so the bytes the
host puts on the channel are those of the requests in order (`hostChannel`), the sandboxee's
rounds read them and write their replies, and the host's methods read those.

A `SendFD` whose `sendmsg` fails with a fatal `errno` closes its side of the channel: on the
host every later `SendTLV` fails (`hostRun`), in the sandboxee the `CHECK` on the reply stops it.
A `sendmsg` that fails otherwise (`ENOMEM`, say) leaves the channel open and sends nothing.

The abstract model calls each handler directly with the request's own arguments and hands its
`FuncRet` to the method (`transparent`). When every `sendmsg` of `SendFD` on either side sends
the whole `InternalTLV` and no handler stops the sandboxee, the session over the two byte
streams, with the reads split however the kernel splits them, gives every method the answer of
the abstract model, and both sides end at the end of what the other wrote
(`rpcSession_transparent`). When the sandboxee's `sendmsg` fails without closing the channel,
the host's `RecvFD` reads the first eight bytes of the reply, and the next method reads the rest
of that reply instead of its own (`rpcSession_recvFD_sendFDFailure_misaligns`).
-/
namespace SandboxedApi

open Bytes Sandbox2 Sandbox2.Comms Client

/-- The bytes of a `FuncCall`: `sizeof(FuncCall)` of them. -/
structure FuncCall where
  bytes : List UInt8
  length_bytes : bytes.length = sizeofFuncCall

/-- A request the host makes through `RPCChannel`, with its arguments; `Call` as `Sandbox::Call`
makes it, with the tag `kMsgCall`. -/
inductive Request where
  | call (call : FuncCall) (expType : VType)
  | allocate (size : UInt64)
  | reallocate (oldAddr size : UInt64)
  | free (addr : UInt64)
  | symbol (symname : List UInt8)
  | sendFD (localFd : Int32)
  | recvFD (remoteFd : Int32)
  | close (remoteFd : Int32)
  | strlen (str : UInt64)

/-- What a method returns: a `FuncRet`, an address, a descriptor, a length, or only its status. -/
inductive Answer where
  | ret (ret : List UInt8)
  | addr (addr : UInt64)
  | fd (fd : Int)
  | len (len : UInt64)
  | done
deriving DecidableEq, Repr

/-- `int_val` of a `FuncRet` as the host reads it. -/
def intValOf (ret : List UInt8) : Nat := leValue ((ret.drop 16).take 8)

namespace Request

/-- The TLV the method sends: the argument's `sizeof` bytes, lowest first; for `Symbol` the name
up to its `NUL`, with it. -/
def tlv : Request → Tlv
  | .call c _ => ⟨kMsgCall,c.bytes⟩
  | .allocate size => ⟨kMsgAllocate,leBytes 8 size.toNat⟩
  | .reallocate oldAddr size => ⟨kMsgReallocate,leBytes 8 oldAddr.toNat ++ leBytes 8 size.toNat⟩
  | .free addr => ⟨kMsgFree,leBytes 8 addr.toNat⟩
  | .symbol symname => ⟨kMsgSymbol,cString symname ++ [0]⟩
  | .sendFD _ => ⟨kMsgSendFd,[]⟩
  | .recvFD remoteFd => ⟨kMsgRecvFd,leBytes 4 remoteFd.toUInt32.toNat⟩
  | .close remoteFd => ⟨kMsgClose,leBytes 4 remoteFd.toUInt32.toNat⟩
  | .strlen str => ⟨kMsgStrlen,leBytes 8 str.toNat⟩

/-- The type the method's `Return` expects. -/
def expType : Request → VType
  | .call _ expType => expType
  | .allocate _ | .reallocate _ _ | .symbol _ => .kPointer
  | .free _ | .recvFD _ | .close _ => .kVoid
  | .sendFD _ | .strlen _ => .kInt

/-- What the method writes before it reads: the request, and for `SendFD` what its `sendmsg`
sends of the descriptor, under the number `installed` it gets in the sandboxee. -/
def sent (sendmsg : Int32 → Sendmsg) (installed : Int) : Request → List Segment
  | .sendFD localFd => tlvSegment ⟨kMsgSendFd,[]⟩ :: sentFD installed (sendmsg localFd)
  | req => [tlvSegment req.tlv]

/-- Whether the method closes the host's channel: `SendFD` on a fatal `errno` of its `sendmsg`. -/
def terminates (sendmsg : Int32 → Sendmsg) : Request → Bool
  | .sendFD localFd => (Sandbox2.sendFD (sendmsg localFd)).terminated
  | _ => false

section Host

variable (stream : List UInt8) (ctrl : Nat → List CmsgHdr) (chunk : Nat → Nat)

/-! ### The host's methods, after what they write -/

def rpcCall (expType : VType) : RecvM (Except String Answer) := do
  let fret ← rpcReturn stream chunk expType
  pure (fret.map .ret)

def rpcAllocate : RecvM (Except String Answer) := do
  let fret ← rpcReturn stream chunk .kPointer
  pure (fret.map fun ret => .addr (intValOf ret).toUInt64)

def rpcReallocate : RecvM (Except String Answer) := do
  let fret ← rpcReturn stream chunk .kPointer
  pure ((fret.mapError ("Reallocate() failed on the remote side: " ++ ·)).map fun ret =>
    .addr (intValOf ret).toUInt64)

def rpcFree : RecvM (Except String Answer) := do
  let fret ← rpcReturn stream chunk .kVoid
  pure (fret.bind fun ret => if !successOf ret then .error "Free() failed on the remote side" else .ok .done)

def rpcSymbol : RecvM (Except String Answer) := do
  let fret ← rpcReturn stream chunk .kPointer
  pure (fret.map fun ret => .addr (intValOf ret).toUInt64)

/-- `RPCChannel::SendFD` once the descriptor went out: `*remote_fd = fret.int_val` narrows the
`uintptr_t` to an `int`. -/
def rpcSendFD : RecvM (Except String Answer) := do
  let fret ← rpcReturn stream chunk .kInt
  pure (fret.bind fun ret =>
    if !successOf ret then .error "SendFD failed on the remote side"
    else .ok (.fd (intValOf ret).toUInt32.toInt32.toInt))

/-- `RPCChannel::RecvFD` once its request went out, with the control messages of the bytes at
the reader's position. -/
def rpcRecvFDAt : RecvM (Except String Answer) := do
  let r ← get
  let res ← rpcRecvFD stream chunk ((ctrl r.pos).length + 1) 8 (ctrl r.pos)
  pure (res.map .fd)

def rpcClose : RecvM (Except String Answer) := do
  let fret ← rpcReturn stream chunk .kVoid
  pure (fret.bind fun ret => if !successOf ret then .error "Close() failed on the remote side" else .ok .done)

/-- `RPCChannel::Strlen`, whose message for a failure names `Close()`. -/
def rpcStrlen : RecvM (Except String Answer) := do
  let fret ← rpcReturn stream chunk .kInt
  pure (fret.bind fun ret =>
    if !successOf ret then .error "Close() failed on the remote side" else .ok (.len (intValOf ret).toUInt64))

/-- The method of a request `SendTLV` let through, after what it writes: `Sending FD failed`
where `SendFD` of the descriptor failed, and otherwise what it reads. -/
def method (sendmsg : Int32 → Sendmsg) : Request → RecvM (Except String Answer)
  | .call _ expType => rpcCall stream chunk expType
  | .allocate _ => rpcAllocate stream chunk
  | .reallocate _ _ => rpcReallocate stream chunk
  | .free _ => rpcFree stream chunk
  | .symbol _ => rpcSymbol stream chunk
  | .sendFD localFd =>
    if !(Sandbox2.sendFD (sendmsg localFd)).ok then pure (.error "Sending FD failed") else rpcSendFD stream chunk
  | .recvFD _ => rpcRecvFDAt stream ctrl chunk
  | .close _ => rpcClose stream chunk
  | .strlen _ => rpcStrlen stream chunk

/-- The method of the request after what it writes; `Sending TLV value failed` where `SendTLV`
refused the request. -/
def run (sendmsg : Int32 → Sendmsg) (req : Request) : RecvM (Except String Answer) :=
  if !sendTLVAccepts req.tlv then pure (.error "Sending TLV value failed")
  else req.method stream ctrl chunk sendmsg

end Host

/-! ### The abstract model: each handler called directly -/

/-- The handler's reply to the request, called with the request's own arguments; `none` where it
stops the sandboxee. -/
def handle (eff : Effects) : Request → Option Reply
  | .call c _ => handleCallMsg eff c.bytes
  | .allocate size => some (handleAllocMsg eff size)
  | .reallocate oldAddr size => some (handleReallocMsg eff oldAddr size)
  | .free addr => some (handleFreeMsg addr)
  | .symbol symname => some (handleSymbolMsg eff (cString symname))
  | .sendFD _ => some (handleSendFdOf (some eff.installedFd))
  | .recvFD remoteFd =>
    let (_,terminated,ret) := Client.handleRecvFd eff remoteFd
    if terminated then none else some ret
  | .close remoteFd => some (handleCloseFd remoteFd)
  | .strlen str => some (handleStrlen eff str)

/-- What the handler sends before its reply: for `kMsgRecvFd` the descriptor, when it went out. -/
def fdOut (eff : Effects) : Request → List Segment
  | .recvFD remoteFd => (Client.handleRecvFd eff remoteFd).1
  | _ => []

/-- The checks of `Return` on a reply. -/
def returned (expType : VType) (ret : Reply) : Except String Reply :=
  if ret.retType.toNat ≠ expType.toNat then .error "Received TLV has incorrect return type"
  else if !ret.success then .error "Function call failed"
  else .ok ret

/-- What the method returns from a reply `Return` let through; `passed` is the descriptor the
sandboxee passed back. -/
def value (passed : Int) : Request → Reply → Answer
  | .call _ _, ret => .ret ret.bytes
  | .allocate _, ret | .reallocate _ _, ret | .symbol _, ret => .addr ret.value.toUInt64
  | .free _, _ | .close _, _ => .done
  | .sendFD _, ret => .fd ret.value.toUInt32.toInt32.toInt
  | .recvFD _, _ => .fd passed
  | .strlen _, ret => .len ret.value.toUInt64

/-- What the method makes of the reply handed to it: `Reallocate` puts its own words before an
error. -/
def answer (passed : Int) (req : Request) (ret : Reply) : Except String Answer :=
  match req with
  | .reallocate _ _ =>
    ((returned req.expType ret).map (req.value passed)).mapError ("Reallocate() failed on the remote side: " ++ ·)
  | _ => (returned req.expType ret).map (req.value passed)

end Request

open Request

/-- Whether `SendTLV` lets the request through. -/
def Request.Accepted (req : Request) : Prop := sendTLVAccepts req.tlv = true

instance (req : Request) : Decidable req.Accepted := inferInstanceAs (Decidable (_ = true))

/-- What the host's requests put on the channel from round `round` on: each one `SendTLV` lets
through is served in the next round, in which the kernel numbers a passed descriptor as
`env round` says; after a method that closed the channel nothing more goes out. -/
def hostChannel (sendmsg : Int32 → Sendmsg) (env : Nat → Effects) : Nat → List Request → List Segment
  | _, [] => []
  | round, req :: reqs =>
    if req.Accepted then
      req.sent sendmsg (env round).installedFd ++
        if req.terminates sendmsg then [] else hostChannel sendmsg env (round + 1) reqs
    else hostChannel sendmsg env round reqs

section Host

variable (stream : List UInt8) (ctrl : Nat → List CmsgHdr) (chunk : Nat → Nat)

/-- The host's methods over the requests in order. Once a method has closed the host's channel,
every later `SendTLV` fails. -/
def hostRun (sendmsg : Int32 → Sendmsg) : List Request → RecvM (List (Except String Answer))
  | [] => pure []
  | req :: reqs => do
    let a ← req.run stream ctrl chunk sendmsg
    if req.Accepted ∧ req.terminates sendmsg = true then
      pure (a :: reqs.map fun _ => .error "Sending TLV value failed")
    else do
      let rest ← hostRun sendmsg reqs
      pure (a :: rest)

end Host

/-- The number of requests that reach the sandboxee. -/
def served (reqs : List Request) : Nat := reqs.countP fun req => decide req.Accepted

/-- What the sandboxee sends for the requests from round `round` on, each handled directly. -/
def replies (env : Nat → Effects) : Nat → List Request → List Segment
  | _, [] => []
  | round, req :: reqs =>
    if req.Accepted then
      req.fdOut (env round) ++ ((req.handle (env round)).map fun ret => [ret.segment]).getD [] ++
        replies env (round + 1) reqs
    else replies env round reqs

/-- The answers of the requests from round `round` on when each handler is called directly and
its reply handed to the method; `none` where a handler stops the sandboxee. -/
def transparent (env : Nat → Effects) : Nat → List Request → Option (List (Except String Answer))
  | _, [] => some []
  | round, req :: reqs =>
    if req.Accepted then do
      let ret ← req.handle (env round)
      let rest ← transparent env (round + 1) reqs
      pure (req.answer (env round).passedFd ret :: rest)
    else (transparent env round reqs).map (.error "Sending TLV value failed" :: ·)

/-! ### The sandboxee reads each request back -/

namespace Request

theorem sent_of_ne {req : Request} (hfd : ∀ localFd, req ≠ .sendFD localFd) (sendmsg : Int32 → Sendmsg)
    (installed : Int) : req.sent sendmsg installed = [tlvSegment req.tlv] := by
  cases req with
  | sendFD localFd => exact absurd rfl (hfd localFd)
  | _ => rfl

section Whole

variable {sendmsg : Int32 → Sendmsg} (hh : ∀ fd, (sendmsg fd).len = sizeofTlv)
include hh

theorem sent_sendFD_of_whole (localFd : Int32) (installed : Int) :
    (Request.sendFD localFd).sent sendmsg installed = [tlvSegment ⟨kMsgSendFd,[]⟩,sendFDSegment installed] := by
  rw [sent,sentFD_of_whole _ (hh localFd)]

theorem terminates_of_whole (req : Request) : req.terminates sendmsg = false := by
  cases req with
  | sendFD localFd => rw [terminates,sendFD_of_whole (hh localFd)]
  | _ => rfl

end Whole

end Request

section Serve

variable {stream : List UInt8} {ctrl : Nat → List CmsgHdr} {chunk : Nat → Nat} {eff : Effects}

theorem serveMessage_tlv {req : Request} (hfd : ∀ localFd, req ≠ .sendFD localFd) {ret : Reply}
    (h : req.handle eff = some ret) :
    serveMessage stream ctrl eff req.tlv = pure (.replied (req.fdOut eff ++ [ret.segment])) := by
  cases req with
  | call c expType =>
    simp only [Request.handle] at h
    simp [serveMessage,Request.tlv,Request.fdOut,bytesAs_of_length c.length_bytes,h,Served.ofOption]
  | allocate size =>
    simp only [Request.handle,Option.some.injEq] at h
    subst h
    simp [serveMessage,Request.tlv,Request.fdOut,kMsgCall,kMsgAllocate,bytesAs_of_length,toUInt64_leValue,Served.ofOption]
  | reallocate oldAddr size =>
    simp only [Request.handle,Option.some.injEq] at h
    subst h
    simp [serveMessage,Request.tlv,Request.fdOut,kMsgCall,kMsgAllocate,kMsgReallocate,bytesAs_of_length,
      fieldOf_leBytes_left,fieldOf_leBytes_right,Served.ofOption]
  | free addr =>
    simp only [Request.handle,Option.some.injEq] at h
    subst h
    simp [serveMessage,Request.tlv,Request.fdOut,kMsgCall,kMsgAllocate,kMsgReallocate,kMsgFree,
      bytesAs_of_length,toUInt64_leValue,Served.ofOption]
  | symbol symname =>
    simp only [Request.handle,Option.some.injEq] at h
    subst h
    simp [serveMessage,Request.tlv,Request.fdOut,kMsgCall,kMsgAllocate,kMsgReallocate,kMsgFree,kMsgSymbol,
      endsAtNul_cString,cString_cString]
  | sendFD localFd => exact absurd rfl (hfd localFd)
  | recvFD remoteFd =>
    rcases hr : Client.handleRecvFd eff remoteFd with ⟨out,terminated,ret'⟩
    cases terminated with
    | true => simp [Request.handle,hr] at h
    | false =>
      simp only [Request.handle,hr,Bool.false_eq_true,if_false,Option.some.injEq] at h
      subst h
      simp [serveMessage,Request.tlv,Request.fdOut,kMsgCall,kMsgAllocate,kMsgReallocate,kMsgFree,kMsgSymbol,
        kMsgExit,kMsgSendFd,kMsgRecvFd,bytesAs_of_length,ofNat_leValue,hr,Served.afterSend]
  | close remoteFd =>
    simp only [Request.handle,Option.some.injEq] at h
    subst h
    simp [serveMessage,Request.tlv,Request.fdOut,kMsgCall,kMsgAllocate,kMsgReallocate,kMsgFree,kMsgSymbol,
      kMsgExit,kMsgSendFd,kMsgRecvFd,kMsgClose,bytesAs_of_length,ofNat_leValue,Served.ofOption]
  | strlen str =>
    simp only [Request.handle,Option.some.injEq] at h
    subst h
    simp [serveMessage,Request.tlv,Request.fdOut,kMsgCall,kMsgAllocate,kMsgReallocate,kMsgFree,kMsgSymbol,
      kMsgExit,kMsgSendFd,kMsgRecvFd,kMsgClose,kMsgStrlen,bytesAs_of_length,toUInt64_leValue,Served.ofOption]


/-- A round of the sandboxee reads what the method of an accepted request sent, whole, and sends
the handler's reply. -/
theorem serveRequest_sent (hchunk : ∀ n, 0 < chunk n) {hostSend : Int32 → Sendmsg}
    (hh : ∀ fd, (hostSend fd).len = sizeofTlv) {req : Request} (hacc : req.Accepted)
    {ret : Reply} (h : req.handle eff = some ret) {r : Reader} {rest : List UInt8}
    (hs : stream.drop r.pos = streamOf (req.sent hostSend eff.installedFd) ++ rest)
    (hc : ControlFrom ctrl r.pos (req.sent hostSend eff.installedFd)) :
    ∃ k, (serveRequest stream ctrl chunk eff).run r =
      some (.replied (req.fdOut eff ++ [ret.segment]),
        ⟨r.pos + (streamOf (req.sent hostSend eff.installedFd)).length,k⟩) := by
  have hm : req.tlv.value.length ≤ getMaxMsgSize := of_decide_eq_true hacc
  by_cases hfd : ∃ localFd, req = .sendFD localFd
  · obtain ⟨localFd,rfl⟩ := hfd
    simp only [Request.handle,Option.some.injEq] at h
    subst h
    rw [sent_sendFD_of_whole hh] at hs hc ⊢
    have hs' : stream.drop r.pos = tlvBytes ⟨kMsgSendFd,[]⟩ ++ ((sendFDSegment eff.installedFd).bytes ++ rest) := by
      simpa [tlvSegment] using hs
    obtain ⟨k,hk⟩ := recvTLVGeneric_of_drop hchunk (m := ⟨kMsgSendFd,[]⟩) (by simp) hs'
    have hlen : (tlvBytes ⟨kMsgSendFd,[]⟩).length = 12 := by decide
    have hc' : ctrl (r.pos + 12) = [sendFDHdr eff.installedFd] := by
      rw [hc 12 (by simp [tlvSegment,hlen,sendFDSegment])]
      rfl
    have hmsg : (serveMessage stream ctrl eff ⟨kMsgSendFd,[]⟩).run ⟨r.pos + 12,k⟩ = _ :=
      serveMessage_sendFD (by rw [← hlen]; exact drop_add_length hs') hc'
    refine ⟨k + 1,?_⟩
    rw [serveRequest_of_recv hk,hlen,hmsg]
    simp [Request.fdOut,tlvSegment,hlen,sendFDSegment]
  · simp only [not_exists] at hfd
    have hs' : stream.drop r.pos = tlvBytes req.tlv ++ rest := by
      simpa [Request.sent_of_ne hfd,tlvSegment] using hs
    obtain ⟨k,hk⟩ := recvTLVGeneric_of_drop hchunk hm hs'
    refine ⟨k,?_⟩
    rw [serveRequest_of_recv hk,serveMessage_tlv hfd h]
    simp [Request.sent_of_ne hfd,tlvSegment]

end Serve

/-! ### The host reads each reply -/

namespace Request

/-! ### What the methods make of a reply -/

theorem toUInt64_mod (v : Nat) : (v % 2 ^ 64).toUInt64 = v.toUInt64 := by
  rw [← UInt64.toNat_inj]
  simp

theorem toUInt32_mod (v : Nat) : (v % 2 ^ 64).toUInt32 = v.toUInt32 := by
  rw [← UInt32.toNat_inj]
  simp

theorem returned_map_map (expType : VType) (ret : Reply) (f : List UInt8 → Answer) :
    ((returned expType ret).map Reply.bytes).map f = (returned expType ret).map fun ret => f ret.bytes := by
  unfold returned
  split_ifs <;> rfl

/-- The check of `success` a method makes after `Return` never fails: `Return` let the reply
through only if it had succeeded. -/
theorem returned_bind_success (expType : VType) (ret : Reply) (msg : String) (f : List UInt8 → Answer) :
    ((returned expType ret).map Reply.bytes).bind (fun ret => if !successOf ret then .error msg else .ok (f ret)) =
      (returned expType ret).map fun ret => f ret.bytes := by
  unfold returned
  split_ifs with ht hs
  · rfl
  · rfl
  · simp only [Bool.not_eq_true'] at hs
    simp [Except.map,Except.bind,successOf_reply_bytes,hs]

end Request

section Host

variable {stream : List UInt8} {ctrl : Nat → List CmsgHdr} {chunk : Nat → Nat}

theorem intValOf_reply_bytes (ret : Reply) : intValOf ret.bytes = ret.value % 2 ^ 64 := by
  have hbytes : ret.bytes = (leBytes 4 ret.retType.toNat ++ List.replicate 12 0) ++
      (leBytes 16 ret.value ++ ([if ret.success then 1 else 0] ++ List.replicate 15 0)) := by
    simp [Reply.bytes]
  unfold intValOf
  rw [hbytes,List.drop_left' (by simp),List.take_append_of_le_length (by simp),
    take_leBytes _ (by omega),leValue_leBytes]
  norm_num

theorem rpcReturn_reply (hchunk : ∀ n, 0 < chunk n) (expType : VType) (ret : Reply) {r : Reader}
    {more : List UInt8} (h : stream.drop r.pos = streamOf [ret.segment] ++ more) :
    ∃ k, (rpcReturn stream chunk expType).run r =
      some ((returned expType ret).map Reply.bytes,⟨r.pos + (streamOf [ret.segment]).length,k⟩) := by
  have hlen : (Tlv.value ⟨kMsgReturn,ret.bytes⟩).length ≤ getMaxMsgSize := by
    simp [sizeofFuncRet,getMaxMsgSize]
  obtain ⟨k,hk⟩ := recvTLVBuffer_of_drop hchunk hlen (by simpa [Reply.segment,tlvSegment] using h)
    (show (Tlv.value ⟨kMsgReturn,ret.bytes⟩).length ≤ sizeofFuncRet by simp)
  refine ⟨k,?_⟩
  unfold rpcReturn
  rw [run_bind_of_some hk]
  by_cases ht : ret.retType.toNat = expType.toNat
  · cases hs : ret.success <;>
      simp [returned,ht,hs,retTypeOf_reply_bytes,successOf_reply_bytes,Reply.segment,tlvSegment,Except.map]
  · simp [returned,ht,retTypeOf_reply_bytes,Reply.segment,tlvSegment,Except.map]

theorem run_return (hchunk : ∀ n, 0 < chunk n) (expType : VType) (ret : Reply)
    (post : Except String (List UInt8) → Except String Answer) {r : Reader} {more : List UInt8}
    (h : stream.drop r.pos = streamOf [ret.segment] ++ more) :
    ∃ k, (do let fret ← rpcReturn stream chunk expType; pure (post fret) : RecvM _).run r =
      some (post ((returned expType ret).map Reply.bytes),⟨r.pos + (streamOf [ret.segment]).length,k⟩) := by
  obtain ⟨k,hk⟩ := rpcReturn_reply hchunk expType ret h
  exact ⟨k,by rw [run_bind_of_some hk]; rfl⟩

theorem run_of_accepted {req : Request} (hacc : req.Accepted) (sendmsg : Int32 → Sendmsg) :
    req.run stream ctrl chunk sendmsg = req.method stream ctrl chunk sendmsg := by
  rw [Request.run,if_neg (by simp [show sendTLVAccepts req.tlv = true from hacc])]

theorem returned_of_expected {expType : VType} {ret : Reply} (ht : ret.retType.toNat = expType.toNat)
    (hs : ret.success = true) : returned expType ret = .ok ret := by
  simp [returned,ht,hs]

/-- The method of an accepted request reads what the sandboxee sent for it, whole, and returns
what it makes of the handler's reply. -/
theorem run_replied (hchunk : ∀ n, 0 < chunk n) {hostSend : Int32 → Sendmsg}
    (hh : ∀ fd, (hostSend fd).len = sizeofTlv) {eff : Effects}
    (hsend : ∀ fd, (eff.sendmsgFd fd).len = sizeofTlv)
    {req : Request} (hacc : req.Accepted) {ret : Reply} (h : req.handle eff = some ret) {r : Reader}
    {more : List UInt8} (hs : stream.drop r.pos = streamOf (req.fdOut eff ++ [ret.segment]) ++ more)
    (hc : ControlFrom ctrl r.pos (req.fdOut eff ++ [ret.segment])) :
    ∃ k, (req.run stream ctrl chunk hostSend).run r =
      some (req.answer eff.passedFd ret,⟨r.pos + (streamOf (req.fdOut eff ++ [ret.segment])).length,k⟩) := by
  rw [run_of_accepted hacc]
  cases req with
  | call c expType =>
    simp only [Request.fdOut,List.nil_append] at hs ⊢
    obtain ⟨k,hk⟩ := run_return hchunk expType ret (fun fret => fret.map .ret) hs
    have hval : answer eff.passedFd (.call c expType) ret = ((returned expType ret).map Reply.bytes).map .ret := by
      rw [returned_map_map]
      rfl
    exact ⟨k,by rw [hval]; exact hk⟩
  | allocate size =>
    simp only [Request.fdOut,List.nil_append] at hs ⊢
    obtain ⟨k,hk⟩ := run_return hchunk .kPointer ret (fun fret => fret.map fun ret => .addr (intValOf ret).toUInt64) hs
    have hval : answer eff.passedFd (.allocate size) ret =
        ((returned .kPointer ret).map Reply.bytes).map fun ret => .addr (intValOf ret).toUInt64 := by
      show (returned .kPointer ret).map (value eff.passedFd (.allocate size)) = _
      rw [returned_map_map]
      simp only [intValOf_reply_bytes,toUInt64_mod]
      rfl
    exact ⟨k,by rw [hval]; exact hk⟩
  | reallocate oldAddr size =>
    simp only [Request.fdOut,List.nil_append] at hs ⊢
    obtain ⟨k,hk⟩ := run_return hchunk .kPointer ret (fun fret =>
      (fret.mapError ("Reallocate() failed on the remote side: " ++ ·)).map fun ret => .addr (intValOf ret).toUInt64) hs
    have hval : answer eff.passedFd (.reallocate oldAddr size) ret =
        (((returned .kPointer ret).map Reply.bytes).mapError ("Reallocate() failed on the remote side: " ++ ·)).map
          fun ret => .addr (intValOf ret).toUInt64 := by
      show ((returned .kPointer ret).map (value eff.passedFd (.reallocate oldAddr size))).mapError _ = _
      unfold returned
      split_ifs
      · rfl
      · rfl
      · show Except.ok (Answer.addr ret.value.toUInt64) = .ok (.addr (intValOf ret.bytes).toUInt64)
        rw [intValOf_reply_bytes,toUInt64_mod]
    exact ⟨k,by rw [hval]; exact hk⟩
  | free addr =>
    simp only [Request.fdOut,List.nil_append] at hs ⊢
    obtain ⟨k,hk⟩ := run_return hchunk .kVoid ret (fun fret => fret.bind fun ret =>
      if !successOf ret then .error "Free() failed on the remote side" else .ok .done) hs
    have hval : answer eff.passedFd (.free addr) ret = ((returned .kVoid ret).map Reply.bytes).bind fun ret =>
        if !successOf ret then .error "Free() failed on the remote side" else .ok .done := by
      rw [returned_bind_success]
      rfl
    exact ⟨k,by rw [hval]; exact hk⟩
  | symbol symname =>
    simp only [Request.fdOut,List.nil_append] at hs ⊢
    obtain ⟨k,hk⟩ := run_return hchunk .kPointer ret (fun fret => fret.map fun ret => .addr (intValOf ret).toUInt64) hs
    have hval : answer eff.passedFd (.symbol symname) ret =
        ((returned .kPointer ret).map Reply.bytes).map fun ret => .addr (intValOf ret).toUInt64 := by
      show (returned .kPointer ret).map (value eff.passedFd (.symbol symname)) = _
      rw [returned_map_map]
      simp only [intValOf_reply_bytes,toUInt64_mod]
      rfl
    exact ⟨k,by rw [hval]; exact hk⟩
  | sendFD localFd =>
    have hm : (Request.sendFD localFd).method stream ctrl chunk hostSend = rpcSendFD stream chunk := by
      rw [Request.method,sendFD_of_whole (hh localFd)]
      rfl
    rw [hm]
    simp only [Request.fdOut,List.nil_append] at hs ⊢
    obtain ⟨k,hk⟩ := run_return hchunk .kInt ret (fun fret => fret.bind fun ret =>
      if !successOf ret then .error "SendFD failed on the remote side"
      else .ok (.fd (intValOf ret).toUInt32.toInt32.toInt)) hs
    have hval : answer eff.passedFd (.sendFD localFd) ret = ((returned .kInt ret).map Reply.bytes).bind fun ret =>
        if !successOf ret then .error "SendFD failed on the remote side"
        else .ok (.fd (intValOf ret).toUInt32.toInt32.toInt) := by
      show (returned .kInt ret).map (value eff.passedFd (.sendFD localFd)) = _
      rw [returned_bind_success]
      simp only [intValOf_reply_bytes,toUInt32_mod]
      rfl
    exact ⟨k,by rw [hval]; exact hk⟩
  | recvFD remoteFd =>
    have hok := handleRecvFd_of_whole (hsend remoteFd)
    have hret : ret = ⟨VType.kVoid.toUInt32,0,true⟩ := by
      simp only [Request.handle,hok,Bool.false_eq_true,if_false,Option.some.injEq] at h
      exact h.symm
    subst hret
    simp only [Request.fdOut,hok] at hs hc ⊢
    have hctrl : ctrl r.pos = [sendFDHdr eff.passedFd] := by
      have := hc 0 (by simp [sendFDSegment])
      rw [Nat.add_zero] at this
      rw [this]
      rfl
    have hs1 : stream.drop r.pos = leBytes 4 kTagFd.toNat ++ leBytes 4 0 ++
        (streamOf [(⟨VType.kVoid.toUInt32,0,true⟩ : Reply).segment] ++ more) := by
      simpa [sendFDSegment] using hs
    have hfd : (recvFDStream stream ([sendFDHdr eff.passedFd].length + 1) 8 [sendFDHdr eff.passedFd]).run r = _ :=
      recvFDStream_sendFD (by simp) eff.passedFd hs1
    have hs2 : stream.drop (Reader.pos ⟨r.pos + 8,r.reads + 1⟩) =
        streamOf [(⟨VType.kVoid.toUInt32,0,true⟩ : Reply).segment] ++ more := by
      have := drop_add_length hs1
      simpa using this
    obtain ⟨k,hk⟩ := rpcReturn_reply hchunk .kVoid _ hs2
    rw [returned_of_expected (by rfl) rfl] at hk
    have hrecv : (rpcRecvFD stream chunk ([sendFDHdr eff.passedFd].length + 1) 8 [sendFDHdr eff.passedFd]).run r =
        some (.ok eff.passedFd,⟨r.pos + 8 + (streamOf [(⟨VType.kVoid.toUInt32,0,true⟩ : Reply).segment]).length,k⟩) := by
      unfold rpcRecvFD
      rw [run_bind_of_some hfd]
      dsimp only
      rw [run_bind_of_some hk]
      simp [successOf_reply_bytes,Except.map,Except.bind]
    refine ⟨k,?_⟩
    show (rpcRecvFDAt stream ctrl chunk).run r = _
    unfold rpcRecvFDAt
    rw [run_bind_of_some (rfl : (get : RecvM Reader).run r = some (r,r)),hctrl]
    have hret : returned .kVoid ⟨VType.kVoid.toUInt32,0,true⟩ = .ok ⟨VType.kVoid.toUInt32,0,true⟩ :=
      returned_of_expected rfl rfl
    rw [run_bind_of_some hrecv]
    simp [answer,value,expType,hret,Except.map,sendFDSegment]
    omega
  | close remoteFd =>
    simp only [Request.fdOut,List.nil_append] at hs ⊢
    obtain ⟨k,hk⟩ := run_return hchunk .kVoid ret (fun fret => fret.bind fun ret =>
      if !successOf ret then .error "Close() failed on the remote side" else .ok .done) hs
    have hval : answer eff.passedFd (.close remoteFd) ret = ((returned .kVoid ret).map Reply.bytes).bind fun ret =>
        if !successOf ret then .error "Close() failed on the remote side" else .ok .done := by
      rw [returned_bind_success]
      rfl
    exact ⟨k,by rw [hval]; exact hk⟩
  | strlen str =>
    simp only [Request.fdOut,List.nil_append] at hs ⊢
    obtain ⟨k,hk⟩ := run_return hchunk .kInt ret (fun fret => fret.bind fun ret =>
      if !successOf ret then .error "Close() failed on the remote side" else .ok (.len (intValOf ret).toUInt64)) hs
    have hval : answer eff.passedFd (.strlen str) ret = ((returned .kInt ret).map Reply.bytes).bind fun ret =>
        if !successOf ret then .error "Close() failed on the remote side" else .ok (.len (intValOf ret).toUInt64) := by
      show (returned .kInt ret).map (value eff.passedFd (.strlen str)) = _
      rw [returned_bind_success]
      simp only [intValOf_reply_bytes,toUInt64_mod]
      rfl
    exact ⟨k,by rw [hval]; exact hk⟩

end Host

/-! ### The session -/

section Session

variable {stream : List UInt8} {ctrl : Nat → List CmsgHdr} {chunk : Nat → Nat} {env : Nat → Effects}

theorem transparent_of_accepted {req : Request} {reqs : List Request} {round : Nat}
    {answers : List (Except String Answer)} (hacc : req.Accepted)
    (h : transparent env round (req :: reqs) = some answers) :
    ∃ ret rest, req.handle (env round) = some ret ∧ transparent env (round + 1) reqs = some rest ∧
      answers = req.answer (env round).passedFd ret :: rest := by
  simp only [transparent,if_pos hacc] at h
  cases hret : req.handle (env round) with
  | none => simp [hret] at h
  | some ret =>
    cases hrest : transparent env (round + 1) reqs with
    | none => simp [hret,hrest] at h
    | some rest =>
      simp only [hret,hrest] at h
      exact ⟨ret,rest,rfl,rfl,(Option.some.inj h).symm⟩

theorem transparent_of_refused {req : Request} {reqs : List Request} {round : Nat}
    {answers : List (Except String Answer)} (hacc : ¬req.Accepted)
    (h : transparent env round (req :: reqs) = some answers) :
    ∃ rest, transparent env round reqs = some rest ∧ answers = .error "Sending TLV value failed" :: rest := by
  simp only [transparent,if_neg hacc,Option.map_eq_some_iff] at h
  obtain ⟨rest,hrest,rfl⟩ := h
  exact ⟨rest,hrest,rfl⟩

/-- Round after round, the sandboxee reads the requests the host sent, whole, and sends the
handlers' replies; it never stops. -/
theorem serveLoop_hostChannel (hchunk : ∀ n, 0 < chunk n) {hostSend : Int32 → Sendmsg}
    (hh : ∀ fd, (hostSend fd).len = sizeofTlv) :
    ∀ {reqs : List Request} {round : Nat} {answers : List (Except String Answer)} {r : Reader}
      {s : List UInt8}, transparent env round reqs = some answers →
      stream.drop r.pos = streamOf (hostChannel hostSend env round reqs) ++ s →
      ControlFrom ctrl r.pos (hostChannel hostSend env round reqs) →
      ∃ k, (serveLoop stream ctrl chunk env (served reqs) round).run r =
        some ((replies env round reqs,false),
          ⟨r.pos + (streamOf (hostChannel hostSend env round reqs)).length,k⟩)
  | [], _, _, r, _, _, _, _ => ⟨r.reads,by simp [serveLoop,served,replies,hostChannel]⟩
  | req :: reqs, round, answers, r, rest, h, hs, hc => by
    by_cases hacc : req.Accepted
    · obtain ⟨ret,rest',hret,hrest,-⟩ := transparent_of_accepted hacc h
      simp only [hostChannel,if_pos hacc,terminates_of_whole hh,Bool.false_eq_true,if_false,streamOf_append,
        List.append_assoc] at hs hc ⊢
      obtain ⟨k,hk⟩ := serveRequest_sent hchunk hh hacc hret hs hc.left
      obtain ⟨k',hk'⟩ := serveLoop_hostChannel hchunk hh (r := ⟨_,k⟩) hrest (drop_add_length hs) hc.right
      refine ⟨k',?_⟩
      have hserved : served (req :: reqs) = served reqs + 1 := by
        simp [served,hacc]
      rw [hserved,serveLoop,run_bind_of_some hk]
      dsimp only
      rw [run_bind_of_some hk']
      simp [replies,hacc,hret,Nat.add_assoc]
    · obtain ⟨rest',hrest,-⟩ := transparent_of_refused hacc h
      have hserved : served (req :: reqs) = served reqs := by
        simp [served,hacc]
      simp only [hostChannel,if_neg hacc] at hs hc ⊢
      rw [hserved]
      simpa [replies,hacc] using serveLoop_hostChannel hchunk hh hrest hs hc

/-- Method after method, the host reads the replies the sandboxee sent, whole, and returns the
answers of the abstract model. -/
theorem hostRun_replies (hchunk : ∀ n, 0 < chunk n) {hostSend : Int32 → Sendmsg}
    (hh : ∀ fd, (hostSend fd).len = sizeofTlv) (hsend : ∀ round fd, ((env round).sendmsgFd fd).len = sizeofTlv) :
    ∀ {reqs : List Request} {round : Nat} {answers : List (Except String Answer)} {r : Reader}
      {s : List UInt8}, transparent env round reqs = some answers →
      stream.drop r.pos = streamOf (replies env round reqs) ++ s →
      ControlFrom ctrl r.pos (replies env round reqs) →
      ∃ k, (hostRun stream ctrl chunk hostSend reqs).run r =
        some (answers,⟨r.pos + (streamOf (replies env round reqs)).length,k⟩)
  | [], _, answers, r, _, h, _, _ => by
    simp only [transparent,Option.some.injEq] at h
    exact ⟨r.reads,by simp [← h,replies,hostRun]⟩
  | req :: reqs, round, answers, r, more, h, hs, hc => by
    have hopen : ¬(req.Accepted ∧ req.terminates hostSend = true) := by
      simp [terminates_of_whole hh]
    by_cases hacc : req.Accepted
    · obtain ⟨ret,rest,hret,hrest,rfl⟩ := transparent_of_accepted hacc h
      have hout : replies env round (req :: reqs) =
          (req.fdOut (env round) ++ [ret.segment]) ++ replies env (round + 1) reqs := by
        simp [replies,hacc,hret]
      rw [hout] at hs hc ⊢
      rw [streamOf_append,List.append_assoc] at hs
      obtain ⟨k,hk⟩ := run_replied hchunk hh (hsend round) hacc hret hs hc.left
      obtain ⟨k',hk'⟩ := hostRun_replies hchunk hh hsend (r := ⟨_,k⟩) hrest (drop_add_length hs) hc.right
      refine ⟨k',?_⟩
      rw [hostRun,run_bind_of_some hk,if_neg hopen,run_bind_of_some hk']
      simp [Nat.add_assoc]
    · obtain ⟨rest,hrest,rfl⟩ := transparent_of_refused hacc h
      have hout : replies env round (req :: reqs) = replies env round reqs := by
        simp [replies,hacc]
      rw [hout] at hs hc ⊢
      obtain ⟨k,hk⟩ := hostRun_replies hchunk hh hsend hrest hs hc
      have hrun : (req.run stream ctrl chunk hostSend).run r = some (.error "Sending TLV value failed",r) := by
        rw [Request.run,if_pos (by simpa [Request.Accepted] using hacc)]
        rfl
      refine ⟨k,?_⟩
      rw [hostRun,run_bind_of_some hrun,if_neg hopen,run_bind_of_some hk]
      rfl

/-- Over any requests, when every `sendmsg` of `SendFD`, the host's and the sandboxee's, sends the
whole `InternalTLV` and no handler stops the sandboxee, the sandboxee serves every request the
host sent without stopping and reads the host's bytes to their end, and each method of the host
returns the answer of the abstract model and reads the sandboxee's bytes to their end, however
the kernel splits the reads on either side. -/
theorem rpcSession_transparent {reqs : List Request} {answers : List (Except String Answer)}
    {sandboxeeChunk hostChunk : Nat → Nat} (hsandboxee : ∀ n, 0 < sandboxeeChunk n)
    (hhost : ∀ n, 0 < hostChunk n) {hostSend : Int32 → Sendmsg}
    (hhostSend : ∀ fd, (hostSend fd).len = sizeofTlv)
    (hsend : ∀ round fd, ((env round).sendmsgFd fd).len = sizeofTlv)
    (hhandled : transparent env 0 reqs = some answers) :
    (∃ k, (serveLoop (streamOf (hostChannel hostSend env 0 reqs))
        (controlAt (hostChannel hostSend env 0 reqs)) sandboxeeChunk env (served reqs) 0).run ⟨0,0⟩ =
      some ((replies env 0 reqs,false),⟨(streamOf (hostChannel hostSend env 0 reqs)).length,k⟩)) ∧
    ∃ k, (hostRun (streamOf (replies env 0 reqs)) (controlAt (replies env 0 reqs)) hostChunk hostSend
        reqs).run ⟨0,0⟩ =
      some (answers,⟨(streamOf (replies env 0 reqs)).length,k⟩) := by
  constructor
  · simpa only [Nat.zero_add] using serveLoop_hostChannel hsandboxee hhostSend (r := ⟨0,0⟩) (s := [])
      hhandled (by simp) (controlFrom_controlAt _)
  · simpa only [Nat.zero_add] using hostRun_replies hhost hhostSend hsend (r := ⟨0,0⟩) (s := [])
      hhandled (by simp) (controlFrom_controlAt _)

end Session

/-- `malloc` at `0x1000`, strings of five bytes, and descriptors numbered `3` in the sandboxee and
`4` in the host. -/
def sessionEffects : Effects :=
  ⟨true,fun _ => 0,fun _ => true,fun _ _ _ => true,fun _ _ => 0,fun _ => 0x1000,fun _ _ => 0x2000,
    fun _ => 5,fun _ => Sendmsg.whole,3,4⟩

/-- `Allocate`, a descriptor passed in and one passed back, and `Strlen`, one byte a read. -/
theorem rpcSession_transparent_allocate :
    transparent (fun _ => sessionEffects) 0 [.allocate 64,.sendFD 7,.recvFD 3,.strlen 0x1000] =
        some [.ok (.addr 0x1000),.ok (.fd 3),.ok (.fd 4),.ok (.len 5)] ∧
      (∃ k, (serveLoop (streamOf (hostChannel (fun _ => Sendmsg.whole) (fun _ => sessionEffects) 0
          [.allocate 64,.sendFD 7,.recvFD 3,.strlen 0x1000]))
          (controlAt (hostChannel (fun _ => Sendmsg.whole) (fun _ => sessionEffects) 0
            [.allocate 64,.sendFD 7,.recvFD 3,.strlen 0x1000])) (fun _ => 1) (fun _ => sessionEffects)
          (served [.allocate 64,.sendFD 7,.recvFD 3,.strlen 0x1000]) 0).run ⟨0,0⟩ =
        some ((replies (fun _ => sessionEffects) 0 [.allocate 64,.sendFD 7,.recvFD 3,.strlen 0x1000],false),
          ⟨(streamOf (hostChannel (fun _ => Sendmsg.whole) (fun _ => sessionEffects) 0
            [.allocate 64,.sendFD 7,.recvFD 3,.strlen 0x1000])).length,k⟩)) ∧
      ∃ k, (hostRun (streamOf (replies (fun _ => sessionEffects) 0 [.allocate 64,.sendFD 7,.recvFD 3,.strlen 0x1000]))
          (controlAt (replies (fun _ => sessionEffects) 0 [.allocate 64,.sendFD 7,.recvFD 3,.strlen 0x1000]))
          (fun _ => 1) (fun _ => Sendmsg.whole) [.allocate 64,.sendFD 7,.recvFD 3,.strlen 0x1000]).run ⟨0,0⟩ =
        some ([.ok (.addr 0x1000),.ok (.fd 3),.ok (.fd 4),.ok (.len 5)],
          ⟨(streamOf (replies (fun _ => sessionEffects) 0 [.allocate 64,.sendFD 7,.recvFD 3,.strlen 0x1000])).length,k⟩) :=
  ⟨rfl,rpcSession_transparent (fun _ => Nat.one_pos) (fun _ => Nat.one_pos) (fun _ => rfl) (fun _ _ => rfl) rfl⟩

/-! ### A `SendFD` that fails in the sandboxee -/

section SendFDFailure

variable {stream : List UInt8} {ctrl : Nat → List CmsgHdr} {chunk : Nat → Nat}

/-- A `SendFD` whose `sendmsg` fails with a fatal `errno` closes the sandboxee's channel, and the
`CHECK` on the reply stops the sandboxee. -/
theorem serveMessage_recvFD_of_fatal {eff : Effects} {remoteFd : Int32}
    (hlen : (eff.sendmsgFd remoteFd).len < 0) (hfatal : isFatalError (eff.sendmsgFd remoteFd).errno = true) :
    serveMessage stream ctrl eff (Request.recvFD remoteFd).tlv = pure .aborted := by
  simp [serveMessage,Request.tlv,kMsgCall,kMsgAllocate,kMsgReallocate,kMsgFree,kMsgSymbol,kMsgExit,
    kMsgSendFd,kMsgRecvFd,bytesAs_of_length,ofNat_leValue,handleRecvFd_of_neg hlen,hfatal,Served.afterSend]

/-- Where a reply stands, the host's `RecvFD` takes its tag and half its length for the
`InternalTLV`, and fails. -/
theorem rpcRecvFDAt_of_reply (ret : Reply) {r : Reader} {more : List UInt8}
    (hs : stream.drop r.pos = streamOf [ret.segment] ++ more) (hc : ctrl r.pos = []) :
    (rpcRecvFDAt stream ctrl chunk).run r = some (.error "Receving FD failed",⟨r.pos + 8,r.reads + 1⟩) := by
  have hhead : (stream.drop r.pos).take (min 8 8) = leBytes 4 kMsgReturn.toNat ++ [48,0,0,0] := by
    rw [hs]
    simp only [streamOf_cons,streamOf_nil,List.append_nil,Reply.segment,tlvSegment,tlvBytes_eq,
      length_reply_bytes,← List.append_assoc]
    rw [Nat.min_self,List.take_append_of_le_length (by simp [sizeofFuncRet]),
      List.take_append_of_le_length (by simp)]
    decide
  have hfd : (recvFDStream stream ([] : List CmsgHdr).length.succ 8 []).run r =
      some (⟨false,none⟩,⟨r.pos + 8,r.reads + 1⟩) := by
    show (recvFD _ _).map _ = _
    rw [hhead,List.take_left' (length_leBytes 4 _),tag_leBytes,
      recvFD_of_tag_ne (by simp [sizeofTlv]) (by decide)]
    rfl
  have hrecv : (rpcRecvFD stream chunk ([] : List CmsgHdr).length.succ 8 []).run r =
      some (.error "Receving FD failed",⟨r.pos + 8,r.reads + 1⟩) := by
    unfold rpcRecvFD
    rw [run_bind_of_some hfd]
    rfl
  unfold rpcRecvFDAt
  rw [run_bind_of_some (rfl : (get : RecvM Reader).run r = some (r,r)),hc,run_bind_of_some hrecv]
  rfl

/-- Eight bytes into the reply to a `RecvFD` that failed, `Return` reads the rest of its length and
the start of its `FuncRet` as an empty TLV of tag `0`. -/
theorem rpcReturn_of_failedRecvFdReply (hchunk : ∀ n, 0 < chunk n) (expType : VType) {r : Reader}
    {more : List UInt8}
    (hs : stream.drop r.pos = (streamOf [(⟨VType.kVoid.toUInt32,0,false⟩ : Reply).segment]).drop 8 ++ more) :
    ∃ k, (rpcReturn stream chunk expType).run r =
      some (.error "Received TLV has incorrect tag",⟨r.pos + 12,k⟩) := by
  have hsplit : (streamOf [(⟨VType.kVoid.toUInt32,0,false⟩ : Reply).segment]).drop 8 =
      tlvBytes ⟨0,[]⟩ ++ (streamOf [(⟨VType.kVoid.toUInt32,0,false⟩ : Reply).segment]).drop 20 := by
    decide
  rw [hsplit,List.append_assoc] at hs
  obtain ⟨k,hk⟩ := recvTLVBuffer_of_drop hchunk (show (Tlv.value ⟨0,[]⟩).length ≤ getMaxMsgSize by simp) hs
    (show (Tlv.value ⟨0,[]⟩).length ≤ sizeofFuncRet by simp)
  refine ⟨k,?_⟩
  unfold rpcReturn
  rw [run_bind_of_some hk]
  rfl

theorem accepted_recvFD (remoteFd : Int32) : (Request.recvFD remoteFd).Accepted := by
  simp [Request.Accepted,sendTLVAccepts,Request.tlv,getMaxMsgSize]

theorem accepted_allocate (size : UInt64) : (Request.allocate size).Accepted := by
  simp [Request.Accepted,sendTLVAccepts,Request.tlv,getMaxMsgSize]

/-- The host's `RecvFD` and `Allocate` over the reply to a failed `kMsgRecvFd`, whatever reply
follows it: the first fails on the tag, the second reads the rest of the first reply. -/
theorem hostRun_recvFD_allocate_of_failedReply (hhost : ∀ n, 0 < chunk n) (remoteFd : Int32)
    (size : UInt64) (next : Reply) :
    ∃ k, (hostRun (streamOf [(⟨VType.kVoid.toUInt32,0,false⟩ : Reply).segment,next.segment])
        (controlAt [(⟨VType.kVoid.toUInt32,0,false⟩ : Reply).segment,next.segment]) chunk
        (fun _ => Sendmsg.whole) [.recvFD remoteFd,.allocate size]).run ⟨0,0⟩ =
      some ([.error "Receving FD failed",.error "Received TLV has incorrect tag"],⟨20,k⟩) := by
  have hs1 : (streamOf [(⟨VType.kVoid.toUInt32,0,false⟩ : Reply).segment,next.segment]).drop
      (Reader.pos ⟨0,0⟩) =
      streamOf [(⟨VType.kVoid.toUInt32,0,false⟩ : Reply).segment] ++ streamOf [next.segment] := by
    simp
  have hrun1 : ((Request.recvFD remoteFd).run (streamOf [(⟨VType.kVoid.toUInt32,0,false⟩ : Reply).segment,
      next.segment]) (controlAt [(⟨VType.kVoid.toUInt32,0,false⟩ : Reply).segment,next.segment]) chunk
      fun _ => Sendmsg.whole).run ⟨0,0⟩ = some (.error "Receving FD failed",⟨8,1⟩) := by
    rw [run_of_accepted (accepted_recvFD remoteFd)]
    exact rpcRecvFDAt_of_reply _ hs1 rfl
  have hs2 : (streamOf [(⟨VType.kVoid.toUInt32,0,false⟩ : Reply).segment,next.segment]).drop
      (Reader.pos ⟨8,1⟩) =
      (streamOf [(⟨VType.kVoid.toUInt32,0,false⟩ : Reply).segment]).drop 8 ++ streamOf [next.segment] := by
    rw [show [(⟨VType.kVoid.toUInt32,0,false⟩ : Reply).segment,next.segment] =
      [(⟨VType.kVoid.toUInt32,0,false⟩ : Reply).segment] ++ [next.segment] from rfl,streamOf_append]
    exact List.drop_append_of_le_length (by decide)
  obtain ⟨k,hk⟩ := rpcReturn_of_failedRecvFdReply hhost .kPointer hs2
  have hrun2 : ((Request.allocate size).run (streamOf [(⟨VType.kVoid.toUInt32,0,false⟩ : Reply).segment,
      next.segment]) (controlAt [(⟨VType.kVoid.toUInt32,0,false⟩ : Reply).segment,next.segment]) chunk
      fun _ => Sendmsg.whole).run ⟨8,1⟩ = some (.error "Received TLV has incorrect tag",⟨8 + 12,k⟩) := by
    rw [run_of_accepted (accepted_allocate size)]
    unfold Request.method rpcAllocate
    rw [run_bind_of_some hk]
    rfl
  have hrest : (hostRun (streamOf [(⟨VType.kVoid.toUInt32,0,false⟩ : Reply).segment,next.segment])
      (controlAt [(⟨VType.kVoid.toUInt32,0,false⟩ : Reply).segment,next.segment]) chunk
      (fun _ => Sendmsg.whole) [.allocate size]).run ⟨8,1⟩ =
      some ([.error "Received TLV has incorrect tag"],⟨20,k⟩) := by
    rw [hostRun,run_bind_of_some hrun2,if_neg (by simp [Request.terminates]),hostRun]
    rfl
  refine ⟨k,?_⟩
  rw [hostRun,run_bind_of_some hrun1,if_neg (by simp [Request.terminates]),run_bind_of_some hrest]
  rfl

/-- When the sandboxee's `sendmsg` of `SendFD` fails without closing the channel (`ENOMEM`, say),
a `RecvFD` followed by an `Allocate` goes out of step. The sandboxee serves both requests and
replies to each, the reply to `kMsgRecvFd` saying the call failed. The host's `RecvFD` takes the
first eight bytes of that reply for the `InternalTLV` and fails, and the `Return` of `Allocate`
reads the rest of it as a TLV of tag `0`, twenty bytes into the stream; the reply to `Allocate`
is never read, where the abstract model gives `Allocate` its address. -/
theorem rpcSession_recvFD_sendFDFailure_misaligns {env : Nat → Effects} {sandboxeeChunk hostChunk : Nat → Nat}
    (hsandboxee : ∀ n, 0 < sandboxeeChunk n) (hhost : ∀ n, 0 < hostChunk n) (remoteFd : Int32)
    (size : UInt64) (hfail : ((env 0).sendmsgFd remoteFd).len < 0)
    (hnonfatal : isFatalError ((env 0).sendmsgFd remoteFd).errno = false) :
    transparent env 0 [.recvFD remoteFd,.allocate size] =
        some [.error "Function call failed",.ok (.addr ((env 1).malloc size))] ∧
      replies env 0 [.recvFD remoteFd,.allocate size] =
        [(⟨VType.kVoid.toUInt32,0,false⟩ : Reply).segment,(handleAllocMsg (env 1) size).segment] ∧
      (∃ k, (serveLoop (streamOf (hostChannel (fun _ => Sendmsg.whole) env 0 [.recvFD remoteFd,.allocate size]))
          (controlAt (hostChannel (fun _ => Sendmsg.whole) env 0 [.recvFD remoteFd,.allocate size]))
          sandboxeeChunk env 2 0).run ⟨0,0⟩ =
        some ((replies env 0 [.recvFD remoteFd,.allocate size],false),
          ⟨(streamOf (hostChannel (fun _ => Sendmsg.whole) env 0 [.recvFD remoteFd,.allocate size])).length,k⟩)) ∧
      ∃ k, (hostRun (streamOf (replies env 0 [.recvFD remoteFd,.allocate size]))
          (controlAt (replies env 0 [.recvFD remoteFd,.allocate size])) hostChunk (fun _ => Sendmsg.whole)
          [.recvFD remoteFd,.allocate size]).run ⟨0,0⟩ =
        some ([.error "Receving FD failed",.error "Received TLV has incorrect tag"],⟨20,k⟩) := by
  have hr : Client.handleRecvFd (env 0) remoteFd = ([],false,⟨VType.kVoid.toUInt32,0,false⟩) := by
    rw [handleRecvFd_of_neg hfail,hnonfatal]
  have hacc1 := accepted_recvFD remoteFd
  have hacc2 := accepted_allocate size
  have htrans : transparent env 0 [.recvFD remoteFd,.allocate size] =
      some [.error "Function call failed",.ok (.addr ((env 1).malloc size))] := by
    simp [transparent,hacc1,hacc2,Request.handle,hr,answer,returned,value,expType,handleAllocMsg,
      VType.toUInt32,VType.toNat,Except.map]
  have hrep : replies env 0 [.recvFD remoteFd,.allocate size] =
      [(⟨VType.kVoid.toUInt32,0,false⟩ : Reply).segment,(handleAllocMsg (env 1) size).segment] := by
    simp [replies,hacc1,hacc2,Request.handle,Request.fdOut,hr]
  have hserved : served [.recvFD remoteFd,.allocate size] = 2 := by
    simp [served,hacc1,hacc2]
  refine ⟨htrans,hrep,?_,?_⟩
  · simpa only [Nat.zero_add,hserved] using serveLoop_hostChannel hsandboxee (fun _ => rfl) (r := ⟨0,0⟩)
      (s := []) htrans (by simp) (controlFrom_controlAt _)
  · rw [hrep]
    exact hostRun_recvFD_allocate_of_failedReply hhost remoteFd size _

end SendFDFailure

/-- `sendmsg` failing with `ENOMEM` in the sandboxee, the rest as in `sessionEffects`. -/
def enomemEffects : Effects := { sessionEffects with sendmsgFd := fun _ => ⟨-1,eNoMem⟩ }

theorem rpcSession_recvFD_sendFDFailure_enomem :
    transparent (fun _ => enomemEffects) 0 [.recvFD 3,.allocate 4096] =
        some [.error "Function call failed",.ok (.addr 0x1000)] ∧
      replies (fun _ => enomemEffects) 0 [.recvFD 3,.allocate 4096] =
        [(⟨VType.kVoid.toUInt32,0,false⟩ : Reply).segment,(handleAllocMsg enomemEffects 4096).segment] ∧
      (∃ k, (serveLoop (streamOf (hostChannel (fun _ => Sendmsg.whole) (fun _ => enomemEffects) 0
          [.recvFD 3,.allocate 4096]))
          (controlAt (hostChannel (fun _ => Sendmsg.whole) (fun _ => enomemEffects) 0 [.recvFD 3,.allocate 4096]))
          (fun _ => 1) (fun _ => enomemEffects) 2 0).run ⟨0,0⟩ =
        some ((replies (fun _ => enomemEffects) 0 [.recvFD 3,.allocate 4096],false),
          ⟨(streamOf (hostChannel (fun _ => Sendmsg.whole) (fun _ => enomemEffects) 0
            [.recvFD 3,.allocate 4096])).length,k⟩)) ∧
      ∃ k, (hostRun (streamOf (replies (fun _ => enomemEffects) 0 [.recvFD 3,.allocate 4096]))
          (controlAt (replies (fun _ => enomemEffects) 0 [.recvFD 3,.allocate 4096])) (fun _ => 1)
          (fun _ => Sendmsg.whole) [.recvFD 3,.allocate 4096]).run ⟨0,0⟩ =
        some ([.error "Receving FD failed",.error "Received TLV has incorrect tag"],⟨20,k⟩) :=
  rpcSession_recvFD_sendFDFailure_misaligns (fun _ => Nat.one_pos) (fun _ => Nat.one_pos) 3 4096
    (by decide) (by decide)

end SandboxedApi
