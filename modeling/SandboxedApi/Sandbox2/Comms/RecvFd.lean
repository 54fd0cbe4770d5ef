import Mathlib.Data.List.Basic

/-! # Receiving a file descriptor

`Comms::RecvFD` reads one TLV header with `recvmsg` and then looks through the control messages
for the first `SOL_SOCKET`/`SCM_RIGHTS` header. A header of that level and type whose
`cmsg_len` is not `CMSG_LEN(sizeof(int))` is skipped with `continue`, which does not move the
cursor: the loop then looks at the same header again, forever. A peer that passes two
descriptors in one message produces exactly such a header.

The control buffer is modelled as the list of its headers, each with the first `int` of its
data; `CMSG_FIRSTHDR` and `CMSG_NXTHDR` move a cursor along the list.
-/
namespace SandboxedApi.Sandbox2

/-- A control message header, with the first `int` of its data. -/
structure CmsgHdr where
  cmsgLen : Nat
  cmsgLevel : Int
  cmsgType : Int
  fd : Int
deriving DecidableEq, Repr

def solSocket : Int := 1
def scmRights : Int := 1
def sizeofInt : Nat := 4
def sizeofCmsghdr : Nat := 16

/-- `CMSG_ALIGN`, to `sizeof(size_t)`. -/
def cmsgAlign (len : Nat) : Nat := (len + 7) / 8 * 8

def cmsgLen (len : Nat) : Nat := cmsgAlign sizeofCmsghdr + len

def CmsgHdr.isRights (cmsg : CmsgHdr) : Bool := cmsg.cmsgLevel == solSocket && cmsg.cmsgType == scmRights

def cmsgFirsthdr (control : List CmsgHdr) : Option Nat := if control = [] then none else some 0

def cmsgNxthdr (control : List CmsgHdr) (i : Nat) : Option Nat :=
  if i + 1 < control.length then some (i + 1) else none

/-- Where one round of the scan loop leaves it. -/
inductive ScanStep where
  | next (cmsg : Option Nat)
  | found (fd : Int)
deriving DecidableEq, Repr

/-- One round of `while (cmsg)`, at the header under the cursor. -/
def scanStep (control : List CmsgHdr) (i : Nat) : ScanStep :=
  match control[i]? with
  | none => .next none
  | some cmsg =>
    if cmsg.isRights then
      -- `continue`: the cursor stays where it is
      if cmsg.cmsgLen ≠ cmsgLen sizeofInt then .next (some i)
      else .found cmsg.fd
    else .next (cmsgNxthdr control i)

/-- The scan loop for at most `fuel` rounds: `none` if it has not ended by then, and otherwise
the descriptor it returned, if any. -/
def scanLoop (control : List CmsgHdr) : Nat → Option Nat → Option (Option Int)
  | _, none => some none
  | 0, some _ => none
  | fuel + 1, some i =>
    match scanStep control i with
    | .next cmsg => scanLoop control fuel cmsg
    | .found fd => some (some fd)

def kTagFd : UInt32 := 0x80000201

/-- `sizeof(InternalTLV)`: a packed tag and length of 32 bits each. -/
def sizeofTlv : Int := 8

/-- What the `recvmsg` call handed back: its return value, whether `errno` is fatal when that
is negative, the tag of the TLV header it read, and the control messages. -/
structure Recvmsg where
  len : Int
  fatal : Bool
  tag : UInt32
  control : List CmsgHdr

/-- Whether `RecvFD` called `Terminate`, and the descriptor it stored when it returned true. -/
structure RecvFdResult where
  terminated : Bool
  fd : Option Int
deriving DecidableEq, Repr

/-- `Comms::RecvFD`, with the scan loop run for at most `fuel` rounds. -/
def recvFD (fuel : Nat) (msg : Recvmsg) : Option RecvFdResult :=
  if msg.len < 0 then some ⟨msg.fatal,none⟩
  else if msg.len = 0 then some ⟨true,none⟩
  else if msg.len ≠ sizeofTlv then some ⟨false,none⟩
  else if msg.tag ≠ kTagFd then some ⟨false,none⟩
  else (scanLoop msg.control fuel (cmsgFirsthdr msg.control)).map fun fd => ⟨false,fd⟩

/-- The one header `Comms::SendFD` sends, with the number the kernel gave the descriptor on the
receiving side. -/
def sendFDHdr (fd : Int) : CmsgHdr := ⟨cmsgLen sizeofInt,solSocket,scmRights,fd⟩

/-! ### Sending a descriptor -/

def eIntr : Int := 4
def eBadf : Int := 9
def eAgain : Int := 11
def eWouldBlock : Int := 11
def eNoMem : Int := 12
def eFault : Int := 14
def eInval : Int := 22
def ePipe : Int := 32

/-- `IsFatalError`: an `errno` after which `Comms` closes the channel. -/
def isFatalError (savedErrno : Int) : Bool :=
  savedErrno != eAgain && savedErrno != eWouldBlock && savedErrno != eFault && savedErrno != eIntr &&
    savedErrno != eInval && savedErrno != eNoMem

/-- What the `sendmsg` call of `Comms::SendFD` handed back, after `TEMP_FAILURE_RETRY`: its
return value and `errno`. -/
structure Sendmsg where
  len : Int
  errno : Int
deriving DecidableEq, Repr

/-- A `sendmsg` that sent the whole `InternalTLV`. -/
def Sendmsg.whole : Sendmsg := ⟨sizeofTlv,0⟩

/-- Whether `SendFD` called `Terminate`, and what it returned. -/
structure SendFdResult where
  terminated : Bool
  ok : Bool
deriving DecidableEq, Repr

/-- `Comms::SendFD`, from what its `sendmsg` returned. -/
def sendFD (msg : Sendmsg) : SendFdResult :=
  if msg.len = -1 ∧ msg.errno = ePipe then ⟨true,false⟩
  else if msg.len < 0 then ⟨isFatalError msg.errno,false⟩
  else if msg.len ≠ sizeofTlv then ⟨false,false⟩
  else ⟨false,true⟩

theorem sendFD_of_whole {msg : Sendmsg} (h : msg.len = sizeofTlv) : sendFD msg = ⟨false,true⟩ := by
  simp [sendFD,h,sizeofTlv]

theorem sendFD_ok_iff (msg : Sendmsg) : (sendFD msg).ok = true ↔ msg.len = sizeofTlv := by
  unfold sendFD
  split_ifs with h1 h2 h3 <;> simp_all [sizeofTlv]
  omega

/-- `SendFD` closes the channel exactly on a fatal error of a `sendmsg` that sent nothing:
`EPIPE` is one of them. -/
theorem sendFD_terminated_iff (msg : Sendmsg) :
    (sendFD msg).terminated = true ↔ msg.len < 0 ∧ isFatalError msg.errno = true := by
  unfold sendFD
  split_ifs with h1 h2 h3
  · obtain ⟨hl,he⟩ := h1
    simp [hl,he]
    decide
  · simp [h2]
  · simp
    omega
  · simp
    omega

/-! ### The scan loop -/

section Scan

variable {control : List CmsgHdr}

@[simp] theorem scanLoop_none (fuel : Nat) : scanLoop control fuel none = some none := by
  cases fuel <;> rfl

theorem scanStep_of_getElem {i : Nat} (hi : i < control.length) :
    scanStep control i =
      if control[i].isRights then
        (if control[i].cmsgLen ≠ cmsgLen sizeofInt then .next (some i) else .found control[i].fd)
      else .next (cmsgNxthdr control i) := by
  rw [scanStep,List.getElem?_eq_getElem hi]

theorem find?_drop_of_isRights {i : Nat} (hi : i < control.length) (h : control[i].isRights) :
    (control.drop i).find? CmsgHdr.isRights = some control[i] := by
  rw [List.drop_eq_getElem_cons hi,List.find?_cons_of_pos h]

theorem find?_drop_of_not_isRights {i : Nat} (hi : i < control.length) (h : ¬control[i].isRights) :
    (control.drop i).find? CmsgHdr.isRights = (control.drop (i + 1)).find? CmsgHdr.isRights := by
  rw [List.drop_eq_getElem_cons hi,List.find?_cons_of_neg h]

/-- From a header on, the loop returns the descriptor of the first `SCM_RIGHTS` header if that
header has the length of one descriptor, within one round per header left. -/
theorem scanLoop_returns_from :
    ∀ (fuel i : Nat), i < control.length → control.length - i ≤ fuel →
      (∀ c ∈ (control.drop i).find? CmsgHdr.isRights, c.cmsgLen = cmsgLen sizeofInt) →
        scanLoop control fuel (some i) = some (((control.drop i).find? CmsgHdr.isRights).map (·.fd)) := by
  intro fuel
  induction fuel with
  | zero => intro i hi hf _; omega
  | succ fuel ih =>
    intro i hi hf hgood
    rw [scanLoop,scanStep_of_getElem hi]
    by_cases hr : control[i].isRights
    · -- the first `SCM_RIGHTS` header, which has the length of one descriptor
      have hl := hgood control[i] (find?_drop_of_isRights hi hr)
      simp only [hr,if_true,hl,ne_eq,not_true_eq_false,if_false,find?_drop_of_isRights hi hr,
        Option.map_some]
    · simp only [hr,Bool.false_eq_true,if_false]
      rw [find?_drop_of_not_isRights hi hr] at hgood ⊢
      unfold cmsgNxthdr
      split
      · rename_i hn
        exact ih (i + 1) hn (by omega) hgood
      · rename_i hn
        rw [List.drop_eq_nil_of_le (by omega),scanLoop_none]
        rfl

/-- From a header on, if the first `SCM_RIGHTS` header has another length, the loop never ends. -/
theorem scanLoop_hangs_from :
    ∀ (fuel i : Nat), i < control.length →
      (∃ c, (control.drop i).find? CmsgHdr.isRights = some c ∧ c.cmsgLen ≠ cmsgLen sizeofInt) →
        scanLoop control fuel (some i) = none := by
  intro fuel
  induction fuel with
  | zero => intro i _ _; rfl
  | succ fuel ih =>
    intro i hi hbad
    rw [scanLoop,scanStep_of_getElem hi]
    by_cases hr : control[i].isRights
    · -- the header is looked at again, with the cursor where it was
      obtain ⟨c,hc,hl⟩ := hbad
      rw [find?_drop_of_isRights hi hr,Option.some.injEq] at hc
      subst hc
      simp only [hr,if_true,ne_eq,hl,not_false_eq_true]
      exact ih i hi ⟨_,find?_drop_of_isRights hi hr,hl⟩
    · simp only [hr,Bool.false_eq_true,if_false]
      rw [find?_drop_of_not_isRights hi hr] at hbad
      unfold cmsgNxthdr
      split
      · rename_i hn
        exact ih (i + 1) hn hbad
      · rename_i hn
        rw [List.drop_eq_nil_of_le (by omega)] at hbad
        simp at hbad

theorem scanLoop_returns (hgood : ∀ c ∈ control.find? CmsgHdr.isRights, c.cmsgLen = cmsgLen sizeofInt)
    {fuel : Nat} (hf : control.length ≤ fuel) :
    scanLoop control fuel (cmsgFirsthdr control) = some ((control.find? CmsgHdr.isRights).map (·.fd)) := by
  unfold cmsgFirsthdr
  split
  · rename_i he
    subst he
    rw [scanLoop_none]
    rfl
  · rename_i hne
    have h := scanLoop_returns_from fuel 0 (List.length_pos_of_ne_nil hne) (by omega) hgood
    rwa [List.drop_zero] at h

theorem scanLoop_hangs
    (hbad : ∃ c, control.find? CmsgHdr.isRights = some c ∧ c.cmsgLen ≠ cmsgLen sizeofInt) (fuel : Nat) :
    scanLoop control fuel (cmsgFirsthdr control) = none := by
  unfold cmsgFirsthdr
  split
  · rename_i he
    subst he
    simp at hbad
  · rename_i hne
    exact scanLoop_hangs_from fuel 0 (List.length_pos_of_ne_nil hne) (by rwa [List.drop_zero])

end Scan

/-! ### `RecvFD` -/

theorem recvFD_of_tlv {fuel : Nat} {msg : Recvmsg} (hl : msg.len = sizeofTlv) (ht : msg.tag = kTagFd) :
    recvFD fuel msg = (scanLoop msg.control fuel (cmsgFirsthdr msg.control)).map fun fd => ⟨false,fd⟩ := by
  rw [recvFD,if_neg (by rw [hl]; decide),if_neg (by rw [hl]; decide),if_neg (by simp [hl]),
    if_neg (by simp [ht])]

theorem find?_sendFDHdr (fd : Int) : [sendFDHdr fd].find? CmsgHdr.isRights = some (sendFDHdr fd) :=
  List.find?_cons_of_pos rfl

/-- What `SendFD` sends, delivered whole, is received: `RecvFD` returns the descriptor. -/
theorem recvFD_sendFD (fatal : Bool) (fd : Int) {fuel : Nat} (hf : 1 ≤ fuel) :
    recvFD fuel ⟨sizeofTlv,fatal,kTagFd,[sendFDHdr fd]⟩ = some ⟨false,some fd⟩ := by
  have hgood : ∀ c ∈ [sendFDHdr fd].find? CmsgHdr.isRights, c.cmsgLen = cmsgLen sizeofInt := by
    intro c hc
    rw [find?_sendFDHdr,Option.mem_some_iff] at hc
    rw [← hc]
    rfl
  rw [recvFD_of_tlv rfl rfl,scanLoop_returns hgood hf,find?_sendFDHdr]
  rfl

/-- A peer that passes two descriptors in one message: `RecvFD` never returns, for any number of
rounds of its scan loop. -/
theorem recvFD_twoFds_hangs (fuel : Nat) :
    recvFD fuel ⟨sizeofTlv,false,kTagFd,[⟨cmsgLen (2 * sizeofInt),solSocket,scmRights,3⟩]⟩ = none := by
  rw [recvFD_of_tlv rfl rfl,scanLoop_hangs ⟨_,rfl,by decide⟩]
  rfl

end SandboxedApi.Sandbox2
