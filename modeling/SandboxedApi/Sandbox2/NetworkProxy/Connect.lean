import Mathlib.Logic.Relation
import SandboxedApi.Sandbox2.NetworkProxy.Filtering

/-! # Connect requests through the network proxy

`NetworkProxyClient::Connect` sends the address with `SendBytes`, waits in
`ReceiveRemoteResult` for an `int32` and, when it is `0`, in `RecvFD` for the socket; it holds
`mutex_` throughout, so one request is in flight at a time. `NetworkProxyServer::Run` calls
`ProcessConnectRequest` while neither `fatal_error_` nor `violation_occurred_` is set, and that
answers a request in one of five ways: an address of the wrong size or family gets `EINVAL`, a
host that is not allowed sets `violation_occurred_` and gets nothing, a failed `socket()` gets
its `errno`, and a `connect()` that succeeds gets `0` and the socket. A `connect()` that fails
gets nothing either, and the loop goes on: the server waits for the next request while the
client waits for its answer (`connect_failure_deadlock`).

The two ends and the two directions of the channel form a transition system (`Step`), and
what the server's calls return is an `Outcome` chosen at each request. What is on its way back
always answers the one request in flight (`Aligned`, kept by every step), so the client never
takes another request's answer; it can only be left waiting.
-/
namespace SandboxedApi.Sandbox2.NetworkProxy

def eINVAL : Int := 22

def sizeofSockaddrIn : Nat := 16
def sizeofSockaddrIn6 : Nat := 28

/-- The bytes `RecvBytes` hands the server: their number, and the address they hold. -/
structure Request where
  size : Nat
  saddr : Sockaddr
deriving DecidableEq, Repr

/-- What the server sends back: an `int32`, or a descriptor with `SendFD`. -/
inductive Reply where
  | int32 (v : Int)
  | fd (fd : Int)
deriving DecidableEq, Repr

/-- What the server's calls return while it handles one request. A `socket()` that fails sets
`errno`, which is then not zero. -/
structure Outcome where
  socket : Int
  errno : Int
  connect : Int
  sendInt32 : Bool
  sendFD : Bool
  errno_ne : socket < 0 → errno ≠ 0

structure Server where
  violationOccurred : Bool
  fatalError : Bool
deriving DecidableEq, Repr

/-! ### The server -/

section Server

variable (o : Outcome) (s : Server)

/-- `SendError` and `NotifySuccess`: one `SendInt32`, whose failure is fatal. -/
def sendInt32Reply (v : Int) : Server × List Reply :=
  if o.sendInt32 then (s,[.int32 v]) else ({ s with fatalError := true },[])

def sendError (savedErrno : Int) : Server × List Reply := sendInt32Reply o s savedErrno
def notifySuccess : Server × List Reply := sendInt32Reply o s 0

/-- `NotifyViolation`: the flag that stops the loop; the monitor is signalled to read it. -/
def notifyViolation : Server := { s with violationOccurred := true }

/-- Only an IPv4 or IPv6 address of its own size is served. -/
def Request.supported (req : Request) : Bool :=
  match req.saddr with
  | .in4 _ _ => req.size == sizeofSockaddrIn
  | .in6 _ _ => req.size == sizeofSockaddrIn6
  | .other _ => false

/-- `NetworkProxyServer::ProcessConnectRequest`, once `RecvBytes` has the request. An address
that passed the family check has an answer from `IsHostAllowed`. -/
def processConnectRequest (allowedHosts : AllowedHosts) (req : Request) : Server × List Reply :=
  if !req.supported then sendError o s eINVAL
  else if allowedHosts.isHostAllowed req.saddr ≠ some true then (notifyViolation s,[])
  else if o.socket < 0 then sendError o s o.errno
  else if o.connect = 0 then
    match notifySuccess o s with
    | (s,r) =>
      if !s.fatalError then
        if o.sendFD then (s,r ++ [.fd o.socket]) else ({ s with fatalError := true },r)
      else (s,r)
  else (s,[])

end Server

/-! ### The two ends -/

/-- Where the client is inside `Connect`. -/
inductive ClientPhase where
  | idle
  | awaitResult
  | awaitFd
deriving DecidableEq, Repr

structure Proxy where
  server : Server
  client : ClientPhase
  requests : List Request
  replies : List Reply
deriving DecidableEq, Repr

def Proxy.init : Proxy := ⟨⟨false,false⟩,.idle,[],[]⟩

inductive Step (allowedHosts : AllowedHosts) : Proxy → Proxy → Prop
  /-- `Connect` sends the address and waits in `ReceiveRemoteResult`. -/
  | connect {p : Proxy} (req : Request) :
      p.client = .idle → Step allowedHosts p { p with client := .awaitResult, requests := p.requests ++ [req] }
  /-- One round of `Run`, while neither flag is set. -/
  | serve {p : Proxy} {req : Request} {rest : List Request} (o : Outcome) :
      p.server.fatalError = false → p.server.violationOccurred = false → p.requests = req :: rest →
      Step allowedHosts p { p with
        server := (processConnectRequest o p.server allowedHosts req).1
        requests := rest
        replies := p.replies ++ (processConnectRequest o p.server allowedHosts req).2 }
  /-- `ReceiveRemoteResult`: `0` goes on to `RecvFD`, anything else is returned as an error. -/
  | result {p : Proxy} {v : Int} {rest : List Reply} :
      p.client = .awaitResult → p.replies = .int32 v :: rest →
      Step allowedHosts p { p with client := if v = 0 then .awaitFd else .idle, replies := rest }
  /-- `RecvFD`, after which `Connect` returns. -/
  | fd {p : Proxy} {f : Int} {rest : List Reply} :
      p.client = .awaitFd → p.replies = .fd f :: rest →
      Step allowedHosts p { p with client := .idle, replies := rest }

/-- What the server may send back for one request: nothing, one `int32`, or `0` and the
socket. -/
def Answer : List Reply → Prop
  | [] => True
  | [.int32 _] => True
  | [.int32 v, .fd _] => v = 0
  | _ => False

/-- What is on its way back answers the one request in flight. -/
def Aligned (p : Proxy) : Prop :=
  match p.client with
  | .idle => p.requests = [] ∧ p.replies = []
  | .awaitResult => (p.requests.length = 1 ∧ p.replies = []) ∨ (p.requests = [] ∧ Answer p.replies)
  | .awaitFd => p.requests = [] ∧ (p.replies = [] ∨ ∃ f, p.replies = [.fd f])

/-! ### What the server answers -/

section Answers

variable (o : Outcome) (s : Server) (allowedHosts : AllowedHosts) (req : Request)

theorem answer_sendInt32Reply (v : Int) : Answer (sendInt32Reply o s v).2 := by
  unfold sendInt32Reply
  split <;> trivial

theorem answer_processConnectRequest : Answer (processConnectRequest o s allowedHosts req).2 := by
  unfold processConnectRequest notifySuccess sendError
  by_cases hsup : req.supported = true
  · by_cases hallow : allowedHosts.isHostAllowed req.saddr = some true
    · by_cases hsock : o.socket < 0
      · simpa [hsup,hallow,hsock] using answer_sendInt32Reply o s o.errno
      · by_cases hconn : o.connect = 0
        · -- `NotifySuccess`, then the socket unless a send failed
          obtain ⟨violationOccurred,fatalError⟩ := s
          unfold sendInt32Reply
          cases o.sendInt32 <;> cases o.sendFD <;> cases fatalError <;>
            simp [hsup,hallow,hsock,hconn,Answer]
        · simp [hsup,hallow,hsock,hconn,Answer]
    · simp [hsup,hallow,Answer]
  · simpa [hsup] using answer_sendInt32Reply o s eINVAL

/-- In the loop, the server sends nothing and goes on to the next request exactly when
`connect()` failed. -/
theorem processConnectRequest_silent_iff (hf : s.fatalError = false)
    (hv : s.violationOccurred = false) :
    processConnectRequest o s allowedHosts req = (s,[]) ↔
      req.supported = true ∧ allowedHosts.isHostAllowed req.saddr = some true ∧ 0 ≤ o.socket ∧
        o.connect ≠ 0 := by
  obtain ⟨violationOccurred,fatalError⟩ := s
  dsimp only at hf hv
  subst hf hv
  unfold processConnectRequest notifySuccess sendError sendInt32Reply
  by_cases hsup : req.supported = true
  · by_cases hallow : allowedHosts.isHostAllowed req.saddr = some true
    · by_cases hsock : o.socket < 0
      · cases o.sendInt32 <;> simp [hsup,hallow,hsock]
      · by_cases hconn : o.connect = 0
        · cases o.sendInt32 <;> cases o.sendFD <;> simp [hsup,hallow,hsock,hconn]
        · simp [hsup,hallow,hsock,hconn]
          omega
    · simp [hsup,hallow,notifyViolation]
  · cases o.sendInt32 <;> simp [hsup]

end Answers

/-! ### Runs of the two ends -/

section Runs

variable {allowedHosts : AllowedHosts} {p p' : Proxy}

theorem answer_int32_cons {v : Int} {rest : List Reply} (h : Answer (.int32 v :: rest)) :
    rest = [] ∨ (v = 0 ∧ ∃ f, rest = [.fd f]) := by
  match rest, h with
  | [], _ => exact .inl rfl
  | [.fd f], h => exact .inr ⟨h,f,rfl⟩
  | [.int32 _], h => simp [Answer] at h
  | _ :: _ :: _, h => simp [Answer] at h

theorem Aligned.step (hp : Aligned p) (h : Step allowedHosts p p') : Aligned p' := by
  cases h with
  | connect req hc =>
    simp only [Aligned,hc] at hp
    simp [Aligned,hp.1,hp.2]
  | @serve req rest o _ _ hr =>
    -- a request waits only while its client waits for the answer, with nothing on the way back
    unfold Aligned at hp ⊢
    cases hc : p.client with
    | idle =>
      rw [hc] at hp
      simp [hp.1] at hr
    | awaitResult =>
      rw [hc] at hp
      rcases hp with ⟨hl,hrep⟩ | ⟨hreq,_⟩
      · have hrest : rest = [] := by simpa [hr] using hl
        exact .inr ⟨hrest,by simpa [hrep] using answer_processConnectRequest o p.server allowedHosts req⟩
      · simp [hreq] at hr
    | awaitFd =>
      rw [hc] at hp
      simp [hp.1] at hr
  | @result v rest hc hr =>
    simp only [Aligned,hc,hr,reduceCtorEq,and_false,false_or] at hp
    obtain ⟨hreq,hans⟩ := hp
    unfold Aligned
    rcases answer_int32_cons hans with rfl | ⟨rfl,f,rfl⟩
    · by_cases hv : v = 0 <;> simp [hv,hreq]
    · simp [hreq]
  | @fd f rest hc hr =>
    simp only [Aligned,hc,hr] at hp
    obtain ⟨hreq,hrep⟩ := hp
    have hrest : rest = [] := by
      rcases hrep with hrep | ⟨_,hrep⟩ <;> simp_all
    simp [Aligned,hreq,hrest]

/-- In every state the two ends reach, what is on its way back answers the request in flight:
the client never takes an answer or a socket that belongs to another request. -/
theorem aligned_of_run (h : Relation.ReflTransGen (Step allowedHosts) Proxy.init p) : Aligned p := by
  induction h with
  | refl => exact ⟨rfl,rfl⟩
  | tail _ hstep ih => exact ih.step hstep

/-- A request of the wrong size, answered with `EINVAL`. -/
theorem aligned_of_run_einval :
    Relation.ReflTransGen (Step ⟨[],[]⟩) Proxy.init ⟨⟨false,false⟩,.awaitResult,[],[.int32 eINVAL]⟩ ∧
      Aligned (⟨⟨false,false⟩,.awaitResult,[],[.int32 eINVAL]⟩ : Proxy) := by
  let req : Request := ⟨0,.in4 (htons 80) #v[127,0,0,1]⟩
  let p₁ : Proxy := ⟨⟨false,false⟩,.awaitResult,[req],[]⟩
  have h₁ : Step ⟨[],[]⟩ Proxy.init p₁ := .connect req rfl
  have h₂ : Step ⟨[],[]⟩ p₁ ⟨⟨false,false⟩,.awaitResult,[],[.int32 eINVAL]⟩ :=
    @Step.serve _ p₁ req [] ⟨3,0,-1,true,true,fun h => absurd h (by decide)⟩ rfl rfl rfl
  have h := (Relation.ReflTransGen.single h₁).tail h₂
  exact ⟨h,aligned_of_run h⟩

/-- With the client waiting for its answer and nothing on its way in either direction, neither
end can move. -/
theorem no_step_of_waiting (hc : p.client = .awaitResult) (hreq : p.requests = [])
    (hrep : p.replies = []) : ¬Step allowedHosts p p' := by
  intro h
  cases h with
  | connect _ hidle => rw [hc] at hidle; cases hidle
  | serve _ _ _ hr => rw [hreq] at hr; cases hr
  | result _ hr => rw [hrep] at hr; cases hr
  | fd hfd _ => rw [hc] at hfd; cases hfd

end Runs

/-- A request for an allowed host whose `connect()` fails gets no answer, and the loop goes on:
the client waits in `ReceiveRemoteResult` and the server in `RecvBytes`, for good. -/
theorem connect_failure_deadlock (allowedHosts : AllowedHosts) (req : Request) (o : Outcome)
    (hsup : req.supported = true) (hallow : allowedHosts.isHostAllowed req.saddr = some true)
    (hsock : 0 ≤ o.socket) (hconn : o.connect ≠ 0) :
    ∃ p, Relation.ReflTransGen (Step allowedHosts) Proxy.init p ∧ p.client = .awaitResult ∧
      ∀ p', ¬Step allowedHosts p p' := by
  have hsilent := (processConnectRequest_silent_iff o ⟨false,false⟩ allowedHosts req rfl rfl).mpr
    ⟨hsup,hallow,hsock,hconn⟩
  let p₁ : Proxy := ⟨⟨false,false⟩,.awaitResult,[req],[]⟩
  have h₁ : Step allowedHosts Proxy.init p₁ := .connect req rfl
  have h₂ : Step allowedHosts p₁ ⟨⟨false,false⟩,.awaitResult,[],[]⟩ := by
    have h := @Step.serve allowedHosts p₁ req [] o rfl rfl rfl
    rw [hsilent] at h
    exact h
  exact ⟨_,(Relation.ReflTransGen.single h₁).tail h₂,rfl,fun _ => no_step_of_waiting rfl rfl rfl⟩

theorem connect_failure_deadlock_loopback :
    ∃ p, Relation.ReflTransGen (Step ⟨[⟨#v[127,0,0,1],#v[255,255,255,255],0⟩],[]⟩) Proxy.init p ∧
      p.client = .awaitResult ∧ ∀ p', ¬Step ⟨[⟨#v[127,0,0,1],#v[255,255,255,255],0⟩],[]⟩ p p' :=
  connect_failure_deadlock _ ⟨16,.in4 (htons 80) #v[127,0,0,1]⟩
    ⟨3,0,-1,true,true,fun h => absurd h (by decide)⟩ rfl
    (by simp [AllowedHosts.isHostAllowed,AllowedHosts.isIPv4Allowed,IPv4.allows]) (by decide) (by decide)

end SandboxedApi.Sandbox2.NetworkProxy
