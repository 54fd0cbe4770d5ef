import SandboxedApi.Logic.StateExcept

/-! # The final status of the unotify monitor

`MonitorBase::SetExitStatusCode` stops the process with `CHECK` unless the final status is still
`UNSET`. `UnotifyMonitor::Run` sets it from its setup, from the loop over `poll` (a status pipe
read or hang-up, a seccomp notification handled by `HandleUnotify`) and from the wait for the
sandboxee after the loop. A stack trace is taken before a violation, a time-out, an external
kill or a network violation is acted on, and `GetStackTrace` itself sets `INTERNAL_ERROR` when
fetching the registers fails with anything but `NotFound`.

`HandleUnotify` then sets `VIOLATION` on top of it: with stack traces collected on violations, a
notification whose register fetch fails stops the monitor with a failed `CHECK`
(`run_unotify_fetchFailure_checkFails`). Without such a failure every run sets the status at
most once (`run_noFetchFailure_ok`).

The inputs are oracles: a `Round` is what one round of the loop sees (the deadline, the kill
request, the network proxy's flag, what `poll` returned, and how a stack trace taken in the
round ends), a `WaitEvent` what the wait after the loop sees.
-/
namespace SandboxedApi.Sandbox2

open StateExcept

inductive StatusEnum where
  | unset
  | ok
  | setupError
  | violation
  | signaled
  | timeout
  | externalKill
  | internalError
deriving DecidableEq, Repr

/-- The codes of `Result::ReasonCodeEnum` the monitor uses. -/
def failedNotify : Nat := 4
def failedFetch : Nat := 14
def failedMonitor : Nat := 16
def violationNetwork : Nat := 0x10000000

def cldExited : Int := 1
def cldKilled : Int := 2
def cldDumped : Int := 3

/-- The `CHECK` in `SetExitStatusCode` failed. -/
inductive MonitorAbort where
  | checkFailed
deriving DecidableEq, Repr

/-- The fields of `UnotifyMonitor` and its `result_` that `Run` reads and writes. -/
structure UnotifyMonitor where
  finalStatus : StatusEnum
  reasonCode : Nat
  stackTraceSet : Bool
  timedOut : Bool
  externalKill : Bool
  networkViolation : Bool
  waitForSandboxee : Bool
deriving DecidableEq, Repr

/-- The monitor before `Run`. -/
def UnotifyMonitor.init : UnotifyMonitor := ⟨.unset,0,false,false,false,false,true⟩

abbrev MonitorM := StateT UnotifyMonitor (Except MonitorAbort)

/-- The policy's `collect_stacktrace_on_*` flags, and `StackTraceCollectionPossible()`. -/
structure StackTracePolicy where
  possible : Bool
  onKill : Bool
  onTimeout : Bool
  onSignal : Bool
  onViolation : Bool
  onExit : Bool

/-- `MonitorBase::ShouldCollectStackTrace`. -/
def StackTracePolicy.shouldCollect (p : StackTracePolicy) (status : StatusEnum) : Bool :=
  p.possible &&
    match status with
    | .externalKill => p.onKill
    | .timeout => p.onTimeout
    | .signaled => p.onSignal
    | .violation => p.onViolation
    | .ok => p.onExit
    | _ => false

/-- How a `GetStackTrace` ends: a trace, a failed `PTRACE_ATTACH` or `waitpid`, or the
register fetch failing with `NotFound` or with anything else. -/
inductive StackOutcome where
  | traced
  | attachFailed
  | waitFailed
  | fetchNotFound
  | fetchFailed
deriving DecidableEq, Repr

/-- What `SECCOMP_IOCTL_NOTIF_RECV` returned: a notification of the syscall `nr`, `ENOENT`, or
another error. -/
inductive NotifRecv where
  | ok (nr : Nat)
  | enoent
  | failed
deriving DecidableEq, Repr

/-- What `poll` reported: nothing (a time-out or `EINTR`), the monitor's notify pipe, the status
pipe readable with its two `int`s, the status pipe hung up, or a seccomp notification. -/
inductive PollEvent where
  | nothing
  | notifyPipe
  | statusIn (code status : Int)
  | statusHup
  | unotify (recv : NotifRecv)
deriving DecidableEq, Repr

/-- What one round of the loop sees. -/
structure Round where
  deadlinePassed : Bool
  externalKillRequest : Bool
  networkViolationOccurred : Bool
  poll : PollEvent
  stack : StackOutcome
deriving DecidableEq, Repr

/-- What the wait for the sandboxee after the loop sees. -/
inductive WaitEvent where
  | timedOut
  | statusIn (code status : Int)
  | statusHup
deriving DecidableEq, Repr

namespace UnotifyMonitor

variable (policy : StackTracePolicy)

/-- `MonitorBase::SetExitStatusCode`. -/
def setExitStatusCode (finalStatus : StatusEnum) (reasonCode : Nat) : MonitorM Unit := do
  let m ← get
  if m.finalStatus ≠ .unset then throw .checkFailed
  else set { m with finalStatus := finalStatus, reasonCode := reasonCode }

/-- `UnotifyMonitor::GetStackTrace`: whether it returned a trace. -/
def getStackTrace : StackOutcome → MonitorM Bool
  | .traced => pure true
  | .attachFailed | .waitFailed | .fetchNotFound => pure false
  | .fetchFailed => do
    setExitStatusCode .internalError failedFetch
    pure false

/-- `UnotifyMonitor::MaybeGetStackTrace`. -/
def maybeGetStackTrace (status : StatusEnum) (stack : StackOutcome) : MonitorM Unit :=
  ifThen (policy.shouldCollect status = true) do
    let traced ← getStackTrace stack
    ifThen (traced = true) (modify fun m => { m with stackTraceSet := true })

/-- `UnotifyMonitor::HandleUnotify`. -/
def handleUnotify (stack : StackOutcome) : NotifRecv → MonitorM Unit
  | .enoent => pure ()
  | .failed => setExitStatusCode .internalError failedNotify
  | .ok nr => do
    maybeGetStackTrace policy .violation stack
    setExitStatusCode .violation nr

/-- `UnotifyMonitor::SetExitStatusFromStatusPipe`, with the two `int`s it read. -/
def setExitStatusFromStatusPipe (code status : Int) : MonitorM Unit := do
  let m ← get
  if code = cldExited then setExitStatusCode .ok status.toNat
  else if code = cldKilled ∨ code = cldDumped then
    if m.networkViolation then setExitStatusCode .violation violationNetwork
    else if m.externalKill then setExitStatusCode .externalKill 0
    else if m.timedOut then setExitStatusCode .timeout 0
    else setExitStatusCode .signaled status.toNat
  else setExitStatusCode .setupError failedMonitor

/-- The `while (result_.final_status() == Result::UNSET)` loop of `Run`, over the rounds it
gets to; each `break` ends it. -/
def runLoop : List Round → MonitorM Unit
  | [] => pure ()
  | r :: rs => do
    let m ← get
    if m.finalStatus ≠ .unset then pure ()
    else if r.deadlinePassed then do
      modify fun m => { m with timedOut := true }
      maybeGetStackTrace policy .timeout r.stack
    else if r.externalKillRequest then do
      modify fun m => { m with externalKill := true }
      maybeGetStackTrace policy .externalKill r.stack
    else if r.networkViolationOccurred ∧ !m.networkViolation then do
      modify fun m => { m with networkViolation := true }
      maybeGetStackTrace policy .violation r.stack
    else
      match r.poll with
      | .nothing | .notifyPipe => runLoop rs
      | .statusIn code status => do
        setExitStatusFromStatusPipe code status
        modify fun m => { m with waitForSandboxee := false }
      | .statusHup => do
        setExitStatusCode .internalError failedMonitor
        modify fun m => { m with waitForSandboxee := false }
      | .unotify recv => do
        handleUnotify policy r.stack recv
        modify fun m => { m with waitForSandboxee := false }
        runLoop rs

/-- The wait for the sandboxee after the loop. -/
def waitForExit : WaitEvent → MonitorM Unit
  | .timedOut => pure ()
  | .statusIn code status => setExitStatusFromStatusPipe code status
  | .statusHup => setExitStatusCode .internalError failedMonitor

/-- `UnotifyMonitor::Run`: `setupOk` is whether `InitSetupUnotify` and `InitSetupNotifyPipe`
succeeded. -/
def run (setupOk : Bool) (rounds : List Round) (wait : WaitEvent) : MonitorM Unit :=
  if !setupOk then setExitStatusCode .setupError failedNotify
  else do
    runLoop policy rounds
    let m ← get
    ifThen (m.waitForSandboxee = true) (waitForExit wait)

/-! ### Setting the status twice -/

/-- With the status still `UNSET`, a notification whose register fetch fails sets it twice:
`INTERNAL_ERROR` in `GetStackTrace`, then `VIOLATION`. -/
theorem handleUnotify_fetchFailure (hcollect : policy.shouldCollect .violation = true) (nr : Nat)
    {m : UnotifyMonitor} (hm : m.finalStatus = .unset) :
    (handleUnotify policy .fetchFailed (.ok nr)).run m = .error .checkFailed := by
  simp [handleUnotify,maybeGetStackTrace,getStackTrace,setExitStatusCode,ifThen,hcollect,hm]
  rfl

/-- A notification whose register fetch fails, with stack traces collected on violations:
`GetStackTrace` sets `INTERNAL_ERROR`, then `HandleUnotify` sets `VIOLATION`, and the `CHECK`
in `SetExitStatusCode` fails. -/
theorem run_unotify_fetchFailure_checkFails (hcollect : policy.shouldCollect .violation = true)
    {r : Round} (hd : r.deadlinePassed = false) (hk : r.externalKillRequest = false)
    (hn : r.networkViolationOccurred = false) {nr : Nat} (hp : r.poll = .unotify (.ok nr))
    (hs : r.stack = .fetchFailed) (rounds : List Round) (wait : WaitEvent) :
    (run policy true (r :: rounds) wait).run init = .error .checkFailed := by
  have hloop : (runLoop policy (r :: rounds)).run init = .error .checkFailed := by
    rw [runLoop,StateT.run_bind]
    simp only [StateT.run_get,pure_bind,init,ne_eq,not_true_eq_false,if_false,hd,hk,hn,hp,hs,
      Bool.false_eq_true,false_and]
    rw [StateT.run_bind,handleUnotify_fetchFailure policy hcollect nr rfl]
    rfl
  rw [run,if_neg (by decide),StateT.run_bind,hloop]
  rfl

/-- Stack traces collected on violations, and a notification of `ptrace` (101 on x86-64) whose
register fetch fails. -/
theorem run_unotify_fetchFailure_checkFails_ptrace :
    (run ⟨true,false,false,false,true,false⟩ true
      [⟨false,false,false,.unotify (.ok 101),.fetchFailed⟩] .timedOut).run init =
      .error .checkFailed :=
  run_unotify_fetchFailure_checkFails _ rfl rfl rfl rfl rfl rfl [] .timedOut

/-! ### At most once without a failed fetch -/

/-- The monitor waits for the sandboxee only while the status is `UNSET`. -/
def WaitsUnset (m : UnotifyMonitor) : Prop := m.waitForSandboxee = true → m.finalStatus = .unset

/-- The status and the wait flag, which a stack trace that does not fail leaves alone. -/
def statusAndWait (m : UnotifyMonitor) : StatusEnum × Bool := (m.finalStatus,m.waitForSandboxee)

theorem setExitStatusCode_triple (finalStatus : StatusEnum) (reasonCode : Nat) :
    Triple (fun m => m.finalStatus = .unset) (setExitStatusCode finalStatus reasonCode)
      (fun _ _ => True) (fun _ => False) := by
  unfold setExitStatusCode
  refine Triple.bind (R := fun m s => m = s ∧ s.finalStatus = .unset)
    (Triple.get fun s hs => ⟨rfl,hs⟩) fun m => ?_
  apply Triple.ite
  · intro hne
    exact Triple.throw fun s hs => hne (hs.1 ▸ hs.2)
  · intro _
    exact fun _ _ => trivial

theorem getStackTrace_of_ne {stack : StackOutcome} (h : stack ≠ .fetchFailed) :
    ∃ traced, getStackTrace stack = pure traced := by
  cases stack with
  | traced => exact ⟨true,rfl⟩
  | attachFailed => exact ⟨false,rfl⟩
  | waitFailed => exact ⟨false,rfl⟩
  | fetchNotFound => exact ⟨false,rfl⟩
  | fetchFailed => exact absurd rfl h

theorem keeps_maybeGetStackTrace (status : StatusEnum) {stack : StackOutcome}
    (h : stack ≠ .fetchFailed) :
    Keeps statusAndWait (fun _ => False) (maybeGetStackTrace policy status stack) := by
  obtain ⟨traced,hb⟩ := getStackTrace_of_ne h
  unfold maybeGetStackTrace ifThen
  refine keeps_ite (fun _ => ?_) fun _ => keeps_pure ()
  rw [hb]
  exact Keeps.bind (keeps_pure traced) fun _ =>
    keeps_ite (fun _ => keeps_modify fun _ => rfl) fun _ => keeps_pure ()

theorem handleUnotify_triple {stack : StackOutcome} (h : stack ≠ .fetchFailed) (recv : NotifRecv) :
    Triple (fun m => m.finalStatus = .unset) (handleUnotify policy stack recv)
      (fun _ _ => True) (fun _ => False) := by
  cases recv with
  | enoent => exact Triple.pure fun _ _ => trivial
  | failed => exact setExitStatusCode_triple _ _
  | ok nr =>
    refine Triple.bind ((keeps_maybeGetStackTrace policy .violation h).preserves ?_) fun _ =>
      setExitStatusCode_triple _ _
    intro s s' hss' hs
    have := congrArg Prod.fst hss'
    simp only [statusAndWait] at this
    rw [← this]
    exact hs

theorem setExitStatusFromStatusPipe_triple (code status : Int) :
    Triple (fun m => m.finalStatus = .unset) (setExitStatusFromStatusPipe code status)
      (fun _ _ => True) (fun _ => False) := by
  unfold setExitStatusFromStatusPipe
  refine Triple.bind Triple.get_pre fun m => ?_
  -- every branch sets the status once
  repeat' apply Triple.ite <;> intro _
  all_goals exact setExitStatusCode_triple _ _

theorem breakRound_triple {f : UnotifyMonitor → UnotifyMonitor}
    (hf : ∀ m, statusAndWait (f m) = statusAndWait m) (status : StatusEnum) {stack : StackOutcome}
    (h : stack ≠ .fetchFailed) :
    Triple WaitsUnset (modify f >>= fun _ => maybeGetStackTrace policy status stack)
      (fun _ => WaitsUnset) (fun _ => False) := by
  refine (Keeps.bind (keeps_modify hf) fun _ => keeps_maybeGetStackTrace policy status h).preserves ?_
  intro s s' hss' hs hw
  simp only [statusAndWait,Prod.mk.injEq] at hss'
  rw [← hss'.1]
  exact hs (hss'.2 ▸ hw)

theorem stopWait_triple {P : UnotifyMonitor → Prop} :
    Triple P (modify fun m => { m with waitForSandboxee := false } : MonitorM PUnit)
      (fun _ => WaitsUnset) (fun _ => False) :=
  Triple.modify fun _ _ hw => absurd hw Bool.false_ne_true

/-- Without a failed register fetch, every round of the loop keeps `WaitsUnset` and sets the
status only while it is `UNSET`. -/
theorem runLoop_triple {rounds : List Round} (h : ∀ r ∈ rounds, r.stack ≠ .fetchFailed) :
    Triple WaitsUnset (runLoop policy rounds) (fun _ => WaitsUnset) (fun _ => False) := by
  induction rounds with
  | nil => exact Triple.pure fun _ hs => hs
  | cons r rs ih =>
    have hr := h r List.mem_cons_self
    have ih := ih fun r' hr' => h r' (List.mem_cons_of_mem r hr')
    unfold runLoop
    refine Triple.bind (R := fun m s => m = s ∧ WaitsUnset s)
      (Triple.get fun s hs => ⟨rfl,hs⟩) fun m => ?_
    refine Triple.ite (fun _ => Triple.pure fun _ hs => hs.2) fun hunset => ?_
    -- from here on the status is `UNSET`
    have hpre : ∀ {prog : MonitorM Unit},
        Triple (fun s => s.finalStatus = .unset ∧ WaitsUnset s) prog (fun _ => WaitsUnset)
          (fun _ => False) →
        Triple (fun s => m = s ∧ WaitsUnset s) prog (fun _ => WaitsUnset) (fun _ => False) :=
      fun hprog => hprog.mono (fun s hs => ⟨hs.1 ▸ not_not.mp hunset,hs.2⟩) (fun _ _ h => h)
        fun _ h => h
    apply hpre
    have hbreak : ∀ (f : UnotifyMonitor → UnotifyMonitor),
        (∀ m, statusAndWait (f m) = statusAndWait m) → ∀ status,
          Triple (fun s => s.finalStatus = .unset ∧ WaitsUnset s)
            (modify f >>= fun _ => maybeGetStackTrace policy status r.stack) (fun _ => WaitsUnset)
            (fun _ => False) :=
      fun f hf status => (breakRound_triple policy hf status hr).mono (fun _ hs => hs.2)
        (fun _ _ h => h) fun _ h => h
    refine Triple.ite (fun _ => hbreak (fun m => { m with timedOut := true }) (fun _ => rfl) .timeout)
      fun _ => Triple.ite
        (fun _ => hbreak (fun m => { m with externalKill := true }) (fun _ => rfl) .externalKill)
        fun _ => Triple.ite
          (fun _ => hbreak (fun m => { m with networkViolation := true }) (fun _ => rfl) .violation)
          fun _ => ?_
    cases r.poll with
    | nothing => exact ih.mono (fun _ hs => hs.2) (fun _ _ h => h) fun _ h => h
    | notifyPipe => exact ih.mono (fun _ hs => hs.2) (fun _ _ h => h) fun _ h => h
    | statusIn code status =>
      exact Triple.bind ((setExitStatusFromStatusPipe_triple code status).mono (fun _ hs => hs.1)
        (fun _ _ h => h) fun _ h => h) fun _ => stopWait_triple
    | statusHup =>
      exact Triple.bind ((setExitStatusCode_triple _ _).mono (fun _ hs => hs.1)
        (fun _ _ h => h) fun _ h => h) fun _ => stopWait_triple
    | unotify recv =>
      exact Triple.bind ((handleUnotify_triple policy hr recv).mono (fun _ hs => hs.1)
        (fun _ _ h => h) fun _ h => h) fun _ => Triple.bind stopWait_triple fun _ => ih

theorem waitForExit_triple (wait : WaitEvent) :
    Triple (fun m => m.finalStatus = .unset) (waitForExit wait) (fun _ _ => True)
      (fun _ => False) := by
  cases wait with
  | timedOut => exact Triple.pure fun _ _ => trivial
  | statusIn code status => exact setExitStatusFromStatusPipe_triple code status
  | statusHup => exact setExitStatusCode_triple _ _

/-- Without a failed register fetch, `Run` sets the status only while it is `UNSET`: no `CHECK`
of `SetExitStatusCode` fails, whatever the monitor sees. -/
theorem run_noFetchFailure_ok (setupOk : Bool) {rounds : List Round}
    (h : ∀ r ∈ rounds, r.stack ≠ .fetchFailed) (wait : WaitEvent) :
    ∃ m, (run policy setupOk rounds wait).run init = .ok ((),m) := by
  have hrun : Triple (fun m => m = init) (run policy setupOk rounds wait) (fun _ _ => True)
      (fun _ => False) := by
    unfold run
    refine Triple.ite (fun _ => (setExitStatusCode_triple _ _).mono (fun _ hs => hs ▸ rfl)
      (fun _ _ h => h) fun _ h => h) fun _ => ?_
    refine Triple.bind ((runLoop_triple policy h).mono (fun _ hs _ => hs ▸ rfl) (fun _ _ h => h)
      fun _ h => h) fun _ => ?_
    refine Triple.bind (R := fun m s => m = s ∧ WaitsUnset s)
      (Triple.get fun s hs => ⟨rfl,hs⟩) fun m => ?_
    -- the wait after the loop happens only while the status is still `UNSET`
    refine Triple.ifThen (fun hw => (waitForExit_triple wait).mono ?_ (fun _ _ h => h)
      fun _ h => h) fun _ _ => trivial
    rintro s ⟨rfl,hs⟩
    exact hs hw
  obtain ⟨⟨⟩,m,hm,-⟩ := Triple.run_ok hrun rfl
  exact ⟨m,hm⟩

end UnotifyMonitor

end SandboxedApi.Sandbox2
