import Mathlib.Logic.Function.Basic
import SandboxedApi.Sandbox2.MonitorUnotify
import SandboxedApi.Sandbox2.Syscall

/-! # The event loop of the ptrace monitor

`PtraceMonitor::Run` sets up its signal mask and attaches to the sandboxee, then loops while the
final status is `UNSET`. A round acts on the deadline, on a request to dump the stack, on an
external kill and on a violation the network proxy reported, each by a signal to the sandboxee
whose failure sets the status and breaks the loop; then it takes one status from `waitpid` and
acts on the end of the main process or on a stop of a task (`StateProcessStopped` and the
`Event*` handlers it dispatches to).

The model keeps what decides the result: the final status and reason code, the system call a
violation names, the flags the rounds set, the system calls whose return the notifier asked to
inspect, the calls made on the notifier, and the `ptrace` requests that let a stopped task go on.
The kernel and the notifier are oracles: a `PtraceRound` is what one round sees, a `StopOracle`
what the handling of one stop sees.

Every handler started with the status `UNSET` sets it at most once, so no `CHECK` of
`SetExitStatusCode` fails, and the loop stops exactly when the status is set, which is what the
`CHECK` of `Join` asks. Along every run the notifier hears of a system call's return no more often
than it asked to inspect that call, and a `VIOLATION` names its system call or comes from the
network proxy. `MonitorInv` carries the last two from round to round.
-/
namespace SandboxedApi.Sandbox2

open StateExcept

/-- More codes of `Result::ReasonCodeEnum`. -/
def failedSignals : Nat := 2
def failedPtrace : Nat := 8
def failedGetevent : Nat := 15
def failedKill : Nat := 17
def failedInterrupt : Nat := 18
def failedChild : Nat := 19
def failedInspect : Nat := 20

/-- The signals the monitor tells apart, on x86-64. -/
def sigTrap : Nat := 5
def sigStop : Nat := 19
def sigTstp : Nat := 20
def sigTtin : Nat := 21
def sigTtou : Nat := 22
def sigSys : Nat := 31

/-- The `PTRACE_EVENT_*` codes. -/
def ptraceEventFork : Nat := 1
def ptraceEventVfork : Nat := 2
def ptraceEventClone : Nat := 3
def ptraceEventExec : Nat := 4
def ptraceEventVforkDone : Nat := 5
def ptraceEventExit : Nat := 6
def ptraceEventSeccomp : Nat := 7
def ptraceEventStop : Nat := 128

def nrFork : UInt32 := 57
def nrVfork : UInt32 := 58
def nrExecve : UInt32 := 59
def nrClone3 : UInt32 := 435

/-! ### Wait statuses -/

def wtermsig (status : Nat) : Nat := status &&& 0x7f

def wifexited (status : Nat) : Bool := wtermsig status == 0

/-- `WEXITSTATUS`, which is also `WSTOPSIG`. -/
def wexitstatus (status : Nat) : Nat := (status &&& 0xff00) >>> 8

/-- `WIFSIGNALED`: glibc's `((signed char) ((status & 0x7f) + 1) >> 1) > 0` is a terminating
signal other than `0` and `0x7f`. -/
def wifsignaled (status : Nat) : Bool := wtermsig status != 0 && wtermsig status != 0x7f

def wifstopped (status : Nat) : Bool := (status &&& 0xff) == 0x7f

/-- `__WPTRACEEVENT`, which the monitor defines itself. -/
def wptraceEvent (status : Nat) : Nat := (status &&& 0xff0000) >>> 16

/-- The architecture whose code an event message of `PTRACE_EVENT_SECCOMP` is: the test
`event_msg < kUnknown || event_msg > kMax` and the `static_cast` after it. -/
def architectureOfEventMsg (eventMsg : Nat) : Option Cpu.Architecture :=
  [Cpu.Architecture.kUnknown,.kX8664,.kX86,.kPPC64LE,.kArm64,.kArm].find?
    fun arch => arch.value.toNat == eventMsg

/-! ### What the monitor sees and does -/

/-- The part of a `Syscall` the monitor reads: the architecture, the number and the task. -/
structure TracedSyscall where
  arch : Cpu.Architecture
  nr : Nat
  pid : Int
deriving DecidableEq, Repr

/-- How `Regs::Fetch` ended: the registers' system call number and return value, `NotFound`
for a task that is gone, or another error. -/
inductive RegsFetch where
  | ok (nr : Nat) (returnValue : Int)
  | notFound
  | failed
deriving DecidableEq, Repr

/-- `ptrace(PTRACE_GETEVENTMSG, ...)`: the message, or `-1` with `ESRCH` or another `errno`. -/
inductive EventMsg where
  | ok (msg : Nat)
  | esrch
  | failed
deriving DecidableEq, Repr

inductive TraceAction where
  | kDeny
  | kAllow
  | kInspectAfterReturn
deriving DecidableEq, Repr

inductive ViolationType where
  | kSyscallViolation
  | kArchitectureSwitchViolation
deriving DecidableEq, Repr

/-- The calls the monitor makes on `notify_`; a call of `EventSyscallTrace` is recorded with
its answer. -/
inductive NotifyEvent where
  | eventSignal (pid : Int) (sigNo : Nat)
  | eventSyscallTrace (syscall : TracedSyscall) (response : TraceAction)
  | eventSyscallReturn (syscall : TracedSyscall) (returnValue : Int)
  | eventSyscallViolation (syscall : TracedSyscall) (violationType : ViolationType)
deriving DecidableEq, Repr

/-- The `ptrace` requests that let a stopped task go on: `ContinueProcess` (`PTRACE_CONT`),
`StopProcess` (`PTRACE_LISTEN`) and `CompleteSyscall` (`PTRACE_SYSCALL`). -/
inductive Resume where
  | continueProcess (pid : Int) (signo : Nat)
  | stopProcess (pid : Int)
  | completeSyscall (pid : Int)
deriving DecidableEq, Repr

/-- What the handling of one stop sees: the answer to `PTRACE_GETEVENTMSG`, how a fetch of the
task's registers ends, and what `EventSyscallTrace` answers. -/
structure StopOracle where
  eventMsg : EventMsg
  regs : RegsFetch
  response : TraceAction
deriving DecidableEq, Repr

/-- `PidWaiter::Wait`: no task needs attention (`0`), `-1` with `ECHILD` or another `errno`, or
a task and its wait status. -/
inductive WaitResult where
  | nothing
  | failed (echild : Bool)
  | changed (pid : Int) (status : Nat) (stop : StopOracle)
deriving DecidableEq, Repr

/-- What one round of the loop sees: the deadline, the two request flags, the network proxy's
flag, how each signal the round may send ends, and what `Wait` returns. -/
structure PtraceRound where
  deadlinePassed : Bool
  killOnTimeoutOk : Bool
  dumpStackRequest : Bool
  interruptOk : Bool
  externalKillRequest : Bool
  killOnExternalOk : Bool
  networkViolationOccurred : Bool
  killOnNetworkOk : Bool
  wait : WaitResult
deriving DecidableEq, Repr

/-- What the monitor reads of its executor, its policy and the flags: the main process, the
policy's `collect_stacktrace_on_exit_`, whether `log_file_` is open, the two `danger` flags, and
whether a stack can be dumped (`libunwind_sbox_for_pid_ == 0` and a namespace). -/
structure PtraceConfig where
  mainPid : Int
  collectStacktraceOnExit : Bool
  logFile : Bool
  permitAll : Bool
  logAllStackTraces : Bool
  dumpStackPossible : Bool

/-- The fields of `PtraceMonitor` and its `result_` that `Run` reads and writes. -/
structure PtraceMonitor where
  finalStatus : StatusEnum
  reasonCode : Nat
  resultSyscall : Option TracedSyscall
  timedOut : Bool
  externalKill : Bool
  networkViolation : Bool
  shouldDumpStack : Bool
  waitForExecve : Bool
  syscallsInProgress : Int → Option TracedSyscall
  notifyEvents : List NotifyEvent
  resumes : List Resume

abbrev PtraceM := StateT PtraceMonitor (Except MonitorAbort)

namespace PtraceMonitor

/-- The monitor before `Run`; `waitForExecve` is the executor's
`enable_sandboxing_pre_execve_`. -/
def init (waitForExecve : Bool) : PtraceMonitor :=
  ⟨.unset,0,none,false,false,false,false,waitForExecve,fun _ => none,[],[]⟩

/-- `MonitorBase::SetExitStatusCode`. -/
def setExitStatusCode (finalStatus : StatusEnum) (reasonCode : Nat) : PtraceM Unit := do
  let m ← get
  if m.finalStatus ≠ .unset then throw .checkFailed
  else set { m with finalStatus := finalStatus, reasonCode := reasonCode }

def isActivelyMonitoring (m : PtraceMonitor) : Bool := !m.waitForExecve

/-- A call on `notify_`. -/
def notify (e : NotifyEvent) : PtraceM Unit :=
  modify fun m => { m with notifyEvents := m.notifyEvents ++ [e] }

/-- A request that lets a stopped task go on; a failed `ptrace` there is only logged. -/
def resume (r : Resume) : PtraceM Unit :=
  modify fun m => { m with resumes := m.resumes ++ [r] }

/-- `syscalls_in_progress_.erase(pid)`. -/
def eraseInProgress (pid : Int) : PtraceM Unit :=
  modify fun m => { m with syscallsInProgress := Function.update m.syscallsInProgress pid none }

/-- `notify_->EventSyscallReturn(index->second, ...)` and `syscalls_in_progress_.erase(index)`,
the two lines of the three handlers that report a return. -/
def reportReturn (pid : Int) (syscall : TracedSyscall) (returnValue : Int) : PtraceM Unit := do
  notify (.eventSyscallReturn syscall returnValue)
  eraseInProgress pid

/-- A signal to the sandboxee that sets `INTERNAL_ERROR` with `reasonCode` when it fails. -/
def signalSandboxee (reasonCode : Nat) (ok : Bool) : PtraceM Bool :=
  if ok then pure true
  else do
    setExitStatusCode .internalError reasonCode
    pure false

/-- `KillSandboxee`: `ok` is whether `kill(main_pid, SIGKILL)` succeeded. -/
def killSandboxee (ok : Bool) : PtraceM Bool := signalSandboxee failedKill ok

/-- `InterruptSandboxee`: `ok` is whether `PTRACE_INTERRUPT` succeeded. -/
def interruptSandboxee (ok : Bool) : PtraceM Bool := signalSandboxee failedInterrupt ok

/-- `ActionProcessSyscallViolation`. `SetAdditionalResultInfo` fills in the registers, the
program's name, its maps and a stack trace, none of which the model keeps. -/
def actionProcessSyscallViolation (syscall : TracedSyscall) (violationType : ViolationType) :
    PtraceM Unit := do
  notify (.eventSyscallViolation syscall violationType)
  setExitStatusCode .violation syscall.nr
  modify fun m => { m with resultSyscall := some syscall }

variable (cfg : PtraceConfig)

/-- `ActionProcessSyscall`: `response` is what `EventSyscallTrace` answers; the task is the one
whose registers the system call was read from. -/
def actionProcessSyscall (syscall : TracedSyscall) (response : TraceAction) : PtraceM Unit := do
  let m ← get
  if syscall.nr = nrExecveat.toNat ∧ m.isActivelyMonitoring = false then
    resume (.continueProcess syscall.pid 0)
  else do
    notify (.eventSyscallTrace syscall response)
    match response with
    | .kAllow => resume (.continueProcess syscall.pid 0)
    | .kInspectAfterReturn => do
      modify fun m => { m with
        syscallsInProgress := Function.update m.syscallsInProgress syscall.pid (some syscall) }
      resume (.completeSyscall syscall.pid)
    | .kDeny =>
      if cfg.logFile then resume (.continueProcess syscall.pid 0)
      else if cfg.permitAll then resume (.continueProcess syscall.pid 0)
      else actionProcessSyscallViolation syscall .kSyscallViolation

def eventPtraceSeccomp (pid : Int) (eventMsg : Nat) (regs : RegsFetch) (response : TraceAction) :
    PtraceM Unit :=
  match architectureOfEventMsg eventMsg with
  -- taken for an exit status that came before the exit event
  | none => pure ()
  | some syscallArch =>
    match regs with
    | .notFound => pure ()
    | .failed => setExitStatusCode .internalError failedFetch
    | .ok nr _ =>
      if syscallArch ≠ Syscall.getHostArch then
        actionProcessSyscallViolation ⟨syscallArch,nr,pid⟩ .kArchitectureSwitchViolation
      else actionProcessSyscall cfg ⟨syscallArch,nr,pid⟩ response

def eventSyscallExit (pid : Int) (regs : RegsFetch) : PtraceM Unit := do
  let m ← get
  match m.syscallsInProgress pid with
  | none => setExitStatusCode .internalError failedInspect
  | some syscall =>
    match regs with
    | .notFound => pure ()
    | .failed => setExitStatusCode .internalError failedFetch
    | .ok _ returnValue => do
      reportReturn pid syscall returnValue
      resume (.continueProcess pid 0)

/-- Whether a system call makes a new process: `__NR_clone`, `__NR_clone3`, `__NR_fork` or
`__NR_vfork`, all of which x86-64 defines. -/
def createsNewProcess (nr : Nat) : Bool :=
  nr == nrClone.toNat || nr == nrClone3.toNat || nr == nrFork.toNat || nr == nrVfork.toNat

/-- `EventPtraceNewProcess`: `eventMsg` is the new task, which is the return value reported. -/
def eventPtraceNewProcess (pid : Int) (eventMsg : Nat) : PtraceM Unit := do
  let m ← get
  match m.syscallsInProgress pid with
  | none => resume (.continueProcess pid 0)
  | some syscall =>
    if createsNewProcess syscall.nr = false then setExitStatusCode .internalError failedInspect
    else do
      reportReturn pid syscall eventMsg
      resume (.continueProcess pid 0)

def eventPtraceExec (pid : Int) : PtraceM Unit := do
  let m ← get
  if m.isActivelyMonitoring = false then do
    -- `SetActivelyMonitoring`
    modify fun m => { m with waitForExecve := false }
    resume (.continueProcess pid 0)
  else
    match m.syscallsInProgress pid with
    | none => resume (.continueProcess pid 0)
    | some syscall =>
      if syscall.nr ≠ nrExecve.toNat ∧ syscall.nr ≠ nrExecveat.toNat then
        setExitStatusCode .internalError failedInspect
      else do
        reportReturn pid syscall 0
        resume (.continueProcess pid 0)

/-- The end of `EventPtraceExit` for an exit that is no violation: the status of the main
process, then `ContinueProcess`. A stack trace logged for another task is not kept. -/
def continueAfterExit (pid : Int) (eventMsg : Nat) : PtraceM Unit := do
  ifThen (pid = cfg.mainPid) do
    let m ← get
    if m.networkViolation then setExitStatusCode .violation violationNetwork
    else if m.externalKill then setExitStatusCode .externalKill 0
    else if m.timedOut then setExitStatusCode .timeout 0
    else if wifexited eventMsg then setExitStatusCode .ok (wexitstatus eventMsg)
    else setExitStatusCode .signaled (wtermsig eventMsg)
  resume (.continueProcess pid 0)

/-- `EventPtraceExit`: `eventMsg` is the task's wait status; the registers are fetched only for a
seccomp kill, the main process, or when all stack traces are logged. -/
def eventPtraceExit (pid : Int) (eventMsg : Nat) (regs : RegsFetch) : PtraceM Unit := do
  eraseInProgress pid
  if wifexited eventMsg = true ∧ (cfg.collectStacktraceOnExit = false ∨ pid ≠ cfg.mainPid) then
    resume (.continueProcess pid 0)
  else
    let isSeccomp := wifsignaled eventMsg && wtermsig eventMsg == sigSys
    match isSeccomp || pid == cfg.mainPid || cfg.logAllStackTraces, regs with
    | true, .notFound | true, .failed => setExitStatusCode .internalError failedFetch
    | true, .ok nr _ =>
      if isSeccomp then
        actionProcessSyscallViolation ⟨Syscall.getHostArch,nr,pid⟩ .kSyscallViolation
      else continueAfterExit cfg pid eventMsg
    | false, _ => continueAfterExit cfg pid eventMsg

/-- `EventPtraceStop`: a group stop is left stopped, any other stop goes on. -/
def eventPtraceStop (pid : Int) (stopsig : Nat) : PtraceM Unit :=
  if stopsig ≠ sigStop ∧ stopsig ≠ sigTstp ∧ stopsig ≠ sigTtin ∧ stopsig ≠ sigTtou then
    resume (.continueProcess pid 0)
  else resume (.stopProcess pid)

/-- The `switch (__WPTRACEEVENT(status))` of `StateProcessStopped`. -/
def dispatchEvent (pid : Int) (event stopsig eventMsg : Nat) (stop : StopOracle) : PtraceM Unit :=
  if event = ptraceEventFork ∨ event = ptraceEventVfork ∨ event = ptraceEventClone then
    eventPtraceNewProcess pid eventMsg
  else if event = ptraceEventVforkDone then resume (.continueProcess pid 0)
  else if event = ptraceEventExec then eventPtraceExec pid
  else if event = ptraceEventExit then eventPtraceExit cfg pid eventMsg stop.regs
  else if event = ptraceEventStop then eventPtraceStop pid stopsig
  else if event = ptraceEventSeccomp then
    eventPtraceSeccomp cfg pid eventMsg stop.regs stop.response
  else pure ()

def stateProcessStopped (pid : Int) (status : Nat) (stop : StopOracle) : PtraceM Unit := do
  let stopsig := wexitstatus status
  -- with `PTRACE_O_TRACESYSGOOD` a syscall stop reports `SIGTRAP | 0x80`
  let isSyscallExit := stopsig == (sigTrap ||| 0x80)
  if wptraceEvent status = 0 ∧ isSyscallExit = false then do
    notify (.eventSignal pid stopsig)
    resume (.continueProcess pid stopsig)
  else
    match stop.eventMsg with
    | .esrch => pure ()
    | .failed => setExitStatusCode .internalError failedGetevent
    | .ok eventMsg => do
      let m ← get
      -- the stack dump itself is only logged
      ifThen (pid = cfg.mainPid ∧ m.shouldDumpStack = true ∧ cfg.dumpStackPossible = true)
        (modify fun m => { m with shouldDumpStack := false })
      if isSyscallExit then eventSyscallExit pid stop.regs
      else dispatchEvent cfg pid (wptraceEvent status) stopsig eventMsg stop

/-- What a round does with the result of `Wait`. -/
def handleWait : WaitResult → PtraceM Unit
  | .nothing => pure ()
  | .failed echild => ifThen (echild = true) (setExitStatusCode .internalError failedChild)
  | .changed pid status stop =>
    if wifexited status then
      ifThen (pid = cfg.mainPid) do
        let m ← get
        if m.isActivelyMonitoring then setExitStatusCode .ok (wexitstatus status)
        else setExitStatusCode .setupError failedMonitor
    else if wifsignaled status then
      ifThen (pid = cfg.mainPid) do
        let m ← get
        if m.networkViolation then setExitStatusCode .violation violationNetwork
        else if m.externalKill then setExitStatusCode .externalKill 0
        else if m.timedOut then setExitStatusCode .timeout 0
        else setExitStatusCode .signaled (wtermsig status)
    else if wifstopped status then stateProcessStopped cfg pid status stop
    else pure ()

/-- `if (c) { flag = true; if (!act()) break; }` and then the rest of the round: `true` when
the round breaks. -/
def onRequest (c : PtraceMonitor → Bool) (flag : PtraceMonitor → PtraceMonitor) (act : PtraceM Bool)
    (rest : PtraceM Bool) : PtraceM Bool := do
  let m ← get
  if c m then do
    modify flag
    let ok ← act
    if ok then rest else pure true
  else rest

/-- One round of the loop after the test of its condition: `true` when it breaks. -/
def runRound (r : PtraceRound) : PtraceM Bool :=
  onRequest (fun _ => r.deadlinePassed) (fun m => { m with timedOut := true })
    (killSandboxee r.killOnTimeoutOk) <|
  onRequest (fun _ => r.dumpStackRequest) (fun m => { m with shouldDumpStack := true })
    (interruptSandboxee r.interruptOk) <|
  onRequest (fun _ => r.externalKillRequest) (fun m => { m with externalKill := true })
    (killSandboxee r.killOnExternalOk) <|
  onRequest (fun m => r.networkViolationOccurred && !m.networkViolation)
    (fun m => { m with networkViolation := true }) (killSandboxee r.killOnNetworkOk) do
  handleWait cfg r.wait
  pure false

/-- The `while (result().final_status() == Result::UNSET)` loop over the rounds it gets to:
`true` when it has ended, `false` when the rounds ran out first. -/
def runLoop : List PtraceRound → PtraceM Bool
  | [] => do
    let m ← get
    pure (m.finalStatus ≠ .unset)
  | r :: rs => do
    let m ← get
    if m.finalStatus ≠ .unset then pure true
    else do
      let brk ← runRound cfg r
      if brk then pure true else runLoop rs

/-- `PtraceMonitor::Run` up to the end of its loop: `setupSignalsOk` and `attachOk` are what
`InitSetupSignals` and `InitPtraceAttach` return. -/
def run (setupSignalsOk attachOk : Bool) (rounds : List PtraceRound) : PtraceM Bool :=
  if setupSignalsOk = false then do
    setExitStatusCode .setupError failedSignals
    pure true
  else if attachOk = false then do
    setExitStatusCode .setupError failedPtrace
    pure true
  else runLoop cfg rounds

end PtraceMonitor

/-! ### The calls on the notifier -/

/-- Whether a call is `EventSyscallReturn` of `syscall`. -/
def NotifyEvent.isReturnOf (syscall : TracedSyscall) : NotifyEvent → Bool
  | .eventSyscallReturn s _ => s == syscall
  | _ => false

/-- How many times `EventSyscallTrace` answered `kInspectAfterReturn` for `syscall`. -/
def inspections (events : List NotifyEvent) (syscall : TracedSyscall) : Nat :=
  events.count (.eventSyscallTrace syscall .kInspectAfterReturn)

/-- How many times `EventSyscallReturn` was called for `syscall`. -/
def returns (events : List NotifyEvent) (syscall : TracedSyscall) : Nat :=
  events.countP (NotifyEvent.isReturnOf syscall)

@[simp] theorem inspections_append (events : List NotifyEvent) (e : NotifyEvent)
    (syscall : TracedSyscall) :
    inspections (events ++ [e]) syscall =
      inspections events syscall + if e = .eventSyscallTrace syscall .kInspectAfterReturn then 1 else 0 := by
  simp [inspections,List.count_singleton]

@[simp] theorem returns_append (events : List NotifyEvent) (e : NotifyEvent) (syscall : TracedSyscall) :
    returns (events ++ [e]) syscall = returns events syscall + if e.isReturnOf syscall then 1 else 0 := by
  simp [returns]

namespace PtraceMonitor

/-! ### The invariant -/

/-- `1` while `syscall` is the system call in progress of its task. -/
def inFlight (inProgress : Int → Option TracedSyscall) (syscall : TracedSyscall) : Nat :=
  if inProgress syscall.pid = some syscall then 1 else 0

theorem inFlight_eq_one {inProgress : Int → Option TracedSyscall} {syscall : TracedSyscall}
    (h : inProgress syscall.pid = some syscall) : inFlight inProgress syscall = 1 :=
  if_pos h

theorem inFlight_update (inProgress : Int → Option TracedSyscall) (pid : Int)
    (v : Option TracedSyscall) (syscall : TracedSyscall) :
    inFlight (Function.update inProgress pid v) syscall =
      if syscall.pid = pid then (if v = some syscall then 1 else 0) else inFlight inProgress syscall := by
  unfold inFlight
  by_cases hp : syscall.pid = pid
  · subst hp
    simp
  · simp [hp]

/-- A `VIOLATION` is the network proxy's, or names its system call: the reason code is the
call's number and the notifier was told of it. -/
def ViolationRecorded (m : PtraceMonitor) : Prop :=
  m.finalStatus = .violation →
    (m.networkViolation = true ∧ m.reasonCode = violationNetwork) ∨
      ∃ syscall, m.resultSyscall = some syscall ∧ m.reasonCode = syscall.nr ∧
        ∃ violationType, .eventSyscallViolation syscall violationType ∈ m.notifyEvents

/-- What holds of the monitor between two handlers: every system call in progress is filed
under its own task, each is owed one inspection the notifier asked for and has not had, and a
`VIOLATION` is recorded. -/
structure MonitorInv (m : PtraceMonitor) : Prop where
  keyed : ∀ pid syscall, m.syscallsInProgress pid = some syscall → syscall.pid = pid
  matched : ∀ syscall,
    returns m.notifyEvents syscall + inFlight m.syscallsInProgress syscall ≤
      inspections m.notifyEvents syscall
  violation : m.ViolationRecorded

/-- Where a handler starts: the status not yet set, and the invariant. -/
def Ready (m : PtraceMonitor) : Prop := m.finalStatus = .unset ∧ MonitorInv m

theorem Ready.of_frame {m m' : PtraceMonitor} (hm : Ready m) (hs : m'.finalStatus = m.finalStatus)
    (hp : m'.syscallsInProgress = m.syscallsInProgress) (he : m'.notifyEvents = m.notifyEvents) :
    Ready m' := by
  obtain ⟨hunset,hinv⟩ := hm
  refine ⟨hs.trans hunset,⟨?_,?_,?_⟩⟩
  · rw [hp]
    exact hinv.keyed
  · rw [hp,he]
    exact hinv.matched
  · intro hv
    rw [hs,hunset] at hv
    cases hv

theorem ready_init (waitForExecve : Bool) : Ready (init waitForExecve) := by
  refine ⟨rfl,fun _ _ h => (by cases h),fun _ => ?_,fun hv => (by cases hv)⟩
  simp [inFlight,init,returns,inspections]

/-! ### The steps of a handler -/

theorem setExitStatusCode_run {m : PtraceMonitor} (hm : m.finalStatus = .unset)
    (finalStatus : StatusEnum) (reasonCode : Nat) :
    (setExitStatusCode finalStatus reasonCode).run m =
      .ok ((),{ m with finalStatus := finalStatus, reasonCode := reasonCode }) := by
  simp [setExitStatusCode,hm]
  rfl

theorem setExitStatusCode_triple {finalStatus : StatusEnum} (hs : finalStatus ≠ .violation)
    (reasonCode : Nat) :
    Triple Ready (setExitStatusCode finalStatus reasonCode)
      (fun _ m => m.finalStatus = finalStatus ∧ MonitorInv m) (fun _ => False) := by
  rintro m ⟨hm,hinv⟩
  rw [setExitStatusCode_run hm]
  exact ⟨rfl,⟨hinv.keyed,hinv.matched,fun hv => absurd hv hs⟩⟩

theorem setExitStatusCode_network_triple :
    Triple (fun m => Ready m ∧ m.networkViolation = true)
      (setExitStatusCode .violation violationNetwork) (fun _ => MonitorInv) (fun _ => False) := by
  rintro m ⟨⟨hm,hinv⟩,hnet⟩
  rw [setExitStatusCode_run hm]
  exact ⟨hinv.keyed,hinv.matched,fun _ => .inl ⟨hnet,rfl⟩⟩

theorem MonitorInv.notify_other {m : PtraceMonitor} (hm : MonitorInv m) {e : NotifyEvent}
    (hr : ∀ syscall, e.isReturnOf syscall = false)
    (hi : ∀ syscall, e ≠ .eventSyscallTrace syscall .kInspectAfterReturn) :
    MonitorInv { m with notifyEvents := m.notifyEvents ++ [e] } := by
  refine ⟨hm.keyed,fun syscall => ?_,fun hv => ?_⟩
  · simpa [hr syscall,hi syscall] using hm.matched syscall
  · rcases hm.violation hv with hnet | ⟨syscall,hsys,hcode,vt,hmem⟩
    · exact .inl hnet
    · exact .inr ⟨syscall,hsys,hcode,vt,List.mem_append_left _ hmem⟩

theorem actionProcessSyscallViolation_run {m : PtraceMonitor} (hm : m.finalStatus = .unset)
    (syscall : TracedSyscall) (violationType : ViolationType) :
    (actionProcessSyscallViolation syscall violationType).run m =
      .ok ((),{ m with
        notifyEvents := m.notifyEvents ++ [.eventSyscallViolation syscall violationType]
        finalStatus := .violation
        reasonCode := syscall.nr
        resultSyscall := some syscall }) := by
  simp [actionProcessSyscallViolation,notify,setExitStatusCode,hm]
  rfl

theorem ready_notifySignal (pid : Int) (sigNo : Nat) :
    Triple Ready (notify (.eventSignal pid sigNo)) (fun _ => Ready) (fun _ => False) :=
  Triple.modify fun _ hs =>
    ⟨hs.1,hs.2.notify_other (fun _ => rfl) fun _ => NotifyEvent.noConfusion⟩

theorem ready_notifyTrace (syscall : TracedSyscall) (response : TraceAction) :
    Triple Ready (notify (.eventSyscallTrace syscall response))
      (fun _ m => Ready m ∧ (response = .kInspectAfterReturn →
        returns m.notifyEvents syscall + 1 ≤ inspections m.notifyEvents syscall))
      (fun _ => False) := by
  refine Triple.modify fun m ⟨hm,hinv⟩ => ⟨⟨hm,hinv.keyed,fun sc => ?_,fun hv => ?_⟩,fun hresp => ?_⟩
  · have := hinv.matched sc
    simp only [returns_append,NotifyEvent.isReturnOf,Bool.false_eq_true,if_false,add_zero,
      inspections_append]
    split <;> omega
  · rw [hm] at hv
    cases hv
  · subst hresp
    have := hinv.matched syscall
    simp only [returns_append,NotifyEvent.isReturnOf,Bool.false_eq_true,if_false,add_zero,
      inspections_append,if_true]
    omega

theorem ready_fileInProgress (syscall : TracedSyscall) :
    Triple (fun m => Ready m ∧
        returns m.notifyEvents syscall + 1 ≤ inspections m.notifyEvents syscall)
      (modify fun m => { m with
        syscallsInProgress := Function.update m.syscallsInProgress syscall.pid (some syscall) } :
        PtraceM PUnit)
      (fun _ => Ready) (fun _ => False) := by
  refine Triple.modify fun m ⟨⟨hm,hinv⟩,hfree⟩ => ⟨hm,fun pid sc h => ?_,fun sc => ?_,fun hv => ?_⟩
  · dsimp only at h
    by_cases hp : pid = syscall.pid
    · subst hp
      rw [Function.update_self,Option.some.injEq] at h
      rw [← h]
    · rw [Function.update_of_ne hp] at h
      exact hinv.keyed pid sc h
  · have hold := hinv.matched sc
    dsimp only
    rw [inFlight_update]
    split_ifs with hp hv
    · cases hv
      exact hfree
    · omega
    · exact hold
  · rw [hm] at hv
    cases hv

theorem reportReturn_run (m : PtraceMonitor) (pid : Int) (syscall : TracedSyscall) (returnValue : Int) :
    (reportReturn pid syscall returnValue).run m =
      .ok ((),{ m with
        notifyEvents := m.notifyEvents ++ [.eventSyscallReturn syscall returnValue]
        syscallsInProgress := Function.update m.syscallsInProgress pid none }) := rfl

theorem ready_reportReturn {pid : Int} {syscall : TracedSyscall} (returnValue : Int) :
    Triple (fun m => Ready m ∧ m.syscallsInProgress pid = some syscall)
      (reportReturn pid syscall returnValue) (fun _ => Ready) (fun _ => False) := by
  rintro m ⟨⟨hm,hinv⟩,hin⟩
  rw [reportReturn_run]
  have hpid : syscall.pid = pid := hinv.keyed pid syscall hin
  refine ⟨hm,fun p sc h => ?_,fun sc => ?_,fun hv => ?_⟩
  · dsimp only at h
    by_cases hp : p = pid
    · subst hp
      rw [Function.update_self] at h
      cases h
    · rw [Function.update_of_ne hp] at h
      exact hinv.keyed p sc h
  · have hold := hinv.matched sc
    dsimp only
    rw [returns_append,inspections_append,inFlight_update]
    simp only [reduceCtorEq,if_false,add_zero]
    by_cases hs : syscall = sc
    · -- the call reported: one more return, and no longer in progress
      subst hs
      rw [inFlight_eq_one (hpid ▸ hin)] at hold
      simp only [NotifyEvent.isReturnOf,beq_self_eq_true,if_true,hpid]
      omega
    · have hb : NotifyEvent.isReturnOf sc (.eventSyscallReturn syscall returnValue) = false :=
        beq_eq_false_iff_ne.mpr hs
      simp only [hb,Bool.false_eq_true,if_false,add_zero]
      split_ifs <;> omega
  · rw [hm] at hv
    cases hv

theorem ready_eraseInProgress (pid : Int) :
    Triple Ready (eraseInProgress pid) (fun _ => Ready) (fun _ => False) := by
  refine Triple.modify fun m ⟨hm,hinv⟩ => ⟨hm,fun p sc h => ?_,fun sc => ?_,fun hv => ?_⟩
  · dsimp only at h
    by_cases hp : p = pid
    · subst hp
      rw [Function.update_self] at h
      cases h
    · rw [Function.update_of_ne hp] at h
      exact hinv.keyed p sc h
  · have hold := hinv.matched sc
    dsimp only
    rw [inFlight_update]
    split_ifs with hp hv
    · cases hv
    · omega
    · exact hold
  · rw [hm] at hv
    cases hv

theorem ready_resume (r : Resume) : Triple Ready (resume r) (fun _ => Ready) (fun _ => False) :=
  Triple.modify fun _ hs => hs.of_frame rfl rfl rfl

theorem inv_resume (r : Resume) :
    Triple MonitorInv (resume r) (fun _ => MonitorInv) (fun _ => False) :=
  Triple.modify fun _ hs => ⟨hs.keyed,hs.matched,hs.violation⟩

/-! ### Handlers -/

/-- From a ready state the program returns into the invariant, and no `CHECK` fails. -/
def Handles (prog : PtraceM Unit) : Prop := Triple Ready prog (fun _ => MonitorInv) (fun _ => False)

theorem handles_pure : Handles (pure ()) := Triple.pure fun _ hs => hs.2

theorem handles_setExitStatusCode {finalStatus : StatusEnum} (hs : finalStatus ≠ .violation)
    (reasonCode : Nat) : Handles (setExitStatusCode finalStatus reasonCode) :=
  (setExitStatusCode_triple hs reasonCode).mono (fun _ h => h) (fun _ _ h => h.2) fun _ h => h

theorem handles_resume (r : Resume) : Handles (resume r) :=
  (ready_resume r).mono (fun _ h => h) (fun _ _ h => h.2) fun _ h => h

theorem handles_actionProcessSyscallViolation (syscall : TracedSyscall)
    (violationType : ViolationType) : Handles (actionProcessSyscallViolation syscall violationType) := by
  rintro m ⟨hm,hinv⟩
  rw [actionProcessSyscallViolation_run hm]
  have hinv' := hinv.notify_other (e := .eventSyscallViolation syscall violationType)
    (fun _ => rfl) fun _ => NotifyEvent.noConfusion
  exact ⟨hinv'.keyed,hinv'.matched,fun _ => .inr ⟨syscall,rfl,rfl,violationType,
    List.mem_append_right _ List.mem_cons_self⟩⟩

theorem handles_reportReturn_resume {pid : Int} {syscall : TracedSyscall} (returnValue : Int)
    (r : Resume) :
    Triple (fun m => Ready m ∧ m.syscallsInProgress pid = some syscall)
      (reportReturn pid syscall returnValue >>= fun _ => resume r) (fun _ => MonitorInv)
      (fun _ => False) :=
  Triple.bind (ready_reportReturn returnValue) fun _ => handles_resume r

variable (cfg : PtraceConfig)

theorem handles_actionProcessSyscall (syscall : TracedSyscall) (response : TraceAction) :
    Handles (actionProcessSyscall cfg syscall response) := by
  unfold actionProcessSyscall
  refine Triple.bind Triple.get_pre fun m => Triple.ite (fun _ => handles_resume _) fun _ => ?_
  refine Triple.bind (ready_notifyTrace syscall response) fun _ => ?_
  cases response with
  | kAllow => exact (handles_resume _).pre fun _ h => h.1
  | kInspectAfterReturn =>
    exact Triple.bind ((ready_fileInProgress syscall).pre fun _ h => ⟨h.1,h.2 rfl⟩) fun _ =>
      handles_resume _
  | kDeny =>
    refine Triple.pre ?_ fun _ h => h.1
    exact Triple.ite (fun _ => handles_resume _) fun _ =>
      Triple.ite (fun _ => handles_resume _) fun _ => handles_actionProcessSyscallViolation _ _

theorem handles_eventPtraceSeccomp (pid : Int) (eventMsg : Nat) (regs : RegsFetch)
    (response : TraceAction) : Handles (eventPtraceSeccomp cfg pid eventMsg regs response) := by
  unfold eventPtraceSeccomp
  split
  · exact handles_pure
  · split
    · exact handles_pure
    · exact handles_setExitStatusCode (by decide) _
    · exact Triple.ite (fun _ => handles_actionProcessSyscallViolation _ _) fun _ =>
        handles_actionProcessSyscall cfg _ _

theorem handles_eventSyscallExit (pid : Int) (regs : RegsFetch) :
    Handles (eventSyscallExit pid regs) := by
  unfold eventSyscallExit
  refine Triple.bind Triple.get_self fun m => ?_
  split
  · exact (handles_setExitStatusCode (by decide) _).pre fun _ h => h.2
  · rename_i syscall hin
    split
    · exact handles_pure.pre fun _ h => h.2
    · exact (handles_setExitStatusCode (by decide) _).pre fun _ h => h.2
    · exact (handles_reportReturn_resume _ _).pre fun _ h => ⟨h.2,h.1 ▸ hin⟩

theorem handles_eventPtraceNewProcess (pid : Int) (eventMsg : Nat) :
    Handles (eventPtraceNewProcess pid eventMsg) := by
  unfold eventPtraceNewProcess
  refine Triple.bind Triple.get_self fun m => ?_
  split
  · exact (handles_resume _).pre fun _ h => h.2
  · rename_i syscall hin
    refine Triple.ite (fun _ => (handles_setExitStatusCode (by decide) _).pre fun _ h => h.2)
      fun _ => ?_
    exact (handles_reportReturn_resume _ _).pre fun _ h => ⟨h.2,h.1 ▸ hin⟩

theorem handles_eventPtraceExec (pid : Int) : Handles (eventPtraceExec pid) := by
  unfold eventPtraceExec
  refine Triple.bind Triple.get_self fun m => ?_
  refine Triple.ite (fun _ => ?_) fun _ => ?_
  · refine Triple.bind (Triple.modify (Q := fun _ => Ready) fun _ hs => hs.2.of_frame rfl rfl rfl)
      fun _ => handles_resume _
  · split
    · exact (handles_resume _).pre fun _ h => h.2
    · rename_i syscall hin
      refine Triple.ite (fun _ => (handles_setExitStatusCode (by decide) _).pre fun _ h => h.2)
        fun _ => ?_
      exact (handles_reportReturn_resume _ _).pre fun _ h => ⟨h.2,h.1 ▸ hin⟩

/-- The status of the main process's end, with a network violation, an external kill and a
time-out before what the wait status says. -/
theorem handles_mainExitStatus {m : PtraceMonitor} {prog : PtraceM Unit} (hprog : Handles prog) :
    Triple (fun s => m = s ∧ Ready s)
      (if m.networkViolation = true then setExitStatusCode .violation violationNetwork
        else if m.externalKill = true then setExitStatusCode .externalKill 0
        else if m.timedOut = true then setExitStatusCode .timeout 0
        else prog)
      (fun _ => MonitorInv) (fun _ => False) := by
  refine Triple.ite (fun hnet => setExitStatusCode_network_triple.pre fun _ h => ⟨h.2,h.1 ▸ hnet⟩)
    fun _ => Triple.pre ?_ fun _ h => h.2
  exact Triple.ite (fun _ => handles_setExitStatusCode (by decide) _) fun _ =>
    Triple.ite (fun _ => handles_setExitStatusCode (by decide) _) fun _ => hprog

theorem handles_continueAfterExit (pid : Int) (eventMsg : Nat) :
    Handles (continueAfterExit cfg pid eventMsg) := by
  unfold continueAfterExit
  refine Triple.bind (Triple.ifThen (fun _ => ?_) fun _ hs => hs.2) fun _ => inv_resume _
  refine Triple.bind Triple.get_self fun m => handles_mainExitStatus ?_
  exact Triple.ite (fun _ => handles_setExitStatusCode (by decide) _) fun _ =>
    handles_setExitStatusCode (by decide) _

theorem handles_eventPtraceExit (pid : Int) (eventMsg : Nat) (regs : RegsFetch) :
    Handles (eventPtraceExit cfg pid eventMsg regs) := by
  unfold eventPtraceExit
  refine Triple.bind (ready_eraseInProgress pid) fun _ => ?_
  refine Triple.ite (fun _ => handles_resume _) fun _ => ?_
  dsimp only
  split
  · exact handles_setExitStatusCode (by decide) _
  · exact handles_setExitStatusCode (by decide) _
  · exact Triple.ite (fun _ => handles_actionProcessSyscallViolation _ _) fun _ =>
      handles_continueAfterExit cfg pid eventMsg
  · exact handles_continueAfterExit cfg pid eventMsg

theorem handles_eventPtraceStop (pid : Int) (stopsig : Nat) : Handles (eventPtraceStop pid stopsig) :=
  Triple.ite (fun _ => handles_resume _) fun _ => handles_resume _

theorem handles_dispatchEvent (pid : Int) (event stopsig eventMsg : Nat) (stop : StopOracle) :
    Handles (dispatchEvent cfg pid event stopsig eventMsg stop) := by
  unfold dispatchEvent
  refine Triple.ite (fun _ => handles_eventPtraceNewProcess _ _) fun _ => ?_
  refine Triple.ite (fun _ => handles_resume _) fun _ => ?_
  refine Triple.ite (fun _ => handles_eventPtraceExec _) fun _ => ?_
  refine Triple.ite (fun _ => handles_eventPtraceExit cfg _ _ _) fun _ => ?_
  refine Triple.ite (fun _ => handles_eventPtraceStop _ _) fun _ => ?_
  exact Triple.ite (fun _ => handles_eventPtraceSeccomp cfg _ _ _ _) fun _ => handles_pure

theorem handles_stateProcessStopped (pid : Int) (status : Nat) (stop : StopOracle) :
    Handles (stateProcessStopped cfg pid status stop) := by
  unfold stateProcessStopped
  dsimp only
  refine Triple.ite (fun _ => Triple.bind (ready_notifySignal _ _) fun _ => handles_resume _)
    fun _ => ?_
  split
  · exact handles_pure
  · exact handles_setExitStatusCode (by decide) _
  · refine Triple.bind Triple.get_pre fun m => ?_
    refine Triple.bind (Triple.ifThen (Q := fun _ => Ready)
      (fun _ => Triple.modify fun _ hs => hs.of_frame rfl rfl rfl) fun _ hs => hs) fun _ => ?_
    exact Triple.ite (fun _ => handles_eventSyscallExit _ _) fun _ => handles_dispatchEvent cfg _ _ _ _ _

theorem handles_handleWait (wait : WaitResult) : Handles (handleWait cfg wait) := by
  cases wait with
  | nothing => exact handles_pure
  | failed echild =>
    exact Triple.ifThen (fun _ => handles_setExitStatusCode (by decide) _) fun _ hs => hs.2
  | changed pid status stop =>
    refine Triple.ite (fun _ => ?_) fun _ => Triple.ite (fun _ => ?_) fun _ =>
      Triple.ite (fun _ => handles_stateProcessStopped cfg _ _ _) fun _ => handles_pure
    · -- the main process exited
      refine Triple.ifThen (fun _ => ?_) fun _ hs => hs.2
      refine Triple.bind Triple.get_pre fun m => ?_
      exact Triple.ite (fun _ => handles_setExitStatusCode (by decide) _) fun _ =>
        handles_setExitStatusCode (by decide) _
    · -- the main process was killed by a signal
      refine Triple.ifThen (fun _ => ?_) fun _ hs => hs.2
      exact Triple.bind Triple.get_self fun m =>
        handles_mainExitStatus (handles_setExitStatusCode (by decide) _)

/-! ### Rounds and runs -/

/-- After a signal to the sandboxee: still ready when it was sent, the status set when not. -/
def SignalPost (ok : Bool) (m : PtraceMonitor) : Prop :=
  (ok = true → Ready m) ∧ (ok = false → MonitorInv m ∧ m.finalStatus ≠ .unset)

/-- After a round: the invariant, and the status set when the round breaks. -/
def RoundPost (brk : Bool) (m : PtraceMonitor) : Prop :=
  MonitorInv m ∧ (brk = true → m.finalStatus ≠ .unset)

theorem signalSandboxee_triple (reasonCode : Nat) (ok : Bool) :
    Triple Ready (signalSandboxee reasonCode ok) SignalPost (fun _ => False) := by
  unfold signalSandboxee
  refine Triple.ite (fun _ => Triple.pure fun _ hs => ⟨fun _ => hs,fun h => absurd h (by decide)⟩)
    fun _ => ?_
  refine Triple.bind (setExitStatusCode_triple (by decide) reasonCode) fun _ => ?_
  exact Triple.pure fun _ hs => ⟨fun h => absurd h (by decide),fun _ => ⟨hs.2,by rw [hs.1]; decide⟩⟩

theorem onRequest_triple {c : PtraceMonitor → Bool} {flag : PtraceMonitor → PtraceMonitor}
    {act rest : PtraceM Bool} (hflag : ∀ m, Ready m → Ready (flag m))
    (hact : Triple Ready act SignalPost (fun _ => False))
    (hrest : Triple Ready rest RoundPost (fun _ => False)) :
    Triple Ready (onRequest c flag act rest) RoundPost (fun _ => False) := by
  unfold onRequest
  refine Triple.bind Triple.get_pre fun m => Triple.ite (fun _ => ?_) fun _ => hrest
  refine Triple.bind (Triple.modify hflag) fun _ => Triple.bind hact fun ok => ?_
  -- a failed signal breaks the loop with the status set
  refine Triple.ite (fun hok => hrest.pre fun _ hs => hs.1 hok) fun hok => ?_
  have hok : ok = false := by simpa using hok
  exact Triple.pure fun _ hs => ⟨(hs.2 hok).1,fun _ => (hs.2 hok).2⟩

theorem runRound_triple (r : PtraceRound) :
    Triple Ready (runRound cfg r) RoundPost (fun _ => False) := by
  unfold runRound
  refine onRequest_triple (fun _ hs => hs.of_frame rfl rfl rfl)
    (signalSandboxee_triple _ _) ?_
  refine onRequest_triple (fun _ hs => hs.of_frame rfl rfl rfl)
    (signalSandboxee_triple _ _) ?_
  refine onRequest_triple (fun _ hs => hs.of_frame rfl rfl rfl)
    (signalSandboxee_triple _ _) ?_
  refine onRequest_triple (fun _ hs => hs.of_frame rfl rfl rfl)
    (signalSandboxee_triple _ _) ?_
  exact Triple.bind (handles_handleWait cfg r.wait) fun _ =>
    Triple.pure fun _ hs => ⟨hs,fun h => absurd h (by decide)⟩

/-- The loop keeps the invariant over every round, and ends exactly when the status is set. -/
theorem runLoop_triple (rounds : List PtraceRound) :
    Triple MonitorInv (runLoop cfg rounds)
      (fun ended m => MonitorInv m ∧ (ended = true ↔ m.finalStatus ≠ .unset)) (fun _ => False) := by
  induction rounds with
  | nil =>
    refine Triple.bind Triple.get_self fun m => Triple.pure ?_
    rintro s ⟨rfl,hs⟩
    exact ⟨hs,by simp⟩
  | cons r rs ih =>
    refine Triple.bind Triple.get_self fun m => ?_
    refine Triple.ite (fun hset => Triple.pure ?_) fun hunset => ?_
    · rintro s ⟨rfl,hs⟩
      exact ⟨hs,iff_of_true rfl hset⟩
    refine Triple.bind ((runRound_triple cfg r).pre ?_) fun brk => ?_
    · rintro s ⟨rfl,hs⟩
      exact ⟨not_not.mp hunset,hs⟩
    refine Triple.ite (fun hbrk => Triple.pure fun _ hs => ⟨hs.1,iff_of_true rfl (hs.2 hbrk)⟩)
      fun _ => ih.pre fun _ hs => hs.1

theorem run_triple (waitForExecve setupSignalsOk attachOk : Bool) (rounds : List PtraceRound) :
    Triple (fun m => m = init waitForExecve) (run cfg setupSignalsOk attachOk rounds)
      (fun ended m => MonitorInv m ∧ (ended = true ↔ m.finalStatus ≠ .unset)) (fun _ => False) := by
  have hinit : ∀ m, m = init waitForExecve → Ready m := fun _ h => h ▸ ready_init waitForExecve
  -- a failed setup sets its status once and returns
  have hsetup : ∀ reasonCode, Triple (fun m => m = init waitForExecve)
      (setExitStatusCode .setupError reasonCode >>= fun _ => pure true)
      (fun ended m => MonitorInv m ∧ (ended = true ↔ m.finalStatus ≠ .unset)) (fun _ => False) :=
    fun reasonCode => Triple.bind ((setExitStatusCode_triple (by decide) reasonCode).pre hinit)
      fun _ => Triple.pure fun _ hs => ⟨hs.2,iff_of_true rfl (by rw [hs.1]; decide)⟩
  unfold run
  refine Triple.ite (fun _ => hsetup _) fun _ => Triple.ite (fun _ => hsetup _) fun _ => ?_
  exact (runLoop_triple cfg rounds).pre fun _ h => (hinit _ h).2

/-! ### What every run does -/

/-- Whatever the sandboxee, the kernel and the notifier do, `Run` never sets the status twice
(no `CHECK` of `SetExitStatusCode` fails), and its loop stops exactly when the status is set, so
the `CHECK(result_.final_status() != Result::UNSET)` of `Join` holds whenever `Run` returns. -/
theorem run_ends_iff_statusSet (waitForExecve setupSignalsOk attachOk : Bool)
    (rounds : List PtraceRound) :
    ∃ ended m, (run cfg setupSignalsOk attachOk rounds).run (init waitForExecve) = .ok (ended,m) ∧
      (ended = true ↔ m.finalStatus ≠ .unset) := by
  obtain ⟨ended,m,hrun,-,hended⟩ :=
    Triple.run_ok (run_triple cfg waitForExecve setupSignalsOk attachOk rounds) rfl
  exact ⟨ended,m,hrun,hended⟩

/-- Along every run the notifier is told of a system call's return at most as often as its
`EventSyscallTrace` answered `kInspectAfterReturn` for that call. -/
theorem run_returns_le_inspections (waitForExecve setupSignalsOk attachOk : Bool)
    (rounds : List PtraceRound) :
    ∃ ended m, (run cfg setupSignalsOk attachOk rounds).run (init waitForExecve) = .ok (ended,m) ∧
      ∀ syscall, returns m.notifyEvents syscall ≤ inspections m.notifyEvents syscall := by
  obtain ⟨ended,m,hrun,hinv,-⟩ :=
    Triple.run_ok (run_triple cfg waitForExecve setupSignalsOk attachOk rounds) rfl
  exact ⟨ended,m,hrun,fun syscall => Nat.le_of_add_right_le (hinv.matched syscall)⟩

/-- A `VIOLATION` that a run ends with comes from the network proxy, with its reason code, or
names a system call: the result holds the call, the reason code is its number, and the notifier
was told of the violation. -/
theorem run_violation_recorded (waitForExecve setupSignalsOk attachOk : Bool)
    (rounds : List PtraceRound) :
    ∃ ended m, (run cfg setupSignalsOk attachOk rounds).run (init waitForExecve) = .ok (ended,m) ∧
      (m.finalStatus = .violation →
        (m.networkViolation = true ∧ m.reasonCode = violationNetwork) ∨
          ∃ syscall, m.resultSyscall = some syscall ∧ m.reasonCode = syscall.nr ∧
            ∃ violationType, .eventSyscallViolation syscall violationType ∈ m.notifyEvents) := by
  obtain ⟨ended,m,hrun,hinv,-⟩ :=
    Triple.run_ok (run_triple cfg waitForExecve setupSignalsOk attachOk rounds) rfl
  exact ⟨ended,m,hrun,hinv.violation⟩

end PtraceMonitor

end SandboxedApi.Sandbox2
