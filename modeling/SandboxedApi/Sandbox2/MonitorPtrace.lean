import Mathlib

/-! # Attaching to the sandboxee

`PtraceMonitor::InitPtraceAttach` seizes every task of the sandboxee in rounds: a task whose
`PTRACE_SEIZE` fails with `EPERM` is kept for the next round, one that fails with `ESRCH` is
dropped, and any other error ends the function. Between rounds the code means to wait, with an
exponential back-off, until a deadline two seconds after the start.

The test between rounds reads `if (absl::Now() < deadline)` and reports a time-out. Before the
deadline an `EPERM` makes the function return false at once; after it, the back-off
`min(..., deadline - absl::Now())` is never positive, and a task that keeps answering `EPERM` is
tried again without end.

The kernel and the clock are oracles: `seize k task` is the answer to the `PTRACE_SEIZE` of
`task` in round `k`, and `now i` the value of the `i`-th call of `absl::Now()`, in nanoseconds.
-/
namespace SandboxedApi.Sandbox2

/-- How `ptrace(PTRACE_SEIZE, ...)` ended: `0`, or `-1` with this `errno`. -/
inductive SeizeResult where
  | ok
  | eperm
  | esrch
  | otherErrno
deriving DecidableEq, Repr

structure AttachEnv where
  seize : Nat → Int → SeizeResult
  now : Nat → Int

def kInitialRetry : Int := 1000000
def kMaxRetry : Int := 20000000

/-- `absl::Seconds(2)`. -/
def attachTimeout : Int := 2000000000

structure AttachState where
  tasks : List Int
  tasksAttached : List Int
  retries : Nat
  round : Nat
  clockReads : Nat
  sleeps : List Int
deriving DecidableEq, Repr

/-- One `for (int task : tasks)`: the tasks left for the next round and the tasks attached so
far, or `none` when a `PTRACE_SEIZE` fails with an errno other than `EPERM` and `ESRCH`. -/
def seizeRound (env : AttachEnv) (k : Nat) :
    List Int → List Int → List Int → Option (List Int × List Int)
  | [], tasksLeft, tasksAttached => some (tasksLeft, tasksAttached)
  | task :: tasks, tasksLeft, tasksAttached =>
    match env.seize k task with
    | .ok => seizeRound env k tasks tasksLeft (tasksAttached ++ [task])
    | .eperm => seizeRound env k tasks (tasksLeft ++ [task]) tasksAttached
    | .esrch => seizeRound env k tasks tasksLeft tasksAttached
    | .otherErrno => none

/-- `std::min({retry_interval, kMaxRetry, deadline - absl::Now()})`, with
`retry_interval = kInitialRetry * (1 << std::min(10, retries))`. -/
def backoff (retries : Nat) (deadline now : Int) : Int :=
  min (min (kInitialRetry * 2 ^ min 10 retries) kMaxRetry) (deadline - now)

inductive AttachOutcome where
  | seizeFailed
  | timedOut
  | attached (tasksAttached : List Int)
deriving DecidableEq, Repr

inductive AttachStep where
  | stop (outcome : AttachOutcome)
  | next (st : AttachState)
deriving DecidableEq, Repr

/-- One round of `while (!tasks.empty())`. The second reading of the clock is the one in the
argument of `absl::SleepFor`. -/
def attachStep (env : AttachEnv) (deadline : Int) (st : AttachState) : AttachStep :=
  if st.tasks = [] then .stop (.attached st.tasksAttached)
  else
    match seizeRound env st.round st.tasks [] st.tasksAttached with
    | none => .stop .seizeFailed
    | some (tasksLeft, tasksAttached) =>
      if tasksLeft = [] then
        .next { st with tasks := [], tasksAttached := tasksAttached, round := st.round + 1 }
      else if env.now st.clockReads < deadline then .stop .timedOut
      else
        .next ⟨tasksLeft,tasksAttached,st.retries + 1,st.round + 1,st.clockReads + 2,
          st.sleeps ++ [backoff st.retries deadline (env.now (st.clockReads + 1))]⟩

/-- The loop for at most `fuel` rounds; `none` if it has not ended by then. -/
def attachLoop (env : AttachEnv) (deadline : Int) : Nat → AttachState → Option AttachOutcome
  | 0, _ => none
  | fuel + 1, st =>
    match attachStep env deadline st with
    | .stop outcome => some outcome
    | .next st => attachLoop env deadline fuel st

/-- What `InitPtraceAttach` reads besides the loop: the pids, the answer to seizing the init
process, the two task lists `GetListOfTasks` returns, and whether `SendUint32` succeeds. -/
structure AttachInput where
  initPid : Int
  mainPid : Int
  seizeInit : SeizeResult
  taskList : Option (List Int)
  taskListAfter : Option (List Int)
  sendDone : Bool

/-- `tasks_attached == tasks` on the two hash sets. -/
def sameTasks (a b : List Int) : Bool := a.all (· ∈ b) && b.all (· ∈ a)

def AttachState.init (tasks : List Int) : AttachState := ⟨tasks,[],0,0,1,[]⟩

/-- What `InitPtraceAttach` returns once its loop has ended: the task list is read again and
must be the set of tasks attached, and then `kSandbox2ClientDone` is sent. -/
def attachFinish (input : AttachInput) : AttachOutcome → Bool
  | .attached tasksAttached =>
    match input.taskListAfter with
    | none => false
    | some tasksAfter => if sameTasks tasksAttached tasksAfter then input.sendDone else false
  | _ => false

/-- `PtraceMonitor::InitPtraceAttach` with its loop run for at most `fuel` rounds. -/
def initPtraceAttach (fuel : Nat) (env : AttachEnv) (input : AttachInput) : Option Bool :=
  if input.initPid > 0 ∧ input.seizeInit ≠ .ok then some false
  else
    match input.taskList with
    | none => some false
    | some tasks =>
      if input.mainPid ∉ tasks then some false
      else (attachLoop env (env.now 0 + attachTimeout) fuel (AttachState.init tasks)).map
        (attachFinish input)

/-! ### One round of seizing -/

section Round

variable (env : AttachEnv) (k : Nat)

/-- The tasks of a round that answer `EPERM`. -/
def epermTasks (tasks : List Int) : List Int := tasks.filter fun t => env.seize k t == .eperm

/-- The tasks of a round that are seized. -/
def seizedTasks (tasks : List Int) : List Int := tasks.filter fun t => env.seize k t == .ok

/-- Whether some task of a round answers an errno other than `EPERM` and `ESRCH`. -/
def seizeFails (tasks : List Int) : Bool := tasks.any fun t => env.seize k t == .otherErrno

theorem seizeRound_eq : ∀ (tasks tasksLeft tasksAttached : List Int),
    seizeRound env k tasks tasksLeft tasksAttached =
      if seizeFails env k tasks then none
      else some (tasksLeft ++ epermTasks env k tasks,tasksAttached ++ seizedTasks env k tasks)
  | [], tasksLeft, tasksAttached => by simp [seizeRound,seizeFails,epermTasks,seizedTasks]
  | task :: tasks, tasksLeft, tasksAttached => by
    have ih := seizeRound_eq tasks
    cases h : env.seize k task <;>
      simp [seizeRound,seizeFails,epermTasks,seizedTasks,h,ih] at ih ⊢

end Round

/-! ### One round of the loop -/

section Step

variable {env : AttachEnv} {deadline : Int}

/-- A round with a task still to seize that no errno other than `EPERM` and `ESRCH` ends: the
`EPERM` tasks go on to the next round, or the loop ends there when the clock is still before
the deadline. -/
theorem attachStep_of_eperm {st : AttachState} (hne : st.tasks ≠ [])
    (hf : seizeFails env st.round st.tasks = false) (he : epermTasks env st.round st.tasks ≠ []) :
    attachStep env deadline st =
      if env.now st.clockReads < deadline then .stop .timedOut
      else .next ⟨epermTasks env st.round st.tasks,
        st.tasksAttached ++ seizedTasks env st.round st.tasks,st.retries + 1,st.round + 1,
        st.clockReads + 2,st.sleeps ++ [backoff st.retries deadline (env.now (st.clockReads + 1))]⟩ := by
  rw [attachStep,if_neg hne,seizeRound_eq,if_neg (by simp [hf])]
  simp only [List.nil_append,if_neg he]

end Step

/-! ### `InitPtraceAttach` -/

section Attach

variable {env : AttachEnv} {input : AttachInput} {tasks : List Int}

theorem initPtraceAttach_eq (fuel : Nat) (hinit : input.initPid ≤ 0 ∨ input.seizeInit = .ok)
    (hl : input.taskList = some tasks) (hmain : input.mainPid ∈ tasks) :
    initPtraceAttach fuel env input =
      (attachLoop env (env.now 0 + attachTimeout) fuel (AttachState.init tasks)).map (attachFinish input) := by
  have hi : ¬(input.initPid > 0 ∧ input.seizeInit ≠ .ok) := by
    rintro ⟨hp,hs⟩
    rcases hinit with h | h
    · omega
    · exact hs h
  rw [initPtraceAttach,if_neg hi,hl]
  exact if_neg (not_not.mpr hmain)

/-- A task that answers `EPERM` in the first round while the clock is before the deadline makes
`InitPtraceAttach` return false after that one round, with a time-out and no retry. -/
theorem initPtraceAttach_eperm_before_deadline (fuel : Nat)
    (hinit : input.initPid ≤ 0 ∨ input.seizeInit = .ok) (hl : input.taskList = some tasks)
    (hmain : input.mainPid ∈ tasks) (hf : seizeFails env 0 tasks = false)
    (he : epermTasks env 0 tasks ≠ []) (hnow : env.now 1 < env.now 0 + attachTimeout) :
    attachLoop env (env.now 0 + attachTimeout) (fuel + 1) (AttachState.init tasks) = some .timedOut ∧
      initPtraceAttach (fuel + 1) env input = some false := by
  have hne : (AttachState.init tasks).tasks ≠ [] := List.ne_nil_of_mem hmain
  have hstep := @attachStep_of_eperm env (env.now 0 + attachTimeout) (AttachState.init tasks) hne hf he
  have hloop : attachLoop env (env.now 0 + attachTimeout) (fuel + 1) (AttachState.init tasks) =
      some .timedOut := by
    have hnow' : env.now (AttachState.init tasks).clockReads < env.now 0 + attachTimeout := hnow
    rw [attachLoop,hstep,if_pos hnow']
  refine ⟨hloop,?_⟩
  rw [initPtraceAttach_eq _ hinit hl hmain,hloop]
  rfl

theorem initPtraceAttach_eperm_singleTask :
    attachLoop ⟨fun _ _ => .eperm,fun _ => 0⟩ (0 + attachTimeout) 1 (AttachState.init [1]) =
        some .timedOut ∧
      initPtraceAttach 1 ⟨fun _ _ => .eperm,fun _ => 0⟩ ⟨0,1,.ok,some [1],some [1],true⟩ = some false :=
  initPtraceAttach_eperm_before_deadline 0 (.inl le_rfl) rfl (by decide) (by decide) (by decide)
    (by decide)

end Attach

end SandboxedApi.Sandbox2
