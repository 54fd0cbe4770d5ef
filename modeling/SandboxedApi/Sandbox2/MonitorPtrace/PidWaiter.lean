import Mathlib.Logic.Basic

/-! # The queue of wait statuses of the ptrace monitor

`waitpid` favours the newest tasks, so `PidWaiter` gathers every status the kernel has at once:
`RefillStatuses` asks for the main process first and then for any task, until the kernel has
nothing more or fails, and `Wait` hands the gathered statuses out one per call, then the error
the refill ended with, and only then refills.

The kernel is an oracle: the answers to the `waitpid` calls in the order they are made. Over any
run of calls, what `Wait` returned apart from `0`, followed by what it still holds, is what the
kernel reported: every task's status and every error, once each and in order (`waitN_relays`).
-/
namespace SandboxedApi.Sandbox2

/-- One answer of `waitpid(pid, &status, __WNOTHREAD | __WALL | WUNTRACED | WNOHANG)`: what it
returns, the status it stores and the `errno` it leaves. -/
structure WaitpidAnswer where
  ret : Int
  status : Nat
  errno : Nat
deriving DecidableEq, Repr

/-- What `PidWaiter::Wait` returns: a task with its status, `0`, or `-1` with `errno` set. -/
inductive PidWaitResult where
  | task (pid : Int) (status : Nat)
  | zero
  | minusOne (errno : Nat)
deriving DecidableEq, Repr

structure PidWaiter where
  priorityPid : Int
  statuses : List (Int × Nat)
  lastErrno : Nat
deriving DecidableEq, Repr

namespace PidWaiter

/-- A waiter for the main process `priorityPid`, with nothing gathered. -/
def init (priorityPid : Int) : PidWaiter := ⟨priorityPid,[],0⟩

/-- The loop of `RefillStatuses` from its call of `waitpid(pid, ...)` on: the statuses gathered,
the `errno` the loop ended with and the answers left; `none` when the answers run out first. -/
def refillLoop : Int → List (Int × Nat) → List WaitpidAnswer →
    Option (List (Int × Nat) × Nat × List WaitpidAnswer)
  | _, _, [] => none
  | pid, statuses, a :: kernel =>
    if a.ret > 0 then refillLoop (-1) (statuses ++ [(a.ret,a.status)]) kernel
    else if a.ret < 0 then some (statuses,a.errno,kernel)
    -- a first `0` is the main process's only: the loop goes on with any task
    else if pid = -1 then some (statuses,0,kernel)
    else refillLoop (-1) statuses kernel

def refillStatuses (w : PidWaiter) (kernel : List WaitpidAnswer) :
    Option (PidWaiter × List WaitpidAnswer) :=
  (refillLoop w.priorityPid [] kernel).map fun (statuses,lastErrno,kernel) =>
    ({ w with statuses := statuses, lastErrno := lastErrno },kernel)

/-- The end of `Wait`, after the refill: the first status held, else `0` or the error. -/
def handOut (w : PidWaiter) : PidWaitResult × PidWaiter :=
  match w.statuses with
  | [] => if w.lastErrno = 0 then (.zero,w) else (.minusOne w.lastErrno,{ w with lastErrno := 0 })
  | (pid,status) :: rest => (.task pid status,{ w with statuses := rest })

/-- `Wait`: the result, the waiter after it and the answers left. -/
def wait (w : PidWaiter) (kernel : List WaitpidAnswer) :
    Option (PidWaitResult × PidWaiter × List WaitpidAnswer) :=
  (if w.statuses = [] ∧ w.lastErrno = 0 then refillStatuses w kernel else some (w,kernel)).map
    fun (w,kernel) => ((handOut w).1,(handOut w).2,kernel)

/-- `n` calls of `Wait`, with what they return in order. -/
def waitN : Nat → PidWaiter → List WaitpidAnswer →
    Option (List PidWaitResult × PidWaiter × List WaitpidAnswer)
  | 0, w, kernel => some ([],w,kernel)
  | n + 1, w, kernel =>
    (wait w kernel).bind fun (r,w,kernel) =>
      (waitN n w kernel).map fun (rs,w,kernel) => (r :: rs,w,kernel)

/-! ### What is owed to the callers -/

/-- What an answer of `waitpid` owes the callers of `Wait`: its task, or its error. An answer
of `0`, and a failure that leaves `errno` at `0`, owe nothing. -/
def relay (a : WaitpidAnswer) : List PidWaitResult :=
  if a.ret > 0 then [.task a.ret a.status]
  else if a.ret < 0 ∧ a.errno ≠ 0 then [.minusOne a.errno]
  else []

/-- What the waiter holds for the next calls: the statuses, then the error. -/
def queued (w : PidWaiter) : List PidWaitResult :=
  w.statuses.map (fun e => .task e.1 e.2) ++ if w.lastErrno = 0 then [] else [.minusOne w.lastErrno]

/-- The results that report something. -/
def reported (rs : List PidWaitResult) : List PidWaitResult := rs.filter (· != .zero)

theorem queued_eq_nil {w : PidWaiter} (hs : w.statuses = []) (he : w.lastErrno = 0) :
    queued w = [] := by
  simp [queued,hs,he]

/-- The loop reads a prefix of the answers and gathers what they owe, with the error it ends on
last. -/
theorem refillLoop_relays : ∀ {pid : Int} {statuses : List (Int × Nat)} {kernel : List WaitpidAnswer}
    {statuses' : List (Int × Nat)} {lastErrno : Nat} {kernel' : List WaitpidAnswer},
    refillLoop pid statuses kernel = some (statuses',lastErrno,kernel') →
      ∃ consumed, kernel = consumed ++ kernel' ∧
        statuses'.map (fun e => PidWaitResult.task e.1 e.2) ++
            (if lastErrno = 0 then [] else [.minusOne lastErrno]) =
          statuses.map (fun e => PidWaitResult.task e.1 e.2) ++ consumed.flatMap relay
  | _, _, [], _, _, _, h => by cases h
  | pid, statuses, a :: kernel, statuses', lastErrno, kernel', h => by
    unfold refillLoop at h
    by_cases hpos : a.ret > 0
    · -- a task: gathered, and the loop goes on
      rw [if_pos hpos] at h
      obtain ⟨consumed,hk,hq⟩ := refillLoop_relays h
      refine ⟨a :: consumed,by rw [hk,List.cons_append],?_⟩
      rw [hq,List.flatMap_cons,relay,if_pos hpos]
      simp
    rw [if_neg hpos] at h
    by_cases hneg : a.ret < 0
    · -- a failure ends the loop with its `errno`
      rw [if_pos hneg,Option.some.injEq,Prod.mk.injEq,Prod.mk.injEq] at h
      obtain ⟨rfl,rfl,rfl⟩ := h
      refine ⟨[a],rfl,?_⟩
      by_cases he : a.errno = 0 <;> simp [relay,hpos,hneg,he]
    rw [if_neg hneg] at h
    have hrelay : relay a = [] := by simp [relay,hpos,hneg]
    by_cases hpid : pid = -1
    · rw [if_pos hpid,Option.some.injEq,Prod.mk.injEq,Prod.mk.injEq] at h
      obtain ⟨rfl,rfl,rfl⟩ := h
      exact ⟨[a],rfl,by simp [hrelay]⟩
    · rw [if_neg hpid] at h
      obtain ⟨consumed,hk,hq⟩ := refillLoop_relays h
      exact ⟨a :: consumed,by rw [hk,List.cons_append],by rw [hq,List.flatMap_cons,hrelay,
        List.nil_append]⟩

theorem refillStatuses_relays {w w' : PidWaiter} {kernel kernel' : List WaitpidAnswer}
    (h : refillStatuses w kernel = some (w',kernel')) :
    w'.priorityPid = w.priorityPid ∧
      ∃ consumed, kernel = consumed ++ kernel' ∧ queued w' = consumed.flatMap relay := by
  unfold refillStatuses at h
  cases hl : refillLoop w.priorityPid [] kernel with
  | none =>
    rw [hl] at h
    cases h
  | some r =>
    obtain ⟨statuses,lastErrno,rest⟩ := r
    rw [hl,Option.map_some,Option.some.injEq,Prod.mk.injEq] at h
    obtain ⟨rfl,rfl⟩ := h
    obtain ⟨consumed,hk,hq⟩ := refillLoop_relays hl
    exact ⟨rfl,consumed,hk,by simpa [queued] using hq⟩

/-- Handing out keeps the order: the result, if it reports something, and then what is still
held, is what was held. -/
theorem handOut_relays (w : PidWaiter) :
    (handOut w).2.priorityPid = w.priorityPid ∧
      reported [(handOut w).1] ++ queued (handOut w).2 = queued w := by
  unfold handOut
  cases hs : w.statuses with
  | nil =>
    by_cases he : w.lastErrno = 0
    · simp [reported,queued,hs,he]
    · simp [reported,queued,hs,he]
  | cons e rest => simp [reported,queued,hs]

/-- One call of `Wait`: its result, if it reports something, followed by what the waiter holds
after it, is what the waiter held before followed by what the answers it read owe. -/
theorem wait_relays {w w' : PidWaiter} {kernel kernel' : List WaitpidAnswer} {r : PidWaitResult}
    (h : wait w kernel = some (r,w',kernel')) :
    w'.priorityPid = w.priorityPid ∧ ∃ consumed, kernel = consumed ++ kernel' ∧
      reported [r] ++ queued w' = queued w ++ consumed.flatMap relay := by
  unfold wait at h
  obtain ⟨w₁,kernel₁,hpre,hprio,consumed,hk,hq⟩ : ∃ w₁ kernel₁,
      (if w.statuses = [] ∧ w.lastErrno = 0 then refillStatuses w kernel else some (w,kernel)) =
        some (w₁,kernel₁) ∧ w₁.priorityPid = w.priorityPid ∧
      ∃ consumed, kernel = consumed ++ kernel₁ ∧ queued w₁ = queued w ++ consumed.flatMap relay := by
    by_cases hc : w.statuses = [] ∧ w.lastErrno = 0
    · rw [if_pos hc] at h ⊢
      cases hr : refillStatuses w kernel with
      | none =>
        rw [hr] at h
        cases h
      | some p =>
        obtain ⟨w₁,kernel₁⟩ := p
        obtain ⟨hprio,consumed,hk,hq⟩ := refillStatuses_relays hr
        exact ⟨w₁,kernel₁,rfl,hprio,consumed,hk,by rw [hq,queued_eq_nil hc.1 hc.2,List.nil_append]⟩
    · rw [if_neg hc]
      exact ⟨w,kernel,rfl,rfl,[],rfl,by simp⟩
  rw [hpre,Option.map_some,Option.some.injEq,Prod.mk.injEq,Prod.mk.injEq] at h
  obtain ⟨rfl,rfl,rfl⟩ := h
  obtain ⟨hprio',hout⟩ := handOut_relays w₁
  exact ⟨hprio'.trans hprio,consumed,hk,by rw [hout,hq]⟩

/-- Over any run of calls of `Wait`, what the calls returned apart from `0`, followed by what
the waiter still holds, is what the kernel's answers reported: the status of each task and each
error with its `errno`, once each and in the order the kernel gave them. -/
theorem waitN_relays : ∀ {n : Nat} {w w' : PidWaiter} {kernel kernel' : List WaitpidAnswer}
    {rs : List PidWaitResult}, waitN n w kernel = some (rs,w',kernel') →
      ∃ consumed, kernel = consumed ++ kernel' ∧
        reported rs ++ queued w' = queued w ++ consumed.flatMap relay
  | 0, w, w', kernel, kernel', rs, h => by
    simp only [waitN,Option.some.injEq,Prod.mk.injEq] at h
    obtain ⟨rfl,rfl,rfl⟩ := h
    exact ⟨[],rfl,by simp [reported]⟩
  | n + 1, w, w', kernel, kernel', rs, h => by
    unfold waitN at h
    cases hw : wait w kernel with
    | none =>
      rw [hw] at h
      cases h
    | some p =>
      obtain ⟨r,w₁,kernel₁⟩ := p
      rw [hw,Option.bind_some] at h
      dsimp only at h
      cases hn : waitN n w₁ kernel₁ with
      | none =>
        rw [hn] at h
        cases h
      | some q =>
        obtain ⟨rs',w₂,kernel₂⟩ := q
        rw [hn,Option.map_some,Option.some.injEq] at h
        cases h
        obtain ⟨-,c₁,hk₁,hq₁⟩ := wait_relays hw
        obtain ⟨c₂,hk₂,hq₂⟩ := waitN_relays hn
        refine ⟨c₁ ++ c₂,by rw [hk₁,hk₂,List.append_assoc],?_⟩
        calc reported (r :: rs') ++ queued w₂ = reported [r] ++ (reported rs' ++ queued w₂) := by
              rw [← List.append_assoc,reported,reported,reported,← List.filter_append,
                List.singleton_append]
          _ = reported [r] ++ queued w₁ ++ c₂.flatMap relay := by rw [hq₂,List.append_assoc]
          _ = queued w ++ (c₁ ++ c₂).flatMap relay := by
              rw [hq₁,List.flatMap_append,List.append_assoc]

/-- The main process and then task `101` stop, nothing else changes, and the next refill fails
with `ECHILD`: three calls return the two stops and then the error, and nothing is left. -/
theorem waitN_relays_echild :
    waitN 3 (init 100) [⟨100,0x137f,0⟩,⟨101,0x57f,0⟩,⟨0,0,0⟩,⟨-1,0,10⟩] =
        some ([.task 100 0x137f,.task 101 0x57f,.minusOne 10],init 100,[]) ∧
      ∃ consumed, [⟨100,0x137f,0⟩,⟨101,0x57f,0⟩,⟨0,0,0⟩,⟨-1,0,10⟩] = consumed ++ [] ∧
        reported [.task 100 0x137f,.task 101 0x57f,.minusOne 10] ++ queued (init 100) =
          queued (init 100) ++ consumed.flatMap relay :=
  ⟨rfl,waitN_relays (n := 3) rfl⟩

end PidWaiter

end SandboxedApi.Sandbox2
