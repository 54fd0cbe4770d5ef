import SandboxedApi.Sandbox2.MandatoryChecks

/-! # The builder calls as first-match rules

What a policy built from calls on `PolicyBuilder` says, in the terms of the calls: the user
rules are tried in the order of the calls and the first that decides a system call gives its
verdict. `AllowSyscall` and `BlockSyscallWithErrno` decide their number, the first of them for
a number winning; `TrapPtrace` traps `ptrace`; a policy on a list of numbers decides a listed
call if it returns on it. A call that no user rule decides gets the default action if one was
set, else the first overridable rule for its number, else `KILL`.

The policies are read as the filter runs them: with foreign `TRACE`s turned into
`SANDBOX2_TRACE`, and on the machine the earlier policies left, since a policy that falls
through gets `A` reloaded but keeps what it wrote to `X` and the scratch memory.

`Reads b cs F b'` says what the calls `cs` did to the builder: they appended `F` to the user
policy, and `F` runs as their user rules. It holds for each call and composes over a run of
calls, and with the default policy it gives the meaning of `Policy::GetPolicy` in both modes.
-/
namespace SandboxedApi.Sandbox2
open ClassicBpf

/-! ### The reading -/

/-- `handled_syscalls_` after a call. -/
def Call.handle (handled : List UInt32) : Call → List UInt32
  | .allowSyscall num | .blockSyscallWithErrno num _ =>
    if num ∈ handled then handled else num :: handled
  | _ => handled

/-- A policy on the numbers `nums`: a listed call runs it and, if it does not return, goes on
with its number back in `A`; other calls pass. -/
def policyRule (d : SeccompData) (nums : List UInt32) (policy : List SockFilter) (m : Machine) :
    Outcome :=
  if d.nr ∈ nums then reloadNr d (exec d (policy.map traceToHost) 0 m) else .fall m 0

/-- The user rule of one call, on a system call that reaches it with the machine `m`. -/
def Call.userRule (d : SeccompData) (handled : List UInt32) (m : Machine) : Call → Outcome
  | .allowSyscall num =>
    if num ∉ handled ∧ d.nr = num then .ret seccompRetAllow else .fall m 0
  | .blockSyscallWithErrno num error =>
    if num ∉ handled ∧ d.nr = num then .ret (seccompRetErrno ||| (error &&& seccompRetData))
    else .fall m 0
  | .addPolicyOnSyscalls nums policy => policyRule d nums policy m
  | .addPolicyOnSyscallsFunc nums f => policyRule d nums (resolveLabels f) m
  | .trapPtrace => if d.nr = nrPtrace then .ret seccompRetTrap else .fall m 0
  | .overridableBlockSyscallWithErrno _ _ | .defaultActionAllowAll => .fall m 0

/-- The user rules of the calls, tried in order. -/
def userReading (d : SeccompData) : List Call → List UInt32 → Machine → Outcome
  | [], _, m => .fall m 0
  | c :: cs, handled, m =>
    (c.userRule d handled m).andThen fun m' _ => userReading d cs (c.handle handled) m'

def Call.isDefaultAction : Call → Bool
  | .defaultActionAllowAll => true
  | _ => false

def Call.overridableRule (d : SeccompData) : Call → Option UInt32
  | .overridableBlockSyscallWithErrno num error =>
    if d.nr = num then some (seccompRetErrno ||| (error &&& seccompRetData)) else none
  | _ => none

/-- The verdict for a call that no user rule decides. -/
def fallbackVerdict (d : SeccompData) (cs : List Call) : UInt32 :=
  if cs.any Call.isDefaultAction then seccompRetAllow
  else (cs.findSome? (Call.overridableRule d)).getD seccompRetKill

/-- The first-match reading of the calls on one system call, which reaches the user rules with
its number in `A`. -/
def firstMatch (d : SeccompData) (cs : List Call) : Outcome :=
  (userReading d cs [] { Machine.init with a := d.nr }).andThen fun _ _ =>
    .ret (fallbackVerdict d cs)

/-- The calls the reading covers: a policy goes on a nonempty list, short enough that the code
emits no helper jump, and a label program has no ordinary instruction with the marker bytes. -/
def Call.Regular : Call → Prop
  | .addPolicyOnSyscalls nums policy =>
    nums ≠ [] ∧ nums.length + (if kMaxShortJump < policy.length + 1 then 1 else 0) ≤ 256
  | .addPolicyOnSyscallsFunc nums f =>
    (nums ≠ [] ∧ nums.length + (if kMaxShortJump < f.length + 1 then 1 else 0) ≤ 256) ∧
      f.all LabelInsn.markerFree = true
  | _ => True

instance (c : Call) : Decidable c.Regular := by
  cases c <;> unfold Call.Regular <;> infer_instance

def LabelInsn.retOnlyK : LabelInsn → Bool
  | .insn f => f.retOnlyK
  | _ => true

/-- The calls whose policy returns only the constants of its `RET K`s. -/
def Call.retOnlyK : Call → Bool
  | .addPolicyOnSyscalls _ policy => policy.all SockFilter.retOnlyK
  | .addPolicyOnSyscallsFunc _ f => f.all LabelInsn.retOnlyK
  | _ => true

/-- What an `OverridableBlockSyscallWithErrno` appends to `overridable_policy_`. -/
def Call.overridableFilter : Call → List SockFilter
  | .overridableBlockSyscallWithErrno num error => syscall num (errno error)
  | _ => []

variable {d : SeccompData}

/-! ### Every rule hands a call on with its number in `A` -/

theorem reloadNr_fall {o : Outcome} {m : Machine} {n : Nat} (h : reloadNr d o = .fall m n) :
    m.a = d.nr ∧ n = 0 := by
  cases o with
  | fall m' n' =>
    simp only [reloadNr,Outcome.fall.injEq] at h
    obtain ⟨rfl,rfl⟩ := h
    exact ⟨rfl,rfl⟩
  | ret v => cases h
  | reject => cases h

theorem policyRule_fall {nums : List UInt32} {policy : List SockFilter} {m m' : Machine} {n : Nat}
    (ha : m.a = d.nr) (h : policyRule d nums policy m = .fall m' n) : m'.a = d.nr ∧ n = 0 := by
  unfold policyRule at h
  split at h
  · exact reloadNr_fall h
  · cases h
    exact ⟨ha,rfl⟩

theorem userRule_fall {c : Call} {handled : List UInt32} {m m' : Machine} {n : Nat}
    (ha : m.a = d.nr) (h : c.userRule d handled m = .fall m' n) : m'.a = d.nr ∧ n = 0 := by
  cases c with
  | addPolicyOnSyscalls nums policy => exact policyRule_fall ha h
  | addPolicyOnSyscallsFunc nums f => exact policyRule_fall ha h
  | allowSyscall num | blockSyscallWithErrno num _ | trapPtrace =>
    simp only [Call.userRule] at h
    split at h
    · cases h
    · cases h
      exact ⟨ha,rfl⟩
  | overridableBlockSyscallWithErrno num e | defaultActionAllowAll =>
    cases h
    exact ⟨ha,rfl⟩

theorem userReading_fall {cs : List Call} {handled : List UInt32} {m m' : Machine} {n : Nat}
    (ha : m.a = d.nr) (h : userReading d cs handled m = .fall m' n) : m'.a = d.nr ∧ n = 0 := by
  induction cs generalizing handled m with
  | nil =>
    cases h
    exact ⟨ha,rfl⟩
  | cons c cs ih =>
    simp only [userReading] at h
    cases hr : c.userRule d handled m with
    | fall m1 n1 =>
      rw [hr,Outcome.fall_andThen] at h
      exact ih (userRule_fall ha hr).1 h
    | ret v => rw [hr] at h; cases h
    | reject => rw [hr] at h; cases h

theorem userReading_singleton {c : Call} {handled : List UInt32} {m : Machine} (ha : m.a = d.nr) :
    userReading d [c] handled m = c.userRule d handled m := by
  simp only [userReading]
  cases hr : c.userRule d handled m with
  | fall m1 n1 =>
    obtain ⟨-,rfl⟩ := userRule_fall ha hr
    rfl
  | ret v => rfl
  | reject => rfl

/-! ### What the calls leave in the builder -/

/-- The calls `cs` took the builder from `b` to `b'` without an error: they appended `F` to the
user policy, `F` runs as their user rules, and they added their default action and overridable
rules. -/
structure Reads (b : PolicyBuilder) (cs : List Call) (F : List SockFilter) (b' : PolicyBuilder) :
    Prop where
  status : b.lastStatus.code = .ok
  user : b'.userPolicy = b.userPolicy ++ F
  within : JumpsWithin F
  retOnlyK : (∀ c ∈ cs, c.retOnlyK = true) → ∀ f ∈ F, f.retOnlyK = true
  runs : ∀ (d : SeccompData) (m : Machine), m.a = d.nr →
    exec d F 0 m = userReading d cs b.handledSyscalls m
  handled : b'.handledSyscalls = cs.foldl Call.handle b.handledSyscalls
  defaultAction : b'.defaultAction = if cs.any Call.isDefaultAction then some allow else b.defaultAction
  overridable : b'.overridablePolicy = b.overridablePolicy ++ cs.flatMap Call.overridableFilter

namespace Reads

theorem nil {b : PolicyBuilder} (hs : b.lastStatus.code = .ok) : Reads b [] [] b :=
  ⟨hs,(List.append_nil _).symm,trivial,fun _ _ hf => absurd hf List.not_mem_nil,
    fun _ _ _ => rfl,rfl,by simp,by simp⟩

theorem of_call {b b' : PolicyBuilder} {c : Call} {F : List SockFilter}
    (hs : b.lastStatus.code = .ok) (hu : b'.userPolicy = b.userPolicy ++ F) (hw : JumpsWithin F)
    (hk : c.retOnlyK = true → ∀ f ∈ F, f.retOnlyK = true)
    (hr : ∀ (d : SeccompData) (m : Machine), m.a = d.nr →
      exec d F 0 m = c.userRule d b.handledSyscalls m)
    (hh : b'.handledSyscalls = c.handle b.handledSyscalls)
    (hd : b'.defaultAction = if c.isDefaultAction then some allow else b.defaultAction)
    (ho : b'.overridablePolicy = b.overridablePolicy ++ c.overridableFilter) : Reads b [c] F b' :=
  ⟨hs,hu,hw,fun h => hk (h c List.mem_cons_self),
    fun d m ha => by rw [hr d m ha,userReading_singleton ha],hh,by simp [hd],by simp [ho]⟩

theorem cons {b b1 b' : PolicyBuilder} {c : Call} {cs : List Call} {F1 F2 : List SockFilter}
    (h1 : Reads b [c] F1 b1) (h2 : Reads b1 cs F2 b') : Reads b (c :: cs) (F1 ++ F2) b' := by
  have hh1 : b1.handledSyscalls = c.handle b.handledSyscalls := h1.handled
  refine ⟨h1.status,by rw [h2.user,h1.user,List.append_assoc],h1.within.append h2.within,
    fun hc f hf => ?_,fun d m ha => ?_,by rw [h2.handled,hh1]; rfl,?_,?_⟩
  · rcases List.mem_append.mp hf with hf | hf
    · exact h1.retOnlyK (fun c' hc' => hc c' (by simp at hc'; simp [hc'])) f hf
    · exact h2.retOnlyK (fun c' hc' => hc c' (List.mem_cons_of_mem _ hc')) f hf
  · -- the fragment of `c` hands the call on with its number in `A` and nothing to skip
    rw [exec_append,h1.runs d m ha,userReading_singleton ha,userReading]
    refine Outcome.andThen_congr fun m' n hf => ?_
    obtain ⟨ha',rfl⟩ := userRule_fall ha hf
    rw [h2.runs d m' ha',hh1]
  · rw [h2.defaultAction,h1.defaultAction]
    cases hc : c.isDefaultAction <;> simp [hc]
  · rw [h2.overridable,h1.overridable]
    simp

end Reads

/-! ### One call -/

theorem exec_syscall (num v : UInt32) (m : Machine) :
    exec d (syscall num (bpfStmt (bpfRet + bpfK) v)) 0 m = if m.a = num then .ret v else .fall m 0 := by
  rw [syscall,exec_jeq]
  by_cases h : m.a = num
  · simp [h,exec_cons_zero,step_retK]
  · simp [h]

theorem jumpsWithin_syscall (num v : UInt32) :
    JumpsWithin (syscall num (bpfStmt (bpfRet + bpfK) v)) := by
  have hr : (bpfStmt (bpfRet + bpfK) v).targets = [] := rfl
  refine ⟨fun n hn => ?_,fun n hn => absurd (hr ▸ hn) List.not_mem_nil,trivial⟩
  rw [targets_jeq] at hn
  simp only [List.mem_cons,List.not_mem_nil,or_false] at hn
  rcases hn with rfl | rfl <;> simp

theorem retOnlyK_syscall (num v : UInt32) :
    ∀ f ∈ syscall num (bpfStmt (bpfRet + bpfK) v), f.retOnlyK = true := by
  intro f hf
  simp only [syscall,List.mem_cons,List.not_mem_nil,or_false] at hf
  rcases hf with rfl | rfl
  · exact retOnlyK_jeq _ _ _
  · rfl

/-- What `AllowSyscall` and `BlockSyscallWithErrno` append: `SYSCALL(num, ret)` for a new
number, nothing for a handled one. -/
def syscallRule (handled : List UInt32) (num : UInt32) (ret : SockFilter) : List SockFilter :=
  if num ∈ handled then [] else syscall num ret

theorem exec_syscallRule (handled : List UInt32) (num v : UInt32) {m : Machine} (ha : m.a = d.nr) :
    exec d (syscallRule handled num (bpfStmt (bpfRet + bpfK) v)) 0 m =
      if num ∉ handled ∧ d.nr = num then .ret v else .fall m 0 := by
  unfold syscallRule
  by_cases hm : num ∈ handled
  · simp [hm]
  · simp [hm,exec_syscall,ha]

theorem jumpsWithin_syscallRule (handled : List UInt32) (num v : UInt32) :
    JumpsWithin (syscallRule handled num (bpfStmt (bpfRet + bpfK) v)) := by
  unfold syscallRule
  split
  · trivial
  · exact jumpsWithin_syscall num v

theorem retOnlyK_syscallRule (handled : List UInt32) (num v : UInt32) :
    ∀ f ∈ syscallRule handled num (bpfStmt (bpfRet + bpfK) v), f.retOnlyK = true := by
  unfold syscallRule
  split
  · exact fun _ hf => absurd hf List.not_mem_nil
  · exact retOnlyK_syscall num v

theorem reads_allowSyscall {b : PolicyBuilder} (num : UInt32) (hs : b.lastStatus.code = .ok) :
    Reads b [.allowSyscall num] (syscallRule b.handledSyscalls num allow) (b.allowSyscall num) := by
  have hu : (b.allowSyscall num).userPolicy =
      b.userPolicy ++ syscallRule b.handledSyscalls num allow := by
    unfold PolicyBuilder.allowSyscall syscallRule
    by_cases hm : num ∈ b.handledSyscalls <;> simp [hm]
  have hh : (b.allowSyscall num).handledSyscalls =
      (Call.allowSyscall num).handle b.handledSyscalls := by
    unfold PolicyBuilder.allowSyscall
    by_cases hm : num ∈ b.handledSyscalls <;> simp [hm,Call.handle]
  have hd : (b.allowSyscall num).defaultAction = b.defaultAction := by
    unfold PolicyBuilder.allowSyscall
    split <;> rfl
  have ho : (b.allowSyscall num).overridablePolicy = b.overridablePolicy := by
    unfold PolicyBuilder.allowSyscall
    split <;> rfl
  exact Reads.of_call hs hu (jumpsWithin_syscallRule _ num _) (fun _ => retOnlyK_syscallRule _ num _)
    (fun d m ha => exec_syscallRule _ num _ ha) hh hd (by rw [ho]; simp [Call.overridableFilter])

theorem reads_blockSyscallWithErrno {b : PolicyBuilder} (num error : UInt32)
    (hs : b.lastStatus.code = .ok) :
    Reads b [.blockSyscallWithErrno num error] (syscallRule b.handledSyscalls num (errno error))
      (b.blockSyscallWithErrno num error) := by
  have hu : (b.blockSyscallWithErrno num error).userPolicy =
      b.userPolicy ++ syscallRule b.handledSyscalls num (errno error) := by
    unfold PolicyBuilder.blockSyscallWithErrno syscallRule
    by_cases hm : num ∈ b.handledSyscalls <;> simp [hm]
  have hh : (b.blockSyscallWithErrno num error).handledSyscalls =
      (Call.blockSyscallWithErrno num error).handle b.handledSyscalls := by
    unfold PolicyBuilder.blockSyscallWithErrno
    by_cases hm : num ∈ b.handledSyscalls <;> simp [hm,Call.handle]
  have hd : (b.blockSyscallWithErrno num error).defaultAction = b.defaultAction := by
    unfold PolicyBuilder.blockSyscallWithErrno
    split <;> rfl
  have ho : (b.blockSyscallWithErrno num error).overridablePolicy = b.overridablePolicy := by
    unfold PolicyBuilder.blockSyscallWithErrno
    split <;> rfl
  exact Reads.of_call hs hu (jumpsWithin_syscallRule _ num _) (fun _ => retOnlyK_syscallRule _ num _)
    (fun d m ha => exec_syscallRule _ num _ ha) hh hd (by rw [ho]; simp [Call.overridableFilter])

theorem allowSyscall_lastStatus (b : PolicyBuilder) (num : UInt32) :
    (b.allowSyscall num).lastStatus = b.lastStatus := by
  unfold PolicyBuilder.allowSyscall
  split <;> rfl

theorem blockSyscallWithErrno_lastStatus (b : PolicyBuilder) (num error : UInt32) :
    (b.blockSyscallWithErrno num error).lastStatus = b.lastStatus := by
  unfold PolicyBuilder.blockSyscallWithErrno
  split <;> rfl

/-! ### Policy calls -/

theorem addPolicyOnSyscalls_error_code {nums : List UInt32} {policy : List SockFilter} {s : Status}
    (h : addPolicyOnSyscalls nums policy = .error s) : s.code ≠ .ok := by
  unfold addPolicyOnSyscalls at h
  split at h
  · cases h
    decide
  · split at h
    · cases h
      decide
    · cases h

theorem addPolicyOnSyscalls_builder {b : PolicyBuilder} {nums : List UInt32}
    {policy : List SockFilter} (hok : (b.addPolicyOnSyscalls nums policy).lastStatus.code = .ok) :
    ∃ F, addPolicyOnSyscalls nums policy = .ok F ∧
      b.addPolicyOnSyscalls nums policy = { b with userPolicy := b.userPolicy ++ F } := by
  unfold PolicyBuilder.addPolicyOnSyscalls at hok ⊢
  cases he : addPolicyOnSyscalls nums policy with
  | error s =>
    rw [he] at hok
    exact absurd hok (addPolicyOnSyscalls_error_code he)
  | ok F => exact ⟨F,rfl,rfl⟩

theorem exec_policyFragment {nums : List UInt32} {policy F : List SockFilter}
    (hF : addPolicyOnSyscalls nums policy = .ok F) (hn : nums ≠ [])
    (hs : nums.length + (if kMaxShortJump < policy.length + 1 then 1 else 0) ≤ 256) {m : Machine}
    (ha : m.a = d.nr) : exec d F 0 m = policyRule d nums policy m := by
  unfold policyRule
  by_cases hm : d.nr ∈ nums
  · rw [if_pos hm]
    exact addPolicyOnSyscalls_hit hF hn hs m ha hm
  · rw [if_neg hm]
    exact addPolicyOnSyscalls_miss hF hn m (by rw [ha]; exact hm)

theorem reads_addPolicyOnSyscalls {b : PolicyBuilder} {nums : List UInt32}
    {policy F : List SockFilter} (hF : addPolicyOnSyscalls nums policy = .ok F)
    (hs : b.lastStatus.code = .ok) (hreg : (Call.addPolicyOnSyscalls nums policy).Regular) :
    Reads b [.addPolicyOnSyscalls nums policy] F { b with userPolicy := b.userPolicy ++ F } :=
  Reads.of_call hs rfl (addPolicyOnSyscalls_jumpsWithin hF)
    (fun hk => addPolicyOnSyscalls_retOnlyK hF (fun f hf => List.all_eq_true.mp hk f hf))
    (fun _ _ ha => exec_policyFragment hF hreg.1 hreg.2 ha) rfl rfl
    (by simp [Call.overridableFilter])

theorem retOnlyK_resolveLabels {f : List LabelInsn} (h : f.all LabelInsn.retOnlyK = true) :
    ∀ x ∈ resolveLabels f, x.retOnlyK = true := by
  induction f with
  | nil => exact fun _ hx => absurd hx List.not_mem_nil
  | cons i rest ih =>
    rw [List.all_cons,Bool.and_eq_true] at h
    intro x hx
    cases i with
    | insn g =>
      rcases List.mem_cons.mp hx with rfl | hx
      · exact h.1
      · exact ih h.2 x hx
    | jump y | label y =>
      rcases List.mem_cons.mp hx with rfl | hx
      · exact retOnlyK_ja _
      · exact ih h.2 x hx

/-- `ResolveBpfFunc` that leaves no error has left the builder as it was and resolved the
program as its labels say. -/
theorem resolveBpfFunc_ok {b b1 : PolicyBuilder} {f : List LabelInsn} {c : List SockFilter}
    (h : b.resolveBpfFunc f = some (b1,c)) (hok : b1.lastStatus.code = .ok)
    (hm : f.all LabelInsn.markerFree = true) : b1 = b ∧ c = resolveLabels f := by
  unfold PolicyBuilder.resolveBpfFunc at h
  split at h
  · cases h
  · rename_i l policy henc
    split at h
    · cases h
    · rename_i r l' resolved hres
      split at h
      · cases h
        simp [PolicyBuilder.setError,internalError] at hok
      · rename_i hr
        cases h
        obtain rfl : r = 0 := not_not.mp hr
        exact ⟨rfl,resolved_of_done_zero (plain_of_markerFree hm) henc hres⟩

theorem reads_addPolicyOnSyscallsFunc {b b' : PolicyBuilder} {nums : List UInt32}
    {f : List LabelInsn} (h : b.addPolicyOnSyscallsFunc nums f = some b')
    (hok : b'.lastStatus.code = .ok) (hreg : (Call.addPolicyOnSyscallsFunc nums f).Regular) :
    ∃ F, Reads b [.addPolicyOnSyscallsFunc nums f] F b' := by
  obtain ⟨⟨b1,c⟩,hr,rfl⟩ := Option.map_eq_some_iff.mp h
  obtain ⟨F,hF,hb⟩ := addPolicyOnSyscalls_builder hok
  have hok1 : b1.lastStatus.code = .ok := by
    rw [hb] at hok
    exact hok
  obtain ⟨rfl,rfl⟩ := resolveBpfFunc_ok hr hok1 hreg.2
  have hs : nums.length + (if kMaxShortJump < (resolveLabels f).length + 1 then 1 else 0) ≤ 256 := by
    rw [length_resolveLabels]
    exact hreg.1.2
  refine ⟨F,?_⟩
  rw [hb]
  exact Reads.of_call hok1 rfl (addPolicyOnSyscalls_jumpsWithin hF)
    (fun hk => addPolicyOnSyscalls_retOnlyK hF (retOnlyK_resolveLabels hk))
    (fun _ _ ha => exec_policyFragment hF hreg.1.1 hs ha) rfl rfl
    (by simp [Call.overridableFilter])

theorem addPolicyOnSyscalls_trapPtrace :
    addPolicyOnSyscalls [nrPtrace] [trap 0] =
      .ok [bpfJump (bpfJmp + bpfJeq + bpfK) nrPtrace 0 2,trap 0,loadSyscallNr] := rfl

theorem policyRule_trapPtrace (m : Machine) :
    policyRule d [nrPtrace] [trap 0] m = Call.trapPtrace.userRule d [] m := by
  have ht : [trap 0].map traceToHost = [trap 0] := rfl
  unfold policyRule
  by_cases h : d.nr = nrPtrace
  · rw [if_pos (List.mem_singleton.mpr h),ht]
    simp [Call.userRule,h,trap,exec_cons_zero,step_retK,reloadNr]
  · rw [if_neg (by simpa using h)]
    simp [Call.userRule,h]

theorem reads_trapPtrace {b : PolicyBuilder} (hs : b.lastStatus.code = .ok) :
    Reads b [.trapPtrace] [bpfJump (bpfJmp + bpfJeq + bpfK) nrPtrace 0 2,trap 0,loadSyscallNr]
      b.trapPtrace := by
  have hF := addPolicyOnSyscalls_trapPtrace
  have hb : b.addPolicyOnSyscalls [nrPtrace] [trap 0] =
      { b with userPolicy := b.userPolicy ++
        [bpfJump (bpfJmp + bpfJeq + bpfK) nrPtrace 0 2,trap 0,loadSyscallNr] } := by
    unfold PolicyBuilder.addPolicyOnSyscalls
    rw [hF]
  have hn : [nrPtrace] ≠ [] := List.cons_ne_nil _ _
  have hshort : [nrPtrace].length + (if kMaxShortJump < [trap 0].length + 1 then 1 else 0) ≤ 256 := by
    decide
  rw [PolicyBuilder.trapPtrace,hb]
  exact Reads.of_call hs rfl (addPolicyOnSyscalls_jumpsWithin hF) (fun _ => by decide)
    (fun _ m ha => (exec_policyFragment hF hn hshort ha).trans (policyRule_trapPtrace m)) rfl rfl
    (by simp [Call.overridableFilter])

/-! ### Any call, any run of calls -/

theorem call_reads {b b' : PolicyBuilder} {c : Call} (h : b.call c = some b')
    (hok : b'.lastStatus.code = .ok) (hreg : c.Regular) : ∃ F, Reads b [c] F b' := by
  cases c with
  | allowSyscall num =>
    simp only [PolicyBuilder.call,Option.some.injEq] at h
    subst h
    exact ⟨_,reads_allowSyscall num (allowSyscall_lastStatus b num ▸ hok)⟩
  | blockSyscallWithErrno num error =>
    simp only [PolicyBuilder.call,Option.some.injEq] at h
    subst h
    exact ⟨_,reads_blockSyscallWithErrno num error
      (blockSyscallWithErrno_lastStatus b num error ▸ hok)⟩
  | addPolicyOnSyscalls nums policy =>
    simp only [PolicyBuilder.call,Option.some.injEq] at h
    subst h
    obtain ⟨F,hF,hb⟩ := addPolicyOnSyscalls_builder hok
    rw [hb] at hok ⊢
    exact ⟨F,reads_addPolicyOnSyscalls hF hok hreg⟩
  | addPolicyOnSyscallsFunc nums f => exact reads_addPolicyOnSyscallsFunc h hok hreg
  | trapPtrace =>
    simp only [PolicyBuilder.call,Option.some.injEq] at h
    subst h
    -- `TrapPtrace` keeps the status its `AddPolicyOnSyscall` left
    have hok' : (b.addPolicyOnSyscalls [nrPtrace] [trap 0]).lastStatus.code = .ok := hok
    obtain ⟨F,-,hb⟩ := addPolicyOnSyscalls_builder hok'
    have hs : b.lastStatus.code = .ok := by
      rw [hb] at hok'
      exact hok'
    exact ⟨_,reads_trapPtrace hs⟩
  | overridableBlockSyscallWithErrno num error =>
    simp only [PolicyBuilder.call,Option.some.injEq] at h
    subst h
    exact ⟨[],Reads.of_call hok (List.append_nil _).symm trivial
      (fun _ _ hf => absurd hf List.not_mem_nil) (fun _ _ _ => rfl) rfl rfl rfl⟩
  | defaultActionAllowAll =>
    simp only [PolicyBuilder.call,Option.some.injEq] at h
    subst h
    exact ⟨[],Reads.of_call hok (List.append_nil _).symm trivial
      (fun _ _ hf => absurd hf List.not_mem_nil) (fun _ _ _ => rfl) rfl rfl
      (by simp [Call.overridableFilter,PolicyBuilder.defaultActionAllowAll])⟩

/-- A run of calls that leaves no error: by induction on the calls, each of which left no error
either. -/
theorem calls_reads {b b' : PolicyBuilder} {cs : List Call} (h : b.calls cs = some b')
    (hok : b'.lastStatus.code = .ok) (hreg : ∀ c ∈ cs, c.Regular) : ∃ F, Reads b cs F b' := by
  induction cs generalizing b with
  | nil =>
    simp only [PolicyBuilder.calls,Option.some.injEq] at h
    subst h
    exact ⟨[],Reads.nil hok⟩
  | cons c cs ih =>
    obtain ⟨b1,h1,h2⟩ := PolicyBuilder.calls_cons h
    obtain ⟨F2,hr2⟩ := ih h2 (fun c' hc' => hreg c' (List.mem_cons_of_mem _ hc'))
    obtain ⟨F1,hr1⟩ := call_reads h1 hr2.status (hreg c List.mem_cons_self)
    exact ⟨F1 ++ F2,hr1.cons hr2⟩

/-! ### When no user rule decides -/

theorem jumpsWithin_overridable (cs : List Call) : JumpsWithin (cs.flatMap Call.overridableFilter) := by
  induction cs with
  | nil => trivial
  | cons c cs ih =>
    rw [List.flatMap_cons]
    refine JumpsWithin.append ?_ ih
    cases c with
    | overridableBlockSyscallWithErrno num error => exact jumpsWithin_syscall num _
    | _ => trivial

theorem retOnlyK_overridable (cs : List Call) :
    ∀ f ∈ cs.flatMap Call.overridableFilter, f.retOnlyK = true := by
  intro f hf
  obtain ⟨c,-,hf⟩ := List.mem_flatMap.mp hf
  cases c with
  | overridableBlockSyscallWithErrno num error => exact retOnlyK_syscall num _ f hf
  | _ => exact absurd hf List.not_mem_nil

theorem exec_overridable (cs : List Call) {m : Machine} (ha : m.a = d.nr) :
    exec d (cs.flatMap Call.overridableFilter ++ [kill]) 0 m =
      .ret ((cs.findSome? (Call.overridableRule d)).getD seccompRetKill) := by
  induction cs with
  | nil => simp [exec_cons_zero,kill,step_retK]
  | cons c cs ih =>
    cases c with
    | overridableBlockSyscallWithErrno num error =>
      rw [List.flatMap_cons,List.append_assoc,exec_append,Call.overridableFilter,errno,
        exec_syscall,ha]
      by_cases h : d.nr = num
      · simp [h,Call.overridableRule]
      · simp [h,Call.overridableRule,ih]
    | _ => simpa [Call.overridableFilter,Call.overridableRule,List.findSome?_cons] using ih

theorem exec_fallback (cs : List Call) {m : Machine} (ha : m.a = d.nr) :
    exec d ((if cs.any Call.isDefaultAction then some allow else none).toList ++
      cs.flatMap Call.overridableFilter ++ [kill]) 0 m = .ret (fallbackVerdict d cs) := by
  unfold fallbackVerdict
  cases h : cs.any Call.isDefaultAction
  · simpa using exec_overridable cs ha
  · simp only [if_true,Option.toList_some,List.cons_append]
    exact exec_cons_of_step_ret (step_retK _ _) _

/-! ### The whole filter -/

/-- The user part of a built policy keeps its jumps, runs as the first-match reading of the
calls, and returns only constants when the policies of the calls do. -/
theorem userPolicy_firstMatch {cs : List Call} {pol : Policy} (hb : buildPolicy cs = some pol)
    (hreg : ∀ c ∈ cs, c.Regular) :
    JumpsWithin pol.userPolicy ∧
      ((∀ c ∈ cs, c.retOnlyK = true) → ∀ f ∈ pol.userPolicy, f.retOnlyK = true) ∧
      ∀ d : SeccompData,
        exec d (pol.userPolicy ++ [kill]) 0 { Machine.init with a := d.nr } = firstMatch d cs := by
  obtain ⟨b,hcalls,hbuild⟩ := buildPolicy_some hb
  obtain ⟨rfl,-,hok⟩ := PolicyBuilder.tryBuild_ok hbuild
  obtain ⟨F,hr⟩ := calls_reads hcalls hok hreg
  have hu : b.userPolicy = F := hr.user
  have hd : b.defaultAction = if cs.any Call.isDefaultAction then some allow else none :=
    hr.defaultAction
  have ho : b.overridablePolicy = cs.flatMap Call.overridableFilter := hr.overridable
  have hwd : JumpsWithin (if cs.any Call.isDefaultAction then some allow else none).toList := by
    split <;> decide
  have hkd : ∀ f ∈ (if cs.any Call.isDefaultAction then some allow else none).toList,
      f.retOnlyK = true := by
    split <;> decide
  refine ⟨?_,fun hk f hf => ?_,fun d => ?_⟩
  · rw [hu,hd,ho]
    exact (hr.within.append hwd).append (jumpsWithin_overridable cs)
  · rw [hu,hd,ho] at hf
    simp only [List.mem_append] at hf
    rcases hf with (hf | hf) | hf
    · exact hr.retOnlyK hk f hf
    · exact hkd f hf
    · exact retOnlyK_overridable cs f hf
  · rw [hu,hd,ho,List.append_assoc,List.append_assoc,exec_append,hr.runs d _ rfl]
    unfold firstMatch
    refine Outcome.andThen_congr fun m' n hf => ?_
    obtain ⟨ha',rfl⟩ := userReading_fall rfl hf
    rw [← List.append_assoc]
    exact exec_fallback cs ha'

theorem getPolicy_notif (p : Policy) :
    p.getPolicy .defaults true =
      some ((resolveLabels (defaultPolicyLabels p.userPolicyHandlesPtrace p.userPolicyHandlesBpf true) ++
        [loadSyscallNr] ++ p.userPolicy ++ [kill]).map killToUserNotif) := by
  simp [Policy.getPolicy,Flags.defaults,getDefaultPolicy_eq]

theorem jumpsWithin_load : JumpsWithin [loadSyscallNr] := by decide

/-- A default policy and a user policy whose jumps stay within them make a well formed filter. -/
theorem wellFormed_filter {D U : List SockFilter} (hD : JumpsWithin D) (hU : JumpsWithin U) :
    WellFormed (D ++ [loadSyscallNr] ++ U ++ [kill]) := by
  have hk : kill.isRet = true := by decide
  refine ⟨JumpsWithin.jumpsInside_append ((hD.append jumpsWithin_load).append hU) (by decide)
    (List.cons_ne_nil _ _),?_⟩
  rw [List.getLast?_concat]
  exact hk

theorem retOnlyK_filter {D U : List SockFilter} (hD : ∀ f ∈ D, f.retOnlyK = true)
    (hU : ∀ f ∈ U, f.retOnlyK = true) :
    ∀ f ∈ D ++ [loadSyscallNr] ++ U ++ [kill], f.retOnlyK = true := by
  intro f hf
  simp only [List.mem_append,List.mem_singleton] at hf
  rcases hf with ((hf | rfl) | hf) | rfl
  · exact hD f hf
  · rfl
  · exact hU f hf
  · rfl

theorem escapeVerdict_eq_none {hp hb : Bool} (hpt : d.nr ≠ nrPtrace) (hbpf : d.nr ≠ nrBpf)
    (hcl : ¬(d.nr = nrClone ∧ lo32 (d.args 0) &&& cloneUntraced ≠ 0))
    (hnl : ¬(d.nr = nrSeccomp ∧ lo32 (d.args 1) &&& seccompFilterFlagNewListener ≠ 0)) :
    escapeVerdict hp hb d = none := by
  rw [escapeVerdict,if_neg (fun h => hpt h.2),if_neg (fun h => hbpf h.2),if_neg hcl,if_neg hnl]

/-- The filter of a built policy, in both modes: it is well formed, and on a system call of the
host architecture that none of the checks of the default policy decides, it runs as the
first-match reading of the calls; in unotify mode a returned `KILL` becomes `USER_NOTIF`, when
the policies of the calls return only constants and the call is not the fork server's
`seccomp`. -/
theorem getPolicy_firstMatch {cs : List Call} {pol : Policy} (hb : buildPolicy cs = some pol)
    (hreg : ∀ c ∈ cs, c.Regular) :
    ∃ prog prog', pol.getPolicy .defaults false = some prog ∧
      pol.getPolicy .defaults true = some prog' ∧ WellFormed prog ∧ WellFormed prog' ∧
      ∀ d : SeccompData, d.arch = Syscall.getHostAuditArch → ¬ IsForkServerExecveat d →
        d.nr ≠ nrPtrace → d.nr ≠ nrBpf →
        ¬(d.nr = nrClone ∧ lo32 (d.args 0) &&& cloneUntraced ≠ 0) →
        ¬(d.nr = nrSeccomp ∧ lo32 (d.args 1) &&& seccompFilterFlagNewListener ≠ 0) →
        exec d prog 0 Machine.init = firstMatch d cs ∧
          (¬(d.nr = nrSeccomp ∧ lo32 (d.args 3) = kExecveMagic) → (∀ c ∈ cs, c.retOnlyK = true) →
            exec d prog' 0 Machine.init = (firstMatch d cs).mapRet notifyKill) := by
  obtain ⟨hwu,hru,hexec⟩ := userPolicy_firstMatch hb hreg
  have hwd := jumpsWithin_defaultPolicy pol.userPolicyHandlesPtrace pol.userPolicyHandlesBpf
  refine ⟨_,_,getPolicy_traced pol,getPolicy_notif pol,wellFormed_filter (hwd false) hwu,
    WellFormed.map_killToUserNotif (wellFormed_filter (hwd true) hwu),
    fun d harch hx hpt hbpf hcl hnl => ⟨?_,fun hsm hk => ?_⟩⟩
  · rw [exec_getPolicy_traced,if_pos harch,hostVerdict,if_neg hx,
      escapeVerdict_eq_none hpt hbpf hcl hnl]
    exact hexec d
  · -- the unotify default policy hands the call on, and the rewrite only touches verdicts
    have hdef : exec d (resolveLabels (defaultPolicyLabels pol.userPolicyHandlesPtrace
        pol.userPolicyHandlesBpf true)) 0 Machine.init = .fall { Machine.init with a := handOff d } 0 := by
      rw [exec_defaultPolicy_notif,if_pos harch,if_neg hsm,if_neg hx,
        escapeVerdict_eq_none hpt hbpf hcl hnl]
      rfl
    rw [exec_killToUserNotif (retOnlyK_filter (retOnlyK_defaultPolicy _ _ true) (hru hk)),
      List.append_assoc _ pol.userPolicy [kill],exec_handOff_load hdef]
    exact congrArg (Outcome.mapRet notifyKill) (hexec d)

/-- The first-match reading fails where `AddPolicyOnSyscalls` misroutes. A policy `ALLOW` on an
empty list allows system call 7, where no rule decides it and the reading kills it. The same
policy on the numbers 0 to 256 is skipped for number 0, which the filter then kills, where the
reading allows it. -/
theorem getPolicy_firstMatch_misroutes :
    ((buildPolicy [.addPolicyOnSyscalls [] [allow]]).bind fun pol =>
        pol.getPolicy .defaults false).map (run ⟨7,auditArchX8664,0,fun _ => 0⟩) =
      some (some seccompRetAllow) ∧
    (firstMatch ⟨7,auditArchX8664,0,fun _ => 0⟩ [.addPolicyOnSyscalls [] [allow]]).verdict =
      some seccompRetKill ∧
    ((buildPolicy [.addPolicyOnSyscalls ((List.range 257).map Nat.toUInt32) [allow]]).bind
        fun pol => pol.getPolicy .defaults false).map (run ⟨0,auditArchX8664,0,fun _ => 0⟩) =
      some (some seccompRetKill) ∧
    (firstMatch ⟨0,auditArchX8664,0,fun _ => 0⟩
        [.addPolicyOnSyscalls ((List.range 257).map Nat.toUInt32) [allow]]).verdict =
      some seccompRetAllow :=
  ⟨by decide +kernel,by decide +kernel,by decide +kernel,by decide +kernel⟩

end SandboxedApi.Sandbox2
