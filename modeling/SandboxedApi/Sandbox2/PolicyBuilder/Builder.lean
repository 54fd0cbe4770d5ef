import SandboxedApi.Sandbox2.PolicyBuilder.AddPolicyOnSyscalls
import SandboxedApi.Sandbox2.Util.LabelProgram

/-! # The syscall part of `PolicyBuilder`

The builder collects user rules in `user_policy_`, remembers which numbers an `AllowSyscall` or
`BlockSyscallWithErrno` has handled (a later call for the same number does nothing), keeps the
overridable rules and the default action apart, and records whether the user policy takes over
`ptrace` and `bpf` from the default policy. A failing call sets `last_status_`, which makes
`TryBuild` fail. The calls that configure namespaces, mounts and networking do not touch the
filter and are left out.
-/
namespace SandboxedApi.Sandbox2
open ClassicBpf

def kMaxUserPolicyLength : Nat := 30000

structure PolicyBuilder where
  userPolicy : List SockFilter
  overridablePolicy : List SockFilter
  defaultAction : Option SockFilter
  userPolicyHandlesBpf : Bool
  userPolicyHandlesPtrace : Bool
  handledSyscalls : List UInt32
  lastStatus : Status
  alreadyBuilt : Bool

def PolicyBuilder.init : PolicyBuilder :=
  ⟨[],[],none,false,false,[],Status.okStatus,false⟩

/-- The filter part of `sandbox2::Policy`. -/
structure Policy where
  userPolicy : List SockFilter
  userPolicyHandlesBpf : Bool
  userPolicyHandlesPtrace : Bool

namespace PolicyBuilder

def setError (b : PolicyBuilder) (status : Status) : PolicyBuilder := { b with lastStatus := status }

def allowSyscall (b : PolicyBuilder) (num : UInt32) : PolicyBuilder :=
  if num ∈ b.handledSyscalls then b
  else { b with handledSyscalls := num :: b.handledSyscalls,
                userPolicy := b.userPolicy ++ syscall num allow }

def blockSyscallWithErrno (b : PolicyBuilder) (num error : UInt32) : PolicyBuilder :=
  if num ∈ b.handledSyscalls then b
  else { b with handledSyscalls := num :: b.handledSyscalls,
                userPolicy := b.userPolicy ++ syscall num (errno error),
                userPolicyHandlesBpf := b.userPolicyHandlesBpf || num == nrBpf,
                userPolicyHandlesPtrace := b.userPolicyHandlesPtrace || num == nrPtrace }

def overridableBlockSyscallWithErrno (b : PolicyBuilder) (num error : UInt32) : PolicyBuilder :=
  { b with overridablePolicy := b.overridablePolicy ++ syscall num (errno error) }

def addPolicyOnSyscalls (b : PolicyBuilder) (nums : List UInt32) (policy : List SockFilter) :
    PolicyBuilder :=
  match Sandbox2.addPolicyOnSyscalls nums policy with
  | .error status => b.setError status
  | .ok fragment => { b with userPolicy := b.userPolicy ++ fragment }

/-- `ResolveBpfFunc`: the label program written out with a fresh table and resolved. `none` is
the `exit(1)` of `seccomp_bpf_label` on a full table, or a marker past the table. -/
def resolveBpfFunc (b : PolicyBuilder) (f : List LabelInsn) :
    Option (PolicyBuilder × List SockFilter) :=
  match encodeLabels .zero f with
  | none => none
  | some (l,policy) =>
    match bpfResolveJumps l policy with
    | .undefined => none
    | .done r _ resolved =>
      if r ≠ 0 then some (b.setError (internalError "Cannot resolve bpf jumps"),resolved)
      else some (b,resolved)

def addPolicyOnSyscallsFunc (b : PolicyBuilder) (nums : List UInt32) (f : List LabelInsn) :
    Option PolicyBuilder :=
  (b.resolveBpfFunc f).map fun r => r.1.addPolicyOnSyscalls nums r.2

def trapPtrace (b : PolicyBuilder) : PolicyBuilder :=
  { b.addPolicyOnSyscalls [nrPtrace] [trap 0] with userPolicyHandlesPtrace := true }

/-- `DefaultAction(AllowAllSyscalls())`. -/
def defaultActionAllowAll (b : PolicyBuilder) : PolicyBuilder := { b with defaultAction := some allow }

/-- The filter part of `TryBuild`, with the builder it leaves. -/
def tryBuild (b : PolicyBuilder) : Except Status Policy × PolicyBuilder :=
  if b.userPolicy.length > kMaxUserPolicyLength then
    (.error (failedPreconditionError ("User syscall policy is to long (" ++
      toString b.userPolicy.length ++ " > " ++ toString kMaxUserPolicyLength ++ ").")),b)
  else if b.lastStatus.code ≠ .ok then (.error b.lastStatus,b)
  else if b.alreadyBuilt then (.error (failedPreconditionError "Can only build policy once."),b)
  else
    (.ok ⟨b.userPolicy ++ b.defaultAction.toList ++ b.overridablePolicy,b.userPolicyHandlesBpf,
      b.userPolicyHandlesPtrace⟩,{ b with alreadyBuilt := true })

end PolicyBuilder

/-- One call on the builder; the `Allow*` helpers are sequences of these. -/
inductive Call where
  | allowSyscall (num : UInt32)
  | blockSyscallWithErrno (num error : UInt32)
  | addPolicyOnSyscalls (nums : List UInt32) (policy : List SockFilter)
  | addPolicyOnSyscallsFunc (nums : List UInt32) (f : List LabelInsn)
  | overridableBlockSyscallWithErrno (num error : UInt32)
  | trapPtrace
  | defaultActionAllowAll

/-- `AllowSyscalls(nums)`. -/
def allowSyscalls (nums : List UInt32) : List Call := nums.map .allowSyscall

/-- `AddPolicyOnSyscall(num, policy)`. -/
def addPolicyOnSyscall (num : UInt32) (policy : List SockFilter) : Call := .addPolicyOnSyscalls [num] policy

/-- One call; `none` when the process exits inside it. -/
def PolicyBuilder.call (b : PolicyBuilder) : Call → Option PolicyBuilder
  | .allowSyscall num => some (b.allowSyscall num)
  | .blockSyscallWithErrno num error => some (b.blockSyscallWithErrno num error)
  | .addPolicyOnSyscalls nums policy => some (b.addPolicyOnSyscalls nums policy)
  | .addPolicyOnSyscallsFunc nums f => b.addPolicyOnSyscallsFunc nums f
  | .overridableBlockSyscallWithErrno num error => some (b.overridableBlockSyscallWithErrno num error)
  | .trapPtrace => some b.trapPtrace
  | .defaultActionAllowAll => some b.defaultActionAllowAll

def PolicyBuilder.calls (b : PolicyBuilder) : List Call → Option PolicyBuilder
  | [] => some b
  | c :: cs => (b.call c).bind fun b' => b'.calls cs

/-- The policy a sequence of calls on a fresh builder builds, when `TryBuild` succeeds. -/
def buildPolicy (cs : List Call) : Option Policy :=
  (PolicyBuilder.init.calls cs).bind fun b =>
    match b.tryBuild.1 with
    | .ok p => some p
    | .error _ => none

/-! ### Who takes `ptrace` and `bpf` over -/

/-- The calls that make the user policy handle `ptrace`. -/
def Call.ClaimsPtrace (c : Call) : Prop := c = .trapPtrace ∨ ∃ e, c = .blockSyscallWithErrno nrPtrace e

/-- The calls that make the user policy handle `bpf`. -/
def Call.ClaimsBpf (c : Call) : Prop := ∃ e, c = .blockSyscallWithErrno nrBpf e

namespace PolicyBuilder

@[simp] theorem setError_handlesPtrace (b : PolicyBuilder) (s : Status) :
    (b.setError s).userPolicyHandlesPtrace = b.userPolicyHandlesPtrace := rfl

@[simp] theorem setError_handlesBpf (b : PolicyBuilder) (s : Status) :
    (b.setError s).userPolicyHandlesBpf = b.userPolicyHandlesBpf := rfl

@[simp] theorem addPolicyOnSyscalls_handlesPtrace (b : PolicyBuilder) (nums : List UInt32)
    (policy : List SockFilter) :
    (b.addPolicyOnSyscalls nums policy).userPolicyHandlesPtrace = b.userPolicyHandlesPtrace := by
  unfold addPolicyOnSyscalls
  split <;> rfl

@[simp] theorem addPolicyOnSyscalls_handlesBpf (b : PolicyBuilder) (nums : List UInt32)
    (policy : List SockFilter) :
    (b.addPolicyOnSyscalls nums policy).userPolicyHandlesBpf = b.userPolicyHandlesBpf := by
  unfold addPolicyOnSyscalls
  split <;> rfl

theorem resolveBpfFunc_builder {b b' : PolicyBuilder} {f : List LabelInsn} {c : List SockFilter}
    (h : b.resolveBpfFunc f = some (b',c)) :
    b' = b ∨ ∃ s, b' = b.setError s := by
  unfold resolveBpfFunc at h
  split at h
  · cases h
  · split at h
    · cases h
    · split at h
      · cases h
        exact .inr ⟨_,rfl⟩
      · cases h
        exact .inl rfl

theorem addPolicyOnSyscallsFunc_handles {b b' : PolicyBuilder} {nums : List UInt32}
    {f : List LabelInsn} (h : b.addPolicyOnSyscallsFunc nums f = some b') :
    b'.userPolicyHandlesPtrace = b.userPolicyHandlesPtrace ∧
      b'.userPolicyHandlesBpf = b.userPolicyHandlesBpf := by
  unfold addPolicyOnSyscallsFunc at h
  obtain ⟨⟨b1,c⟩,hr,rfl⟩ := Option.map_eq_some_iff.mp h
  rcases resolveBpfFunc_builder hr with rfl | ⟨s,rfl⟩ <;> simp

/-- A call that turns `user_policy_handles_ptrace_` on is a `TrapPtrace` or a
`BlockSyscallWithErrno(__NR_ptrace, ...)`. -/
theorem call_handlesPtrace {b b' : PolicyBuilder} {c : Call} (h : b.call c = some b')
    (ht : b'.userPolicyHandlesPtrace = true) : b.userPolicyHandlesPtrace = true ∨ c.ClaimsPtrace := by
  cases c with
  | allowSyscall num =>
    simp only [call,Option.some.injEq] at h
    subst h
    left
    unfold allowSyscall at ht
    split at ht <;> exact ht
  | blockSyscallWithErrno num e =>
    simp only [call,Option.some.injEq] at h
    subst h
    unfold blockSyscallWithErrno at ht
    split at ht
    · exact .inl ht
    · simp only [Bool.or_eq_true,beq_iff_eq] at ht
      rcases ht with ht | rfl
      · exact .inl ht
      · exact .inr (.inr ⟨e,rfl⟩)
  | addPolicyOnSyscalls nums policy =>
    simp only [call,Option.some.injEq] at h
    subst h
    exact .inl (by simpa using ht)
  | addPolicyOnSyscallsFunc nums f =>
    exact .inl ((addPolicyOnSyscallsFunc_handles h).1 ▸ ht)
  | overridableBlockSyscallWithErrno num e =>
    simp only [call,Option.some.injEq] at h
    subst h
    exact .inl ht
  | trapPtrace => exact .inr (.inl rfl)
  | defaultActionAllowAll =>
    simp only [call,Option.some.injEq] at h
    subst h
    exact .inl ht

theorem call_handlesBpf {b b' : PolicyBuilder} {c : Call} (h : b.call c = some b')
    (ht : b'.userPolicyHandlesBpf = true) : b.userPolicyHandlesBpf = true ∨ c.ClaimsBpf := by
  cases c with
  | allowSyscall num =>
    simp only [call,Option.some.injEq] at h
    subst h
    left
    unfold allowSyscall at ht
    split at ht <;> exact ht
  | blockSyscallWithErrno num e =>
    simp only [call,Option.some.injEq] at h
    subst h
    unfold blockSyscallWithErrno at ht
    split at ht
    · exact .inl ht
    · simp only [Bool.or_eq_true,beq_iff_eq] at ht
      rcases ht with ht | rfl
      · exact .inl ht
      · exact .inr ⟨e,rfl⟩
  | addPolicyOnSyscalls nums policy =>
    simp only [call,Option.some.injEq] at h
    subst h
    exact .inl (by simpa using ht)
  | addPolicyOnSyscallsFunc nums f =>
    exact .inl ((addPolicyOnSyscallsFunc_handles h).2 ▸ ht)
  | overridableBlockSyscallWithErrno num e =>
    simp only [call,Option.some.injEq] at h
    subst h
    exact .inl ht
  | trapPtrace =>
    simp only [call,Option.some.injEq] at h
    subst h
    exact .inl (by simpa [trapPtrace] using ht)
  | defaultActionAllowAll =>
    simp only [call,Option.some.injEq] at h
    subst h
    exact .inl ht

theorem calls_cons {b b'' : PolicyBuilder} {c : Call} {cs : List Call}
    (h : b.calls (c :: cs) = some b'') : ∃ b', b.call c = some b' ∧ b'.calls cs = some b'' := by
  simp only [calls] at h
  exact Option.bind_eq_some_iff.mp h

theorem calls_handlesPtrace {b b' : PolicyBuilder} {cs : List Call} (h : b.calls cs = some b')
    (ht : b'.userPolicyHandlesPtrace = true) :
    b.userPolicyHandlesPtrace = true ∨ ∃ c ∈ cs, c.ClaimsPtrace := by
  induction cs generalizing b with
  | nil =>
    simp only [calls,Option.some.injEq] at h
    subst h
    exact .inl ht
  | cons c cs ih =>
    obtain ⟨b1,h1,h2⟩ := calls_cons h
    rcases ih h2 with h3 | ⟨c',hc',hcl⟩
    · rcases call_handlesPtrace h1 h3 with h4 | h4
      · exact .inl h4
      · exact .inr ⟨c,List.mem_cons_self,h4⟩
    · exact .inr ⟨c',List.mem_cons_of_mem _ hc',hcl⟩

theorem calls_handlesBpf {b b' : PolicyBuilder} {cs : List Call} (h : b.calls cs = some b')
    (ht : b'.userPolicyHandlesBpf = true) :
    b.userPolicyHandlesBpf = true ∨ ∃ c ∈ cs, c.ClaimsBpf := by
  induction cs generalizing b with
  | nil =>
    simp only [calls,Option.some.injEq] at h
    subst h
    exact .inl ht
  | cons c cs ih =>
    obtain ⟨b1,h1,h2⟩ := calls_cons h
    rcases ih h2 with h3 | ⟨c',hc',hcl⟩
    · rcases call_handlesBpf h1 h3 with h4 | h4
      · exact .inl h4
      · exact .inr ⟨c,List.mem_cons_self,h4⟩
    · exact .inr ⟨c',List.mem_cons_of_mem _ hc',hcl⟩

theorem tryBuild_ok {b : PolicyBuilder} {p : Policy} (h : b.tryBuild.1 = .ok p) :
    p = ⟨b.userPolicy ++ b.defaultAction.toList ++ b.overridablePolicy,b.userPolicyHandlesBpf,
      b.userPolicyHandlesPtrace⟩ ∧
      b.userPolicy.length ≤ kMaxUserPolicyLength ∧ b.lastStatus.code = .ok := by
  unfold tryBuild at h
  split at h
  · cases h
  · rename_i hlen
    split at h
    · cases h
    · rename_i hst
      split at h
      · cases h
      · exact ⟨(Except.ok.inj h).symm,Nat.le_of_not_lt hlen,not_not.mp hst⟩

end PolicyBuilder

theorem buildPolicy_some {cs : List Call} {p : Policy} (h : buildPolicy cs = some p) :
    ∃ b, PolicyBuilder.init.calls cs = some b ∧ b.tryBuild.1 = .ok p := by
  unfold buildPolicy at h
  obtain ⟨b,hb,hp⟩ := Option.bind_eq_some_iff.mp h
  refine ⟨b,hb,?_⟩
  split at hp
  · rename_i p' hp'
    cases hp
    exact hp'
  · cases hp

theorem buildPolicy_handlesPtrace {cs : List Call} {p : Policy} (h : buildPolicy cs = some p)
    (hc : ∀ c ∈ cs, ¬ c.ClaimsPtrace) : p.userPolicyHandlesPtrace = false := by
  obtain ⟨b,hcalls,hbuild⟩ := buildPolicy_some h
  rw [(PolicyBuilder.tryBuild_ok hbuild).1]
  cases ht : b.userPolicyHandlesPtrace with
  | false => rfl
  | true =>
    rcases PolicyBuilder.calls_handlesPtrace hcalls ht with hi | ⟨c,hmem,hcl⟩
    · exact absurd hi (by decide)
    · exact absurd hcl (hc c hmem)

theorem buildPolicy_handlesBpf {cs : List Call} {p : Policy} (h : buildPolicy cs = some p)
    (hc : ∀ c ∈ cs, ¬ c.ClaimsBpf) : p.userPolicyHandlesBpf = false := by
  obtain ⟨b,hcalls,hbuild⟩ := buildPolicy_some h
  rw [(PolicyBuilder.tryBuild_ok hbuild).1]
  cases ht : b.userPolicyHandlesBpf with
  | false => rfl
  | true =>
    rcases PolicyBuilder.calls_handlesBpf hcalls ht with hi | ⟨c,hmem,hcl⟩
    · exact absurd hi (by decide)
    · exact absurd hcl (hc c hmem)

end SandboxedApi.Sandbox2
