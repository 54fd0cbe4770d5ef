import SandboxedApi.Sandbox2.Policy

/-! # What no builder can turn off

Whatever the calls on the builder, the traced filter starts with the default policy: a foreign
architecture goes to the monitor, `clone` with `CLONE_UNTRACED` and `seccomp` with
`SECCOMP_FILTER_FLAG_NEW_LISTENER` are killed, and `ptrace` and `bpf` are killed unless the user
policy has taken them over. Taking them over is meant for blocking them with an errno or a trap,
but the flag does not look at the order of the calls: a rule that allows `ptrace`, added before
`TrapPtrace`, comes first in the user policy and wins.
-/
namespace SandboxedApi.Sandbox2
open ClassicBpf

variable {d : SeccompData}

theorem getPolicy_traced (p : Policy) :
    p.getPolicy .defaults false =
      some (resolveLabels (defaultPolicyLabels p.userPolicyHandlesPtrace p.userPolicyHandlesBpf false) ++
        [loadSyscallNr] ++ p.userPolicy ++ [kill]) := by
  simp [Policy.getPolicy,Flags.defaults,getDefaultPolicy_eq]

/-- The traced filter from the kernel's initial machine: the default policy's verdict, or the
user policy entered with the number in `A`, followed by `KILL`. -/
theorem exec_getPolicy_traced (p : Policy) :
    exec d (resolveLabels (defaultPolicyLabels p.userPolicyHandlesPtrace p.userPolicyHandlesBpf false) ++
        [loadSyscallNr] ++ p.userPolicy ++ [kill]) 0 Machine.init =
      if d.arch = Syscall.getHostAuditArch then
        match hostVerdict p.userPolicyHandlesPtrace p.userPolicyHandlesBpf d with
        | some v => .ret v
        | none => exec d (p.userPolicy ++ [kill]) 0 { Machine.init with a := d.nr }
      else .ret (seccompRetTrace ||| ((if d.arch = auditArchI386 then Cpu.Architecture.kX86
        else .kUnknown).value &&& seccompRetData)) := by
  simp only [List.append_assoc,exec_append,exec_defaultPolicy]
  by_cases harch : d.arch = Syscall.getHostAuditArch
  · simp only [harch,if_true]
    cases hostVerdict p.userPolicyHandlesPtrace p.userPolicyHandlesBpf d with
    | some v => rfl
    | none =>
      simp only [verdictOr,Outcome.fall_andThen]
      rw [exec_cons_of_step_next (step_loadSyscallNr _)]
      rfl
  · simp [harch]

theorem not_isForkServerExecveat {hp hb : Bool} (h : MandatoryKill hp hb d) :
    ¬ IsForkServerExecveat d := by
  rintro ⟨hx,-,-⟩
  rcases h with ⟨-,hn⟩ | ⟨-,hn⟩ | ⟨hn,-⟩ | ⟨hn,-⟩ <;> rw [hn] at hx <;> exact absurd hx (by decide)

theorem escapeVerdict_of_mandatoryKill {hp hb : Bool} (h : MandatoryKill hp hb d) :
    escapeVerdict hp hb d = some seccompRetKill := by
  unfold escapeVerdict
  by_cases h1 : hp = false ∧ d.nr = nrPtrace
  · rw [if_pos h1]
  rw [if_neg h1]
  by_cases h2 : hb = false ∧ d.nr = nrBpf
  · rw [if_pos h2]
  rw [if_neg h2]
  by_cases h3 : d.nr = nrClone ∧ lo32 (d.args 0) &&& cloneUntraced ≠ 0
  · rw [if_pos h3]
  rw [if_neg h3]
  have h4 : d.nr = nrSeccomp ∧ lo32 (d.args 1) &&& seccompFilterFlagNewListener ≠ 0 := by
    rcases h with h | h | h | h
    · exact absurd h h1
    · exact absurd h h2
    · exact absurd h h3
    · exact h
  rw [if_pos h4]

theorem hostVerdict_of_mandatoryKill {hp hb : Bool} (h : MandatoryKill hp hb d) :
    hostVerdict hp hb d = some seccompRetKill := by
  rw [hostVerdict,if_neg (not_isForkServerExecveat h),escapeVerdict_of_mandatoryKill h]

/-- The checks no sequence of builder calls can remove from the traced filter, with the flags at
their defaults: another architecture goes to the monitor, and `ptrace` and `bpf` (unless a call
has taken them over), `clone` with `CLONE_UNTRACED` and `seccomp` with
`SECCOMP_FILTER_FLAG_NEW_LISTENER` are killed. -/
theorem getPolicy_mandatoryChecks {cs : List Call} {pol : Policy} (hb : buildPolicy cs = some pol)
    (d : SeccompData) :
    ∃ prog, pol.getPolicy .defaults false = some prog ∧
      (d.arch ≠ Syscall.getHostAuditArch →
        run d prog = some (seccompRetTrace ||| ((if d.arch = auditArchI386 then Cpu.Architecture.kX86
          else .kUnknown).value &&& seccompRetData))) ∧
      (d.arch = Syscall.getHostAuditArch →
        (d.nr = nrPtrace ∧ (∀ c ∈ cs, ¬ c.ClaimsPtrace)) ∨ (d.nr = nrBpf ∧ ∀ c ∈ cs, ¬ c.ClaimsBpf) ∨
          (d.nr = nrClone ∧ lo32 (d.args 0) &&& cloneUntraced ≠ 0) ∨
          (d.nr = nrSeccomp ∧ lo32 (d.args 1) &&& seccompFilterFlagNewListener ≠ 0) →
        run d prog = some seccompRetKill) := by
  refine ⟨_,getPolicy_traced pol,?_,?_⟩
  · intro harch
    rw [run,exec_getPolicy_traced,if_neg harch]
    rfl
  · intro harch hcase
    have hk : MandatoryKill pol.userPolicyHandlesPtrace pol.userPolicyHandlesBpf d := by
      rcases hcase with ⟨hn,hc⟩ | ⟨hn,hc⟩ | h | h
      · exact .inl ⟨buildPolicy_handlesPtrace hb hc,hn⟩
      · exact .inr (.inl ⟨buildPolicy_handlesBpf hb hc,hn⟩)
      · exact .inr (.inr (.inl h))
      · exact .inr (.inr (.inr h))
    rw [run,exec_getPolicy_traced,if_pos harch,hostVerdict_of_mandatoryKill hk]
    rfl

/-- A rule that allows `ptrace`, added before the call that takes `ptrace` over, allows it: the
default `DENY` is gone once `user_policy_handles_ptrace_` is set, though `GetDefaultPolicy` says
the user policy may only block it. So it goes for `AllowSyscall(__NR_ptrace)` before
`TrapPtrace()`, and for `AddPolicyOnSyscall(__NR_ptrace, {ALLOW})` before
`BlockSyscallWithErrno(__NR_ptrace, 1)`. -/
theorem getPolicy_ptrace_allowed :
    ((buildPolicy [.allowSyscall nrPtrace,.trapPtrace]).bind fun pol =>
        pol.getPolicy .defaults false).map (run ⟨nrPtrace,auditArchX8664,0,fun _ => 0⟩) =
      some (some seccompRetAllow) ∧
    ((buildPolicy [addPolicyOnSyscall nrPtrace [allow],.blockSyscallWithErrno nrPtrace 1]).bind
        fun pol => pol.getPolicy .defaults false).map (run ⟨nrPtrace,auditArchX8664,0,fun _ => 0⟩) =
      some (some seccompRetAllow) :=
  ⟨by decide +kernel,by decide +kernel⟩

end SandboxedApi.Sandbox2
