import SandboxedApi.Sandbox2.PolicyBuilder.Builder

/-! # `Policy::GetPolicy`

The filter the sandboxee gets: the default policy, a `LOAD_SYSCALL_NR`, the user policy and a
final `KILL`; in unotify mode every `KILL` becomes `SECCOMP_RET_USER_NOTIF`. The default policy
is a label program of checks that every sandbox gets: the architecture, the fork server's own
`execveat`, and the calls that could escape the tracer (`ptrace`, `bpf`, `clone` with
`CLONE_UNTRACED`, `seccomp` with `SECCOMP_FILTER_FLAG_NEW_LISTENER`). Its blocks are closed
(every `JUMP` has its `LABEL` in the same block), so the resolved policy is the concatenation
of the resolved blocks, and each block is run on its own.
-/
namespace SandboxedApi.Sandbox2
open ClassicBpf

/-- `--sandbox2_danger_danger_permit_all` and `--sandbox2_danger_danger_permit_all_and_log`. -/
structure Flags where
  sandbox2DangerDangerPermitAll : Bool
  sandbox2DangerDangerPermitAllAndLog : String

def Flags.defaults : Flags := ⟨false,""⟩

def doUserNotif : SockFilter := bpfStmt (bpfRet + bpfK) seccompRetUserNotif

/-! ### The blocks of the default policy -/

/-- The architecture check of the traced mode: other architectures go to the monitor. -/
def archCheck : List LabelInsn :=
  [.insn loadArch] ++ jeq32 Syscall.getHostAuditArch (.jump "past_arch_check_l") ++
    jeq32 auditArchI386 (.insn (trace Cpu.Architecture.kX86.value)) ++
    [.insn (trace Cpu.Architecture.kUnknown.value),.label "past_arch_check_l"]

/-- The fork server's `execveat(fd, "", argv, envp, AT_EMPTY_PATH, kExecveMagic)`, answered by
`ret`; every path leaves the number in `A`. -/
def execveatCheck (ret : SockFilter) : List LabelInsn :=
  [.insn loadSyscallNr] ++ jne32 nrExecveat (.jump "past_execveat_l") ++ [.insn (arg32 4)] ++
    jne32 atEmptyPath (.jump "past_execveat_l") ++ [.insn (arg32 5)] ++
    jne32 kExecveMagic (.jump "past_execveat_l") ++
    [.insn ret,.label "past_execveat_l",.insn loadSyscallNr]

def notifArchCheck : List LabelInsn := [.insn loadArch] ++ jne32 Syscall.getHostAuditArch (.insn deny)

def notifSeccompCheck : List LabelInsn :=
  [.insn loadSyscallNr] ++ jne32 nrSeccomp (.jump "past_seccomp_l") ++ [.insn (arg32 3)] ++
    jne32 kExecveMagic (.jump "past_seccomp_l") ++ [.insn allow,.label "past_seccomp_l"]

def ptraceCheck (userPolicyHandlesPtrace : Bool) : List LabelInsn :=
  if userPolicyHandlesPtrace then [] else jeq32 nrPtrace (.insn deny)

def bpfCheck (userPolicyHandlesBpf : Bool) : List LabelInsn :=
  if userPolicyHandlesBpf then [] else jeq32 nrBpf (.insn deny)

def cloneUntracedCheck : List LabelInsn :=
  jne32 nrClone (.jump "past_clone_untraced_l") ++ [.insn (arg32 0)] ++
    ja32 cloneUntraced (.insn deny) ++ [.label "past_clone_untraced_l"]

def newListenerCheck : List LabelInsn :=
  [.insn loadSyscallNr] ++ jne32 nrSeccomp (.jump "past_seccomp_new_listener") ++
    [.insn (arg32 1)] ++ ja32 seccompFilterFlagNewListener (.insn deny) ++
    [.label "past_seccomp_new_listener"]

/-- The first initializer list, which depends on the mode. -/
def prologue (userNotif : Bool) : List LabelInsn :=
  if userNotif then notifArchCheck ++ notifSeccompCheck ++ execveatCheck allow
  else archCheck ++ execveatCheck sandbox2Trace

/-- The checks appended to it in both modes. -/
def escapeChecks (userPolicyHandlesPtrace userPolicyHandlesBpf : Bool) : List LabelInsn :=
  ptraceCheck userPolicyHandlesPtrace ++ bpfCheck userPolicyHandlesBpf ++ cloneUntracedCheck ++
    newListenerCheck

/-- The initializer lists of `GetDefaultPolicy`, as a label program. -/
def defaultPolicyLabels (userPolicyHandlesPtrace userPolicyHandlesBpf userNotif : Bool) :
    List LabelInsn :=
  prologue userNotif ++ escapeChecks userPolicyHandlesPtrace userPolicyHandlesBpf

/-! ### The policy -/

/-- `GetDefaultPolicy`; `none` is the `LOG(FATAL)` when the jumps do not resolve. -/
def Policy.getDefaultPolicy (p : Policy) (userNotif : Bool) : Option (List SockFilter) :=
  match encodeLabels .zero
      (defaultPolicyLabels p.userPolicyHandlesPtrace p.userPolicyHandlesBpf userNotif) with
  | none => none
  | some (l,policy) =>
    match bpfResolveJumps l policy with
    | .done 0 _ resolved => some resolved
    | _ => none

/-- `GetTrackingPolicy`: everything goes to the monitor, tagged with its architecture. -/
def getTrackingPolicy : List SockFilter :=
  resolveLabels ([.insn loadArch] ++
    jeq32 auditArchX8664 (.insn (trace Cpu.Architecture.kX8664.value)) ++
    jeq32 auditArchI386 (.insn (trace Cpu.Architecture.kX86.value)) ++
    [.insn (trace Cpu.Architecture.kUnknown.value)])

/-- The in-place rewrite of unotify mode. -/
def killToUserNotif (filter : SockFilter) : SockFilter :=
  if filter.code = bpfRet + bpfK ∧ filter.k = seccompRetKill then doUserNotif else filter

def Policy.getPolicy (flags : Flags) (p : Policy) (userNotif : Bool) : Option (List SockFilter) :=
  if flags.sandbox2DangerDangerPermitAll ∨ flags.sandbox2DangerDangerPermitAllAndLog ≠ "" then
    some getTrackingPolicy
  else
    (p.getDefaultPolicy userNotif).map fun policy =>
      let policy := policy ++ [loadSyscallNr] ++ p.userPolicy ++ [kill]
      if userNotif then policy.map killToUserNotif else policy

/-! ### The default policy resolves -/

theorem resolveLabels_prologue (u : Bool) :
    resolveLabels (prologue u) =
      if u then resolveLabels notifArchCheck ++ resolveLabels notifSeccompCheck ++
        resolveLabels (execveatCheck allow)
      else resolveLabels archCheck ++ resolveLabels (execveatCheck sandbox2Trace) := by
  have ha : JumpsForward archCheck := by decide
  have hna : JumpsForward notifArchCheck := by decide
  have hns : JumpsForward (notifArchCheck ++ notifSeccompCheck) := by decide
  cases u
  · simp only [prologue,Bool.false_eq_true,if_false]
    rw [resolveLabels_append ha]
  · simp only [prologue,if_true]
    rw [resolveLabels_append hns,resolveLabels_append hna]

theorem resolveLabels_escapeChecks (hp hb : Bool) :
    resolveLabels (escapeChecks hp hb) =
      resolveLabels (ptraceCheck hp) ++ resolveLabels (bpfCheck hb) ++
        resolveLabels cloneUntracedCheck ++ resolveLabels newListenerCheck := by
  have h1 : JumpsForward (ptraceCheck hp) := by cases hp <;> decide
  have h2 : JumpsForward (ptraceCheck hp ++ bpfCheck hb) := by cases hp <;> cases hb <;> decide
  have h3 : JumpsForward (ptraceCheck hp ++ bpfCheck hb ++ cloneUntracedCheck) := by
    cases hp <;> cases hb <;> decide
  rw [escapeChecks,resolveLabels_append h3,resolveLabels_append h2,resolveLabels_append h1]

theorem resolveLabels_defaultPolicyLabels (hp hb u : Bool) :
    resolveLabels (defaultPolicyLabels hp hb u) =
      resolveLabels (prologue u) ++ resolveLabels (escapeChecks hp hb) := by
  have h : JumpsForward (prologue u) := by cases u <;> decide
  rw [defaultPolicyLabels,resolveLabels_append h]

/-- `GetDefaultPolicy` never reaches its `LOG(FATAL)`: the program resolves as its labels say. -/
theorem getDefaultPolicy_eq (p : Policy) (u : Bool) :
    p.getDefaultPolicy u =
      some (resolveLabels (defaultPolicyLabels p.userPolicyHandlesPtrace p.userPolicyHandlesBpf u)) := by
  unfold Policy.getDefaultPolicy
  generalize p.userPolicyHandlesPtrace = hp
  generalize p.userPolicyHandlesBpf = hb
  obtain ⟨l,fs,henc⟩ : ∃ l fs, encodeLabels .zero (defaultPolicyLabels hp hb u) = some (l,fs) := by
    cases hp <;> cases hb <;> cases u <;> exact ⟨_,_,rfl⟩
  have hm : (defaultPolicyLabels hp hb u).all LabelInsn.markerFree = true := by
    cases hp <;> cases hb <;> cases u <;> decide
  have hlen : 1 ≤ (defaultPolicyLabels hp hb u).length ∧
      (defaultPolicyLabels hp hb u).length ≤ bpfMaxInsns := by
    cases hp <;> cases hb <;> cases u <;> decide
  have hok : LabelsOnce (defaultPolicyLabels hp hb u) ∧ JumpsForward (defaultPolicyLabels hp hb u) := by
    cases hp <;> cases hb <;> cases u <;> decide
  obtain ⟨l',h⟩ := bpfResolveJumps_of_consistent (plain_of_markerFree hm) henc hlen.1 hlen.2 hok.1 hok.2
  simp only [henc,h]

/-! ### What each block does -/

variable {d : SeccompData}

theorem step_loadArch (m : Machine) : step d loadArch m = .next { m with a := d.arch } 0 := by
  have hw : d.word 4 = some d.arch := by simp [SeccompData.word]
  rw [loadArch,step_ldAbs,hw]

theorem step_arg32 (i : Fin 6) (m : Machine) :
    step d (arg32 i.val.toUInt32) m = .next { m with a := lo32 (d.args i) } 0 := by
  have hw : d.word (loArg i.val.toUInt32) = some (lo32 (d.args i)) := by
    obtain ⟨i,hi⟩ := i
    match i,hi with
    | 0,_ | 1,_ | 2,_ | 3,_ | 4,_ | 5,_ => simp [SeccompData.word,loArg]
  rw [arg32,step_ldAbs,hw]

theorem exec_archCheck (m : Machine) :
    exec d (resolveLabels archCheck) 0 m =
      if d.arch = Syscall.getHostAuditArch then .fall { m with a := d.arch } 0
      else .ret (seccompRetTrace ||| ((if d.arch = auditArchI386 then Cpu.Architecture.kX86
        else .kUnknown).value &&& seccompRetData)) := by
  have hr : resolveLabels archCheck =
      [loadArch,bpfJump (bpfJmp + bpfJeq + bpfK) Syscall.getHostAuditArch 0 1,
        bpfStmt (bpfJmp + bpfJa) 3,bpfJump (bpfJmp + bpfJeq + bpfK) auditArchI386 0 1,
        trace Cpu.Architecture.kX86.value,trace Cpu.Architecture.kUnknown.value,
        bpfStmt (bpfJmp + bpfJa) 0] := rfl
  rw [hr]
  by_cases h : d.arch = Syscall.getHostAuditArch
  · simp [h,exec,step_loadArch,step_jeqK,step_ja]
  · by_cases hi : d.arch = auditArchI386
    · have hne : auditArchI386 ≠ Syscall.getHostAuditArch := by decide
      simp [hi,hne,exec,step_loadArch,step_jeqK,trace,step_retK]
    · simp [h,hi,exec,step_loadArch,step_jeqK,trace,step_retK]

theorem exec_notifArchCheck (m : Machine) :
    exec d (resolveLabels notifArchCheck) 0 m =
      if d.arch = Syscall.getHostAuditArch then .fall { m with a := d.arch } 0
      else .ret seccompRetKill := by
  have hr : resolveLabels notifArchCheck =
      [loadArch,bpfJump (bpfJmp + bpfJeq + bpfK) Syscall.getHostAuditArch 1 0,deny] := rfl
  rw [hr]
  by_cases h : d.arch = Syscall.getHostAuditArch
  · simp [h,exec,step_loadArch,step_jeqK]
  · simp [h,exec,step_loadArch,step_jeqK,deny,step_retK]

/-- The fork server's `execveat` gets `v`; any other call leaves with its number in `A`. -/
theorem exec_execveatCheck (v : UInt32) (m : Machine) :
    exec d (resolveLabels (execveatCheck (bpfStmt (bpfRet + bpfK) v))) 0 m =
      if d.nr = nrExecveat ∧ lo32 (d.args 4) = atEmptyPath ∧ lo32 (d.args 5) = kExecveMagic then
        .ret v
      else .fall { m with a := d.nr } 0 := by
  have hr : resolveLabels (execveatCheck (bpfStmt (bpfRet + bpfK) v)) =
      [loadSyscallNr,bpfJump (bpfJmp + bpfJeq + bpfK) nrExecveat 1 0,bpfStmt (bpfJmp + bpfJa) 7,
        arg32 4,bpfJump (bpfJmp + bpfJeq + bpfK) atEmptyPath 1 0,bpfStmt (bpfJmp + bpfJa) 4,
        arg32 5,bpfJump (bpfJmp + bpfJeq + bpfK) kExecveMagic 1 0,bpfStmt (bpfJmp + bpfJa) 1,
        bpfStmt (bpfRet + bpfK) v,bpfStmt (bpfJmp + bpfJa) 0,loadSyscallNr] := rfl
  have h4 : ∀ m, step d (arg32 4) m = .next { m with a := lo32 (d.args 4) } 0 := step_arg32 4
  have h5 : ∀ m, step d (arg32 5) m = .next { m with a := lo32 (d.args 5) } 0 := step_arg32 5
  rw [hr]
  by_cases hn : d.nr = nrExecveat
  · by_cases he : lo32 (d.args 4) = atEmptyPath
    · by_cases hm : lo32 (d.args 5) = kExecveMagic
      · simp [exec,step_loadSyscallNr,step_jeqK,hn,h4,h5,he,hm,step_retK]
      · simp [exec,step_loadSyscallNr,step_jeqK,hn,h4,h5,he,hm,step_ja]
    · simp [exec,step_loadSyscallNr,step_jeqK,hn,h4,he,step_ja]
  · simp [exec,step_loadSyscallNr,step_jeqK,hn,step_ja]

/-- In unotify mode a `seccomp` call whose fourth argument is the magic value is allowed. -/
theorem exec_notifSeccompCheck (m : Machine) :
    exec d (resolveLabels notifSeccompCheck) 0 m =
      if d.nr = nrSeccomp then
        (if lo32 (d.args 3) = kExecveMagic then .ret seccompRetAllow
          else .fall { m with a := lo32 (d.args 3) } 0)
      else .fall { m with a := d.nr } 0 := by
  have hr : resolveLabels notifSeccompCheck =
      [loadSyscallNr,bpfJump (bpfJmp + bpfJeq + bpfK) nrSeccomp 1 0,bpfStmt (bpfJmp + bpfJa) 4,
        arg32 3,bpfJump (bpfJmp + bpfJeq + bpfK) kExecveMagic 1 0,bpfStmt (bpfJmp + bpfJa) 1,
        allow,bpfStmt (bpfJmp + bpfJa) 0] := rfl
  have h3 : ∀ m, step d (arg32 3) m = .next { m with a := lo32 (d.args 3) } 0 := step_arg32 3
  rw [hr]
  by_cases hn : d.nr = nrSeccomp
  · by_cases hm : lo32 (d.args 3) = kExecveMagic
    · simp [exec,step_loadSyscallNr,step_jeqK,hn,h3,hm,allow,step_retK]
    · simp [exec,step_loadSyscallNr,step_jeqK,hn,h3,hm,step_ja]
  · simp [exec,step_loadSyscallNr,step_jeqK,hn,step_ja]

theorem exec_jeq32_deny (v : UInt32) (m : Machine) :
    exec d (resolveLabels (jeq32 v (.insn deny))) 0 m =
      if m.a = v then .ret seccompRetKill else .fall m 0 := by
  have hr : resolveLabels (jeq32 v (.insn deny)) = [bpfJump (bpfJmp + bpfJeq + bpfK) v 0 1,deny] :=
    rfl
  rw [hr]
  by_cases h : m.a = v
  · simp [h,exec,step_jeqK,deny,step_retK]
  · simp [h,exec,step_jeqK]

theorem exec_ptraceCheck (hp : Bool) (m : Machine) :
    exec d (resolveLabels (ptraceCheck hp)) 0 m =
      if hp = false ∧ m.a = nrPtrace then .ret seccompRetKill else .fall m 0 := by
  cases hp
  · simp only [ptraceCheck,Bool.false_eq_true,if_false,exec_jeq32_deny,true_and]
  · simp [ptraceCheck,resolveLabels]

theorem exec_bpfCheck (hb : Bool) (m : Machine) :
    exec d (resolveLabels (bpfCheck hb)) 0 m =
      if hb = false ∧ m.a = nrBpf then .ret seccompRetKill else .fall m 0 := by
  cases hb
  · simp only [bpfCheck,Bool.false_eq_true,if_false,exec_jeq32_deny,true_and]
  · simp [bpfCheck,resolveLabels]

theorem exec_cloneUntracedCheck (m : Machine) (ha : m.a = d.nr) :
    exec d (resolveLabels cloneUntracedCheck) 0 m =
      if d.nr = nrClone then
        (if lo32 (d.args 0) &&& cloneUntraced ≠ 0 then .ret seccompRetKill
          else .fall { m with a := lo32 (d.args 0) } 0)
      else .fall m 0 := by
  have hr : resolveLabels cloneUntracedCheck =
      [bpfJump (bpfJmp + bpfJeq + bpfK) nrClone 1 0,bpfStmt (bpfJmp + bpfJa) 3,arg32 0,
        bpfJump (bpfJmp + bpfJset + bpfK) cloneUntraced 0 1,deny,bpfStmt (bpfJmp + bpfJa) 0] := rfl
  have h0 : ∀ m, step d (arg32 0) m = .next { m with a := lo32 (d.args 0) } 0 := step_arg32 0
  rw [hr]
  by_cases hn : d.nr = nrClone
  · by_cases hu : lo32 (d.args 0) &&& cloneUntraced ≠ 0
    · simp [exec,step_jeqK,ha,hn,h0,step_jsetK,hu,deny,step_retK]
    · simp [exec,step_jeqK,ha,hn,h0,step_jsetK,hu,step_ja]
  · simp [exec,step_jeqK,ha,hn,step_ja]

theorem exec_newListenerCheck (m : Machine) :
    exec d (resolveLabels newListenerCheck) 0 m =
      if d.nr = nrSeccomp then
        (if lo32 (d.args 1) &&& seccompFilterFlagNewListener ≠ 0 then .ret seccompRetKill
          else .fall { m with a := lo32 (d.args 1) } 0)
      else .fall { m with a := d.nr } 0 := by
  have hr : resolveLabels newListenerCheck =
      [loadSyscallNr,bpfJump (bpfJmp + bpfJeq + bpfK) nrSeccomp 1 0,bpfStmt (bpfJmp + bpfJa) 3,
        arg32 1,bpfJump (bpfJmp + bpfJset + bpfK) seccompFilterFlagNewListener 0 1,deny,
        bpfStmt (bpfJmp + bpfJa) 0] := rfl
  have h1 : ∀ m, step d (arg32 1) m = .next { m with a := lo32 (d.args 1) } 0 := step_arg32 1
  rw [hr]
  by_cases hn : d.nr = nrSeccomp
  · by_cases hl : lo32 (d.args 1) &&& seccompFilterFlagNewListener ≠ 0
    · simp [exec,step_loadSyscallNr,step_jeqK,hn,h1,step_jsetK,hl,deny,step_retK]
    · simp [exec,step_loadSyscallNr,step_jeqK,hn,h1,step_jsetK,hl,step_ja]
  · simp [exec,step_loadSyscallNr,step_jeqK,hn,step_ja]

/-! ### The whole default policy -/

/-- The fork server's own `execveat`. -/
def IsForkServerExecveat (d : SeccompData) : Prop :=
  d.nr = nrExecveat ∧ lo32 (d.args 4) = atEmptyPath ∧ lo32 (d.args 5) = kExecveMagic

instance (d : SeccompData) : Decidable (IsForkServerExecveat d) :=
  inferInstanceAs (Decidable (_ ∧ _))

/-- The calls of the host architecture that the default policy kills whatever the user policy
says, for a policy that has not taken `ptrace` or `bpf` over. -/
def MandatoryKill (hp hb : Bool) (d : SeccompData) : Prop :=
  (hp = false ∧ d.nr = nrPtrace) ∨ (hb = false ∧ d.nr = nrBpf) ∨
    (d.nr = nrClone ∧ lo32 (d.args 0) &&& cloneUntraced ≠ 0) ∨
    (d.nr = nrSeccomp ∧ lo32 (d.args 1) &&& seccompFilterFlagNewListener ≠ 0)

/-- What the checks of both modes decide for a system call of the host architecture: `some v`
returns `v`, `none` hands the call on. -/
def escapeVerdict (hp hb : Bool) (d : SeccompData) : Option UInt32 :=
  if hp = false ∧ d.nr = nrPtrace then some seccompRetKill
  else if hb = false ∧ d.nr = nrBpf then some seccompRetKill
  else if d.nr = nrClone ∧ lo32 (d.args 0) &&& cloneUntraced ≠ 0 then some seccompRetKill
  else if d.nr = nrSeccomp ∧ lo32 (d.args 1) &&& seccompFilterFlagNewListener ≠ 0 then
    some seccompRetKill
  else none

/-- What the traced default policy decides for a system call of the host architecture. -/
def hostVerdict (hp hb : Bool) (d : SeccompData) : Option UInt32 :=
  if IsForkServerExecveat d then some (seccompRetTrace ||| (Syscall.getHostArch.value &&& seccompRetData))
  else escapeVerdict hp hb d

/-- Where the default policy leaves `A` for a call it hands on. -/
def handOff (d : SeccompData) : UInt32 := if d.nr = nrSeccomp then lo32 (d.args 1) else d.nr

/-- An outcome that returns `v` for `some v` and falls through with `m` for `none`. -/
def verdictOr (m : Machine) : Option UInt32 → Outcome
  | some v => .ret v
  | none => .fall m 0

theorem exec_escapeChecks (hp hb : Bool) (m : Machine) (ha : m.a = d.nr) :
    exec d (resolveLabels (escapeChecks hp hb)) 0 m =
      verdictOr { m with a := handOff d } (escapeVerdict hp hb d) := by
  have hcs : nrClone ≠ nrSeccomp := by decide
  simp only [resolveLabels_escapeChecks,List.append_assoc,exec_append,exec_ptraceCheck,ha]
  by_cases hpt : hp = false ∧ d.nr = nrPtrace
  · simp [hpt,escapeVerdict,verdictOr]
  rw [escapeVerdict,if_neg hpt]
  simp only [hpt,if_false,Outcome.fall_andThen,exec_bpfCheck,ha]
  by_cases hbp : hb = false ∧ d.nr = nrBpf
  · simp [hbp,verdictOr]
  rw [if_neg hbp]
  simp only [hbp,if_false,Outcome.fall_andThen,exec_cloneUntracedCheck m ha]
  by_cases hc : d.nr = nrClone
  · by_cases hu : lo32 (d.args 0) &&& cloneUntraced ≠ 0
    · simp [hc,hu,verdictOr]
    · rw [if_neg (show ¬(d.nr = nrClone ∧ lo32 (d.args 0) &&& cloneUntraced ≠ 0) from fun h => hu h.2)]
      simp [hc,hu,hcs,exec_newListenerCheck,handOff,verdictOr]
  rw [if_neg (show ¬(d.nr = nrClone ∧ lo32 (d.args 0) &&& cloneUntraced ≠ 0) from fun h => hc h.1)]
  simp only [hc,if_false,Outcome.fall_andThen]
  rw [exec_newListenerCheck]
  by_cases hs : d.nr = nrSeccomp
  · by_cases hl : lo32 (d.args 1) &&& seccompFilterFlagNewListener ≠ 0
    · simp [hs,hl,verdictOr]
    · simp [hs,hl,verdictOr,handOff]
  · simp [hs,verdictOr,handOff]

/-- The traced default policy: other architectures go to the monitor, the host architecture
gets `hostVerdict`, and every call it hands on leaves with `handOff d` in `A`. -/
theorem exec_defaultPolicy (hp hb : Bool) (m : Machine) :
    exec d (resolveLabels (defaultPolicyLabels hp hb false)) 0 m =
      if d.arch = Syscall.getHostAuditArch then
        verdictOr { m with a := handOff d } (hostVerdict hp hb d)
      else .ret (seccompRetTrace ||| ((if d.arch = auditArchI386 then Cpu.Architecture.kX86
        else .kUnknown).value &&& seccompRetData)) := by
  have ht : sandbox2Trace =
      bpfStmt (bpfRet + bpfK) (seccompRetTrace ||| (Syscall.getHostArch.value &&& seccompRetData)) := rfl
  rw [resolveLabels_defaultPolicyLabels,resolveLabels_prologue]
  simp only [Bool.false_eq_true,if_false,List.append_assoc,exec_append,exec_archCheck]
  by_cases harch : d.arch = Syscall.getHostAuditArch
  · simp only [harch,if_true,Outcome.fall_andThen,ht,exec_execveatCheck]
    by_cases hx : IsForkServerExecveat d
    · have hx' := hx
      simp only [IsForkServerExecveat] at hx'
      simp [hx',hostVerdict,hx,verdictOr]
    · have hx' : ¬(d.nr = nrExecveat ∧ lo32 (d.args 4) = atEmptyPath ∧
          lo32 (d.args 5) = kExecveMagic) := hx
      simp only [hx',if_false,Outcome.fall_andThen,hostVerdict,hx]
      exact exec_escapeChecks hp hb _ rfl
  · simp [harch]

/-- The unotify default policy: another architecture is killed; on the host architecture the
fork server's `seccomp` (magic fourth argument) and `execveat` are allowed, and the rest goes
through the same escape checks as in traced mode. -/
theorem exec_defaultPolicy_notif (hp hb : Bool) (m : Machine) :
    exec d (resolveLabels (defaultPolicyLabels hp hb true)) 0 m =
      if d.arch = Syscall.getHostAuditArch then
        if d.nr = nrSeccomp ∧ lo32 (d.args 3) = kExecveMagic then .ret seccompRetAllow
        else if IsForkServerExecveat d then .ret seccompRetAllow
        else verdictOr { m with a := handOff d } (escapeVerdict hp hb d)
      else .ret seccompRetKill := by
  have ha : allow = bpfStmt (bpfRet + bpfK) seccompRetAllow := rfl
  rw [resolveLabels_defaultPolicyLabels,resolveLabels_prologue]
  simp only [if_true,List.append_assoc,exec_append,exec_notifArchCheck]
  by_cases harch : d.arch = Syscall.getHostAuditArch
  · simp only [harch,if_true,Outcome.fall_andThen,exec_notifSeccompCheck]
    -- the seccomp check leaves `A` at the fourth argument for a `seccomp` it hands on; the
    -- `execveat` check reloads the number first
    have hsk : ∀ m' : Machine, (if d.nr = nrSeccomp then
        (if lo32 (d.args 3) = kExecveMagic then Outcome.ret seccompRetAllow
          else .fall { m' with a := lo32 (d.args 3) } 0)
        else .fall { m' with a := d.nr } 0) =
        if d.nr = nrSeccomp ∧ lo32 (d.args 3) = kExecveMagic then .ret seccompRetAllow
        else .fall { m' with a := if d.nr = nrSeccomp then lo32 (d.args 3) else d.nr } 0 := by
      intro m'
      by_cases hs : d.nr = nrSeccomp <;> by_cases hm : lo32 (d.args 3) = kExecveMagic <;>
        simp [hs,hm]
    rw [hsk]
    by_cases hsm : d.nr = nrSeccomp ∧ lo32 (d.args 3) = kExecveMagic
    · simp only [hsm,and_self,if_true,Outcome.ret_andThen]
    simp only [hsm,if_false,Outcome.fall_andThen,ha,exec_execveatCheck]
    by_cases hx : IsForkServerExecveat d
    · have hx' := hx
      simp only [IsForkServerExecveat] at hx'
      simp [hx',hx]
    · have hx' : ¬(d.nr = nrExecveat ∧ lo32 (d.args 4) = atEmptyPath ∧
          lo32 (d.args 5) = kExecveMagic) := hx
      simp only [hx',hx,if_false,Outcome.fall_andThen]
      exact exec_escapeChecks hp hb _ rfl
  · simp [harch]

/-- A default policy that hands the call on, followed by `LOAD_SYSCALL_NR`: the rest runs with
the number in `A`. -/
theorem exec_handOff_load {D : List SockFilter} {m m' : Machine}
    (h : exec d D 0 m = .fall m' 0) (rest : List SockFilter) :
    exec d (D ++ [loadSyscallNr] ++ rest) 0 m = exec d rest 0 { m' with a := d.nr } := by
  rw [List.append_assoc,exec_append,h,Outcome.fall_andThen,List.singleton_append,
    exec_cons_of_step_next (step_loadSyscallNr _)]

theorem jumpsWithin_defaultPolicy (hp hb u : Bool) :
    JumpsWithin (resolveLabels (defaultPolicyLabels hp hb u)) := by
  cases hp <;> cases hb <;> cases u <;> decide

theorem retOnlyK_defaultPolicy (hp hb u : Bool) :
    ∀ f ∈ resolveLabels (defaultPolicyLabels hp hb u), f.retOnlyK = true := by
  cases hp <;> cases hb <;> cases u <;> decide

/-! ### Unotify mode -/

/-- What the rewrite of unotify mode makes of a returned value. -/
def notifyKill (v : UInt32) : UInt32 := if v = seccompRetKill then seccompRetUserNotif else v

theorem targets_killToUserNotif (f : SockFilter) : (killToUserNotif f).targets = f.targets := by
  unfold killToUserNotif
  split
  · rename_i h
    have hd : decode (bpfRet + bpfK) = some .retK := by decide
    simp only [doUserNotif,SockFilter.targets,bpfStmt,h.1,hd]
  · rfl

/-- The rewrite turns a returned `KILL` into `USER_NOTIF`, for an instruction that returns only
its constant. -/
theorem step_killToUserNotif {f : SockFilter} (hf : f.retOnlyK = true) (m : Machine) :
    step d (killToUserNotif f) m = (step d f m).mapRet notifyKill := by
  unfold killToUserNotif
  by_cases hk : f.code = bpfRet + bpfK ∧ f.k = seccompRetKill
  · rw [if_pos hk,step_of_code_retK hk.1,hk.2,doUserNotif,step_retK]
    rfl
  · rw [if_neg hk]
    cases hs : step d f m with
    | next m' n => rfl
    | reject => rfl
    | ret v =>
      obtain ⟨hc,rfl⟩ := step_eq_ret hf hs
      have hv : f.k ≠ seccompRetKill := fun h => hk ⟨hc,h⟩
      simp [Effect.mapRet,notifyKill,hv]

theorem isRet_killToUserNotif (f : SockFilter) : (killToUserNotif f).isRet = f.isRet := by
  unfold killToUserNotif
  split
  · rename_i h
    have hd : decode (bpfRet + bpfK) = some .retK := by decide
    simp only [doUserNotif,SockFilter.isRet,bpfStmt,h.1,hd]
  · rfl

theorem WellFormed.map_killToUserNotif {p : List SockFilter} (hp : WellFormed p) :
    WellFormed (p.map killToUserNotif) := by
  have hr : p.getLast?.any SockFilter.isRet = true := hp.2
  refine ⟨hp.1.map targets_killToUserNotif,?_⟩
  rw [List.getLast?_map]
  cases hl : p.getLast? with
  | none => rw [hl] at hr; exact absurd hr (by decide)
  | some f =>
    rw [hl] at hr
    simpa [isRet_killToUserNotif] using hr

theorem exec_killToUserNotif {p : List SockFilter} (hp : ∀ f ∈ p, f.retOnlyK = true) (m : Machine) :
    exec d (p.map killToUserNotif) 0 m = (exec d p 0 m).mapRet notifyKill :=
  exec_map_of_step (fun f hf m => step_killToUserNotif (hp f hf) m) 0 m

end SandboxedApi.Sandbox2
