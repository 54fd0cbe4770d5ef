import SandboxedApi.Sandbox2.Syscall
import SandboxedApi.Status

/-! # `PolicyBuilder::AddPolicyOnSyscalls`

The call copies the policy, checks that no jump of it leaves it (`CheckBpfBounds`), turns a
`TRACE` of a foreign architecture into `SANDBOX2_TRACE`, appends `LOAD_SYSCALL_NR`, and then
prepends one `JEQ` per system call number, last number first, so that each offset is known when
its instruction is written. Offsets of more than 255 instructions do not fit a short jump: the
jump past the policy then becomes a `BPF_JA`, and a helper `BPF_JA` towards the policy is put in
front once the policy is out of reach.

The loop keeps two things true whatever the list: every jump lands inside the fragment or at
its end, and a system call that is not in the list passes the fragment untouched. While no
helper is needed, a listed system call runs the checked policy and leaves with `A` reloaded.
-/
namespace SandboxedApi.Sandbox2
open ClassicBpf

def checkBpfBounds (filter : SockFilter) (maxJmp : Nat) : Bool :=
  if bpfClass filter.code = bpfJmp then
    if bpfOp filter.code = bpfJa then decide (filter.k.toNat ≤ maxJmp)
    else decide (filter.jt.toNat ≤ maxJmp) && decide (filter.jf.toNat ≤ maxJmp)
  else true

/-- The second step of the checking loop: a `TRACE` whose data is not the host architecture is
replaced by `SANDBOX2_TRACE`. -/
def traceToHost (filter : SockFilter) : SockFilter :=
  if filter.code = bpfRet ||| bpfK ∧ filter.k &&& seccompRetAction = seccompRetTrace ∧
      filter.k &&& seccompRetData ≠ Syscall.getHostArch.value then sandbox2Trace
  else filter

/-- The checking loop: instruction `i` of `n` may jump at most `n - i - 1` ahead. -/
def checkPolicy : List SockFilter → Option (List SockFilter)
  | [] => some []
  | filter :: rest =>
    if checkBpfBounds filter rest.length then (checkPolicy rest).map (fun c => traceToHost filter :: c)
    else none

/-- The policies the checking loop accepts. -/
def PassesBounds : List SockFilter → Prop
  | [] => True
  | filter :: rest => checkBpfBounds filter rest.length = true ∧ PassesBounds rest

instance decPassesBounds : (p : List SockFilter) → Decidable (PassesBounds p)
  | [] => isTrue trivial
  | _ :: rest =>
    haveI := decPassesBounds rest
    inferInstanceAs (Decidable (_ ∧ _))

def kMaxShortJump : Nat := 255

/-- The variables of the prepending loop: the deque `out`, `do_policy_loc` and `last`. -/
structure Prepend where
  out : List SockFilter
  doPolicyLoc : Nat
  last : Bool

/-- The `if (last)` block: for the last number of the list, the way past the policy, either
through `jf` or through a `BPF_JA` in front. Returns the new state and `jf`. -/
def Prepend.skipPolicy (st : Prepend) : Prepend × UInt8 :=
  if st.last then
    if st.out.length > kMaxShortJump then
      ({ st with out := bpfStmt (bpfJmp + bpfJa) st.out.length.toUInt32 :: st.out, last := false },0)
    else ({ st with last := false },st.out.length.toUInt8)
  else (st,0)

/-- The helper absolute jump, put in front when the policy or the last helper is out of reach
of a short jump. -/
def Prepend.helperJump (policySize : Nat) (r : Prepend × UInt8) : Prepend × UInt8 :=
  if r.1.out.length - r.1.doPolicyLoc > kMaxShortJump then
    ({ r.1 with
        out := bpfStmt (bpfJmp + bpfJa) (r.1.out.length - policySize).toUInt32 :: r.1.out,
        doPolicyLoc := r.1.out.length + 1 },r.2 + 1)
  else r

def Prepend.jumpOnSyscall (num : UInt32) (r : Prepend × UInt8) : Prepend :=
  { r.1 with
    out := bpfJump (bpfJmp + bpfJeq + bpfK) num (r.1.out.length - r.1.doPolicyLoc).toUInt8 r.2 ::
      r.1.out }

/-- One round of the loop, for the number `num`. -/
def Prepend.prependSyscall (policySize : Nat) (num : UInt32) (st : Prepend) : Prepend :=
  Prepend.jumpOnSyscall num (Prepend.helperJump policySize st.skipPolicy)

/-- The instructions the call appends to `user_policy_`, or the status it sets instead. -/
def addPolicyOnSyscalls (nums : List UInt32) (policy : List SockFilter) :
    Except Status (List SockFilter) :=
  match checkPolicy policy with
  | none => .error (invalidArgumentError "bpf jump out of bounds")
  | some checked =>
    if (checked ++ [loadSyscallNr]).length > 0xffffffff then
      .error (invalidArgumentError "syscall policy is too long")
    else
      .ok (nums.foldr (Prepend.prependSyscall policy.length)
        ⟨checked ++ [loadSyscallNr],(checked ++ [loadSyscallNr]).length,true⟩).out

/-- Where a run of the fragment goes once the policy has run: its verdict, or on past the
fragment with the system call number back in `A`. -/
def reloadNr (d : SeccompData) : Outcome → Outcome
  | .fall m _ => .fall { m with a := d.nr } 0
  | o => o

variable {d : SeccompData}

/-! ### The checked policy -/

theorem targets_le_of_checkBpfBounds {f : SockFilter} {maxJmp : Nat}
    (h : checkBpfBounds f maxJmp = true) : ∀ n ∈ f.targets, n ≤ maxJmp := by
  intro n hn
  unfold SockFilter.targets at hn
  unfold checkBpfBounds at h
  cases hd : decode f.code with
  | none => simp [hd] at hn
  | some i =>
    have hc := code_of_decode hd
    rw [hd] at hn
    cases i with
    | ja =>
      have hcl : bpfClass f.code = bpfJmp ∧ bpfOp f.code = bpfJa := by rw [← hc]; decide
      simp only [hcl,if_true,decide_eq_true_eq] at h
      simp only [List.mem_singleton] at hn
      omega
    | jmp op src =>
      have hcl : bpfClass f.code = bpfJmp ∧ bpfOp f.code ≠ bpfJa := by
        rw [← hc]
        cases op <;> cases src <;> decide
      simp only [hcl,if_true,if_false,Bool.and_eq_true,decide_eq_true_eq] at h
      simp only [List.mem_cons,List.not_mem_nil,or_false] at hn
      omega
    | _ => simp at hn

theorem targets_traceToHost (f : SockFilter) : (traceToHost f).targets = f.targets := by
  unfold traceToHost
  split
  · rename_i h
    have hf : f.targets = [] := by
      simp only [SockFilter.targets,h.1]
      rfl
    rw [hf]
    rfl
  · rfl

theorem checkPolicy_of_passesBounds {p : List SockFilter} (h : PassesBounds p) :
    checkPolicy p = some (p.map traceToHost) := by
  induction p with
  | nil => rfl
  | cons f rest ih => simp [checkPolicy,h.1,ih h.2]

theorem passesBounds_of_checkPolicy {p c : List SockFilter} (h : checkPolicy p = some c) :
    PassesBounds p ∧ c = p.map traceToHost := by
  induction p generalizing c with
  | nil =>
    simp only [checkPolicy,Option.some.injEq] at h
    exact ⟨trivial,h.symm⟩
  | cons f rest ih =>
    unfold checkPolicy at h
    split at h
    · rename_i hf
      obtain ⟨c',hc',rfl⟩ := Option.map_eq_some_iff.mp h
      obtain ⟨hp,rfl⟩ := ih hc'
      exact ⟨⟨hf,hp⟩,rfl⟩
    · cases h

theorem jumpsWithin_traceToHost {p : List SockFilter} (h : PassesBounds p) :
    JumpsWithin (p.map traceToHost) := by
  induction p with
  | nil => trivial
  | cons f rest ih =>
    refine ⟨fun n hn => ?_,ih h.2⟩
    rw [targets_traceToHost] at hn
    rw [List.length_map]
    exact targets_le_of_checkBpfBounds h.1 n hn

theorem step_loadSyscallNr (m : Machine) :
    step d loadSyscallNr m = .next { m with a := d.nr } 0 := by
  have hw : d.word 0 = some d.nr := by simp [SeccompData.word]
  rw [loadSyscallNr,step_ldAbs,hw]

/-- The policy followed by `LOAD_SYSCALL_NR` runs as the policy with `A` reloaded. -/
theorem exec_reload {c : List SockFilter} (hc : JumpsWithin c) (m : Machine) :
    exec d (c ++ [loadSyscallNr]) 0 m = reloadNr d (exec d c 0 m) := by
  rw [exec_append]
  cases he : exec d c 0 m with
  | fall m' s =>
    obtain rfl := hc.fall_skip (Nat.zero_le _) he
    simp only [Outcome.fall_andThen,reloadNr]
    rw [exec_cons_of_step_next (step_loadSyscallNr m')]
    rfl
  | ret v => rfl
  | reject => rfl

/-! ### One round of the loop -/

theorem exec_jeq (num : UInt32) (jt jf : UInt8) (rest : List SockFilter) (m : Machine) :
    exec d (bpfJump (bpfJmp + bpfJeq + bpfK) num jt jf :: rest) 0 m =
      exec d rest (if m.a = num then jt.toNat else jf.toNat) m :=
  exec_cons_of_step_next (step_jeqK num jt jf m) rest

theorem skipPolicy_of_not_last {st : Prepend} (h : st.last = false) : st.skipPolicy = (st,0) := by
  simp [Prepend.skipPolicy,h]

theorem skipPolicy_of_short {st : Prepend} (h : st.last = true) (hs : st.out.length ≤ kMaxShortJump) :
    st.skipPolicy = ({ st with last := false },st.out.length.toUInt8) := by
  simp [Prepend.skipPolicy,h,Nat.not_lt.mpr hs]

theorem skipPolicy_of_long {st : Prepend} (h : st.last = true) (hs : kMaxShortJump < st.out.length) :
    st.skipPolicy =
      ({ st with out := bpfStmt (bpfJmp + bpfJa) st.out.length.toUInt32 :: st.out, last := false },0) := by
  simp [Prepend.skipPolicy,h,hs]

theorem helperJump_of_near {p : Nat} {r : Prepend × UInt8}
    (h : r.1.out.length - r.1.doPolicyLoc ≤ kMaxShortJump) : Prepend.helperJump p r = r := by
  simp [Prepend.helperJump,Nat.not_lt.mpr h]

theorem helperJump_of_far {p : Nat} {r : Prepend × UInt8}
    (h : kMaxShortJump < r.1.out.length - r.1.doPolicyLoc) :
    Prepend.helperJump p r =
      ({ r.1 with
          out := bpfStmt (bpfJmp + bpfJa) (r.1.out.length - p).toUInt32 :: r.1.out,
          doPolicyLoc := r.1.out.length + 1 },r.2 + 1) := by
  simp [Prepend.helperJump,h]

theorem toNat_toUInt8_of_le {n : Nat} (h : n ≤ kMaxShortJump) : n.toUInt8.toNat = n :=
  UInt8.toNat_ofNat_of_lt' (by unfold kMaxShortJump at h; unfold UInt8.size; omega)

theorem toNat_toUInt32_le (n : Nat) : n.toUInt32.toNat ≤ n := by
  rw [Nat.toUInt32,UInt32.toNat_ofNat']
  exact Nat.mod_le _ _

theorem targets_ja (k : UInt32) : (bpfStmt (bpfJmp + bpfJa) k).targets = [k.toNat] := by
  have hc : bpfJmp + bpfJa = Insn.ja.code := by decide
  simp only [SockFilter.targets,bpfStmt,hc,decode_code]

theorem targets_jeq (num : UInt32) (jt jf : UInt8) :
    (bpfJump (bpfJmp + bpfJeq + bpfK) num jt jf).targets = [jt.toNat,jf.toNat] := by
  have hc : bpfJmp + bpfJeq + bpfK = (Insn.jmp .jeq .k).code := by decide
  simp only [SockFilter.targets,bpfJump,hc,decode_code]

theorem prependSyscall_of_near {p : Nat} {num : UInt32} {st : Prepend} (hl : st.last = false)
    (hr : st.out.length - st.doPolicyLoc ≤ kMaxShortJump) :
    Prepend.prependSyscall p num st =
      { st with
        out := bpfJump (bpfJmp + bpfJeq + bpfK) num (st.out.length - st.doPolicyLoc).toUInt8 0 ::
          st.out } := by
  rw [Prepend.prependSyscall,skipPolicy_of_not_last hl,helperJump_of_near hr]
  rfl

theorem prependSyscall_of_far {p : Nat} {num : UInt32} {st : Prepend} (hl : st.last = false)
    (hr : kMaxShortJump < st.out.length - st.doPolicyLoc) :
    Prepend.prependSyscall p num st =
      { st with
        out := bpfJump (bpfJmp + bpfJeq + bpfK) num 0 1 ::
          bpfStmt (bpfJmp + bpfJa) (st.out.length - p).toUInt32 :: st.out,
        doPolicyLoc := st.out.length + 1 } := by
  rw [Prepend.prependSyscall,skipPolicy_of_not_last hl,helperJump_of_far hr]
  simp [Prepend.jumpOnSyscall]

/-! ### The loop invariant -/

/-- What every round of the loop keeps, once the first one has run: `tail` is the checked
policy with its `LOAD_SYSCALL_NR`, `J` the jumps in front of it, and a number not in `nums`
falls through `J` to the end of the fragment. -/
structure Built (tail : List SockFilter) (nums : List UInt32) (J : List SockFilter) (st : Prepend) :
    Prop where
  out : st.out = J ++ tail
  last : st.last = false
  within : JumpsWithin st.out
  loc_ge : tail.length ≤ st.doPolicyLoc
  loc_le : st.doPolicyLoc ≤ st.out.length
  reach : st.out.length - st.doPolicyLoc ≤ kMaxShortJump + 1
  miss : ∀ (d : SeccompData) (m : Machine), m.a ∉ nums → exec d J 0 m = .fall m tail.length

/-- While no helper has been needed, a listed number reaches the policy, right after `J`. -/
structure BuiltShort (tail : List SockFilter) (nums : List UInt32) (J : List SockFilter)
    (st : Prepend) : Prop where
  built : Built tail nums J st
  loc : st.doPolicyLoc = tail.length
  length : J.length = nums.length + if kMaxShortJump < tail.length then 1 else 0
  hit : ∀ (d : SeccompData) (m : Machine), m.a ∈ nums → exec d J 0 m = .fall m 0

theorem shortBuilt_first (p : Nat) {tail : List SockFilter} (ht : JumpsWithin tail)
    (hlen : tail.length ≤ 0xffffffff) (num : UInt32) :
    ∃ J, BuiltShort tail [num] J (Prepend.prependSyscall p num ⟨tail,tail.length,true⟩) := by
  by_cases hs : tail.length ≤ kMaxShortJump
  · -- the jump past the policy fits `jf`
    have hst : Prepend.prependSyscall p num ⟨tail,tail.length,true⟩ =
        ⟨bpfJump (bpfJmp + bpfJeq + bpfK) num 0 tail.length.toUInt8 :: tail,tail.length,false⟩ := by
      rw [Prepend.prependSyscall,skipPolicy_of_short rfl hs,helperJump_of_near (by simp)]
      simp [Prepend.jumpOnSyscall]
    have hjf := toNat_toUInt8_of_le hs
    rw [hst]
    refine ⟨[bpfJump (bpfJmp + bpfJeq + bpfK) num 0 tail.length.toUInt8],⟨⟨rfl,rfl,?_,Nat.le_refl _,
      by simp,by simp [kMaxShortJump],fun d m hm => ?_⟩,rfl,by simp [Nat.not_lt.mpr hs],
      fun d m hm => ?_⟩⟩
    · refine ⟨fun n hn => ?_,ht⟩
      rw [targets_jeq] at hn
      simp only [List.mem_cons,List.not_mem_nil,or_false] at hn
      rcases hn with rfl | rfl <;> simp [hjf]
    · have hne : m.a ≠ num := by simpa using hm
      rw [exec_jeq,if_neg hne,hjf]
      simp
    · have heq : m.a = num := by simpa using hm
      rw [exec_jeq,if_pos heq]
      simp
  · -- the jump past the policy is a `BPF_JA` in front of it
    have hs' : kMaxShortJump < tail.length := Nat.lt_of_not_le hs
    have hst : Prepend.prependSyscall p num ⟨tail,tail.length,true⟩ =
        ⟨bpfJump (bpfJmp + bpfJeq + bpfK) num 1 0 ::
          bpfStmt (bpfJmp + bpfJa) tail.length.toUInt32 :: tail,tail.length,false⟩ := by
      rw [Prepend.prependSyscall,skipPolicy_of_long rfl hs',helperJump_of_near (by simp [kMaxShortJump])]
      simp [Prepend.jumpOnSyscall]
    have hk : tail.length.toUInt32.toNat = tail.length :=
      UInt32.toNat_ofNat_of_lt' (by unfold UInt32.size; omega)
    rw [hst]
    refine ⟨[bpfJump (bpfJmp + bpfJeq + bpfK) num 1 0,bpfStmt (bpfJmp + bpfJa) tail.length.toUInt32],
      ⟨⟨rfl,rfl,?_,Nat.le_refl _,by simp only [List.length_cons]; omega,
        by simp only [List.length_cons]; unfold kMaxShortJump; omega,fun d m hm => ?_⟩,rfl,
        by simp [hs'],fun d m hm => ?_⟩⟩
    · refine ⟨fun n hn => ?_,fun n hn => ?_,ht⟩
      · rw [targets_jeq] at hn
        simp only [List.mem_cons,List.not_mem_nil,or_false] at hn
        rcases hn with rfl | rfl <;> simp
      · rw [targets_ja,hk,List.mem_singleton] at hn
        omega
    · have hne : m.a ≠ num := by simpa using hm
      rw [exec_jeq,if_neg hne,UInt8.toNat_zero,exec_cons_of_step_next (step_ja _ m),hk]
      simp
    · have heq : m.a = num := by simpa using hm
      rw [exec_jeq,if_pos heq]
      simp

theorem Built.near {tail : List SockFilter} {nums : List UInt32} {J : List SockFilter}
    {st : Prepend} (h : Built tail nums J st) (num : UInt32)
    (hr : st.out.length - st.doPolicyLoc ≤ kMaxShortJump) :
    Built tail (num :: nums)
      (bpfJump (bpfJmp + bpfJeq + bpfK) num (st.out.length - st.doPolicyLoc).toUInt8 0 :: J)
      { st with
        out := bpfJump (bpfJmp + bpfJeq + bpfK) num (st.out.length - st.doPolicyLoc).toUInt8 0 ::
          st.out } := by
  have hjt := toNat_toUInt8_of_le hr
  refine ⟨by rw [h.out]; rfl,h.last,⟨fun n hn => ?_,h.within⟩,h.loc_ge,?_,?_,fun d m hm => ?_⟩
  · rw [targets_jeq,hjt] at hn
    simp only [List.mem_cons,List.not_mem_nil,or_false] at hn
    rcases hn with rfl | rfl <;> simp
  · simp only [List.length_cons]
    have := h.loc_le
    omega
  · simp only [List.length_cons]
    have := h.loc_le
    unfold kMaxShortJump at hr ⊢
    omega
  · have hne : m.a ≠ num := fun he => hm (he ▸ List.mem_cons_self)
    rw [exec_jeq,if_neg hne]
    exact h.miss d m (fun hn => hm (List.mem_cons_of_mem _ hn))

theorem Built.far {p : Nat} {tail : List SockFilter} {nums : List UInt32} {J : List SockFilter}
    {st : Prepend} (h : Built tail nums J st) (num : UInt32) :
    Built tail (num :: nums)
      (bpfJump (bpfJmp + bpfJeq + bpfK) num 0 1 ::
        bpfStmt (bpfJmp + bpfJa) (st.out.length - p).toUInt32 :: J)
      { st with
        out := bpfJump (bpfJmp + bpfJeq + bpfK) num 0 1 ::
          bpfStmt (bpfJmp + bpfJa) (st.out.length - p).toUInt32 :: st.out,
        doPolicyLoc := st.out.length + 1 } := by
  have hge := h.loc_ge
  have hle := h.loc_le
  refine ⟨by rw [h.out]; rfl,h.last,⟨fun n hn => ?_,fun n hn => ?_,h.within⟩,?_,?_,?_,
    fun d m hm => ?_⟩
  · rw [targets_jeq] at hn
    simp only [List.mem_cons,List.not_mem_nil,or_false] at hn
    rcases hn with rfl | rfl <;> simp
  · rw [targets_ja,List.mem_singleton] at hn
    rw [hn]
    exact Nat.le_trans (toNat_toUInt32_le _) (Nat.sub_le _ _)
  · simp only
    omega
  · simp
  · simp [kMaxShortJump]
  · have hne : m.a ≠ num := fun he => hm (he ▸ List.mem_cons_self)
    rw [exec_jeq,if_neg hne]
    simp only [UInt8.toNat_one,exec_cons_succ]
    exact h.miss d m (fun hn => hm (List.mem_cons_of_mem _ hn))

theorem Built.step {p : Nat} {tail : List SockFilter} {nums : List UInt32} {J : List SockFilter}
    {st : Prepend} (h : Built tail nums J st) (num : UInt32) :
    ∃ J', Built tail (num :: nums) J' (Prepend.prependSyscall p num st) := by
  by_cases hr : st.out.length - st.doPolicyLoc ≤ kMaxShortJump
  · rw [prependSyscall_of_near h.last hr]
    exact ⟨_,h.near num hr⟩
  · rw [prependSyscall_of_far h.last (Nat.lt_of_not_le hr)]
    exact ⟨_,h.far num⟩

theorem BuiltShort.step {p : Nat} {tail : List SockFilter} {nums : List UInt32}
    {J : List SockFilter} {st : Prepend} (h : BuiltShort tail nums J st) (num : UInt32)
    (hJ : J.length ≤ kMaxShortJump) :
    ∃ J', BuiltShort tail (num :: nums) J' (Prepend.prependSyscall p num st) := by
  have hr : st.out.length - st.doPolicyLoc = J.length := by
    rw [h.built.out,h.loc,List.length_append]
    omega
  rw [prependSyscall_of_near h.built.last (hr ▸ hJ)]
  refine ⟨_,h.built.near num (hr ▸ hJ),h.loc,?_,fun d m hm => ?_⟩
  · rw [List.length_cons,h.length,List.length_cons]
    omega
  · rw [exec_jeq]
    by_cases heq : m.a = num
    · rw [if_pos heq,hr,toNat_toUInt8_of_le hJ,exec_of_length_le J (Nat.le_refl _),Nat.sub_self]
    · rw [if_neg heq]
      exact h.hit d m (by simpa [heq] using hm)

theorem built_foldr (p : Nat) {tail : List SockFilter} (ht : JumpsWithin tail)
    (hlen : tail.length ≤ 0xffffffff) :
    ∀ nums : List UInt32, nums ≠ [] →
      ∃ J, Built tail nums J (nums.foldr (Prepend.prependSyscall p) ⟨tail,tail.length,true⟩)
  | [], hn => absurd rfl hn
  | [num], _ => (shortBuilt_first p ht hlen num).elim fun J h => ⟨J,h.built⟩
  | num :: num' :: rest, _ => by
    obtain ⟨J,hJ⟩ := built_foldr p ht hlen (num' :: rest) (List.cons_ne_nil _ _)
    exact hJ.step num

theorem builtShort_foldr (p : Nat) {tail : List SockFilter} (ht : JumpsWithin tail)
    (hlen : tail.length ≤ 0xffffffff) :
    ∀ nums : List UInt32, nums ≠ [] →
      nums.length + (if kMaxShortJump < tail.length then 1 else 0) ≤ kMaxShortJump + 1 →
      ∃ J, BuiltShort tail nums J (nums.foldr (Prepend.prependSyscall p) ⟨tail,tail.length,true⟩)
  | [], hn, _ => absurd rfl hn
  | [num], _, _ => shortBuilt_first p ht hlen num
  | num :: num' :: rest, _, hs => by
    have hs' : (num' :: rest).length + (if kMaxShortJump < tail.length then 1 else 0) ≤
        kMaxShortJump + 1 := by
      simp only [List.length_cons] at hs ⊢
      omega
    obtain ⟨J,hJ⟩ := builtShort_foldr p ht hlen (num' :: rest) (List.cons_ne_nil _ _) hs'
    have hlenJ : J.length ≤ kMaxShortJump := by
      rw [hJ.length]
      simp only [List.length_cons] at hs ⊢
      omega
    exact hJ.step num hlenJ

/-! ### The fragment -/

theorem targets_loadSyscallNr : loadSyscallNr.targets = [] := by decide

theorem jumpsWithin_tail {policy : List SockFilter} (hp : PassesBounds policy) :
    JumpsWithin (policy.map traceToHost ++ [loadSyscallNr]) :=
  (jumpsWithin_traceToHost hp).append
    ⟨fun _ hn => absurd (targets_loadSyscallNr ▸ hn) List.not_mem_nil,trivial⟩

theorem addPolicyOnSyscalls_of_passesBounds {policy : List SockFilter} (hp : PassesBounds policy)
    (hlen : policy.length < 0xffffffff) (nums : List UInt32) :
    addPolicyOnSyscalls nums policy =
      .ok (nums.foldr (Prepend.prependSyscall policy.length)
        ⟨policy.map traceToHost ++ [loadSyscallNr],
          (policy.map traceToHost ++ [loadSyscallNr]).length,true⟩).out := by
  have hl : ¬(policy.map traceToHost ++ [loadSyscallNr]).length > 0xffffffff := by
    simp only [List.length_append,List.length_map,List.length_singleton]
    omega
  simp only [addPolicyOnSyscalls,checkPolicy_of_passesBounds hp,hl,if_false]

theorem addPolicyOnSyscalls_ok {nums : List UInt32} {policy F : List SockFilter}
    (h : addPolicyOnSyscalls nums policy = .ok F) :
    PassesBounds policy ∧ policy.length < 0xffffffff ∧
      F = (nums.foldr (Prepend.prependSyscall policy.length)
        ⟨policy.map traceToHost ++ [loadSyscallNr],
          (policy.map traceToHost ++ [loadSyscallNr]).length,true⟩).out := by
  unfold addPolicyOnSyscalls at h
  cases hc : checkPolicy policy with
  | none => simp [hc] at h
  | some c =>
    obtain ⟨hp,rfl⟩ := passesBounds_of_checkPolicy hc
    simp only [hc] at h
    split at h
    · cases h
    · rename_i hl
      simp only [List.length_append,List.length_map,List.length_singleton] at hl
      exact ⟨hp,by omega,(Except.ok.inj h).symm⟩

/-- The jumps of every appended fragment land inside it or at its end. -/
theorem addPolicyOnSyscalls_jumpsWithin {nums : List UInt32} {policy F : List SockFilter}
    (h : addPolicyOnSyscalls nums policy = .ok F) : JumpsWithin F := by
  obtain ⟨hp,hlen,rfl⟩ := addPolicyOnSyscalls_ok h
  have hl : (policy.map traceToHost ++ [loadSyscallNr]).length ≤ 0xffffffff := by simp; omega
  cases nums with
  | nil => exact jumpsWithin_tail hp
  | cons num rest =>
    obtain ⟨J,hJ⟩ := built_foldr policy.length (jumpsWithin_tail hp) hl (num :: rest)
      (List.cons_ne_nil _ _)
    exact hJ.within

/-- A system call that is not in a nonempty list passes the fragment with the machine as it
was. -/
theorem addPolicyOnSyscalls_miss {nums : List UInt32} {policy F : List SockFilter}
    (h : addPolicyOnSyscalls nums policy = .ok F) (hn : nums ≠ []) (m : Machine)
    (hm : m.a ∉ nums) : exec d F 0 m = .fall m 0 := by
  obtain ⟨hp,hlen,rfl⟩ := addPolicyOnSyscalls_ok h
  have hl : (policy.map traceToHost ++ [loadSyscallNr]).length ≤ 0xffffffff := by simp; omega
  obtain ⟨J,hJ⟩ := built_foldr policy.length (jumpsWithin_tail hp) hl nums hn
  rw [hJ.out,exec_append,hJ.miss d m hm,Outcome.fall_andThen,exec_of_length_le _ (Nat.le_refl _),
    Nat.sub_self]

/-! ### What the fragment can return -/

theorem retOnlyK_ja (k : UInt32) : (bpfStmt (bpfJmp + bpfJa) k).retOnlyK = true := rfl

theorem retOnlyK_jeq (num : UInt32) (jt jf : UInt8) :
    (bpfJump (bpfJmp + bpfJeq + bpfK) num jt jf).retOnlyK = true := rfl

theorem retOnlyK_traceToHost {f : SockFilter} (hf : f.retOnlyK = true) :
    (traceToHost f).retOnlyK = true := by
  unfold traceToHost
  split
  · rfl
  · exact hf

theorem prependSyscall_out (p : Nat) (num : UInt32) (st : Prepend) :
    ∃ J, (Prepend.prependSyscall p num st).out = J ++ st.out ∧ ∀ f ∈ J, f.retOnlyK = true := by
  -- each of the three steps puts at most one jump in front
  have h1 : ∃ J, st.skipPolicy.1.out = J ++ st.out ∧ ∀ f ∈ J, f.retOnlyK = true := by
    unfold Prepend.skipPolicy
    split
    · split
      · exact ⟨[_],rfl,by simp [retOnlyK_ja]⟩
      · exact ⟨[],rfl,by simp⟩
    · exact ⟨[],rfl,by simp⟩
  have h2 : ∀ r : Prepend × UInt8, ∃ J, (Prepend.helperJump p r).1.out = J ++ r.1.out ∧
      ∀ f ∈ J, f.retOnlyK = true := by
    intro r
    unfold Prepend.helperJump
    split
    · exact ⟨[_],rfl,by simp [retOnlyK_ja]⟩
    · exact ⟨[],rfl,by simp⟩
  obtain ⟨J1,hJ1,hr1⟩ := h1
  obtain ⟨J2,hJ2,hr2⟩ := h2 st.skipPolicy
  let r := Prepend.helperJump p st.skipPolicy
  refine ⟨bpfJump (bpfJmp + bpfJeq + bpfK) num (r.1.out.length - r.1.doPolicyLoc).toUInt8 r.2 ::
    (J2 ++ J1),?_,?_⟩
  · show _ :: r.1.out = _
    rw [List.cons_append]
    congr 1
    rw [hJ2,hJ1,List.append_assoc]
  · intro f hf
    simp only [List.mem_cons,List.mem_append] at hf
    rcases hf with rfl | hf | hf
    · exact retOnlyK_jeq _ _ _
    · exact hr2 f hf
    · exact hr1 f hf

theorem foldr_prependSyscall_out (p : Nat) (st : Prepend) (nums : List UInt32) :
    ∃ J, (nums.foldr (Prepend.prependSyscall p) st).out = J ++ st.out ∧
      ∀ f ∈ J, f.retOnlyK = true := by
  induction nums with
  | nil => exact ⟨[],rfl,by simp⟩
  | cons num rest ih =>
    obtain ⟨J,hJ,hr⟩ := ih
    obtain ⟨J',hJ',hr'⟩ := prependSyscall_out p num (rest.foldr (Prepend.prependSyscall p) st)
    refine ⟨J' ++ J,?_,?_⟩
    · rw [List.foldr_cons,hJ',hJ,List.append_assoc]
    · intro f hf
      rcases List.mem_append.mp hf with hf | hf
      · exact hr' f hf
      · exact hr f hf

theorem addPolicyOnSyscalls_retOnlyK {nums : List UInt32} {policy F : List SockFilter}
    (h : addPolicyOnSyscalls nums policy = .ok F) (hp : ∀ f ∈ policy, f.retOnlyK = true) :
    ∀ f ∈ F, f.retOnlyK = true := by
  obtain ⟨-,-,rfl⟩ := addPolicyOnSyscalls_ok h
  obtain ⟨J,hJ,hr⟩ := foldr_prependSyscall_out policy.length
    ⟨policy.map traceToHost ++ [loadSyscallNr],(policy.map traceToHost ++ [loadSyscallNr]).length,
      true⟩ nums
  intro f hf
  rw [hJ] at hf
  simp only [List.mem_append,List.mem_map,List.mem_singleton] at hf
  rcases hf with hf | ⟨g,hg,rfl⟩ | rfl
  · exact hr f hf
  · exact retOnlyK_traceToHost (hp g hg)
  · rfl

/-- While no helper jump is needed, a listed system call runs the policy, with foreign `TRACE`s
turned into `SANDBOX2_TRACE`, and leaves with its number back in `A`. -/
theorem addPolicyOnSyscalls_hit {nums : List UInt32} {policy F : List SockFilter}
    (h : addPolicyOnSyscalls nums policy = .ok F) (hn : nums ≠ [])
    (hshort : nums.length + (if kMaxShortJump < policy.length + 1 then 1 else 0) ≤ 256)
    (m : Machine) (ha : m.a = d.nr) (hm : d.nr ∈ nums) :
    exec d F 0 m = reloadNr d (exec d (policy.map traceToHost) 0 m) := by
  obtain ⟨hp,hlen,rfl⟩ := addPolicyOnSyscalls_ok h
  have hl : (policy.map traceToHost ++ [loadSyscallNr]).length ≤ 0xffffffff := by simp; omega
  have hs : nums.length + (if kMaxShortJump < (policy.map traceToHost ++ [loadSyscallNr]).length
      then 1 else 0) ≤ kMaxShortJump + 1 := by
    rw [List.length_append,List.length_map,List.length_singleton]
    exact hshort
  -- a listed number lands on the first instruction of the policy
  obtain ⟨J,hJ⟩ := builtShort_foldr policy.length (jumpsWithin_tail hp) hl nums hn hs
  rw [hJ.built.out,exec_append,hJ.hit d m (ha ▸ hm),Outcome.fall_andThen,
    exec_reload (jumpsWithin_traceToHost hp)]

/-- `AddPolicyOnSyscalls(nums, P)` on a nonempty list and a policy that passes the bounds
check: the call succeeds, every jump of the fragment stays within it, a system call entering
with its number in `A` passes the fragment untouched when the number is not in the list, and,
when the list is short enough that no helper jump is needed, runs `P` with foreign `TRACE`s
turned into `SANDBOX2_TRACE` when it is. -/
theorem addPolicyOnSyscalls_fragment {nums : List UInt32} {policy : List SockFilter}
    (hn : nums ≠ []) (hp : PassesBounds policy) (hlen : policy.length < 0xffffffff) :
    ∃ F, addPolicyOnSyscalls nums policy = .ok F ∧ JumpsWithin F ∧
      (∀ (d : SeccompData) (m : Machine), m.a = d.nr → d.nr ∉ nums → exec d F 0 m = .fall m 0) ∧
      (nums.length + (if kMaxShortJump < policy.length + 1 then 1 else 0) ≤ 256 →
        ∀ (d : SeccompData) (m : Machine), m.a = d.nr → d.nr ∈ nums →
          exec d F 0 m = reloadNr d (exec d (policy.map traceToHost) 0 m)) := by
  have hok := addPolicyOnSyscalls_of_passesBounds hp hlen nums
  exact ⟨_,hok,addPolicyOnSyscalls_jumpsWithin hok,
    fun d m ha hm => addPolicyOnSyscalls_miss hok hn m (ha ▸ hm),
    fun hshort d m ha hm => addPolicyOnSyscalls_hit hok hn hshort m ha hm⟩

/-- On an empty list no jump is put in front: the fragment is the checked policy followed by
`LOAD_SYSCALL_NR`, so the policy runs on every system call. -/
theorem addPolicyOnSyscalls_nil {policy : List SockFilter} (hp : PassesBounds policy)
    (hlen : policy.length < 0xffffffff) (m : Machine) :
    ∃ F, addPolicyOnSyscalls [] policy = .ok F ∧
      exec d F 0 m = reloadNr d (exec d (policy.map traceToHost) 0 m) :=
  ⟨_,addPolicyOnSyscalls_of_passesBounds hp hlen [],exec_reload (jumpsWithin_traceToHost hp) m⟩

/-- The fragment does not run `P` on exactly the listed system calls. On an empty list the
policy `ALLOW` allows system call 7. For the 257 numbers 0 to 256 the helper jump lands one past
the policy's first instruction, so number 0 falls through the fragment, where `ALLOW` alone
allows it. -/
theorem addPolicyOnSyscalls_misroutes :
    ((addPolicyOnSyscalls [] [allow]).toOption.map fun F =>
        (exec ⟨7,auditArchX8664,0,fun _ => 0⟩ F 0 ⟨7,0,fun _ => 0⟩).verdict) =
      some (some seccompRetAllow) ∧
    ((addPolicyOnSyscalls ((List.range 257).map Nat.toUInt32) [allow]).toOption.map fun F =>
        (exec ⟨0,auditArchX8664,0,fun _ => 0⟩ F 0 Machine.init).verdict) = some none ∧
    (exec ⟨0,auditArchX8664,0,fun _ => 0⟩ [allow] 0 Machine.init).verdict = some seccompRetAllow :=
  ⟨by decide,by decide +kernel,by decide⟩

end SandboxedApi.Sandbox2
