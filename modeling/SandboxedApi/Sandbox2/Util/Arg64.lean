import SandboxedApi.Sandbox2.Util.BpfHelper
import SandboxedApi.ClassicBpf.Word64

/-! # 64-bit argument checks

On a 64-bit host `ARG(i)` is `ARG_64(i)`: the low word of the argument goes to `M[0]`, the high
word to `M[1]` and `A`. Each `JXX64(lo, hi, jt)` then compares the high words first and only
looks at the low words when they are equal, loading the low word into `A` for that and `M[1]`
back into `A` on every way out, so that the next block starts from the same machine. The
continuation `jt` is one instruction, and control reaches it with that machine too.
-/
namespace SandboxedApi.Sandbox2
open ClassicBpf

variable {d : SeccompData}

/-- `BPF_STMT(BPF_LD+BPF_MEM, k)`. -/
def ldMem (k : UInt32) : SockFilter := bpfStmt (bpfLd + bpfMem) k

def jmpK (op : JmpOp) (v : UInt32) (jt jf : UInt8) : SockFilter := bpfJump (bpfJmp + op.code + bpfK) v jt jf

def arg64 (idx : UInt32) : List SockFilter :=
  [bpfStmt (bpfLd + bpfW + bpfAbs) (loArg idx),bpfStmt bpfSt 0,
    bpfStmt (bpfLd + bpfW + bpfAbs) (hiArg idx),bpfStmt bpfSt 1]

def jeq64 (lo hi : UInt32) (jt : SockFilter) : List SockFilter :=
  [jmpK .jeq hi 0 5,ldMem 0,jmpK .jeq lo 0 2,ldMem 1,jt,ldMem 1]

def jne64 (lo hi : UInt32) (jt : SockFilter) : List SockFilter :=
  [jmpK .jeq hi 0 3,ldMem 0,jmpK .jeq lo 2 0,ldMem 1,jt,ldMem 1]

def ja64 (lo hi : UInt32) (jt : SockFilter) : List SockFilter :=
  [jmpK .jset hi 3 0,ldMem 0,jmpK .jset lo 0 2,ldMem 1,jt,ldMem 1]

def jge64 (lo hi : UInt32) (jt : SockFilter) : List SockFilter :=
  [jmpK .jgt hi 4 0,jmpK .jeq hi 0 5,ldMem 0,jmpK .jge lo 0 2,ldMem 1,jt,ldMem 1]

def jgt64 (lo hi : UInt32) (jt : SockFilter) : List SockFilter :=
  [jmpK .jgt hi 4 0,jmpK .jeq hi 0 5,ldMem 0,jmpK .jgt lo 0 2,ldMem 1,jt,ldMem 1]

def jle64 (lo hi : UInt32) (jt : SockFilter) : List SockFilter :=
  [jmpK .jge hi 0 4,jmpK .jeq hi 0 5,ldMem 0,jmpK .jgt lo 2 0,ldMem 1,jt,ldMem 1]

def jlt64 (lo hi : UInt32) (jt : SockFilter) : List SockFilter :=
  [jmpK .jge hi 0 4,jmpK .jeq hi 0 5,ldMem 0,jmpK .jge lo 2 0,ldMem 1,jt,ldMem 1]

/-- The 64-bit comparisons, each with the block `JEQ(x, jt)`, `JNE(x, jt)`... expands to on a
64-bit little-endian host and the relation of the argument `v` to `x` it stands for. -/
inductive Cmp64 where
  | eq | ne | gt | ge | lt | le | set
  deriving DecidableEq, Repr

def Cmp64.block : Cmp64 → UInt64 → SockFilter → List SockFilter
  | .eq, x, jt => jeq64 (lo32 x) (hi32 x) jt
  | .ne, x, jt => jne64 (lo32 x) (hi32 x) jt
  | .gt, x, jt => jgt64 (lo32 x) (hi32 x) jt
  | .ge, x, jt => jge64 (lo32 x) (hi32 x) jt
  | .lt, x, jt => jlt64 (lo32 x) (hi32 x) jt
  | .le, x, jt => jle64 (lo32 x) (hi32 x) jt
  | .set, x, jt => ja64 (lo32 x) (hi32 x) jt

def Cmp64.Holds : Cmp64 → UInt64 → UInt64 → Prop
  | .eq, v, x => v = x
  | .ne, v, x => v ≠ x
  | .gt, v, x => x < v
  | .ge, v, x => x ≤ v
  | .lt, v, x => v < x
  | .le, v, x => v ≤ x
  | .set, v, x => v &&& x ≠ 0

instance (c : Cmp64) (v x : UInt64) : Decidable (c.Holds v x) :=
  match c with
  | .eq => inferInstanceAs (Decidable (v = x))
  | .ne => inferInstanceAs (Decidable (v ≠ x))
  | .gt => inferInstanceAs (Decidable (x < v))
  | .ge => inferInstanceAs (Decidable (x ≤ v))
  | .lt => inferInstanceAs (Decidable (v < x))
  | .le => inferInstanceAs (Decidable (v ≤ x))
  | .set => inferInstanceAs (Decidable (v &&& x ≠ 0))

/-- The machine `ARG_64` leaves: the low word in `M[0]`, the high word in `M[1]` and `A`. -/
structure Arg64Loaded (m : Machine) (v : UInt64) : Prop where
  lo : m.mem 0 = lo32 v
  hi : m.mem 1 = hi32 v
  a : m.a = hi32 v

/-- The machine after `ARG_64` has loaded `v`. -/
def loadArg64 (m : Machine) (v : UInt64) : Machine :=
  { m with a := hi32 v, mem := Function.update (Function.update m.mem 0 (lo32 v)) 1 (hi32 v) }

theorem arg64Loaded_loadArg64 (m : Machine) (v : UInt64) : Arg64Loaded (loadArg64 m v) v :=
  ⟨by simp [loadArg64],by simp [loadArg64],rfl⟩

theorem word_loArg (i : Fin 6) : d.word (loArg (UInt32.ofNat i)) = some (lo32 (d.args i)) := by
  fin_cases i <;> rfl

theorem word_hiArg (i : Fin 6) : d.word (hiArg (UInt32.ofNat i)) = some (hi32 (d.args i)) := by
  fin_cases i <;> rfl

theorem exec_arg64 (i : Fin 6) (rest : List SockFilter) (m : Machine) :
    exec d (arg64 (UInt32.ofNat i) ++ rest) 0 m = exec d rest 0 (loadArg64 m (d.args i)) := by
  have h0 : (0 : UInt32) < 16 := by decide
  have h1 : (1 : UInt32) < 16 := by decide
  simp only [arg64,List.cons_append,List.nil_append]
  rw [exec_ldAbs_cons (word_loArg i),exec_st_cons h0,exec_ldAbs_cons (word_hiArg i),exec_st_cons h1]
  rfl

/-! ### The low-word stage every block ends with -/

section LowStage

variable {m : Machine} {v : UInt64}

theorem Arg64Loaded.restore (h : Arg64Loaded m v) (w : UInt32) :
    { { m with a := w } with a := m.mem 1 } = m := by
  rw [h.hi,← h.a]

theorem exec_lowStage_match (hm : Arg64Loaded m v) (op : JmpOp) (lo : UInt32) (jt : SockFilter)
    (rest : List SockFilter) :
    exec d (ldMem 0 :: jmpK op lo 0 2 :: ldMem 1 :: jt :: ldMem 1 :: rest) 0 m =
      if op.holds (lo32 v) lo then exec d (jt :: ldMem 1 :: rest) 0 m else exec d rest 0 m := by
  have h0 : (0 : UInt32) < 16 := by decide
  have h1 : (1 : UInt32) < 16 := by decide
  unfold ldMem jmpK
  rw [exec_ldMem_cons h0,exec_jmpK_cons,slot_zero,hm.lo]
  by_cases hc : op.holds (lo32 v) lo
  · simp only [hc,if_true,UInt8.reduceToNat]
    rw [exec_ldMem_cons h1,slot_one,hm.restore]
  · simp only [hc,Bool.false_eq_true,if_false,UInt8.reduceToNat,exec_cons_succ]
    rw [exec_ldMem_cons h1,slot_one,hm.restore]

theorem exec_lowStage_miss (hm : Arg64Loaded m v) (op : JmpOp) (lo : UInt32) (jt : SockFilter)
    (rest : List SockFilter) :
    exec d (ldMem 0 :: jmpK op lo 2 0 :: ldMem 1 :: jt :: ldMem 1 :: rest) 0 m =
      if op.holds (lo32 v) lo then exec d rest 0 m else exec d (jt :: ldMem 1 :: rest) 0 m := by
  have h0 : (0 : UInt32) < 16 := by decide
  have h1 : (1 : UInt32) < 16 := by decide
  unfold ldMem jmpK
  rw [exec_ldMem_cons h0,exec_jmpK_cons,slot_zero,hm.lo]
  by_cases hc : op.holds (lo32 v) lo
  · simp only [hc,if_true,UInt8.reduceToNat,exec_cons_succ]
    rw [exec_ldMem_cons h1,slot_one,hm.restore]
  · simp only [hc,Bool.false_eq_true,if_false,UInt8.reduceToNat]
    rw [exec_ldMem_cons h1,slot_one,hm.restore]

end LowStage

/-! ### The blocks -/

section Blocks

variable {m : Machine} {v : UInt64} (x : UInt64) (jt : SockFilter) (rest : List SockFilter)

theorem exec_jeq64 (hm : Arg64Loaded m v) :
    exec d (jeq64 (lo32 x) (hi32 x) jt ++ rest) 0 m =
      if v = x then exec d (jt :: ldMem 1 :: rest) 0 m else exec d rest 0 m := by
  simp only [jeq64,List.cons_append,List.nil_append]
  rw [jmpK,exec_jmpK_cons]
  by_cases hh : hi32 v = hi32 x
  · simp only [JmpOp.holds,hm.a,hh,beq_self_eq_true,if_true,UInt8.reduceToNat]
    rw [exec_lowStage_match hm]
    simp only [JmpOp.holds,beq_iff_eq,eq_iff_halves (v := v),hh,true_and]
  · have hne : ¬ v = x := fun he => hh (eq_iff_halves.mp he).1
    simp only [JmpOp.holds,hm.a,beq_iff_eq,hh,if_false,UInt8.reduceToNat,exec_cons_succ,
      if_neg hne]

theorem exec_jne64 (hm : Arg64Loaded m v) :
    exec d (jne64 (lo32 x) (hi32 x) jt ++ rest) 0 m =
      if v ≠ x then exec d (jt :: ldMem 1 :: rest) 0 m else exec d rest 0 m := by
  simp only [jne64,List.cons_append,List.nil_append]
  rw [jmpK,exec_jmpK_cons]
  by_cases hh : hi32 v = hi32 x
  · simp only [JmpOp.holds,hm.a,hh,beq_self_eq_true,if_true,UInt8.reduceToNat]
    rw [exec_lowStage_miss hm]
    by_cases hl : lo32 v = lo32 x
    · have he : v = x := eq_iff_halves.mpr ⟨hh,hl⟩
      simp [JmpOp.holds,he]
    · have hne : v ≠ x := fun he => hl (eq_iff_halves.mp he).2
      simp [JmpOp.holds,hl,hne]
  · -- the high words differ: straight to `jt`
    have hne : v ≠ x := fun he => hh (eq_iff_halves.mp he).1
    simp [JmpOp.holds,hm.a,hh,hne]

theorem exec_ja64 (hm : Arg64Loaded m v) :
    exec d (ja64 (lo32 x) (hi32 x) jt ++ rest) 0 m =
      if v &&& x ≠ 0 then exec d (jt :: ldMem 1 :: rest) 0 m else exec d rest 0 m := by
  simp only [ja64,List.cons_append,List.nil_append]
  rw [jmpK,exec_jmpK_cons]
  by_cases hh : hi32 v &&& hi32 x ≠ 0
  · have hs : v &&& x ≠ 0 := and_ne_zero_iff_halves.mpr (.inl hh)
    simp [JmpOp.holds,hm.a,hh,hs]
  · simp only [JmpOp.holds,hm.a,hh,bne_iff_ne,ne_eq,if_false,UInt8.reduceToNat]
    rw [exec_lowStage_match hm]
    simp only [JmpOp.holds,bne_iff_ne,ne_eq,and_ne_zero_iff_halves (v := v),hh,false_or]

theorem exec_jge64 (hm : Arg64Loaded m v) :
    exec d (jge64 (lo32 x) (hi32 x) jt ++ rest) 0 m =
      if x ≤ v then exec d (jt :: ldMem 1 :: rest) 0 m else exec d rest 0 m := by
  simp only [jge64,List.cons_append,List.nil_append]
  rw [jmpK,exec_jmpK_cons]
  by_cases hg : hi32 x < hi32 v
  · have hle : x ≤ v := le_iff_halves.mpr (.inl hg)
    simp [JmpOp.holds,hm.a,hg,hle]
  · simp only [JmpOp.holds,hm.a,hg,decide_false,Bool.false_eq_true,if_false,UInt8.reduceToNat]
    rw [jmpK,exec_jmpK_cons]
    by_cases hh : hi32 v = hi32 x
    · simp only [JmpOp.holds,hm.a,hh,beq_self_eq_true,if_true,UInt8.reduceToNat]
      rw [exec_lowStage_match hm]
      simp only [JmpOp.holds,decide_eq_true_eq,le_iff_halves (v := x),hh,UInt32.lt_irrefl,false_or,
        true_and]
    · -- the high word of the argument is below that of `x`
      have hnle : ¬ x ≤ v := by
        rw [le_iff_halves]
        rintro (h | ⟨h,-⟩)
        · exact hg h
        · exact hh h.symm
      simp [JmpOp.holds,hm.a,hh,hnle]

theorem exec_jgt64 (hm : Arg64Loaded m v) :
    exec d (jgt64 (lo32 x) (hi32 x) jt ++ rest) 0 m =
      if x < v then exec d (jt :: ldMem 1 :: rest) 0 m else exec d rest 0 m := by
  simp only [jgt64,List.cons_append,List.nil_append]
  rw [jmpK,exec_jmpK_cons]
  by_cases hg : hi32 x < hi32 v
  · have hlt : x < v := lt_iff_halves.mpr (.inl hg)
    simp [JmpOp.holds,hm.a,hg,hlt]
  · simp only [JmpOp.holds,hm.a,hg,decide_false,Bool.false_eq_true,if_false,UInt8.reduceToNat]
    rw [jmpK,exec_jmpK_cons]
    by_cases hh : hi32 v = hi32 x
    · simp only [JmpOp.holds,hm.a,hh,beq_self_eq_true,if_true,UInt8.reduceToNat]
      rw [exec_lowStage_match hm]
      simp only [JmpOp.holds,decide_eq_true_eq,lt_iff_halves (v := x),hh,UInt32.lt_irrefl,false_or,
        true_and]
    · have hnlt : ¬ x < v := by
        rw [lt_iff_halves]
        rintro (h | ⟨h,-⟩)
        · exact hg h
        · exact hh h.symm
      simp [JmpOp.holds,hm.a,hh,hnlt]

theorem exec_jle64 (hm : Arg64Loaded m v) :
    exec d (jle64 (lo32 x) (hi32 x) jt ++ rest) 0 m =
      if v ≤ x then exec d (jt :: ldMem 1 :: rest) 0 m else exec d rest 0 m := by
  simp only [jle64,List.cons_append,List.nil_append]
  rw [jmpK,exec_jmpK_cons]
  by_cases hg : hi32 x ≤ hi32 v
  · simp only [JmpOp.holds,hm.a,hg,decide_true,if_true,UInt8.reduceToNat]
    rw [jmpK,exec_jmpK_cons]
    by_cases hh : hi32 v = hi32 x
    · simp only [JmpOp.holds,hm.a,hh,beq_self_eq_true,if_true,UInt8.reduceToNat]
      rw [exec_lowStage_miss hm]
      by_cases hl : lo32 x < lo32 v
      · have hnle : ¬ v ≤ x := by
          rw [le_iff_halves]
          rintro (h | ⟨-,h⟩)
          · exact absurd h (by rw [hh]; exact UInt32.lt_irrefl _)
          · exact absurd hl (UInt32.not_lt.mpr h)
        simp [JmpOp.holds,hl,hnle]
      · have hle : v ≤ x := le_iff_halves.mpr (.inr ⟨hh,UInt32.not_lt.mp hl⟩)
        simp [JmpOp.holds,hl,hle]
    · -- the high word of the argument is above that of `x`
      have hnle : ¬ v ≤ x := by
        rw [le_iff_halves]
        rintro (h | ⟨h,-⟩)
        · exact absurd hg (UInt32.not_le.mpr h)
        · exact hh h
      simp [JmpOp.holds,hm.a,hh,hnle]
  · have hle : v ≤ x := le_iff_halves.mpr (.inl (UInt32.not_le.mp hg))
    simp [JmpOp.holds,hm.a,hg,hle]

theorem exec_jlt64 (hm : Arg64Loaded m v) :
    exec d (jlt64 (lo32 x) (hi32 x) jt ++ rest) 0 m =
      if v < x then exec d (jt :: ldMem 1 :: rest) 0 m else exec d rest 0 m := by
  simp only [jlt64,List.cons_append,List.nil_append]
  rw [jmpK,exec_jmpK_cons]
  by_cases hg : hi32 x ≤ hi32 v
  · simp only [JmpOp.holds,hm.a,hg,decide_true,if_true,UInt8.reduceToNat]
    rw [jmpK,exec_jmpK_cons]
    by_cases hh : hi32 v = hi32 x
    · simp only [JmpOp.holds,hm.a,hh,beq_self_eq_true,if_true,UInt8.reduceToNat]
      rw [exec_lowStage_miss hm]
      by_cases hl : lo32 x ≤ lo32 v
      · have hnlt : ¬ v < x := by
          rw [lt_iff_halves]
          rintro (h | ⟨-,h⟩)
          · exact absurd h (by rw [hh]; exact UInt32.lt_irrefl _)
          · exact absurd hl (UInt32.not_le.mpr h)
        simp [JmpOp.holds,hl,hnlt]
      · have hlt : v < x := lt_iff_halves.mpr (.inr ⟨hh,UInt32.not_le.mp hl⟩)
        simp [JmpOp.holds,hl,hlt]
    · have hnlt : ¬ v < x := by
        rw [lt_iff_halves]
        rintro (h | ⟨h,-⟩)
        · exact absurd hg (UInt32.not_le.mpr h)
        · exact hh h
      simp [JmpOp.holds,hm.a,hh,hnlt]
  · have hlt : v < x := lt_iff_halves.mpr (.inl (UInt32.not_le.mp hg))
    simp [JmpOp.holds,hm.a,hg,hlt]

end Blocks

/-- Every 64-bit comparison block, entered as `ARG_64` leaves the machine, reaches its
one-instruction continuation exactly when the argument stands in its relation to the constant,
and otherwise falls through past the block; either way with the machine it was entered with,
so `A = M[1]` again and the next block can follow. -/
theorem exec_cmp64 (c : Cmp64) (x v : UInt64) (jt : SockFilter) (rest : List SockFilter)
    {m : Machine} (hm : Arg64Loaded m v) :
    exec d (c.block x jt ++ rest) 0 m =
      if c.Holds v x then exec d (jt :: ldMem 1 :: rest) 0 m else exec d rest 0 m := by
  cases c with
  | eq => exact exec_jeq64 x jt rest hm
  | ne => exact exec_jne64 x jt rest hm
  | gt => exact exec_jgt64 x jt rest hm
  | ge => exact exec_jge64 x jt rest hm
  | lt => exact exec_jlt64 x jt rest hm
  | le => exact exec_jle64 x jt rest hm
  | set => exact exec_ja64 x jt rest hm

theorem exec_cmp64_ge_highWord :
    Arg64Loaded (loadArg64 Machine.init 0x100000001) 0x100000001 ∧
      exec ⟨0,0,0,fun _ => 0x100000001⟩ (Cmp64.ge.block 0x100000000 allow ++ [kill]) 0
          (loadArg64 Machine.init 0x100000001) =
        if Cmp64.ge.Holds 0x100000001 0x100000000 then
          exec ⟨0,0,0,fun _ => 0x100000001⟩ (allow :: ldMem 1 :: [kill]) 0
            (loadArg64 Machine.init 0x100000001)
        else exec ⟨0,0,0,fun _ => 0x100000001⟩ [kill] 0 (loadArg64 Machine.init 0x100000001) :=
  ⟨arg64Loaded_loadArg64 _ _,exec_cmp64 .ge _ _ allow [kill] (arg64Loaded_loadArg64 _ _)⟩

-- the argument `2^32 + 1` is at least `2^32`, which only the high words decide
example : run ⟨0,0,0,fun _ => 0x100000001⟩
    (arg64 0 ++ Cmp64.ge.block 0x100000000 allow ++ [kill]) = some seccompRetAllow := by
  decide

end SandboxedApi.Sandbox2
