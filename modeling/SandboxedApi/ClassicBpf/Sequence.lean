import SandboxedApi.ClassicBpf.Machine

/-! # Running instruction lists one after another

A run of `p ++ q` is the run of `p` followed, if it falls off the end of `p`, by the run of `q`
with the skip count left over. The fall-through leaves nothing to skip when every jump of `p`
lands inside `p` or exactly at its end (`JumpsWithin`); a whole filter never falls off the end
when its jumps land strictly inside it and its last instruction returns (`WellFormed`).
-/
namespace ClassicBpf

variable {d : SeccompData}

@[simp] theorem exec_nil (n : Nat) (m : Machine) : exec d [] n m = .fall m n := rfl

@[simp] theorem exec_cons_succ (f : SockFilter) (rest : List SockFilter) (n : Nat) (m : Machine) :
    exec d (f :: rest) (n + 1) m = exec d rest n m := rfl

theorem exec_cons_zero (f : SockFilter) (rest : List SockFilter) (m : Machine) :
    exec d (f :: rest) 0 m =
      match step d f m with
      | .next m' n => exec d rest n m'
      | .ret v => .ret v
      | .reject => .reject := rfl

theorem exec_cons_of_step_next {f : SockFilter} {m m' : Machine} {n : Nat}
    (h : step d f m = .next m' n) (rest : List SockFilter) :
    exec d (f :: rest) 0 m = exec d rest n m' := by
  rw [exec_cons_zero,h]

theorem exec_cons_of_step_ret {f : SockFilter} {m : Machine} {v : UInt32}
    (h : step d f m = .ret v) (rest : List SockFilter) : exec d (f :: rest) 0 m = .ret v := by
  rw [exec_cons_zero,h]

/-- Continue an outcome that fell off the end. -/
def Outcome.andThen : Outcome → (Machine → Nat → Outcome) → Outcome
  | .fall m n, k => k m n
  | o, _ => o

@[simp] theorem Outcome.fall_andThen (m : Machine) (n : Nat) (k : Machine → Nat → Outcome) :
    (Outcome.fall m n).andThen k = k m n := rfl
@[simp] theorem Outcome.ret_andThen (v : UInt32) (k : Machine → Nat → Outcome) :
    (Outcome.ret v).andThen k = .ret v := rfl
@[simp] theorem Outcome.reject_andThen (k : Machine → Nat → Outcome) :
    Outcome.reject.andThen k = .reject := rfl

theorem Outcome.andThen_congr {o : Outcome} {k k' : Machine → Nat → Outcome}
    (h : ∀ m n, o = .fall m n → k m n = k' m n) : o.andThen k = o.andThen k' := by
  cases o with
  | fall m n => exact h m n rfl
  | ret v => rfl
  | reject => rfl

theorem exec_append (p q : List SockFilter) (n : Nat) (m : Machine) :
    exec d (p ++ q) n m = (exec d p n m).andThen (fun m' n' => exec d q n' m') := by
  induction p generalizing n m with
  | nil => rfl
  | cons f rest ih =>
    cases n with
    | succ n => exact ih n m
    | zero =>
      rw [List.cons_append,exec_cons_zero,exec_cons_zero]
      cases step d f m with
      | next m' n' => exact ih n' m'
      | ret v => rfl
      | reject => rfl

theorem exec_of_length_le (p : List SockFilter) {n : Nat} (h : p.length ≤ n) (m : Machine) :
    exec d p n m = .fall m (n - p.length) := by
  induction p generalizing n with
  | nil => simp
  | cons f rest ih =>
    obtain ⟨n,rfl⟩ : ∃ n', n = n' + 1 := ⟨n - 1,by simp at h; omega⟩
    rw [exec_cons_succ,ih (by simp at h; omega)]
    simp

/-! ### The instructions the helpers emit -/

theorem step_jmpK (op : JmpOp) (v : UInt32) (jt jf : UInt8) (m : Machine) :
    step d (bpfJump (bpfJmp + op.code + bpfK) v jt jf) m =
      .next m (if op.holds m.a v then jt.toNat else jf.toNat) := by
  have hc : bpfJmp + op.code + bpfK = (Insn.jmp op .k).code := by cases op <;> decide
  simp only [step,bpfJump,hc,decode_code]
  cases op <;> rfl

theorem step_jeqK (v : UInt32) (jt jf : UInt8) (m : Machine) :
    step d (bpfJump (bpfJmp + bpfJeq + bpfK) v jt jf) m =
      .next m (if m.a = v then jt.toNat else jf.toNat) := by
  rw [show bpfJeq = JmpOp.jeq.code from rfl,step_jmpK]
  simp [JmpOp.holds]

theorem step_jsetK (v : UInt32) (jt jf : UInt8) (m : Machine) :
    step d (bpfJump (bpfJmp + bpfJset + bpfK) v jt jf) m =
      .next m (if m.a &&& v ≠ 0 then jt.toNat else jf.toNat) := by
  rw [show bpfJset = JmpOp.jset.code from rfl,step_jmpK]
  simp [JmpOp.holds]

theorem step_ja (k : UInt32) (m : Machine) :
    step d (bpfStmt (bpfJmp + bpfJa) k) m = .next m k.toNat := by
  have hc : bpfJmp + bpfJa = Insn.ja.code := by decide
  simp only [step,bpfStmt,hc,decode_code]
  rfl

theorem step_retK (v : UInt32) (m : Machine) : step d (bpfStmt (bpfRet + bpfK) v) m = .ret v := by
  have hc : bpfRet + bpfK = Insn.retK.code := by decide
  simp only [step,bpfStmt,hc,decode_code]
  rfl

theorem step_ldAbs (off : UInt32) (m : Machine) :
    step d (bpfStmt (bpfLd + bpfW + bpfAbs) off) m =
      match d.word off with
      | some w => .next { m with a := w } 0
      | none => .reject := by
  have hc : bpfLd + bpfW + bpfAbs = Insn.ldAbs.code := by decide
  simp only [step,bpfStmt,hc,decode_code,Insn.admits,Insn.run]
  by_cases ha : off % 4 = 0 ∧ off < 64
  · have hb : (off % 4 == 0 && decide (off < 64)) = true := by simp [ha.1,ha.2]
    cases d.word off <;> simp only [if_pos hb]
  · have hw : d.word off = none := by simp [SeccompData.word,ha]
    simp only [hw,Bool.and_eq_true,beq_iff_eq,decide_eq_true_eq]
    simp [ha]

theorem step_ldMem {k : UInt32} (hk : k < 16) (m : Machine) :
    step d (bpfStmt (bpfLd + bpfMem) k) m = .next { m with a := m.mem (slot k) } 0 := by
  have hc : bpfLd + bpfMem = Insn.ldMem.code := by decide
  simp only [step,bpfStmt,hc,decode_code,Insn.admits,decide_eq_true hk,if_true]
  rfl

theorem step_st {k : UInt32} (hk : k < 16) (m : Machine) :
    step d (bpfStmt bpfSt k) m = .next { m with mem := Function.update m.mem (slot k) m.a } 0 := by
  have hc : bpfSt = Insn.st.code := by decide
  simp only [step,bpfStmt,hc,decode_code,Insn.admits,decide_eq_true hk,if_true]
  rfl

@[simp] theorem slot_zero : slot 0 = 0 := rfl
@[simp] theorem slot_one : slot 1 = 1 := rfl

/-! ### Running the helpers' instructions

One lemma per instruction form, each taking one instruction off the front of the list, so that a
run of a straight block is a chain of rewrites with the branch conditions left to split on. -/

theorem exec_jmpK_cons (op : JmpOp) (v : UInt32) (jt jf : UInt8) (rest : List SockFilter)
    (m : Machine) :
    exec d (bpfJump (bpfJmp + op.code + bpfK) v jt jf :: rest) 0 m =
      exec d rest (if op.holds m.a v then jt.toNat else jf.toNat) m :=
  exec_cons_of_step_next (step_jmpK op v jt jf m) rest

theorem exec_ldMem_cons {k : UInt32} (hk : k < 16) (rest : List SockFilter) (m : Machine) :
    exec d (bpfStmt (bpfLd + bpfMem) k :: rest) 0 m = exec d rest 0 { m with a := m.mem (slot k) } :=
  exec_cons_of_step_next (step_ldMem hk m) rest

theorem exec_st_cons {k : UInt32} (hk : k < 16) (rest : List SockFilter) (m : Machine) :
    exec d (bpfStmt bpfSt k :: rest) 0 m =
      exec d rest 0 { m with mem := Function.update m.mem (slot k) m.a } :=
  exec_cons_of_step_next (step_st hk m) rest

theorem exec_ldAbs_cons {off w : UInt32} (hw : d.word off = some w) (rest : List SockFilter)
    (m : Machine) :
    exec d (bpfStmt (bpfLd + bpfW + bpfAbs) off :: rest) 0 m = exec d rest 0 { m with a := w } := by
  have h : step d (bpfStmt (bpfLd + bpfW + bpfAbs) off) m = .next { m with a := w } 0 := by
    rw [step_ldAbs,hw]
  exact exec_cons_of_step_next h rest

/-! ### Where jumps land -/

/-- The skip counts a jump instruction can produce. -/
def SockFilter.targets (f : SockFilter) : List Nat :=
  match decode f.code with
  | some .ja => [f.k.toNat]
  | some (.jmp _ _) => [f.jt.toNat,f.jf.toNat]
  | _ => []

/-- An instruction goes on to the next one, or skips by its `k` (`BPF_JA`) or by one of its
`jt`, `jf` (a conditional jump). -/
theorem Insn.run_next_skip {i : Insn} {f : SockFilter} {m m' : Machine} {n : Nat}
    (h : i.run d f m = .next m' n) :
    n = 0 ∨ (i = .ja ∧ n = f.k.toNat) ∨
      (∃ op src, i = .jmp op src) ∧ (n = f.jt.toNat ∨ n = f.jf.toNat) := by
  cases i with
  | ja => simp only [Insn.run,Effect.next.injEq] at h; simp [h.2]
  | jmp op src =>
    simp only [Insn.run,Effect.next.injEq] at h
    right; right
    refine ⟨⟨op,src,rfl⟩,?_⟩
    split at h <;> simp [h.2]
  | ldAbs => simp only [Insn.run] at h; split at h <;> simp_all
  | alu op src => cases op <;> simp only [Insn.run,aluStep] at h <;> (try split at h) <;> simp_all
  | retK => simp [Insn.run] at h
  | retA => simp [Insn.run] at h
  | _ => simp only [Insn.run,Effect.next.injEq] at h; simp [h.2]

theorem step_next_skip {f : SockFilter} {m m' : Machine} {n : Nat}
    (h : step d f m = .next m' n) : n = 0 ∨ n ∈ f.targets := by
  unfold step at h
  cases hd : decode f.code with
  | none => simp [hd] at h
  | some i =>
    simp only [hd] at h
    split at h
    · rcases Insn.run_next_skip h with h0 | ⟨rfl,rfl⟩ | ⟨⟨op,src,rfl⟩,hn⟩
      · exact .inl h0
      · right; simp [SockFilter.targets,hd]
      · right
        simp only [SockFilter.targets,hd,List.mem_cons,List.not_mem_nil,or_false]
        exact hn
    · cases h

/-- Every jump of the list lands inside it or exactly at its end. -/
def JumpsWithin : List SockFilter → Prop
  | [] => True
  | f :: rest => (∀ n ∈ f.targets, n ≤ rest.length) ∧ JumpsWithin rest

/-- Every jump of the list lands strictly inside it. -/
def JumpsInside : List SockFilter → Prop
  | [] => True
  | f :: rest => (∀ n ∈ f.targets, n < rest.length) ∧ JumpsInside rest

instance decJumpsWithin : (p : List SockFilter) → Decidable (JumpsWithin p)
  | [] => isTrue trivial
  | f :: rest =>
    haveI := decJumpsWithin rest
    inferInstanceAs (Decidable ((∀ n ∈ f.targets, n ≤ rest.length) ∧ JumpsWithin rest))

instance decJumpsInside : (p : List SockFilter) → Decidable (JumpsInside p)
  | [] => isTrue trivial
  | f :: rest =>
    haveI := decJumpsInside rest
    inferInstanceAs (Decidable ((∀ n ∈ f.targets, n < rest.length) ∧ JumpsInside rest))

theorem JumpsWithin.append {p q : List SockFilter} (hp : JumpsWithin p) (hq : JumpsWithin q) :
    JumpsWithin (p ++ q) := by
  induction p with
  | nil => exact hq
  | cons f rest ih =>
    refine ⟨fun n hn => ?_,ih hp.2⟩
    exact Nat.le_trans (hp.1 n hn) (by simp)

/-- A run that starts inside a list whose jumps stay within it falls off with nothing left to
skip: control reaches exactly the instruction after the list. -/
theorem JumpsWithin.fall_skip {p : List SockFilter} (hp : JumpsWithin p) {n : Nat}
    (hn : n ≤ p.length) {m m' : Machine} {s : Nat} (h : exec d p n m = .fall m' s) : s = 0 := by
  induction p generalizing n m with
  | nil => simp only [exec_nil,Outcome.fall.injEq] at h; simp at hn; omega
  | cons f rest ih =>
    cases n with
    | succ n => exact ih hp.2 (by simp at hn; omega) h
    | zero =>
      rw [exec_cons_zero] at h
      cases hs : step d f m with
      | next m'' n' =>
        rw [hs] at h
        rcases step_next_skip hs with h0 | ht
        · exact ih hp.2 (by omega) h
        · exact ih hp.2 (hp.1 n' ht) h
      | ret v => rw [hs] at h; cases h
      | reject => rw [hs] at h; cases h

def SockFilter.isRet (f : SockFilter) : Bool :=
  decode f.code == some .retK || decode f.code == some .retA

/-- The shape the kernel's checker demands of a whole filter: jumps land inside it and its
last instruction returns. -/
def WellFormed (p : List SockFilter) : Prop :=
  JumpsInside p ∧ p.getLast?.any SockFilter.isRet = true

instance (p : List SockFilter) : Decidable (WellFormed p) :=
  inferInstanceAs (Decidable (_ ∧ _))

theorem step_isRet {f : SockFilter} (hf : f.isRet = true) (m : Machine) :
    ∃ v, step d f m = .ret v := by
  unfold SockFilter.isRet at hf
  unfold step
  rcases Bool.or_eq_true_iff.mp hf with h | h <;>
    · rw [beq_iff_eq] at h
      simp only [h,Insn.admits,if_true]
      exact ⟨_,rfl⟩

theorem JumpsInside.exec_ne_fall {p : List SockFilter} (hj : JumpsInside p)
    (hr : p.getLast?.any SockFilter.isRet = true) {n : Nat} (hn : n < p.length) (m m' : Machine)
    (s : Nat) : exec d p n m ≠ .fall m' s := by
  induction p generalizing n m with
  | nil => simp at hn
  | cons f rest ih =>
    cases rest with
    | nil =>
      have hf : f.isRet = true := by simpa using hr
      obtain rfl : n = 0 := by simp at hn; omega
      obtain ⟨v,hv⟩ := step_isRet (d := d) hf m
      rw [exec_cons_of_step_ret hv]
      simp
    | cons g rest' =>
      have hr' : (g :: rest').getLast?.any SockFilter.isRet = true := by
        simpa [List.getLast?_cons_cons] using hr
      cases n with
      | succ n => exact ih hj.2 hr' (by simp at hn ⊢; omega) m
      | zero =>
        rw [exec_cons_zero]
        cases hs : step d f m with
        | next m'' n' =>
          rcases step_next_skip hs with h0 | ht
          · exact ih hj.2 hr' (by simp; omega) m''
          · exact ih hj.2 hr' (hj.1 n' ht) m''
        | ret v => simp
        | reject => simp

/-- Every path through a well-formed filter ends at a return or a refused instruction; none
falls off the end. -/
theorem WellFormed.exec_ne_fall {p : List SockFilter} (hp : WellFormed p) {n : Nat}
    (hn : n < p.length) (m m' : Machine) (s : Nat) : exec d p n m ≠ .fall m' s :=
  hp.1.exec_ne_fall hp.2 hn m m' s

theorem JumpsWithin.jumpsInside_append {p q : List SockFilter} (hp : JumpsWithin p)
    (hq : JumpsInside q) (hne : q ≠ []) : JumpsInside (p ++ q) := by
  induction p with
  | nil => exact hq
  | cons f rest ih =>
    have hlen : 0 < q.length := List.length_pos_iff.mpr hne
    refine ⟨fun n hn => ?_,ih hp.2⟩
    have := hp.1 n hn
    show n < (rest ++ q).length
    rw [List.length_append]
    omega

theorem JumpsInside.map {φ : SockFilter → SockFilter} (hφ : ∀ f, (φ f).targets = f.targets)
    {p : List SockFilter} (hp : JumpsInside p) : JumpsInside (p.map φ) := by
  induction p with
  | nil => trivial
  | cons f rest ih =>
    refine ⟨fun n hn => ?_,ih hp.2⟩
    rw [hφ] at hn
    rw [List.length_map]
    exact hp.1 n hn

/-! ### Rewriting what a filter returns -/

def Effect.mapRet (g : UInt32 → UInt32) : Effect → Effect
  | .ret v => .ret (g v)
  | e => e

def Outcome.mapRet (g : UInt32 → UInt32) : Outcome → Outcome
  | .ret v => .ret (g v)
  | o => o

/-- Replacing each instruction by one that runs as it does, with the value it returns passed
through `g`, passes the value the whole run returns through `g`. -/
theorem exec_map_of_step {φ : SockFilter → SockFilter} {g : UInt32 → UInt32}
    {p : List SockFilter} (hφ : ∀ f ∈ p, ∀ m, step d (φ f) m = (step d f m).mapRet g)
    (n : Nat) (m : Machine) : exec d (p.map φ) n m = (exec d p n m).mapRet g := by
  induction p generalizing n m with
  | nil => rfl
  | cons f rest ih =>
    have ih' := ih (fun f' hf' => hφ f' (List.mem_cons_of_mem _ hf'))
    cases n with
    | succ n => exact ih' n m
    | zero =>
      rw [List.map_cons,exec_cons_zero,exec_cons_zero,hφ f List.mem_cons_self m]
      cases step d f m with
      | next m' n' => exact ih' n' m'
      | ret v => rfl
      | reject => rfl

/-- The instructions that return only the constant of a `RET K`: all but `RET A`, and `DIV X`,
which returns 0 when `X` is 0. -/
def SockFilter.retOnlyK (f : SockFilter) : Bool :=
  decode f.code != some .retA && decode f.code != some (.alu .div .x)

theorem step_of_code_retK {f : SockFilter} (hc : f.code = bpfRet + bpfK) (m : Machine) :
    step d f m = .ret f.k := by
  have hd : decode (bpfRet + bpfK) = some .retK := by decide
  simp only [step,hc,hd,Insn.admits,if_true]
  rfl

theorem step_eq_ret {f : SockFilter} (hf : f.retOnlyK = true) {m : Machine} {v : UInt32}
    (h : step d f m = .ret v) : f.code = bpfRet + bpfK ∧ v = f.k := by
  unfold SockFilter.retOnlyK at hf
  unfold step at h
  cases hd : decode f.code with
  | none => simp [hd] at h
  | some i =>
    simp only [hd,bne_iff_ne,ne_eq,Option.some.injEq,Bool.and_eq_true] at hf h
    split at h
    · cases i with
      | retK =>
        have hc := code_of_decode hd
        simp only [Insn.run,Effect.ret.injEq] at h
        exact ⟨hc.symm,h.symm⟩
      | retA => exact absurd rfl hf.1
      | alu op src =>
        -- only a division returns, and only by a zero divisor
        cases op <;> simp only [Insn.run,aluStep] at h <;> try cases h
        split at h
        · cases src with
          | x => exact absurd rfl hf.2
          | k =>
            rename_i hadm hz
            have hk : f.k ≠ 0 := by simpa [Insn.admits] using hadm
            exact absurd hz hk
        · cases h
      | ldAbs => simp only [Insn.run] at h; split at h <;> cases h
      | _ => cases h
    · cases h

end ClassicBpf
