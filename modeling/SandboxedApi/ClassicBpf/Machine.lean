import Mathlib

/-! # Classic BPF as the seccomp filter runs it

The instruction format `struct sock_filter` with the field macros of `linux/bpf_common.h`, the
argument record `struct seccomp_data` of a little-endian host, and the execution of a filter on
it. Only the codes that the seccomp checker lists decode. A decoded instruction whose constant
the checker refuses (an unaligned or out-of-range load, a division by the constant zero, a shift
by 32 or more, a scratch slot past 16) stops the run with `reject`, as does every other code;
such a filter is never installed. Jumps only go forward, so a run is a structural walk over the
instruction list that carries the number of instructions still to skip.
-/
namespace ClassicBpf

/-- One instruction, `struct sock_filter`. -/
structure SockFilter where
  code : UInt16
  jt : UInt8
  jf : UInt8
  k : UInt32
  deriving DecidableEq, Repr

def bpfStmt (code : UInt16) (k : UInt32) : SockFilter := ⟨code,0,0,k⟩
def bpfJump (code : UInt16) (k : UInt32) (jt jf : UInt8) : SockFilter := ⟨code,jt,jf,k⟩

def bpfLd : UInt16 := 0x00
def bpfLdx : UInt16 := 0x01
def bpfSt : UInt16 := 0x02
def bpfStx : UInt16 := 0x03
def bpfAlu : UInt16 := 0x04
def bpfJmp : UInt16 := 0x05
def bpfRet : UInt16 := 0x06
def bpfMisc : UInt16 := 0x07
def bpfW : UInt16 := 0x00
def bpfImm : UInt16 := 0x00
def bpfAbs : UInt16 := 0x20
def bpfMem : UInt16 := 0x60
def bpfLen : UInt16 := 0x80
def bpfAdd : UInt16 := 0x00
def bpfSub : UInt16 := 0x10
def bpfMul : UInt16 := 0x20
def bpfDiv : UInt16 := 0x30
def bpfOr : UInt16 := 0x40
def bpfAnd : UInt16 := 0x50
def bpfLsh : UInt16 := 0x60
def bpfRsh : UInt16 := 0x70
def bpfNeg : UInt16 := 0x80
def bpfXor : UInt16 := 0xa0
def bpfJa : UInt16 := 0x00
def bpfJeq : UInt16 := 0x10
def bpfJgt : UInt16 := 0x20
def bpfJge : UInt16 := 0x30
def bpfJset : UInt16 := 0x40
def bpfK : UInt16 := 0x00
def bpfX : UInt16 := 0x08
def bpfA : UInt16 := 0x10
def bpfTax : UInt16 := 0x00
def bpfTxa : UInt16 := 0x80

def bpfClass (code : UInt16) : UInt16 := code &&& 0x07
def bpfOp (code : UInt16) : UInt16 := code &&& 0xf0

def bpfMaxInsns : Nat := 4096

/-- Return values of a seccomp filter, `linux/seccomp.h`. -/
def seccompRetKill : UInt32 := 0x00000000
def seccompRetTrap : UInt32 := 0x00030000
def seccompRetErrno : UInt32 := 0x00050000
def seccompRetUserNotif : UInt32 := 0x7fc00000
def seccompRetTrace : UInt32 := 0x7ff00000
def seccompRetAllow : UInt32 := 0x7fff0000
def seccompRetAction : UInt32 := 0x7fff0000
def seccompRetData : UInt32 := 0x0000ffff

inductive Src where
  | k | x
  deriving DecidableEq, Repr

inductive AluOp where
  | add | sub | mul | div | or | and | lsh | rsh | xor
  deriving DecidableEq, Repr

inductive JmpOp where
  | jeq | jgt | jge | jset
  deriving DecidableEq, Repr

/-- The instructions `seccomp_check_filter` lets through, one constructor per group of its
`case` labels. -/
inductive Insn where
  | ldAbs | ldLen | ldxLen | ldImm | ldxImm | ldMem | ldxMem | st | stx
  | alu (op : AluOp) (src : Src)
  | neg
  | retK | retA
  | tax | txa
  | ja
  | jmp (op : JmpOp) (src : Src)
  deriving DecidableEq, Repr

def Src.code : Src → UInt16
  | .k => bpfK
  | .x => bpfX

def AluOp.code : AluOp → UInt16
  | .add => bpfAdd
  | .sub => bpfSub
  | .mul => bpfMul
  | .div => bpfDiv
  | .or => bpfOr
  | .and => bpfAnd
  | .lsh => bpfLsh
  | .rsh => bpfRsh
  | .xor => bpfXor

def JmpOp.code : JmpOp → UInt16
  | .jeq => bpfJeq
  | .jgt => bpfJgt
  | .jge => bpfJge
  | .jset => bpfJset

def Insn.code : Insn → UInt16
  | .ldAbs => bpfLd ||| bpfW ||| bpfAbs
  | .ldLen => bpfLd ||| bpfW ||| bpfLen
  | .ldxLen => bpfLdx ||| bpfW ||| bpfLen
  | .ldImm => bpfLd ||| bpfImm
  | .ldxImm => bpfLdx ||| bpfImm
  | .ldMem => bpfLd ||| bpfMem
  | .ldxMem => bpfLdx ||| bpfMem
  | .st => bpfSt
  | .stx => bpfStx
  | .alu op src => bpfAlu ||| op.code ||| src.code
  | .neg => bpfAlu ||| bpfNeg
  | .retK => bpfRet ||| bpfK
  | .retA => bpfRet ||| bpfA
  | .tax => bpfMisc ||| bpfTax
  | .txa => bpfMisc ||| bpfTxa
  | .ja => bpfJmp ||| bpfJa
  | .jmp op src => bpfJmp ||| op.code ||| src.code

def allSrcs : List Src := [.k,.x]
def allAluOps : List AluOp := [.add,.sub,.mul,.div,.or,.and,.lsh,.rsh,.xor]
def allJmpOps : List JmpOp := [.jeq,.jgt,.jge,.jset]

def allInsns : List Insn :=
  [.ldAbs,.ldLen,.ldxLen,.ldImm,.ldxImm,.ldMem,.ldxMem,.st,.stx,.neg,.retK,.retA,.tax,.txa,.ja] ++
    allAluOps.flatMap (fun op => allSrcs.map (Insn.alu op)) ++
    allJmpOps.flatMap (fun op => allSrcs.map (Insn.jmp op))

/-- The instruction a code stands for, if the seccomp checker admits the code at all. -/
def decode (code : UInt16) : Option Insn := allInsns.find? (fun i => i.code == code)

theorem decode_code (i : Insn) : decode i.code = some i := by
  cases i with
  | alu op src => cases op <;> cases src <;> decide
  | jmp op src => cases op <;> cases src <;> decide
  | _ => decide

theorem code_of_decode {c : UInt16} {i : Insn} (h : decode c = some i) : i.code = c := by
  have hf := List.find?_some h
  simpa using hf

/-- The checks of `bpf_check_classic` and `seccomp_check_filter` on the constant `k`. -/
def Insn.admits : Insn → UInt32 → Bool
  | .ldAbs, k => k % 4 == 0 && k < 64
  | .ldMem, k | .ldxMem, k | .st, k | .stx, k => k < 16
  | .alu .div .k, k => k != 0
  | .alu .lsh .k, k | .alu .rsh .k, k => k < 32
  | _, _ => true

/-- `struct seccomp_data`; `nr` is the 32-bit word the filter loads. -/
structure SeccompData where
  nr : UInt32
  arch : UInt32
  instructionPointer : UInt64
  args : Fin 6 → UInt64

def lo32 (v : UInt64) : UInt32 := v.toUInt32
def hi32 (v : UInt64) : UInt32 := (v >>> 32).toUInt32

/-- The 32-bit word at byte offset `off` of `struct seccomp_data` on a little-endian host. -/
def SeccompData.word (d : SeccompData) (off : UInt32) : Option UInt32 :=
  if off % 4 = 0 ∧ off < 64 then
    match (off / 4).toNat with
    | 0 => some d.nr
    | 1 => some d.arch
    | 2 => some (lo32 d.instructionPointer)
    | 3 => some (hi32 d.instructionPointer)
    | w + 4 =>
      if h : w / 2 < 6 then
        some (if w % 2 = 0 then lo32 (d.args ⟨w / 2,h⟩) else hi32 (d.args ⟨w / 2,h⟩))
      else none
  else none

/-- The registers `A`, `X` and the sixteen scratch words `M[]`. -/
structure Machine where
  a : UInt32
  x : UInt32
  mem : Fin 16 → UInt32

/-- The kernel starts every filter run with `A = X = 0`. -/
def Machine.init : Machine := ⟨0,0,fun _ => 0⟩

/-- The scratch slot named by an admitted constant (`k < 16`). -/
def slot (k : UInt32) : Fin 16 := ⟨k.toNat % 16,Nat.mod_lt _ (by decide)⟩

def Src.value (m : Machine) (k : UInt32) : Src → UInt32
  | .k => k
  | .x => m.x

def JmpOp.holds (a v : UInt32) : JmpOp → Bool
  | .jeq => a == v
  | .jgt => v < a
  | .jge => v ≤ a
  | .jset => a &&& v != 0

/-- What one instruction does: go on with a new machine after skipping some instructions,
return a value, or stop on an instruction the checker refuses. -/
inductive Effect where
  | next (m : Machine) (skip : Nat)
  | ret (v : UInt32)
  | reject

def aluStep (m : Machine) (op : AluOp) (v : UInt32) : Effect :=
  match op with
  | .add => .next { m with a := m.a + v } 0
  | .sub => .next { m with a := m.a - v } 0
  | .mul => .next { m with a := m.a * v } 0
  | .div =>
    -- only `X = 0` gets here; the converted filter returns 0 on it
    if v = 0 then .ret 0 else .next { m with a := m.a / v } 0
  | .or => .next { m with a := m.a ||| v } 0
  | .and => .next { m with a := m.a &&& v } 0
  | .lsh => .next { m with a := m.a <<< v } 0
  | .rsh => .next { m with a := m.a >>> v } 0
  | .xor => .next { m with a := m.a ^^^ v } 0

/-- One admitted instruction on the machine; the offsets of a jump count the instructions it
skips. -/
def Insn.run (d : SeccompData) (f : SockFilter) (m : Machine) : Insn → Effect
  | .ldAbs =>
    match d.word f.k with
    | some w => .next { m with a := w } 0
    | none => .reject
  | .ldLen => .next { m with a := 64 } 0
  | .ldxLen => .next { m with x := 64 } 0
  | .ldImm => .next { m with a := f.k } 0
  | .ldxImm => .next { m with x := f.k } 0
  | .ldMem => .next { m with a := m.mem (slot f.k) } 0
  | .ldxMem => .next { m with x := m.mem (slot f.k) } 0
  | .st => .next { m with mem := Function.update m.mem (slot f.k) m.a } 0
  | .stx => .next { m with mem := Function.update m.mem (slot f.k) m.x } 0
  | .alu op src => aluStep m op (src.value m f.k)
  | .neg => .next { m with a := 0 - m.a } 0
  | .retK => .ret f.k
  | .retA => .ret m.a
  | .tax => .next { m with x := m.a } 0
  | .txa => .next { m with a := m.x } 0
  | .ja => .next m f.k.toNat
  | .jmp op src =>
    .next m (if op.holds m.a (src.value m f.k) then f.jt.toNat else f.jf.toNat)

def step (d : SeccompData) (f : SockFilter) (m : Machine) : Effect :=
  match decode f.code with
  | some i => if i.admits f.k then i.run d f m else .reject
  | none => .reject

/-- How a run of an instruction list ends: a returned value, falling off the end with some
instructions still to skip, or a refused instruction. -/
inductive Outcome where
  | ret (v : UInt32)
  | fall (m : Machine) (skip : Nat)
  | reject

/-- Run `p` after first skipping `skip` of its instructions. -/
def exec (d : SeccompData) : List SockFilter → Nat → Machine → Outcome
  | [], skip, m => .fall m skip
  | _ :: rest, skip + 1, m => exec d rest skip m
  | f :: rest, 0, m =>
    match step d f m with
    | .next m' n => exec d rest n m'
    | .ret v => .ret v
    | .reject => .reject

/-- The verdict of an installed filter: only a returned value counts. -/
def Outcome.verdict : Outcome → Option UInt32
  | .ret v => some v
  | _ => none

/-- The kernel's run of a whole filter on one system call. -/
def run (d : SeccompData) (p : List SockFilter) : Option UInt32 :=
  (exec d p 0 Machine.init).verdict

end ClassicBpf
