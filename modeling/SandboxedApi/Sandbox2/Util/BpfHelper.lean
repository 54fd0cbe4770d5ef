import SandboxedApi.ClassicBpf.Sequence

/-! # The seccomp-bpf helper macros and the label resolver

`sandbox2/util/bpf_helper.h` builds filters from macros: returns (`ALLOW`, `KILL`, `ERRNO`...),
argument loads, 32-bit comparisons that guard one instruction, and the two pseudo-instructions
`JUMP(&l, x)` and `LABEL(&l, x)`. Both pseudo-instructions are `BPF_JA` with marker bytes in
`jt`/`jf` and the label's index in `k`; `seccomp_bpf_label` hands out the indices and
`bpf_resolve_jumps` (`bpf_helper.c`) replaces the markers by real offsets in one backward walk.
A label program, the list the C++ initializer lists spell out, is a list of `LabelInsn`.
-/
namespace SandboxedApi.Sandbox2
open ClassicBpf

def jumpJt : UInt8 := 0xff
def jumpJf : UInt8 := 0xff
def labelJt : UInt8 := 0xfe
def labelJf : UInt8 := 0xfe

def deny : SockFilter := bpfStmt (bpfRet + bpfK) seccompRetKill
def kill : SockFilter := bpfStmt (bpfRet + bpfK) seccompRetKill
def trap (val : UInt32) : SockFilter := bpfStmt (bpfRet + bpfK) (seccompRetTrap ||| (val &&& seccompRetData))
def errno (val : UInt32) : SockFilter := bpfStmt (bpfRet + bpfK) (seccompRetErrno ||| (val &&& seccompRetData))
def trace (val : UInt32) : SockFilter := bpfStmt (bpfRet + bpfK) (seccompRetTrace ||| (val &&& seccompRetData))
def allow : SockFilter := bpfStmt (bpfRet + bpfK) seccompRetAllow

/-- `SYSCALL(nr, jt)`: run `jt` when `A` holds `nr`, else skip it. -/
def syscall (nr : UInt32) (jt : SockFilter) : List SockFilter :=
  [bpfJump (bpfJmp + bpfJeq + bpfK) nr 0 1, jt]

/-- `offsetof(struct seccomp_data, args[idx])`, the low half on a little-endian host. -/
def loArg (idx : UInt32) : UInt32 := 16 + 8 * idx
def hiArg (idx : UInt32) : UInt32 := 16 + 8 * idx + 4

def arg32 (idx : UInt32) : SockFilter := bpfStmt (bpfLd + bpfW + bpfAbs) (loArg idx)

def loadSyscallNr : SockFilter := bpfStmt (bpfLd + bpfW + bpfAbs) 0
def loadArch : SockFilter := bpfStmt (bpfLd + bpfW + bpfAbs) 4

/-! ### The label table -/

def bpfLabelsMax : Nat := 256

/-- One slot of `struct bpf_labels`; `label` is `NULL` in a zeroed table. -/
structure BpfLabel where
  label : Option String
  location : UInt32
  deriving DecidableEq, Repr

/-- `struct bpf_labels`: the count and the fixed array of `BPF_LABELS_MAX` slots. -/
structure BpfLabels where
  count : Nat
  labels : List BpfLabel
  size : labels.length = bpfLabelsMax

/-- `bpf_labels l = {0}`. -/
def BpfLabels.zero : BpfLabels := ⟨0,List.replicate bpfLabelsMax ⟨none,0⟩,by simp⟩

def BpfLabels.setSlot (l : BpfLabels) (id : Nat) (e : BpfLabel) : BpfLabels :=
  ⟨l.count,l.labels.set id e,by rw [List.length_set,l.size]⟩

/-- Record `label` in the next free slot, with the unresolved location `0xffffffff`. -/
def BpfLabels.push (l : BpfLabels) (label : String) : BpfLabels :=
  let l' := l.setSlot l.count ⟨some label,0xffffffff⟩
  { l' with count := l.count + 1 }

/-- `seccomp_bpf_label`: the index of `label`, recorded on first use. `none` is the
`exit(1)` on a full table. -/
def seccompBpfLabel (l : BpfLabels) (label : String) : Option (BpfLabels × UInt32) :=
  if l.count = bpfLabelsMax then none
  else if l.count = 0 then some (l.push label,0)
  else
    match (l.labels.take l.count).findIdx? (fun e => e.label == some label) with
    | some id => some (l,id.toUInt32)
    | none => some (l.push label,l.count.toUInt32)

/-! ### `bpf_resolve_jumps` -/

/-- What the C function leaves behind: its return value, the table and the filter, or the
out-of-bounds read of `labels->labels[instr->k]` when `k` is past the table. -/
inductive Resolved where
  | done (r : Int) (l : BpfLabels) (filter : List SockFilter)
  | undefined

/-- The loop of `bpf_resolve_jumps` with `offset + 1` instructions still to visit: it visits
`filter[offset]`, then the instructions before it. The `switch` on `(jt << 8) | jf` compares
the pair of marker bytes. -/
def resolveWalk (l : BpfLabels) (filter : List SockFilter) : Nat → Resolved
  | 0 => .done 0 l filter
  | offset + 1 =>
    match filter[offset]? with
    | none => .done 0 l filter
    | some instr =>
      if instr.code ≠ bpfJmp + bpfJa then resolveWalk l filter offset
      else if (instr.jt,instr.jf) = (jumpJt,jumpJf) then
        match l.labels[instr.k.toNat]? with
        | none => .undefined
        | some e =>
          if e.location = 0xffffffff then .done 1 l filter
          else resolveWalk l (filter.set offset
            { instr with k := e.location - (offset + 1).toUInt32, jt := 0, jf := 0 }) offset
      else if (instr.jt,instr.jf) = (labelJt,labelJf) then
        match l.labels[instr.k.toNat]? with
        | none => .undefined
        | some e =>
          if e.location ≠ 0xffffffff then .done 1 l filter
          else resolveWalk (l.setSlot instr.k.toNat { e with location := offset.toUInt32 })
            (filter.set offset { instr with k := 0, jt := 0, jf := 0 }) offset
      else resolveWalk l filter offset

def bpfResolveJumps (l : BpfLabels) (filter : List SockFilter) : Resolved :=
  if filter.length < 1 ∨ filter.length > bpfMaxInsns then .done (-1) l filter
  else resolveWalk l filter filter.length

/-! ### Label programs -/

/-- An element of a filter written with the helpers: an instruction, `JUMP(&l, name)` or
`LABEL(&l, name)`. -/
inductive LabelInsn where
  | insn (f : SockFilter)
  | jump (name : String)
  | label (name : String)
  deriving DecidableEq, Repr

/-- The instructions an initializer list of helpers evaluates to, calling `seccomp_bpf_label`
for every `JUMP` and `LABEL` from left to right; `none` is the `exit(1)` of a full table. -/
def encodeLabels (l : BpfLabels) : List LabelInsn → Option (BpfLabels × List SockFilter)
  | [] => some (l,[])
  | .insn f :: rest => (encodeLabels l rest).map (fun r => (r.1,f :: r.2))
  | .jump name :: rest =>
    match seccompBpfLabel l name with
    | none => none
    | some (l',id) =>
      (encodeLabels l' rest).map (fun r => (r.1,bpfJump (bpfJmp + bpfJa) id jumpJt jumpJf :: r.2))
  | .label name :: rest =>
    match seccompBpfLabel l name with
    | none => none
    | some (l',id) =>
      (encodeLabels l' rest).map (fun r => (r.1,bpfJump (bpfJmp + bpfJa) id labelJt labelJf :: r.2))

/-! ### The 32-bit comparisons

Each guards the one element after it, which may itself be a `JUMP`: `JEQ32(v, jt)` runs `jt`
when `A` holds `v` and skips it otherwise, `JNE32` the other way round, `JA32` tests bits. -/

def jeq32 (value : UInt32) (jt : LabelInsn) : List LabelInsn :=
  [.insn (bpfJump (bpfJmp + bpfJeq + bpfK) value 0 1),jt]
def jne32 (value : UInt32) (jt : LabelInsn) : List LabelInsn :=
  [.insn (bpfJump (bpfJmp + bpfJeq + bpfK) value 1 0),jt]
def ja32 (value : UInt32) (jt : LabelInsn) : List LabelInsn :=
  [.insn (bpfJump (bpfJmp + bpfJset + bpfK) value 0 1),jt]
def jge32 (value : UInt32) (jt : LabelInsn) : List LabelInsn :=
  [.insn (bpfJump (bpfJmp + bpfJge + bpfK) value 0 1),jt]
def jgt32 (value : UInt32) (jt : LabelInsn) : List LabelInsn :=
  [.insn (bpfJump (bpfJmp + bpfJgt + bpfK) value 0 1),jt]
def jle32 (value : UInt32) (jt : LabelInsn) : List LabelInsn :=
  [.insn (bpfJump (bpfJmp + bpfJgt + bpfK) value 1 0),jt]
def jlt32 (value : UInt32) (jt : LabelInsn) : List LabelInsn :=
  [.insn (bpfJump (bpfJmp + bpfJge + bpfK) value 1 0),jt]

end SandboxedApi.Sandbox2
