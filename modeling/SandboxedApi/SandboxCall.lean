import SandboxedApi.RpcChannel

/-! # The function call request

`Sandbox::Call` fills a zero-initialised `FuncCall rfcall{}` and sends it whole with
`RPCChannel::Call`. It stores `argc` as the number of arguments, copies the name with
`SNPrintF` into the 128-byte `func`, which keeps at most 127 bytes of it, and stores each
argument's size, type, value (and for a pointer the type and size of what it points to) at
index `i` of the member arrays, which have `kArgsMax = 12` slots, with no bound check.

Each store is its offset in `rfcall` and its bytes (`Store`), for the layout of `FuncCall` on
x86-64. Up to twelve arguments every store stays inside the 640 bytes of `rfcall`
(`sandboxCall_inside`); a thirteenth argument that is a pointer has its `aux_size` stored at
byte 640, past the end of the object (`sandboxCall_stores_outside`).
-/
namespace SandboxedApi

open Bytes

def kFuncNameMax : Nat := 128
def kArgsMax : Nat := 12

def offFunc : Nat := 0
def offRetType : Nat := 128
def offRetSize : Nat := 136
def offArgc : Nat := 144
def offArgType : Nat := 152
def offArgSize : Nat := 200
def offArgs : Nat := 304
def offAuxType : Nat := 496
def offAuxSize : Nat := 544
def sizeofFuncCall : Nat := 640

/-- An argument as `Call` reads it: its type and size, for a pointer the type and size of the
variable it points to, what `GetDataFromPtr` copies (as a number), and for a descriptor its
number in the sandboxee. -/
structure Arg where
  type : VType
  size : Nat
  auxType : VType
  auxSize : Nat
  value : Nat
  remoteFd : Int
deriving DecidableEq, Repr

/-- A store of `bytes` at `offset` in `rfcall`. -/
structure Store where
  offset : Nat
  bytes : List UInt8
deriving DecidableEq, Repr

def Store.Inside (st : Store) : Prop := st.offset + st.bytes.length ≤ sizeofFuncCall

instance : DecidablePred Store.Inside := fun st =>
  inferInstanceAs (Decidable (st.offset + st.bytes.length ≤ sizeofFuncCall))

/-- `rfcall` after a store; what lies past its end is not part of it. -/
def storeBytes (mem : List UInt8) (st : Store) : List UInt8 :=
  (mem.take st.offset ++ st.bytes ++ mem.drop (st.offset + st.bytes.length)).take mem.length

/-- `SNPrintF(rfcall.func, ABSL_ARRAYSIZE(rfcall.func), "%s", func)`. -/
def snprintfFunc (func : List UInt8) : List UInt8 := func.take (kFuncNameMax - 1) ++ [0]

/-- The stores of round `i` of the loop before `SynchronizePtrBefore`. -/
def argHeadStores (i : Nat) (arg : Arg) : List Store :=
  [⟨offArgSize + 8 * i,leBytes 8 arg.size⟩,⟨offArgType + 4 * i,leBytes 4 arg.type.toNat⟩] ++
    if arg.type = .kPointer then
      [⟨offAuxType + 4 * i,leBytes 4 arg.auxType.toNat⟩,⟨offAuxSize + 8 * i,leBytes 8 arg.auxSize⟩]
    else []

/-- `GetDataFromPtr` into `args[i].arg_float`, sixteen bytes, or `args[i].arg_int`, eight. -/
def argValueStore (i : Nat) (arg : Arg) : Store :=
  if arg.type = .kFloat then ⟨offArgs + 16 * i,leBytes 16 arg.value⟩
  else ⟨offArgs + 16 * i,leBytes 8 arg.value⟩

/-- `rfcall.args[i].arg_int = fd->GetRemoteFd()` for a descriptor. -/
def argFdStores (i : Nat) (arg : Arg) : List Store :=
  if arg.type = .kFd then [⟨offArgs + 16 * i,leBytes 8 (arg.remoteFd % 2 ^ 64).toNat⟩] else []

/-- The loop over the arguments from index `i`: its stores, and whether it went through them
all. `sync i` is whether `SynchronizePtrBefore` of argument `i` succeeds, `transfer i` whether
`TransferToSandboxee` of a descriptor argument does where it is called. -/
def argStores (sync transfer : Nat → Bool) : Nat → List Arg → List Store × Bool
  | _, [] => ([],true)
  | i, arg :: args =>
    if !sync i then (argHeadStores i arg,false)
    else if arg.type = .kFd ∧ !transfer i then (argHeadStores i arg ++ [argValueStore i arg],false)
    else
      let rest := argStores sync transfer (i + 1) args
      (argHeadStores i arg ++ [argValueStore i arg] ++ argFdStores i arg ++ rest.1,rest.2)

/-- What `Sandbox::Call` did: its stores into `rfcall`, and the `FuncCall` it sent with
`RPCChannel::Call`, if it got that far. -/
structure CallResult where
  stores : List Store
  sent : Option (List UInt8)

/-- `Sandbox::Call(func, ret, args)` up to the request it sends. -/
def sandboxCall (isActive : Bool) (func : List UInt8) (ret : Arg) (args : List Arg)
    (sync transfer : Nat → Bool) : CallResult :=
  if !isActive then ⟨[],none⟩
  else
    let pre : List Store := [⟨offArgc,leBytes 8 args.length⟩,⟨offFunc,snprintfFunc func⟩]
    let loop := argStores sync transfer 0 args
    if !loop.2 then ⟨pre ++ loop.1,none⟩
    else
      let stores := pre ++ loop.1 ++ [⟨offRetType,leBytes 4 ret.type.toNat⟩,⟨offRetSize,leBytes 8 ret.size⟩]
      ⟨stores,some (stores.foldl storeBytes (List.replicate sizeofFuncCall 0))⟩

/-! ### Where the stores go -/

section Stores

variable {sync transfer : Nat → Bool}

theorem argHeadStores_inside {i : Nat} (hi : i < kArgsMax) (arg : Arg) :
    ∀ st ∈ argHeadStores i arg, st.Inside := by
  unfold kArgsMax at hi
  intro st hst
  unfold argHeadStores at hst
  split at hst
  · simp only [List.cons_append,List.nil_append,List.mem_cons,List.not_mem_nil,or_false] at hst
    rcases hst with rfl | rfl | rfl | rfl <;>
      simp [Store.Inside,offArgSize,offArgType,offAuxType,offAuxSize,sizeofFuncCall] <;> omega
  · simp only [List.append_nil,List.mem_cons] at hst
    rcases hst with rfl | rfl | hst
    · simp [Store.Inside,offArgSize,sizeofFuncCall]
      omega
    · simp [Store.Inside,offArgType,sizeofFuncCall]
      omega
    · cases hst

theorem argValueStore_inside {i : Nat} (hi : i < kArgsMax) (arg : Arg) :
    (argValueStore i arg).Inside := by
  unfold kArgsMax at hi
  unfold argValueStore
  split <;> simp [Store.Inside,offArgs,sizeofFuncCall] <;> omega

theorem argFdStores_inside {i : Nat} (hi : i < kArgsMax) (arg : Arg) :
    ∀ st ∈ argFdStores i arg, st.Inside := by
  unfold kArgsMax at hi
  intro st hst
  unfold argFdStores at hst
  split at hst
  · rw [List.mem_singleton.mp hst]
    simp [Store.Inside,offArgs,sizeofFuncCall]
    omega
  · cases hst

theorem argStores_inside {i : Nat} {args : List Arg} (h : i + args.length ≤ kArgsMax) :
    ∀ st ∈ (argStores sync transfer i args).1, st.Inside := by
  induction args generalizing i with
  | nil => simp [argStores]
  | cons arg args ih =>
    have hi : i < kArgsMax := by simp at h; omega
    have hrest := ih (i := i + 1) (by simp at h; omega)
    intro st hst
    unfold argStores at hst
    split at hst
    · exact argHeadStores_inside hi arg st hst
    · split at hst
      · simp only [List.mem_append,List.mem_singleton] at hst
        rcases hst with hst | rfl
        · exact argHeadStores_inside hi arg st hst
        · exact argValueStore_inside hi arg
      · simp only [List.mem_append,List.mem_singleton] at hst
        rcases hst with ((hst | rfl) | hst) | hst
        · exact argHeadStores_inside hi arg st hst
        · exact argValueStore_inside hi arg
        · exact argFdStores_inside hi arg st hst
        · exact hrest st hst

theorem argHeadStores_subset {i j : Nat} {args : List Arg} {arg : Arg} (harg : args[j]? = some arg)
    (hok : ∀ l < j, sync (i + l) = true ∧ transfer (i + l) = true) :
    ∀ st ∈ argHeadStores (i + j) arg, st ∈ (argStores sync transfer i args).1 := by
  induction args generalizing i j with
  | nil => simp at harg
  | cons a args ih =>
    intro st hst
    unfold argStores
    cases j with
    | zero =>
      -- every branch of round `i` starts with its head stores
      simp only [List.getElem?_cons_zero,Option.some.injEq] at harg
      subst harg
      rw [Nat.add_zero] at hst
      split
      · exact hst
      · split <;> simp [hst]
    | succ j =>
      obtain ⟨hs,ht⟩ := hok 0 (Nat.succ_pos j)
      simp only [Nat.add_zero] at hs ht
      have hmem := ih (i := i + 1) (j := j) (by simpa using harg)
        (fun l hl => by simpa [Nat.add_assoc,Nat.add_comm 1 l] using hok (l + 1) (by omega))
        st (by simpa [Nat.add_assoc,Nat.add_comm 1 j] using hst)
      simp [hs,ht,hmem]

/-- With at most `kArgsMax` arguments, `Call` stores only inside `rfcall`. -/
theorem sandboxCall_inside (isActive : Bool) (func : List UInt8) (ret : Arg) {args : List Arg}
    (h : args.length ≤ kArgsMax) :
    ∀ st ∈ (sandboxCall isActive func ret args sync transfer).stores, st.Inside := by
  have hloop : ∀ st ∈ (argStores sync transfer 0 args).1, st.Inside :=
    argStores_inside (by simpa using h)
  have hfunc : (snprintfFunc func).length ≤ kFuncNameMax := by
    rw [snprintfFunc,List.length_append,List.length_take,List.length_singleton]
    unfold kFuncNameMax
    omega
  intro st hst
  unfold sandboxCall at hst
  split at hst
  · cases hst
  · dsimp only at hst
    split at hst <;> simp only [List.mem_append,List.mem_cons,List.not_mem_nil,or_false] at hst
    · rcases hst with (rfl | rfl) | hst
      · simp [Store.Inside,offArgc,sizeofFuncCall]
      · simp only [Store.Inside,offFunc,sizeofFuncCall,kFuncNameMax] at hfunc ⊢
        omega
      · exact hloop st hst
    · rcases hst with ((rfl | rfl) | hst) | rfl | rfl
      · simp [Store.Inside,offArgc,sizeofFuncCall]
      · simp only [Store.Inside,offFunc,sizeofFuncCall,kFuncNameMax] at hfunc ⊢
        omega
      · exact hloop st hst
      · simp [Store.Inside,offRetType,sizeofFuncCall]
      · simp [Store.Inside,offRetSize,sizeofFuncCall]

end Stores

/-- With a thirteenth argument that is a pointer, `Call` stores its `aux_size` in
`aux_size[12]`, the eight bytes from byte 640 on, past the end of `rfcall`, once the rounds
before it went through. -/
theorem sandboxCall_stores_outside {sync transfer : Nat → Bool} (func : List UInt8) (ret : Arg)
    {args : List Arg} {arg : Arg} (harg : args[12]? = some arg) (hptr : arg.type = .kPointer)
    (hok : ∀ i < 12, sync i = true ∧ transfer i = true) :
    ∃ st ∈ (sandboxCall true func ret args sync transfer).stores,
      st.offset = sizeofFuncCall ∧ ¬st.Inside := by
  have hhead : (⟨offAuxSize + 8 * 12,leBytes 8 arg.auxSize⟩ : Store) ∈ argHeadStores (0 + 12) arg := by
    simp [argHeadStores,hptr]
  have hloop := argHeadStores_subset harg (fun l hl => by simpa using hok l hl) _ hhead
  refine ⟨⟨offAuxSize + 8 * 12,leBytes 8 arg.auxSize⟩,?_,by simp [offAuxSize,sizeofFuncCall],
    by simp [Store.Inside,offAuxSize,sizeofFuncCall]⟩
  unfold sandboxCall
  dsimp only
  rw [if_neg (by decide)]
  split <;> simp only [List.mem_append,List.mem_cons,hloop,or_true,true_or]

theorem sandboxCall_stores_outside_thirteenArgs :
    ∃ st ∈ (sandboxCall true [102] ⟨.kInt,4,.kVoid,0,0,0⟩
        (List.replicate 12 ⟨.kInt,4,.kVoid,0,7,0⟩ ++ [⟨.kPointer,8,.kStruct,16,4096,0⟩])
        (fun _ => true) (fun _ => true)).stores,
      st.offset = sizeofFuncCall ∧ ¬st.Inside :=
  sandboxCall_stores_outside [102] ⟨.kInt,4,.kVoid,0,0,0⟩
    (show (List.replicate 12 (Arg.mk .kInt 4 .kVoid 0 7 0) ++ [Arg.mk .kPointer 8 .kStruct 16 4096 0])[12]? =
      some (Arg.mk .kPointer 8 .kStruct 16 4096 0) by decide) rfl fun _ _ => ⟨rfl,rfl⟩

end SandboxedApi
