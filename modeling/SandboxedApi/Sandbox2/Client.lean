import SandboxedApi.Posix.FdTable
import SandboxedApi.Text.Decimal
import SandboxedApi.Util.Path

/-! # The client side of the fd map

`Client::SetUpIPC` receives what `IPC::SendFdsOverComms` sends: for each descriptor, the number
it is wanted at (`-1` for any), the descriptor itself, which the kernel puts at the lowest free
number, and a name (empty for none). A preserved descriptor or the `Comms` connection at the
wanted number is first moved to a `dup` of it; the received descriptor is then `dup2`ed onto the
wanted number and closed, and a name is recorded in `fd_map_` with the number the descriptor
ends at.

Nothing keeps track of a descriptor that has only a name. It stays at the number the kernel gave
it, and a later descriptor wanted at that number is `dup2`ed over it: the name then stands for
the other file.

`GetFdMapEnvVar` prints `fd_map_` as `SB2_FD_MAPPINGS=name,fd,name,fd,...`, and the `Client`
constructor of the executed program splits the value at `,`, drops the empty fields, pairs the
rest as key and value, and reads each value with `SimpleAtoi`. The encoding reads back exactly
when no name holds a `,`.
-/
namespace SandboxedApi.Sandbox2
open Posix SandboxedApi.File

/-- One triple `IPC::SendFdsOverComms` sends: the number the descriptor is wanted at (`-1` for
any), the open file description it carries, and its name (empty for none). -/
structure FdPair (α : Type) where
  requestedFd : Int
  file : α
  name : List Char

/-- What `SetUpIPC` works on: the descriptor table, the preserved fd variables, the map from a
preserved number to the index of its variable, the `Comms` connection, and `fd_map_`. -/
structure IpcState (α : Type) where
  table : FdTable α
  preserveFds : List Int
  preserveFdsMap : List (Int × Nat)
  connectionFd : Int
  fdMap : List (List Char × Int)

section SetUpIpc

variable {α : Type}

/-- `preserve_fds_map` as `SetUpIPC` builds it: each number with the first variable holding it. -/
def preserveFdsMapOf (preserveFds : List Int) : List (Int × Nat) :=
  preserveFds.zipIdx.foldl (fun m e => ListMap.insertIfAbsent e.1 e.2 m) []

/-- The preserved variable at `requested_fd`, if there is one, moved to a `dup` of its
descriptor, which is then closed. -/
def movePreserved (st : IpcState α) (requestedFd : Int) : Option (IpcState α) :=
  match st.preserveFdsMap.lookup requestedFd with
  | none => some st
  | some pfd =>
    (st.table.dup requestedFd).map fun (table,newFd) =>
      { st with
        table := table.close requestedFd
        preserveFds := st.preserveFds.set pfd newFd
        preserveFdsMap :=
          ListMap.insertIfAbsent newFd pfd (st.preserveFdsMap.filter fun e => e.1 != requestedFd) }

/-- `Comms::MoveToAnotherFd`. -/
def moveToAnotherFd (st : IpcState α) : Option (IpcState α) :=
  if st.connectionFd = -1 then none
  else (st.table.dup st.connectionFd).map fun (table,newFd) =>
    { st with table := table.close st.connectionFd, connectionFd := newFd }

def moveComms (st : IpcState α) (requestedFd : Int) : Option (IpcState α) :=
  if requestedFd = st.connectionFd then moveToAnotherFd st else some st

/-- The received descriptor `fd` `dup2`ed onto `requested_fd` and closed, when it is wanted at a
number and is not already there; with the number it ends at. -/
def placeFd (st : IpcState α) (requestedFd fd : Int) : Option (IpcState α × Int) :=
  if requestedFd ≠ -1 ∧ fd ≠ requestedFd then
    (st.table.dup2 fd requestedFd).map fun table => ({ st with table := table.close fd },requestedFd)
  else some (st,fd)

/-- `fd_map_.emplace(name, fd)` for a nonempty name; `none` on a name already there. -/
def addName (st : IpcState α) (name : List Char) (fd : Int) : Option (IpcState α) :=
  if name.isEmpty then some st
  else if (st.fdMap.lookup name).isSome then none
  else some { st with fdMap := st.fdMap ++ [(name,fd)] }

/-- One round of the loop of `SetUpIPC`. -/
def setUpIpcPair (st : IpcState α) (pair : FdPair α) : Option (IpcState α) := do
  -- `RecvFD`: the kernel puts the descriptor at the lowest free number
  let (table,fd) := st.table.install pair.file
  let st ← movePreserved { st with table := table } pair.requestedFd
  let st ← moveComms st pair.requestedFd
  let (st,fd) ← placeFd st pair.requestedFd fd
  addName st pair.name fd

/-- `Client::SetUpIPC`, on the pairs the executor sends; `none` where a check fails. -/
def setUpIPC (table : FdTable α) (preserveFds : List Int) (connectionFd : Int)
    (fdMap : List (List Char × Int)) (pairs : List (FdPair α)) : Option (IpcState α) :=
  if fdMap.isEmpty then
    pairs.foldlM setUpIpcPair ⟨table,preserveFds,preserveFdsMapOf preserveFds,connectionFd,[]⟩
  else none

/-! ### One round -/

theorem mem_preserveFdsMapOf {preserveFds : List Int} : ∀ e ∈ preserveFdsMapOf preserveFds, e.1 ∈ preserveFds := by
  suffices h : ∀ (l : List (Int × Nat)) (m : List (Int × Nat)), (∀ e ∈ m, e.1 ∈ preserveFds) →
      (∀ e ∈ l, e.1 ∈ preserveFds) → ∀ e ∈ l.foldl (fun m e => ListMap.insertIfAbsent e.1 e.2 m) m,
        e.1 ∈ preserveFds from
    h _ [] (by simp) (fun e he => List.fst_mem_of_mem_zipIdx he)
  intro l
  induction l with
  | nil => intro m hm _; exact hm
  | cons e l ih =>
    intro m hm hl
    exact ih _ (@ListMap.forall_insertIfAbsent Int Nat _ (fun k _ => k ∈ preserveFds) e.1 e.2 m hm
      (hl e List.mem_cons_self))
      (fun e' he' => hl e' (List.mem_cons_of_mem _ he'))

theorem lookup_preserveFdsMapOf {preserveFds : List Int} {fd : Int} (h : fd ∉ preserveFds) :
    (preserveFdsMapOf preserveFds).lookup fd = none := by
  cases hl : (preserveFdsMapOf preserveFds).lookup fd with
  | none => rfl
  | some i => exact absurd (mem_preserveFdsMapOf _ (ListMap.mem_of_lookup hl)) h

theorem movePreserved_of_lookup {st : IpcState α} {requestedFd : Int}
    (h : st.preserveFdsMap.lookup requestedFd = none) : movePreserved st requestedFd = some st := by
  simp [movePreserved,h]

theorem moveComms_of_ne {st : IpcState α} {requestedFd : Int} (h : requestedFd ≠ st.connectionFd) :
    moveComms st requestedFd = some st := if_neg h

/-- A round for a descriptor wanted at a number that nothing tracked holds: the descriptor is put
at that number, and its name, if any, recorded with it. -/
theorem setUpIpcPair_untracked {st : IpcState α} {pair : FdPair α}
    (hp : st.preserveFdsMap.lookup pair.requestedFd = none) (hc : pair.requestedFd ≠ st.connectionFd)
    (hr : 0 ≤ pair.requestedFd) (hfree : (st.table.lowestFree : Int) ≠ pair.requestedFd) :
    ∃ table, setUpIpcPair st pair = addName { st with table := table } pair.name pair.requestedFd ∧
      table.files pair.requestedFd = some pair.file ∧
      ∀ m, m ≠ pair.requestedFd → m ≠ st.table.lowestFree → table.files m = st.table.files m := by
  obtain ⟨t',hd,ht'⟩ := (st.table.install pair.file).1.dup2_of_files
    (by rw [FdTable.files_install,if_pos rfl]) hr hfree
  refine ⟨t'.close st.table.lowestFree,?_,?_,?_⟩
  · simp only [setUpIpcPair,FdTable.install_snd]
    rw [@movePreserved_of_lookup α { st with table := (st.table.install pair.file).1 } _ hp]
    simp only [Option.bind_eq_bind,Option.bind_some]
    rw [@moveComms_of_ne α { st with table := (st.table.install pair.file).1 } _ hc]
    simp only [Option.bind_some,placeFd,if_pos (⟨by omega,hfree⟩ : pair.requestedFd ≠ -1 ∧ _),hd,
      Option.map_some]
  · rw [FdTable.files_close_of_ne _ (Ne.symm hfree),ht',if_pos rfl]
  · intro m hm hl
    rw [FdTable.files_close_of_ne _ hl,ht',if_neg hm,FdTable.files_install,if_neg hl]

/-- A round for a descriptor with a name and no number: it stays where the kernel put it, and
the name is recorded with that number. -/
theorem setUpIpcPair_named {st : IpcState α} {file : α} {name : List Char}
    (hp : st.preserveFdsMap.lookup (-1) = none) (hc : -1 ≠ st.connectionFd) :
    setUpIpcPair st ⟨-1,file,name⟩ =
      addName { st with table := (st.table.install file).1 } name st.table.lowestFree := by
  simp only [setUpIpcPair,FdTable.install_snd]
  rw [@movePreserved_of_lookup α { st with table := (st.table.install file).1 } _ hp]
  simp only [Option.bind_eq_bind,Option.bind_some]
  rw [@moveComms_of_ne α { st with table := (st.table.install file).1 } _ hc]
  simp only [Option.bind_some,placeFd,ne_eq,not_true_eq_false,false_and,if_false]

/-! ### A name that ends up standing for another file -/

/-- A descriptor sent with a name and no number, then one wanted at the number the kernel gave
the first: the second is `dup2`ed over the first, and the name stands for the second file. -/
theorem setUpIPC_namedFd_overwritten (table : FdTable α) (preserveFds : List Int) (connectionFd : Int)
    (hc : (table.files connectionFd).isSome) (hp : ∀ fd ∈ preserveFds, (table.files fd).isSome)
    (a b : α) {name : List Char} (hn : name ≠ []) :
    ∃ st, setUpIPC table preserveFds connectionFd [] [⟨-1,a,name⟩,⟨table.lowestFree,b,[]⟩] = some st ∧
      st.fdMap.lookup name = some (table.lowestFree : Int) ∧ st.table.files table.lowestFree = some b := by
  -- what is open in the table is at a number from `0` on, and the lowest free number is not
  have hnonneg : ∀ fd, (table.files fd).isSome → 0 ≤ fd := fun fd h => (table.open_lt fd h).1
  have hcn : 0 ≤ connectionFd := hnonneg _ hc
  have hm1 : (preserveFdsMapOf preserveFds).lookup (-1) = none := by
    refine lookup_preserveFdsMapOf fun h => ?_
    have := hnonneg _ (hp _ h)
    omega
  have hk : (preserveFdsMapOf preserveFds).lookup (table.lowestFree : Int) = none := by
    refine lookup_preserveFdsMapOf fun h => ?_
    have := hp _ h
    simp at this
  let st1 : IpcState α :=
    ⟨(table.install a).1,preserveFds,preserveFdsMapOf preserveFds,connectionFd,[(name,table.lowestFree)]⟩
  have h1 : setUpIpcPair ⟨table,preserveFds,preserveFdsMapOf preserveFds,connectionFd,[]⟩
      ⟨-1,a,name⟩ = some st1 := by
    rw [setUpIpcPair_named hm1 (show (-1 : Int) ≠ connectionFd by omega),addName]
    simp [hn,st1]
  have hfree : ((table.install a).1.lowestFree : Int) ≠ table.lowestFree :=
    FdTable.lowestFree_ne _ (by rw [FdTable.files_install,if_pos rfl]; rfl)
  obtain ⟨table2,h2,hb,-⟩ := @setUpIpcPair_untracked α st1 ⟨table.lowestFree,b,[]⟩ hk
    (FdTable.lowestFree_ne _ hc) (Int.natCast_nonneg _) hfree
  refine ⟨{ st1 with table := table2 },?_,by simp [st1],hb⟩
  rw [setUpIPC,if_pos List.isEmpty_nil,List.foldlM_cons,h1,Option.bind_eq_bind,Option.bind_some,List.foldlM_cons,h2]
  simp [addName]

theorem setUpIPC_logFd_overwritten :
    ∃ st, setUpIPC ⟨fun n => if 0 ≤ n ∧ n < 4 then some n else none,4,fun n h => by split at h <;> simp_all⟩
        [] 3 [] [⟨-1,10,"log".toList⟩,⟨4,11,[]⟩] = some st ∧
      st.fdMap.lookup "log".toList = some 4 ∧ st.table.files 4 = some 11 :=
  setUpIPC_namedFd_overwritten _ [] 3 (by decide) (by simp) 10 11 (by decide)

end SetUpIpc

/-! ### `SB2_FD_MAPPINGS` -/

section FdMapEnvVar

def kFDMapEnvVar : List Char := "SB2_FD_MAPPINGS".toList

/-- `Client::GetFdMapEnvVar()`: `absl::StrJoin(fd_map_, ",", absl::PairFormatter(","))` behind
the name of the variable. -/
def getFdMapEnvVar (fdMap : List (List Char × Int)) : List Char :=
  kFDMapEnvVar ++ ['='] ++ [','].intercalate (fdMap.map fun e => e.1 ++ [','] ++ (toString e.2).toList)

/-- `getenv(name)` in an environment of `NAME=value` strings. -/
def getenv (envs : List (List Char)) (name : List Char) : Option (List Char) :=
  (envs.find? fun e => (name ++ ['=']).isPrefixOf e).map fun e => e.drop (name.length + 1)

/-- The `flat_hash_map<string_view, string_view>` that `absl::StrSplit` fills: its fields are
taken in turn as key and value, a key met again takes the later value, and a last key with no
value gets the empty one. -/
def splitIntoMap : List (List Char) → List (List Char × List Char) → List (List Char × List Char)
  | [], m => m
  | [k], m => ListMap.insertIfAbsent k [] m
  | k :: v :: rest, m => splitIntoMap rest (ListMap.setValue k v (ListMap.insertIfAbsent k [] m))

/-- One round of the loop of the `Client` constructor; `none` where `SimpleAtoi` fails or the
name is there already. -/
def addMappedFd (fdMap : List (List Char × Int)) (var : List Char × List Char) :
    Option (List (List Char × Int)) :=
  match Decimal.simpleAtoi var.2 with
  | none => none
  | some fd => if (fdMap.lookup var.1).isSome then none else some (fdMap ++ [(var.1,fd)])

/-- `Client::Client`: the fd map it reads from the value of `SB2_FD_MAPPINGS`, if that is set;
`none` where a `SAPI_RAW_CHECK` fails. -/
def client (fdmapEnvvar : Option (List Char)) : Option (List (List Char × Int)) :=
  match fdmapEnvvar with
  | none => some []
  | some value => (splitIntoMap (strSplitSkipEmpty value ',') []).foldlM addMappedFd []

/-- `Client::GetMappedFD(name)`: the descriptor mapped to `name`, taken out of the map; `none`
where `SAPI_RAW_CHECK` aborts because the name is not there. -/
def getMappedFD (fdMap : List (List Char × Int)) (name : List Char) :
    Option (Int × List (List Char × Int)) :=
  (fdMap.lookup name).map fun fd => (fd,fdMap.filter fun e => e.1 != name)

/-- A name with a `,` at its end, which `IPC::ReceiveFd` accepts: its field and the empty one
after it run together, the sandboxee reads the name back without its `,`, and
`GetMappedFD("a,")` aborts there, where the executor's map has the descriptor. -/
theorem client_getMappedFD_comma :
    getMappedFD [("a,".toList,3)] "a,".toList = some (3,[]) ∧
    client (getenv [getFdMapEnvVar [("a,".toList,3)]] kFDMapEnvVar) = some [("a".toList,3)] ∧
    getMappedFD [("a".toList,3)] "a,".toList = none := by
  decide

/-! ### Reading the fd map back -/

theorem getenv_of_first {name value : List Char} {before after : List (List Char)}
    (hbefore : ∀ e ∈ before, (name ++ ['=']).isPrefixOf e = false) :
    getenv (before ++ (name ++ ['='] ++ value) :: after) name = some value := by
  have hfind : (before ++ (name ++ ['='] ++ value) :: after).find? (fun e => (name ++ ['=']).isPrefixOf e) =
      some (name ++ ['='] ++ value) := by
    rw [List.find?_append,List.find?_eq_none.mpr (fun e he => by simp [hbefore e he]),Option.none_or,
      List.find?_cons_of_pos]
    exact List.isPrefixOf_iff_prefix.mpr (List.prefix_append _ _)
  rw [getenv,hfind,Option.map_some]
  simp

/-- The map `absl::StrSplit` fills from the parts of pairs with distinct keys, new to it, is the
pairs after it. -/
theorem splitIntoMap_flatMap : ∀ {pairs acc : List (List Char × List Char)},
    (pairs.map Prod.fst).Nodup → (∀ e ∈ pairs, acc.lookup e.1 = none) →
      splitIntoMap (pairs.flatMap fun e => [e.1,e.2]) acc = acc ++ pairs
  | [], acc, _, _ => by simp [splitIntoMap]
  | e :: rest, acc, hnd, hdisj => by
    have he : acc.lookup e.1 = none := hdisj e List.mem_cons_self
    have hrest : ∀ e' ∈ rest, (acc ++ [(e.1,e.2)]).lookup e'.1 = none := by
      intro e' he'
      have hne : e'.1 ≠ e.1 := fun h => (List.nodup_cons.mp hnd).1 (h ▸ List.mem_map_of_mem he')
      simp [List.lookup_append,hdisj e' (List.mem_cons_of_mem _ he'),hne]
    rw [List.flatMap_cons,show [e.1,e.2] ++ rest.flatMap (fun e => [e.1,e.2]) =
      e.1 :: e.2 :: rest.flatMap (fun e => [e.1,e.2]) from rfl,splitIntoMap,
      ListMap.insertIfAbsent_of_lookup_none he,ListMap.setValue_append_of_lookup_none he,
      splitIntoMap_flatMap (List.nodup_cons.mp hnd).2 hrest]
    simp

/-- The loop of the constructor over the names and printed numbers of a map with distinct
names, new to what it has read so far, reads the map. -/
theorem foldlM_addMappedFd : ∀ {fdMap acc : List (List Char × Int)},
    (fdMap.map Prod.fst).Nodup → (∀ e ∈ fdMap, acc.lookup e.1 = none) →
      (∀ e ∈ fdMap, -2 ^ 31 ≤ e.2 ∧ e.2 < 2 ^ 31) →
      (fdMap.map fun e => (e.1,(toString e.2).toList)).foldlM addMappedFd acc = some (acc ++ fdMap)
  | [], acc, _, _, _ => by simp
  | e :: rest, acc, hnd, hdisj, hfds => by
    have he : acc.lookup e.1 = none := hdisj e List.mem_cons_self
    have hread : Decimal.simpleAtoi (toString e.2).toList = some e.2 :=
      Decimal.simpleAtoi_repr (hfds e List.mem_cons_self).1 (hfds e List.mem_cons_self).2
    have hrest : ∀ e' ∈ rest, (acc ++ [(e.1,e.2)]).lookup e'.1 = none := by
      intro e' he'
      have hne : e'.1 ≠ e.1 := fun h => (List.nodup_cons.mp hnd).1 (h ▸ List.mem_map_of_mem he')
      simp [List.lookup_append,hdisj e' (List.mem_cons_of_mem _ he'),hne]
    rw [List.map_cons,List.foldlM_cons]
    simp only [addMappedFd,hread,he,Option.isSome_none,Bool.false_eq_true,if_false,Option.bind_eq_bind,
      Option.bind_some]
    rw [foldlM_addMappedFd (List.nodup_cons.mp hnd).2 hrest
      (fun e' he' => hfds e' (List.mem_cons_of_mem _ he'))]
    simp

/-- The fd map is read back from an environment that holds what `GetFdMapEnvVar` printed, when
its names are nonempty, distinct and free of `,`, and its numbers are `int`s. -/
theorem client_getFdMapEnvVar {fdMap : List (List Char × Int)}
    (hnames : ∀ e ∈ fdMap, e.1 ≠ [] ∧ ',' ∉ e.1) (hnodup : (fdMap.map Prod.fst).Nodup)
    (hfds : ∀ e ∈ fdMap, -2 ^ 31 ≤ e.2 ∧ e.2 < 2 ^ 31) {before after : List (List Char)}
    (hbefore : ∀ e ∈ before, (kFDMapEnvVar ++ ['=']).isPrefixOf e = false) :
    client (getenv (before ++ getFdMapEnvVar fdMap :: after) kFDMapEnvVar) = some fdMap := by
  have hvalue : getFdMapEnvVar fdMap = kFDMapEnvVar ++ ['='] ++ [','].intercalate
      ((fdMap.map fun e => (e.1,(toString e.2).toList)).flatMap fun e => [e.1,e.2]) := by
    rw [getFdMapEnvVar,← List.intercalate_map_append_pair,List.map_map]
    rfl
  have hfields : ∀ f ∈ (fdMap.map fun e => (e.1,(toString e.2).toList)).flatMap (fun e => [e.1,e.2]),
      f ≠ [] ∧ ',' ∉ f := by
    simp only [List.mem_flatMap,List.mem_map,List.mem_cons,List.not_mem_nil,or_false]
    rintro f ⟨_,⟨e,he,rfl⟩,rfl | rfl⟩
    · exact hnames e he
    · obtain ⟨hne,hchars⟩ := Decimal.repr_toList_spec e.2
      refine ⟨hne,fun hc => ?_⟩
      rcases hchars ',' hc with h | h
      · simp [Char.isDigit] at h
      · simp at h
  rw [hvalue,getenv_of_first hbefore,client,strSplitSkipEmpty_intercalate hfields,
    splitIntoMap_flatMap (by simpa [Function.comp_def] using hnodup) (by simp),List.nil_append,
    foldlM_addMappedFd hnodup (by simp) hfds,List.nil_append]

end FdMapEnvVar

end SandboxedApi.Sandbox2
