import SandboxedApi.Graph.Worklist
import SandboxedApi.HashTable.SwissTable
import SandboxedApi.Sandbox2.Mounts
import SandboxedApi.Sandbox2.Util.MiniElf

/-! # The libraries of a dynamic binary

`Mounts::AddMappingsForBinary` parses the binary, checks its interpreter against a fixed list,
builds the directories to search (the entries of `LD_LIBRARY_PATH`, the four standard
directories, each with its hardware-capability subdirectories that exist), and then resolves the
libraries the binary needs, and those they need, by a depth-first search with an explicit
stack. Every library found is parsed for its own `DT_NEEDED` entries; the interpreter and the
libraries found are then mounted read-only at their own paths, in the order in which the loop
over the `flat_hash_set` meets them (an `IterationOrder` of the model).

The file system is an oracle: whether a path exists, and what `ElfFile::ParseFromFile` returns
for it (the parser of `minielf` on the file's bytes). `std::string` values are byte strings in
the ELF model and character lists in the mounts model; `pathOfBytes` maps one to the other.

The search is the worklist search of `Graph/Worklist` with the library names as names and the
resolved paths as nodes, so that when it succeeds it mounts the interpreter and exactly the
libraries reachable through resolution (`addMappingsForBinary_mounts`).
-/
namespace SandboxedApi.Sandbox2

open File Fileops Worklist SwissTable

/-- What `AddMappingsForBinary` asks of the file system. -/
structure LibraryFs where
  /-- `fileops::Exists(path, /*fully_resolve=*/false)`. -/
  pathExists : Path → Bool
  /-- `ElfFile::ParseFromFile(path, features)`. -/
  parseFromFile : Path → UInt32 → Except Status ElfFile
  /-- A `StatusOr` never holds an OK status. -/
  parseFromFile_error : ∀ path features e, parseFromFile path features = .error e → e.code ≠ .ok

def pathOfBytes (s : List UInt8) : Path := s.map fun b => Char.ofNat b.toNat

def allowedInterpreters : List Path :=
  ["/lib64/ld-linux-x86-64.so.2","/lib64/ld64.so.2","/lib/ld-linux-aarch64.so.1",
    "/lib/ld-linux-armhf.so.3","/system/bin/linker64"].map String.toList

def validateInterpreter (interpreter : Path) : Except Status Unit :=
  if interpreter ∈ allowedInterpreters then .ok ()
  else .error (invalidArgumentError ("Interpreter not on the whitelist: " ++ String.ofList interpreter))

/-- `GetPlatform(interpreter)` on x86-64: `GetPlatformCPUName()` and `-linux-gnu`. -/
def getPlatform : Path := "x86_64-linux-gnu".toList

def hwCapPaths : List Path := [getPlatform,"tls".toList]

def standardSearchPaths : List Path := ["/lib","/lib64","/usr/lib","/usr/lib64"].map String.toList

/-- The directory for one set of hardware capabilities: the search path joined with each
capability whose bit is set, lowest bit first. -/
def hwCapPath (searchPath : Path) (hwCapsSet : Nat) : Path :=
  hwCapPaths.zipIdx.foldl
    (fun path cap => if hwCapsSet &&& (1 <<< cap.2) ≠ 0 then joinPath path cap.1 else path)
    searchPath

def kMaxWorkQueueSize : Nat := 1000
def kMaxResolvingDepth : Nat := 10
def kMaxResolvedEntries : Nat := 1000
def kMaxLoadedEntries : Nat := 100
def kMaxImportedLibraries : Nat := 100

section Search

variable (fs : LibraryFs)

/-- The directories searched, in order: `LD_LIBRARY_PATH` split at `:` and `;`, then the
standard directories, each followed by those of its hardware-capability directories that exist,
from all capabilities down to none. -/
def fullSearchPaths (ldLibraryPath : Path) : List Path :=
  let searchPaths :=
    (if ldLibraryPath.isEmpty then [] else ldLibraryPath.splitOnP fun c => c == ':' || c == ';') ++
      standardSearchPaths
  searchPaths.flatMap fun searchPath =>
    ((List.range (2 ^ hwCapPaths.length)).reverse.map (hwCapPath searchPath)).filter fs.pathExists

def existingPathInsideDir (dirPath relativePath : Path) : Except Status Path :=
  let path := cleanPath (joinPath dirPath relativePath)
  if stripBasename path ≠ dirPath then .error (invalidArgumentError "Relative path goes above the base dir")
  else if !fs.pathExists path then .error (notFoundError ("Does not exist: " ++ String.ofList path))
  else .ok path

/-- The first search path with the library directly inside it, or the empty path. -/
def resolveLibraryPath (libName : Path) : List Path → Path
  | [] => []
  | searchPath :: searchPaths =>
    match existingPathInsideDir fs searchPath libName with
    | .ok path => path
    | .error _ => resolveLibraryPath libName searchPaths

/-- The names a resolved library needs, as its parse gives them. -/
def neededLibraries (resolvedLib : Path) : Except Status (List Path) :=
  (fun libElf => libElf.importedLibraries.map pathOfBytes) <$>
    fs.parseFromFile resolvedLib ElfFile.kLoadImportedLibraries

/-- The search's variables: the stack `to_resolve` with its back first, the hash set
`imported_libraries` in the order of insertion, and the counters. -/
structure ResolveState where
  toResolve : List (Path × Nat)
  importedLibraries : List Path
  resolved : Nat
  loaded : Nat
deriving DecidableEq, Repr

inductive ResolveStep where
  | done (importedLibraries : List Path)
  | fail (status : Status)
  | next (st : ResolveState)
deriving DecidableEq, Repr

variable (searchPaths : List Path)

/-- One round of `while (!to_resolve.empty())`, and its end. -/
def resolveStep (st : ResolveState) : ResolveStep :=
  match st.toResolve with
  | [] => .done st.importedLibraries
  | (lib,depth) :: rest =>
    if st.resolved + 1 > kMaxResolvedEntries then
      .fail (failedPreconditionError "Exceeded max resolved entries limit")
    else if depth > kMaxResolvingDepth then
      .fail (failedPreconditionError "Exceeded max resolving depth limit")
    else
      let resolvedLib := resolveLibraryPath fs lib searchPaths
      if resolvedLib.isEmpty then .next ⟨rest,st.importedLibraries,st.resolved + 1,st.loaded⟩
      else if resolvedLib ∈ st.importedLibraries then
        .next ⟨rest,st.importedLibraries,st.resolved + 1,st.loaded⟩
      else if st.importedLibraries.length + 1 > kMaxImportedLibraries then
        .fail (failedPreconditionError "Exceeded max imported libraries limit")
      else if st.loaded + 1 > kMaxLoadedEntries then
        .fail (failedPreconditionError "Exceeded max loaded entries limit")
      else
        match neededLibraries fs resolvedLib with
        | .error e => .fail e
        | .ok importedLibs =>
          if importedLibs.length > kMaxWorkQueueSize - rest.length then
            .fail (failedPreconditionError "Exceeded max entries pending resolving limit")
          else
            .next ⟨(importedLibs.map (·,depth + 1)).reverse ++ rest,
              st.importedLibraries ++ [resolvedLib],st.resolved + 1,st.loaded + 1⟩

theorem resolveStep_eq_next {st st' : ResolveState} (h : resolveStep fs searchPaths st = .next st') :
    ∃ lib depth rest, st.toResolve = (lib,depth) :: rest ∧ st.resolved + 1 ≤ kMaxResolvedEntries ∧
      depth ≤ kMaxResolvingDepth ∧
      ((resolveLibraryPath fs lib searchPaths = [] ∨
          resolveLibraryPath fs lib searchPaths ∈ st.importedLibraries) ∧
        st' = ⟨rest,st.importedLibraries,st.resolved + 1,st.loaded⟩ ∨
      ∃ importedLibs, resolveLibraryPath fs lib searchPaths ≠ [] ∧
        resolveLibraryPath fs lib searchPaths ∉ st.importedLibraries ∧
        st.importedLibraries.length + 1 ≤ kMaxImportedLibraries ∧ st.loaded + 1 ≤ kMaxLoadedEntries ∧
        neededLibraries fs (resolveLibraryPath fs lib searchPaths) = .ok importedLibs ∧
        importedLibs.length ≤ kMaxWorkQueueSize - rest.length ∧
        st' = ⟨(importedLibs.map (·,depth + 1)).reverse ++ rest,
          st.importedLibraries ++ [resolveLibraryPath fs lib searchPaths],st.resolved + 1,
          st.loaded + 1⟩) := by
  obtain ⟨toResolve,importedLibraries,resolved,loaded⟩ := st
  unfold resolveStep at h
  cases toResolve with
  | nil => cases h
  | cons top rest =>
    obtain ⟨lib,depth⟩ := top
    dsimp only at h
    refine ⟨lib,depth,rest,rfl,?_⟩
    dsimp only
    by_cases h1 : resolved + 1 > kMaxResolvedEntries
    · rw [if_pos h1] at h
      cases h
    rw [if_neg h1] at h
    by_cases h2 : depth > kMaxResolvingDepth
    · rw [if_pos h2] at h
      cases h
    rw [if_neg h2] at h
    refine ⟨by omega,by omega,?_⟩
    by_cases h3 : (resolveLibraryPath fs lib searchPaths).isEmpty
    · rw [if_pos h3] at h
      cases h
      exact .inl ⟨.inl (List.isEmpty_iff.mp h3),rfl⟩
    rw [if_neg h3] at h
    by_cases h4 : resolveLibraryPath fs lib searchPaths ∈ importedLibraries
    · rw [if_pos h4] at h
      cases h
      exact .inl ⟨.inr h4,rfl⟩
    rw [if_neg h4] at h
    by_cases h5 : importedLibraries.length + 1 > kMaxImportedLibraries
    · rw [if_pos h5] at h
      cases h
    rw [if_neg h5] at h
    by_cases h6 : loaded + 1 > kMaxLoadedEntries
    · rw [if_pos h6] at h
      cases h
    rw [if_neg h6] at h
    cases hn : neededLibraries fs (resolveLibraryPath fs lib searchPaths) with
    | error e =>
      rw [hn] at h
      cases h
    | ok importedLibs =>
      rw [hn] at h
      dsimp only at h
      by_cases h7 : importedLibs.length > kMaxWorkQueueSize - rest.length
      · rw [if_pos h7] at h
        cases h
      rw [if_neg h7] at h
      cases h
      exact .inr ⟨importedLibs,fun he => h3 (List.isEmpty_iff.mpr he),h4,by omega,by omega,rfl,
        by omega,rfl⟩

theorem resolveStep_resolved {st st' : ResolveState} (h : resolveStep fs searchPaths st = .next st') :
    st'.resolved = st.resolved + 1 ∧ st'.resolved ≤ kMaxResolvedEntries := by
  obtain ⟨_,_,_,_,hr,_,⟨_,rfl⟩ | ⟨_,_,_,_,_,_,_,rfl⟩⟩ := resolveStep_eq_next fs searchPaths h
  all_goals exact ⟨rfl,hr⟩

/-- The loop; it ends, since each round counts one more entry resolved and the count is
bounded. -/
def resolveLoop (st : ResolveState) : Except Status (List Path) :=
  match _hstep : resolveStep fs searchPaths st with
  | .done importedLibraries => .ok importedLibraries
  | .fail status => .error status
  | .next st' => resolveLoop st'
termination_by kMaxResolvedEntries + 1 - st.resolved
decreasing_by
  have := resolveStep_resolved fs searchPaths _hstep
  omega

/-! ### The search finds the closure -/

/-- A library name resolves to the path `ResolveLibraryPath` gives, when it gives one. -/
def resolvedPath (lib : Path) : Option Path :=
  if resolveLibraryPath fs lib searchPaths = [] then none else some (resolveLibraryPath fs lib searchPaths)

/-- The names a library needs, when its parse succeeds. -/
def neededNames (resolvedLib : Path) : List Path :=
  match neededLibraries fs resolvedLib with
  | .ok importedLibs => importedLibs
  | .error _ => []

/-- The search's invariant: the worklist invariant for the names on the stack, a set without
repeats, one load per library, and the stack within its bound. -/
structure ResolveInv (roots : List Path) (st : ResolveState) : Prop where
  work : WorkInv (resolvedPath fs searchPaths) (neededNames fs) roots st.importedLibraries
    (st.toResolve.map Prod.fst)
  nodup : st.importedLibraries.Nodup
  loaded : st.loaded = st.importedLibraries.length
  queue : st.toResolve.length ≤ kMaxWorkQueueSize

theorem resolveStep_eq_done {st : ResolveState} {libs : List Path}
    (h : resolveStep fs searchPaths st = .done libs) : st.toResolve = [] ∧ libs = st.importedLibraries := by
  obtain ⟨toResolve,importedLibraries,resolved,loaded⟩ := st
  unfold resolveStep at h
  cases toResolve with
  | nil =>
    cases h
    exact ⟨rfl,rfl⟩
  | cons top rest =>
    -- every round that pops a name fails or goes on
    dsimp only at h
    split_ifs at h
    split at h
    · cases h
    · split_ifs at h

theorem ResolveInv.step {roots : List Path} {st st' : ResolveState} (hinv : ResolveInv fs searchPaths roots st)
    (h : resolveStep fs searchPaths st = .next st') : ResolveInv fs searchPaths roots st' := by
  obtain ⟨lib,depth,rest,hst,-,-,⟨hdone,rfl⟩ | ⟨importedLibs,hne,hnew,hlen,-,hneeded,hqueue,rfl⟩⟩ :=
    resolveStep_eq_next fs searchPaths h
  · -- the popped name resolves to nothing, or to a library found already
    have hwork := hinv.work
    rw [hst,List.map_cons] at hwork
    refine ⟨hwork.drop fun c hc => ?_,hinv.nodup,hinv.loaded,?_⟩
    · unfold resolvedPath at hc
      split at hc
      · cases hc
      · cases hc
        exact hdone.resolve_left ‹_›
    · have := hinv.queue
      rw [hst,List.length_cons] at this
      exact Nat.le_of_succ_le this
  · -- a new library: recorded, and its names pushed
    have hwork := hinv.work
    rw [hst,List.map_cons] at hwork
    have hc : resolvedPath fs searchPaths lib = some (resolveLibraryPath fs lib searchPaths) := by
      unfold resolvedPath
      rw [if_neg hne]
    have hpushed : ∀ x, x ∈ ((importedLibs.map (·,depth + 1)).reverse.map Prod.fst) ↔
        x ∈ neededNames fs (resolveLibraryPath fs lib searchPaths) := by
      intro x
      simp [neededNames,hneeded]
    have hq := hinv.queue
    rw [hst,List.length_cons] at hq
    refine ⟨?_,?_,?_,?_⟩
    · rw [List.map_append]
      exact hwork.visit hc hpushed
    · exact List.nodup_append.mpr ⟨hinv.nodup,List.nodup_singleton _,
        fun a ha b hb hab => hnew (List.mem_singleton.mp hb ▸ hab ▸ ha)⟩
    · simp only [List.length_append,List.length_singleton,hinv.loaded]
    · simp only [List.length_append,List.length_reverse,List.length_map]
      unfold kMaxWorkQueueSize at hqueue hq ⊢
      omega

/-- The loop unfolded once, without the equation its definition keeps for termination. -/
theorem resolveLoop_eq (st : ResolveState) : resolveLoop fs searchPaths st =
    match resolveStep fs searchPaths st with
    | .done importedLibraries => .ok importedLibraries
    | .fail status => .error status
    | .next st' => resolveLoop fs searchPaths st' := by
  rw [resolveLoop]
  split <;> rename_i hstep <;> rw [hstep]

theorem resolveLoop_inv {roots : List Path} {st : ResolveState} (hinv : ResolveInv fs searchPaths roots st)
    {libs : List Path} (h : resolveLoop fs searchPaths st = .ok libs) :
    ∃ st', st'.toResolve = [] ∧ st'.importedLibraries = libs ∧ ResolveInv fs searchPaths roots st' := by
  induction st using resolveLoop.induct fs searchPaths with
  | case1 st libs' hstep =>
    rw [resolveLoop_eq,hstep] at h
    cases h
    obtain ⟨hnil,rfl⟩ := resolveStep_eq_done fs searchPaths hstep
    exact ⟨st,hnil,rfl,hinv⟩
  | case2 st e hstep =>
    rw [resolveLoop_eq,hstep] at h
    cases h
  | case3 st st' hstep ih =>
    rw [resolveLoop_eq,hstep] at h
    exact ih (hinv.step fs searchPaths hstep) h

theorem resolveLibraryPath_spec {libName : Path} {searchPaths : List Path}
    (h : resolveLibraryPath fs libName searchPaths ≠ []) :
    ∃ dir ∈ searchPaths, resolveLibraryPath fs libName searchPaths = cleanPath (joinPath dir libName) ∧
      stripBasename (resolveLibraryPath fs libName searchPaths) = dir ∧
      fs.pathExists (resolveLibraryPath fs libName searchPaths) = true := by
  induction searchPaths with
  | nil => exact absurd rfl h
  | cons dir dirs ih =>
    unfold resolveLibraryPath at h ⊢
    cases hp : existingPathInsideDir fs dir libName with
    | ok path =>
      simp only [hp] at h ⊢
      unfold existingPathInsideDir at hp
      dsimp only at hp
      by_cases hs : stripBasename (cleanPath (joinPath dir libName)) ≠ dir
      · rw [if_pos hs] at hp
        cases hp
      rw [if_neg hs] at hp
      by_cases he : (!fs.pathExists (cleanPath (joinPath dir libName))) = true
      · rw [if_pos he] at hp
        cases hp
      rw [if_neg he] at hp
      cases hp
      exact ⟨dir,List.mem_cons_self,rfl,not_not.mp hs,by simpa using he⟩
    | error e =>
      simp only [hp] at h ⊢
      obtain ⟨d,hd,hspec⟩ := ih h
      exact ⟨d,List.mem_cons_of_mem dir hd,hspec⟩

theorem resolved_of_reach {roots : List Path} {lib : Path}
    (h : Reach (resolvedPath fs searchPaths) (neededNames fs) roots lib) :
    ∃ libName, resolveLibraryPath fs libName searchPaths = lib ∧ lib ≠ [] := by
  have hres : ∀ {libName c}, resolvedPath fs searchPaths libName = some c →
      ∃ libName, resolveLibraryPath fs libName searchPaths = c ∧ c ≠ [] := by
    intro libName c hc
    unfold resolvedPath at hc
    split at hc
    · cases hc
    · cases hc
      exact ⟨libName,rfl,‹_›⟩
  cases h with
  | root _ hc => exact hres hc
  | dep _ _ hc => exact hres hc

theorem ResolveInv.init {roots : List Path} (hlen : roots.length ≤ kMaxWorkQueueSize) :
    ResolveInv fs searchPaths roots ⟨(roots.map (·,1)).reverse,[],0,0⟩ where
  work := WorkInv.init fun a => by simp
  nodup := List.nodup_nil
  loaded := rfl
  queue := by simpa using hlen

theorem neededLibraries_error_code {resolvedLib : Path} {e : Status}
    (h : neededLibraries fs resolvedLib = .error e) : e.code ≠ .ok := by
  unfold neededLibraries at h
  cases hp : fs.parseFromFile resolvedLib ElfFile.kLoadImportedLibraries with
  | error e' =>
    rw [hp] at h
    cases h
    exact fs.parseFromFile_error _ _ _ hp
  | ok libElf =>
    rw [hp] at h
    cases h

theorem resolveStep_fail_code {st : ResolveState} {e : Status}
    (h : resolveStep fs searchPaths st = .fail e) : e.code ≠ .ok := by
  obtain ⟨toResolve,importedLibraries,resolved,loaded⟩ := st
  unfold resolveStep at h
  cases toResolve with
  | nil => cases h
  | cons top rest =>
    dsimp only at h
    -- the limits fail with `FailedPrecondition`, a parse with its own error
    split_ifs at h <;> (try cases h) <;> (try simp)
    split at h
    · cases h
      exact neededLibraries_error_code fs ‹_›
    · split_ifs at h
      cases h
      simp

theorem resolveLoop_error_code {st : ResolveState} {e : Status}
    (h : resolveLoop fs searchPaths st = .error e) : e.code ≠ .ok := by
  induction st using resolveLoop.induct fs searchPaths with
  | case1 st libs hstep =>
    rw [resolveLoop_eq,hstep] at h
    cases h
  | case2 st e' hstep =>
    rw [resolveLoop_eq,hstep] at h
    cases h
    exact resolveStep_fail_code fs searchPaths hstep
  | case3 st st' hstep ih =>
    rw [resolveLoop_eq,hstep] at h
    exact ih h

end Search

/-- `AddFile(lib)` for each library, read-only, up to the first error. -/
def Mounts.addFiles (sameInode : Path → Path → Bool) (m : Mounts) : List Path → Status × Mounts
  | [] => (Status.okStatus,m)
  | lib :: libs =>
    let r := m.addFile sameInode lib true
    if r.1.code = .ok then Mounts.addFiles sameInode r.2 libs else r

/-- `Mounts::AddMappingsForBinary`. -/
def Mounts.addMappingsForBinary (fs : LibraryFs) (order : IterationOrder Path) (sameInode : Path → Path → Bool)
    (m : Mounts) (path ldLibraryPath : Path) : Status × Mounts :=
  match fs.parseFromFile path (ElfFile.kGetInterpreter ||| ElfFile.kLoadImportedLibraries) with
  | .error e => (e,m)
  | .ok elf =>
    let interpreter := pathOfBytes elf.interpreter
    if interpreter.isEmpty then (Status.okStatus,m)
    else match validateInterpreter interpreter with
    | .error e => (e,m)
    | .ok () =>
      let searchPaths := fullSearchPaths fs ldLibraryPath
      let importedLibs := elf.importedLibraries.map pathOfBytes
      if importedLibs.length > kMaxWorkQueueSize then
        (failedPreconditionError "Exceeded max entries pending resolving limit",m)
      else match resolveLoop fs searchPaths ⟨(importedLibs.map (·,1)).reverse,[],0,0⟩ with
      | .error e => (e,m)
      | .ok importedLibraries =>
        let libs := if interpreter ∈ importedLibraries then importedLibraries
          else importedLibraries ++ [interpreter]
        m.addFiles sameInode (order.order libs)


theorem mem_insert_interpreter {interpreter lib : Path} {libs : List Path} :
    lib ∈ (if interpreter ∈ libs then libs else libs ++ [interpreter]) ↔ lib = interpreter ∨ lib ∈ libs := by
  split
  · constructor
    · exact Or.inr
    · rintro (rfl | h)
      · assumption
      · exact h
  · simp [or_comm]

theorem nodup_insert_interpreter {interpreter : Path} {libs : List Path} (h : libs.Nodup) :
    (if interpreter ∈ libs then libs else libs ++ [interpreter]).Nodup := by
  split
  · exact h
  · rename_i hnot
    exact List.nodup_append.mpr ⟨h,List.nodup_singleton _,
      fun a ha b hb hab => hnot (List.mem_singleton.mp hb ▸ hab ▸ ha)⟩

/-- When it succeeds on a binary with an interpreter, `AddMappingsForBinary` mounts, read-only and
each once, the interpreter and exactly the libraries reachable from the binary's needed names
through `ResolveLibraryPath`; each of these is an existing file directly inside one of the search
directories. -/
theorem addMappingsForBinary_mounts (fs : LibraryFs) (order : IterationOrder Path) (sameInode : Path → Path → Bool)
    (m : Mounts)
    {path ldLibraryPath : Path} {elf : ElfFile}
    (hparse : fs.parseFromFile path (ElfFile.kGetInterpreter ||| ElfFile.kLoadImportedLibraries) = .ok elf)
    (hdyn : elf.interpreter ≠ [])
    (hok : (m.addMappingsForBinary fs order sameInode path ldLibraryPath).1.code = .ok) :
    ∃ libs, m.addMappingsForBinary fs order sameInode path ldLibraryPath = m.addFiles sameInode libs ∧
      libs.Nodup ∧
      (∀ lib, lib ∈ libs ↔ lib = pathOfBytes elf.interpreter ∨
        Reach (resolvedPath fs (fullSearchPaths fs ldLibraryPath)) (neededNames fs)
          (elf.importedLibraries.map pathOfBytes) lib) ∧
      ∀ lib ∈ libs, lib = pathOfBytes elf.interpreter ∨
        ∃ dir ∈ fullSearchPaths fs ldLibraryPath, stripBasename lib = dir ∧ fs.pathExists lib = true := by
  have hint : (pathOfBytes elf.interpreter).isEmpty = false := by
    simpa [pathOfBytes] using hdyn
  unfold Mounts.addMappingsForBinary at hok ⊢
  rw [hparse] at hok ⊢
  dsimp only at hok ⊢
  rw [if_neg (by rw [hint]; decide)] at hok ⊢
  cases hv : validateInterpreter (pathOfBytes elf.interpreter) with
  | error e =>
    -- the only error of the check is `InvalidArgument`
    rw [hv] at hok
    unfold validateInterpreter at hv
    split at hv <;> cases hv
    simp at hok
  | ok u =>
    simp only [hv] at hok ⊢
    by_cases hq : (elf.importedLibraries.map pathOfBytes).length > kMaxWorkQueueSize
    · rw [if_pos hq] at hok
      simp at hok
    rw [if_neg hq] at hok ⊢
    cases hl : resolveLoop fs (fullSearchPaths fs ldLibraryPath)
        ⟨((elf.importedLibraries.map pathOfBytes).map (·,1)).reverse,[],0,0⟩ with
    | error e =>
      simp only [hl] at hok
      exact absurd hok (resolveLoop_error_code fs _ hl)
    | ok found =>
      dsimp only
      obtain ⟨st',hnil,rfl,hinv⟩ := resolveLoop_inv fs _ (ResolveInv.init fs _ (Nat.le_of_not_gt hq)) hl
      have hwork := hinv.work
      rw [hnil,List.map_nil] at hwork
      have hmem : ∀ lib, lib ∈ (if pathOfBytes elf.interpreter ∈ st'.importedLibraries then
          st'.importedLibraries else st'.importedLibraries ++ [pathOfBytes elf.interpreter]) ↔
          lib = pathOfBytes elf.interpreter ∨ Reach (resolvedPath fs (fullSearchPaths fs ldLibraryPath))
            (neededNames fs) (elf.importedLibraries.map pathOfBytes) lib := by
        intro lib
        rw [mem_insert_interpreter,hwork.mem_iff]
      have hperm := order.perm (if pathOfBytes elf.interpreter ∈ st'.importedLibraries then
        st'.importedLibraries else st'.importedLibraries ++ [pathOfBytes elf.interpreter])
      refine ⟨_,rfl,hperm.nodup_iff.mpr (nodup_insert_interpreter hinv.nodup),
        fun lib => hperm.mem_iff.trans (hmem lib),fun lib hlib => ?_⟩
      rcases (hmem lib).mp (hperm.mem_iff.mp hlib) with hi | hr
      · exact .inl hi
      · -- a library found is a resolution, and a resolution lies in a search directory
        obtain ⟨libName,rfl,hne⟩ := resolved_of_reach fs _ hr
        obtain ⟨dir,hdir,-,hstrip,hexists⟩ := resolveLibraryPath_spec fs hne
        exact .inr ⟨dir,hdir,hstrip,hexists⟩

/-- A file system with one binary that needs `libc.so.6`, found in `/lib`. -/
def bytesOf (s : String) : List UInt8 := s.toList.map fun c => c.toNat.toUInt8

def appElf : ElfFile := ⟨false,bytesOf "/lib64/ld-linux-x86-64.so.2",[],[bytesOf "libc.so.6"]⟩

def libcFs : LibraryFs where
  pathExists p := p == "/lib".toList || p == "/lib/libc.so.6".toList
  parseFromFile p _ :=
    if p = "/bin/app".toList then .ok appElf
    else if p = "/lib/libc.so.6".toList then .ok ⟨false,[],[],[]⟩
    else .error (notFoundError "No such file")
  parseFromFile_error p _ e h := by
    split_ifs at h
    cases h
    simp

theorem resolveLoop_libc : resolveLoop libcFs (fullSearchPaths libcFs [])
    ⟨[("libc.so.6".toList,1)],[],0,0⟩ = .ok ["/lib/libc.so.6".toList] := by
  rw [resolveLoop_eq,show resolveStep libcFs (fullSearchPaths libcFs []) ⟨[("libc.so.6".toList,1)],[],0,0⟩ =
    .next ⟨[],["/lib/libc.so.6".toList],1,1⟩ by decide]
  dsimp only
  rw [resolveLoop_eq]
  rfl

/-- A set whose loop meets its elements last inserted first. -/
def lastFirst : IterationOrder Path := ⟨List.reverse,List.reverse_perm⟩

theorem addMappingsForBinary_libc : Mounts.init.addMappingsForBinary libcFs lastFirst (fun _ _ => false)
    "/bin/app".toList [] = Mounts.init.addFiles (fun _ _ => false)
      ["/lib64/ld-linux-x86-64.so.2".toList,"/lib/libc.so.6".toList] := by
  unfold Mounts.addMappingsForBinary
  rw [show libcFs.parseFromFile "/bin/app".toList (ElfFile.kGetInterpreter ||| ElfFile.kLoadImportedLibraries) =
    .ok appElf from rfl]
  dsimp only
  rw [if_neg (by decide),show validateInterpreter (pathOfBytes appElf.interpreter) = .ok () by decide]
  dsimp only
  rw [if_neg (by decide),
    show ((appElf.importedLibraries.map pathOfBytes).map (·,1)).reverse = [("libc.so.6".toList,1)] by decide,
    resolveLoop_libc]
  rfl

/-- The binary's libraries: the interpreter, and `libc.so.6` from `/lib`. -/
theorem addMappingsForBinary_mounts_libc :
    ∃ libs, Mounts.init.addMappingsForBinary libcFs lastFirst (fun _ _ => false) "/bin/app".toList [] =
        Mounts.init.addFiles (fun _ _ => false) libs ∧ libs.Nodup ∧
      (∀ lib, lib ∈ libs ↔ lib = pathOfBytes appElf.interpreter ∨
        Reach (resolvedPath libcFs (fullSearchPaths libcFs [])) (neededNames libcFs)
          (appElf.importedLibraries.map pathOfBytes) lib) ∧
      ∀ lib ∈ libs, lib = pathOfBytes appElf.interpreter ∨
        ∃ dir ∈ fullSearchPaths libcFs [], stripBasename lib = dir ∧ libcFs.pathExists lib = true :=
  addMappingsForBinary_mounts libcFs lastFirst (fun _ _ => false) Mounts.init rfl (by decide)
    (by rw [addMappingsForBinary_libc]; decide)

end SandboxedApi.Sandbox2
