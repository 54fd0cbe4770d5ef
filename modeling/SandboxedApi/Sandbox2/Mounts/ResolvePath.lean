import SandboxedApi.Sandbox2.Mounts.Update

/-! # Resolving an inside path

`ResolvePath` walks down the entries along the clean path for as long as they exist. Where an
entry is missing it answers from the node it stands at: the outside path of a bound directory
joined with the rest of the path, or `NotFound`. At the end of the path it answers with the
outside path of a file or directory node.

In the view `CreateMounts` builds, a path below a bound directory shows that directory's
contents unless a deeper mount covers it. The walk only looks at the node where it stops, so a
path that runs through an entry made for a deeper mount, below a bound directory, is not found.
-/
namespace SandboxedApi.Sandbox2
open SandboxedApi.File

/-- `absl::StrSplit(tail, absl::MaxSplits('/', 1))`, read into a pair. -/
def splitFirst (tail : Path) : Path × Path :=
  (tail.takeWhile (· != '/'),(tail.dropWhile (· != '/')).drop 1)

theorem length_splitFirst_snd {tail : Path} (h : tail ≠ []) :
    (splitFirst tail).2.length < tail.length := by
  have hd : (tail.dropWhile (· != '/')).length ≤ tail.length := (List.dropWhile_suffix _).length_le
  have hp : 0 < tail.length := List.length_pos_of_ne_nil h
  simp only [splitFirst,List.length_drop]
  omega

/-- The loop of `ResolvePath`, on the tail of the clean path still to be walked. -/
def resolvePathWalk (curtree : MountTree) (tail : Path) : Except Status Path :=
  if tail = [] then
    match curtree.node with
    | some (.fileNode outside _) | some (.dirNode outside _) => .ok outside
    | _ => .error (notFoundError "Path could not be resolved in the mounts")
  else
    match curtree.entries.lookup (splitFirst tail).1 with
    | none =>
      match curtree.node with
      | some (.dirNode outside _) => .ok (joinPath outside tail)
      | _ => .error (notFoundError "Path could not be resolved in the mounts")
    | some c => resolvePathWalk c (splitFirst tail).2
termination_by tail.length
decreasing_by exact length_splitFirst_snd ‹_›

def Mounts.resolvePath (m : Mounts) (path : Path) : Except Status Path :=
  if !isAbsolutePath path then .error (invalidArgumentError "Path has to be absolute")
  else resolvePathWalk m.mountTree (stripPrefix (cleanPath path) ['/'])

/-! ### The view `CreateMounts` builds -/

/-- The last file, directory or tmpfs mount on the way down `parts`, with the components below
it. -/
def deepestMount (t : MountTree) (parts : List Path) (best : Option (MountNode × List Path)) :
    Option (MountNode × List Path) :=
  let here := match t.node with
    | some (.rootNode _) | none => best
    | some n => some (n,parts)
  match parts with
  | [] => here
  | part :: rest =>
    match t.entries.lookup part with
    | none => here
    | some c => deepestMount c rest here

/-- What a clean path shows in the mounted view: the outside file mounted exactly there, or the
outside directory of the deepest bound directory joined with the rest; nothing in a tmpfs, below
a file, or outside every mount. -/
def viewResolve (t : MountTree) (parts : List Path) : Except Status Path :=
  match deepestMount t parts none with
  | some (.fileNode outside _,[]) => .ok outside
  | some (.dirNode outside _,rest) => .ok (joinPath outside (['/'].intercalate rest))
  | _ => .error (notFoundError "Path could not be resolved in the mounts")

/-- A directory bound at `/a` and a file at `/a/b/c`: in the view, `/a/b/x` is `b/x` in the
bound directory, but the walk stops at the entry `b`, which has no node of its own. -/
theorem resolvePath_below_dirMount :
    ((Mounts.init.addDirectoryAt (fun _ _ => false) ['/','A'] ['/','a'] false).2.addFileAt
        (fun _ _ => false) ['/','F'] ['/','a','/','b','/','c'] false).2.resolvePath
        ['/','a','/','b','/','x'] =
      .error (notFoundError "Path could not be resolved in the mounts") ∧
    viewResolve ((Mounts.init.addDirectoryAt (fun _ _ => false) ['/','A'] ['/','a'] false).2.addFileAt
        (fun _ _ => false) ['/','F'] ['/','a','/','b','/','c'] false).2.mountTree
        (mountParts ['/','a','/','b','/','x']) = .ok ['/','A','/','b','/','x'] := by
  have ht : ((Mounts.init.addDirectoryAt (fun _ _ => false) ['/','A'] ['/','a'] false).2.addFileAt
      (fun _ _ => false) ['/','F'] ['/','a','/','b','/','c'] false).2.mountTree =
      ⟨[(['a'],⟨[(['b'],⟨[(['c'],⟨[],some (.fileNode ['/','F'] true)⟩)],none⟩)],
        some (.dirNode ['/','A'] true)⟩)],some (.rootNode false)⟩ := rfl
  constructor
  · rw [Mounts.resolvePath,if_neg (by decide),ht]
    simp +decide [splitFirst,resolvePathWalk]
  · rw [ht]
    decide

end SandboxedApi.Sandbox2
