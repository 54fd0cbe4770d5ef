import SandboxedApi.Util.Path
import SandboxedApi.Status

/-! # The mount tree

`Mounts` keeps the mounts of the sandbox as a tree: the root node stands for `/`, and each entry
maps the next path component to the subtree below it. `Insert` cleans the inside path, walks
down its parts, creating the directories it meets on the way, and sets the node of the last one;
`Remove` walks down the same way and clears the subtree it ends at. Every key comes from the
pieces of a clean absolute path, so it is a component; every entry is made under a node that
is not a file, and a file is set only where there are no entries. `CreateMounts` then joins the
keys under the sandbox root, which keeps each path it mounts at below that root.

Whether two outside paths are the same file is a question `stat` answers on the host: it is the
parameter `sameInode`, and every result holds for any answer.
-/
namespace SandboxedApi.Sandbox2
open SandboxedApi.File

/-- `MountTree::Node`, with its oneof set, as every node the public calls build has it. -/
inductive MountNode where
  | fileNode (outside : Path) (writable : Bool)
  | dirNode (outside : Path) (writable : Bool)
  | tmpfsNode (tmpfsOptions : Path)
  | rootNode (writable : Bool)
  deriving DecidableEq, Repr

structure MountTree where
  entries : List (Path × MountTree)
  node : Option MountNode
  deriving Repr

/-- `MountTree()`. -/
def MountTree.empty : MountTree := ⟨[],none⟩

def pathContainsNullByte (path : Path) : Bool := path.contains (Char.ofNat 0)

def MountNode.hasFileNode : MountNode → Bool
  | .fileNode .. => true
  | _ => false

/-- `has_node() && node().has_file_node()`. -/
def MountTree.hasFileNode (t : MountTree) : Bool := t.node.any MountNode.hasFileNode

/-- `Node::DebugString()`: the node in the protobuf text format. -/
def MountNode.debugString : MountNode → String
  | .fileNode outside writable => "file_node \x7b\n  outside: \"" ++ String.ofList outside ++
      "\"\n  writable: " ++ toString writable ++ "\n\x7d\n"
  | .dirNode outside writable => "dir_node \x7b\n  outside: \"" ++ String.ofList outside ++
      "\"\n  writable: " ++ toString writable ++ "\n\x7d\n"
  | .tmpfsNode tmpfsOptions => "tmpfs_node \x7b\n  tmpfs_options: \"" ++
      String.ofList tmpfsOptions ++ "\"\n\x7d\n"
  | .rootNode writable => "root_node \x7b\n  writable: " ++ toString writable ++ "\n\x7d\n"

section Insert

variable (sameInode : Path → Path → Bool)

def isSameFile (path1 path2 : Path) : Bool := path1 == path2 || sameInode path1 path2

def isEquivalentNode : MountNode → MountNode → Bool
  | .fileNode outside1 writable1, .fileNode outside2 writable2 =>
    writable1 == writable2 && isSameFile sameInode outside1 outside2
  | .dirNode outside1 writable1, .dirNode outside2 writable2 =>
    writable1 == writable2 && isSameFile sameInode outside1 outside2
  | .tmpfsNode tmpfsOptions1, .tmpfsNode tmpfsOptions2 => tmpfsOptions1 == tmpfsOptions2
  | .rootNode writable1, .rootNode writable2 => writable1 == writable2
  | _, _ => false

/-- The checks `Insert` makes on the node before it looks at the path. -/
def checkNewNode : MountNode → Option Status
  | .fileNode outside _ | .dirNode outside _ =>
    if outside.isEmpty then some (invalidArgumentError "Outside path cannot be empty")
    else if pathContainsNullByte outside then
      some (invalidArgumentError ("Outside path contains a null byte: " ++ String.ofList outside))
    else none
  | .rootNode _ => some (invalidArgumentError "Cannot insert a RootNode")
  | .tmpfsNode _ => none

/-- `entries()->insert({part, MountTree()})`: the entry of `part`, made empty if missing. -/
def MountTree.insertEntry (t : MountTree) (part : Path) : MountTree :=
  {t with entries := ListMap.insertIfAbsent part MountTree.empty t.entries}

/-- The subtree of `part`, as `find` or that insertion returns it. -/
def MountTree.child (t : MountTree) (part : Path) : MountTree :=
  (t.entries.lookup part).getD MountTree.empty

/-- The subtree of `part` written back through the pointer to it. -/
def MountTree.writeEntry (t : MountTree) (part : Path) (c : MountTree) : MountTree :=
  {t with entries := ListMap.setValue part c t.entries}

/-- The end of `Insert`, at the subtree of the final part. -/
def insertNode (path : Path) (newNode : MountNode) (curtree : MountTree) : Status × MountTree :=
  match curtree.node with
  | some node =>
    if isEquivalentNode sameInode node newNode then (Status.okStatus,curtree)
    else (failedPreconditionError ("Inserting " ++ String.ofList path ++
      " twice with conflicting values " ++ node.debugString ++ " vs. " ++ newNode.debugString),curtree)
  | none =>
    if newNode.hasFileNode && !curtree.entries.isEmpty then
      (failedPreconditionError ("Trying to mount file over existing directory at " ++
        String.ofList path),curtree)
    else (Status.okStatus,{curtree with node := some newNode})

/-- The loop of `Insert` over the parts before the final one, then its end: each part's entry
is made if missing, and a file on the way stops the walk without undoing what it made. -/
def insertWalk (path : Path) (newNode : MountNode) (finalPart : Path) :
    List Path → MountTree → Status × MountTree
  | [], curtree =>
    let parent := curtree.insertEntry finalPart
    let r := insertNode sameInode path newNode (parent.child finalPart)
    (r.1,parent.writeEntry finalPart r.2)
  | part :: parts, curtree =>
    let parent := curtree.insertEntry part
    if (parent.child part).hasFileNode then
      (failedPreconditionError ("Cannot insert " ++ String.ofList path ++
        " since a file is mounted as a parent directory"),parent)
    else
      let r := insertWalk path newNode finalPart parts (parent.child part)
      (r.1,parent.writeEntry part r.2)

end Insert

/-- The walk of `Remove`, which changes nothing until it has found the whole path. -/
def removeWalk (path : Path) : List Path → MountTree → Except Status MountTree
  | [], _ => .ok MountTree.empty
  | part :: parts, curtree =>
    if curtree.hasFileNode then
      .error (notFoundError ("File node is mounted at parent of: " ++ String.ofList path))
    else match curtree.entries.lookup part with
      | none => .error (notFoundError ("Path does not exist in mounts: " ++ String.ofList path))
      | some c => (removeWalk path parts c).map (curtree.writeEntry part)

structure Mounts where
  mountTree : MountTree

/-- `Mounts()`: a read-only root and nothing else. -/
def Mounts.init : Mounts := ⟨⟨[],some (.rootNode false)⟩⟩

section Operations

variable (sameInode : Path → Path → Bool)

def Mounts.insert (m : Mounts) (path : Path) (newNode : MountNode) : Status × Mounts :=
  if pathContainsNullByte path then
    (invalidArgumentError ("Inside path contains a null byte: " ++ String.ofList path),m)
  else match checkNewNode newNode with
  | some err => (err,m)
  | none =>
    if !isAbsolutePath (cleanPath path) then (invalidArgumentError "Only absolute paths are supported",m)
    else if cleanPath path = ['/'] then (invalidArgumentError "The root already exists",m)
    else
      let parts := (stripPrefix (cleanPath path) ['/']).splitOn '/'
      let r := insertWalk sameInode path newNode (parts.getLast (List.splitOn_ne_nil _ _))
        parts.dropLast m.mountTree
      (r.1,⟨r.2⟩)

def Mounts.remove (m : Mounts) (path : Path) : Status × Mounts :=
  if pathContainsNullByte path then
    (invalidArgumentError ("Path contains a null byte: " ++ String.ofList path),m)
  else if !isAbsolutePath (cleanPath path) then (invalidArgumentError "Only absolute paths are supported",m)
  else if cleanPath path = ['/'] then (invalidArgumentError "Cannot remove root",m)
  else match removeWalk path ((stripPrefix (cleanPath path) ['/']).splitOn '/') m.mountTree with
    | .ok t => (Status.okStatus,⟨t⟩)
    | .error err => (err,m)

def Mounts.addFileAt (m : Mounts) (outside inside : Path) (isRo : Bool) : Status × Mounts :=
  m.insert sameInode inside (.fileNode outside !isRo)

def Mounts.addFile (m : Mounts) (path : Path) (isRo : Bool) : Status × Mounts :=
  m.addFileAt sameInode path path isRo

def Mounts.addDirectoryAt (m : Mounts) (outside inside : Path) (isRo : Bool) : Status × Mounts :=
  m.insert sameInode inside (.dirNode outside !isRo)

def Mounts.addTmpfs (m : Mounts) (inside : Path) (sz : Nat) : Status × Mounts :=
  m.insert sameInode inside (.tmpfsNode ("size=" ++ toString sz).toList)

/-- `mutable_node()->mutable_root_node()->set_writable(true)`, which makes the node a root node
whatever it held. -/
def Mounts.setRootWritable (m : Mounts) : Mounts := ⟨{m.mountTree with node := some (.rootNode true)}⟩

/-- The public calls that change the mounts. -/
inductive MountsOp where
  | addFile (path : Path) (isRo : Bool)
  | addFileAt (outside inside : Path) (isRo : Bool)
  | addDirectoryAt (outside inside : Path) (isRo : Bool)
  | addTmpfs (inside : Path) (sz : Nat)
  | remove (path : Path)
  | setRootWritable
  deriving DecidableEq, Repr

def Mounts.apply (m : Mounts) : MountsOp → Status × Mounts
  | .addFile path isRo => m.addFile sameInode path isRo
  | .addFileAt outside inside isRo => m.addFileAt sameInode outside inside isRo
  | .addDirectoryAt outside inside isRo => m.addDirectoryAt sameInode outside inside isRo
  | .addTmpfs inside sz => m.addTmpfs sameInode inside sz
  | .remove path => m.remove path
  | .setRootWritable => (Status.okStatus,m.setRootWritable)

end Operations

/-- One public call, with the file system answering `stat` as it may at that moment. -/
inductive Mounts.Step : Mounts → Mounts → Prop
  | apply (sameInode : Path → Path → Bool) (m : Mounts) (op : MountsOp) : Step m (m.apply sameInode op).2

/-- The mounts some sequence of calls makes from `Mounts()`. -/
def Mounts.Reachable (m : Mounts) : Prop := Relation.ReflTransGen Mounts.Step Mounts.init m

/-! ### Creating the mounts -/

def msBind : Nat := 4096

/-- What `CreateMounts` does at a path: create a backing file or directory, or call
`MountWithDefaults(source, target, fs_type, extra_flags, option_str, is_ro)`. -/
inductive MountAction where
  | createBackingFile (path : Path)
  | createDirectory (path : Path)
  | mountWithDefaults (source target fsType : Path) (extraFlags : Nat) (optionStr : Option Path)
      (isRo : Bool)
  deriving DecidableEq, Repr

def MountAction.target : MountAction → Path
  | .createBackingFile path | .createDirectory path => path
  | .mountWithDefaults _ target .. => target

def backingAction (node : Option MountNode) (path : Path) : MountAction :=
  if node.any MountNode.hasFileNode then .createBackingFile path else .createDirectory path

mutual

def createMounts : MountTree → Path → Bool → List MountAction
  | ⟨entries,node⟩, path, createBackingFiles =>
    let backing := if createBackingFiles then [backingAction node path] else []
    match node with
    | some (.dirNode outside writable) =>
      -- the backing files below a bound directory are the user's to provide
      backing ++ .mountWithDefaults outside path [] msBind none (!writable) ::
        createMountsEntries entries path false
    | some (.tmpfsNode tmpfsOptions) =>
      backing ++ .mountWithDefaults [] path "tmpfs".toList 0 (some tmpfsOptions) false ::
        createMountsEntries entries path true
    | some (.fileNode outside writable) =>
      -- a file node is a leaf, and its entries are not traversed
      backing ++ [.mountWithDefaults outside path [] msBind none (!writable)]
    | _ => backing ++ createMountsEntries entries path createBackingFiles

def createMountsEntries : List (Path × MountTree) → Path → Bool → List MountAction
  | [], _, _ => []
  | (key,t) :: rest, path, createBackingFiles =>
    createMounts t (joinPath path key) createBackingFiles ++
      createMountsEntries rest path createBackingFiles

end

def Mounts.createMounts (m : Mounts) (rootPath : Path) : List MountAction :=
  Sandbox2.createMounts m.mountTree rootPath true

/-! ### The invariant -/

/-- A key of the tree: a path component without NUL. -/
def IsMountKey (key : Path) : Prop := IsComponent key ∧ Char.ofNat 0 ∉ key

/-- A file node has no entries, and every key below is a component without NUL. -/
inductive MountTree.Valid : MountTree → Prop
  | mk {entries : List (Path × MountTree)} {node : Option MountNode}
      (hleaf : node.any MountNode.hasFileNode = true → entries = [])
      (hkeys : ∀ e ∈ entries, IsMountKey e.1)
      (hsub : ∀ e ∈ entries, e.2.Valid) : MountTree.Valid ⟨entries,node⟩

/-- `s` is the subtree of `t` at the end of the keys `ks`. -/
inductive MountTree.SubtreeAt : MountTree → List Path → MountTree → Prop
  | here (t : MountTree) : SubtreeAt t [] t
  | entry {t c s : MountTree} {key : Path} {ks : List Path} :
      (key,c) ∈ t.entries → SubtreeAt c ks s → SubtreeAt t (key :: ks) s

/-- What holds of every reachable mount table: the root keeps its root node, and the tree is
valid. -/
structure Mounts.Inv (m : Mounts) : Prop where
  root : ∃ w, m.mountTree.node = some (.rootNode w)
  valid : m.mountTree.Valid

namespace MountTree

variable {t c : MountTree} {part : Path}

theorem Valid.leaf (h : t.Valid) (hf : t.hasFileNode = true) : t.entries = [] := by
  cases h with
  | mk hleaf _ _ => exact hleaf hf

theorem Valid.keys (h : t.Valid) : ∀ e ∈ t.entries, IsMountKey e.1 := by
  cases h with
  | mk _ hkeys _ => exact hkeys

theorem Valid.sub (h : t.Valid) : ∀ e ∈ t.entries, e.2.Valid := by
  cases h with
  | mk _ _ hsub => exact hsub

theorem Valid.of_entries {entries : List (Path × MountTree)} {node : Option MountNode}
    (hleaf : node.any MountNode.hasFileNode = false)
    (he : ∀ e ∈ entries, IsMountKey e.1 ∧ e.2.Valid) : MountTree.Valid ⟨entries,node⟩ :=
  .mk (fun h => absurd h (by simp [hleaf])) (fun e h => (he e h).1) (fun e h => (he e h).2)

theorem valid_empty : MountTree.empty.Valid :=
  .mk (fun h => absurd h (by simp)) (fun _ h => absurd h List.not_mem_nil)
    (fun _ h => absurd h List.not_mem_nil)

theorem Valid.subtreeAt (h : t.Valid) {ks : List Path} {s : MountTree} (hs : t.SubtreeAt ks s) :
    s.Valid := by
  induction hs with
  | here => exact h
  | entry hm _ ih => exact ih (h.sub _ hm)

@[simp] theorem node_insertEntry : (t.insertEntry part).node = t.node := rfl
@[simp] theorem node_writeEntry : (t.writeEntry part c).node = t.node := rfl
@[simp] theorem hasFileNode_empty : MountTree.empty.hasFileNode = false := rfl
@[simp] theorem child_empty : MountTree.empty.child part = MountTree.empty := rfl

theorem child_of_lookup (h : t.entries.lookup part = some c) : t.child part = c := by
  simp [child,h]

theorem child_of_lookup_none (h : t.entries.lookup part = none) : t.child part = MountTree.empty := by
  simp [child,h]

@[simp] theorem child_insertEntry : (t.insertEntry part).child part = t.child part := by
  simp [child,insertEntry,ListMap.lookup_insertIfAbsent]

theorem insertEntry_of_lookup (h : t.entries.lookup part = some c) : t.insertEntry part = t := by
  -- a recursive structure has no eta, so the tree is taken apart first
  cases t
  rw [insertEntry,ListMap.insertIfAbsent_of_lookup h]

theorem writeEntry_of_lookup (h : t.entries.lookup part = some c) : t.writeEntry part c = t := by
  cases t
  rw [writeEntry,ListMap.setValue_of_lookup h]

theorem Valid.child (h : t.Valid) (part : Path) : (t.child part).Valid := by
  cases hl : t.entries.lookup part with
  | none => rw [child_of_lookup_none hl]; exact valid_empty
  | some c => rw [child_of_lookup hl]; exact h.sub _ (ListMap.mem_of_lookup hl)

theorem Valid.insertEntry (h : t.Valid) (hnf : t.hasFileNode = false) (hk : IsMountKey part) :
    (t.insertEntry part).Valid :=
  Valid.of_entries hnf (ListMap.forall_insertIfAbsent (P := fun k s => IsMountKey k ∧ s.Valid)
    (fun e he => ⟨h.keys e he,h.sub e he⟩) ⟨hk,valid_empty⟩)

theorem Valid.writeEntry (h : t.Valid) (hnf : t.hasFileNode = false) (hk : IsMountKey part)
    (hc : c.Valid) : (t.writeEntry part c).Valid :=
  Valid.of_entries hnf (ListMap.forall_setValue (P := fun k s => IsMountKey k ∧ s.Valid)
    (fun e he => ⟨h.keys e he,h.sub e he⟩) ⟨hk,hc⟩)

end MountTree

open MountTree

/-! ### Every call keeps the invariant -/

section Preservation

variable (sameInode : Path → Path → Bool) {path : Path} {newNode : MountNode}

theorem valid_insertNode {c : MountTree} (hc : c.Valid) :
    (insertNode sameInode path newNode c).2.Valid := by
  unfold insertNode
  cases hn : c.node with
  | some node =>
    simp only
    split <;> exact hc
  | none =>
    simp only
    split
    · exact hc
    · -- a file is set only where there are no entries
      rename_i hfe
      obtain ⟨entries,node⟩ := c
      simp only at hn
      subst hn
      refine .mk ?_ hc.keys hc.sub
      intro hf
      have hf' : newNode.hasFileNode = true := by simpa using hf
      simpa [hf'] using hfe

theorem node_insertWalk {finalPart : Path} (parts : List Path) (t : MountTree) :
    (insertWalk sameInode path newNode finalPart parts t).2.node = t.node := by
  cases parts with
  | nil => rfl
  | cons part parts =>
    simp only [insertWalk]
    split <;> rfl

/-- The walk of `Insert` keeps the tree valid, starting under a node that is not a file, along
keys that are components: each step makes its entry under a node the step before has checked. -/
theorem valid_insertWalk {finalPart : Path} (hfin : IsMountKey finalPart) :
    ∀ (parts : List Path) (t : MountTree), (∀ p ∈ parts, IsMountKey p) → t.Valid →
      t.hasFileNode = false → (insertWalk sameInode path newNode finalPart parts t).2.Valid := by
  intro parts
  induction parts with
  | nil =>
    intro t _ ht hnf
    have hp := ht.insertEntry hnf hfin
    exact hp.writeEntry hnf hfin (valid_insertNode sameInode (hp.child finalPart))
  | cons part parts ih =>
    intro t hparts ht hnf
    have hk := hparts part List.mem_cons_self
    have hp := ht.insertEntry hnf hk
    simp only [insertWalk]
    split
    · exact hp
    · rename_i hcf
      exact hp.writeEntry hnf hk (ih _ (fun p hm => hparts p (List.mem_cons_of_mem _ hm))
        (hp.child part) (by simpa using hcf))

theorem isMountKey_parts (hnul : pathContainsNullByte path = false)
    (ha : isAbsolutePath (cleanPath path) = true) (hr : cleanPath path ≠ ['/']) :
    ∀ q ∈ (stripPrefix (cleanPath path) ['/']).splitOn '/', IsMountKey q := by
  intro q hq
  obtain ⟨hc,hsub⟩ := (splitOn_cleanPath ha hr).2 q hq
  have hnp : Char.ofNat 0 ∉ path := by simpa [pathContainsNullByte] using hnul
  exact ⟨hc,fun h0 => hnp (hsub h0)⟩

theorem Mounts.Inv.insert {m : Mounts} (hm : m.Inv) : (m.insert sameInode path newNode).2.Inv := by
  unfold Mounts.insert
  split
  · exact hm
  rename_i hnul
  split
  · exact hm
  split
  · exact hm
  rename_i ha
  split
  · exact hm
  rename_i hr
  have hkeys := isMountKey_parts (by simpa using hnul) (by simpa using ha) hr
  obtain ⟨w,hw⟩ := hm.root
  have hnf : m.mountTree.hasFileNode = false := by simp [MountTree.hasFileNode,hw,MountNode.hasFileNode]
  refine ⟨⟨w,?_⟩,?_⟩
  · simp only
    rw [node_insertWalk,hw]
  · exact valid_insertWalk sameInode (hkeys _ (List.getLast_mem _)) _ _
      (fun p hp => hkeys p (List.dropLast_subset _ hp)) hm.valid hnf

theorem valid_removeWalk (path : Path) :
    ∀ (parts : List Path) {t t' : MountTree}, t.Valid → removeWalk path parts t = .ok t' → t'.Valid := by
  intro parts
  induction parts with
  | nil =>
    intro t t' _ h
    cases h
    exact valid_empty
  | cons part parts ih =>
    intro t t' ht h
    simp only [removeWalk] at h
    split at h
    · cases h
    rename_i hnf
    split at h
    · cases h
    rename_i c hl
    cases hr : removeWalk path parts c with
    | error e => simp only [hr] at h; cases h
    | ok c' =>
      simp only [hr] at h
      cases h
      have hm := ListMap.mem_of_lookup hl
      exact ht.writeEntry (by simpa using hnf) (ht.keys _ hm) (ih (ht.sub _ hm) hr)

theorem node_removeWalk {path part : Path} {parts : List Path} {t t' : MountTree}
    (h : removeWalk path (part :: parts) t = .ok t') : t'.node = t.node := by
  simp only [removeWalk] at h
  split at h
  · cases h
  split at h
  · cases h
  rename_i c _
  cases hr : removeWalk path parts c with
  | error e => simp only [hr] at h; cases h
  | ok c' =>
    simp only [hr] at h
    cases h
    rfl

theorem Mounts.Inv.remove {m : Mounts} (hm : m.Inv) : (m.remove path).2.Inv := by
  unfold Mounts.remove
  split
  · exact hm
  split
  · exact hm
  split
  · exact hm
  rename_i hr
  split
  · rename_i t ht
    -- `Remove` never clears the root: the clean path has at least one part
    obtain ⟨part,parts,hp⟩ := List.exists_cons_of_ne_nil (List.splitOn_ne_nil '/'
      (stripPrefix (cleanPath path) ['/']))
    rw [hp] at ht
    obtain ⟨w,hw⟩ := hm.root
    exact ⟨⟨w,(node_removeWalk ht).trans hw⟩,valid_removeWalk path _ hm.valid ht⟩
  · exact hm

theorem Mounts.Inv.setRootWritable {m : Mounts} (hm : m.Inv) : m.setRootWritable.Inv :=
  ⟨⟨true,rfl⟩,Valid.of_entries rfl (fun e he => ⟨hm.valid.keys e he,hm.valid.sub e he⟩)⟩

theorem Mounts.Inv.apply {m : Mounts} (hm : m.Inv) (op : MountsOp) : (m.apply sameInode op).2.Inv := by
  cases op with
  | addFile => exact hm.insert sameInode
  | addFileAt => exact hm.insert sameInode
  | addDirectoryAt => exact hm.insert sameInode
  | addTmpfs => exact hm.insert sameInode
  | remove => exact hm.remove
  | setRootWritable => exact hm.setRootWritable

end Preservation

theorem Mounts.inv_init : Mounts.init.Inv :=
  ⟨⟨false,rfl⟩,Valid.of_entries rfl (fun _ h => absurd h List.not_mem_nil)⟩

theorem Mounts.Inv.step {m m' : Mounts} (hm : m.Inv) (h : Mounts.Step m m') : m'.Inv := by
  cases h with
  | apply sameInode m op => exact hm.apply sameInode op

theorem Mounts.Reachable.inv {m : Mounts} (h : m.Reachable) : m.Inv := by
  induction h with
  | refl => exact Mounts.inv_init
  | tail _ hs ih => exact ih.step hs

/-! ### A failed call changes nothing

`Insert` makes the entries of its walk before it knows whether it succeeds, but a walk that
fails has only passed entries that were there already: below a new entry there is nothing that
could stop it.
-/

section Failure

variable (sameInode : Path → Path → Bool) {path : Path} {newNode : MountNode}

theorem insertNode_empty : (insertNode sameInode path newNode MountTree.empty).1 = Status.okStatus := by
  unfold insertNode
  simp [MountTree.empty]

theorem insertNode_error {c : MountTree} (h : (insertNode sameInode path newNode c).1.code ≠ .ok) :
    (insertNode sameInode path newNode c).2 = c := by
  revert h
  unfold insertNode
  split
  · split <;> exact fun _ => rfl
  · split
    · exact fun _ => rfl
    · exact fun h => absurd rfl h

theorem insertWalk_empty {finalPart : Path} (parts : List Path) :
    (insertWalk sameInode path newNode finalPart parts MountTree.empty).1 = Status.okStatus := by
  induction parts with
  | nil =>
    simp only [insertWalk,child_insertEntry,child_empty]
    exact insertNode_empty sameInode
  | cons part parts ih =>
    simp only [insertWalk,child_insertEntry,child_empty,hasFileNode_empty,Bool.false_eq_true,
      if_false]
    exact ih

theorem insertWalk_error {finalPart : Path} :
    ∀ (parts : List Path) (t : MountTree),
      (insertWalk sameInode path newNode finalPart parts t).1.code ≠ .ok →
        (insertWalk sameInode path newNode finalPart parts t).2 = t := by
  intro parts
  induction parts with
  | nil =>
    intro t h
    simp only [insertWalk,child_insertEntry] at h ⊢
    cases hl : t.entries.lookup finalPart with
    | none =>
      rw [child_of_lookup_none hl,insertNode_empty] at h
      exact absurd rfl h
    | some c =>
      rw [child_of_lookup hl] at h ⊢
      rw [insertNode_error sameInode h,insertEntry_of_lookup hl,writeEntry_of_lookup hl]
  | cons part parts ih =>
    intro t h
    simp only [insertWalk,child_insertEntry] at h ⊢
    cases hl : t.entries.lookup part with
    | none =>
      -- a new entry is empty, and the walk below it succeeds
      rw [child_of_lookup_none hl] at h
      simp only [hasFileNode_empty,Bool.false_eq_true,if_false,insertWalk_empty] at h
      exact absurd rfl h
    | some c =>
      rw [child_of_lookup hl] at h ⊢
      rw [insertEntry_of_lookup hl]
      split
      · rfl
      · rename_i hcf
        rw [if_neg hcf] at h
        rw [ih c h,writeEntry_of_lookup hl]

theorem Mounts.insert_error {m : Mounts} (h : (m.insert sameInode path newNode).1.code ≠ .ok) :
    (m.insert sameInode path newNode).2 = m := by
  revert h
  unfold Mounts.insert
  split
  · exact fun _ => rfl
  split
  · exact fun _ => rfl
  split
  · exact fun _ => rfl
  split
  · exact fun _ => rfl
  · intro h
    show (⟨(insertWalk sameInode path newNode _ _ m.mountTree).2⟩ : Mounts) = m
    rw [insertWalk_error sameInode _ _ h]

theorem Mounts.remove_error {m : Mounts} (h : (m.remove path).1.code ≠ .ok) :
    (m.remove path).2 = m := by
  revert h
  unfold Mounts.remove
  split
  · exact fun _ => rfl
  split
  · exact fun _ => rfl
  split
  · exact fun _ => rfl
  split
  · exact fun h => absurd rfl h
  · exact fun _ => rfl

/-- Every public call that reports an error leaves the mounts as they were. -/
theorem Mounts.apply_error {m : Mounts} {op : MountsOp} (h : (m.apply sameInode op).1.code ≠ .ok) :
    (m.apply sameInode op).2 = m := by
  cases op with
  | addFile => exact Mounts.insert_error sameInode h
  | addFileAt => exact Mounts.insert_error sameInode h
  | addDirectoryAt => exact Mounts.insert_error sameInode h
  | addTmpfs => exact Mounts.insert_error sameInode h
  | remove => exact Mounts.remove_error h
  | setRootWritable => exact absurd rfl h

/-- A directory below a mounted file: refused, and nothing changes. -/
theorem Mounts.apply_error_belowFile :
    ((Mounts.init.addFile (fun _ _ => false) ['/','a'] true).2.apply (fun _ _ => false)
        (.addDirectoryAt ['/','d'] ['/','a','/','b'] true)).1.code ≠ .ok ∧
      ((Mounts.init.addFile (fun _ _ => false) ['/','a'] true).2.apply (fun _ _ => false)
        (.addDirectoryAt ['/','d'] ['/','a','/','b'] true)).2 = (Mounts.init.addFile (fun _ _ => false) ['/','a'] true).2 :=
  ⟨by decide,Mounts.apply_error (fun _ _ => false) (by decide)⟩

-- a directory below a mounted file is refused, with the path in the message
example : ((Mounts.init.addFile (fun _ _ => false) ['/','a'] true).2.addDirectoryAt (fun _ _ => false)
    ['/','d'] ['/','a','/','b'] true).1 =
    failedPreconditionError "Cannot insert /a/b since a file is mounted as a parent directory" := by
  decide

end Failure

/-! ### `CreateMounts` stays below the root -/

theorem mem_createMountsEntries {a : MountAction} {entries : List (Path × MountTree)} {path : Path}
    {b : Bool} (h : a ∈ createMountsEntries entries path b) :
    ∃ e ∈ entries, a ∈ createMounts e.2 (joinPath path e.1) b := by
  induction entries with
  | nil => simp [createMountsEntries] at h
  | cons e rest ih =>
    obtain ⟨key,t⟩ := e
    rw [createMountsEntries,List.mem_append] at h
    rcases h with h | h
    · exact ⟨_,List.mem_cons_self,h⟩
    · obtain ⟨e,he,h⟩ := ih h
      exact ⟨e,List.mem_cons_of_mem _ he,h⟩

/-- Each action of `CreateMounts` is at the path it was called with, or comes from an entry. -/
theorem mem_createMounts {a : MountAction} {entries : List (Path × MountTree)}
    {node : Option MountNode} {path : Path} {b : Bool}
    (h : a ∈ createMounts ⟨entries,node⟩ path b) :
    a.target = path ∨ ∃ b', a ∈ createMountsEntries entries path b' := by
  have hback : a ∈ (if b then [backingAction node path] else []) → a.target = path := by
    intro hb
    split at hb
    · rw [List.mem_singleton.mp hb,backingAction]
      split <;> rfl
    · exact absurd hb List.not_mem_nil
  simp only [createMounts] at h
  split at h <;> simp only [List.mem_append,List.mem_cons,List.not_mem_nil,or_false] at h
  · rcases h with h | rfl | h
    · exact .inl (hback h)
    · exact .inl rfl
    · exact .inr ⟨_,h⟩
  · rcases h with h | rfl | h
    · exact .inl (hback h)
    · exact .inl rfl
    · exact .inr ⟨_,h⟩
  · rcases h with h | rfl
    · exact .inl (hback h)
    · exact .inl rfl
  · rcases h with h | h
    · exact .inl (hback h)
    · exact .inr ⟨_,h⟩

/-- In a valid tree, every path `CreateMounts` acts on is the path it started from joined with
keys of the tree. -/
theorem createMounts_target {t : MountTree} (hv : t.Valid) :
    ∀ (path : Path) (b : Bool), ∀ a ∈ createMounts t path b,
      ∃ ks : List Path, (∀ k ∈ ks, IsMountKey k) ∧ a.target = ks.foldl joinPath path := by
  induction hv with
  | mk _ hkeys _ ih =>
    intro path b a ha
    rcases mem_createMounts ha with h | ⟨b',h⟩
    · exact ⟨[],fun _ h => absurd h List.not_mem_nil,h⟩
    · -- the entry it comes from adds its key in front of the keys below
      obtain ⟨e,he,h⟩ := mem_createMountsEntries h
      obtain ⟨ks,hks,ht⟩ := ih e he _ _ a h
      refine ⟨e.1 :: ks,?_,ht⟩
      intro k hk
      rcases List.mem_cons.mp hk with rfl | hk
      · exact hkeys e he
      · exact hks k hk

theorem isUnder_createMounts {t : MountTree} (hv : t.Valid) (rootPath : Path) (b : Bool) :
    ∀ a ∈ createMounts t rootPath b, IsUnder rootPath a.target := by
  intro a ha
  obtain ⟨ks,hks,ht⟩ := createMounts_target hv rootPath b a ha
  rw [ht]
  exact isUnder_foldl_joinPath (fun k hk => (hks k hk).1) rootPath

/-- Whatever the calls and their paths, the root keeps its root node, a file node is a leaf,
every key is a path component without NUL, and so every path at which `CreateMounts` creates
or mounts something lies below the root it is given. -/
theorem reachable_mountTree {m : Mounts} (h : m.Reachable) :
    (∃ w, m.mountTree.node = some (.rootNode w)) ∧
      (∀ ks s, m.mountTree.SubtreeAt ks s →
        (s.hasFileNode = true → s.entries = []) ∧ ∀ e ∈ s.entries, IsMountKey e.1) ∧
      ∀ rootPath, ∀ a ∈ m.createMounts rootPath, IsUnder rootPath a.target := by
  have hi := h.inv
  refine ⟨hi.root,?_,fun rootPath => isUnder_createMounts hi.valid rootPath true⟩
  intro ks s hs
  have hv := hi.valid.subtreeAt hs
  exact ⟨hv.leaf,hv.keys⟩

theorem reachable_mountTree_addFile :
    (Mounts.init.addFile (fun _ _ => false) ['/','b','i','n'] true).2.Reachable ∧
      ∀ a ∈ (Mounts.init.addFile (fun _ _ => false) ['/','b','i','n'] true).2.createMounts
        ['/','t','m','p'], IsUnder ['/','t','m','p'] a.target := by
  have h : (Mounts.init.addFile (fun _ _ => false) ['/','b','i','n'] true).2.Reachable :=
    .single (.apply (fun _ _ => false) Mounts.init (.addFile _ true))
  exact ⟨h,(reachable_mountTree h).2.2 _⟩

end SandboxedApi.Sandbox2
