import SandboxedApi.Sandbox2.Mounts

/-! # What `Insert` and `Remove` do to the tree

Read along the components of the clean path, `Insert` either sets the node at their end, making
the missing subtrees on the way with no node, or finds an equivalent node already there and
changes nothing; `Remove` replaces the subtree at their end by an empty one. Any other outcome
is an error, which leaves the tree as it was.
-/
namespace SandboxedApi.Sandbox2
open SandboxedApi.File

namespace MountTree

/-- The subtree at the end of a path of keys, following the first entry of each key. -/
def find? : MountTree → List Path → Option MountTree
  | t, [] => some t
  | t, part :: parts => (t.entries.lookup part).bind fun c => c.find? parts

def nodeAt (t : MountTree) (parts : List Path) : Option MountNode := (t.find? parts).bind MountTree.node

/-- The tree with the node at the end of `parts` set, the subtrees on the way made if missing. -/
def setNodeAt : MountTree → List Path → MountNode → MountTree
  | t, [], n => {t with node := some n}
  | t, part :: parts, n => (t.insertEntry part).writeEntry part ((t.child part).setNodeAt parts n)

/-- The tree with the subtree at the end of `parts` replaced by `c`. -/
def replaceAt : MountTree → List Path → MountTree → MountTree
  | _, [], c => c
  | t, part :: parts, c => t.writeEntry part ((t.child part).replaceAt parts c)

variable {t c : MountTree} {part : Path} {parts : List Path}

theorem nodeAt_nil : t.nodeAt [] = t.node := rfl

theorem nodeAt_cons_of_lookup (h : t.entries.lookup part = some c) :
    t.nodeAt (part :: parts) = c.nodeAt parts := by
  simp [nodeAt,find?,h]

theorem nodeAt_cons_of_lookup_none (h : t.entries.lookup part = none) :
    t.nodeAt (part :: parts) = none := by
  simp [nodeAt,find?,h]

theorem nodeAt_empty : ∀ parts : List Path, MountTree.empty.nodeAt parts = none
  | [] => rfl
  | _ :: _ => nodeAt_cons_of_lookup_none rfl

end MountTree

open MountTree

/-- The components of `CleanPath(path)` that `Insert` and `Remove` walk along. -/
def mountParts (path : Path) : List Path := (stripPrefix (cleanPath path) ['/']).splitOn '/'

section Insert

variable (sameInode : Path → Path → Bool) {path : Path} {newNode : MountNode}

theorem insertNode_ok {c : MountTree} (h : (insertNode sameInode path newNode c).1.code = .ok) :
    (c.node = none ∧ (insertNode sameInode path newNode c).2 = {c with node := some newNode}) ∨
      ∃ old, c.node = some old ∧ isEquivalentNode sameInode old newNode = true ∧
        (insertNode sameInode path newNode c).2 = c := by
  revert h
  unfold insertNode
  split
  · rename_i old hn
    split
    · rename_i he
      exact fun _ => .inr ⟨old,hn,he,rfl⟩
    · exact fun h => absurd h (by simp)
  · rename_i hn
    split
    · exact fun h => absurd h (by simp)
    · exact fun _ => .inl ⟨hn,rfl⟩

/-- A successful walk of `Insert` sets the node at the end of its parts, or finds an equivalent
node there and leaves everything as it was. -/
theorem insertWalk_ok {finalPart : Path} :
    ∀ (parts : List Path) (t : MountTree),
      (insertWalk sameInode path newNode finalPart parts t).1.code = .ok →
        (t.nodeAt (parts ++ [finalPart]) = none ∧
          (insertWalk sameInode path newNode finalPart parts t).2 =
            t.setNodeAt (parts ++ [finalPart]) newNode) ∨
        ∃ old, t.nodeAt (parts ++ [finalPart]) = some old ∧
          isEquivalentNode sameInode old newNode = true ∧
          (insertWalk sameInode path newNode finalPart parts t).2 = t := by
  intro parts
  induction parts with
  | nil =>
    intro t h
    simp only [insertWalk,child_insertEntry] at h ⊢
    rcases insertNode_ok sameInode h with ⟨hn,he⟩ | ⟨old,hn,heq,he⟩
    · -- no node at the final part: it is set, in a subtree made if missing
      refine .inl ⟨?_,?_⟩
      · cases hl : t.entries.lookup finalPart with
        | none => exact nodeAt_cons_of_lookup_none hl
        | some c =>
          rw [List.nil_append,nodeAt_cons_of_lookup hl,nodeAt_nil,← child_of_lookup hl,hn]
      · rw [he]
        rfl
    · -- an equivalent node: the final part was there already
      cases hl : t.entries.lookup finalPart with
      | none =>
        rw [child_of_lookup_none hl] at hn
        cases hn
      | some c =>
        rw [child_of_lookup hl] at hn he ⊢
        refine .inr ⟨old,?_,heq,?_⟩
        · rw [List.nil_append,nodeAt_cons_of_lookup hl,nodeAt_nil,hn]
        · rw [he,insertEntry_of_lookup hl,writeEntry_of_lookup hl]
  | cons part parts ih =>
    intro t h
    simp only [insertWalk,child_insertEntry] at h ⊢
    split at h
    · exact absurd h (by simp)
    rename_i hcf
    rw [if_neg hcf]
    rcases ih (t.child part) h with ⟨hn,he⟩ | ⟨old,hn,heq,he⟩
    · refine .inl ⟨?_,?_⟩
      · cases hl : t.entries.lookup part with
        | none => exact nodeAt_cons_of_lookup_none hl
        | some c => rw [List.cons_append,nodeAt_cons_of_lookup hl,← child_of_lookup hl,hn]
      · rw [he]
        rfl
    · -- below a new entry there is no node, so the entry was there already
      cases hl : t.entries.lookup part with
      | none =>
        rw [child_of_lookup_none hl,nodeAt_empty] at hn
        cases hn
      | some c =>
        rw [child_of_lookup hl] at hn he ⊢
        refine .inr ⟨old,?_,heq,?_⟩
        · rw [List.cons_append,nodeAt_cons_of_lookup hl,hn]
        · rw [he,insertEntry_of_lookup hl,writeEntry_of_lookup hl]

theorem checkNewNode_code {err : Status} (h : checkNewNode newNode = some err) : err.code ≠ .ok := by
  cases newNode with
  | fileNode outside _ | dirNode outside _ =>
    simp only [checkNewNode] at h
    split at h
    · cases h
      simp
    · split at h
      · cases h
        simp
      · cases h
  | rootNode _ =>
    simp only [checkNewNode,Option.some.injEq] at h
    rw [← h]
    simp
  | tmpfsNode _ => simp [checkNewNode] at h

end Insert

theorem removeWalk_error_code {path : Path} :
    ∀ (parts : List Path) {t : MountTree} {err : Status}, removeWalk path parts t = .error err →
      err.code ≠ .ok := by
  intro parts
  induction parts with
  | nil => intro t err h; cases h
  | cons part parts ih =>
    intro t err h
    simp only [removeWalk] at h
    split at h
    · cases h
      simp
    split at h
    · cases h
      simp
    rename_i c _
    cases hr : removeWalk path parts c with
    | error e =>
      simp only [hr] at h
      cases h
      exact ih hr
    | ok c' => simp only [hr] at h; cases h

theorem removeWalk_ok {path : Path} :
    ∀ (parts : List Path) {t t' : MountTree}, removeWalk path parts t = .ok t' →
      (∃ s, t.find? parts = some s) ∧ t' = t.replaceAt parts MountTree.empty := by
  intro parts
  induction parts with
  | nil =>
    intro t t' h
    cases h
    exact ⟨⟨t,rfl⟩,rfl⟩
  | cons part parts ih =>
    intro t t' h
    simp only [removeWalk] at h
    split at h
    · cases h
    split at h
    · cases h
    rename_i c hl
    cases hr : removeWalk path parts c with
    | error e => simp only [hr] at h; cases h
    | ok c' =>
      simp only [hr] at h
      cases h
      obtain ⟨⟨s,hs⟩,hc⟩ := ih hr
      refine ⟨⟨s,?_⟩,?_⟩
      · simp [find?,hl,hs]
      · rw [replaceAt,child_of_lookup hl,← hc]

/-- `Insert` sets the node at the clean path, making the missing subtrees on the way with no
node, or finds an equivalent node there and changes nothing, or fails and changes nothing;
`Remove` empties the subtree at the clean path, or fails and changes nothing. -/
theorem insert_remove_effect (sameInode : Path → Path → Bool) (m : Mounts) (path : Path)
    (newNode : MountNode) :
    (((m.insert sameInode path newNode).1.code = .ok ∧
        ((m.mountTree.nodeAt (mountParts path) = none ∧
            (m.insert sameInode path newNode).2.mountTree =
              m.mountTree.setNodeAt (mountParts path) newNode) ∨
          ∃ old, m.mountTree.nodeAt (mountParts path) = some old ∧
            isEquivalentNode sameInode old newNode = true ∧ (m.insert sameInode path newNode).2 = m)) ∨
      ((m.insert sameInode path newNode).1.code ≠ .ok ∧ (m.insert sameInode path newNode).2 = m)) ∧
    (((m.remove path).1.code = .ok ∧ (∃ s, m.mountTree.find? (mountParts path) = some s) ∧
        (m.remove path).2.mountTree = m.mountTree.replaceAt (mountParts path) MountTree.empty) ∨
      ((m.remove path).1.code ≠ .ok ∧ (m.remove path).2 = m)) := by
  constructor
  · by_cases hc : (m.insert sameInode path newNode).1.code = .ok
    · refine .inl ⟨hc,?_⟩
      revert hc
      unfold Mounts.insert
      split
      · exact fun h => absurd h (by simp)
      split
      · rename_i err herr
        exact fun h => absurd h (checkNewNode_code herr)
      split
      · exact fun h => absurd h (by simp)
      split
      · exact fun h => absurd h (by simp)
      intro h
      have hparts := List.dropLast_append_getLast (List.splitOn_ne_nil '/'
        (stripPrefix (cleanPath path) ['/']))
      rcases insertWalk_ok sameInode _ m.mountTree h with ⟨hn,he⟩ | ⟨old,hn,heq,he⟩
      · rw [hparts] at hn he
        exact .inl ⟨hn,he⟩
      · rw [hparts] at hn
        refine .inr ⟨old,hn,heq,?_⟩
        show (⟨(insertWalk sameInode path newNode _ _ m.mountTree).2⟩ : Mounts) = m
        rw [he]
    · exact .inr ⟨hc,Mounts.insert_error sameInode hc⟩
  · by_cases hc : (m.remove path).1.code = .ok
    · refine .inl ⟨hc,?_⟩
      revert hc
      unfold Mounts.remove
      split
      · exact fun h => absurd h (by simp)
      split
      · exact fun h => absurd h (by simp)
      split
      · exact fun h => absurd h (by simp)
      split
      · rename_i t ht
        exact fun _ => removeWalk_ok _ ht
      · rename_i err herr
        exact fun h => absurd h (removeWalk_error_code _ herr)
    · exact .inr ⟨hc,Mounts.remove_error hc⟩

end SandboxedApi.Sandbox2
