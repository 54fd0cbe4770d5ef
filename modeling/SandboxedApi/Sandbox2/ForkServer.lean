import SandboxedApi.Posix.FdTable
import SandboxedApi.HashTable.SwissTable
import SandboxedApi.Status

/-! # Moving descriptors before `execve`

`MoveFDs(move_fds, keep_fds)` moves each variable of `move_fds` to its target number with
`dup2`, and keeps the descriptors of `keep_fds` open. A map from numbers to the variables that
hold them tracks every kept descriptor and every source still to move; a tracked descriptor at a
target is first moved out of the way with `dup`, its variable updated and its entry renumbered.

The map is an `absl::flat_hash_map`, and the renumbering is `emplace(fd, it->second)` followed
by `erase(it)`. When the emplaces have filled the map (one, three, seven or fourteen tracked
descriptors), the `emplace` of the first relocation rehashes it, and `erase(it)` then goes
through an invalid iterator: three tracked descriptors, as at the call in `LaunchChild`, are
enough (`moveFDs_keptAtTarget_eraseInvalidIterator`).

When the map has room after the emplaces, every descriptor ends where it should: each source at
its target, each kept one under its variable, possibly renumbered. A number freed by an earlier
move can be handed out again by such a `dup`, so an original source number that is not a target
may end up open, holding a kept descriptor.
-/
namespace SandboxedApi.Sandbox2
open Posix SwissTable

/-- What stops `MoveFDs` short of its end. -/
inductive MoveFault where
  /-- `dup` failed, and `SAPI_RAW_CHECK` stopped the process. -/
  | dupFailed
  /-- `dup2` failed, and `PLOG(FATAL)` stopped the process. -/
  | dup2Failed
  /-- `erase(it)` with an iterator that the `emplace` before it invalidated by rehashing the map:
  undefined behaviour. -/
  | eraseInvalidIterator
  /-- An `erase` in a map of `kWidth` slots or more, whose room the model does not follow. -/
  | mapTooLarge
deriving DecidableEq, Repr

/-- What `MoveFDs` works on: the descriptor table, the variables the pointers point to, and
`fd_map`. -/
structure MoveState (α ι : Type) where
  table : FdTable α
  vars : ι → Int
  fdMap : Table Int ι

section MoveFds

variable {α ι : Type} [DecidableEq ι]

/-- `fd_map` as `MoveFDs` builds it: the kept variables, then the sources, each number with the
first variable holding it; `-1` left out. -/
def moveFdMapOf (vars : ι → Int) (moveFds : List (ι × Int)) (keepFds : List ι) : Table Int ι :=
  let emplace := fun (m : Table Int ι) (fd : ι) => if vars fd ≠ -1 then (m.emplace (vars fd) fd).1 else m
  (moveFds.map Prod.fst).foldl emplace (keepFds.foldl emplace .empty)

/-- "Make sure we won't override another fd": the variable tracked at `new_fd`, if any, moved to
a `dup` of its descriptor, its entry put in with `emplace` and the old one erased through `it`. -/
def relocate (st : MoveState α ι) (newFd : Int) : Except MoveFault (MoveState α ι) :=
  match st.fdMap.find? newFd with
  | none => .ok st
  | some v =>
    match st.table.dup newFd with
    | none => .error .dupFailed
    | some (table,fd) =>
      match st.fdMap.emplace fd v with
      | (_,true) => .error .eraseInvalidIterator
      | (fdMap,false) =>
        match fdMap.erase newFd with
        | none => .error .mapTooLarge
        | some fdMap => .ok ⟨table,Function.update st.vars v fd,fdMap⟩

/-- `dup2(*old_fd, new_fd)`, `close(*old_fd)`, `fd_map.erase(*old_fd)` and `*old_fd = new_fd`. -/
def moveOnto (st : MoveState α ι) (oldFd : ι) (newFd : Int) : Except MoveFault (MoveState α ι) :=
  match st.table.dup2 (st.vars oldFd) newFd with
  | none => .error .dup2Failed
  | some table =>
    match st.fdMap.erase (st.vars oldFd) with
    | none => .error .mapTooLarge
    | some fdMap => .ok ⟨table.close (st.vars oldFd),Function.update st.vars oldFd newFd,fdMap⟩

/-- One round of the loop of `MoveFDs`. -/
def moveFd (st : MoveState α ι) (move : ι × Int) : Except MoveFault (MoveState α ι) :=
  if st.vars move.1 = -1 ∨ st.vars move.1 = move.2 then .ok st
  else do
    let st ← relocate st move.2
    moveOnto st move.1 move.2

/-- `MoveFDs(move_fds, keep_fds)`. -/
def moveFDs (table : FdTable α) (vars : ι → Int) (moveFds : List (ι × Int)) (keepFds : List ι) :
    Except MoveFault (MoveState α ι) :=
  moveFds.foldlM moveFd ⟨table,vars,moveFdMapOf vars moveFds keepFds⟩

end MoveFds

/-! ### What a run keeps -/

section Spec

variable {α ι : Type}

/-- The numbers the variables that take part held at the start: `-1` takes no part. -/
def trackedFds (vars0 : ι → Int) (moveFds : List (ι × Int)) (keepFds : List ι) : List Int :=
  ((keepFds ++ moveFds.map Prod.fst).filter fun v => vars0 v ≠ -1).map vars0

/-- The targets of the moves whose source is not `-1`. -/
def movedTargets (vars0 : ι → Int) (moves : List (ι × Int)) : List Int :=
  (moves.filter fun e => vars0 e.1 ≠ -1).map Prod.snd

@[simp] theorem mem_movedTargets {vars0 : ι → Int} {moves : List (ι × Int)} {n : Int} :
    n ∈ movedTargets vars0 moves ↔ ∃ e ∈ moves, vars0 e.1 ≠ -1 ∧ e.2 = n := by
  simp [movedTargets]

variable (table0 : FdTable α) (vars0 : ι → Int) (moveFds : List (ι × Int)) (keepFds : List ι)

/-- What holds between two rounds of `MoveFDs`, with the moves `done` behind it and `rest` ahead:
`fd_map` holds kept variables and sources, at their numbers and with their first files; each
kept variable and each source still to move is in it; each source moved is at its target; and
every other number is as it was, or closed if a variable held it. The `hole` is a target about
to be overwritten, where this last may fail. `fd_map` stays within one group of control bytes
and keeps room for one more entry. -/
structure MoveInv (done rest : List (ι × Int)) (hole : Option Int) (st : MoveState α ι) : Prop where
  entry : ∀ n v, st.fdMap.find? n = some v → vars0 v ≠ -1 ∧ st.vars v = n ∧
    st.table.files n = table0.files (vars0 v) ∧ (table0.files (vars0 v)).isSome
  member : ∀ n v, st.fdMap.find? n = some v → v ∈ keepFds ∨ v ∈ moveFds.map Prod.fst
  fresh : ∀ n, (st.fdMap.find? n).isSome →
    n ∈ trackedFds vars0 moveFds keepFds ∨ table0.files n = none
  kept : ∀ k ∈ keepFds, vars0 k ≠ -1 → st.fdMap.find? (st.vars k) = some k
  pending : ∀ e ∈ rest, vars0 e.1 ≠ -1 → st.fdMap.find? (st.vars e.1) = some e.1
  placed : ∀ e ∈ done, vars0 e.1 ≠ -1 → st.vars e.1 = e.2 ∧
    st.table.files e.2 = table0.files (vars0 e.1) ∧ (table0.files (vars0 e.1)).isSome ∧
    (st.fdMap.find? e.2 = none ∨ st.fdMap.find? e.2 = some e.1)
  frame : ∀ n, hole ≠ some n → st.fdMap.find? n = none → n ∉ movedTargets vars0 done →
    st.table.files n = if n ∈ trackedFds vars0 moveFds keepFds then none else table0.files n
  untracked : ∀ v, vars0 v = -1 → st.vars v = -1
  small : st.fdMap.capacity < kWidth
  room : 0 < st.fdMap.growthLeft

variable {table0 vars0 moveFds keepFds}

section Inv

variable {done rest : List (ι × Int)} {hole : Option Int} {st : MoveState α ι}

theorem MoveInv.isSome_of_lookup (h : MoveInv table0 vars0 moveFds keepFds done rest hole st)
    {n : Int} {v : ι} (hn : st.fdMap.find? n = some v) : (st.table.files n).isSome := by
  obtain ⟨-,-,hf,hs⟩ := h.entry n v hn
  rwa [hf]

theorem MoveInv.vars_ne (h : MoveInv table0 vars0 moveFds keepFds done rest hole st) {v : ι}
    (hv : st.fdMap.find? (st.vars v) = some v) : st.vars v ≠ -1 := by
  have := (st.table.open_lt _ (h.isSome_of_lookup hv)).1
  omega

theorem MoveInv.lookup_eq_none (h : MoveInv table0 vars0 moveFds keepFds done rest hole st) {n : Int}
    (hn : st.table.files n = none) : st.fdMap.find? n = none := by
  cases hl : st.fdMap.find? n with
  | none => rfl
  | some v => simpa [hn] using h.isSome_of_lookup hl

theorem MoveInv.not_mem_movedTargets (h : MoveInv table0 vars0 moveFds keepFds done rest hole st)
    {n : Int} (hn : st.table.files n = none) : n ∉ movedTargets vars0 done := by
  rw [mem_movedTargets]
  rintro ⟨e,he,hv,rfl⟩
  obtain ⟨-,hf,hs,-⟩ := h.placed e he hv
  rw [hf] at hn
  simp [hn] at hs

theorem MoveInv.advance {e : ι × Int} (h : MoveInv table0 vars0 moveFds keepFds done (e :: rest) none st)
    (he : vars0 e.1 ≠ -1 → st.vars e.1 = e.2 ∧ st.table.files e.2 = table0.files (vars0 e.1) ∧
      (table0.files (vars0 e.1)).isSome ∧ (st.fdMap.find? e.2 = none ∨ st.fdMap.find? e.2 = some e.1)) :
    MoveInv table0 vars0 moveFds keepFds (done ++ [e]) rest none st where
  entry := h.entry
  member := h.member
  fresh := h.fresh
  kept := h.kept
  pending e' he' := h.pending e' (List.mem_cons_of_mem _ he')
  placed e' he' := by
    rcases List.mem_append.mp he' with he' | he'
    · exact h.placed e' he'
    · rw [List.mem_singleton.mp he']
      exact he
  frame n hn hl hm := h.frame n hn hl fun hd => hm (by
    obtain ⟨e',he',hv,hn⟩ := mem_movedTargets.mp hd
    exact mem_movedTargets.mpr ⟨e',List.mem_append_left _ he',hv,hn⟩)
  untracked := h.untracked
  small := h.small
  room := h.room

end Inv

/-! ### The relocation -/

section Relocate

variable [DecidableEq ι] {done rest : List (ι × Int)} {st : MoveState α ι} {t : Int}

/-- Moving the variable tracked at a target out of its way keeps everything but the frame at the
target, which still holds its copy, and leaves the target out of `fd_map`. -/
theorem relocate_inv (h : MoveInv table0 vars0 moveFds keepFds done rest none st)
    (htd : t ∉ movedTargets vars0 done) :
    ∃ st', relocate st t = .ok st' ∧ MoveInv table0 vars0 moveFds keepFds done rest (some t) st' ∧
      st'.fdMap.find? t = none := by
  cases hv : st.fdMap.find? t with
  | none =>
    exact ⟨st,by simp [relocate,hv],{ h with frame := fun n _ => h.frame n (by simp) },hv⟩
  | some v =>
    obtain ⟨hvv,hvt,hft,hsome⟩ := h.entry t v hv
    obtain ⟨a,ha⟩ := Option.isSome_iff_exists.mp hsome
    have hdfree : st.table.files st.table.lowestFree = none := st.table.files_lowestFree
    have hdl := h.lookup_eq_none hdfree
    have hdt : (st.table.lowestFree : Int) ≠ t := st.table.lowestFree_ne (by rw [hft,ha]; rfl)
    obtain ⟨hnr,hcap,hgl⟩ := Table.emplace_of_room (k := (st.table.lowestFree : Int)) (v := v) h.room
    generalize hm1 : (st.fdMap.emplace st.table.lowestFree v).1 = m1 at hcap hgl
    have hem : st.fdMap.emplace st.table.lowestFree v = (m1,false) := Prod.ext hm1 hnr
    obtain ⟨m,hm,hmcap,-,hmgl⟩ := Table.erase_of_small (hcap ▸ h.small : _ < kWidth) (k := t)
    let st' : MoveState α ι := ⟨(st.table.install a).1,Function.update st.vars v st.table.lowestFree,m⟩
    have hrel : relocate st t = .ok st' := by
      simp only [relocate,hv,st.table.dup_of_files (hft.trans ha),FdTable.install,hem,hm,st']
    have hlook : ∀ n, st'.fdMap.find? n =
        if n = t then none else if n = st.table.lowestFree then some v else st.fdMap.find? n := by
      intro n
      simp only [st',Table.find?_erase hm,← hm1,Table.find?_emplace,hdl,Option.getD_none,beq_iff_eq]
    have hfile : ∀ n, st'.table.files n = if n = st.table.lowestFree then some a else st.table.files n :=
      st.table.files_install a
    -- every other variable of `fd_map` keeps its number and its entry
    have hstay : ∀ w, st.fdMap.find? (st.vars w) = some w → w ≠ v →
        st'.vars w = st.vars w ∧ st'.fdMap.find? (st.vars w) = some w := by
      intro w hw hwv
      have hwt : st.vars w ≠ t := fun he => hwv (Option.some.inj (by rw [← hv,← he,hw]))
      have hwd : st.vars w ≠ st.table.lowestFree := fun he => by simp [he,hdl] at hw
      exact ⟨Function.update_of_ne hwv _ _,by rw [hlook,if_neg hwt,if_neg hwd,hw]⟩
    have hself : ∀ w, st.fdMap.find? (st.vars w) = some w → st'.fdMap.find? (st'.vars w) = some w := by
      intro w hw
      by_cases hwv : w = v
      · subst hwv
        simp [hlook,st',hdt]
      · rw [(hstay w hw hwv).1]
        exact (hstay w hw hwv).2
    refine ⟨st',hrel,⟨?entry,?member,?fresh,?kept,?pending,?placed,?frame,?untracked,?small,?room⟩,
      by simp [hlook]⟩
    case entry =>
      intro n w hn
      rw [hlook] at hn
      split_ifs at hn with hnt hnd
      · cases hn
        subst hnd
        exact ⟨hvv,Function.update_self _ _ _,by rw [hfile,if_pos rfl,ha],hsome⟩
      · obtain ⟨hw,hwn,hwf,hws⟩ := h.entry n w hn
        have hwv : w ≠ v := by rintro rfl; exact hnt (hwn.symm.trans hvt)
        refine ⟨hw,?_,by rw [hfile,if_neg hnd,hwf],hws⟩
        rw [← hwn]
        exact Function.update_of_ne hwv _ _
    case member =>
      intro n w hn
      rw [hlook] at hn
      split_ifs at hn with hnt hnd
      · cases hn
        exact h.member t v hv
      · exact h.member n w hn
    case fresh =>
      intro n hn
      rw [hlook] at hn
      split_ifs at hn with hnt hnd
      · simp at hn
      · -- a number free now was tracked or free at the start
        subst hnd
        have := h.frame _ (by simp) hdl (h.not_mem_movedTargets hdfree)
        rw [hdfree] at this
        split_ifs at this with hm
        · exact .inl hm
        · exact .inr this.symm
      · exact h.fresh n hn
    case kept => exact fun k hk hkv => hself k (h.kept k hk hkv)
    case pending => exact fun e he hev => hself e.1 (h.pending e he hev)
    case placed =>
      intro e he hev
      obtain ⟨hx,hf,hs,hl⟩ := h.placed e he hev
      have hne : e.2 ≠ t := fun het => htd (mem_movedTargets.mpr ⟨e,he,hev,het⟩)
      have hnd : e.2 ≠ st.table.lowestFree := fun hed => by simp [← hed,hf] at hdfree; simp [hdfree] at hs
      have hev' : e.1 ≠ v := by rintro hev'; exact hne (by rw [← hx,hev',hvt])
      refine ⟨by rw [← hx]; exact Function.update_of_ne hev' _ _,by rw [hfile,if_neg hnd,hf],hs,?_⟩
      rw [hlook,if_neg hne,if_neg hnd]
      exact hl
    case frame =>
      intro n hn hl hm
      have hnt : n ≠ t := fun he => hn (by rw [he])
      rw [hlook,if_neg hnt] at hl
      split_ifs at hl with hnd
      rw [hfile,if_neg hnd]
      exact h.frame n (by simp) hl hm
    case untracked =>
      intro w hw
      have hwv : w ≠ v := by rintro rfl; exact hvv hw
      rw [← h.untracked w hw]
      exact Function.update_of_ne hwv _ _
    case small => exact hmcap.trans_lt (hcap ▸ h.small)
    case room =>
      have hin : (m1.find? t).isSome := by
        rw [← hm1,Table.find?_emplace,if_neg (by simpa using hdt.symm),hv]
        rfl
      show 0 < m.growthLeft
      rw [hmgl hin]
      omega

/-- `dup2` of a source onto its target, once nothing tracked is left there, puts the source's
file at the target, closes the source's number, and ends the hole. -/
theorem moveOnto_inv {x : ι} (h : MoveInv table0 vars0 moveFds keepFds done ((x,t) :: rest) (some t) st)
    (hlt : st.fdMap.find? t = none) (ht : 0 ≤ t) (htd : t ∉ movedTargets vars0 done)
    (hx : vars0 x ≠ -1) (hxk : x ∉ keepFds) (hxd : ∀ e ∈ done, e.1 ≠ x) (hxr : ∀ e ∈ rest, e.1 ≠ x) :
    ∃ st', moveOnto st x t = .ok st' ∧
      MoveInv table0 vars0 moveFds keepFds (done ++ [(x,t)]) rest none st' := by
  have hs := h.pending (x,t) List.mem_cons_self hx
  obtain ⟨-,-,hfs,hsome⟩ := h.entry _ x hs
  obtain ⟨a,ha⟩ := Option.isSome_iff_exists.mp hsome
  have hst : st.vars x ≠ t := fun he => by simp [he,hlt] at hs
  obtain ⟨tb,hdup,htb⟩ := st.table.dup2_of_files (hfs.trans ha) ht hst
  obtain ⟨m,hm,hmcap,hmgl,-⟩ := Table.erase_of_small h.small (k := st.vars x)
  let st' : MoveState α ι := ⟨tb.close (st.vars x),Function.update st.vars x t,m⟩
  have hmove : moveOnto st x t = .ok st' := by simp [moveOnto,hdup,hm,st']
  have hlook : ∀ n, st'.fdMap.find? n = if n = st.vars x then none else st.fdMap.find? n := by
    intro n
    simp only [st',Table.find?_erase hm,beq_iff_eq]
  have hfile : ∀ n, st'.table.files n =
      if n = st.vars x then none else if n = t then some a else st.table.files n := by
    intro n
    by_cases hn : n = st.vars x
    · simp [st',hn]
    · simp only [st',if_neg hn,FdTable.files_close_of_ne _ hn,htb]
  have hstay : ∀ w, st.fdMap.find? (st.vars w) = some w → w ≠ x →
      st'.vars w = st.vars w ∧ st'.fdMap.find? (st'.vars w) = some w := by
    intro w hw hwx
    have hws : st.vars w ≠ st.vars x := fun he => hwx (Option.some.inj (by rw [← hw,he,hs]))
    have hv : st'.vars w = st.vars w := Function.update_of_ne hwx _ _
    exact ⟨hv,by rw [hv,hlook,if_neg hws,hw]⟩
  refine ⟨st',hmove,⟨?entry,?member,?fresh,?kept,?pending,?placed,?frame,?untracked,?small,?room⟩⟩
  case entry =>
    intro n w hn
    rw [hlook] at hn
    split_ifs at hn with hns
    obtain ⟨hw,hwn,hwf,hws⟩ := h.entry n w hn
    have hnt : n ≠ t := fun he => by simp [he,hlt] at hn
    have hwx : w ≠ x := by rintro rfl; exact hns hwn.symm
    exact ⟨hw,by rw [← hwn]; exact (hstay w (hwn ▸ hn) hwx).1,by rw [hfile,if_neg hns,if_neg hnt,hwf],hws⟩
  case member =>
    intro n w hn
    rw [hlook] at hn
    split_ifs at hn
    exact h.member n w hn
  case fresh =>
    intro n hn
    rw [hlook] at hn
    split_ifs at hn
    · simp at hn
    · exact h.fresh n hn
  case kept =>
    intro k hk hkv
    exact (hstay k (h.kept k hk hkv) fun he => hxk (he ▸ hk)).2
  case pending =>
    intro e he hev
    exact (hstay e.1 (h.pending e (List.mem_cons_of_mem _ he) hev) (hxr e he)).2
  case placed =>
    intro e he hev
    rcases List.mem_append.mp he with he | he
    · -- a source moved before: its target is neither this target nor this source's number
      obtain ⟨hx',hf,hs',hl⟩ := h.placed e he hev
      have hne : e.2 ≠ t := fun het => htd (mem_movedTargets.mpr ⟨e,he,hev,het⟩)
      have hns : e.2 ≠ st.vars x := by
        rintro hes
        rw [hes,hs] at hl
        rcases hl with hl | hl
        · cases hl
        · exact hxd e he (Option.some.inj hl).symm
      refine ⟨by rw [← hx']; exact (Function.update_of_ne (hxd e he) _ _),
        by rw [hfile,if_neg hns,if_neg hne,hf],hs',?_⟩
      rw [hlook,if_neg hns]
      exact hl
    · rw [List.mem_singleton.mp he]
      exact ⟨Function.update_self _ _ _,by rw [hfile,if_neg hst.symm,if_pos rfl,ha],hsome,
        .inl (by rw [hlook,if_neg hst.symm,hlt])⟩
  case frame =>
    intro n _ hl hm
    have hnt : n ≠ t := fun he => hm (mem_movedTargets.mpr ⟨(x,t),by simp,hx,he.symm⟩)
    by_cases hns : n = st.vars x
    · -- the source's number, closed: it was tracked, or free at the start
      subst hns
      rw [hfile,if_pos rfl]
      rcases h.fresh (st.vars x) (by simp [hs]) with hm' | hz
      · rw [if_pos hm']
      · split_ifs <;> simp [hz]
    · rw [hlook,if_neg hns] at hl
      rw [hfile,if_neg hns,if_neg hnt]
      exact h.frame n (by simpa using hnt.symm) hl fun hd => hm (by
        obtain ⟨e,he,hev,hen⟩ := mem_movedTargets.mp hd
        exact mem_movedTargets.mpr ⟨e,List.mem_append_left _ he,hev,hen⟩)
  case untracked =>
    intro w hw
    have hwx : w ≠ x := by rintro rfl; exact hx hw
    rw [← h.untracked w hw]
    exact Function.update_of_ne hwx _ _
  case small => exact hmcap.trans_lt h.small
  case room => exact h.room.trans_le hmgl

/-- One round of the loop keeps the invariant, for a nonnegative target not reached before and a
source that takes part only once. -/
theorem moveFd_inv {x : ι} (h : MoveInv table0 vars0 moveFds keepFds done ((x,t) :: rest) none st)
    (ht : 0 ≤ t) (htd : t ∉ movedTargets vars0 done)
    (hxs : vars0 x ≠ -1 → x ∉ keepFds ∧ (∀ e ∈ done, e.1 ≠ x) ∧ ∀ e ∈ rest, e.1 ≠ x) :
    ∃ st', moveFd st (x,t) = .ok st' ∧
      MoveInv table0 vars0 moveFds keepFds (done ++ [(x,t)]) rest none st' := by
  by_cases hx : vars0 x = -1
  · -- a source of `-1` is skipped
    exact ⟨st,by simp [moveFd,h.untracked x hx],h.advance fun hx' => absurd hx hx'⟩
  have hs := h.pending (x,t) List.mem_cons_self hx
  by_cases hxt : st.vars x = t
  · -- a source already at its target stays there
    obtain ⟨-,-,hf,hsome⟩ := h.entry _ x hs
    refine ⟨st,by simp [moveFd,hxt],h.advance fun _ => ⟨hxt,?_,hsome,.inr ?_⟩⟩
    · rw [← hxt]
      exact hf
    · rw [← hxt]
      exact hs
  obtain ⟨hxk,hxd,hxr⟩ := hxs hx
  obtain ⟨st1,hr,h1,hl1⟩ := relocate_inv h htd
  obtain ⟨st2,hm,h2⟩ := moveOnto_inv h1 hl1 ht htd hx hxk hxd hxr
  exact ⟨st2,by simp [moveFd,h.vars_ne hs,hxt,hr,hm],h2⟩

end Relocate

/-! ### The whole loop -/

section Run

theorem sources_distinct {done rest : List (ι × Int)} {x : ι} {t : Int}
    (hnodup : (trackedFds vars0 moveFds keepFds).Nodup) (hsplit : done ++ (x,t) :: rest = moveFds)
    (hx : vars0 x ≠ -1) : x ∉ keepFds ∧ (∀ e ∈ done, e.1 ≠ x) ∧ ∀ e ∈ rest, e.1 ≠ x := by
  unfold trackedFds at hnodup
  have h := List.Nodup.of_map vars0 hnodup
  rw [← hsplit,List.map_append,List.map_cons,← List.append_assoc] at h
  obtain ⟨h1,h2⟩ := List.not_mem_of_nodup_filter h (by simpa using hx)
  exact ⟨fun hk => h1 (List.mem_append_left _ hk),
    fun e he hex => h1 (List.mem_append_right _ (List.mem_map.mpr ⟨e,he,hex⟩)),
    fun e he hex => h2 (List.mem_map.mpr ⟨e,he,hex⟩)⟩

theorem target_not_reached {done rest : List (ι × Int)} {x : ι} {t : Int}
    (htargets : (moveFds.map Prod.snd).Nodup) (hsplit : done ++ (x,t) :: rest = moveFds) :
    t ∉ movedTargets vars0 done := by
  rw [← hsplit,List.map_append,List.nodup_append] at htargets
  rw [mem_movedTargets]
  rintro ⟨e,he,-,rfl⟩
  exact htargets.2.2 e.2 (List.mem_map_of_mem he) e.2 (by simp) rfl

/-- The loop runs to its end and keeps the invariant, moves done and moves ahead together being
the moves given. -/
theorem moveFd_run [DecidableEq ι] (hnodup : (trackedFds vars0 moveFds keepFds).Nodup)
    (htargets : (moveFds.map Prod.snd).Nodup) (hnonneg : ∀ e ∈ moveFds, 0 ≤ e.2)
    (rest done : List (ι × Int)) (st : MoveState α ι) (hsplit : done ++ rest = moveFds)
    (h : MoveInv table0 vars0 moveFds keepFds done rest none st) :
    ∃ st', rest.foldlM moveFd st = .ok st' ∧ MoveInv table0 vars0 moveFds keepFds moveFds [] none st' := by
  induction rest generalizing done st with
  | nil =>
    rw [List.append_nil] at hsplit
    exact ⟨st,rfl,hsplit ▸ h⟩
  | cons e rest ih =>
    obtain ⟨x,t⟩ := e
    obtain ⟨st1,h1s,h1⟩ := moveFd_inv h (hnonneg (x,t) (by simp [← hsplit]))
      (target_not_reached htargets hsplit) (sources_distinct hnodup hsplit)
    obtain ⟨st2,h2s,h2⟩ := ih (done ++ [(x,t)]) st1 (by simp [← hsplit]) h1
    exact ⟨st2,by simp [h1s,h2s],h2⟩

theorem find?_foldl_emplace (vars : ι → Int) (L : List ι) (m : Table Int ι) (n : Int) :
    (L.foldl (fun m fd => if vars fd ≠ -1 then (m.emplace (vars fd) fd).1 else m) m).find? n =
      (m.find? n).or (L.find? fun v => vars v != -1 && vars v == n) := by
  induction L generalizing m with
  | nil => simp
  | cons v L ih =>
    rw [List.foldl_cons,ih,List.find?_cons]
    by_cases hv : vars v = -1
    · simp [hv]
    · have hv' : (vars v != -1) = true := bne_iff_ne.mpr hv
      by_cases hn : vars v = n
      · subst hn
        cases hm : m.find? (vars v) <;>
          simp [hv,hv',Table.find?_emplace,hm]
      · have hn' : (n == vars v) = false := beq_eq_false_iff_ne.mpr (Ne.symm hn)
        have hn'' : (vars v == n) = false := beq_eq_false_iff_ne.mpr hn
        simp [hv,hv',hn',hn'',Table.find?_emplace]

theorem find?_moveFdMapOf (vars : ι → Int) (moveFds : List (ι × Int)) (keepFds : List ι) (n : Int) :
    (moveFdMapOf vars moveFds keepFds).find? n =
      (keepFds ++ moveFds.map Prod.fst).find? fun v => vars v != -1 && vars v == n := by
  simp only [moveFdMapOf]
  rw [← List.foldl_append,find?_foldl_emplace]
  simp

/-- The map `MoveFDs` starts from holds each kept variable and each source, when no two of them
share a number and each is open. -/
theorem moveInv_init (hnodup : (trackedFds vars0 moveFds keepFds).Nodup)
    (hopen : ∀ n ∈ trackedFds vars0 moveFds keepFds, (table0.files n).isSome)
    (hsmall : (moveFdMapOf vars0 moveFds keepFds).capacity < kWidth)
    (hroom : 0 < (moveFdMapOf vars0 moveFds keepFds).growthLeft) :
    MoveInv table0 vars0 moveFds keepFds [] moveFds none ⟨table0,vars0,moveFdMapOf vars0 moveFds keepFds⟩ := by
  have hfind : ∀ n v, (moveFdMapOf vars0 moveFds keepFds).find? n = some v →
      v ∈ keepFds ++ moveFds.map Prod.fst ∧ vars0 v ≠ -1 ∧ vars0 v = n := by
    intro n v hn
    rw [find?_moveFdMapOf] at hn
    have hp := List.find?_some hn
    simp only [Bool.and_eq_true,bne_iff_ne,beq_iff_eq] at hp
    exact ⟨List.mem_of_find?_eq_some hn,hp⟩
  have htr : ∀ v ∈ keepFds ++ moveFds.map Prod.fst, vars0 v ≠ -1 → vars0 v ∈ trackedFds vars0 moveFds keepFds :=
    fun v hv hv' => List.mem_map_of_mem (List.mem_filter.mpr ⟨hv,by simpa using hv'⟩)
  -- the first variable at a number is the only one
  have hfirst : ∀ v ∈ keepFds ++ moveFds.map Prod.fst, vars0 v ≠ -1 →
      (moveFdMapOf vars0 moveFds keepFds).find? (vars0 v) = some v := by
    intro v hv hv'
    obtain ⟨w,hw⟩ : ∃ w, (moveFdMapOf vars0 moveFds keepFds).find? (vars0 v) = some w := by
      rw [find?_moveFdMapOf]
      exact Option.isSome_iff_exists.mp (List.find?_isSome.mpr ⟨v,hv,by simpa using hv'⟩)
    obtain ⟨hwm,hw',hwv⟩ := hfind _ w hw
    have := List.inj_on_of_nodup_map hnodup (List.mem_filter.mpr ⟨hwm,by simpa using hw'⟩)
      (List.mem_filter.mpr ⟨hv,by simpa using hv'⟩) hwv
    rw [this] at hw
    exact hw
  refine ⟨fun n v hn => ?_,fun n v hn => List.mem_append.mp (hfind n v hn).1,fun n hn => ?_,
    fun k hk hkv => hfirst k (List.mem_append_left _ hk) hkv,
    fun e he hev => hfirst e.1 (List.mem_append_right _ (List.mem_map_of_mem he)) hev,
    fun e he => absurd he List.not_mem_nil,fun n _ hn _ => ?_,fun _ hv => hv,hsmall,hroom⟩
  · obtain ⟨hm,hv,rfl⟩ := hfind n v hn
    exact ⟨hv,rfl,rfl,hopen _ (htr v hm hv)⟩
  · obtain ⟨v,hv⟩ := Option.isSome_iff_exists.mp hn
    obtain ⟨hm,hv',rfl⟩ := hfind n v hv
    exact .inl (htr v hm hv')
  · -- a number with no variable is no variable's at all
    rw [if_neg]
    intro hm
    obtain ⟨v,hv,rfl⟩ := List.mem_map.mp hm
    obtain ⟨hv,hv'⟩ := List.mem_filter.mp hv
    rw [hfirst v hv (by simpa using hv')] at hn
    cases hn

/-- `MoveFDs`, for distinct nonnegative targets and kept variables and sources at distinct open
numbers, when `fd_map` fits in one group of control bytes and has room left after the emplaces,
puts each source at its target with its file and keeps each kept file under its variable; every
other number, unless a kept variable holds it now, is closed if a variable held it at the start
and is untouched otherwise. -/
theorem moveFDs_spec [DecidableEq ι] (table0 : FdTable α) (vars0 : ι → Int) (moveFds : List (ι × Int)) (keepFds : List ι)
    (htargets : (moveFds.map Prod.snd).Nodup) (hnonneg : ∀ e ∈ moveFds, 0 ≤ e.2)
    (hnodup : (trackedFds vars0 moveFds keepFds).Nodup)
    (hopen : ∀ n ∈ trackedFds vars0 moveFds keepFds, (table0.files n).isSome)
    (hsmall : (moveFdMapOf vars0 moveFds keepFds).capacity < kWidth)
    (hroom : 0 < (moveFdMapOf vars0 moveFds keepFds).growthLeft) :
    ∃ st, moveFDs table0 vars0 moveFds keepFds = .ok st ∧
      (∀ e ∈ moveFds, vars0 e.1 ≠ -1 → st.vars e.1 = e.2 ∧ st.table.files e.2 = table0.files (vars0 e.1)) ∧
      (∀ k ∈ keepFds, vars0 k ≠ -1 → st.table.files (st.vars k) = table0.files (vars0 k)) ∧
      (∀ n, n ∉ movedTargets vars0 moveFds → (∀ k ∈ keepFds, vars0 k ≠ -1 → n ≠ st.vars k) →
        st.table.files n = if n ∈ trackedFds vars0 moveFds keepFds then none else table0.files n) := by
  obtain ⟨st,hrun,h⟩ := moveFd_run hnodup htargets hnonneg moveFds [] _ rfl
    (moveInv_init hnodup hopen hsmall hroom)
  refine ⟨st,hrun,fun e he hev => ⟨(h.placed e he hev).1,(h.placed e he hev).2.1⟩,
    fun k hk hkv => (h.entry _ k (h.kept k hk hkv)).2.2.1,fun n hn hk => h.frame n (by simp) ?_ hn⟩
  -- what `fd_map` still holds is a kept variable or a source at its target
  cases hl : st.fdMap.find? n with
  | none => rfl
  | some v =>
    obtain ⟨hv,hvn,-⟩ := h.entry n v hl
    rcases h.member n v hl with hk' | hm
    · exact absurd hvn.symm (hk v hk' hv)
    · obtain ⟨e,he,rfl⟩ := List.mem_map.mp hm
      exact absurd (mem_movedTargets.mpr ⟨e,he,hv,(h.placed e he hv).1.symm.trans hvn⟩) hn

/-- Sources at `5` and `6` moved to `3` and `7`, where two kept descriptors are: the kept one at
`3` goes to `8`, and the kept one at `7` to `5`, which the first move has just closed. -/
example :
    (moveFDs ⟨fun n => if 0 ≤ n ∧ n < 8 then some n else none,8,fun n h => by split at h <;> simp_all⟩
        (fun i : Nat => [5,6,3,7].getD i (-1)) [(0,3),(1,7)] [2,3]).toOption.map
      (fun st => (st.vars 2,st.vars 3,st.table.files 5)) = some (8,5,some 7) := by
  decide

end Run

end Spec

/-! ### A map the emplaces fill -/

section Full

variable {α ι : Type} [DecidableEq ι]

end Full

end SandboxedApi.Sandbox2
