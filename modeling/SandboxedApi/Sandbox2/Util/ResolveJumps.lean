import SandboxedApi.Sandbox2.Util.BpfHelper

/-! # What `bpf_resolve_jumps` computes

At the level of label indices first: the backward walk succeeds exactly when no index is
placed by two `LABEL` markers and every `JUMP` marker has its `LABEL` later in the filter, and
then the filter it leaves is `resolvedIds`, where each `JUMP` skips to the first later `LABEL`
of its index and each `LABEL` is a `BPF_JA 0`. The invariant of the walk: the instructions it
has not visited are the original ones, those it has visited are already resolved, and the
table places each index at its first `LABEL` among the visited instructions.
-/
namespace SandboxedApi.Sandbox2
open ClassicBpf

def jumpId? (f : SockFilter) : Option UInt32 :=
  if f.code = bpfJmp + bpfJa ∧ (f.jt,f.jf) = (jumpJt,jumpJf) then some f.k else none

def labelId? (f : SockFilter) : Option UInt32 :=
  if f.code = bpfJmp + bpfJa ∧ (f.jt,f.jf) = (labelJt,labelJf) then some f.k else none

/-- The instruction the walk leaves in place of `f`, with `rest` the instructions after it. -/
def resolveOne (f : SockFilter) (rest : List SockFilter) : SockFilter :=
  match jumpId? f,labelId? f with
  | some k,_ => { f with k := (rest.findIdx (fun g => labelId? g == some k)).toUInt32, jt := 0, jf := 0 }
  | none,some _ => { f with k := 0, jt := 0, jf := 0 }
  | none,none => f

def resolvedIds : List SockFilter → List SockFilter
  | [] => []
  | f :: rest => resolveOne f rest :: resolvedIds rest

/-- A `LABEL` marker is the last of its index and a `JUMP` marker has a later `LABEL`. -/
def GoodAt (f : SockFilter) (rest : List SockFilter) : Prop :=
  (∀ k, labelId? f = some k → ∀ g ∈ rest, labelId? g ≠ some k) ∧
  (∀ k, jumpId? f = some k → ∃ g ∈ rest, labelId? g = some k)

def GoodIds : List SockFilter → Prop
  | [] => True
  | f :: rest => GoodAt f rest ∧ GoodIds rest

/-- The position of the first `LABEL` of index `k` at or after position `n`. -/
def locOf (fs : List SockFilter) (n : Nat) (k : UInt32) : Option Nat :=
  ((fs.drop n).findIdx? (fun g => labelId? g == some k)).map (n + ·)

def placed (e : BpfLabel) : Option Nat → BpfLabel
  | none => e
  | some j => { e with location := j.toUInt32 }

/-- The table once the walk has visited every position from `n` on. -/
def TableAt (l0 : BpfLabels) (fs : List SockFilter) (n : Nat) (l : BpfLabels) : Prop :=
  ∀ k : UInt32, l.labels[k.toNat]? = (l0.labels[k.toNat]?).map (fun e => placed e (locOf fs n k))

/-- The filter once the walk has visited every position from `n` on. -/
def FilterAt (fs : List SockFilter) (n : Nat) (filter : List SockFilter) : Prop :=
  ∀ i, filter[i]? = if i < n then fs[i]? else (resolvedIds fs)[i]?

/-- Every marker names a slot of the table that no `LABEL` has placed yet. -/
def Unplaced (l0 : BpfLabels) (fs : List SockFilter) : Prop :=
  ∀ f ∈ fs, ∀ k, (jumpId? f = some k ∨ labelId? f = some k) →
    ∃ e, l0.labels[k.toNat]? = some e ∧ e.location = 0xffffffff

theorem jumpId_labelId {f : SockFilter} {k : UInt32} (h : jumpId? f = some k) : labelId? f = none := by
  unfold jumpId? at h
  unfold labelId?
  split at h
  · rename_i hj
    rw [if_neg]
    rintro ⟨-,hl⟩
    rw [hj.2] at hl
    simp [jumpJt,labelJt] at hl
  · cases h

theorem length_resolvedIds (fs : List SockFilter) : (resolvedIds fs).length = fs.length := by
  induction fs with
  | nil => rfl
  | cons f rest ih => simp [resolvedIds,ih]

theorem getElem?_resolvedIds {fs : List SockFilter} {n : Nat} {f : SockFilter} (h : fs[n]? = some f) :
    (resolvedIds fs)[n]? = some (resolveOne f (fs.drop (n + 1))) := by
  induction fs generalizing n with
  | nil => simp at h
  | cons g rest ih =>
    cases n with
    | zero => simp at h; subst h; rfl
    | succ n => exact ih (by simpa using h)

theorem locOf_of_getElem? {fs : List SockFilter} {n : Nat} {f : SockFilter} (h : fs[n]? = some f)
    (k : UInt32) : locOf fs n k = if labelId? f = some k then some n else locOf fs (n + 1) k := by
  have hd : fs.drop n = f :: fs.drop (n + 1) := by
    obtain ⟨hn,hf⟩ := List.getElem?_eq_some_iff.mp h
    rw [List.drop_eq_getElem_cons hn,hf]
  unfold locOf
  rw [hd,List.findIdx?_cons]
  by_cases hk : labelId? f = some k
  · simp [hk]
  · simp only [beq_iff_eq,hk,if_false,Option.map_map]
    congr 1
    funext i
    simp only [Function.comp_apply]
    omega

theorem locOf_spec {fs : List SockFilter} {n j : Nat} {k : UInt32} (h : locOf fs n k = some j) :
    n ≤ j ∧ j < fs.length ∧ ∃ g, fs[j]? = some g ∧ labelId? g = some k := by
  unfold locOf at h
  obtain ⟨i,hi,rfl⟩ := Option.map_eq_some_iff.mp h
  obtain ⟨hlt,hp,-⟩ := List.findIdx?_eq_some_iff_getElem.mp hi
  have hj : i < fs.length - n := by simpa using hlt
  refine ⟨by omega,by omega,(fs.drop n)[i],?_,by simpa using hp⟩
  rw [← List.getElem?_drop,List.getElem?_eq_getElem hlt]

theorem locOf_eq_none {fs : List SockFilter} {n : Nat} {k : UInt32} :
    locOf fs n k = none ↔ ∀ g ∈ fs.drop n, labelId? g ≠ some k := by
  unfold locOf
  simp [List.findIdx?_eq_none_iff]

theorem jumpId?_eq_some {f : SockFilter} {k : UInt32} :
    jumpId? f = some k ↔ f.code = bpfJmp + bpfJa ∧ (f.jt,f.jf) = (jumpJt,jumpJf) ∧ f.k = k := by
  unfold jumpId?
  split <;> simp_all

theorem labelId?_eq_some {f : SockFilter} {k : UInt32} :
    labelId? f = some k ↔ f.code = bpfJmp + bpfJa ∧ (f.jt,f.jf) = (labelJt,labelJf) ∧ f.k = k := by
  unfold labelId?
  split <;> simp_all

/-! ### One visit of the walk -/

theorem resolveWalk_plain {l : BpfLabels} {filter : List SockFilter} {n : Nat} {f : SockFilter}
    (hf : filter[n]? = some f) (hj : jumpId? f = none) (hl : labelId? f = none) :
    resolveWalk l filter (n + 1) = resolveWalk l filter n := by
  have hj' : ¬(f.code = bpfJmp + bpfJa ∧ (f.jt,f.jf) = (jumpJt,jumpJf)) := by
    intro h
    simp [jumpId?,h] at hj
  have hl' : ¬(f.code = bpfJmp + bpfJa ∧ (f.jt,f.jf) = (labelJt,labelJf)) := by
    intro h
    simp [labelId?,h] at hl
  simp only [resolveWalk,hf]
  by_cases hc : f.code = bpfJmp + bpfJa
  · rw [if_neg (not_not.mpr hc),if_neg (fun h => hj' ⟨hc,h⟩),if_neg (fun h => hl' ⟨hc,h⟩)]
  · rw [if_pos hc]

theorem resolveWalk_jump {l : BpfLabels} {filter : List SockFilter} {n : Nat} {f : SockFilter}
    {k : UInt32} (hf : filter[n]? = some f) (hj : jumpId? f = some k) :
    resolveWalk l filter (n + 1) =
      match l.labels[k.toNat]? with
      | none => .undefined
      | some e =>
        if e.location = 0xffffffff then .done 1 l filter
        else resolveWalk l (filter.set n
          { f with k := e.location - (n + 1).toUInt32, jt := 0, jf := 0 }) n := by
  obtain ⟨hc,hb,rfl⟩ := jumpId?_eq_some.mp hj
  -- split on the slot first, so that both matches reduce
  cases he : l.labels[f.k.toNat]? <;>
    simp only [resolveWalk,hf,hc,hb,he,ne_eq,not_true_eq_false,if_false,if_true]

theorem resolveWalk_label {l : BpfLabels} {filter : List SockFilter} {n : Nat} {f : SockFilter}
    {k : UInt32} (hf : filter[n]? = some f) (hl : labelId? f = some k) :
    resolveWalk l filter (n + 1) =
      match l.labels[k.toNat]? with
      | none => .undefined
      | some e =>
        if e.location ≠ 0xffffffff then .done 1 l filter
        else resolveWalk (l.setSlot k.toNat { e with location := n.toUInt32 })
          (filter.set n { f with k := 0, jt := 0, jf := 0 }) n := by
  obtain ⟨hc,hb,rfl⟩ := labelId?_eq_some.mp hl
  have hnj : (labelJt,labelJf) ≠ (jumpJt,jumpJf) := by decide
  cases he : l.labels[f.k.toNat]? <;>
    simp only [resolveWalk,hf,hc,hb,he,ne_eq,not_true_eq_false,if_false,if_true,if_neg hnj]

/-! ### The invariant of the walk -/

theorem labelId_jumpId {f : SockFilter} {k : UInt32} (h : labelId? f = some k) : jumpId? f = none := by
  cases hj : jumpId? f with
  | none => rfl
  | some k' => rw [jumpId_labelId hj] at h; cases h

theorem resolveOne_plain {f : SockFilter} (rest : List SockFilter) (hj : jumpId? f = none)
    (hl : labelId? f = none) : resolveOne f rest = f := by
  simp [resolveOne,hj,hl]

theorem resolveOne_label {f : SockFilter} {k : UInt32} (rest : List SockFilter) (hl : labelId? f = some k) :
    resolveOne f rest = { f with k := 0, jt := 0, jf := 0 } := by
  simp [resolveOne,hl,labelId_jumpId hl]

theorem resolveOne_jump {f : SockFilter} {k : UInt32} (rest : List SockFilter) (hj : jumpId? f = some k) :
    resolveOne f rest =
      { f with k := (rest.findIdx (fun g => labelId? g == some k)).toUInt32, jt := 0, jf := 0 } := by
  simp [resolveOne,hj]

theorem toUInt32_add_sub (i a : Nat) : (i + a).toUInt32 - a.toUInt32 = i.toUInt32 := by
  simp only [Nat.toUInt32,UInt32.ofNat_add,UInt32.add_sub_cancel]

theorem toUInt32_ne_unresolved {j : Nat} (h : j < 0xffffffff) : j.toUInt32 ≠ 0xffffffff := by
  intro heq
  have hn := congrArg UInt32.toNat heq
  simp at hn
  omega

theorem mem_drop_of_getElem? {fs : List SockFilter} {j n : Nat} {g : SockFilter}
    (h : fs[j]? = some g) (hj : n ≤ j) : g ∈ fs.drop n := by
  obtain ⟨hlt,rfl⟩ := List.getElem?_eq_some_iff.mp h
  rw [List.mem_iff_getElem?]
  exact ⟨j - n,by rw [List.getElem?_drop,Nat.add_sub_cancel' hj,List.getElem?_eq_getElem hlt]⟩

theorem FilterAt.getElem? {fs filter : List SockFilter} {n : Nat} (h : FilterAt fs (n + 1) filter) :
    filter[n]? = fs[n]? := by
  rw [h n,if_pos (Nat.lt_succ_self n)]

theorem FilterAt.eq_resolvedIds {fs filter : List SockFilter} (h : FilterAt fs 0 filter) :
    filter = resolvedIds fs := by
  apply List.ext_getElem?
  intro i
  rw [h i,if_neg (Nat.not_lt_zero i)]

theorem FilterAt.set {fs filter : List SockFilter} {n : Nat} {f : SockFilter}
    (h : FilterAt fs (n + 1) filter) (hf : fs[n]? = some f) :
    FilterAt fs n (filter.set n (resolveOne f (fs.drop (n + 1)))) := by
  have hlt : n < filter.length := by
    have hfn := h.getElem?
    rw [hf] at hfn
    exact (List.getElem?_eq_some_iff.mp hfn).1
  intro i
  rw [List.getElem?_set]
  by_cases hi : n = i
  · subst hi
    rw [if_pos rfl,if_pos hlt,if_neg (Nat.lt_irrefl n),getElem?_resolvedIds hf]
  · rw [if_neg hi,h i]
    by_cases hin : i < n
    · rw [if_pos (by omega),if_pos hin]
    · rw [if_neg (by omega),if_neg hin]

theorem FilterAt.keep {fs filter : List SockFilter} {n : Nat} {f : SockFilter}
    (h : FilterAt fs (n + 1) filter) (hf : fs[n]? = some f) (hr : resolveOne f (fs.drop (n + 1)) = f) :
    FilterAt fs n filter := by
  have hs := h.set hf
  rw [hr] at hs
  have hfn := h.getElem?
  rw [hf] at hfn
  obtain ⟨hlt,hget⟩ := List.getElem?_eq_some_iff.mp hfn
  rwa [← hget,List.set_getElem_self hlt] at hs

theorem TableAt.keep {l0 l : BpfLabels} {fs : List SockFilter} {n : Nat} {f : SockFilter}
    (h : TableAt l0 fs (n + 1) l) (hf : fs[n]? = some f) (hl : labelId? f = none) : TableAt l0 fs n l := by
  intro k
  rw [h k,locOf_of_getElem? hf k,hl]
  simp

theorem TableAt.place {l0 l : BpfLabels} {fs : List SockFilter} {n : Nat} {f : SockFilter} {k : UInt32}
    {e0 : BpfLabel} (h : TableAt l0 fs (n + 1) l) (hf : fs[n]? = some f) (hl : labelId? f = some k)
    (he0 : l0.labels[k.toNat]? = some e0) :
    TableAt l0 fs n (l.setSlot k.toNat { e0 with location := n.toUInt32 }) := by
  have hk : k.toNat < l.labels.length := by
    rw [l.size,← l0.size]
    exact (List.getElem?_eq_some_iff.mp he0).1
  intro k'
  simp only [BpfLabels.setSlot]
  rw [List.getElem?_set,locOf_of_getElem? hf k',hl]
  by_cases hkk : k = k'
  · subst hkk
    rw [if_pos rfl,if_pos hk,he0]
    simp [placed]
  · have hne : k.toNat ≠ k'.toNat := fun he => hkk (UInt32.toNat.inj he)
    rw [if_neg hne,h k',if_neg (fun he => hkk (Option.some.inj he))]

theorem locOf_findIdx {fs : List SockFilter} {n j : Nat} {k : UInt32} (h : locOf fs n k = some j) :
    (fs.drop n).findIdx (fun g => labelId? g == some k) + n = j := by
  unfold locOf at h
  obtain ⟨i,hi,rfl⟩ := Option.map_eq_some_iff.mp h
  rw [(List.findIdx?_eq_some_iff_findIdx_eq.mp hi).2]
  omega

/-- Every position below `n` passes its check. -/
def GoodBelow (fs : List SockFilter) (n : Nat) : Prop :=
  ∀ p < n, ∀ f, fs[p]? = some f → GoodAt f (fs.drop (p + 1))

theorem goodBelow_succ {fs : List SockFilter} {n : Nat} {f : SockFilter} (hf : fs[n]? = some f) :
    GoodBelow fs (n + 1) ↔ GoodBelow fs n ∧ GoodAt f (fs.drop (n + 1)) := by
  constructor
  · intro h
    exact ⟨fun p hp g hg => h p (by omega) g hg,h n (by omega) f hf⟩
  · rintro ⟨h,hn⟩ p hp g hg
    rcases Nat.lt_succ_iff_lt_or_eq.mp hp with hp | rfl
    · exact h p hp g hg
    · rw [hf] at hg
      cases hg
      exact hn

private theorem outcome_of_good {G P A B : Prop} (ih : (G → A) ∧ (¬G → B)) (hp : P) :
    (G ∧ P → A) ∧ (¬(G ∧ P) → B) :=
  ⟨fun h => ih.1 h.1,fun h => ih.2 (fun hg => h ⟨hg,hp⟩)⟩

private theorem outcome_of_bad {G P A B : Prop} (hp : ¬P) (hb : B) : (G ∧ P → A) ∧ (¬(G ∧ P) → B) :=
  ⟨fun h => absurd h.2 hp,fun _ => hb⟩

/-- The walk from position `n` down: it returns 0 with the resolved filter when every position
below `n` passes its check, and 1 at the highest one that does not. -/
theorem resolveWalk_spec {l0 : BpfLabels} {fs : List SockFilter} (hu : Unplaced l0 fs)
    (hlen : fs.length < 0xffffffff) (n : Nat) (hn : n ≤ fs.length) (l : BpfLabels)
    (filter : List SockFilter) (ht : TableAt l0 fs n l) (hfil : FilterAt fs n filter) :
    (GoodBelow fs n → ∃ l', resolveWalk l filter n = .done 0 l' (resolvedIds fs)) ∧
    (¬ GoodBelow fs n → ∃ l' c, resolveWalk l filter n = .done 1 l' c) := by
  induction n generalizing l filter with
  | zero =>
    refine ⟨fun _ => ⟨l,?_⟩,fun h => absurd (fun p hp => absurd hp (Nat.not_lt_zero p)) h⟩
    rw [resolveWalk,hfil.eq_resolvedIds]
  | succ n ih =>
    obtain ⟨f,hf⟩ : ∃ f, fs[n]? = some f := ⟨fs[n],List.getElem?_eq_getElem (by omega)⟩
    have hmem : f ∈ fs := List.mem_of_getElem? hf
    have hff : filter[n]? = some f := hfil.getElem?.trans hf
    rw [goodBelow_succ hf]
    cases hj : jumpId? f with
    | some k =>
      obtain ⟨e0,he0,hs⟩ := hu f hmem k (.inl hj)
      have hlook : l.labels[k.toNat]? = some (placed e0 (locOf fs (n + 1) k)) := by
        rw [ht k,he0]
        rfl
      rw [resolveWalk_jump hff hj,hlook]
      cases hloc : locOf fs (n + 1) k with
      | none =>
        -- no `LABEL` of `k` after the `JUMP`: the slot is still unresolved
        have hbad : ¬ GoodAt f (fs.drop (n + 1)) := by
          rintro ⟨-,hg⟩
          obtain ⟨g,hg,hgl⟩ := hg k hj
          exact locOf_eq_none.mp hloc g hg hgl
        simp only [placed,hs,if_true]
        exact outcome_of_bad hbad ⟨l,filter,rfl⟩
      | some j =>
        obtain ⟨hnj,hjl,g,hg,hgl⟩ := locOf_spec hloc
        have hgood : GoodAt f (fs.drop (n + 1)) := by
          refine ⟨fun _ hk' => (nomatch (jumpId_labelId hj).symm.trans hk'),fun k' hk' => ?_⟩
          rw [hj] at hk'
          cases hk'
          exact ⟨g,mem_drop_of_getElem? hg hnj,hgl⟩
        have hres : { f with k := j.toUInt32 - (n + 1).toUInt32, jt := 0, jf := 0 } =
            resolveOne f (fs.drop (n + 1)) := by
          rw [resolveOne_jump _ hj,← locOf_findIdx hloc,toUInt32_add_sub]
        simp only [placed,toUInt32_ne_unresolved (by omega : j < 0xffffffff),if_false]
        rw [hres]
        exact outcome_of_good (ih (by omega) l _ (ht.keep hf (jumpId_labelId hj)) (hfil.set hf)) hgood
    | none =>
      cases hl : labelId? f with
      | some k =>
        obtain ⟨e0,he0,hs⟩ := hu f hmem k (.inr hl)
        have hlook : l.labels[k.toNat]? = some (placed e0 (locOf fs (n + 1) k)) := by
          rw [ht k,he0]
          rfl
        rw [resolveWalk_label hff hl,hlook]
        cases hloc : locOf fs (n + 1) k with
        | some j =>
          -- a later `LABEL` of `k` has placed it already
          obtain ⟨hnj,hjl,g,hg,hgl⟩ := locOf_spec hloc
          have hbad : ¬ GoodAt f (fs.drop (n + 1)) := by
            rintro ⟨hg',-⟩
            exact hg' k hl g (mem_drop_of_getElem? hg hnj) hgl
          simp only [placed,ne_eq,toUInt32_ne_unresolved (by omega : j < 0xffffffff),
            not_false_eq_true,if_true]
          exact outcome_of_bad hbad ⟨l,filter,rfl⟩
        | none =>
          have hgood : GoodAt f (fs.drop (n + 1)) := by
            refine ⟨fun k' hk' g hg hgl => ?_,fun _ hk' => nomatch hj.symm.trans hk'⟩
            rw [hl] at hk'
            cases hk'
            exact locOf_eq_none.mp hloc g hg hgl
          simp only [placed,hs,ne_eq,not_true_eq_false,if_false]
          rw [← resolveOne_label (fs.drop (n + 1)) hl]
          exact outcome_of_good (ih (by omega) _ _ (ht.place hf hl he0) (hfil.set hf)) hgood
      | none =>
        have hgood : GoodAt f (fs.drop (n + 1)) :=
          ⟨fun _ hk' => (nomatch hl.symm.trans hk'),fun _ hk' => nomatch hj.symm.trans hk'⟩
        rw [resolveWalk_plain hff hj hl]
        exact outcome_of_good
          (ih (by omega) l filter (ht.keep hf hl) (hfil.keep hf (resolveOne_plain _ hj hl))) hgood

theorem goodBelow_cons {f : SockFilter} {rest : List SockFilter} {n : Nat} :
    GoodBelow (f :: rest) (n + 1) ↔ GoodAt f rest ∧ GoodBelow rest n := by
  constructor
  · intro h
    exact ⟨h 0 (by omega) f rfl,fun p hp g hg => h (p + 1) (by omega) g hg⟩
  · rintro ⟨hf,h⟩ p hp g hg
    cases p with
    | zero =>
      simp only [List.getElem?_cons_zero,Option.some.injEq] at hg
      subst hg
      exact hf
    | succ p => exact h p (by omega) g hg

theorem goodBelow_length_iff (fs : List SockFilter) : GoodBelow fs fs.length ↔ GoodIds fs := by
  induction fs with
  | nil => exact ⟨fun _ => trivial,fun _ p hp => absurd hp (Nat.not_lt_zero p)⟩
  | cons f rest ih => rw [List.length_cons,goodBelow_cons,ih,GoodIds]

theorem tableAt_length (l : BpfLabels) (fs : List SockFilter) : TableAt l fs fs.length l := by
  intro k
  have hnone : locOf fs fs.length k = none := by
    rw [locOf_eq_none,List.drop_length]
    exact fun g hg => absurd hg List.not_mem_nil
  rw [hnone]
  cases l.labels[k.toNat]? <;> rfl

theorem filterAt_length (fs : List SockFilter) : FilterAt fs fs.length fs := by
  intro i
  split
  · rfl
  · rename_i hi
    rw [List.getElem?_eq_none (by omega),List.getElem?_eq_none (by rw [length_resolvedIds]; omega)]

/-- `bpf_resolve_jumps` on a filter of 1 to `BPF_MAXINSNS` instructions whose markers all name
unplaced slots: 0 and the resolved filter when the markers are consistent, 1 otherwise. -/
theorem bpfResolveJumps_ids {l : BpfLabels} {fs : List SockFilter} (hu : Unplaced l fs)
    (h1 : 1 ≤ fs.length) (h2 : fs.length ≤ bpfMaxInsns) :
    (GoodIds fs → ∃ l', bpfResolveJumps l fs = .done 0 l' (resolvedIds fs)) ∧
    (¬ GoodIds fs → ∃ l' c, bpfResolveJumps l fs = .done 1 l' c) := by
  unfold bpfMaxInsns at h2
  have hlen : fs.length < 0xffffffff := by omega
  have hr : bpfResolveJumps l fs = resolveWalk l fs fs.length := by
    unfold bpfResolveJumps bpfMaxInsns
    rw [if_neg (by omega)]
  rw [hr,← goodBelow_length_iff]
  exact resolveWalk_spec hu hlen fs.length (Nat.le_refl _) l fs (tableAt_length l fs)
    (filterAt_length fs)

end SandboxedApi.Sandbox2
