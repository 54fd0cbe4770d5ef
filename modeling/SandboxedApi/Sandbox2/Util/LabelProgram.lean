import SandboxedApi.Sandbox2.Util.ResolveJumps

/-! # Label programs and what resolving them means

A label program runs with `goto` semantics: `JUMP(x)` continues at `LABEL(x)` and a `LABEL`
does nothing. `seccomp_bpf_label` gives every name the first slot of the table that holds it,
so the filter `encodeLabels` produces is the program with each name replaced by its slot, and
the slot-level results of `ResolveJumps` carry over to names.
-/
namespace SandboxedApi.Sandbox2
open ClassicBpf

def LabelInsn.name? : LabelInsn → Option String
  | .insn _ => none
  | .jump x => some x
  | .label x => some x

def LabelInsn.labelName? : LabelInsn → Option String
  | .insn _ => none
  | .jump _ => none
  | .label x => some x

/-- No name is placed by two `LABEL`s. -/
def LabelsOnce (prog : List LabelInsn) : Prop := (prog.filterMap LabelInsn.labelName?).Nodup

/-- Every `JUMP(x)` has a `LABEL(x)` at a later position. -/
def JumpsForward : List LabelInsn → Prop
  | [] => True
  | .insn _ :: rest => JumpsForward rest
  | .jump x :: rest => .label x ∈ rest ∧ JumpsForward rest
  | .label _ :: rest => JumpsForward rest

instance (prog : List LabelInsn) : Decidable (LabelsOnce prog) :=
  inferInstanceAs (Decidable (List.Nodup _))

instance decJumpsForward : (prog : List LabelInsn) → Decidable (JumpsForward prog)
  | [] => isTrue trivial
  | .insn _ :: rest => decJumpsForward rest
  | .jump _ :: rest => @instDecidableAnd _ _ (List.instDecidableMemOfLawfulBEq _ rest) (decJumpsForward rest)
  | .label _ :: rest => decJumpsForward rest

/-! ### The meaning of a label program -/

/-- Where control goes next: past `n` more instructions, or to the `LABEL` of a name. -/
inductive Control where
  | skip (n : Nat)
  | seek (name : String)

def execLabel (d : SeccompData) : List LabelInsn → Control → Machine → Outcome
  | [], .skip n, m => .fall m n
  | [], .seek _, m => .fall m 0
  | .insn _ :: rest, .seek x, m => execLabel d rest (.seek x) m
  | .jump _ :: rest, .seek x, m => execLabel d rest (.seek x) m
  | .label y :: rest, .seek x, m =>
    if y = x then execLabel d rest (.skip 0) m else execLabel d rest (.seek x) m
  | _ :: rest, .skip (n + 1), m => execLabel d rest (.skip n) m
  | .insn f :: rest, .skip 0, m =>
    match step d f m with
    | .next m' s => execLabel d rest (.skip s) m'
    | .ret v => .ret v
    | .reject => .reject
  | .jump x :: rest, .skip 0, m => execLabel d rest (.seek x) m
  | .label _ :: rest, .skip 0, m => execLabel d rest (.skip 0) m

/-- The filter a label program stands for: `JUMP(x)` becomes a `BPF_JA` to the position of the
first later `LABEL(x)` and `LABEL` a `BPF_JA 0`. -/
def resolveLabels : List LabelInsn → List SockFilter
  | [] => []
  | .insn f :: rest => f :: resolveLabels rest
  | .jump x :: rest =>
    bpfStmt (bpfJmp + bpfJa) (rest.findIdx (· == .label x)).toUInt32 :: resolveLabels rest
  | .label _ :: rest => bpfStmt (bpfJmp + bpfJa) 0 :: resolveLabels rest

variable {d : SeccompData}

theorem findIdx_label_cons (i : LabelInsn) (rest : List LabelInsn) (x : String) :
    (i :: rest).findIdx (· == .label x) =
      if i = .label x then 0 else rest.findIdx (· == .label x) + 1 := by
  rw [List.findIdx_cons]
  by_cases h : i = .label x
  · simp [h]
  · rw [beq_eq_false_iff_ne.mpr h]
    simp [h]

theorem execLabel_seek (rest : List LabelInsn) (x : String) (m : Machine) :
    execLabel d rest (.seek x) m = execLabel d rest (.skip (rest.findIdx (· == .label x))) m := by
  induction rest with
  | nil => rfl
  | cons i rest ih =>
    rw [findIdx_label_cons]
    by_cases h : i = .label x
    · subst h
      simp [execLabel]
    · rw [if_neg h]
      cases i with
      | insn f => simp only [execLabel,ih]
      | jump y => simp only [execLabel,ih]
      | label y =>
        have hy : y ≠ x := fun e => h (e ▸ rfl)
        simp only [execLabel,if_neg hy,ih]

/-- The resolved filter runs as the label program, from any position and machine. -/
theorem exec_resolveLabels (prog : List LabelInsn) (hlen : prog.length < 2 ^ 32) (n : Nat)
    (m : Machine) : exec d (resolveLabels prog) n m = execLabel d prog (.skip n) m := by
  induction prog generalizing n m with
  | nil => rfl
  | cons i rest ih =>
    have hrest : rest.length < 2 ^ 32 := by
      simp only [List.length_cons] at hlen
      omega
    cases n with
    | succ n =>
      cases i <;> simp only [resolveLabels,exec,execLabel,ih hrest]
    | zero =>
      cases i with
      | insn f =>
        simp only [resolveLabels,exec,execLabel]
        cases step d f m <;> simp only [ih hrest]
      | jump x =>
        have hk : (rest.findIdx (· == .label x)).toUInt32.toNat = rest.findIdx (· == .label x) :=
          UInt32.toNat_ofNat_of_lt' (Nat.lt_of_le_of_lt List.findIdx_le_length hrest)
        simp only [resolveLabels,exec,execLabel,step_ja,hk,ih hrest,execLabel_seek]
      | label x => simp only [resolveLabels,exec,execLabel,step_ja,ih hrest,UInt32.toNat_zero]

/-! ### Programs over slots -/

/-- The instruction a program element is written as, with `ids` the slot of each name. -/
def LabelInsn.encode (ids : String → UInt32) : LabelInsn → SockFilter
  | .insn f => f
  | .jump x => bpfJump (bpfJmp + bpfJa) (ids x) jumpJt jumpJf
  | .label x => bpfJump (bpfJmp + bpfJa) (ids x) labelJt labelJf

/-- The ordinary instructions carry no marker bytes, and `ids` tells the names apart. -/
structure Separates (ids : String → UInt32) (prog : List LabelInsn) : Prop where
  plain : ∀ f, .insn f ∈ prog → jumpId? f = none ∧ labelId? f = none
  inj : ∀ x ∈ prog.filterMap LabelInsn.name?, ∀ y ∈ prog.filterMap LabelInsn.name?,
    ids x = ids y → x = y

theorem Separates.tail {ids : String → UInt32} {i : LabelInsn} {rest : List LabelInsn}
    (h : Separates ids (i :: rest)) : Separates ids rest := by
  refine ⟨fun f hf => h.plain f (List.mem_cons_of_mem _ hf),fun x hx y hy hxy => ?_⟩
  have hsub : ∀ z ∈ rest.filterMap LabelInsn.name?, z ∈ (i :: rest).filterMap LabelInsn.name? := by
    intro z hz
    obtain ⟨j,hj,hjz⟩ := List.mem_filterMap.mp hz
    exact List.mem_filterMap.mpr ⟨j,List.mem_cons_of_mem _ hj,hjz⟩
  exact h.inj x (hsub x hx) y (hsub y hy) hxy

theorem mem_names {prog : List LabelInsn} {j : LabelInsn} {x : String} (hj : j ∈ prog)
    (hx : j.name? = some x) : x ∈ prog.filterMap LabelInsn.name? :=
  List.mem_filterMap.mpr ⟨j,hj,hx⟩

theorem labelId?_encode {ids : String → UInt32} {prog : List LabelInsn} (hs : Separates ids prog)
    {j : LabelInsn} (hj : j ∈ prog) {x : String} (hx : x ∈ prog.filterMap LabelInsn.name?) :
    labelId? (j.encode ids) = some (ids x) ↔ j = .label x := by
  cases j with
  | insn f => simp [LabelInsn.encode,(hs.plain f hj).2]
  | jump y =>
    have hne : (jumpJt,jumpJf) ≠ (labelJt,labelJf) := by decide
    simp [LabelInsn.encode,labelId?_eq_some,bpfJump,hne]
  | label y =>
    constructor
    · intro h
      have hy : ids y = ids x := by
        simpa [LabelInsn.encode,labelId?_eq_some,bpfJump] using h
      rw [hs.inj y (mem_names hj rfl) x hx hy]
    · rintro ⟨⟩
      simp [LabelInsn.encode,labelId?_eq_some,bpfJump]

theorem jumpId?_encode (ids : String → UInt32) {prog : List LabelInsn} (hs : Separates ids prog)
    {j : LabelInsn} (hj : j ∈ prog) {k : UInt32} :
    jumpId? (j.encode ids) = some k ↔ ∃ x, j = .jump x ∧ ids x = k := by
  cases j with
  | insn f => simp [LabelInsn.encode,(hs.plain f hj).1]
  | jump y => simp [LabelInsn.encode,jumpId?_eq_some,bpfJump]
  | label y =>
    have hne : (labelJt,labelJf) ≠ (jumpJt,jumpJf) := by decide
    simp [LabelInsn.encode,jumpId?_eq_some,bpfJump,hne]

private theorem findIdx_congr_mem {α : Type} {p q : α → Bool} {xs : List α}
    (h : ∀ a ∈ xs, p a = q a) : xs.findIdx p = xs.findIdx q := by
  induction xs with
  | nil => rfl
  | cons a xs ih =>
    rw [List.findIdx_cons,List.findIdx_cons,h a List.mem_cons_self,
      ih (fun b hb => h b (List.mem_cons_of_mem _ hb))]

theorem resolvedIds_encode {ids : String → UInt32} {prog : List LabelInsn} (hs : Separates ids prog) :
    resolvedIds (prog.map (LabelInsn.encode ids)) = resolveLabels prog := by
  induction prog with
  | nil => rfl
  | cons i rest ih =>
    rw [List.map_cons,resolvedIds,ih hs.tail]
    cases i with
    | insn f =>
      obtain ⟨hj,hl⟩ := hs.plain f List.mem_cons_self
      show resolveOne f _ :: _ = f :: _
      rw [resolveOne_plain _ hj hl]
    | jump x =>
      have hx : x ∈ (LabelInsn.jump x :: rest).filterMap LabelInsn.name? :=
        mem_names List.mem_cons_self rfl
      have hidx : (rest.map (LabelInsn.encode ids)).findIdx (fun g => labelId? g == some (ids x)) =
          rest.findIdx (· == .label x) := by
        rw [List.findIdx_map]
        refine findIdx_congr_mem (fun j hj => ?_)
        rw [Function.comp_apply,Bool.eq_iff_iff,beq_iff_eq,beq_iff_eq]
        exact labelId?_encode hs (List.mem_cons_of_mem _ hj) hx
      rw [resolveLabels,resolveOne_jump _ ((jumpId?_encode ids hs List.mem_cons_self).mpr ⟨x,rfl,rfl⟩),
        hidx]
      rfl
    | label x =>
      have hl : labelId? ((LabelInsn.label x).encode ids) = some (ids x) :=
        (labelId?_encode hs List.mem_cons_self (mem_names List.mem_cons_self rfl)).mpr rfl
      rw [resolveLabels,resolveOne_label _ hl]
      rfl

/-- The check of one element, at the level of names. -/
def LabelInsn.GoodAt : LabelInsn → List LabelInsn → Prop
  | .insn _, _ => True
  | .jump x, rest => .label x ∈ rest
  | .label x, rest => .label x ∉ rest

theorem goodAt_encode {ids : String → UInt32} {i : LabelInsn} {rest : List LabelInsn}
    (hs : Separates ids (i :: rest)) :
    GoodAt (i.encode ids) (rest.map (LabelInsn.encode ids)) ↔ i.GoodAt rest := by
  have hlab : ∀ x, x ∈ (i :: rest).filterMap LabelInsn.name? →
      ((∃ g ∈ rest.map (LabelInsn.encode ids), labelId? g = some (ids x)) ↔ .label x ∈ rest) := by
    intro x hx
    constructor
    · rintro ⟨g,hg,hgl⟩
      obtain ⟨j,hj,rfl⟩ := List.mem_map.mp hg
      rw [← (labelId?_encode hs (List.mem_cons_of_mem _ hj) hx).mp hgl]
      exact hj
    · intro hx'
      exact ⟨_,List.mem_map_of_mem hx',(labelId?_encode hs (List.mem_cons_of_mem _ hx') hx).mpr rfl⟩
  cases i with
  | insn f =>
    obtain ⟨hj,hl⟩ := hs.plain f List.mem_cons_self
    simp [GoodAt,LabelInsn.GoodAt,LabelInsn.encode,hj,hl]
  | jump x =>
    have hj : jumpId? ((LabelInsn.jump x).encode ids) = some (ids x) :=
      (jumpId?_encode ids hs List.mem_cons_self).mpr ⟨x,rfl,rfl⟩
    have hl : labelId? ((LabelInsn.jump x).encode ids) = none := jumpId_labelId hj
    simp only [GoodAt,LabelInsn.GoodAt,hl,hj,reduceCtorEq,false_imp_iff,implies_true,true_and,
      Option.some.injEq,forall_eq']
    exact hlab x (mem_names List.mem_cons_self rfl)
  | label x =>
    have hl : labelId? ((LabelInsn.label x).encode ids) = some (ids x) :=
      (labelId?_encode hs List.mem_cons_self (mem_names List.mem_cons_self rfl)).mpr rfl
    have hj : jumpId? ((LabelInsn.label x).encode ids) = none := by
      cases h : jumpId? ((LabelInsn.label x).encode ids) with
      | none => rfl
      | some k => rw [jumpId_labelId h] at hl; cases hl
    simp only [GoodAt,LabelInsn.GoodAt,hl,hj,reduceCtorEq,false_imp_iff,implies_true,and_true,
      Option.some.injEq,forall_eq']
    rw [← not_iff_not,← hlab x (mem_names List.mem_cons_self rfl)]
    simp

theorem labelsOnce_cons {i : LabelInsn} {rest : List LabelInsn} :
    LabelsOnce (i :: rest) ↔ (∀ x, i = .label x → .label x ∉ rest) ∧ LabelsOnce rest := by
  have hmem : ∀ x, x ∈ rest.filterMap LabelInsn.labelName? ↔ .label x ∈ rest := by
    intro x
    rw [List.mem_filterMap]
    constructor
    · rintro ⟨j,hj,hjx⟩
      cases j <;> simp only [LabelInsn.labelName?,reduceCtorEq,Option.some.injEq] at hjx
      rw [← hjx]
      exact hj
    · intro hx
      exact ⟨_,hx,rfl⟩
  cases i with
  | label x => simp [LabelsOnce,LabelInsn.labelName?,hmem]
  | insn f => simp [LabelsOnce,LabelInsn.labelName?,List.filterMap_cons]
  | jump y => simp [LabelsOnce,LabelInsn.labelName?,List.filterMap_cons]

theorem LabelInsn.goodAt_iff {i : LabelInsn} {rest : List LabelInsn} :
    i.GoodAt rest ↔ (∀ x, i = .label x → .label x ∉ rest) ∧ (∀ x, i = .jump x → .label x ∈ rest) := by
  cases i <;> simp [LabelInsn.GoodAt]

theorem jumpsForward_cons {i : LabelInsn} {rest : List LabelInsn} :
    JumpsForward (i :: rest) ↔ (∀ x, i = .jump x → .label x ∈ rest) ∧ JumpsForward rest := by
  cases i <;> simp [JumpsForward]

theorem goodIds_encode {ids : String → UInt32} {prog : List LabelInsn} (hs : Separates ids prog) :
    GoodIds (prog.map (LabelInsn.encode ids)) ↔ LabelsOnce prog ∧ JumpsForward prog := by
  induction prog with
  | nil => simp [GoodIds,LabelsOnce,JumpsForward]
  | cons i rest ih =>
    rw [List.map_cons,GoodIds,goodAt_encode hs,ih hs.tail,LabelInsn.goodAt_iff,labelsOnce_cons,
      jumpsForward_cons,and_and_and_comm]

/-! ### The table `seccomp_bpf_label` fills -/

/-- The slots in use. -/
def BpfLabels.entries (l : BpfLabels) : List BpfLabel := l.labels.take l.count

/-- The slot `seccomp_bpf_label` finds for `name`: the first one in use that holds it. -/
def BpfLabels.idOf (l : BpfLabels) (name : String) : Nat :=
  l.entries.findIdx (fun e => e.label == some name)

/-- At most `BPF_LABELS_MAX` slots are in use and none of them is placed yet. -/
def BpfLabels.Fresh (l : BpfLabels) : Prop :=
  l.count ≤ bpfLabelsMax ∧ ∀ e ∈ l.entries, e.location = 0xffffffff

theorem BpfLabels.length_entries {l : BpfLabels} (h : l.count ≤ bpfLabelsMax) :
    l.entries.length = l.count := by
  rw [BpfLabels.entries,List.length_take,l.size]
  omega

theorem BpfLabels.entries_push {l : BpfLabels} (h : l.count < bpfLabelsMax) (x : String) :
    (l.push x).entries = l.entries ++ [⟨some x,0xffffffff⟩] := by
  have hlt : l.count < l.labels.length := by rw [l.size]; exact h
  simp only [BpfLabels.entries,BpfLabels.push,BpfLabels.setSlot]
  rw [List.take_add_one,List.take_set_of_le (Nat.le_refl _),List.getElem?_set_self hlt]
  rfl

theorem BpfLabels.idOf_append {l l' : BpfLabels} {x : String} {t : List BpfLabel}
    (h : l.idOf x < l.entries.length) (he : l'.entries = l.entries ++ t) : l'.idOf x = l.idOf x := by
  unfold BpfLabels.idOf at h ⊢
  rw [he,List.findIdx_append,if_pos h]

theorem BpfLabels.idOf_label {l : BpfLabels} {x : String} (h : l.idOf x < l.entries.length) :
    l.entries[l.idOf x].label = some x := by
  unfold BpfLabels.idOf at h ⊢
  simpa using List.findIdx_getElem (w := h)

theorem BpfLabels.push_spec {l : BpfLabels} (hf : l.Fresh) (hlt : l.count < bpfLabelsMax)
    {x : String} (hx : ∀ e ∈ l.entries, e.label ≠ some x) :
    (l.push x).Fresh ∧ (l.push x).entries = l.entries ++ [⟨some x,0xffffffff⟩] ∧
      (l.push x).idOf x = l.count ∧ (l.push x).idOf x < (l.push x).entries.length := by
  have he := BpfLabels.entries_push hlt x
  have hcount : (l.push x).count = l.count + 1 := rfl
  have hidx : (l.push x).idOf x = l.count := by
    unfold BpfLabels.idOf
    rw [he,List.findIdx_append,List.findIdx_eq_length_of_false (fun e he' => by simpa using hx e he'),
      if_neg (Nat.lt_irrefl _),BpfLabels.length_entries hf.1]
    simp
  refine ⟨⟨by rw [hcount]; exact hlt,fun e hmem => ?_⟩,he,hidx,?_⟩
  · rw [he,List.mem_append,List.mem_singleton] at hmem
    rcases hmem with hmem | rfl
    · exact hf.2 e hmem
    · rfl
  · rw [hidx,he,List.length_append,BpfLabels.length_entries hf.1]
    simp

/-- `seccomp_bpf_label` keeps the table fresh, only appends to the slots in use, and returns
the slot that holds the name. -/
theorem seccompBpfLabel_spec {l l' : BpfLabels} {x : String} {id : UInt32} (hf : l.Fresh)
    (h : seccompBpfLabel l x = some (l',id)) :
    l'.Fresh ∧ (∃ t, l'.entries = l.entries ++ t) ∧ l'.idOf x < l'.entries.length ∧
      id = (l'.idOf x).toUInt32 := by
  unfold seccompBpfLabel at h
  have hne : l.count ≠ bpfLabelsMax := by
    intro hc
    rw [if_pos hc] at h
    cases h
  have hlt : l.count < bpfLabelsMax := Nat.lt_of_le_of_ne hf.1 hne
  rw [if_neg hne] at h
  have hpush : ∀ (hx : ∀ e ∈ l.entries, e.label ≠ some x), l' = l.push x → id = l.count.toUInt32 →
      l'.Fresh ∧ (∃ t, l'.entries = l.entries ++ t) ∧ l'.idOf x < l'.entries.length ∧
        id = (l'.idOf x).toUInt32 := by
    rintro hx rfl rfl
    obtain ⟨hf',he,hidx,hlt'⟩ := BpfLabels.push_spec hf hlt hx
    exact ⟨hf',⟨_,he⟩,hlt',by rw [hidx]⟩
  by_cases h0 : l.count = 0
  · rw [if_pos h0] at h
    cases h
    have hnil : l.entries = [] := by rw [BpfLabels.entries,h0,List.take_zero]
    exact hpush (by simp [hnil]) rfl (by rw [h0]; rfl)
  · rw [if_neg h0] at h
    cases hfind : (l.labels.take l.count).findIdx? (fun e => e.label == some x) with
    | none =>
      rw [hfind] at h
      cases h
      have hx : ∀ e ∈ l.entries, e.label ≠ some x := by
        intro e he hl
        have := List.findIdx?_eq_none_iff.mp hfind e he
        simp [hl] at this
      exact hpush hx rfl rfl
    | some i =>
      rw [hfind] at h
      cases h
      obtain ⟨hi,hidx⟩ := List.findIdx?_eq_some_iff_findIdx_eq.mp hfind
      have hid : l.idOf x = i := by rw [BpfLabels.idOf,BpfLabels.entries,hidx]
      exact ⟨hf,⟨[],(List.append_nil _).symm⟩,by rw [hid]; exact hi,by rw [hid]⟩

/-- What encoding `prog` from table `l` leaves: a fresh table `l'` that extends `l` and holds
every name of `prog`, and `prog` with each name replaced by its slot in `l'`. -/
structure Encoded (l : BpfLabels) (prog : List LabelInsn) (l' : BpfLabels) (fs : List SockFilter) :
    Prop where
  fresh : l'.Fresh
  extends_ : ∃ t, l'.entries = l.entries ++ t
  holds : ∀ x ∈ prog.filterMap LabelInsn.name?, l'.idOf x < l'.entries.length
  filter : fs = prog.map (LabelInsn.encode (fun x => (l'.idOf x).toUInt32))

theorem Encoded.nil {l : BpfLabels} (hf : l.Fresh) : Encoded l [] l [] :=
  ⟨hf,⟨[],(List.append_nil _).symm⟩,fun _ hx => absurd hx List.not_mem_nil,rfl⟩

theorem Encoded.insn {l l' : BpfLabels} {rest : List LabelInsn} {fs : List SockFilter}
    (h : Encoded l rest l' fs) (f : SockFilter) : Encoded l (.insn f :: rest) l' (f :: fs) :=
  ⟨h.fresh,h.extends_,h.holds,by rw [h.filter]; rfl⟩

theorem Encoded.marker {l l1 l' : BpfLabels} {x : String} {id : UInt32} {jt jf : UInt8}
    {i : LabelInsn} {rest : List LabelInsn} {fs : List SockFilter} (hf : l.Fresh)
    (hl : seccompBpfLabel l x = some (l1,id)) (h : Encoded l1 rest l' fs)
    (hix : i.name? = some x)
    (hi : ∀ ids : String → UInt32, i.encode ids = bpfJump (bpfJmp + bpfJa) (ids x) jt jf) :
    Encoded l (i :: rest) l' (bpfJump (bpfJmp + bpfJa) id jt jf :: fs) := by
  obtain ⟨hf1,⟨t,ht⟩,hx1,rfl⟩ := seccompBpfLabel_spec hf hl
  obtain ⟨t',ht'⟩ := h.extends_
  have hid : l'.idOf x = l1.idOf x := BpfLabels.idOf_append hx1 ht'
  have hlen : l1.entries.length ≤ l'.entries.length := by
    rw [ht',List.length_append]
    omega
  refine ⟨h.fresh,⟨t ++ t',by rw [ht',ht,List.append_assoc]⟩,fun y hy => ?_,?_⟩
  · rw [List.filterMap_cons,hix] at hy
    rcases List.mem_cons.mp hy with rfl | hy
    · rw [hid]
      omega
    · exact h.holds y hy
  · rw [h.filter,List.map_cons,hi,hid]

theorem encodeLabels_spec {prog : List LabelInsn} {l l' : BpfLabels} {fs : List SockFilter}
    (hf : l.Fresh) (h : encodeLabels l prog = some (l',fs)) : Encoded l prog l' fs := by
  induction prog generalizing l fs with
  | nil =>
    simp only [encodeLabels,Option.some.injEq,Prod.mk.injEq] at h
    obtain ⟨rfl,rfl⟩ := h
    exact Encoded.nil hf
  | cons i rest ih =>
    cases i with
    | insn f =>
      simp only [encodeLabels,Option.map_eq_some_iff] at h
      obtain ⟨⟨l1,fs1⟩,hr,he⟩ := h
      simp only [Prod.mk.injEq] at he
      obtain ⟨rfl,rfl⟩ := he
      exact (ih hf hr).insn f
    | jump x =>
      simp only [encodeLabels] at h
      cases hl : seccompBpfLabel l x with
      | none => simp [hl] at h
      | some r =>
        obtain ⟨l1,id⟩ := r
        simp only [hl,Option.map_eq_some_iff] at h
        obtain ⟨⟨l2,fs1⟩,hr,he⟩ := h
        simp only [Prod.mk.injEq] at he
        obtain ⟨rfl,rfl⟩ := he
        exact Encoded.marker hf hl (ih (seccompBpfLabel_spec hf hl).1 hr) rfl (fun _ => rfl)
    | label x =>
      simp only [encodeLabels] at h
      cases hl : seccompBpfLabel l x with
      | none => simp [hl] at h
      | some r =>
        obtain ⟨l1,id⟩ := r
        simp only [hl,Option.map_eq_some_iff] at h
        obtain ⟨⟨l2,fs1⟩,hr,he⟩ := h
        simp only [Prod.mk.injEq] at he
        obtain ⟨rfl,rfl⟩ := he
        exact Encoded.marker hf hl (ih (seccompBpfLabel_spec hf hl).1 hr) rfl (fun _ => rfl)

theorem BpfLabels.fresh_zero : BpfLabels.zero.Fresh :=
  ⟨by decide,fun e he => by simp [BpfLabels.entries,BpfLabels.zero] at he⟩

theorem Encoded.toNat_slot {l l' : BpfLabels} {prog : List LabelInsn} {fs : List SockFilter}
    (h : Encoded l prog l' fs) {x : String} (hx : x ∈ prog.filterMap LabelInsn.name?) :
    (l'.idOf x).toUInt32.toNat = l'.idOf x := by
  have hlt := h.holds x hx
  rw [BpfLabels.length_entries h.fresh.1] at hlt
  have hmax := h.fresh.1
  unfold bpfLabelsMax at hmax
  exact UInt32.toNat_ofNat_of_lt' (by unfold UInt32.size; omega)

theorem Encoded.separates {l l' : BpfLabels} {prog : List LabelInsn} {fs : List SockFilter}
    (h : Encoded l prog l' fs) (hplain : ∀ f, .insn f ∈ prog → jumpId? f = none ∧ labelId? f = none) :
    Separates (fun x => (l'.idOf x).toUInt32) prog := by
  refine ⟨hplain,fun x hx y hy hxy => ?_⟩
  have hnat : l'.idOf x = l'.idOf y := by
    have := congrArg UInt32.toNat hxy
    rwa [h.toNat_slot hx,h.toNat_slot hy] at this
  have hlx := BpfLabels.idOf_label (h.holds x hx)
  have hly := BpfLabels.idOf_label (h.holds y hy)
  simp only [hnat] at hlx
  rw [hlx] at hly
  exact Option.some.inj hly

theorem Encoded.unplaced {l l' : BpfLabels} {prog : List LabelInsn} {fs : List SockFilter}
    (h : Encoded l prog l' fs) (hplain : ∀ f, .insn f ∈ prog → jumpId? f = none ∧ labelId? f = none) :
    Unplaced l' fs := by
  have hs := h.separates hplain
  intro g hg k hk
  rw [h.filter] at hg
  obtain ⟨j,hj,rfl⟩ := List.mem_map.mp hg
  -- the marker comes from a `JUMP` or `LABEL` of some name `x` of `prog`
  obtain ⟨x,hx,rfl⟩ : ∃ x, x ∈ prog.filterMap LabelInsn.name? ∧ (l'.idOf x).toUInt32 = k := by
    cases j with
    | insn f =>
      obtain ⟨hjf,hlf⟩ := hplain f hj
      simp [LabelInsn.encode,hjf,hlf] at hk
    | jump x =>
      refine ⟨x,mem_names hj rfl,?_⟩
      rcases hk with hk | hk
      · exact ((jumpId?_encode _ hs hj).mp hk).elim (fun y hy => by cases hy.1; exact hy.2)
      · simp [LabelInsn.encode,labelId?_eq_some,bpfJump,jumpJt,labelJt] at hk
    | label x =>
      refine ⟨x,mem_names hj rfl,?_⟩
      rcases hk with hk | hk
      · simp [LabelInsn.encode,jumpId?_eq_some,bpfJump,jumpJt,labelJt] at hk
      · simp only [LabelInsn.encode,labelId?_eq_some,bpfJump] at hk
        exact hk.2.2
  have hlt := h.holds x hx
  have hcount : l'.idOf x < l'.count := by rwa [← BpfLabels.length_entries h.fresh.1]
  refine ⟨l'.entries[l'.idOf x],?_,h.fresh.2 _ (List.getElem_mem hlt)⟩
  rw [h.toNat_slot hx,← List.getElem?_eq_getElem hlt,BpfLabels.entries,List.getElem?_take,if_pos hcount]

/-! ### `bpf_resolve_jumps` on a label program -/

theorem resolveLabels_append {p : List LabelInsn} (hp : JumpsForward p) (q : List LabelInsn) :
    resolveLabels (p ++ q) = resolveLabels p ++ resolveLabels q := by
  induction p with
  | nil => rfl
  | cons i rest ih =>
    cases i with
    | insn f => simp only [List.cons_append,resolveLabels,ih hp]
    | jump x =>
      have hx : rest.findIdx (· == .label x) < rest.length :=
        List.findIdx_lt_length.mpr ⟨_,hp.1,by simp⟩
      simp only [List.cons_append,resolveLabels,List.findIdx_append,if_pos hx,ih hp.2]
    | label x => simp only [List.cons_append,resolveLabels,ih hp]

@[simp] theorem length_resolveLabels (prog : List LabelInsn) :
    (resolveLabels prog).length = prog.length := by
  induction prog with
  | nil => rfl
  | cons i rest ih => cases i <;> simp [resolveLabels,ih]

theorem done_zero_ne {r : Int} (hr : r ≠ 0) {l l' : BpfLabels} {c c' : List SockFilter} :
    Resolved.done r l c ≠ .done 0 l' c' := by
  intro h
  simp only [Resolved.done.injEq] at h
  exact hr h.1

/-- An element that is not an ordinary instruction carrying marker bytes. -/
def LabelInsn.markerFree : LabelInsn → Bool
  | .insn f => jumpId? f == none && labelId? f == none
  | _ => true

theorem plain_of_markerFree {prog : List LabelInsn} (h : prog.all LabelInsn.markerFree = true) :
    ∀ f, .insn f ∈ prog → jumpId? f = none ∧ labelId? f = none := by
  intro f hf
  have hm := List.all_eq_true.mp h _ hf
  simpa [LabelInsn.markerFree] using hm

/-- The consistent case: the resolver returns 0 and leaves `resolveLabels prog`. -/
theorem bpfResolveJumps_of_consistent {prog : List LabelInsn} {l : BpfLabels} {fs : List SockFilter}
    (hplain : ∀ f, .insn f ∈ prog → jumpId? f = none ∧ labelId? f = none)
    (henc : encodeLabels .zero prog = some (l,fs)) (h1 : 1 ≤ prog.length)
    (h2 : prog.length ≤ bpfMaxInsns) (hlo : LabelsOnce prog) (hjf : JumpsForward prog) :
    ∃ l', bpfResolveJumps l fs = .done 0 l' (resolveLabels prog) := by
  have he := encodeLabels_spec BpfLabels.fresh_zero henc
  have hs := he.separates hplain
  have hlen : fs.length = prog.length := by rw [he.filter,List.length_map]
  have hg : GoodIds fs := by
    rw [he.filter]
    exact (goodIds_encode hs).mpr ⟨hlo,hjf⟩
  obtain ⟨l1,h⟩ := (bpfResolveJumps_ids (he.unplaced hplain) (hlen ▸ h1) (hlen ▸ h2)).1 hg
  refine ⟨l1,?_⟩
  rw [h,he.filter,resolvedIds_encode hs]

/-- The converse: when the resolver returns 0 on a program none of whose own instructions
carries the marker bytes, it has left `resolveLabels prog`. -/
theorem resolved_of_done_zero {prog : List LabelInsn} {l : BpfLabels} {fs : List SockFilter}
    (hplain : ∀ f, .insn f ∈ prog → jumpId? f = none ∧ labelId? f = none)
    (henc : encodeLabels .zero prog = some (l,fs)) {l' : BpfLabels} {c : List SockFilter}
    (h : bpfResolveJumps l fs = .done 0 l' c) : c = resolveLabels prog := by
  have he := encodeLabels_spec BpfLabels.fresh_zero henc
  have hs := he.separates hplain
  have hlen : fs.length = prog.length := by rw [he.filter,List.length_map]
  have hgood : GoodIds fs ↔ LabelsOnce prog ∧ JumpsForward prog := by
    rw [he.filter]
    exact goodIds_encode hs
  -- out of bounds the resolver returns -1 at once
  have hr : 1 ≤ prog.length ∧ prog.length ≤ bpfMaxInsns := by
    by_contra hr
    have h1 : bpfResolveJumps l fs = .done (-1) l fs := by
      unfold bpfResolveJumps
      rw [if_pos (by omega)]
    exact done_zero_ne (by decide) (h1 ▸ h)
  -- an inconsistent program makes the walk return 1
  have hg : LabelsOnce prog ∧ JumpsForward prog := by
    by_contra hg
    obtain ⟨l1,c1,h1⟩ := (bpfResolveJumps_ids (he.unplaced hplain) (hlen ▸ hr.1) (hlen ▸ hr.2)).2
      (fun hi => hg (hgood.mp hi))
    exact done_zero_ne (by decide) (h1 ▸ h)
  obtain ⟨l1,h1⟩ := bpfResolveJumps_of_consistent hplain henc hr.1 hr.2 hg.1 hg.2
  rw [h1,Resolved.done.injEq] at h
  exact h.2.2.symm

/-- `bpf_resolve_jumps` on a label program written out with the table `seccomp_bpf_label` fills
from empty, when no instruction of the program carries the marker bytes itself: it returns 0
exactly when the program has 1 to `BPF_MAXINSNS` instructions, places each name at most once
and has a `LABEL` after each `JUMP` of its name, and it then leaves `resolveLabels prog`, which
runs as the program does. -/
theorem bpfResolveJumps_labels {prog : List LabelInsn} {l : BpfLabels} {fs : List SockFilter}
    (hplain : ∀ f, .insn f ∈ prog → jumpId? f = none ∧ labelId? f = none)
    (henc : encodeLabels .zero prog = some (l,fs)) :
    ((∃ l' c, bpfResolveJumps l fs = .done 0 l' c) ↔
      1 ≤ prog.length ∧ prog.length ≤ bpfMaxInsns ∧ LabelsOnce prog ∧ JumpsForward prog) ∧
    ∀ l' c, bpfResolveJumps l fs = .done 0 l' c →
      c = resolveLabels prog ∧ ∀ d n m, exec d c n m = execLabel d prog (.skip n) m := by
  have he := encodeLabels_spec BpfLabels.fresh_zero henc
  have hs := he.separates hplain
  have hlen : fs.length = prog.length := by rw [he.filter,List.length_map]
  have hgood : GoodIds fs ↔ LabelsOnce prog ∧ JumpsForward prog := by
    rw [he.filter]
    exact goodIds_encode hs
  by_cases hr : 1 ≤ prog.length ∧ prog.length ≤ bpfMaxInsns
  · by_cases hg : LabelsOnce prog ∧ JumpsForward prog
    · obtain ⟨l1,h1⟩ := bpfResolveJumps_of_consistent hplain henc hr.1 hr.2 hg.1 hg.2
      refine ⟨⟨fun _ => ⟨hr.1,hr.2,hg⟩,fun _ => ⟨l1,_,h1⟩⟩,fun l' c h => ?_⟩
      rw [h1,Resolved.done.injEq] at h
      have h32 : prog.length < 2 ^ 32 := by
        unfold bpfMaxInsns at hr
        omega
      rw [← h.2.2]
      exact ⟨rfl,fun d n m => exec_resolveLabels prog h32 n m⟩
    · -- an inconsistent program makes the walk return 1
      obtain ⟨l1,c1,h1⟩ := (bpfResolveJumps_ids (he.unplaced hplain) (hlen ▸ hr.1) (hlen ▸ hr.2)).2
        (fun h => hg (hgood.mp h))
      have hne : (1 : Int) ≠ 0 := by decide
      refine ⟨⟨fun ⟨l',c,h⟩ => absurd (h1 ▸ h) (done_zero_ne hne),fun h => absurd h.2.2 hg⟩,
        fun l' c h => absurd (h1 ▸ h) (done_zero_ne hne)⟩
  · have h1 : bpfResolveJumps l fs = .done (-1) l fs := by
      unfold bpfResolveJumps
      rw [if_pos (by omega)]
    have hne : (-1 : Int) ≠ 0 := by decide
    refine ⟨⟨fun ⟨l',c,h⟩ => absurd (h1 ▸ h) (done_zero_ne hne),fun h => absurd ⟨h.1,h.2.1⟩ hr⟩,
      fun l' c h => absurd (h1 ▸ h) (done_zero_ne hne)⟩

theorem bpfResolveJumps_labels_skip :
    (∀ f, .insn f ∈ [LabelInsn.jump "out",.insn allow,.label "out",.insn kill] →
      jumpId? f = none ∧ labelId? f = none) ∧
    ∃ l fs, encodeLabels .zero [LabelInsn.jump "out",.insn allow,.label "out",.insn kill] =
        some (l,fs) ∧
      (((∃ l' c, bpfResolveJumps l fs = .done 0 l' c) ↔
        1 ≤ [LabelInsn.jump "out",.insn allow,.label "out",.insn kill].length ∧
          [LabelInsn.jump "out",.insn allow,.label "out",.insn kill].length ≤ bpfMaxInsns ∧
          LabelsOnce [LabelInsn.jump "out",.insn allow,.label "out",.insn kill] ∧
          JumpsForward [LabelInsn.jump "out",.insn allow,.label "out",.insn kill]) ∧
      ∀ l' c, bpfResolveJumps l fs = .done 0 l' c →
        c = resolveLabels [LabelInsn.jump "out",.insn allow,.label "out",.insn kill] ∧
          ∀ d n m, exec d c n m =
            execLabel d [LabelInsn.jump "out",.insn allow,.label "out",.insn kill] (.skip n) m) := by
  have hplain : ∀ f, .insn f ∈ [LabelInsn.jump "out",.insn allow,.label "out",.insn kill] →
      jumpId? f = none ∧ labelId? f = none := by
    intro f hf
    simp only [List.mem_cons,LabelInsn.insn.injEq,reduceCtorEq,List.not_mem_nil,or_false,
      false_or] at hf
    rcases hf with rfl | rfl <;> decide
  obtain ⟨l,fs,henc⟩ : ∃ l fs, encodeLabels .zero
      [LabelInsn.jump "out",.insn allow,.label "out",.insn kill] = some (l,fs) := ⟨_,_,rfl⟩
  exact ⟨hplain,l,fs,henc,bpfResolveJumps_labels hplain henc⟩

/-- An ordinary `BPF_JA` whose unused `jt` and `jf` bytes are `0xff` is taken for a `JUMP`: the
resolver returns 0 but rewrites it into a jump out of the filter. -/
theorem bpfResolveJumps_ordinary_ja :
    LabelsOnce [.insn (bpfJump (bpfJmp + bpfJa) 0 0xff 0xff),.insn allow] ∧
    JumpsForward [.insn (bpfJump (bpfJmp + bpfJa) 0 0xff 0xff),.insn allow] ∧
    encodeLabels .zero [.insn (bpfJump (bpfJmp + bpfJa) 0 0xff 0xff),.insn allow] =
      some (.zero,[bpfJump (bpfJmp + bpfJa) 0 0xff 0xff,allow]) ∧
    ∃ l', bpfResolveJumps .zero [bpfJump (bpfJmp + bpfJa) 0 0xff 0xff,allow] =
      .done 0 l' [bpfStmt (bpfJmp + bpfJa) 0xffffffff,allow] ∧
    [bpfStmt (bpfJmp + bpfJa) 0xffffffff,allow] ≠
      resolveLabels [.insn (bpfJump (bpfJmp + bpfJa) 0 0xff 0xff),.insn allow] ∧
    ∀ d, (exec d [bpfStmt (bpfJmp + bpfJa) 0xffffffff,allow] 0 Machine.init).verdict = none ∧
      (execLabel d [.insn (bpfJump (bpfJmp + bpfJa) 0 0xff 0xff),.insn allow] (.skip 0)
        Machine.init).verdict = some seccompRetAllow :=
  ⟨by decide,trivial,rfl,_,rfl,by decide,fun _ => ⟨rfl,rfl⟩⟩

end SandboxedApi.Sandbox2
