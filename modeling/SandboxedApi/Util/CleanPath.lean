import SandboxedApi.Util.Path

/-! # `CleanPath` as a lexical normaliser

What a path names is read off its components on a stack: empty components and `.` stay where
they are, `..` pops the last name, or is dropped at the root of an absolute path, or climbs one
more level above the directory a relative path starts from. `CleanPath` keeps the names in a
deque and counts the climbs in `dotdot_num`; the deque, read in order, is the stack read from
the bottom. It follows that the clean path is in normal form, names what the path names, and is
left as it is by a second `CleanPath`.
-/
namespace SandboxedApi.File

/-- One component, resolved on a stack whose top is the head of the list. -/
def climbStep (absolute : Bool) (s : Nat × List Path) (part : Path) : Nat × List Path :=
  if part = [] ∨ part = ['.'] then s
  else if part = ['.','.'] then
    match s.2 with
    | _ :: stack => (s.1,stack)
    | [] => if absolute then s else (s.1 + 1,[])
  else (s.1,part :: s.2)

/-- What a path names: whether it is absolute, how many levels it climbs above the directory it
is relative to, and the names it then goes down. -/
def denote (path : Path) : Bool × Nat × List Path :=
  let s := (path.splitOn '/').foldl (climbStep (isAbsolutePath path)) (0,[])
  (isAbsolutePath path,s.1,s.2.reverse)

theorem isAbsolutePath_eq_isPrefixOf (path : Path) : isAbsolutePath path = ['/'].isPrefixOf path := by
  cases path with
  | nil => rfl
  | cons c l => rw [isAbsolutePath_eq,isPrefixOf_cons]; simp [eq_comm]

/-! ### One component, in the loop and on the stack -/

@[simp] theorem cleanStep_dotdot_nil (d : Nat) : cleanStep (d,[]) ['.','.'] = (d + 1,[]) := rfl

theorem cleanStep_dotdot {st : Nat × List Path} (h : st.2 ≠ []) :
    cleanStep st ['.','.'] = (st.1,st.2.dropLast) := by
  rw [cleanStep,if_pos rfl,if_neg (by simpa using h)]

@[simp] theorem cleanStep_dot (st : Nat × List Path) : cleanStep st ['.'] = st := rfl

@[simp] theorem climbStep_empty (absolute : Bool) (s : Nat × List Path) :
    climbStep absolute s [] = s := rfl

@[simp] theorem climbStep_dot (absolute : Bool) (s : Nat × List Path) :
    climbStep absolute s ['.'] = s := rfl

@[simp] theorem climbStep_dotdot_cons (absolute : Bool) (u : Nat) (x : Path) (stack : List Path) :
    climbStep absolute (u,x :: stack) ['.','.'] = (u,stack) := rfl

theorem climbStep_dotdot_nil (absolute : Bool) (u : Nat) :
    climbStep absolute (u,[]) ['.','.'] = if absolute then (u,[]) else (u + 1,[]) := rfl

theorem climbStep_component (absolute : Bool) (s : Nat × List Path) {k : Path} (hk : IsComponent k) :
    climbStep absolute s k = (s.1,k :: s.2) := by
  rw [climbStep,if_neg (not_or.mpr ⟨hk.1,hk.2.2.1⟩),if_neg hk.2.2.2]

/-! ### The loop of `CleanPath` simulates the stack -/

/-- The deque and counter of `CleanPath` against the stack: the deque is the stack read from the
bottom, and the counter is the climbs of a relative path. -/
def Simulates (absolute : Bool) (st : Nat × List Path) (s : Nat × List Path) : Prop :=
  s.1 = (if absolute then 0 else st.1) ∧ s.2.reverse = st.2

theorem simulates_step {absolute : Bool} {st s : Nat × List Path} (h : Simulates absolute st s)
    {part : Path} (hp : part ≠ [] ∧ '/' ∉ part) :
    Simulates absolute (cleanStep st part) (climbStep absolute s part) := by
  obtain ⟨d,parts⟩ := st
  obtain ⟨u,stack⟩ := s
  obtain ⟨h1,h2⟩ := h
  by_cases hd : part = ['.','.']
  · subst hd
    cases stack with
    | nil =>
      -- nothing to pop: the climb is counted, or dropped at the root
      have he : parts = [] := h2.symm
      subst he
      rw [cleanStep_dotdot_nil,climbStep_dotdot_nil]
      cases absolute
      · exact ⟨by simpa using h1,rfl⟩
      · exact ⟨h1,rfl⟩
    | cons x stack =>
      have he : parts = stack.reverse ++ [x] := by simpa using h2.symm
      subst he
      rw [cleanStep_dotdot (by simp),climbStep_dotdot_cons]
      exact ⟨h1,by simp⟩
  · by_cases hdot : part = ['.']
    · subst hdot
      rw [cleanStep_dot,climbStep_dot]
      exact ⟨h1,h2⟩
    · have hk : IsComponent part := ⟨hp.1,hp.2,hdot,hd⟩
      rw [cleanStep_component hk,climbStep_component absolute _ hk]
      exact ⟨h1,by simp [h2]⟩

theorem simulates_foldl (absolute : Bool) :
    ∀ (parts : List Path) (st s : Nat × List Path), (∀ p ∈ parts, p ≠ [] ∧ '/' ∉ p) →
      Simulates absolute st s →
        Simulates absolute (parts.foldl cleanStep st) (parts.foldl (climbStep absolute) s) := by
  intro parts
  induction parts with
  | nil => exact fun _ _ _ h => h
  | cons part parts ih =>
    intro st s hp h
    exact ih _ _ (fun p hp' => hp p (List.mem_cons_of_mem _ hp'))
      (simulates_step h (hp part List.mem_cons_self))

/-- Empty components name the directory itself, so the stack may skip them as `StrSplit` does. -/
theorem foldl_climbStep_filter (absolute : Bool) :
    ∀ (parts : List Path) (s : Nat × List Path),
      (parts.filter fun p => !p.isEmpty).foldl (climbStep absolute) s =
        parts.foldl (climbStep absolute) s := by
  intro parts
  induction parts with
  | nil => exact fun _ => rfl
  | cons part parts ih =>
    intro s
    cases part with
    | nil => simp [ih]
    | cons c part => simp [ih]

/-- What a path names, read off the loop of `CleanPath`. -/
theorem denote_eq_cleanParts (path : Path) :
    denote path = (isAbsolutePath path,
      if isAbsolutePath path then 0 else (cleanParts path).1,(cleanParts path).2) := by
  have hs := simulates_foldl (isAbsolutePath path) (strSplitSkipEmpty path '/') (0,[]) (0,[])
    (fun p hp => ⟨(mem_strSplitSkipEmpty hp).1,(mem_strSplitSkipEmpty hp).2.1⟩)
    ⟨by split <;> rfl,rfl⟩
  rw [strSplitSkipEmpty,foldl_climbStep_filter] at hs
  obtain ⟨h1,h2⟩ := hs
  simp only [denote,h1,h2,cleanParts,strSplitSkipEmpty]

/-! ### The pieces of a clean path -/

theorem foldl_cleanStep_components {ks : List Path} (hks : ∀ k ∈ ks, IsComponent k) :
    ∀ st : Nat × List Path, ks.foldl cleanStep st = (st.1,st.2 ++ ks) := by
  induction ks with
  | nil => exact fun st => by simp
  | cons k ks ih =>
    intro st
    rw [List.foldl_cons,cleanStep_component (hks k List.mem_cons_self),
      ih (fun k' hk' => hks k' (List.mem_cons_of_mem _ hk'))]
    simp

theorem foldl_cleanStep_dotdot (k : Nat) :
    ∀ n : Nat, (List.replicate n ['.','.']).foldl cleanStep (k,[]) = (k + n,[])
  | 0 => rfl
  | n + 1 => by
    rw [List.replicate_succ,List.foldl_cons,cleanStep_dotdot_nil,foldl_cleanStep_dotdot]
    congr 1
    omega

theorem cleanParts_intercalate {parts : List Path} (hne : parts ≠ [])
    (h : ∀ q ∈ parts, q ≠ [] ∧ '/' ∉ q) :
    cleanParts (['/'].intercalate parts) = parts.foldl cleanStep (0,[]) := by
  unfold cleanParts strSplitSkipEmpty
  rw [List.splitOn_intercalate _ (fun q hq => (h q hq).2) hne,
    List.filter_eq_self.mpr (fun q hq => by simpa using (h q hq).1)]

theorem cleanParts_slash_intercalate {parts : List Path}
    (h : ∀ q ∈ parts, q ≠ [] ∧ '/' ∉ q) :
    cleanParts (['/'].intercalate ([] :: parts)) = parts.foldl cleanStep (0,[]) := by
  have hsl : ∀ q ∈ ([] :: parts), '/' ∉ q := by
    intro q hq
    rcases List.mem_cons.mp hq with rfl | hq
    · exact List.not_mem_nil
    · exact (h q hq).2
  unfold cleanParts strSplitSkipEmpty
  rw [List.splitOn_intercalate _ hsl (List.cons_ne_nil _ _),List.filter_cons_of_neg (by simp),
    List.filter_eq_self.mpr (fun q hq => by simpa using (h q hq).1)]

/-- The clean path, split and cleaned again, gives back the names, and for a relative path the
climbs; an absolute path drops the climbs above its root. -/
theorem cleanParts_cleanPath (path : Path) :
    cleanParts (cleanPath path) =
      (if ['/'].isPrefixOf path then 0 else (cleanParts path).1,(cleanParts path).2) := by
  have hc : ∀ q ∈ (cleanParts path).2, IsComponent q := fun q hq => (cleanParts_parts path q hq).1
  have hc' : ∀ q ∈ (cleanParts path).2, q ≠ [] ∧ '/' ∉ q := fun q hq => ⟨(hc q hq).1,(hc q hq).2.1⟩
  by_cases hs : ['/'].isPrefixOf path = true
  · rw [cleanPath,if_pos hs,if_pos hs]
    by_cases he : (cleanParts path).2.isEmpty = true
    · rw [if_pos he,List.isEmpty_iff.mp he]
      rfl
    · rw [if_neg he,cleanParts_slash_intercalate hc',
        foldl_cleanStep_components hc]
      simp
  · rw [cleanPath,if_neg hs,if_neg hs]
    by_cases he : (List.replicate (cleanParts path).1 ['.','.'] ++ (cleanParts path).2).isEmpty
    · obtain ⟨hn,hp⟩ := List.append_eq_nil_iff.mp (List.isEmpty_iff.mp he)
      rw [if_pos he,hp,(List.replicate_eq_nil_iff _).mp hn]
      rfl
    · -- each piece is a `..` or a name
      have hl : ∀ q ∈ List.replicate (cleanParts path).1 ['.','.'] ++ (cleanParts path).2,
          q ≠ [] ∧ '/' ∉ q := by
        intro q hq
        rcases List.mem_append.mp hq with hq | hq
        · rw [(List.mem_replicate.mp hq).2]
          decide
        · exact hc' q hq
      rw [if_neg he,cleanParts_intercalate (fun h => he (List.isEmpty_iff.mpr h)) hl,
        List.foldl_append,foldl_cleanStep_dotdot,foldl_cleanStep_components hc]
      simp

theorem isPrefixOf_cleanPath (path : Path) :
    ['/'].isPrefixOf (cleanPath path) = ['/'].isPrefixOf path := by
  by_cases hs : ['/'].isPrefixOf path = true
  · rw [hs,cleanPath,if_pos hs]
    split
    · rfl
    · rename_i he
      obtain ⟨q,rest,hq⟩ := List.exists_cons_of_ne_nil fun h => he (List.isEmpty_iff.mpr h)
      rw [hq,List.intercalate_cons_cons]
      rfl
  · rw [Bool.eq_false_iff.mpr hs,← isAbsolutePath_eq_isPrefixOf,Bool.eq_false_iff]
    exact fun h => hs (isAbsolutePath_cleanPath h)

/-- `CleanPath` reads no more of a path than whether it is absolute, its names and, for a
relative path, its climbs. -/
theorem cleanPath_congr {p q : Path} (hs : ['/'].isPrefixOf p = ['/'].isPrefixOf q)
    (hn : (cleanParts p).2 = (cleanParts q).2)
    (hd : ['/'].isPrefixOf q = false → (cleanParts p).1 = (cleanParts q).1) :
    cleanPath p = cleanPath q := by
  unfold cleanPath
  rw [hs,hn]
  cases h : ['/'].isPrefixOf q
  · rw [hd h]
  · rfl

/-! ### `CleanPath` is a normaliser -/

theorem isAbsolutePath_cleanPath_eq (path : Path) :
    isAbsolutePath (cleanPath path) = isAbsolutePath path := by
  rw [isAbsolutePath_eq_isPrefixOf,isAbsolutePath_eq_isPrefixOf,isPrefixOf_cleanPath]

theorem cleanPath_cleanPath (path : Path) : cleanPath (cleanPath path) = cleanPath path := by
  refine cleanPath_congr (isPrefixOf_cleanPath path) ?_ ?_
  · rw [cleanParts_cleanPath]
  · intro h
    rw [cleanParts_cleanPath]
    simp [h]

theorem denote_cleanPath (path : Path) : denote (cleanPath path) = denote path := by
  rw [denote_eq_cleanParts,denote_eq_cleanParts,cleanParts_cleanPath,isAbsolutePath_cleanPath_eq,
    isAbsolutePath_eq_isPrefixOf]
  cases ['/'].isPrefixOf path <;> rfl

example : denote ['a','/','.','.','/','.','.','/','b'] = (false,1,[['b']]) := by decide

theorem cleanPath_absolute {path : Path} (h : isAbsolutePath path = true) :
    cleanPath path = ['/'] ∨ ∃ parts : List Path, parts ≠ [] ∧ (∀ q ∈ parts, IsComponent q) ∧
      cleanPath path = '/' :: ['/'].intercalate parts := by
  by_cases hr : cleanPath path = ['/']
  · exact .inl hr
  · obtain ⟨parts,hne,hp,heq⟩ :=
      cleanPath_components ((isAbsolutePath_cleanPath_eq path).trans h) hr
    exact .inr ⟨parts,hne,fun q hq => (hp q hq).1,heq⟩

theorem cleanPath_relative {path : Path} (h : isAbsolutePath path = false) :
    cleanPath path = ['.'] ∨ ∃ (n : Nat) (parts : List Path), (n ≠ 0 ∨ parts ≠ []) ∧
      (∀ q ∈ parts, IsComponent q) ∧
      cleanPath path = ['/'].intercalate (List.replicate n ['.','.'] ++ parts) := by
  have hs : ¬['/'].isPrefixOf path = true := by
    rw [← isAbsolutePath_eq_isPrefixOf,h]
    decide
  rw [cleanPath,if_neg hs]
  by_cases he : (List.replicate (cleanParts path).1 ['.','.'] ++ (cleanParts path).2).isEmpty
  · rw [if_pos he]
    exact .inl rfl
  · rw [if_neg he]
    have hn : ¬((cleanParts path).1 = 0 ∧ (cleanParts path).2 = []) := fun ⟨h0,h1⟩ =>
      he (by rw [h0,h1]; rfl)
    exact .inr ⟨_,_,not_and_or.mp hn,fun q hq => (cleanParts_parts path q hq).1,rfl⟩

/-- `CleanPath` is a lexical normaliser: it is idempotent, keeps a path absolute or relative,
returns `/` or names behind a `/` for an absolute path and `.` or climbs followed by names for a
relative one, and the path it returns names what the path it was given names. -/
theorem cleanPath_normaliser (path : Path) :
    cleanPath (cleanPath path) = cleanPath path ∧
      isAbsolutePath (cleanPath path) = isAbsolutePath path ∧
      (isAbsolutePath path = true → cleanPath path = ['/'] ∨
        ∃ parts : List Path, parts ≠ [] ∧ (∀ q ∈ parts, IsComponent q) ∧
          cleanPath path = '/' :: ['/'].intercalate parts) ∧
      (isAbsolutePath path = false → cleanPath path = ['.'] ∨
        ∃ (n : Nat) (parts : List Path), (n ≠ 0 ∨ parts ≠ []) ∧ (∀ q ∈ parts, IsComponent q) ∧
          cleanPath path = ['/'].intercalate (List.replicate n ['.','.'] ++ parts)) ∧
      denote (cleanPath path) = denote path :=
  ⟨cleanPath_cleanPath path,isAbsolutePath_cleanPath_eq path,cleanPath_absolute,cleanPath_relative,
    denote_cleanPath path⟩

end SandboxedApi.File
