import SandboxedApi.Lists

/-! # `sapi::file` paths

`CleanPath` splits a path at `/`, drops the empty pieces and the `.`s, lets each `..` cancel
the piece before it (or counts it when there is none), and joins what is left, behind a `/`
for an absolute path and behind the counted `..`s for a relative one. The pieces of a clean
absolute path other than `/` are therefore components: nonempty, without `/`, and neither `.`
nor `..`; and they are made of characters of the path it was cleaned from.
-/
namespace SandboxedApi.File

/-- A path, as the characters of its `string_view`. -/
abbrev Path := List Char

def isAbsolutePath (path : Path) : Bool := !path.isEmpty && path.head? == some '/'

/-- `absl::StripPrefix`. -/
def stripPrefix (path pre : Path) : Path := if pre.isPrefixOf path then path.drop pre.length else path

/-- `absl::StrSplit(s, sep, absl::SkipEmpty())`. -/
def strSplitSkipEmpty (s : Path) (sep : Char) : List Path := (s.splitOn sep).filter fun p => !p.isEmpty

/-- One round of the loop of `CleanPath` on `dotdot_num` and the deque `parts`. -/
def cleanStep (st : Nat × List Path) (part : Path) : Nat × List Path :=
  if part = ['.','.'] then
    if st.2.isEmpty then (st.1 + 1,st.2) else (st.1,st.2.dropLast)
  else if part ≠ ['.'] then (st.1,st.2 ++ [part])
  else st

def cleanParts (uncleanPath : Path) : Nat × List Path :=
  (strSplitSkipEmpty uncleanPath '/').foldl cleanStep (0,[])

def cleanPath (uncleanPath : Path) : Path :=
  if ['/'].isPrefixOf uncleanPath then
    if (cleanParts uncleanPath).2.isEmpty then ['/']
    else ['/'].intercalate ([] :: (cleanParts uncleanPath).2)
  else if (List.replicate (cleanParts uncleanPath).1 ['.','.'] ++ (cleanParts uncleanPath).2).isEmpty
  then ['.']
  else ['/'].intercalate (List.replicate (cleanParts uncleanPath).1 ['.','.'] ++
    (cleanParts uncleanPath).2)

theorem isAbsolutePath_eq (path : Path) : isAbsolutePath path = (path.head? == some '/') := by
  cases path <;> rfl

/-- One round of the loop of `JoinPathImpl`: empty arguments are skipped, and the others are
appended behind a single `/`. -/
def joinPathStep (result path : Path) : Path :=
  if path.isEmpty then result
  else if result.isEmpty then path
  else if ['/'].isSuffixOf result then result ++ stripPrefix path ['/']
  else result ++ '/' :: stripPrefix path ['/']

def joinPathImpl (paths : List Path) : Path := paths.foldl joinPathStep []

def joinPath (path1 path2 : Path) : Path := joinPathImpl [path1,path2]

/-- A path component that names an entry of its directory. -/
def IsComponent (part : Path) : Prop := part ≠ [] ∧ '/' ∉ part ∧ part ≠ ['.'] ∧ part ≠ ['.','.']

instance : DecidablePred IsComponent := fun part =>
  inferInstanceAs (Decidable (part ≠ [] ∧ '/' ∉ part ∧ part ≠ ['.'] ∧ part ≠ ['.','.']))

/-- Lexically, `path` names `dir` or an entry below it: both are absolute or both relative, and
once clean, `path` has the leading `..`s of `dir` and the components of `dir` followed by more. -/
def IsUnder (dir path : Path) : Prop :=
  ['/'].isPrefixOf path = ['/'].isPrefixOf dir ∧ (cleanParts path).1 = (cleanParts dir).1 ∧
    (cleanParts dir).2 <+: (cleanParts path).2

/-! ### The pieces of a clean path -/

theorem mem_strSplitSkipEmpty {s p : Path} (h : p ∈ strSplitSkipEmpty s '/') :
    p ≠ [] ∧ '/' ∉ p ∧ p ⊆ s := by
  unfold strSplitSkipEmpty at h
  obtain ⟨hm,hne⟩ := List.mem_filter.mp h
  exact ⟨by simpa using hne,List.not_mem_of_mem_splitOn hm,List.subset_of_mem_splitOn hm⟩

theorem cleanStep_parts {path part : Path} {st : Nat × List Path}
    (hst : ∀ q ∈ st.2, IsComponent q ∧ q ⊆ path) (hp : part ≠ [] ∧ '/' ∉ part ∧ part ⊆ path) :
    ∀ q ∈ (cleanStep st part).2, IsComponent q ∧ q ⊆ path := by
  unfold cleanStep
  by_cases hd : part = ['.','.']
  · rw [if_pos hd]
    split
    · exact hst
    · exact fun q hq => hst q (List.dropLast_subset _ hq)
  · rw [if_neg hd]
    split
    · rename_i hdot
      intro q hq
      rcases List.mem_append.mp hq with hq | hq
      · exact hst q hq
      · rw [List.mem_singleton.mp hq]
        exact ⟨⟨hp.1,hp.2.1,hdot,hd⟩,hp.2.2⟩
    · exact hst

theorem cleanParts_parts (path : Path) :
    ∀ q ∈ (cleanParts path).2, IsComponent q ∧ q ⊆ path := by
  unfold cleanParts
  have h : ∀ (parts : List Path) (st : Nat × List Path),
      (∀ p ∈ parts, p ≠ [] ∧ '/' ∉ p ∧ p ⊆ path) → (∀ q ∈ st.2, IsComponent q ∧ q ⊆ path) →
        ∀ q ∈ (parts.foldl cleanStep st).2, IsComponent q ∧ q ⊆ path := by
    intro parts
    induction parts with
    | nil => exact fun st _ hst => hst
    | cons part rest ih =>
      intro st hp hst
      exact ih _ (fun p hp' => hp p (List.mem_cons_of_mem _ hp'))
        (cleanStep_parts hst (hp part List.mem_cons_self))
  exact h _ _ (fun p hp => mem_strSplitSkipEmpty hp) (fun _ hq => absurd hq List.not_mem_nil)

theorem head?_intercalate {p : Path} {rest : List Path} (hp : p ≠ []) :
    (['/'].intercalate (p :: rest)).head? = p.head? := by
  obtain ⟨c,p',rfl⟩ := List.exists_cons_of_ne_nil hp
  cases rest with
  | nil => simp
  | cons q rest => simp [List.intercalate_cons_cons]

theorem isAbsolutePath_cleanPath {path : Path} (h : isAbsolutePath (cleanPath path) = true) :
    ['/'].isPrefixOf path = true := by
  by_contra hs
  unfold cleanPath at h
  rw [if_neg hs] at h
  split at h
  · simp [isAbsolutePath] at h
  · rename_i hne
    obtain ⟨p,rest,hpr⟩ := List.exists_cons_of_ne_nil fun he => hne (List.isEmpty_iff.mpr he)
    -- the first piece is a `..` or a component, neither of which starts with `/`
    have hp : p ≠ [] ∧ '/' ∉ p := by
      have hm : p ∈ List.replicate (cleanParts path).1 ['.','.'] ++ (cleanParts path).2 :=
        hpr ▸ List.mem_cons_self
      rcases List.mem_append.mp hm with hm | hm
      · rw [(List.mem_replicate.mp hm).2]
        decide
      · have hc := (cleanParts_parts path p hm).1
        exact ⟨hc.1,hc.2.1⟩
    rw [hpr,isAbsolutePath_eq,head?_intercalate hp.1] at h
    obtain ⟨c,p',rfl⟩ := List.exists_cons_of_ne_nil hp.1
    simp only [List.head?_cons,beq_iff_eq,Option.some.injEq] at h
    exact hp.2 (h ▸ List.mem_cons_self)

/-- A clean absolute path other than `/` is `/` followed by its components, separated by `/`. -/
theorem cleanPath_components {path : Path} (ha : isAbsolutePath (cleanPath path) = true)
    (hr : cleanPath path ≠ ['/']) :
    ∃ parts : List Path, parts ≠ [] ∧ (∀ q ∈ parts, IsComponent q ∧ q ⊆ path) ∧
      cleanPath path = '/' :: ['/'].intercalate parts := by
  have hs := isAbsolutePath_cleanPath ha
  unfold cleanPath at hr ⊢
  rw [if_pos hs] at hr ⊢
  rw [if_neg (fun he => hr (if_pos he))]
  have hne : (cleanParts path).2 ≠ [] := fun he => hr (by simp [he])
  obtain ⟨q,rest,hq⟩ := List.exists_cons_of_ne_nil hne
  refine ⟨_,hne,cleanParts_parts path,?_⟩
  rw [hq,List.intercalate_cons_cons]
  rfl

example : cleanPath ['/','a','/','.','/','b','/','.','.','/','c'] = ['/','a','/','c'] := by decide

/-- The components `Insert` and `Remove` walk along: the clean path without its leading `/`,
split at `/`. -/
theorem splitOn_cleanPath {path : Path} (ha : isAbsolutePath (cleanPath path) = true)
    (hr : cleanPath path ≠ ['/']) :
    (stripPrefix (cleanPath path) ['/']).splitOn '/' ≠ [] ∧
      ∀ q ∈ (stripPrefix (cleanPath path) ['/']).splitOn '/', IsComponent q ∧ q ⊆ path := by
  obtain ⟨parts,hne,hp,heq⟩ := cleanPath_components ha hr
  have hst : stripPrefix (cleanPath path) ['/'] = ['/'].intercalate parts := by
    rw [stripPrefix,heq]
    simp
  rw [hst,List.splitOn_intercalate _ (fun q hq => (hp q hq).1.2.1) hne]
  exact ⟨hne,hp⟩

/-! ### Joining a component -/

theorem joinPath_eq (path1 path2 : Path) : joinPath path1 path2 = joinPathStep path1 path2 := by
  have h : joinPathStep [] path1 = path1 := by
    unfold joinPathStep
    cases path1 <;> rfl
  simp only [joinPath,joinPathImpl,List.foldl_cons,List.foldl_nil,h]

theorem isPrefixOf_cons (c : Char) (l : Path) : ['/'].isPrefixOf (c :: l) = ('/' == c) := by
  simp [List.isPrefixOf]

theorem isPrefixOf_component {k : Path} (hk : IsComponent k) : ['/'].isPrefixOf k = false := by
  obtain ⟨c,k',rfl⟩ := List.exists_cons_of_ne_nil hk.1
  have hc : '/' ≠ c := fun h => hk.2.1 (h ▸ List.mem_cons_self)
  simp [isPrefixOf_cons,hc]

theorem stripPrefix_component {k : Path} (hk : IsComponent k) : stripPrefix k ['/'] = k := by
  simp [stripPrefix,isPrefixOf_component hk]

@[simp] theorem strSplitSkipEmpty_nil (sep : Char) : strSplitSkipEmpty [] sep = [] := rfl

theorem strSplitSkipEmpty_intercalate {sep : Char} {fields : List Path}
    (h : ∀ f ∈ fields, f ≠ [] ∧ sep ∉ f) : strSplitSkipEmpty ([sep].intercalate fields) sep = fields := by
  cases fields with
  | nil => rfl
  | cons f rest =>
    rw [strSplitSkipEmpty,List.splitOn_intercalate sep (fun l hl => (h l hl).2) (List.cons_ne_nil _ _),
      List.filter_eq_self]
    intro l hl
    simpa using (h l hl).1

theorem strSplitSkipEmpty_component {k : Path} (hk : IsComponent k) :
    strSplitSkipEmpty k '/' = [k] := by
  rw [strSplitSkipEmpty,List.splitOn_eq_singleton hk.2.1]
  simp [hk.1]

theorem strSplitSkipEmpty_append (xs ys : Path) :
    strSplitSkipEmpty (xs ++ '/' :: ys) '/' = strSplitSkipEmpty xs '/' ++ strSplitSkipEmpty ys '/' := by
  rw [strSplitSkipEmpty,List.splitOn_append_cons_self,List.filter_append]
  rfl

theorem strSplitSkipEmpty_joinPath (path : Path) {k : Path} (hk : IsComponent k) :
    strSplitSkipEmpty (joinPath path k) '/' = strSplitSkipEmpty path '/' ++ [k] := by
  have hke : k.isEmpty = false := List.isEmpty_eq_false_iff.mpr hk.1
  rw [joinPath_eq,joinPathStep,if_neg (by simp [hke]),stripPrefix_component hk]
  by_cases hp : path.isEmpty
  · rw [if_pos hp,List.isEmpty_iff.mp hp,strSplitSkipEmpty_component hk]
    rfl
  rw [if_neg hp]
  split
  · -- the path already ends in `/`, which splits off an empty last piece
    rename_i hs
    obtain ⟨pre,hpre⟩ := List.isSuffixOf_iff_suffix.mp hs
    rw [← hpre,List.append_assoc,List.singleton_append,strSplitSkipEmpty_append,
      strSplitSkipEmpty_append,strSplitSkipEmpty_component hk,strSplitSkipEmpty_nil,List.append_nil]
  · rw [strSplitSkipEmpty_append,strSplitSkipEmpty_component hk]

theorem cleanStep_component {k : Path} (hk : IsComponent k) (st : Nat × List Path) :
    cleanStep st k = (st.1,st.2 ++ [k]) := by
  rw [cleanStep,if_neg hk.2.2.2,if_pos hk.2.2.1]

theorem cleanParts_joinPath (path : Path) {k : Path} (hk : IsComponent k) :
    cleanParts (joinPath path k) = ((cleanParts path).1,(cleanParts path).2 ++ [k]) := by
  rw [cleanParts,strSplitSkipEmpty_joinPath path hk,List.foldl_append,List.foldl_cons,
    List.foldl_nil,cleanStep_component hk]
  rfl

theorem isPrefixOf_joinPath (path : Path) {k : Path} (hk : IsComponent k) :
    ['/'].isPrefixOf (joinPath path k) = ['/'].isPrefixOf path := by
  have hke : k.isEmpty = false := List.isEmpty_eq_false_iff.mpr hk.1
  rw [joinPath_eq,joinPathStep,if_neg (by simp [hke]),stripPrefix_component hk]
  by_cases hp : path.isEmpty
  · -- the result is `k`, which starts with a character other than `/`
    rw [if_pos hp,List.isEmpty_iff.mp hp,isPrefixOf_component hk]
    rfl
  · rw [if_neg hp]
    obtain ⟨c,p',rfl⟩ := List.exists_cons_of_ne_nil (fun h => hp (List.isEmpty_iff.mpr h))
    split <;> simp only [List.cons_append,isPrefixOf_cons]

theorem IsUnder.refl (dir : Path) : IsUnder dir dir := ⟨rfl,rfl,List.prefix_refl _⟩

theorem IsUnder.trans {a b c : Path} (hab : IsUnder a b) (hbc : IsUnder b c) : IsUnder a c :=
  ⟨hbc.1.trans hab.1,hbc.2.1.trans hab.2.1,hab.2.2.trans hbc.2.2⟩

theorem isUnder_joinPath (path : Path) {k : Path} (hk : IsComponent k) :
    IsUnder path (joinPath path k) := by
  refine ⟨isPrefixOf_joinPath path hk,?_,?_⟩
  · rw [cleanParts_joinPath path hk]
  · rw [cleanParts_joinPath path hk]
    exact List.prefix_append _ _

theorem isUnder_foldl_joinPath {ks : List Path} (hks : ∀ k ∈ ks, IsComponent k) (path : Path) :
    IsUnder path (ks.foldl joinPath path) := by
  induction ks generalizing path with
  | nil => exact IsUnder.refl path
  | cons k ks ih =>
    rw [List.foldl_cons]
    exact (isUnder_joinPath path (hks k List.mem_cons_self)).trans
      (ih (fun k' hk' => hks k' (List.mem_cons_of_mem _ hk')) _)

end SandboxedApi.File

/-! ### `sapi::file_util::fileops` -/

namespace SandboxedApi.Fileops

open File

/-- `path.find_last_of('/')`, `none` for `npos`. -/
def findLastSlash (path : Path) : Option Nat :=
  (path.reverse.findIdx? (· == '/')).map fun i => path.length - 1 - i

/-- `fileops::StripBasename`: everything before the last `/`, `/` for a slash at the start, and
nothing without a slash. -/
def stripBasename (path : Path) : Path :=
  match findLastSlash path with
  | none => []
  | some 0 => ['/']
  | some lastSlash => path.take lastSlash

end SandboxedApi.Fileops
