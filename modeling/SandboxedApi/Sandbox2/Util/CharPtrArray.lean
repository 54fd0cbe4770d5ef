import Mathlib.Data.List.TakeWhile

/-! # `CharPtrArray`: argument vectors in one buffer

A `CharPtrArray` owns a `std::string` that holds the strings back to back, each followed by a
NUL, and a vector of pointers into it ending with `nullptr`: what `execveat` takes as `argv` and
`envp`. The string's bytes are `content`, and its buffer is `content ++ [0]`, since a
`std::string` keeps a NUL after its last byte; a pointer into it is an offset, `none` being
`nullptr`.

The constructor from a vector joins the strings with NULs, so that the last NUL is the string's
own terminator, and places the pointers by summing the sizes plus one. The constructor from a
`char**` copies each C string with its NUL and finds the starts again with `strlen`. Reading a C
string outside the buffer or at `nullptr`, and a scan that steps past the end, are undefined
behaviour, and make the functions return `none`.

Both constructors build `LaysOut vec`, the layout their comments describe, and `ToStringVector`
reads `vec` back from any array so laid out.
-/
namespace SandboxedApi.Sandbox2

/-- The owned buffer and the pointer vector. -/
structure CharPtrArray where
  content : List UInt8
  array : List (Option Nat)
deriving DecidableEq, Repr

namespace CharPtrArray

/-- `strlen` and a copy of the C string at offset `p` of the buffer of `content`. -/
def readCString (content : List UInt8) (p : Nat) : Option (List UInt8) :=
  if p ≤ content.length then some (((content ++ [0]).drop p).takeWhile (· != 0)) else none

/-- `ConcatenateAll`: the C strings of a `nullptr`-terminated array, each with its NUL. -/
def concatenateAll (buffer : List UInt8) : List (Option Nat) → Option (List UInt8)
  | [] => none  -- no `nullptr`: the loop runs off the array
  | none :: _ => some []
  | some p :: arr => do
    let s ← readCString buffer p
    let rest ← concatenateAll buffer arr
    pure (s ++ [0] ++ rest)

/-- The loop of the `char**` constructor: a pointer at `p`, then a step over the string there
and its NUL, until `end`. -/
def scanStarts (content : List UInt8) (p : Nat) : Option (List Nat) :=
  if p = content.length then some []
  else if p < content.length then
    (readCString content p).bind fun s => (scanStarts content (p + s.length + 1)).map (p :: ·)
  else none  -- `it` has stepped past `end` and the loop does not stop
termination_by content.length - p
decreasing_by omega

/-- `CharPtrArray(char* const* arr)`, on an array of pointers into `buffer`. -/
def ofCharPtrs (buffer : List UInt8) (arr : List (Option Nat)) : Option CharPtrArray := do
  let content ← concatenateAll buffer arr
  let starts ← scanStarts content 0
  pure ⟨content,starts.map some ++ [none]⟩

/-- `CharPtrArray(a.data())`: the pointers of `a` point into the buffer of `a`. -/
def ofData (a : CharPtrArray) : Option CharPtrArray := ofCharPtrs a.content a.array

/-- The offsets the vector constructor gives its pointers: `len` grows by each size plus one. -/
def startOffsets (len : Nat) : List (List UInt8) → List Nat
  | [] => []
  | str :: vec => len :: startOffsets (len + str.length + 1) vec

/-- `CharPtrArray::FromStringVector`, through the constructor from a vector. -/
def fromStringVector (vec : List (List UInt8)) : CharPtrArray :=
  ⟨[0].intercalate vec,(startOffsets 0 vec).map some ++ [none]⟩

/-- `ToStringVector`: a `std::string` from each pointer but the final one. -/
def toStringVector (a : CharPtrArray) : Option (List (List UInt8)) :=
  if a.array = [] then none  -- `array_.size() - 1` wraps around
  else a.array.dropLast.mapM fun p => p.bind (readCString a.content)

/-! ### The layout -/

/-- The strings a `nullptr`-terminated array of C strings stands for. -/
def cStrings (buffer : List UInt8) : List (Option Nat) → Option (List (List UInt8))
  | [] => none
  | none :: _ => some []
  | some p :: arr => do
    let s ← readCString buffer p
    let rest ← cStrings buffer arr
    pure (s :: rest)

/-- Where the `i`-th string starts when the strings lie back to back, each with its NUL. -/
def stringStart (vec : List (List UInt8)) (i : Nat) : Nat := ((vec.take i).flatMap (· ++ [0])).length

/-- The layout both constructors build: the strings back to back with a NUL after each at the
start of the buffer, a pointer to the start of each, and `nullptr`. -/
structure LaysOut (vec : List (List UInt8)) (a : CharPtrArray) : Prop where
  buffer : vec.flatMap (· ++ [0]) <+: a.content ++ [0]
  pointers : a.array = (List.range vec.length).map (some ∘ stringStart vec) ++ [none]

theorem startOffsets_eq (len : Nat) (vec : List (List UInt8)) :
    startOffsets len vec = (List.range vec.length).map fun i => len + stringStart vec i := by
  induction vec generalizing len with
  | nil => rfl
  | cons s vec ih =>
    rw [startOffsets,ih,List.length_cons,List.range_succ_eq_map,List.map_cons,List.map_map]
    refine congrArg₂ List.cons (by simp [stringStart]) (List.map_congr_left fun i _ => ?_)
    simp only [Function.comp_apply,Nat.succ_eq_add_one,stringStart,List.take_succ_cons,List.flatMap_cons,
      List.length_append,List.length_singleton]
    omega

theorem map_some_startOffsets_zero (vec : List (List UInt8)) :
    (startOffsets 0 vec).map some = (List.range vec.length).map (some ∘ stringStart vec) := by
  simp [startOffsets_eq,Function.comp_def]

theorem zero_not_mem_of_readCString {content s : List UInt8} {p : Nat}
    (h : readCString content p = some s) : 0 ∉ s := by
  unfold readCString at h
  split_ifs at h
  cases h
  intro h0
  have := List.mem_takeWhile_imp h0
  simp at this

theorem readCString_of_prefix {content w s : List UInt8} (hs : 0 ∉ s)
    (h : w ++ (s ++ [0]) <+: content ++ [0]) : readCString content w.length = some s := by
  obtain ⟨t,ht⟩ := h
  have hlen : w.length ≤ content.length := by
    have := congrArg List.length ht
    simp only [List.length_append,List.length_singleton] at this
    omega
  have hdrop : (content ++ [0]).drop w.length = s ++ 0 :: t := by
    rw [← ht,List.append_assoc,List.drop_left' rfl]
    simp
  have hs' : ∀ b ∈ s, (b != 0) = true := fun b hb => by
    simp only [bne_iff_ne,ne_eq]
    rintro rfl
    exact hs hb
  rw [readCString,if_pos hlen,hdrop,List.takeWhile_append_of_pos hs']
  simp

section Layout

variable {vec : List (List UInt8)} {content : List UInt8}

theorem mapM_readCString_startOffsets {w : List UInt8} (hvec : ∀ s ∈ vec, 0 ∉ s)
    (h : w ++ vec.flatMap (· ++ [0]) <+: content ++ [0]) :
    (startOffsets w.length vec).mapM (readCString content) = some vec := by
  induction vec generalizing w with
  | nil => rfl
  | cons s vec ih =>
    have hs := hvec s List.mem_cons_self
    have hpre : (w ++ (s ++ [0])) ++ vec.flatMap (· ++ [0]) <+: content ++ [0] := by
      simpa using h
    have hrest := ih (fun t ht => hvec t (List.mem_cons_of_mem _ ht)) hpre
    have hhead := readCString_of_prefix hs ((List.prefix_append _ _).trans hpre)
    simp only [List.length_append,List.length_singleton] at hrest
    simp [startOffsets,List.mapM_cons,hhead,hrest,Nat.add_assoc]

theorem zero_not_mem_of_cStrings {buffer : List UInt8} {arr : List (Option Nat)}
    {strs : List (List UInt8)} (h : cStrings buffer arr = some strs) : ∀ s ∈ strs, 0 ∉ s := by
  induction arr generalizing strs with
  | nil => cases h
  | cons o arr ih =>
    cases o with
    | none =>
      cases h
      simp
    | some p =>
      cases hs : readCString buffer p with
      | none => simp [cStrings,hs] at h
      | some s =>
        cases hr : cStrings buffer arr with
        | none => simp [cStrings,hs,hr] at h
        | some rest =>
          simp only [cStrings,hs,hr,Option.bind_eq_bind,Option.bind_some,Option.pure_def,
            Option.some.injEq] at h
          subst h
          intro t ht
          rcases List.mem_cons.mp ht with rfl | ht
          · exact zero_not_mem_of_readCString hs
          · exact ih hr t ht

theorem cStrings_map_some (buffer : List UInt8) (l : List Nat) :
    cStrings buffer (l.map some ++ [none]) = l.mapM (readCString buffer) := by
  induction l with
  | nil => rfl
  | cons p l ih => simp [cStrings,ih,List.mapM_cons]

theorem concatenateAll_eq (buffer : List UInt8) (arr : List (Option Nat)) :
    concatenateAll buffer arr = (cStrings buffer arr).map (·.flatMap (· ++ [0])) := by
  induction arr with
  | nil => rfl
  | cons o arr ih =>
    cases o with
    | none => rfl
    | some p =>
      simp only [concatenateAll,cStrings,ih]
      cases readCString buffer p <;> cases cStrings buffer arr <;> simp

theorem scanStarts_flatMap {w : List UInt8} (hvec : ∀ s ∈ vec, 0 ∉ s) :
    scanStarts (w ++ vec.flatMap (· ++ [0])) w.length = some (startOffsets w.length vec) := by
  induction vec generalizing w with
  | nil => simp [scanStarts,startOffsets]
  | cons s vec ih =>
    have hs := hvec s List.mem_cons_self
    have hcontent : w ++ (s :: vec).flatMap (· ++ [0]) = (w ++ (s ++ [0])) ++ vec.flatMap (· ++ [0]) := by
      simp
    have hhead : readCString (w ++ (s :: vec).flatMap (· ++ [0])) w.length = some s :=
      readCString_of_prefix hs (by rw [hcontent,List.append_assoc]; exact List.prefix_append _ _)
    have hrest := ih (w := w ++ (s ++ [0])) (fun t ht => hvec t (List.mem_cons_of_mem _ ht))
    rw [← hcontent] at hrest
    simp only [List.length_append,List.length_singleton,← Nat.add_assoc] at hrest
    have hlt : w.length < (w ++ (s :: vec).flatMap (· ++ [0])).length := by
      rw [hcontent]
      simp only [List.length_append,List.length_singleton]
      omega
    rw [scanStarts,if_neg (Nat.ne_of_lt hlt),if_pos hlt,hhead,Option.bind_some,hrest]
    rfl

theorem ofCharPtrs_eq {buffer : List UInt8} {arr : List (Option Nat)} {strs : List (List UInt8)}
    (h : cStrings buffer arr = some strs) :
    ofCharPtrs buffer arr = some ⟨strs.flatMap (· ++ [0]),(startOffsets 0 strs).map some ++ [none]⟩ := by
  have hscan := scanStarts_flatMap (w := []) (zero_not_mem_of_cStrings h)
  simp only [List.nil_append,List.length_nil] at hscan
  simp [ofCharPtrs,concatenateAll_eq,h,hscan]

end Layout

theorem intercalate_append_zero {vec : List (List UInt8)} (hne : vec ≠ []) :
    [0].intercalate vec ++ [0] = vec.flatMap (· ++ [0]) := by
  induction vec with
  | nil => exact absurd rfl hne
  | cons s vec ih =>
    cases vec with
    | nil => simp
    | cons t vec =>
      rw [List.intercalate_cons_cons,List.append_assoc,List.append_assoc,ih (List.cons_ne_nil _ _)]
      simp

theorem fromStringVector_laysOut (vec : List (List UInt8)) : LaysOut vec (fromStringVector vec) := by
  refine ⟨?_,?_⟩
  · rcases eq_or_ne vec [] with rfl | hne
    · exact List.nil_prefix
    · simp only [fromStringVector,intercalate_append_zero hne,List.prefix_refl]
  · rw [fromStringVector,map_some_startOffsets_zero]

section ReadBack

variable {vec : List (List UInt8)} {a : CharPtrArray}

theorem LaysOut.array_eq (h : LaysOut vec a) : a.array = (startOffsets 0 vec).map some ++ [none] := by
  rw [h.pointers,map_some_startOffsets_zero]

/-- `ToStringVector` reads back the strings of a laid out array. -/
theorem LaysOut.toStringVector_eq (h : LaysOut vec a) (hvec : ∀ s ∈ vec, 0 ∉ s) :
    a.toStringVector = some vec := by
  have hread := mapM_readCString_startOffsets (w := []) hvec h.buffer
  rw [toStringVector,if_neg (by simp [h.array_eq]),h.array_eq,List.dropLast_concat,List.mapM_map]
  exact hread

theorem LaysOut.ofData_eq (h : LaysOut vec a) (hvec : ∀ s ∈ vec, 0 ∉ s) :
    a.ofData = some ⟨vec.flatMap (· ++ [0]),(startOffsets 0 vec).map some ++ [none]⟩ := by
  have hstrs : cStrings a.content a.array = some vec := by
    rw [h.array_eq,cStrings_map_some]
    exact mapM_readCString_startOffsets (w := []) hvec h.buffer
  exact ofCharPtrs_eq hstrs

theorem laysOut_flatMap (vec : List (List UInt8)) :
    LaysOut vec ⟨vec.flatMap (· ++ [0]),(startOffsets 0 vec).map some ++ [none]⟩ := by
  exact ⟨List.prefix_append _ _,congrArg (· ++ [none]) (map_some_startOffsets_zero vec)⟩

/-- The `char**` constructor, over any array of C strings that ends with `nullptr`, lays out
the strings it stands for, and `ToStringVector` gives them back. -/
theorem ofCharPtrs_toStringVector {buffer : List UInt8} {arr : List (Option Nat)}
    {strs : List (List UInt8)} (h : cStrings buffer arr = some strs) :
    ∃ b, ofCharPtrs buffer arr = some b ∧ LaysOut strs b ∧ b.toStringVector = some strs :=
  ⟨_,ofCharPtrs_eq h,laysOut_flatMap strs,(laysOut_flatMap strs).toStringVector_eq (zero_not_mem_of_cStrings h)⟩

end ReadBack

/-- `FromStringVector` followed by `ToStringVector`, and by the `char**` constructor on its
`data()` then `ToStringVector`, give back every vector of NUL-free strings, and both
constructors lay the strings out with a pointer to the start of each. -/
theorem charPtrArray_roundTrip (vec : List (List UInt8)) (hvec : ∀ s ∈ vec, 0 ∉ s) :
    LaysOut vec (fromStringVector vec) ∧ (fromStringVector vec).toStringVector = some vec ∧
      ∃ b, (fromStringVector vec).ofData = some b ∧ LaysOut vec b ∧ b.toStringVector = some vec := by
  have ha := fromStringVector_laysOut vec
  refine ⟨ha,ha.toStringVector_eq hvec,_,ha.ofData_eq hvec,laysOut_flatMap vec,?_⟩
  exact (laysOut_flatMap vec).toStringVector_eq hvec

theorem charPtrArray_roundTrip_emptyString :
    (∀ s ∈ ([[],[104,105]] : List (List UInt8)), 0 ∉ s) ∧
      (fromStringVector [[],[104,105]]).toStringVector = some [[],[104,105]] := by
  have h : ∀ s ∈ ([[],[104,105]] : List (List UInt8)), 0 ∉ s := by decide
  exact ⟨h,(charPtrArray_roundTrip _ h).2.1⟩

end CharPtrArray

end SandboxedApi.Sandbox2
