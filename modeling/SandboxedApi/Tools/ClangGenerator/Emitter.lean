import Mathlib

/-! # Include guards of generated headers

`GetIncludeGuard` turns a file name into a macro name: letters upper-cased, digits kept, and one
`_` for each run of other bytes, the last byte of the guard deciding whether a `_` is due. A
name that does not start with a letter gets the prefix `SAPI_`, put in place at the first byte
that is not a letter, so that a leading run of other bytes adds nothing after it; a final `_`
closes the guard. An empty name gets a random guard.

Every guard is a C++ identifier that is not reserved: it starts with an uppercase letter, holds
only uppercase letters, digits and `_`, ends in `_` and never has two `_` in a row. For a
nonempty name it is the normal form `includeGuardSpec`. Bytes are `unsigned char`,
as the `absl::ascii_*` functions take them.
-/
namespace SandboxedApi.ClangGenerator

/-- The bytes of an ASCII text. -/
def ascii (s : String) : List UInt8 := s.toList.map fun c => c.toNat.toUInt8

def asciiIsalpha (c : UInt8) : Bool := (65 ≤ c.toNat && c.toNat ≤ 90) || (97 ≤ c.toNat && c.toNat ≤ 122)

def asciiIsdigit (c : UInt8) : Bool := 48 ≤ c.toNat && c.toNat ≤ 57

def asciiIsupper (c : UInt8) : Bool := 65 ≤ c.toNat && c.toNat ≤ 90

def asciiToupper (c : UInt8) : UInt8 := if 97 ≤ c.toNat ∧ c.toNat ≤ 122 then c - 32 else c

def asciiStrToUpper (s : List UInt8) : List UInt8 := s.map asciiToupper

/-- A lowercase hexadecimal digit. -/
def hexDigit (d : Nat) : UInt8 := if d < 10 then (48 + d).toUInt8 else (87 + d).toUInt8

/-- `absl::Hex(v, absl::kZeroPad16)`: the sixteen hexadecimal digits of a 64-bit value. -/
def hexZeroPad16 (v : UInt64) : List UInt8 :=
  (List.range 16).reverse.map fun i => hexDigit (v.toNat / 16 ^ i % 16)

def kUnderscorePrefix : List UInt8 := ascii "SAPI_"

/-- One round of the loop over the bytes of the name. -/
def includeGuardStep (guard : List UInt8) (c : UInt8) : List UInt8 :=
  if asciiIsalpha c then guard ++ [asciiToupper c]
  else
    let guard := if guard.isEmpty then kUnderscorePrefix else guard
    if asciiIsdigit c then guard ++ [c]
    else if guard.getLast? ≠ some 95 then guard ++ [95] else guard

/-- `GetIncludeGuard`, with `uniform` the value `absl::Uniform<uint64_t>` draws for an empty
name. -/
def getIncludeGuard (uniform : UInt64) (filename : List UInt8) : List UInt8 :=
  if filename.isEmpty then
    ascii "SANDBOXED_API_GENERATED_HEADER_" ++ asciiStrToUpper (hexZeroPad16 uniform) ++ ascii "_"
  else
    let guard := filename.foldl includeGuardStep []
    if [95].isSuffixOf guard then guard else guard ++ [95]

/-! ### The normal form of a guard -/

def isSeparator (c : UInt8) : Bool := !asciiIsalpha c && !asciiIsdigit c

/-- Letters upper-cased, digits kept, and each maximal run of other bytes made one `_`. -/
def collapseRuns : List UInt8 → List UInt8
  | [] => []
  | c :: cs =>
    if asciiIsalpha c then asciiToupper c :: collapseRuns cs
    else if asciiIsdigit c then c :: collapseRuns cs
    else 95 :: collapseRuns (cs.dropWhile isSeparator)
termination_by l => l.length
decreasing_by
  all_goals simp only [List.length_cons]
  · omega
  · omega
  · have := (List.dropWhile_suffix (l := cs) isSeparator).length_le
    omega

/-- The guard of a nonempty name in closed form: `SAPI_` unless the name starts with a
letter, then the name collapsed (a leading run of other bytes dropped after the prefix), then
`_` unless that text ends in one. -/
def includeGuardSpec (filename : List UInt8) : List UInt8 :=
  let text :=
    if filename.head?.map asciiIsalpha = some true then collapseRuns filename
    else kUnderscorePrefix ++ collapseRuns (filename.dropWhile isSeparator)
  if [95].isSuffixOf text then text else text ++ [95]

/-- What makes a guard a C++ identifier that is not reserved. -/
structure GuardText (g : List UInt8) : Prop where
  startsUpper : ∃ c cs, g = c :: cs ∧ asciiIsupper c = true
  chars : ∀ c ∈ g, asciiIsupper c = true ∨ asciiIsdigit c = true ∨ c = 95
  noDoubleUnderscore : g.IsChain fun a b => ¬(a = 95 ∧ b = 95)

structure IsIncludeGuard (g : List UInt8) : Prop extends GuardText g where
  endsUnderscore : g.getLast? = some 95

/-! ### Bytes -/

section Bytes

variable {c : UInt8}

theorem asciiIsupper_toupper (h : asciiIsalpha c = true) : asciiIsupper (asciiToupper c) = true := by
  unfold asciiIsalpha at h
  unfold asciiIsupper asciiToupper
  simp only [Bool.or_eq_true,Bool.and_eq_true,decide_eq_true_eq] at h
  split_ifs with hl
  · have hsub : (c - 32).toNat = c.toNat - 32 :=
      UInt8.toNat_sub_of_le _ _ (by simp only [UInt8.le_iff_toNat_le]; simp; omega)
    simp only [hsub,Bool.and_eq_true,decide_eq_true_eq]
    omega
  · simp only [Bool.and_eq_true,decide_eq_true_eq]
    omega

theorem ne_underscore_of_upper (h : asciiIsupper c = true) : c ≠ 95 := by
  rintro rfl
  simp [asciiIsupper] at h

theorem ne_underscore_of_digit (h : asciiIsdigit c = true) : c ≠ 95 := by
  rintro rfl
  simp [asciiIsdigit] at h

theorem toupper_hexDigit {d : Nat} (hd : d < 16) :
    asciiIsupper (asciiToupper (hexDigit d)) = true ∨ asciiIsdigit (asciiToupper (hexDigit d)) = true := by
  unfold hexDigit
  split_ifs with h10
  · -- `'0'` to `'9'`, which upper-casing keeps
    have hn : (48 + d).toUInt8.toNat = 48 + d := by simp [Nat.toUInt8]; omega
    right
    simp only [asciiToupper,asciiIsdigit,hn,Bool.and_eq_true,decide_eq_true_eq]
    split_ifs <;> omega
  · -- `'a'` to `'f'`, upper-cased
    have hn : (87 + d).toUInt8.toNat = 87 + d := by simp [Nat.toUInt8]; omega
    have ha : asciiIsalpha (87 + d).toUInt8 = true := by
      simp only [asciiIsalpha,hn,Bool.or_eq_true,Bool.and_eq_true,decide_eq_true_eq]
      omega
    exact .inl (asciiIsupper_toupper ha)

theorem singleton_isSuffixOf_iff {a : UInt8} {l : List UInt8} :
    [a].isSuffixOf l = true ↔ l.getLast? = some a := by
  rw [List.isSuffixOf_iff_suffix]
  constructor
  · rintro ⟨t,rfl⟩
    simp
  · intro h
    obtain ⟨t,rfl⟩ := List.getLast?_eq_some_iff.mp h
    exact ⟨t,rfl⟩

end Bytes

/-! ### What the guard keeps -/

section Guard

variable {g : List UInt8}

theorem GuardText.append {c : UInt8} (hg : GuardText g)
    (hc : asciiIsupper c = true ∨ asciiIsdigit c = true ∨ c = 95) (hu : c = 95 → g.getLast? ≠ some 95) :
    GuardText (g ++ [c]) := by
  obtain ⟨c0,cs,rfl,h0⟩ := hg.startsUpper
  refine ⟨⟨c0,cs ++ [c],rfl,h0⟩,fun d hd => ?_,?_⟩
  · rcases List.mem_append.mp hd with hd | hd
    · exact hg.chars d hd
    · rw [List.mem_singleton.mp hd]
      exact hc
  · refine List.isChain_append.mpr ⟨hg.noDoubleUnderscore,List.isChain_singleton _,fun x hx y hy => ?_⟩
    rw [List.head?_cons,Option.mem_some_iff] at hy
    subst hy
    rintro ⟨rfl,rfl⟩
    exact hu rfl hx

theorem GuardText.append_all {l : List UInt8} (hg : GuardText g)
    (hl : ∀ c ∈ l, asciiIsupper c = true ∨ asciiIsdigit c = true) : GuardText (g ++ l) := by
  induction l generalizing g with
  | nil => simpa using hg
  | cons c l ih =>
    have hc := hl c List.mem_cons_self
    have hnu : c ≠ 95 := by
      rcases hc with hc | hc
      · exact ne_underscore_of_upper hc
      · exact ne_underscore_of_digit hc
    have := ih (hg.append (hc.imp_right Or.inl) fun h => absurd h hnu)
      fun d hd => hl d (List.mem_cons_of_mem _ hd)
    simpa using this

theorem guardText_singleton {c : UInt8} (hc : asciiIsupper c = true) : GuardText [c] :=
  ⟨⟨c,[],rfl,hc⟩,fun d hd => by rw [List.mem_singleton.mp hd]; exact .inl hc,List.isChain_singleton _⟩

/-- A literal guard is checked byte by byte with `List.all`: a bounded `∀` over its bytes may be
decided through `Fintype UInt8` instead. -/
theorem GuardText.of_all (hstart : ∃ c cs, g = c :: cs ∧ asciiIsupper c = true)
    (hall : g.all (fun c => asciiIsupper c || asciiIsdigit c || c == 95) = true)
    (hchain : g.IsChain fun a b => ¬(a = 95 ∧ b = 95)) : GuardText g := by
  refine ⟨hstart,fun c hc => ?_,hchain⟩
  have h := List.all_eq_true.mp hall c hc
  simpa [or_assoc] using h

theorem guardText_kUnderscorePrefix : GuardText kUnderscorePrefix := by
  have h : kUnderscorePrefix = [83,65,80,73,95] := by decide
  rw [h]
  exact .of_all ⟨83,_,rfl,by decide⟩ (by decide) (by decide)

theorem guardText_includeGuardStep {c : UInt8} (hg : g = [] ∨ GuardText g) :
    GuardText (includeGuardStep g c) := by
  unfold includeGuardStep
  by_cases ha : asciiIsalpha c = true
  · rw [if_pos ha]
    have hup := asciiIsupper_toupper ha
    rcases hg with rfl | hg
    · exact guardText_singleton hup
    · exact hg.append (.inl hup) fun h => absurd h (ne_underscore_of_upper hup)
  · rw [if_neg ha]
    -- the prefix `SAPI_` comes in at the first byte that is not a letter
    have hg' : GuardText (if g.isEmpty then kUnderscorePrefix else g) := by
      rcases hg with rfl | hg
      · exact guardText_kUnderscorePrefix
      · have hne : g.isEmpty = false := by
          obtain ⟨c0,cs,rfl,-⟩ := hg.startsUpper
          rfl
        rw [hne]
        exact hg
    generalize (if g.isEmpty then kUnderscorePrefix else g) = G at hg' ⊢
    dsimp only
    split_ifs with hd hl
    · exact hg'.append (.inr (.inl hd)) fun h => absurd h (ne_underscore_of_digit hd)
    · exact hg'.append (.inr (.inr rfl)) fun _ => hl
    · exact hg'

theorem guardText_foldl (hg : GuardText g) (l : List UInt8) : GuardText (l.foldl includeGuardStep g) := by
  induction l generalizing g with
  | nil => exact hg
  | cons c l ih => exact ih (guardText_includeGuardStep (.inr hg))

theorem isIncludeGuard_close (hg : GuardText g) :
    IsIncludeGuard (if [95].isSuffixOf g then g else g ++ [95]) := by
  split_ifs with hs
  · exact ⟨hg,singleton_isSuffixOf_iff.mp hs⟩
  · refine ⟨hg.append (.inr (.inr rfl)) fun _ h => hs (singleton_isSuffixOf_iff.mpr h),by simp⟩

end Guard

/-! ### The loop in closed form -/

/-- The loop over the rest of the name once the guard is not empty: `u` says whether the guard
ends in `_`. -/
def collapseAfter (u : Bool) : List UInt8 → List UInt8
  | [] => []
  | c :: cs =>
    if asciiIsalpha c then asciiToupper c :: collapseAfter false cs
    else if asciiIsdigit c then c :: collapseAfter false cs
    else if u then collapseAfter true cs else 95 :: collapseAfter true cs

theorem foldl_includeGuardStep {g : List UInt8} (hg : g ≠ []) (l : List UInt8) :
    l.foldl includeGuardStep g = g ++ collapseAfter (decide (g.getLast? = some 95)) l := by
  induction l generalizing g with
  | nil => simp [collapseAfter]
  | cons c cs ih =>
    have hne : g.isEmpty = false := List.isEmpty_eq_false_iff.mpr hg
    rw [List.foldl_cons]
    by_cases ha : asciiIsalpha c = true
    · have hstep : includeGuardStep g c = g ++ [asciiToupper c] := by simp [includeGuardStep,ha]
      rw [hstep,ih (by simp),collapseAfter,if_pos ha]
      simp [ne_underscore_of_upper (asciiIsupper_toupper ha)]
    · by_cases hd : asciiIsdigit c = true
      · have hstep : includeGuardStep g c = g ++ [c] := by simp [includeGuardStep,ha,hne,hd]
        rw [hstep,ih (by simp),collapseAfter,if_neg ha,if_pos hd]
        simp [ne_underscore_of_digit hd]
      · -- a separator: one `_`, unless the guard already ends in one
        by_cases hl : g.getLast? = some 95
        · have hstep : includeGuardStep g c = g := by simp [includeGuardStep,ha,hne,hd,hl]
          rw [hstep,ih hg,collapseAfter,if_neg ha,if_neg hd]
          simp [hl]
        · have hstep : includeGuardStep g c = g ++ [95] := by simp [includeGuardStep,ha,hne,hd,hl]
          rw [hstep,ih (by simp),collapseAfter,if_neg ha,if_neg hd]
          simp [hl]

theorem collapseAfter_eq (l : List UInt8) :
    collapseAfter false l = collapseRuns l ∧ collapseAfter true l = collapseRuns (l.dropWhile isSeparator) := by
  induction l with
  | nil => simp [collapseAfter,collapseRuns]
  | cons c cs ih =>
    by_cases ha : asciiIsalpha c = true
    · have hs : isSeparator c = false := by simp [isSeparator,ha]
      simp only [collapseAfter,ha,if_true,List.dropWhile_cons,hs,Bool.false_eq_true,if_false]
      rw [collapseRuns,if_pos ha,ih.1]
      exact ⟨rfl,rfl⟩
    · by_cases hd : asciiIsdigit c = true
      · have hs : isSeparator c = false := by simp [isSeparator,hd]
        simp only [collapseAfter,ha,hd,if_true,Bool.false_eq_true,if_false,List.dropWhile_cons,hs]
        rw [collapseRuns,if_neg ha,if_pos hd,ih.1]
        exact ⟨rfl,rfl⟩
      · have hs : isSeparator c = true := by simp [isSeparator,ha,hd]
        simp only [collapseAfter,ha,hd,Bool.false_eq_true,if_false,if_true,List.dropWhile_cons,hs]
        rw [collapseRuns,if_neg ha,if_neg hd,ih.2]
        exact ⟨rfl,rfl⟩

theorem foldl_includeGuardStep_nil (c : UInt8) (cs : List UInt8) :
    (c :: cs).foldl includeGuardStep [] =
      if asciiIsalpha c then collapseRuns (c :: cs)
      else kUnderscorePrefix ++ collapseRuns ((c :: cs).dropWhile isSeparator) := by
  have hpre : kUnderscorePrefix.getLast? = some 95 := by decide
  rw [List.foldl_cons,← (collapseAfter_eq _).2]
  by_cases ha : asciiIsalpha c = true
  · have hstep : includeGuardStep [] c = [asciiToupper c] := by simp [includeGuardStep,ha]
    have hu := ne_underscore_of_upper (asciiIsupper_toupper ha)
    rw [if_pos ha,hstep,foldl_includeGuardStep (by simp),← (collapseAfter_eq _).1,collapseAfter,if_pos ha]
    simp [hu]
  · rw [if_neg ha,collapseAfter,if_neg ha]
    by_cases hd : asciiIsdigit c = true
    · have hstep : includeGuardStep [] c = kUnderscorePrefix ++ [c] := by simp [includeGuardStep,ha,hd]
      rw [hstep,foldl_includeGuardStep (by simp),if_pos hd]
      simp [ne_underscore_of_digit hd]
    · have hstep : includeGuardStep [] c = kUnderscorePrefix := by simp [includeGuardStep,ha,hd,hpre]
      rw [hstep,foldl_includeGuardStep (by decide),if_neg hd,hpre]
      simp

/-- Every guard is an identifier that is not reserved, and the guard of a nonempty name is
`includeGuardSpec` of it. -/
theorem getIncludeGuard_identifier (uniform : UInt64) (filename : List UInt8) :
    IsIncludeGuard (getIncludeGuard uniform filename) ∧
      (filename ≠ [] → getIncludeGuard uniform filename = includeGuardSpec filename) := by
  cases filename with
  | nil =>
    -- the random guard: a fixed prefix, sixteen digits, `_`
    have hpre : GuardText (ascii "SANDBOXED_API_GENERATED_HEADER_") :=
      .of_all ⟨83,_,rfl,by decide⟩ (by decide) (by decide)
    have hhex : ∀ c ∈ asciiStrToUpper (hexZeroPad16 uniform),
        asciiIsupper c = true ∨ asciiIsdigit c = true := by
      intro c hc
      obtain ⟨d,hd,rfl⟩ := List.mem_map.mp hc
      obtain ⟨i,-,rfl⟩ := List.mem_map.mp hd
      exact toupper_hexDigit (Nat.mod_lt _ (by decide))
    have hlast : (ascii "SANDBOXED_API_GENERATED_HEADER_" ++ asciiStrToUpper (hexZeroPad16 uniform)).getLast? ≠
        some 95 := by
      intro h
      have hne : asciiStrToUpper (hexZeroPad16 uniform) ≠ [] := by simp [asciiStrToUpper,hexZeroPad16]
      rw [List.getLast?_append_of_ne_nil _ hne] at h
      rcases hhex 95 (List.mem_of_getLast? h) with h95 | h95
      · exact ne_underscore_of_upper h95 rfl
      · exact ne_underscore_of_digit h95 rfl
    have hg := (hpre.append_all hhex).append (.inr (.inr rfl)) fun _ => hlast
    have hdef : getIncludeGuard uniform [] =
        ascii "SANDBOXED_API_GENERATED_HEADER_" ++ asciiStrToUpper (hexZeroPad16 uniform) ++ [95] := by
      simp only [getIncludeGuard,List.isEmpty_nil,if_true]
      rfl
    rw [hdef]
    exact ⟨⟨hg,List.getLast?_concat⟩,fun h => absurd rfl h⟩
  | cons c cs =>
    have hfold := guardText_foldl (guardText_includeGuardStep (c := c) (.inl rfl)) cs
    rw [← List.foldl_cons] at hfold
    refine ⟨by simpa [getIncludeGuard] using isIncludeGuard_close hfold,fun _ => ?_⟩
    simp only [getIncludeGuard,List.isEmpty_cons,Bool.false_eq_true,if_false,includeGuardSpec,
      foldl_includeGuardStep_nil,List.head?_cons,Option.map_some,Option.some.injEq]

end SandboxedApi.ClangGenerator
