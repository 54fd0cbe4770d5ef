import Mathlib
import SandboxedApi.Text.Decimal

/-! # `sscanf`

glibc's `sscanf` over a format of white space, ordinary characters and the conversions `%c`,
`%Ns`, `%x`, `%lx`, `%u` and `%lu`. The directives are read in turn; each conversion stores an
item, and the first directive that fails stops the scan. The return value is the number of items
stored, or `EOF` when the input ran out before the first conversion.

A numeral as `printf` writes it, zero-padded or not, reads back as its value when what follows it
cannot continue it; round trips through a printed record are built from that rule.
-/
namespace Scanf

open Decimal

inductive Directive where
  | space
  | literal (c : Char)
  | char
  /-- `%Ns`; the width `0` stands for none. -/
  | string (width : Nat)
  /-- `%x` in base 16 or `%u` in base 10, `%lx` and `%lu` when `long`. -/
  | unsigned (base : Nat) (long : Bool)
  deriving DecidableEq, Repr

inductive Item where
  | char (c : Char)
  | string (s : List Char)
  | num (n : Nat)
  deriving DecidableEq, Repr

/-- The members a conversion writes through its pointer. -/
def Item.number : Item → Nat
  | .num n => n
  | _ => 0

def Item.character : Item → Char
  | .char c => c
  | _ => '\x00'

def Item.text : Item → List Char
  | .string s => s
  | _ => []

/-- A directive fails when the input ends where it needs a character, or on a character that
does not fit. -/
inductive Failure where
  | input
  | matching
  deriving DecidableEq, Repr

def skipSpace (s : List Char) : List Char := s.dropWhile asciiIsspace

@[simp] theorem skipSpace_nil : skipSpace [] = [] := rfl

/-- The value `strtoul` gives a digit or a letter; any other character is worth 36, more than
any base. -/
def digitValue (c : Char) : Nat :=
  if c.isDigit then c.toNat - 48
  else if c.isLower then c.toNat - 87
  else if c.isUpper then c.toNat - 55
  else 36

/-- `isxdigit` in base 16, `isdigit` in base 10. -/
def isDigitIn (base : Nat) (c : Char) : Bool := digitValue c < base

def digitsValue (base : Nat) (digits : List Char) : Nat :=
  digits.foldl (fun v c => base * v + digitValue c) 0

/-- `strtoul`: saturated at `ULONG_MAX`, and negated in `unsigned long` behind a `-`. -/
def strtoul (negative : Bool) (v : Nat) : Nat :=
  if 2 ^ 64 ≤ v then 2 ^ 64 - 1
  else if negative then (2 ^ 64 - v) % 2 ^ 64 else v

/-- glibc takes a leading `0` before the digits, and in base 16 the `x` or `X` right after it. -/
def splitZero (base : Nat) : List Char → Bool × List Char
  | '0' :: c :: s => if base = 16 ∧ (c = 'x' ∨ c = 'X') then (true,s) else (true,c :: s)
  | ['0'] => (true,[])
  | s => (false,s)

/-- `%x`, `%lx`, `%u`, `%lu`: white space, a sign, the digits; there is no number when neither a
`0` nor a digit was read. `%x` and `%u` store the `unsigned long` into an `unsigned int`. -/
def readUnsigned (base : Nat) (long : Bool) (s : List Char) : Except Failure (Item × List Char) :=
  if skipSpace s = [] then .error .input
  else
    let (negative,afterSign) := splitSign (skipSpace s)
    let (zero,afterZero) := splitZero base afterSign
    let digits := afterZero.takeWhile (isDigitIn base)
    if !zero && digits.isEmpty then .error .matching
    else
      let v := strtoul negative (digitsValue base digits)
      .ok (.num (if long then v else v % 2 ^ 32),afterZero.drop digits.length)

/-- `%Ns`: white space, then the characters up to the next white space, at most `width` of them. -/
def readString (width : Nat) (s : List Char) : Except Failure (Item × List Char) :=
  if skipSpace s = [] then .error .input
  else
    let word := (skipSpace s).takeWhile (fun c => !asciiIsspace c)
    let word := if width = 0 then word else word.take width
    .ok (.string word,(skipSpace s).drop word.length)

def readChar : List Char → Except Failure (Item × List Char)
  | [] => .error .input
  | c :: s => .ok (.char c,s)

/-- One directive: the item it stores when it is a conversion, and the input after it. White space
in the format skips white space in the input, possibly none. -/
def readDirective : Directive → List Char → Except Failure (Option Item × List Char)
  | .space,s => .ok (none,skipSpace s)
  | .literal _,[] => .error .input
  | .literal c,c' :: s => if c' = c then .ok (none,s) else .error .matching
  | .char,s => (readChar s).map fun r => (some r.1,r.2)
  | .string width,s => (readString width s).map fun r => (some r.1,r.2)
  | .unsigned base long,s => (readUnsigned base long s).map fun r => (some r.1,r.2)

/-- The directives from the current one on, with the items stored so far. -/
def scan : List Directive → List Char → List Item → List Item × Int
  | [],_,items => (items,(items.length : Int))
  | d :: ds,s,items =>
    match readDirective d s with
    | .ok (item,rest) => scan ds rest (items ++ item.toList)
    | .error .input => (items,if items.isEmpty then -1 else (items.length : Int))
    | .error .matching => (items,(items.length : Int))

/-- `sscanf(s, format, ...)`: the items it stores, and what it returns. -/
def sscanf (format : List Directive) (s : List Char) : List Item × Int := scan format s []

/-- `printf`'s `%0*x` or `%lu`: the digits of `n` in `base`, behind zeros up to `width`. -/
def numeral (base width n : Nat) : List Char :=
  List.replicate (width - (Nat.toDigits base n).length) '0' ++ Nat.toDigits base n

/-! ### Scanning directive after directive -/

theorem scan_of_ok {d : Directive} {ds : List Directive} {s rest : List Char} {item : Option Item}
    (items : List Item) (h : readDirective d s = .ok (item,rest)) :
    scan (d :: ds) s items = scan ds rest (items ++ item.toList) := by
  rw [scan,h]

theorem scan_of_input {d : Directive} {ds : List Directive} {s : List Char} (items : List Item)
    (h : readDirective d s = .error .input) :
    scan (d :: ds) s items = (items,if items.isEmpty then -1 else (items.length : Int)) := by
  rw [scan,h]

theorem readDirective_literal (c : Char) (s : List Char) :
    readDirective (.literal c) (c :: s) = .ok (none,s) := by
  simp [readDirective]

theorem readDirective_char (c : Char) (s : List Char) :
    readDirective .char (c :: s) = .ok (some (.char c),s) := rfl

theorem skipSpace_of_head {s : List Char} (h : ∀ c ∈ s.head?, asciiIsspace c = false) :
    skipSpace s = s := by
  cases s with
  | nil => rfl
  | cons c s => exact List.dropWhile_cons_of_neg (by simpa using h)

theorem skipSpace_space (s : List Char) : skipSpace (' ' :: s) = skipSpace s := rfl

theorem readDirective_space_of_head {s : List Char} (h : ∀ c ∈ s.head?, asciiIsspace c = false) :
    readDirective .space (' ' :: s) = .ok (none,s) := by
  rw [readDirective,skipSpace_space,skipSpace_of_head h]

theorem forall_mem_head?_cons {P : Char → Prop} {c : Char} (h : P c) (s : List Char) :
    ∀ x ∈ (c :: s).head?, P x := by
  intro x hx
  cases hx
  exact h

@[simp] theorem skipSpace_skipSpace (s : List Char) : skipSpace (skipSpace s) = skipSpace s := by
  induction s with
  | nil => rfl
  | cons c s ih =>
    by_cases hc : asciiIsspace c
    · have hskip : skipSpace (c :: s) = skipSpace s := List.dropWhile_cons_of_pos hc
      rwa [hskip]
    · have hhead : ∀ x ∈ (c :: s).head?, asciiIsspace x = false := by simpa using hc
      rw [skipSpace_of_head hhead,skipSpace_of_head hhead]

theorem readDirective_string_of_nil {s : List Char} (h : skipSpace s = []) (width : Nat) :
    readDirective (.string width) s = .error .input := by
  simp only [readDirective,readString,if_pos h]
  rfl

theorem readDirective_string {s : List Char} (h : skipSpace s ≠ []) {width : Nat} (hw : 0 < width) :
    readDirective (.string width) s =
      .ok (some (.string (((skipSpace s).takeWhile fun c => !asciiIsspace c).take width)),
        (skipSpace s).drop (((skipSpace s).takeWhile fun c => !asciiIsspace c).take width).length) := by
  simp only [readDirective,readString,if_neg h,if_neg (Nat.pos_iff_ne_zero.mp hw)]
  rfl

theorem skipSpace_replicate_append (k : Nat) (s : List Char) :
    skipSpace (List.replicate k ' ' ++ s) = skipSpace s := by
  induction k with
  | zero => rfl
  | succ k ih => rwa [List.replicate_succ,List.cons_append,skipSpace_space]

/-! ### Digits -/

section Digits

variable {base d : Nat}

theorem digitValue_digitChar (h : d < 16) : digitValue d.digitChar = d := by
  interval_cases d <;> decide

theorem asciiIsspace_digitChar (h : d < 16) : asciiIsspace d.digitChar = false := by
  interval_cases d <;> decide

theorem isAlphanum_digitChar (h : d < 16) : d.digitChar.isAlphanum = true := by
  interval_cases d <;> decide

theorem digitChar_ne (h : d < 16) :
    d.digitChar ≠ '-' ∧ d.digitChar ≠ '+' ∧ d.digitChar ≠ 'x' ∧ d.digitChar ≠ 'X' := by
  interval_cases d <;> decide

theorem exists_digitChar_of_mem_toDigits (hb : 1 < base) {c : Char} :
    ∀ {n : Nat}, c ∈ Nat.toDigits base n → ∃ d < base, c = d.digitChar := by
  intro n
  induction n using Nat.strong_induction_on with
  | _ n ih =>
    rw [Nat.toDigits_eq_if hb]
    split
    · rintro hc
      exact ⟨n,by omega,List.mem_singleton.mp hc⟩
    · intro hc
      rcases List.mem_append.mp hc with hc | hc
      · exact ih (n / base) (Nat.div_lt_self (by omega) hb) hc
      · exact ⟨n % base,Nat.mod_lt _ (by omega),List.mem_singleton.mp hc⟩

theorem exists_digitChar_of_mem_numeral (hb : 1 < base) {width n : Nat} {c : Char}
    (hc : c ∈ numeral base width n) : ∃ d < base, c = d.digitChar := by
  rcases List.mem_append.mp hc with hc | hc
  · exact ⟨0,by omega,(List.eq_of_mem_replicate hc).trans rfl⟩
  · exact exists_digitChar_of_mem_toDigits hb hc

theorem digitsValue_append_singleton (ds : List Char) (c : Char) :
    digitsValue base (ds ++ [c]) = base * digitsValue base ds + digitValue c := by
  simp [digitsValue,List.foldl_append]

theorem digitsValue_toDigits (hb : 1 < base) (hb' : base ≤ 16) (n : Nat) :
    digitsValue base (Nat.toDigits base n) = n := by
  induction n using Nat.strong_induction_on with
  | _ n ih =>
    rw [Nat.toDigits_eq_if hb]
    split
    · simp [digitsValue,digitValue_digitChar (show n < 16 by omega)]
    · rename_i hn
      have hmod : n % base < 16 := by
        have := Nat.mod_lt n (show base > 0 by omega)
        omega
      rw [digitsValue_append_singleton,ih (n / base) (Nat.div_lt_self (by omega) hb),
        digitValue_digitChar hmod,Nat.div_add_mod]

theorem digitsValue_zero_cons (ds : List Char) : digitsValue base ('0' :: ds) = digitsValue base ds := by
  simp [digitsValue,digitValue]

theorem digitsValue_numeral (hb : 1 < base) (hb' : base ≤ 16) (width n : Nat) :
    digitsValue base (numeral base width n) = n := by
  unfold numeral
  induction width - (Nat.toDigits base n).length with
  | zero => exact digitsValue_toDigits hb hb' n
  | succ k ih => rwa [List.replicate_succ,List.cons_append,digitsValue_zero_cons]

theorem numeral_ne_nil (base width n : Nat) : numeral base width n ≠ [] := by
  simp [numeral,Nat.toDigits_ne_nil]

theorem isAlphanum_of_mem_numeral (hb : 1 < base) (hb' : base ≤ 16) {width n : Nat} {c : Char}
    (hc : c ∈ numeral base width n) : c.isAlphanum = true := by
  obtain ⟨d,hd,rfl⟩ := exists_digitChar_of_mem_numeral hb hc
  exact isAlphanum_digitChar (by omega)

theorem head_numeral_ne_space (hb : 1 < base) (hb' : base ≤ 16) {width n : Nat} {rest : List Char} :
    ∀ c ∈ (numeral base width n ++ rest).head?, asciiIsspace c = false := by
  intro c hc
  obtain ⟨c',cs,hcs⟩ := List.exists_cons_of_ne_nil (numeral_ne_nil base width n)
  obtain ⟨d,hd,rfl⟩ := exists_digitChar_of_mem_numeral hb (show c' ∈ numeral base width n by simp [hcs])
  simp only [hcs,List.cons_append,List.head?_cons,Option.mem_def,Option.some.injEq] at hc
  subst hc
  exact asciiIsspace_digitChar (by omega)

end Digits

/-! ### Reading a numeral back -/

section Numeral

variable {base : Nat}

theorem splitZero_of_digits (hb : 1 < base) (hb' : base ≤ 16) {ds rest : List Char}
    (hds : ∀ c ∈ ds, ∃ d < base, c = d.digitChar) (hne : ds ≠ [])
    (hrest : ∀ c ∈ rest.head?, c ≠ 'x' ∧ c ≠ 'X') :
    ∃ zero ds', splitZero base (ds ++ rest) = (zero,ds' ++ rest) ∧ (zero = true ∨ ds' ≠ []) ∧
      (∀ c ∈ ds', ∃ d < base, c = d.digitChar) ∧ digitsValue base ds' = digitsValue base ds := by
  obtain ⟨c,cs,rfl⟩ := List.exists_cons_of_ne_nil hne
  have htail : ∀ c ∈ cs, ∃ d < base, c = d.digitChar := fun c hc => hds c (List.mem_cons_of_mem _ hc)
  by_cases hc : c = '0'
  · subst hc
    -- the character after the `0` is a digit or the head of `rest`: not an `x` either way
    have hnx : ∀ c ∈ (cs ++ rest).head?, c ≠ 'x' ∧ c ≠ 'X' := by
      cases cs with
      | nil => simpa using hrest
      | cons c' cs =>
        obtain ⟨d,hd,rfl⟩ := htail c' List.mem_cons_self
        have := digitChar_ne (show d < 16 by omega)
        simp [this.2.2.1,this.2.2.2]
    refine ⟨true,cs,?_,Or.inl rfl,htail,(digitsValue_zero_cons cs).symm⟩
    rcases hcs : cs ++ rest with _ | ⟨c',s⟩
    · simp [List.append_eq_nil_iff.mp hcs,splitZero]
    · have hc' := hnx c' (by simp [hcs])
      rw [List.cons_append,hcs]
      simp [splitZero,hc'.1,hc'.2]
  · refine ⟨false,c :: cs,?_,Or.inr (List.cons_ne_nil _ _),hds,rfl⟩
    rw [List.cons_append]
    unfold splitZero
    split <;> simp_all

theorem takeWhile_digits {ds rest : List Char} (hds : ∀ c ∈ ds, ∃ d < base, c = d.digitChar)
    (hb' : base ≤ 16) (hrest : ∀ c ∈ rest.head?, isDigitIn base c = false) :
    (ds ++ rest).takeWhile (isDigitIn base) = ds := by
  rw [List.takeWhile_append_of_pos]
  · cases rest with
    | nil => simp
    | cons c rest => simp [List.takeWhile_cons_of_neg (by simpa using hrest)]
  · intro c hc
    obtain ⟨d,hd,rfl⟩ := hds c hc
    simp [isDigitIn,digitValue_digitChar (show d < 16 by omega),hd]

/-- A numeral that nothing alphanumeric follows reads back as its value, stored in an
`unsigned int` for `%x` and `%u`. -/
theorem readUnsigned_numeral (hb : 1 < base) (hb' : base ≤ 16) (long : Bool) (width : Nat)
    {n : Nat} (hn : n < 2 ^ 64) {rest : List Char}
    (hrest : ∀ c ∈ rest.head?, isDigitIn base c = false ∧ c ≠ 'x' ∧ c ≠ 'X') :
    readUnsigned base long (numeral base width n ++ rest) =
      .ok (.num (if long then n else n % 2 ^ 32),rest) := by
  have hds := fun c (hc : c ∈ numeral base width n) => exists_digitChar_of_mem_numeral hb hc
  obtain ⟨c,cs,hcs⟩ := List.exists_cons_of_ne_nil (numeral_ne_nil base width n)
  obtain ⟨d,hd,hc⟩ := hds c (by simp [hcs])
  have hc16 := digitChar_ne (show d < 16 by omega)
  -- the numeral starts with a digit: no white space to skip and no sign
  have hskip : skipSpace (numeral base width n ++ rest) = numeral base width n ++ rest :=
    skipSpace_of_head (by simp [hcs,hc,asciiIsspace_digitChar (show d < 16 by omega)])
  have hsign : splitSign (numeral base width n ++ rest) = (false,numeral base width n ++ rest) := by
    rw [hcs,List.cons_append]
    unfold splitSign
    split <;> simp_all
  obtain ⟨zero,ds',hzero,hne,hds',hval⟩ := splitZero_of_digits hb hb' hds (numeral_ne_nil _ _ _)
    (fun c hc => (hrest c hc).2)
  have htake := takeWhile_digits hds' hb' (fun c hc => (hrest c hc).1)
  rw [digitsValue_numeral hb hb'] at hval
  have hnotnil : ¬(!zero && ds'.isEmpty) = true := by
    rcases hne with rfl | hne
    · simp
    · simp [hne]
  simp only [readUnsigned,hskip,hsign,hzero,htake,if_neg hnotnil,hval,List.drop_left,strtoul,
    if_neg (show ¬2 ^ 64 ≤ n by omega)]
  simp [numeral_ne_nil]

theorem readDirective_numeral (hb : 1 < base) (hb' : base ≤ 16) (long : Bool) (width : Nat)
    {n : Nat} (hn : n < 2 ^ 64) {rest : List Char}
    (hrest : ∀ c ∈ rest.head?, isDigitIn base c = false ∧ c ≠ 'x' ∧ c ≠ 'X') :
    readDirective (.unsigned base long) (numeral base width n ++ rest) =
      .ok (some (.num (if long then n else n % 2 ^ 32)),rest) := by
  rw [readDirective,readUnsigned_numeral hb hb' long width hn hrest]
  rfl

end Numeral

end Scanf
