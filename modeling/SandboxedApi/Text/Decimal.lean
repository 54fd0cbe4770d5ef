import Mathlib

/-! # Decimal numerals

`absl::SimpleAtoi` into an `int` reads ASCII whitespace around an optional sign and a nonempty
run of decimal digits, and fails outside the range of `int`. It reads back what `absl::StrCat`
prints for an `int`: the decimal numeral of its absolute value, behind `-` when it is negative.
Text is the list of its characters.
-/
namespace Decimal

/-- `absl::ascii_isspace`. -/
def asciiIsspace (c : Char) : Bool :=
  c == ' ' || c == '\t' || c == '\n' || c == '\x0b' || c == '\x0c' || c == '\r'

/-- `absl::StripAsciiWhitespace`. -/
def stripAsciiWhitespace (s : List Char) : List Char :=
  ((s.dropWhile asciiIsspace).reverse.dropWhile asciiIsspace).reverse

/-- The sign in front of the digits: whether it is `-`, and what follows it. -/
def splitSign : List Char → Bool × List Char
  | '-' :: ds => (true,ds)
  | '+' :: ds => (false,ds)
  | ds => (false,ds)

/-- `absl::SimpleAtoi` into an `int`. -/
def simpleAtoi (text : List Char) : Option Int :=
  let (negative,digits) := splitSign (stripAsciiWhitespace text)
  if digits.isEmpty || !digits.all Char.isDigit then none
  else
    let v := Nat.ofDigitChars 10 digits 0
    if negative then (if v ≤ 2 ^ 31 then some (-(v : Int)) else none)
    else if v < 2 ^ 31 then some (v : Int) else none

/-! ### Reading back a numeral -/

theorem asciiIsspace_of_isDigit {c : Char} (h : c.isDigit) : asciiIsspace c = false := by
  simp only [Char.isDigit,Bool.and_eq_true,decide_eq_true_eq,UInt32.le_iff_toNat_le] at h
  change 48 ≤ c.val.toNat ∧ c.val.toNat ≤ 57 at h
  have hne : ∀ d : Char, d.val.toNat < 48 → c ≠ d := by
    rintro d hd rfl
    omega
  simp only [asciiIsspace,Bool.or_eq_false_iff,beq_eq_false_iff_ne]
  exact ⟨⟨⟨⟨⟨hne _ (by decide),hne _ (by decide)⟩,hne _ (by decide)⟩,hne _ (by decide)⟩,
    hne _ (by decide)⟩,hne _ (by decide)⟩

theorem stripAsciiWhitespace_eq_self {c d : Char} {s : List Char} (hc : asciiIsspace c = false)
    (hd : asciiIsspace d = false) (hs : (c :: s).getLast? = some d) :
    stripAsciiWhitespace (c :: s) = c :: s := by
  obtain ⟨init,hinit⟩ : ∃ init, c :: s = init ++ [d] := List.getLast?_eq_some_iff.mp hs
  unfold stripAsciiWhitespace
  rw [List.dropWhile_cons_of_neg (by simp [hc]),hinit,List.reverse_append,List.reverse_singleton,
    List.singleton_append,List.dropWhile_cons_of_neg (by simp [hd]),List.reverse_cons,
    List.reverse_reverse]

theorem toDigits_spec (k : Nat) :
    (Nat.toDigits 10 k).isEmpty = false ∧ (Nat.toDigits 10 k).all Char.isDigit = true ∧
      Nat.ofDigitChars 10 (Nat.toDigits 10 k) 0 = k := by
  refine ⟨?_,?_,Nat.ofDigitChars_ten_toDigits⟩
  · simp [Nat.toDigits_ne_nil]
  · simpa using fun c hc => Nat.isDigit_of_mem_toDigits (by decide) (by decide) hc

theorem getLast?_toDigits (k : Nat) : ∃ d, (Nat.toDigits 10 k).getLast? = some d ∧ d.isDigit := by
  obtain ⟨d,hd⟩ := Option.isSome_iff_exists.mp
    (List.getLast?_isSome.mpr (@Nat.toDigits_ne_nil k 10))
  exact ⟨d,hd,Nat.isDigit_of_mem_toDigits (by decide) (by decide) (List.mem_of_getLast? hd)⟩

/-- `SimpleAtoi` reads back the numeral of every `int`. -/
theorem simpleAtoi_repr {n : Int} (hlo : -2 ^ 31 ≤ n) (hhi : n < 2 ^ 31) :
    simpleAtoi n.repr.toList = some n := by
  obtain ⟨hne,hdig,hval⟩ := toDigits_spec (if 0 ≤ n then n.toNat else (-n).toNat)
  obtain ⟨d,hd,hdd⟩ := getLast?_toDigits (if 0 ≤ n then n.toNat else (-n).toNat)
  obtain ⟨c,s,hcs⟩ :=
    List.exists_cons_of_ne_nil (@Nat.toDigits_ne_nil (if 0 ≤ n then n.toNat else (-n).toNat) 10)
  have hc : c.isDigit := by
    rw [List.all_eq_true] at hdig
    exact hdig c (hcs ▸ List.mem_cons_self)
  by_cases hn : 0 ≤ n
  · -- a numeral with no sign
    simp only [hn,if_true] at hne hdig hval hd hcs
    have hsign : splitSign (c :: s) = (false,c :: s) := by
      unfold splitSign
      split
      · rename_i h
        cases h
        simp [Char.isDigit] at hc
      · rename_i h
        cases h
        simp [Char.isDigit] at hc
      · rfl
    rw [Int.repr_eq_if,if_pos hn,Nat.toList_repr,hcs,simpleAtoi,
      stripAsciiWhitespace_eq_self (asciiIsspace_of_isDigit hc) (asciiIsspace_of_isDigit hdd)
        (hcs ▸ hd),hsign]
    rw [hcs] at hne hdig hval
    simp only [hne,hdig,Bool.not_true,Bool.or_false,Bool.false_eq_true,if_false,hval]
    rw [if_pos (by omega)]
    simp [Int.toNat_of_nonneg hn]
  · -- `-` in front of the numeral of `-n`
    simp only [hn,if_false] at hne hdig hval hd hcs
    have hlast : ('-' :: c :: s).getLast? = some d := by
      rw [List.getLast?_cons_cons,← hcs,hd]
    rw [Int.repr_eq_if,if_neg hn,String.toList_append,Nat.toList_repr,hcs,simpleAtoi]
    rw [show "-".toList = ['-'] from rfl,List.singleton_append,
      stripAsciiWhitespace_eq_self (by decide) (asciiIsspace_of_isDigit hdd) hlast]
    rw [hcs] at hne hdig hval
    simp only [splitSign,hne,hdig,Bool.not_true,Bool.or_false,Bool.false_eq_true,if_false,hval,
      if_true]
    rw [if_pos (by omega)]
    simp only [Option.some.injEq]
    omega

theorem repr_toList_spec (n : Int) :
    n.repr.toList ≠ [] ∧ ∀ c ∈ n.repr.toList, c.isDigit ∨ c = '-' := by
  have hdig : ∀ k : Nat, ∀ c ∈ Nat.toDigits 10 k, c.isDigit :=
    fun k c hc => Nat.isDigit_of_mem_toDigits (by decide) (by decide) hc
  rw [Int.repr_eq_if]
  split
  · rw [Nat.toList_repr]
    exact ⟨Nat.toDigits_ne_nil,fun c hc => .inl (hdig _ c hc)⟩
  · rw [String.toList_append,Nat.toList_repr]
    refine ⟨by simp,fun c hc => ?_⟩
    rcases List.mem_append.mp hc with hc | hc
    · right
      simpa using hc
    · exact .inl (hdig _ c hc)

end Decimal
