import Mathlib

/-! # Big-endian byte strings and network prefixes

A byte string, most significant byte first, stands for a number below `2 ^ (8 * length)`. A
network prefix of `len` bits of a `w`-bit number is its quotient by `2 ^ (w - len)`, and the
prefix mask `2 ^ w - 2 ^ (w - len)` picks it out with `&&&`: two numbers have the same prefix
exactly when they agree under the mask. A mask is a prefix mask exactly when its negation modulo
`2 ^ w` is a power of two, and shifting ones in from the top one at a time builds the prefix
masks in order.
-/
namespace SandboxedApi.Bytes

/-- The number a byte string stands for, most significant byte first. -/
def beValue : List UInt8 → Nat
  | [] => 0
  | b :: bs => b.toNat * 2 ^ (8 * bs.length) + beValue bs

/-- The mask of the first `len` of `w` bits. -/
def prefixMask (w len : Nat) : Nat := 2 ^ w - 2 ^ (w - len)

/-- `v` and `u`, of `w` bits, agree on their first `len` bits. -/
def SamePrefix (w len v u : Nat) : Prop := v / 2 ^ (w - len) = u / 2 ^ (w - len)

instance (w len v u : Nat) : Decidable (SamePrefix w len v u) :=
  inferInstanceAs (Decidable (v / 2 ^ (w - len) = u / 2 ^ (w - len)))

/-- The prefix mask of `len` bits on `n` bytes, one byte at a time. -/
def prefixBytes : Nat → Nat → List UInt8
  | 0, _ => []
  | n + 1, len => (prefixMask 8 (min 8 len)).toUInt8 :: prefixBytes n (len - 8)

/-! ### Byte strings -/

theorem beValue_lt : ∀ bs : List UInt8, beValue bs < 2 ^ (8 * bs.length)
  | [] => by simp [beValue]
  | b :: bs => by
    have hb : b.toNat + 1 ≤ 2 ^ 8 := b.toNat_lt
    have h := beValue_lt bs
    calc b.toNat * 2 ^ (8 * bs.length) + beValue bs
        < (b.toNat + 1) * 2 ^ (8 * bs.length) := by rw [Nat.add_mul,Nat.one_mul]; omega
      _ ≤ 2 ^ 8 * 2 ^ (8 * bs.length) := Nat.mul_le_mul_right _ hb
      _ = 2 ^ (8 * (b :: bs).length) := by rw [← Nat.pow_add, List.length_cons]; ring_nf

theorem mul_two_pow_add_and {a b r s k : Nat} (hr : r < 2 ^ k) (hs : s < 2 ^ k) :
    (a * 2 ^ k + r) &&& (b * 2 ^ k + s) = (a &&& b) * 2 ^ k + (r &&& s) := by
  have hpos : 0 < 2 ^ k := Nat.two_pow_pos k
  have hdiv : ∀ {c t : Nat}, t < 2 ^ k → (c * 2 ^ k + t) / 2 ^ k = c := fun ht => by
    rw [Nat.add_comm,Nat.add_mul_div_right _ _ hpos,Nat.div_eq_of_lt ht,Nat.zero_add]
  have hmod : ∀ {c t : Nat}, t < 2 ^ k → (c * 2 ^ k + t) % 2 ^ k = t := fun ht => by
    rw [Nat.mul_comm,Nat.mul_add_mod,Nat.mod_eq_of_lt ht]
  rw [← Nat.div_add_mod' ((a * 2 ^ k + r) &&& (b * 2 ^ k + s)) (2 ^ k),Nat.and_div_two_pow,
    Nat.and_mod_two_pow,hdiv hr,hdiv hs,hmod hr,hmod hs]

theorem beValue_zipWith_and :
    ∀ (xs ys : List UInt8), xs.length = ys.length →
      beValue (List.zipWith (· &&& ·) xs ys) = beValue xs &&& beValue ys
  | [], [], _ => rfl
  | x :: xs, y :: ys, h => by
    have hl : xs.length = ys.length := by simpa using h
    have hz : (List.zipWith (· &&& ·) xs ys).length = xs.length := by simp [hl]
    rw [List.zipWith_cons_cons,beValue,beValue,beValue,hz,hl,UInt8.toNat_and,
      beValue_zipWith_and xs ys hl,mul_two_pow_add_and (hl ▸ beValue_lt xs) (beValue_lt ys)]

theorem beValue_inj :
    ∀ {xs ys : List UInt8}, xs.length = ys.length → beValue xs = beValue ys → xs = ys
  | [], [], _, _ => rfl
  | x :: xs, y :: ys, h, he => by
    have hl : xs.length = ys.length := by simpa using h
    have hx := beValue_lt xs
    have hy := beValue_lt ys
    rw [beValue,beValue,hl] at he
    rw [hl] at hx
    -- the leading bytes are the quotients by the weight of the rest, the rest the remainders
    have hq : x.toNat = y.toNat := by
      have := congrArg (· / 2 ^ (8 * ys.length)) he
      simp only [Nat.add_comm _ (beValue _),Nat.add_mul_div_right _ _ (Nat.two_pow_pos _),
        Nat.div_eq_of_lt hx,Nat.div_eq_of_lt hy,Nat.zero_add] at this
      exact this
    have hr : beValue xs = beValue ys := by
      rw [hq] at he
      omega
    rw [UInt8.toNat_inj.mp hq,beValue_inj hl hr]

/-! ### Prefixes -/

theorem prefixMask_lt (w len : Nat) : prefixMask w len < 2 ^ w :=
  Nat.sub_lt (Nat.two_pow_pos w) (Nat.two_pow_pos _)

theorem and_prefixMask {w len v : Nat} (hv : v < 2 ^ w) (hl : len ≤ w) :
    v &&& prefixMask w len = v / 2 ^ (w - len) * 2 ^ (w - len) := by
  have hw : 2 ^ w = 2 ^ len * 2 ^ (w - len) := by rw [← Nat.pow_add]; congr 1; omega
  have hm : prefixMask w len = (2 ^ len - 1) * 2 ^ (w - len) := by
    rw [prefixMask,hw,Nat.sub_mul,Nat.one_mul]
  have hq : v / 2 ^ (w - len) < 2 ^ len := by
    rw [Nat.div_lt_iff_lt_mul (Nat.two_pow_pos _),← hw]
    exact hv
  rw [← Nat.div_add_mod' (v &&& prefixMask w len) (2 ^ (w - len)),Nat.and_div_two_pow,
    Nat.and_mod_two_pow,hm,Nat.mul_div_cancel _ (Nat.two_pow_pos _),Nat.mul_mod_left,Nat.and_zero,
    Nat.and_two_pow_sub_one_eq_mod,Nat.mod_eq_of_lt hq,Nat.add_zero]

theorem and_prefixMask_eq_iff {w len v u : Nat} (hv : v < 2 ^ w) (hu : u < 2 ^ w) (hl : len ≤ w) :
    v &&& prefixMask w len = u &&& prefixMask w len ↔ SamePrefix w len v u := by
  rw [and_prefixMask hv hl,and_prefixMask hu hl,SamePrefix]
  exact Nat.mul_left_inj (Nat.two_pow_pos _).ne'

/-- A nonzero mask is a prefix mask exactly when its negation is a power of two. -/
theorem isPowerOfTwo_sub_iff {w m : Nat} (hm0 : m ≠ 0) (hm : m ≤ 2 ^ w) :
    (2 ^ w - m).isPowerOfTwo ↔ ∃ len, 1 ≤ len ∧ len ≤ w ∧ m = prefixMask w len := by
  constructor
  · rintro ⟨j,hj⟩
    have hjw : j < w := by
      have : 2 ^ j < 2 ^ w := by omega
      exact (Nat.pow_lt_pow_iff_right (by omega)).mp this
    refine ⟨w - j,by omega,by omega,?_⟩
    rw [prefixMask,show w - (w - j) = j by omega]
    omega
  · rintro ⟨len,h1,h2,rfl⟩
    have hle : 2 ^ (w - len) ≤ 2 ^ w := Nat.pow_le_pow_right (by omega) (by omega)
    refine ⟨w - len,?_⟩
    show 2 ^ w - prefixMask w len = 2 ^ (w - len)
    rw [prefixMask]
    exact Nat.sub_sub_self hle

theorem prefixMask_succ {w n : Nat} (h : n < w) :
    prefixMask w n / 2 + 2 ^ (w - 1) = prefixMask w (n + 1) := by
  obtain ⟨v,rfl⟩ : ∃ v, w = v + 1 := ⟨w - 1,by omega⟩
  have hle : 2 ^ (v - n) ≤ 2 ^ v := Nat.pow_le_pow_right (by omega) (by omega)
  have h1 : 2 ^ (v + 1) = 2 * 2 ^ v := by rw [Nat.pow_succ,Nat.mul_comm]
  have h2 : 2 ^ (v + 1 - n) = 2 * 2 ^ (v - n) := by
    rw [show v + 1 - n = v - n + 1 by omega,Nat.pow_succ,Nat.mul_comm]
  rw [prefixMask,prefixMask,h1,h2,show v + 1 - 1 = v by omega,show v + 1 - (n + 1) = v - n by omega]
  omega

theorem prefixMask_pos {w len : Nat} (h1 : 1 ≤ len) (hl : len ≤ w) : 0 < prefixMask w len := by
  have : 2 ^ (w - len) < 2 ^ w := Nat.pow_lt_pow_right (by omega) (by omega)
  rw [prefixMask]
  omega

theorem prefixMask_inj {w a b : Nat} (ha : a ≤ w) (hb : b ≤ w)
    (h : prefixMask w a = prefixMask w b) : a = b := by
  have hx : 2 ^ (w - a) ≤ 2 ^ w := Nat.pow_le_pow_right (by omega) (by omega)
  have hy : 2 ^ (w - b) ≤ 2 ^ w := Nat.pow_le_pow_right (by omega) (by omega)
  have he : 2 ^ (w - a) = 2 ^ (w - b) := by
    unfold prefixMask at h
    omega
  have := Nat.pow_right_injective (le_refl 2) he
  omega

theorem prefixMask_zero (w : Nat) : prefixMask w 0 = 0 := by simp [prefixMask]

theorem prefixMask_self (w : Nat) : prefixMask w w = 2 ^ w - 1 := by simp [prefixMask]

/-! ### The prefix mask, byte by byte -/

theorem length_prefixBytes : ∀ n len : Nat, (prefixBytes n len).length = n
  | 0, _ => rfl
  | n + 1, len => by rw [prefixBytes,List.length_cons,length_prefixBytes]

theorem getElem_prefixBytes :
    ∀ (n len i : Nat) (hi : i < (prefixBytes n len).length),
      (prefixBytes n len)[i] = (prefixMask 8 (min 8 (len - 8 * i))).toUInt8
  | 0, _, i, hi => absurd hi (by simp [prefixBytes])
  | n + 1, len, 0, _ => rfl
  | n + 1, len, i + 1, hi => by
    simp only [prefixBytes,List.getElem_cons_succ]
    rw [getElem_prefixBytes n (len - 8) i,show len - 8 - 8 * i = len - 8 * (i + 1) by omega]

theorem toNat_prefixMask_eight (len : Nat) :
    (prefixMask 8 (min 8 len)).toUInt8.toNat = prefixMask 8 (min 8 len) := by
  rw [UInt8.toNat_ofNat',Nat.mod_eq_of_lt (prefixMask_lt 8 _)]

theorem beValue_prefixBytes :
    ∀ n len : Nat, beValue (prefixBytes n len) = prefixMask (8 * n) (min len (8 * n))
  | 0, _ => by simp [prefixBytes,beValue,prefixMask]
  | n + 1, len => by
    rw [prefixBytes,beValue,beValue_prefixBytes n (len - 8),length_prefixBytes,
      toNat_prefixMask_eight]
    have hlow : 2 ^ (8 * n - min (len - 8) (8 * n)) ≤ 2 ^ (8 * n) :=
      Nat.pow_le_pow_right (by omega) (by omega)
    have hw : 2 ^ (8 * (n + 1)) = 2 ^ 8 * 2 ^ (8 * n) := by rw [← Nat.pow_add]; ring_nf
    by_cases h8 : 8 ≤ len
    · -- a full byte of ones, and the rest of the prefix in the bytes after it
      have he : 8 * (n + 1) - min len (8 * (n + 1)) = 8 * n - min (len - 8) (8 * n) := by omega
      rw [min_eq_left h8,prefixMask,prefixMask,prefixMask,he,hw]
      norm_num
      omega
    · -- the prefix ends in this byte; the bytes after it are zero
      have he : 8 * (n + 1) - min len (8 * (n + 1)) = (8 - len) + 8 * n := by omega
      rw [min_eq_right (by omega),show min (len - 8) (8 * n) = 0 by omega,prefixMask_zero,
        prefixMask,prefixMask,he,Nat.pow_add,hw,Nat.add_zero,Nat.sub_mul]

theorem zipWith_and_eq_iff {xs ys ms : List UInt8} (hx : xs.length = ms.length)
    (hy : ys.length = ms.length) {len : Nat} (hl : len ≤ 8 * ms.length)
    (hm : beValue ms = prefixMask (8 * ms.length) len) :
    List.zipWith (· &&& ·) xs ms = List.zipWith (· &&& ·) ys ms ↔
      SamePrefix (8 * ms.length) len (beValue xs) (beValue ys) := by
  have hxl : beValue xs < 2 ^ (8 * ms.length) := by rw [← hx]; exact beValue_lt xs
  have hyl : beValue ys < 2 ^ (8 * ms.length) := by rw [← hy]; exact beValue_lt ys
  rw [← and_prefixMask_eq_iff hxl hyl hl,← hm,← beValue_zipWith_and xs ms hx,
    ← beValue_zipWith_and ys ms hy]
  constructor
  · intro h
    rw [h]
  · exact beValue_inj (by simp [hx,hy])

end SandboxedApi.Bytes
