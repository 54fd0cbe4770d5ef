import Mathlib

/-! # Binary search for the first element a predicate rejects

`std::lower_bound` looks at the middle of its range `[first, first + len)`: when the comparison
holds of the middle element the search goes on after it (`first = middle + 1`,
`len = len - half - 1`), otherwise before it (`len = half`), until the range is empty. The range
is modelled as the list it covers, so that going on after the middle is `drop (half + 1)` with
`half + 1` added to the result, and going on before it is `take half`.

On a list where the comparison holds before some index `k` and fails from `k` on (`Splits`),
the search returns `k` (`lowerBound_eq`), the index a linear scan finds too.
-/
namespace SandboxedApi.Search

variable {α : Type} (comp : α → Bool)

theorem half_lt_length_cons (x : α) (xs : List α) : (xs.length + 1) / 2 < (x :: xs).length := by
  rw [List.length_cons]
  omega

theorem length_drop_half_lt (x : α) (xs : List α) :
    ((x :: xs).drop ((xs.length + 1) / 2 + 1)).length < (x :: xs).length := by
  simp only [List.length_drop,List.length_cons]
  omega

theorem length_take_half_lt (x : α) (xs : List α) :
    ((x :: xs).take ((xs.length + 1) / 2)).length < (x :: xs).length := by
  simp only [List.length_take,List.length_cons]
  omega

/-- `std::lower_bound` with `comp` the comparison of an element with the value sought. -/
def lowerBound : List α → Nat
  | [] => 0
  | x :: xs =>
    have hhalf := half_lt_length_cons x xs
    if comp ((x :: xs).get ⟨(xs.length + 1) / 2,hhalf⟩) then
      (xs.length + 1) / 2 + 1 + lowerBound ((x :: xs).drop ((xs.length + 1) / 2 + 1))
    else lowerBound ((x :: xs).take ((xs.length + 1) / 2))
termination_by xs => xs.length
decreasing_by
  · exact length_drop_half_lt x xs
  · exact length_take_half_lt x xs

/-- `comp` holds of the elements before `k` and fails of those from `k` on. -/
structure Splits (xs : List α) (k : Nat) : Prop where
  le : k ≤ xs.length
  before : ∀ j (hj : j < xs.length), j < k → comp xs[j] = true
  after : ∀ j (hj : j < xs.length), k ≤ j → comp xs[j] = false

variable {comp}

theorem Splits.drop {xs : List α} {k n : Nat} (h : Splits comp xs k) (hn : n ≤ k) :
    Splits comp (xs.drop n) (k - n) where
  le := by
    have := h.le
    rw [List.length_drop]
    omega
  before j hj hjk := by
    rw [List.getElem_drop]
    exact h.before _ _ (by omega)
  after j hj hjk := by
    rw [List.getElem_drop]
    exact h.after _ _ (by omega)

theorem Splits.take {xs : List α} {k n : Nat} (h : Splits comp xs k) (hn : k ≤ n) :
    Splits comp (xs.take n) k where
  le := by
    have := h.le
    rw [List.length_take]
    omega
  before j hj hjk := by
    rw [List.getElem_take]
    exact h.before _ _ hjk
  after j hj hjk := by
    rw [List.getElem_take]
    exact h.after _ _ hjk

/-- The search returns the index where the comparison stops holding. -/
theorem lowerBound_eq {xs : List α} {k : Nat} (h : Splits comp xs k) : lowerBound comp xs = k := by
  fun_induction lowerBound comp xs generalizing k with
  | case1 =>
    have := h.le
    simp only [List.length_nil] at this
    omega
  | case2 x xs hhalf hm ih =>
    -- the middle is before `k`: the search goes on after it
    have hlt : (xs.length + 1) / 2 < k := by
      by_contra hge
      have := h.after _ hhalf (by omega)
      simp only [List.get_eq_getElem] at hm
      rw [hm] at this
      cases this
    rw [ih (h.drop (Nat.succ_le_of_lt hlt))]
    omega
  | case3 x xs hhalf hm ih =>
    -- the middle is at or after `k`: the search goes on before it
    have hle : k ≤ (xs.length + 1) / 2 := by
      by_contra hgt
      have := h.before _ hhalf (by omega)
      simp only [List.get_eq_getElem] at hm
      exact hm this
    exact ih (h.take hle)

theorem splits_findIdx {xs : List α}
    (hmono : ∀ i j (hi : i < xs.length) (hj : j < xs.length), i ≤ j → comp xs[j] = true →
      comp xs[i] = true) :
    Splits comp xs (xs.findIdx fun x => !comp x) where
  le := List.findIdx_le_length
  before j hj hjk := by
    have := List.not_of_lt_findIdx hjk
    simpa using this
  after j hj hjk := by
    by_contra hj'
    have hk : (xs.findIdx fun x => !comp x) < xs.length := by omega
    -- the first element rejected sits at the split, at or before `j`
    have hfail : (!comp xs[xs.findIdx fun x => !comp x]) = true := List.findIdx_getElem (w := hk)
    have := hmono _ j hk hj hjk (by simpa using hj')
    rw [this] at hfail
    cases hfail

end SandboxedApi.Search
