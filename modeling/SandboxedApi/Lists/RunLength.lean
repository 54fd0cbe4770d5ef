import Mathlib.Data.List.Chain

/-! # Runs of equal neighbours

A list splits into maximal runs of equal neighbours; a run is its element and how many times it
repeats after its first. Read from the left with the run in progress, the runs give the list
back when expanded, and no two neighbouring runs have the same element.
-/
namespace SandboxedApi.RunLength

variable {α : Type} [DecidableEq α]

/-- The runs of `cur`, seen `1 + extra` times so far, followed by `rest`. -/
def runsFrom (cur : α) (extra : Nat) : List α → List (α × Nat)
  | [] => [(cur,extra)]
  | x :: xs => if x = cur then runsFrom cur (extra + 1) xs else (cur,extra) :: runsFrom x 0 xs

def runs : List α → List (α × Nat)
  | [] => []
  | x :: xs => runsFrom x 0 xs

omit [DecidableEq α] in
/-- Each run as its element `1 + extra` times. -/
def expandRuns (rs : List (α × Nat)) : List α := rs.flatMap fun r => List.replicate (r.2 + 1) r.1

omit [DecidableEq α] in
@[simp] theorem expandRuns_nil : expandRuns ([] : List (α × Nat)) = [] := rfl

omit [DecidableEq α] in
@[simp] theorem expandRuns_cons (r : α × Nat) (rs : List (α × Nat)) :
    expandRuns (r :: rs) = List.replicate (r.2 + 1) r.1 ++ expandRuns rs := by
  simp [expandRuns]

theorem expandRuns_runsFrom (cur : α) (extra : Nat) (rest : List α) :
    expandRuns (runsFrom cur extra rest) = List.replicate (extra + 1) cur ++ rest := by
  induction rest generalizing cur extra with
  | nil => simp [runsFrom]
  | cons x xs ih =>
    rw [runsFrom]
    by_cases hx : x = cur
    · rw [if_pos hx,ih,hx]
      simp [List.replicate_succ']
    · rw [if_neg hx,expandRuns_cons,ih]
      simp

theorem expandRuns_runs (l : List α) : expandRuns (runs l) = l := by
  cases l with
  | nil => rfl
  | cons x xs => simp [runs,expandRuns_runsFrom]

theorem fst_head_runsFrom (cur : α) (extra : Nat) (rest : List α) :
    ∃ k rs, runsFrom cur extra rest = (cur,k) :: rs := by
  induction rest generalizing extra with
  | nil => exact ⟨extra,[],rfl⟩
  | cons x xs ih =>
    rw [runsFrom]
    by_cases hx : x = cur
    · rw [if_pos hx]
      exact ih (extra + 1)
    · rw [if_neg hx]
      exact ⟨extra,_,rfl⟩

theorem isChain_runsFrom (cur : α) (extra : Nat) (rest : List α) :
    (runsFrom cur extra rest).IsChain fun r s => r.1 ≠ s.1 := by
  induction rest generalizing cur extra with
  | nil => simp [runsFrom]
  | cons x xs ih =>
    rw [runsFrom]
    by_cases hx : x = cur
    · rw [if_pos hx]
      exact ih cur (extra + 1)
    · rw [if_neg hx]
      obtain ⟨k,rs,hrs⟩ := fst_head_runsFrom x 0 xs
      have := ih x 0
      rw [hrs] at this ⊢
      exact List.isChain_cons_cons.mpr ⟨Ne.symm hx,this⟩

theorem isChain_runs (l : List α) : (runs l).IsChain fun r s => r.1 ≠ s.1 := by
  cases l with
  | nil => simp [runs]
  | cons x xs => exact isChain_runsFrom x 0 xs

theorem mem_of_mem_runsFrom {cur : α} {extra : Nat} {rest : List α} {r : α × Nat}
    (h : r ∈ runsFrom cur extra rest) : r.1 ∈ cur :: rest := by
  induction rest generalizing cur extra with
  | nil =>
    simp only [runsFrom,List.mem_singleton] at h
    simp [h]
  | cons x xs ih =>
    rw [runsFrom] at h
    by_cases hx : x = cur
    · rw [if_pos hx] at h
      have := ih h
      simp only [List.mem_cons] at this ⊢
      tauto
    · rw [if_neg hx,List.mem_cons] at h
      rcases h with rfl | h
      · simp
      · have := ih h
        simp only [List.mem_cons] at this ⊢
        tauto

theorem mem_of_mem_runs {l : List α} {r : α × Nat} (h : r ∈ runs l) : r.1 ∈ l := by
  cases l with
  | nil => simp [runs] at h
  | cons x xs => exact mem_of_mem_runsFrom h

end SandboxedApi.RunLength
