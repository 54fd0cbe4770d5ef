import Mathlib.Data.List.Chain
import SandboxedApi.Search.LowerBound

/-! # Names of system calls

`SyscallTable` names the system calls of an architecture from a table of entries sorted by
number; a `static_assert` of `IsSorted` with `Entry::BySyscallNr` checks each table when the
monitor is compiled. `GetName` finds an entry by `absl::c_lower_bound` on the number and keeps it
when it has the number sought, and answers `""` otherwise.

On every table `IsSorted` accepts, the binary search answers what a scan of the table for the
number answers (`getName_eq_find`). The entries' argument types, which only the description of
arguments reads, are left out.
-/
namespace SandboxedApi.Sandbox2

open Search

section Sorted

variable {α : Type} (comp : α → α → Bool)

/-- The loop of `IsSorted`, with `last` the element before the rest. -/
def isSortedLoop : α → List α → Bool
  | _, [] => true
  | last, it :: rest => if !comp last it then false else isSortedLoop it rest

/-- The `IsSorted` of `syscall_defs.cc`: `comp` holds of every element and the next. -/
def isSorted : List α → Bool
  | [] => true
  | first :: rest => isSortedLoop comp first rest

variable {comp}

theorem isSortedLoop_iff (last : α) (l : List α) :
    isSortedLoop comp last l = true ↔ (last :: l).IsChain fun a b => comp a b = true := by
  induction l generalizing last with
  | nil => simp [isSortedLoop]
  | cons it rest ih =>
    rw [List.isChain_cons_cons,← ih it,isSortedLoop]
    cases comp last it <;> simp

theorem isSorted_iff (l : List α) : isSorted comp l = true ↔ l.IsChain fun a b => comp a b = true := by
  cases l with
  | nil => simp [isSorted]
  | cons first rest => exact isSortedLoop_iff first rest

end Sorted

namespace SyscallTable

/-- The part of `SyscallTable::Entry` that `GetName` reads. -/
structure Entry where
  nr : Int
  name : String
deriving DecidableEq, Repr

/-- `Entry::BySyscallNr`. -/
def Entry.bySyscallNr (a b : Entry) : Bool := decide (a.nr < b.nr)

/-- `SyscallTable::GetName`. -/
def getName (data : List Entry) (syscall : Int) : String :=
  match data.drop (lowerBound (fun entry => decide (entry.nr < syscall)) data) with
  | [] => ""
  | entry :: _ => if entry.nr ≠ syscall then "" else entry.name

theorem pairwise_of_isSorted {data : List Entry} (h : isSorted Entry.bySyscallNr data = true) :
    data.Pairwise fun a b => a.nr < b.nr := by
  have : Trans (fun a b : Entry => a.nr < b.nr) (fun a b : Entry => a.nr < b.nr)
      (fun a b : Entry => a.nr < b.nr) := ⟨Int.lt_trans⟩
  have hchain := (isSorted_iff data).mp h
  simp only [Entry.bySyscallNr,decide_eq_true_eq] at hchain
  exact hchain.pairwise

/-- On a sorted table the comparison with the number sought holds up to the first entry at or
past it. -/
theorem splits_of_pairwise {data : List Entry} (hsorted : data.Pairwise fun a b => a.nr < b.nr)
    (syscall : Int) :
    Splits (fun entry => decide (entry.nr < syscall)) data
      (data.findIdx fun entry => !decide (entry.nr < syscall)) := by
  refine splits_findIdx fun i j hi hj hij hlt => ?_
  simp only [decide_eq_true_eq] at hlt ⊢
  rcases Nat.lt_or_eq_of_le hij with hij | rfl
  · exact Int.lt_trans (List.pairwise_iff_getElem.mp hsorted i j hi hj hij) hlt
  · exact hlt

/-- On every table `IsSorted` accepts, `GetName` answers the name of the entry with the number,
and `""` when there is none: what a scan of the table answers. -/
theorem getName_eq_find (data : List Entry) (hsorted : isSorted Entry.bySyscallNr data = true)
    (syscall : Int) :
    getName data syscall = ((data.find? fun entry => entry.nr == syscall).map Entry.name).getD "" := by
  have hpair := pairwise_of_isSorted hsorted
  have hsplit := splits_of_pairwise hpair syscall
  set k := data.findIdx fun entry => !decide (entry.nr < syscall) with hk
  -- the entries before the split are below the number, so the scan finds nothing there
  have hbefore : (data.take k).find? (fun entry => entry.nr == syscall) = none := by
    rw [List.find?_eq_none]
    intro x hx
    obtain ⟨j,hj,rfl⟩ := List.mem_iff_getElem.mp hx
    rw [List.getElem_take]
    have := hsplit.before j (by simp at hj; omega) (by simp at hj; omega)
    simp only [decide_eq_true_eq] at this
    simp only [beq_iff_eq]
    omega
  have hfind : data.find? (fun entry => entry.nr == syscall) =
      (data.drop k).find? (fun entry => entry.nr == syscall) := by
    conv_lhs => rw [← List.take_append_drop k data]
    rw [List.find?_append,hbefore,Option.none_or]
  unfold getName
  rw [lowerBound_eq hsplit,hfind]
  cases hd : data.drop k with
  | nil => rfl
  | cons entry rest =>
    have hk' : k < data.length := by
      have := congrArg List.length hd
      simp only [List.length_drop,List.length_cons] at this
      omega
    have hentry : data[k] = entry := by
      have := congrArg List.head? hd
      rw [List.head?_drop,List.getElem?_eq_getElem hk'] at this
      exact Option.some.inj this
    -- the entry at the split is at or past the number, and all after it are past it
    have hge : syscall ≤ entry.nr := by
      have := hsplit.after k hk' le_rfl
      rw [hentry] at this
      simpa using this
    have hrest : ∀ x ∈ rest, entry.nr < x.nr := by
      have hp := hpair.sublist (List.drop_sublist k data)
      rw [hd,List.pairwise_cons] at hp
      exact hp.1
    by_cases heq : entry.nr = syscall
    · simp [heq]
    · have hnone : rest.find? (fun entry => entry.nr == syscall) = none := by
        rw [List.find?_eq_none]
        intro x hx
        have := hrest x hx
        simp only [beq_iff_eq]
        omega
      simp [heq,hnone]

/-- The first entries of the x86-64 table, and `open`. -/
theorem getName_eq_find_open :
    isSorted Entry.bySyscallNr [⟨0,"read"⟩,⟨1,"write"⟩,⟨2,"open"⟩,⟨3,"close"⟩,⟨4,"stat"⟩] = true ∧
      getName [⟨0,"read"⟩,⟨1,"write"⟩,⟨2,"open"⟩,⟨3,"close"⟩,⟨4,"stat"⟩] 2 =
        (([⟨0,"read"⟩,⟨1,"write"⟩,⟨2,"open"⟩,⟨3,"close"⟩,⟨4,"stat"⟩] : List Entry).find?
          (fun entry => entry.nr == 2) |>.map Entry.name).getD "" :=
  ⟨by decide,getName_eq_find _ (by decide) 2⟩

end SyscallTable

end SandboxedApi.Sandbox2
