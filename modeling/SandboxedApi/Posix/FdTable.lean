import Mathlib.Data.List.Basic

/-! # A process's descriptor table

Each open number of a process stands for an open file description. A new descriptor takes the
lowest number that is not open (`open`, `socket`, `recvmsg` with `SCM_RIGHTS`, `dup`); `dup2`
puts a description at the number it is given and closes what was there; `close` frees a number.
Numbers are `int`s, as in C, and no negative number is ever open; the table keeps a bound above
which nothing is open, so that the lowest free number can be found.
-/
namespace Posix

structure FdTable (α : Type) where
  files : Int → Option α
  bound : Nat
  /-- Only the numbers from `0` to `bound - 1` can be open. -/
  open_lt : ∀ n, (files n).isSome → 0 ≤ n ∧ n < bound

namespace FdTable

variable {α : Type} (t : FdTable α)

/-- The lowest number that is not open. -/
def lowestFree : Nat := ((List.range t.bound).find? fun n : Nat => (t.files n).isNone).getD t.bound

/-- The table with `a` at the number `n`, in place of what was there. -/
def set (n : Nat) (a : α) : FdTable α where
  files m := if m = n then some a else t.files m
  bound := max t.bound (n + 1)
  open_lt m h := by
    by_cases hm : m = n
    · omega
    · rw [if_neg hm] at h
      have := t.open_lt m h
      omega

def close (n : Int) : FdTable α where
  files m := if m = n then none else t.files m
  bound := t.bound
  open_lt m h := by
    by_cases hm : m = n
    · simp [hm] at h
    · rw [if_neg hm] at h
      exact t.open_lt m h

/-- A new descriptor for `a`, at the lowest free number. -/
def install (a : α) : FdTable α × Int := (t.set t.lowestFree a,t.lowestFree)

/-- `dup(fd)`; `none` where it fails with `EBADF`. -/
def dup (fd : Int) : Option (FdTable α × Int) := (t.files fd).map t.install

/-- `dup2(oldfd, newfd)`; `none` where it fails with `EBADF`. -/
def dup2 (old new : Int) : Option (FdTable α) :=
  match t.files old with
  | none => none
  | some a => if new < 0 then none else if old = new then some t else some (t.set new.toNat a)

/-! ### The lowest free number -/

@[simp] theorem files_lowestFree : t.files t.lowestFree = none := by
  unfold lowestFree
  cases h : (List.range t.bound).find? fun n : Nat => (t.files n).isNone with
  | none =>
    simp only [Option.getD_none]
    cases hb : t.files t.bound with
    | none => rfl
    | some a =>
      have := t.open_lt t.bound (by simp [hb])
      omega
  | some n => simpa using List.find?_some h

theorem lowestFree_ne {n : Int} (h : (t.files n).isSome) : (t.lowestFree : Int) ≠ n := by
  rintro rfl
  simp at h

/-! ### Each call, number by number -/

@[simp] theorem files_set_self (n : Nat) (a : α) : (t.set n a).files n = some a := if_pos rfl

@[simp] theorem files_set_of_ne {n : Nat} {m : Int} (a : α) (h : m ≠ n) :
    (t.set n a).files m = t.files m := if_neg h

@[simp] theorem files_close_self (n : Int) : (t.close n).files n = none := if_pos rfl

@[simp] theorem files_close_of_ne {n m : Int} (h : m ≠ n) : (t.close n).files m = t.files m := if_neg h

@[simp] theorem install_snd (a : α) : (t.install a).2 = t.lowestFree := rfl

theorem files_install (a : α) (m : Int) :
    (t.install a).1.files m = if m = t.lowestFree then some a else t.files m := rfl

theorem dup_of_files {fd : Int} {a : α} (h : t.files fd = some a) : t.dup fd = some (t.install a) := by
  simp [dup,h]

theorem dup2_of_files {old new : Int} {a : α} (h : t.files old = some a) (hn : 0 ≤ new) (hne : old ≠ new) :
    ∃ t', t.dup2 old new = some t' ∧ ∀ m, t'.files m = if m = new then some a else t.files m := by
  refine ⟨t.set new.toNat a,?_,fun m => ?_⟩
  · simp [dup2,h,hne,Int.not_lt.mpr hn]
  · simp only [set,Int.toNat_of_nonneg hn]

end FdTable

end Posix
