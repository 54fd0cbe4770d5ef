import Mathlib

/-! # Little-endian integers

An integer of `w` bytes is stored lowest byte first: its bytes are its base-`256` digits, `w` of
them, and reading them back gives the integer modulo `256 ^ w`. A byte string read back and
written again with its own length is itself, and the value of a concatenation is the value of
its first part plus the value of the rest, shifted past it.
-/
namespace SandboxedApi.Bytes

/-- The `w` lowest base-`256` digits of `n`, lowest first. -/
def leBytes : Nat → Nat → List UInt8
  | 0, _ => []
  | w + 1, n => n.toUInt8 :: leBytes w (n / 256)

/-- The number a byte string stands for, lowest byte first. -/
def leValue : List UInt8 → Nat
  | [] => 0
  | b :: bs => b.toNat + 256 * leValue bs

@[simp] theorem leValue_nil : leValue [] = 0 := rfl

@[simp] theorem leValue_cons (b : UInt8) (bs : List UInt8) :
    leValue (b :: bs) = b.toNat + 256 * leValue bs := rfl

@[simp] theorem length_leBytes : ∀ w n, (leBytes w n).length = w
  | 0, _ => rfl
  | w + 1, n => by simp [leBytes,length_leBytes w]

theorem leValue_leBytes : ∀ w n, leValue (leBytes w n) = n % 256 ^ w
  | 0, n => by simp [leBytes,Nat.mod_one]
  | w + 1, n => by
    rw [leBytes,leValue_cons,leValue_leBytes w,Nat.pow_succ',Nat.mod_mul]
    simp [Nat.toUInt8]

theorem leValue_lt : ∀ bs : List UInt8, leValue bs < 256 ^ bs.length
  | [] => by simp
  | b :: bs => by
    have hb := b.toNat_lt
    have h := leValue_lt bs
    rw [leValue_cons,List.length_cons,Nat.pow_succ']
    change b.toNat < 256 at hb
    omega

theorem leValue_leBytes_of_lt {w n : Nat} (h : n < 256 ^ w) : leValue (leBytes w n) = n := by
  rw [leValue_leBytes,Nat.mod_eq_of_lt h]

theorem leBytes_leValue : ∀ bs : List UInt8, leBytes bs.length (leValue bs) = bs
  | [] => rfl
  | b :: bs => by
    have hb : b.toNat < 256 := b.toNat_lt
    have hdiv : (b.toNat + 256 * leValue bs) / 256 = leValue bs := by omega
    have hmod : (b.toNat + 256 * leValue bs).toUInt8 = b := by
      apply UInt8.toNat.inj
      simp [Nat.toUInt8]
    rw [List.length_cons,leBytes,leValue_cons,hdiv,hmod,leBytes_leValue bs]

theorem take_leBytes : ∀ {k w : Nat} (n : Nat), k ≤ w → (leBytes w n).take k = leBytes k n
  | 0, _, n, _ => by simp [leBytes]
  | k + 1, w + 1, n, h => by simp [leBytes,take_leBytes (n / 256) (Nat.le_of_succ_le_succ h)]
  | _ + 1, 0, _, h => absurd h (by omega)

theorem leValue_append : ∀ bs cs : List UInt8,
    leValue (bs ++ cs) = leValue bs + 256 ^ bs.length * leValue cs
  | [], cs => by simp
  | b :: bs, cs => by
    rw [List.cons_append,leValue_cons,leValue_append bs cs,leValue_cons,List.length_cons,Nat.pow_succ']
    rw [Nat.mul_add,Nat.mul_assoc]
    omega

end SandboxedApi.Bytes
