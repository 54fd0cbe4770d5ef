import SandboxedApi.ClassicBpf.Machine

namespace ClassicBpf

theorem toNat_lo32 (v : UInt64) : (lo32 v).toNat = v.toNat % 2 ^ 32 := by
  simp [lo32]

theorem toNat_hi32 (v : UInt64) : (hi32 v).toNat = v.toNat / 2 ^ 32 := by
  have hv := v.toNat_lt
  simp only [hi32,UInt64.toNat_toUInt32,UInt64.toNat_shiftRight,Nat.shiftRight_eq_div_pow]
  simp only [UInt64.reduceToNat, Nat.reduceMod, Nat.reducePow] at *
  omega

theorem toNat_eq_halves (v : UInt64) : v.toNat = (hi32 v).toNat * 2 ^ 32 + (lo32 v).toNat := by
  rw [toNat_hi32,toNat_lo32]
  omega

theorem eq_iff_halves {v x : UInt64} : v = x ↔ hi32 v = hi32 x ∧ lo32 v = lo32 x := by
  constructor
  · rintro rfl
    exact ⟨rfl,rfl⟩
  · rintro ⟨hh,hl⟩
    apply UInt64.toNat_inj.mp
    rw [toNat_eq_halves v,toNat_eq_halves x,hh,hl]

theorem lt_iff_halves {v x : UInt64} :
    v < x ↔ hi32 v < hi32 x ∨ (hi32 v = hi32 x ∧ lo32 v < lo32 x) := by
  have hv := toNat_eq_halves v
  have hx := toNat_eq_halves x
  have hlv := (lo32 v).toNat_lt
  have hlx := (lo32 x).toNat_lt
  rw [UInt64.lt_iff_toNat_lt,UInt32.lt_iff_toNat_lt,UInt32.lt_iff_toNat_lt,← UInt32.toNat_inj]
  simp only [Nat.reducePow] at *
  omega

theorem le_iff_halves {v x : UInt64} :
    v ≤ x ↔ hi32 v < hi32 x ∨ (hi32 v = hi32 x ∧ lo32 v ≤ lo32 x) := by
  have hv := toNat_eq_halves v
  have hx := toNat_eq_halves x
  have hlv := (lo32 v).toNat_lt
  have hlx := (lo32 x).toNat_lt
  rw [UInt64.le_iff_toNat_le,UInt32.lt_iff_toNat_lt,UInt32.le_iff_toNat_le,← UInt32.toNat_inj]
  simp only [Nat.reducePow] at *
  omega

theorem lo32_and (v x : UInt64) : lo32 (v &&& x) = lo32 v &&& lo32 x := by
  apply UInt32.toNat_inj.mp
  rw [UInt32.toNat_and,toNat_lo32,toNat_lo32,toNat_lo32,UInt64.toNat_and,Nat.and_mod_two_pow]

theorem hi32_and (v x : UInt64) : hi32 (v &&& x) = hi32 v &&& hi32 x := by
  apply UInt32.toNat_inj.mp
  rw [UInt32.toNat_and,toNat_hi32,toNat_hi32,toNat_hi32,UInt64.toNat_and,Nat.and_div_two_pow]

theorem and_ne_zero_iff_halves {v x : UInt64} :
    v &&& x ≠ 0 ↔ hi32 v &&& hi32 x ≠ 0 ∨ lo32 v &&& lo32 x ≠ 0 := by
  rw [← hi32_and,← lo32_and]
  constructor
  · intro h
    by_contra hc
    rw [not_or,not_not,not_not] at hc
    exact h (eq_iff_halves.mpr ⟨hc.1,hc.2⟩)
  · rintro (h | h) h0 <;> rw [h0] at h <;> exact h rfl

end ClassicBpf
