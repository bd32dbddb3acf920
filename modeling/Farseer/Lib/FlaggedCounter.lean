import Mathlib

/-! A counter that shares its machine word with a flag. The flag is the top bit and the counter is in the
bits below, so that one atomic access reads or writes both. As long as the counter does not outgrow its
bits and is not decremented at zero, neither of them disturbs the other. -/

namespace FlaggedCounter

variable {w : ℕ}

/-- The word in which only the flag is set. -/
def flagBit (w : ℕ) : BitVec (w + 1) := 1#(w + 1) <<< w

def isFlagged (x : BitVec (w + 1)) : Bool := x &&& flagBit w != 0

/-- What the bits below the flag hold. -/
def lowBits (x : BitVec (w + 1)) : ℕ := x.toNat % 2 ^ w

/-- The word holds a flag and a count. -/
structure Holds (x : BitVec (w + 1)) (flag : Bool) (n : ℕ) : Prop where
  toNat : x.toNat = (if flag then 2 ^ w else 0) + n
  fits : n < 2 ^ w

theorem toNat_flagBit : (flagBit w).toNat = 2 ^ w := by
  have hlt : 2 ^ w < 2 ^ (w + 1) := Nat.pow_lt_pow_right (by omega) (by omega)
  simp [flagBit, Nat.shiftLeft_eq, Nat.mod_eq_of_lt hlt]

theorem toNat_one : (1 : BitVec (w + 1)).toNat = 1 := by simp

namespace Holds

variable {x : BitVec (w + 1)} {flag : Bool} {n : ℕ}

theorem zero : Holds (0 : BitVec (w + 1)) false 0 := ⟨by simp, by positivity⟩

theorem lowBits_eq (h : Holds x flag n) : lowBits x = n := by
  unfold lowBits
  rw [h.toNat]
  cases flag
  · simpa using Nat.mod_eq_of_lt h.fits
  · simpa using Nat.mod_eq_of_lt h.fits

theorem increment (h : Holds x flag n) (hroom : n + 1 < 2 ^ w) : Holds (x + 1) flag (n + 1) := by
  refine ⟨?_, hroom⟩
  have hx := h.toNat
  rw [BitVec.toNat_add, toNat_one, Nat.mod_eq_of_lt]
  · omega
  · rw [hx, pow_succ]
    split_ifs <;> omega

theorem decrement (h : Holds x flag (n + 1)) : Holds (x - 1) flag n := by
  have hx := h.toNat
  have hfits := h.fits
  refine ⟨?_, by omega⟩
  rw [BitVec.toNat_sub, toNat_one, hx, pow_succ]
  have hsum : 2 ^ w * 2 - 1 + ((if flag then 2 ^ w else 0) + (n + 1)) =
      2 ^ w * 2 + ((if flag then 2 ^ w else 0) + n) := by omega
  rw [hsum, Nat.add_mod_left, Nat.mod_eq_of_lt]
  split_ifs <;> omega

theorem setFlag (h : Holds x flag n) : Holds (x ||| flagBit w) true n := by
  have hor : 2 ^ w ||| n = 2 ^ w + n := by
    simpa using (Nat.two_pow_add_eq_or_of_lt h.fits 1).symm
  refine ⟨?_, h.fits⟩
  rw [BitVec.toNat_or, toNat_flagBit, h.toNat, if_pos rfl]
  cases flag
  · rw [if_neg Bool.false_ne_true, zero_add, Nat.lor_comm, hor]
  · rw [if_pos rfl, ← hor, Nat.lor_comm, ← Nat.lor_assoc, Nat.or_self]

theorem isFlagged_eq (h : Holds x flag n) : isFlagged x = flag := by
  have hbit : x.toNat.testBit w = flag := by
    rw [h.toNat]
    cases flag
    · simpa using Nat.testBit_lt_two_pow h.fits
    · rw [if_pos rfl, Nat.testBit_two_pow_add_eq, Nat.testBit_lt_two_pow h.fits, Bool.not_false]
  have hand : (x &&& flagBit w).toNat = flag.toNat * 2 ^ w := by
    rw [BitVec.toNat_and, toNat_flagBit, Nat.and_two_pow, hbit]
  have hzero : x &&& flagBit w = 0 ↔ flag = false := by
    rw [← BitVec.toNat_inj, hand]
    cases flag <;> simp
  unfold isFlagged
  cases flag
  · simp [hzero.mpr rfl]
  · simpa using hzero.not.mpr (by decide)

theorem eq_flagBit (h : Holds x flag n) : x = flagBit w ↔ flag = true ∧ n = 0 := by
  have hfits := h.fits
  rw [← BitVec.toNat_inj, toNat_flagBit, h.toNat]
  cases flag
  · simp only [Bool.false_eq_true, if_false, false_and, iff_false]
    omega
  · simp

end Holds

end FlaggedCounter
