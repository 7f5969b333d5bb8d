import Mathlib.Algebra.Group.Nat.Defs
import Mathlib.Data.Nat.Log

/-!
# Whole numbers as doubles

The conversion of an unsigned integer to a double of 53 significant bits, to nearest with ties to the even neighbour.
Its result is a whole number again and is given as one. `roundToDouble_mono`: the conversion keeps the order.
-/

namespace ENavigator

/-- The multiple of `step` nearest to `n`, the even one of two. -/
def roundTo (step n : Nat) : Nat :=
  if step < 2 * (n % step) ∨ step = 2 * (n % step) ∧ n / step % 2 = 1 then (n / step + 1) * step else n / step * step

/-- A number of `k` bits is rounded to a multiple of `2 ^ (k - 53)`. -/
def roundToDouble (n : Nat) : Nat := roundTo (2 ^ (Nat.log 2 n - 52)) n

theorem roundTo_mul {step : Nat} (hstep : 0 < step) (k : Nat) : roundTo step (k * step) = k * step := by
  unfold roundTo
  rw [Nat.mul_mod_left, Nat.mul_div_cancel k hstep, if_neg]
  omega

theorem roundTo_mono (step : Nat) {a b : Nat} (h : a ≤ b) : roundTo step a ≤ roundTo step b := by
  have hquotient : a / step ≤ b / step := Nat.div_le_div_right h
  have ha := Nat.div_add_mod a step
  have hb := Nat.div_add_mod b step
  rcases Nat.lt_or_ge (a / step) (b / step) with hlt | hge
  · -- the next multiple after `a` is at most the last one up to `b`
    have hup : (a / step + 1) * step ≤ b / step * step := Nat.mul_le_mul_right step hlt
    have hdown : a / step * step ≤ b / step * step := Nat.mul_le_mul_right step hquotient
    have hnext : b / step * step ≤ (b / step + 1) * step := Nat.mul_le_mul_right step (Nat.le_succ _)
    unfold roundTo
    split <;> split <;> omega
  · have heq : a / step = b / step := Nat.le_antisymm hquotient hge
    have hremainder : a % step ≤ b % step := by
      rw [heq] at ha
      omega
    have hnext : b / step * step ≤ (b / step + 1) * step := Nat.mul_le_mul_right step (Nat.le_succ _)
    unfold roundTo
    rw [heq]
    split <;> split <;> omega

/-- Rounding does not pass a power of two. -/
theorem roundToDouble_lt_pow {n k : Nat} (h : n < 2 ^ k) : roundToDouble n ≤ 2 ^ k := by
  rcases Nat.eq_zero_or_pos n with rfl | hn
  · exact Nat.zero_le _
  have hlog : Nat.log 2 n < k := Nat.log_lt_of_lt_pow (Nat.ne_of_gt hn) h
  have hmultiple : 2 ^ k = 2 ^ (k - (Nat.log 2 n - 52)) * 2 ^ (Nat.log 2 n - 52) := by
    rw [← Nat.pow_add]
    congr 1
    omega
  rw [hmultiple] at h ⊢
  have hmono := roundTo_mono (2 ^ (Nat.log 2 n - 52)) (Nat.le_of_lt h)
  rwa [roundTo_mul (Nat.two_pow_pos _)] at hmono

theorem le_roundToDouble_of_pow_le {n k : Nat} (h : 2 ^ k ≤ n) (hlog : k = Nat.log 2 n) : 2 ^ k ≤ roundToDouble n := by
  have hmultiple : 2 ^ k = 2 ^ (k - (Nat.log 2 n - 52)) * 2 ^ (Nat.log 2 n - 52) := by
    rw [← Nat.pow_add]
    congr 1
    omega
  have hmono := roundTo_mono (2 ^ (Nat.log 2 n - 52)) h
  rw [hmultiple, roundTo_mul (Nat.two_pow_pos _)] at hmono
  rwa [hmultiple]

theorem roundToDouble_mono {a b : Nat} (h : a ≤ b) : roundToDouble a ≤ roundToDouble b := by
  have hlog : Nat.log 2 a ≤ Nat.log 2 b := Nat.log_mono_right h
  rcases Nat.lt_or_ge (Nat.log 2 a) (Nat.log 2 b) with hlt | hge
  · have hb : b ≠ 0 := by
      rintro rfl
      simp at hlt
    calc roundToDouble a
        ≤ 2 ^ (Nat.log 2 a + 1) := roundToDouble_lt_pow (Nat.lt_pow_succ_log_self (by decide) a)
      _ ≤ 2 ^ Nat.log 2 b := Nat.pow_le_pow_right (by decide) hlt
      _ ≤ roundToDouble b := le_roundToDouble_of_pow_le (Nat.pow_log_le_self 2 hb) rfl
  · have heq : Nat.log 2 a = Nat.log 2 b := Nat.le_antisymm hlog hge
    unfold roundToDouble
    rw [heq]
    exact roundTo_mono _ h

end ENavigator
