import Mathlib.Algebra.Group.Nat.Defs
import QueryGateway.Number.Basic

/-!
Integers that are binary64 numbers.

A magnitude that is a multiple of the spacing around it is not rounded.  So integers of
magnitude at most `2 ^ 53` keep their value, and order tells any two of them apart.  The bound
is sharp: `2 ^ 53 + 1` is rounded to `2 ^ 53`.
-/

namespace QueryGateway

namespace Binary64

theorem spacing_pos (units : Nat) : 0 < spacing units := Nat.two_pow_pos _

theorem nearestMultiple_of_dvd {num step : Nat} (hstep : 0 < step) (h : step ∣ num) :
    nearestMultiple num step * step = num := by
  have hrem : num % step = 0 := Nat.mod_eq_zero_of_dvd h
  have hcond : 2 * (num % step) < step ∨
      2 * (num % step) = step ∧ num / step % 2 = 0 := by omega
  simp only [nearestMultiple, if_pos hcond]
  exact Nat.div_mul_cancel h

theorem nearest_of_dvd {num : Nat} (h : spacing num ∣ num) : nearest num 1 = num := by
  simp only [nearest, Nat.div_one, Nat.one_mul]
  exact nearestMultiple_of_dvd (spacing_pos num) h

/-- Magnitudes of at most 53 significant bits are multiples of their spacing. -/
theorem spacing_dvd {k : Nat} (h : k ≤ 2 ^ 53) (e : Nat) : spacing (k * 2 ^ e) ∣ k * 2 ^ e := by
  rcases Nat.eq_zero_or_pos k with rfl | hpos
  · rw [Nat.zero_mul]
    exact Nat.dvd_zero _
  rcases Nat.lt_or_eq_of_le h with hlt | rfl
  · have hne : k * 2 ^ e ≠ 0 := Nat.ne_of_gt (Nat.mul_pos hpos (Nat.two_pow_pos e))
    have hbound : k * 2 ^ e < 2 ^ (53 + e) := by
      rw [Nat.pow_add]
      exact Nat.mul_lt_mul_of_pos_right hlt (Nat.two_pow_pos e)
    have hlog : (k * 2 ^ e).log2 < 53 + e := (Nat.log2_lt hne).mpr hbound
    have hdvd : 2 ^ ((k * 2 ^ e).log2 - 52) ∣ 2 ^ e := Nat.pow_dvd_pow 2 (by omega)
    exact Nat.dvd_trans hdvd (Nat.dvd_mul_left _ _)
  · rw [spacing, ← Nat.pow_add, Nat.log2_two_pow]
    exact Nat.pow_dvd_pow 2 (by omega)

theorem exists_one_eq : ∃ e, one = Nat.pow 2 e := by
  refine ⟨1074, ?_⟩
  unfold one
  -- The power itself is too large to be computed.
  with_reducible rfl

theorem one_pos : 0 < one := by
  obtain ⟨e, he⟩ := exists_one_eq
  rw [he]
  exact Nat.two_pow_pos e

theorem nearest_of_le {k : Nat} (h : k ≤ 2 ^ 53) : nearest (k * one) 1 = k * one := by
  obtain ⟨e, he⟩ := exists_one_eq
  rw [he]
  exact nearest_of_dvd (spacing_dvd h e)

theorem toInt_ofInt {n : Int} (h : n.natAbs ≤ 2 ^ 53) : (ofInt n).toInt = n * (one : Nat) := by
  have hmul : ((n.natAbs * one : Nat) : Int) = n.natAbs * (one : Nat) := Int.natCast_mul _ _
  simp only [toInt, ofInt, nearest_of_le h, decide_eq_true_eq, hmul]
  by_cases hneg : n < 0
  · have habs : (n.natAbs : Int) = -n := by omega
    rw [if_pos hneg, habs, Int.neg_mul, Int.neg_neg]
  · have habs : (n.natAbs : Int) = n := by omega
    rw [if_neg hneg, habs]

end Binary64

namespace Number

theorem order_eq_iff (a b : Number) :
    a.order b = .eq ↔ a.toBinary64.toInt = b.toBinary64.toInt := by
  rw [order, Binary64.order, Std.compare_eq_iff_eq]

/-- Integers that fit in 53 bits are ordered as equal only if they are. -/
theorem eq_of_order_eq {m n : Int} (hm : m.natAbs ≤ 2 ^ 53) (hn : n.natAbs ≤ 2 ^ 53)
    (h : (int m).order (int n) = .eq) : m = n := by
  have hunits : m * (Binary64.one : Nat) = n * (Binary64.one : Nat) := by
    rw [← Binary64.toInt_ofInt hm, ← Binary64.toInt_ofInt hn]
    exact (order_eq_iff _ _).mp h
  have hone : ((Binary64.one : Nat) : Int) ≠ 0 :=
    Int.natCast_ne_zero.mpr (Nat.ne_of_gt Binary64.one_pos)
  exact Int.eq_of_mul_eq_mul_right hone hunits

end Number
end QueryGateway
