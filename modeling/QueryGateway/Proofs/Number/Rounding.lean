import QueryGateway.Proofs.Number.Exact

/-!
Rounding integers to binary64.

Rounding goes to the nearest multiple of a spacing, so it never passes a multiple.  Hence it keeps
order (`nearest_mono`), and moves a magnitude by half a spacing at most (`nearest_near`).  Two
integers can become equal by it, but they do not change places: order compares integers as they
are, unless they collide (`order_int`).  A sum is rounded once more (`exists_add?_ofInt`).
-/

namespace QueryGateway

namespace Binary64

variable {num num' step bound : Nat}

/-! ## Multiples -/

theorem nearestMultiple_mono (h : num ≤ num') (step : Nat) :
    nearestMultiple num step ≤ nearestMultiple num' step := by
  have hquotient : num / step ≤ num' / step := Nat.div_le_div_right h
  have hnum := Nat.div_add_mod num step
  have hnum' := Nat.div_add_mod num' step
  simp only [nearestMultiple]
  rcases Nat.lt_or_eq_of_le hquotient with hlt | heq
  · split <;> split <;> omega
  · -- The quotients are equal, so the remainders are in order.
    rw [heq] at hnum ⊢
    split <;> split <;> omega

theorem nearestMultiple_mul (hstep : 0 < step) (k : Nat) : nearestMultiple (k * step) step = k :=
  Nat.eq_of_mul_eq_mul_right hstep (nearestMultiple_of_dvd hstep (Nat.dvd_mul_left step k))

theorem nearest_one (num : Nat) :
    nearest num 1 = nearestMultiple num (spacing num) * spacing num := by
  simp only [nearest, Nat.div_one, Nat.one_mul]

/-- Rounding up stops at a multiple of the spacing. -/
theorem nearest_le_of_dvd (h : num ≤ bound) (hdvd : spacing num ∣ bound) :
    nearest num 1 ≤ bound := by
  obtain ⟨k, rfl⟩ := hdvd
  rw [nearest_one, Nat.mul_comm (spacing num) k]
  rw [Nat.mul_comm] at h
  refine Nat.mul_le_mul_right _ ?_
  calc nearestMultiple num (spacing num)
      ≤ nearestMultiple (k * spacing num) (spacing num) := nearestMultiple_mono h _
    _ = k := nearestMultiple_mul (spacing_pos num) k

theorem le_nearest_of_dvd (h : bound ≤ num) (hdvd : spacing num ∣ bound) :
    bound ≤ nearest num 1 := by
  obtain ⟨k, rfl⟩ := hdvd
  rw [nearest_one, Nat.mul_comm (spacing num) k]
  rw [Nat.mul_comm] at h
  refine Nat.mul_le_mul_right _ ?_
  calc k = nearestMultiple (k * spacing num) (spacing num) :=
        (nearestMultiple_mul (spacing_pos num) k).symm
    _ ≤ nearestMultiple num (spacing num) := nearestMultiple_mono h _

/-! ## Magnitudes -/

theorem spacing_dvd_pow {e : Nat} (h : num.log2 ≤ e) : spacing num ∣ 2 ^ e :=
  Nat.pow_dvd_pow 2 (by omega)

theorem nearest_between (hnum : num ≠ 0) :
    2 ^ num.log2 ≤ nearest num 1 ∧ nearest num 1 ≤ 2 ^ (num.log2 + 1) :=
  ⟨le_nearest_of_dvd (Nat.log2_self_le hnum) (spacing_dvd_pow (Nat.le_refl _)),
    nearest_le_of_dvd (Nat.le_of_lt Nat.lt_log2_self) (spacing_dvd_pow (Nat.le_succ _))⟩

theorem nearest_mono (h : num ≤ num') : nearest num 1 ≤ nearest num' 1 := by
  by_cases hnum : num = 0
  · subst hnum
    have hzero : nearest 0 1 = 0 := nearest_of_dvd (Nat.dvd_zero _)
    rw [hzero]
    exact Nat.zero_le _
  have hnum' : num' ≠ 0 := by omega
  have hlog : num.log2 ≤ num'.log2 :=
    (Nat.le_log2 hnum').mpr (Nat.le_trans (Nat.log2_self_le hnum) h)
  rcases Nat.lt_or_eq_of_le hlog with hlt | heq
  · calc nearest num 1 ≤ 2 ^ (num.log2 + 1) := (nearest_between hnum).2
      _ ≤ 2 ^ num'.log2 := Nat.pow_le_pow_right Nat.two_pos hlt
      _ ≤ nearest num' 1 := (nearest_between hnum').1
  · have hspacing : spacing num = spacing num' := by rw [spacing, spacing, heq]
    rw [nearest_one, nearest_one, hspacing]
    exact Nat.mul_le_mul_right _ (nearestMultiple_mono h _)

/-- Rounding moves a magnitude by half a spacing at most. -/
theorem nearest_near (num : Nat) :
    2 * nearest num 1 ≤ 2 * num + spacing num ∧ 2 * num ≤ 2 * nearest num 1 + spacing num := by
  have hdiv := Nat.div_add_mod' num (spacing num)
  have hmod := Nat.mod_lt num (spacing_pos num)
  have hnext := Nat.add_one_mul (num / spacing num) (spacing num)
  rw [nearest_one]
  simp only [nearestMultiple]
  split <;> omega

/-! ## Integers -/

theorem toInt_ofInt_mono {m n : Int} (h : m ≤ n) : (ofInt m).toInt ≤ (ofInt n).toInt := by
  simp only [toInt, ofInt, decide_eq_true_eq]
  split <;> split
  · have hmono := nearest_mono (Nat.mul_le_mul_right one (by omega : n.natAbs ≤ m.natAbs))
    omega
  · omega
  · omega
  · have hmono := nearest_mono (Nat.mul_le_mul_right one (by omega : m.natAbs ≤ n.natAbs))
    omega

theorem spacing_le {e : Nat} (h : num < 2 ^ (53 + e)) : spacing num ≤ 2 ^ e := by
  refine Nat.pow_le_pow_right Nat.two_pos ?_
  by_cases hzero : num = 0
  · have hlog : Nat.log2 0 = 0 := rfl
    rw [hzero, hlog]
    omega
  · have hlog := (Nat.log2_lt hzero).mpr h
    omega

theorem nearest_near_of_lt (bits : Nat) (h : num < 2 ^ (53 + bits) * one) :
    2 * nearest num 1 ≤ 2 * num + 2 ^ bits * one ∧
      2 * num ≤ 2 * nearest num 1 + 2 ^ bits * one := by
  obtain ⟨e, he⟩ := exists_one_eq
  have hspacing : spacing num ≤ 2 ^ bits * one := by
    rw [he] at h ⊢
    refine Nat.le_trans (spacing_le (e := bits + e) ?_) (Nat.le_of_eq (Nat.pow_add ..))
    rwa [← Nat.add_assoc, Nat.pow_add]
  have hnear := nearest_near num
  omega

theorem toInt_ofInt_near {n : Int} (h : n.natAbs < 2 ^ 64) :
    2 * (n * (one : Nat) - (ofInt n).toInt).natAbs ≤ 2 ^ 11 * one := by
  have hnear := nearest_near_of_lt 11 (Nat.mul_lt_mul_of_pos_right h one_pos)
  have hmul : ((n.natAbs * one : Nat) : Int) = n.natAbs * (one : Nat) := Int.natCast_mul _ _
  simp only [toInt, ofInt, decide_eq_true_eq]
  split
  · have habs : (n.natAbs : Int) = -n := by omega
    rw [habs, Int.neg_mul] at hmul
    omega
  · have habs : (n.natAbs : Int) = n := by omega
    rw [habs] at hmul
    omega

/-! ## Sums -/

theorem lt_limit (h : num < 2 ^ 70 * one) : num < limit := by
  have hone : ∃ e, one = Nat.pow 2 e ∧ ∃ most, limit = Nat.pow 2 most ∧ 70 + e ≤ most := by
    refine ⟨1074, ?_, 2098, ?_, by decide⟩
    · unfold one
      with_reducible rfl
    · unfold limit
      with_reducible rfl
  obtain ⟨e, he, most, hmost, hle⟩ := hone
  rw [he] at h
  rw [hmost]
  refine Nat.lt_of_lt_of_le h ?_
  show 2 ^ 70 * 2 ^ e ≤ 2 ^ most
  rw [← Nat.pow_add]
  exact Nat.pow_le_pow_right Nat.two_pos hle

/-- A sum that is finite is the exact one, rounded. -/
theorem of_add? {x y z : Binary64} (h : x.add? y = some z) :
    z.toInt = (x.toInt + y.toInt).sign * nearest (x.toInt + y.toInt).natAbs 1 := by
  simp only [add?, Option.ite_none_right_eq_some, Option.some.injEq] at h
  obtain ⟨-, rfl⟩ := h
  have hzero : nearest 0 1 = 0 := nearest_of_dvd (Nat.dvd_zero _)
  generalize x.toInt + y.toInt = sum
  rcases Int.lt_trichotomy sum 0 with hneg | rfl | hpos
  · simp [toInt, hneg, Int.ne_of_lt hneg, Int.sign_eq_neg_one_of_neg hneg]
  · simp [toInt, hzero]
  · have hnot : ¬sum < 0 := by omega
    simp [toInt, hnot, Int.ne_of_gt hpos, Int.sign_eq_one_of_pos hpos]

/-- Two integers of 64 bits have a finite sum as binary64 numbers, which is near their sum. -/
theorem exists_add?_ofInt {m n : Int} (hm : m.natAbs < 2 ^ 64) (hn : n.natAbs < 2 ^ 64) :
    ∃ x, (ofInt m).add? (ofInt n) = some x ∧
      ((m + n) * (one : Nat) - x.toInt).natAbs ≤ 2 ^ 13 * one := by
  have hm' := toInt_ofInt_near hm
  have hn' := toInt_ofInt_near hn
  have hmul : (m + n) * (one : Nat) = m * (one : Nat) + n * (one : Nat) := Int.add_mul _ _ _
  have hmabs : (m * (one : Nat)).natAbs = m.natAbs * one := by
    rw [Int.natAbs_mul, Int.natAbs_natCast]
  have hnabs : (n * (one : Nat)).natAbs = n.natAbs * one := by
    rw [Int.natAbs_mul, Int.natAbs_natCast]
  have hmlt := Nat.mul_lt_mul_of_pos_right hm one_pos
  have hnlt := Nat.mul_lt_mul_of_pos_right hn one_pos
  generalize hsum : (ofInt m).toInt + (ofInt n).toInt = sum at *
  have hbound : sum.natAbs < 2 ^ (53 + 13) * one := by omega
  have hnear := nearest_near_of_lt 13 hbound
  have hadd : ∃ x, (ofInt m).add? (ofInt n) = some x := by
    have hfinite : nearest sum.natAbs 1 < limit := lt_limit (by omega)
    refine Option.ne_none_iff_exists'.mp fun hnone => ?_
    simp only [add?, hsum, if_pos hfinite] at hnone
    cases hnone
  obtain ⟨x, hx⟩ := hadd
  have hrounded := of_add? hx
  rw [hsum] at hrounded
  refine ⟨x, hx, ?_⟩
  rw [hmul, hrounded]
  rcases Int.lt_trichotomy sum 0 with hneg | hzero | hpos
  · rw [Int.sign_eq_neg_one_of_neg hneg]
    omega
  · rw [hzero, Int.sign_zero, Int.zero_mul]
    omega
  · rw [Int.sign_eq_one_of_pos hpos]
    omega

end Binary64

namespace Number

/-- Whether two integers are different and have the same nearest binary64 number. -/
def Collide (m n : Int) : Prop :=
  m ≠ n ∧ (Binary64.ofInt m).toInt = (Binary64.ofInt n).toInt

instance (m n : Int) : Decidable (Collide m n) := inferInstanceAs (Decidable (_ ∧ _))

/-- Integers are ordered as they are, unless they collide. -/
theorem order_int (m n : Int) :
    (int m).order (int n) = if Collide m n then .eq else compare m n := by
  have horder : (int m).order (int n) =
      compare (Binary64.ofInt m).toInt (Binary64.ofInt n).toInt := rfl
  rw [horder]
  by_cases hcollide : Collide m n
  · rw [if_pos hcollide]
    exact Std.compare_eq_iff_eq.mpr hcollide.2
  rw [if_neg hcollide]
  by_cases heq : m = n
  · rw [heq, Std.compare_eq_iff_eq.mpr rfl, Std.compare_eq_iff_eq.mpr rfl]
  have hrounded : (Binary64.ofInt m).toInt ≠ (Binary64.ofInt n).toInt := fun h => hcollide ⟨heq, h⟩
  rcases Int.lt_or_gt_of_ne heq with hlt | hgt
  · have hmono := Binary64.toInt_ofInt_mono (Int.le_of_lt hlt)
    rw [Int.compare_eq_lt.mpr hlt, Int.compare_eq_lt.mpr (by omega)]
  · have hmono := Binary64.toInt_ofInt_mono (Int.le_of_lt hgt)
    rw [Int.compare_eq_gt.mpr hgt, Int.compare_eq_gt.mpr (by omega)]

theorem not_collide_of_le {m n : Int} (hm : m.natAbs ≤ 2 ^ 53) (hn : n.natAbs ≤ 2 ^ 53) :
    ¬Collide m n := fun h =>
  h.1 (eq_of_order_eq hm hn ((order_eq_iff _ _).mpr h.2))

theorem natAbs_lt_of_fits {n : Int} (h : fits n) : n.natAbs < 2 ^ 64 := by
  simp only [fits, fitsSigned, fitsUnsigned, Bool.or_eq_true, Bool.and_eq_true,
    decide_eq_true_eq] at h
  have h63 : Int.pow 2 63 = 9223372036854775808 := rfl
  have h64 : Int.pow 2 64 = 18446744073709551616 := rfl
  omega

theorem Collide.near {m n : Int} (h : Collide m n) (hm : fits m) (hn : fits n) :
    (m - n).natAbs ≤ 2 ^ 11 := by
  have hm' := Binary64.toInt_ofInt_near (natAbs_lt_of_fits hm)
  have hn' := Binary64.toInt_ofInt_near (natAbs_lt_of_fits hn)
  rw [h.2] at hm'
  have hdistance : ((m - n) * (Binary64.one : Nat)).natAbs ≤ 2 ^ 11 * Binary64.one := by
    rw [Int.sub_mul]
    omega
  rw [Int.natAbs_mul, Int.natAbs_natCast] at hdistance
  exact Nat.le_of_mul_le_mul_right hdistance Binary64.one_pos

end Number
end QueryGateway
