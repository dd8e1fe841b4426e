import RecursiveMatrix.Proofs.Binary32.Error
import RecursiveMatrix.Proofs.Binary32.Grid

namespace RecursiveMatrix.Binary32

variable {a b c : ℚ} {f g k : Float32}

/-- The sum of three numbers, rounded after each addition. -/
def total (a b c : ℚ) : ℚ := nearest (nearest (a + b) + c)

/-- What three numbers leave of one, rounded after each subtraction. -/
def remainder (a b c : ℚ) : ℚ := nearest (nearest (nearest (1 - a) - b) - c)

theorem value?_remainder (hf : value? f = some a) (hg : value? g = some b) (hk : value? k = some c)
    (ha : 0 ≤ a) (hb : 0 ≤ b) (hc : 0 ≤ c) (h : a + b + c ≤ 3 / 2) :
    value? (1 - f - g - k) = some (remainder a b c) ∧
      |remainder a b c - (1 - a - b - c)| ≤ 3 / 2 ^ 25 := by
  have hx : |1 - a| ≤ 1 := abs_le.2 ⟨by linarith, by linarith⟩
  have hxe := abs_le.1 (nearest_error_one hx)
  have hx1 : nearest (1 - a) ≤ 1 := nearest_le representable_one (by linarith)
  have hy : |nearest (1 - a) - b| ≤ 1 := abs_le.2 ⟨by linarith, by linarith⟩
  have hye := abs_le.1 (nearest_error_one hy)
  have hy1 : nearest (nearest (1 - a) - b) ≤ 1 := nearest_le representable_one (by linarith)
  have hz : |nearest (nearest (1 - a) - b) - c| ≤ 1 := abs_le.2 ⟨by linarith, by linarith⟩
  have hze := abs_le.1 (nearest_error_one hz)
  have hvx := value?_sub value?_one hf (nearest_lt_top (hx.trans (by norm_num)))
  have hvy := value?_sub hvx hg (nearest_lt_top (hy.trans (by norm_num)))
  refine ⟨value?_sub hvy hk (nearest_lt_top (hz.trans (by norm_num))), abs_le.2 ⟨?_, ?_⟩⟩ <;>
    rw [remainder] <;> linarith

theorem total_le_one (ha : 0 ≤ a) (hb : 0 ≤ b) (hc : 0 ≤ c) (h : a + b + c ≤ 1) : total a b c ≤ 1 := by
  have hs := nearest_between_one (x := a + b) (by linarith) (by linarith)
  have hs0 : 0 ≤ nearest (a + b) := nearest_nonneg (add_nonneg ha hb)
  have ht := nearest_between_two (x := nearest (a + b) + c) (by linarith) (by linarith)
  by_contra hlt
  -- above one the next single is `2 ^ (-23)` away, which is more than the two roundings can add
  have hgrid : Multiple (-23) (total a b c) :=
    (representable_nearest _).multiple (le_trans (by norm_num) (not_le.1 hlt).le)
  have hnext := (show Multiple (-23) 1 from ⟨2 ^ 23, by norm_num⟩).add_le hgrid (not_le.1 hlt)
  norm_num [total] at hnext
  linarith

theorem nearest_one_sub (ha : Representable a) (h : 1 / 2 ≤ a) (h1 : a ≤ 1) : nearest (1 - a) = 1 - a := by
  refine nearest_of_representable ((multiple_one.sub (ha.multiple_half h)).representable (by norm_num) ?_)
  rw [abs_of_nonneg (by linarith)]
  norm_num
  linarith

/-- Two numbers that add up to more than one leave no less than the sum was rounded down by. -/
theorem complement_of_one_lt (ha : Representable a) (hb : Representable b) (ha1 : a ≤ 1) (hb1 : b ≤ 1)
    (h1 : 1 < a + b) (h : a + b ≤ 1 + 1 / 2 ^ 24) : -(1 / 2 ^ 24) ≤ nearest (nearest (1 - a) - b) := by
  refine le_nearest representable_unit.neg ?_
  rcases le_or_gt (1 / 2) a with ha2 | ha2
  · rw [nearest_one_sub ha ha2 ha1]
    linarith
  · have hunit : Multiple (-24) (1 / 2 ^ 24) := ⟨1, by norm_num⟩
    have hless : Representable (b - 1 / 2 ^ 24) := by
      refine ((hb.multiple_half (by linarith)).sub hunit).representable (by norm_num) ?_
      rw [abs_of_nonneg (by linarith)]
      norm_num
      linarith
    linarith [le_nearest hless (by linarith : b - 1 / 2 ^ 24 ≤ 1 - a)]

theorem sum_complement_of_half_le (ha : Representable a) (h : 1 / 2 ≤ a) (hb : 0 ≤ b) (h1 : a + b ≤ 1) :
    1 - 1 / 2 ^ 24 ≤ nearest (a + b) + nearest (nearest (1 - a) - b) := by
  have hs := nearest_between_one (x := a + b) (by linarith) h1
  have hy := nearest_between_one (x := 1 - a - b) (by linarith) (by linarith)
  rw [nearest_one_sub ha h (by linarith)]
  linarith

theorem sum_complement_of_exact (ha : 0 ≤ a) (hb : 0 ≤ b) (h1 : a + b ≤ 1)
    (h : Representable (nearest (1 - a) - b)) :
    1 - 1 / 2 ^ 24 ≤ nearest (a + b) + nearest (nearest (1 - a) - b) := by
  have hs := nearest_between_one (x := a + b) (by linarith) h1
  have hx := nearest_between_one (x := 1 - a) (by linarith) (by linarith)
  rw [nearest_of_representable h]
  linarith

theorem sum_complement_lt (ha : 0 ≤ a) (hb : 0 ≤ b) (h1 : a + b ≤ 1)
    (h : 1 / 4 ≤ nearest (1 - a) - b) :
    1 - 3 / 2 ^ 25 < nearest (a + b) + nearest (nearest (1 - a) - b) := by
  have hx := nearest_between_one (x := 1 - a) (by linarith) (by linarith)
  have hx1 : nearest (1 - a) ≤ 1 := nearest_le representable_one (by linarith)
  have hs := nearest_between_one (x := a + b) (by linarith) h1
  have hy := nearest_between_one (x := nearest (1 - a) - b) (by linarith) (by linarith)
  -- one of the three roundings is of a number up to a half, and so off by half as much
  rcases le_or_gt (nearest (1 - a) - b) (1 / 2) with hy2 | hy2
  · have hy := nearest_between_half (x := nearest (1 - a) - b) (by linarith) hy2
    linarith
  · rcases le_or_gt (a + b) (1 / 2) with hs2 | hs2
    · have hs := nearest_between_half (x := a + b) (by linarith) hs2
      linarith
    · linarith [le_nearest representable_half hy2.le]

theorem sum_complement_of_lt_half (hb : Representable b) (ha0 : 0 ≤ a) (hb0 : 0 ≤ b) (h : a < 1 / 2)
    (h1 : a + b ≤ 1) :
    1 - 1 / 2 ^ 24 ≤ nearest (a + b) + nearest (nearest (1 - a) - b) ∨
      1 / 4 ≤ nearest (nearest (1 - a) - b) ∧
        1 - 3 / 2 ^ 25 < nearest (a + b) + nearest (nearest (1 - a) - b) := by
  have hx := nearest_between_one (x := 1 - a) (by linarith) (by linarith)
  have hx2 : 1 / 2 ≤ nearest (1 - a) := le_nearest representable_half (by linarith)
  have hx1 : nearest (1 - a) ≤ 1 := nearest_le representable_one (by linarith)
  have hxr := representable_nearest (1 - a)
  rcases le_or_gt (1 / 4) (nearest (1 - a) - b) with h4 | h4
  · exact .inr ⟨le_nearest representable_quarter h4, sum_complement_lt ha0 hb0 h1 h4⟩
  · -- less than a quarter is left of two numbers on the same grid
    refine .inl (sum_complement_of_exact ha0 hb0 h1 (((hxr.multiple_quarter (by linarith)).sub
      (hb.multiple_quarter (by linarith))).representable (by norm_num) (abs_lt.2 ⟨?_, ?_⟩))) <;>
      norm_num <;> linarith

theorem sum_complement (ha : Representable a) (hb : Representable b) (ha0 : 0 ≤ a) (hb0 : 0 ≤ b)
    (hs : nearest (a + b) ≤ 1) :
    1 - 1 / 2 ^ 24 ≤ nearest (a + b) + nearest (nearest (1 - a) - b) ∨
      1 / 4 ≤ nearest (nearest (1 - a) - b) ∧
        1 - 3 / 2 ^ 25 < nearest (a + b) + nearest (nearest (1 - a) - b) := by
  have ha1 : a ≤ 1 := (le_nearest ha (by linarith)).trans hs
  have hb1 : b ≤ 1 := (le_nearest hb (by linarith)).trans hs
  rcases le_or_gt (a + b) 1 with h1 | h1
  · rcases le_or_gt (1 / 2) a with ha2 | ha2
    · exact .inl (sum_complement_of_half_le ha ha2 hb0 h1)
    · exact sum_complement_of_lt_half hb ha0 hb0 ha2 h1
  · have hsum := nearest_between_two (x := a + b) (by linarith) (by linarith)
    have hy := complement_of_one_lt ha hb ha1 hb1 h1 (by linarith)
    exact .inl (by linarith [le_nearest representable_one h1.le])

/-- What is left may be below zero, but by no more than the sum may be above one. -/
theorem remainder_ge (ha : Representable a) (hb : Representable b) (hc : Representable c) (ha0 : 0 ≤ a)
    (hb0 : 0 ≤ b) (hc0 : 0 ≤ c) (h : total a b c ≤ 1) : -(1 / 2 ^ 23) ≤ remainder a b c := by
  have hs0 : 0 ≤ nearest (a + b) := nearest_nonneg (add_nonneg ha0 hb0)
  have hs1 : nearest (a + b) ≤ 1 := (le_nearest (representable_nearest _) (by linarith)).trans h
  have hc1 : c ≤ 1 := (le_nearest hc (by linarith)).trans h
  have ht := nearest_between_two (x := nearest (a + b) + c) (by linarith) (by linarith)
  have hstep : Representable (1 / 2 ^ 23) := by
    have hr := representable_scale (e := -23) (by norm_num)
    norm_num at hr ⊢
    exact hr
  rw [total] at h
  refine le_nearest hstep.neg ?_
  rcases sum_complement ha hb ha0 hb0 hs1 with hsum | ⟨hy4, hsum⟩
  · linarith
  · rcases le_or_gt c (nearest (nearest (1 - a) - b)) with hy | hy
    · linarith
    · -- both are on one grid, and less than five of its steps apart
      have hgrid := (hc.multiple_quarter (hy4.trans hy.le)).sub ((representable_nearest _).multiple_quarter hy4)
      have hnext := hgrid.add_le (show Multiple (-25) (5 / 2 ^ 25) from ⟨5, by norm_num⟩) (by linarith)
      norm_num at hnext ⊢
      linarith

/-- Where nothing is left the sum leaves room for no single below one. -/
theorem total_ge_of_remainder_nonpos (ha : Representable a) (hb : Representable b) (hc : Representable c)
    (ha0 : 0 ≤ a) (hb0 : 0 ≤ b) (hc0 : 0 ≤ c) (h : total a b c ≤ 1) (hr : remainder a b c ≤ 0) :
    1 - 1 / 2 ^ 24 ≤ total a b c := by
  have hs1 : nearest (a + b) ≤ 1 := (le_nearest (representable_nearest _) (by linarith)).trans h
  have hy : nearest (nearest (1 - a) - b) ≤ c := by
    by_contra hlt
    have hnext := hc.multiple_least.add_le (representable_nearest _).multiple_least (not_le.1 hlt)
    have hleast := le_nearest (representable_scale le_rfl)
      (by linarith : (2 : ℚ) ^ (-149 : ℤ) ≤ nearest (nearest (1 - a) - b) - c)
    rw [remainder] at hr
    linarith [scale_pos (-149)]
  rcases le_or_gt (1 - 1 / 2 ^ 24) (nearest (a + b) + c) with hle | hlt
  · exact le_nearest one_sub_unit hle
  · have hsum : 1 - 3 / 2 ^ 25 < nearest (a + b) + c := by
      rcases sum_complement ha hb ha0 hb0 hs1 with hsum | ⟨-, hsum⟩ <;> linarith
    have ht := nearest_between_one (x := nearest (a + b) + c) (by linarith) (by linarith)
    have hgt : 1 - 2 / 2 ^ 24 < total a b c := by
      rw [total]
      linarith
    have hgrid : Multiple (-24) (total a b c) := (representable_nearest _).multiple_half (by linarith)
    have hnext := (show Multiple (-24) (1 - 2 / 2 ^ 24) from ⟨2 ^ 24 - 2, by norm_num⟩).add_le hgrid hgt
    norm_num at hnext ⊢
    linarith

end RecursiveMatrix.Binary32
