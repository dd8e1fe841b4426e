import RecursiveMatrix.Proofs.Binary32.Rounding

namespace RecursiveMatrix.Binary32

variable {m : ℕ} {e k : ℤ} {q r x : ℚ}

/-- A whole number of steps of the size `2 ^ e`. -/
def Multiple (e : ℤ) (r : ℚ) : Prop := ∃ n : ℤ, r = n * 2 ^ e

theorem multiple_one : Multiple (-24) 1 := ⟨2 ^ 24, by norm_num⟩

theorem Multiple.sub (hq : Multiple e q) (hr : Multiple e r) : Multiple e (q - r) := by
  obtain ⟨m, rfl⟩ := hq
  obtain ⟨n, rfl⟩ := hr
  exact ⟨m - n, by rw [Int.cast_sub, sub_mul]⟩

theorem Multiple.add_le (hq : Multiple e q) (hr : Multiple e r) (h : q < r) : q + 2 ^ e ≤ r := by
  obtain ⟨m, rfl⟩ := hq
  obtain ⟨n, rfl⟩ := hr
  have hlt : m < n := by exact_mod_cast lt_of_mul_lt_mul_right h (scale_pos e).le
  have hle : (m : ℚ) + 1 ≤ n := by exact_mod_cast hlt
  calc (m : ℚ) * 2 ^ e + 2 ^ e = (m + 1) * 2 ^ e := by ring
    _ ≤ n * 2 ^ e := mul_le_mul_of_nonneg_right hle (scale_pos e).le

theorem multiple_of_abs (h : |r| = m * 2 ^ k) (he : e ≤ k) : Multiple e r := by
  rw [natCast_mul_scale m he] at h
  rcases abs_choice r with hr | hr <;> rw [hr] at h
  · exact ⟨(m * 2 ^ (k - e).toNat : ℕ), by rw [h, Int.cast_natCast]⟩
  · exact ⟨-(m * 2 ^ (k - e).toNat : ℕ), by rw [Int.cast_neg, neg_mul, Int.cast_natCast, ← h, neg_neg]⟩

theorem Representable.multiple_least (hr : Representable r) : Multiple (-149) r := by
  obtain ⟨m, k, -, hk, habs⟩ := hr
  exact multiple_of_abs habs hk

/-- A single of which the last place may not be smaller. -/
theorem Representable.multiple (hr : Representable r) (h : 2 ^ 23 * 2 ^ e ≤ r) : Multiple e r := by
  obtain ⟨m, k, hm, -, habs⟩ := hr
  refine multiple_of_abs habs (not_lt.1 fun hlt => ?_)
  have hle := h.trans (le_abs_self r)
  rw [habs] at hle
  exact (mul_scale_lt hm hlt).not_ge hle

theorem Representable.multiple_half (hr : Representable r) (h : 1 / 2 ≤ r) : Multiple (-24) r := by
  refine hr.multiple (le_trans ?_ h)
  norm_num

theorem Representable.multiple_quarter (hr : Representable r) (h : 1 / 4 ≤ r) : Multiple (-25) r := by
  refine hr.multiple (le_trans ?_ h)
  norm_num

/-- Below a power of two there is a greatest single. -/
theorem Representable.add_le_scale (hr : Representable r) (h : r < 2 ^ 24 * 2 ^ e) :
    r + 2 ^ e ≤ 2 ^ 24 * 2 ^ e := by
  rcases le_or_gt (2 ^ 23 * 2 ^ e) r with hle | hlt
  · exact (hr.multiple hle).add_le ⟨2 ^ 24, by norm_num⟩ h
  · linarith [scale_pos e]

theorem Representable.le_of_lt_one (hr : Representable r) (h : r < 1) : r ≤ 1 - 1 / 2 ^ 24 := by
  have hle := hr.add_le_scale (e := -24) (by norm_num; exact h)
  norm_num at hle ⊢
  linarith

theorem Representable.le_of_lt_two (hr : Representable r) (h : r < 2) : r ≤ 2 * (1 - 1 / 2 ^ 24) := by
  have hle := hr.add_le_scale (e := -23) (by norm_num; exact h)
  norm_num at hle ⊢
  linarith

theorem Multiple.representable (h : Multiple e r) (he : -149 ≤ e) (hlt : |r| < 2 ^ 24 * 2 ^ e) :
    Representable r := by
  obtain ⟨n, rfl⟩ := h
  have habs : |(n : ℚ) * 2 ^ e| = n.natAbs * 2 ^ e := by
    rw [abs_mul, abs_of_pos (scale_pos e), Nat.cast_natAbs, Int.cast_abs]
  rw [habs] at hlt
  exact ⟨n.natAbs, e, by exact_mod_cast lt_of_mul_lt_mul_right hlt (scale_pos e).le, he, habs⟩

theorem representable_nearestAbs (x : ℚ) : Representable (nearestAbs x) := by
  have hplace : -149 ≤ place x := le_max_right _ _
  have habs : |nearestAbs x| = roundEven (x / 2 ^ place x) * 2 ^ place x :=
    abs_of_nonneg (nearestAbs_nonneg x)
  have hle : roundEven (x / 2 ^ place x) ≤ 2 ^ 24 := by
    apply roundEven_le
    rw [div_le_iff₀ (scale_pos _)]
    exact_mod_cast (lt_scale_place x).le
  rcases hle.lt_or_eq with hlt | heq
  · exact ⟨_, _, hlt, hplace, habs⟩
  · -- one digit too many, and it is a zero
    refine ⟨2 ^ 23, place x + 1, by norm_num, by omega, ?_⟩
    rw [habs, heq, zpow_add_one₀ two_ne_zero]
    push_cast
    ring

theorem representable_nearest (x : ℚ) : Representable (nearest x) := by
  rcases le_or_gt 0 x with h | h
  · rw [nearest_of_nonneg h]
    exact representable_nearestAbs x
  · rw [nearest, if_pos h]
    exact (representable_nearestAbs (-x)).neg

theorem representable_half : Representable (1 / 2) := by
  have hr := representable_scale (e := -1) (by norm_num)
  norm_num at hr ⊢
  exact hr

theorem representable_quarter : Representable (1 / 4) := by
  have hr := representable_scale (e := -2) (by norm_num)
  norm_num at hr ⊢
  exact hr

theorem representable_unit : Representable (1 / 2 ^ 24) := by
  have hr := representable_scale (e := -24) (by norm_num)
  norm_num at hr ⊢
  exact hr

theorem one_sub_unit : Representable (1 - 1 / 2 ^ 24) :=
  ⟨2 ^ 24 - 1, -24, by norm_num, by norm_num, by norm_num⟩

end RecursiveMatrix.Binary32
