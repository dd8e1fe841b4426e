import RecursiveMatrix.Proofs.Binary32.Complement
import RecursiveMatrix.Proofs.Jitter

namespace RecursiveMatrix

namespace Binary32

variable {x q b h s : ℚ}

/-- Halving loses a digit only where the digits have run out. -/
theorem Representable.half (hx : Representable x) (hlow : 1 / 2 ^ 100 ≤ x) : Representable (x / 2) := by
  obtain ⟨m, e, hm, he, habs⟩ := hx
  have hsome : e ≠ -149 := by
    rintro rfl
    have hm' : (m : ℚ) < 2 ^ 24 := by exact_mod_cast hm
    have hlt := mul_lt_mul_of_pos_right hm' (scale_pos (-149))
    rw [← habs] at hlt
    norm_num at hlt hlow
    linarith [le_abs_self x]
  refine ⟨m, e - 1, hm, by omega, ?_⟩
  rw [abs_div, habs, zpow_sub_one₀ two_ne_zero, abs_of_pos two_pos]
  ring

theorem nearest_one_sub_of_lt (h0 : 0 ≤ h) (hlt : h < 1 / 2 ^ 25) : nearest (1 - h) = 1 := by
  have hround := nearest_between_one (x := 1 - h) (by linarith) (by linarith)
  refine (nearest_le representable_one (by linarith)).antisymm (le_of_not_gt fun hless => ?_)
  linarith [(representable_nearest (1 - h)).le_of_lt_one hless]

theorem nearest_one_add_of_lt (h0 : 0 ≤ h) (hlt : h < 1 / 2 ^ 24) : nearest (1 + h) = 1 := by
  have hround := nearest_between_two (x := 1 + h) (by linarith) (by linarith)
  have hone : 1 ≤ nearest (1 + h) := le_nearest representable_one (by linarith)
  have hgrid : Multiple (-23) (nearest (1 + h)) :=
    (representable_nearest _).multiple (le_trans (by norm_num) hone)
  refine hone.antisymm' (le_of_not_gt fun hmore => ?_)
  have hnext := (show Multiple (-23) 1 from ⟨2 ^ 23, by norm_num⟩).add_le hgrid hmore
  norm_num at hnext
  linarith

/-- Whether or not the half is rounded makes no difference beside one. -/
theorem nearest_beside_one (hx : Representable x) (h0 : 0 ≤ x) :
    nearest (1 - nearest (x / 2)) = nearest (1 - x / 2) ∧
      nearest (1 + nearest (x / 2)) = nearest (1 + x / 2) := by
  rcases le_or_gt (1 / 2 ^ 100) x with hlow | hlow
  · rw [nearest_of_representable (hx.half hlow)]
    exact ⟨rfl, rfl⟩
  · have hhalf0 : 0 ≤ nearest (x / 2) := nearest_nonneg (by linarith)
    have hhalf : nearest (x / 2) ≤ x := nearest_le hx (by linarith)
    rw [nearest_one_sub_of_lt hhalf0 (by linarith), nearest_one_add_of_lt hhalf0 (by linarith),
      nearest_one_sub_of_lt (by linarith) (by linarith), nearest_one_add_of_lt (by linarith) (by linarith)]
    exact ⟨rfl, rfl⟩

/-- A sum may be off the exact one by what `b` was rounded up, and still is not rounded above it. -/
theorem nearest_le_of_mirrored (hb : Multiple (-24) b) (hup : 1 - h < b) (h0 : 0 ≤ h) (h1 : h ≤ 1)
    (hs0 : 0 ≤ s) (hs2 : s ≤ 2) (hs : s < 2 - b + 1 / 2 ^ 24) : nearest s ≤ nearest (1 + h) := by
  have hone : 1 ≤ nearest (1 + h) := le_nearest representable_one (by linarith)
  have htop := nearest_between_two (x := 1 + h) (by linarith) (by linarith)
  have hsum := nearest_between_two (x := s) (by linarith) hs2
  by_contra hlt
  have hmore : nearest (1 + h) < nearest s := not_le.1 hlt
  -- from one up the singles are two steps of `b` apart, so the sum is a step above the bound
  have hgrid (y : ℚ) (hy : 1 ≤ nearest y) : Multiple (-23) (nearest y) :=
    (representable_nearest y).multiple (le_trans (by norm_num) hy)
  have hnext := (hgrid _ hone).add_le (hgrid _ (hone.trans hmore.le)) hmore
  have htwo : Multiple (-24) 2 := ⟨2 ^ 25, by norm_num⟩
  have hbound : Multiple (-24) (nearest (1 + h)) := (representable_nearest _).multiple_half (by linarith)
  norm_num at hnext
  have hless := hbound.add_le (htwo.sub hb) (by linarith)
  norm_num at hless
  linarith

theorem nearest_mul_lt (hx : 1 / 2 ^ 24 ≤ x) (hq0 : 0 ≤ q) (hq1 : q ≤ 1 - 1 / 2 ^ 24) :
    nearest (q * x) < x := by
  have hqx : q * x ≤ (1 - 1 / 2 ^ 24) * x := mul_le_mul_of_nonneg_right hq1 (by linarith)
  have hnear := (near_nearest (mul_nonneg hq0 (by linarith : 0 ≤ x))).upper
  norm_num at hx hqx hnear ⊢
  linarith

/-- The two roundings under a factor do not carry it above the upper end of its interval. -/
theorem nearest_factor_le (hx : Representable x) (h0 : 0 ≤ x) (h2 : x ≤ 2) (hq0 : 0 ≤ q)
    (hq1 : q ≤ 1 - 1 / 2 ^ 24) :
    nearest (nearest (1 - x / 2) + nearest (q * x)) ≤ nearest (1 + x / 2) := by
  have hbase0 : 0 ≤ nearest (1 - x / 2) := nearest_nonneg (by linarith)
  have hbase1 : nearest (1 - x / 2) ≤ 1 := nearest_le representable_one (by linarith)
  have hrest0 : 0 ≤ nearest (q * x) := nearest_nonneg (mul_nonneg hq0 h0)
  have hrest : nearest (q * x) ≤ x := nearest_le hx (mul_le_of_le_one_left h0 (by linarith))
  rcases le_or_gt (nearest (1 - x / 2)) (1 - x / 2) with hdown | hup
  · exact nearest_mono (by linarith)
  · -- from one on the half is large enough for the difference to be exact
    have hx1 : x < 1 := by
      by_contra hlarge
      have hhalf := hx.half (by linarith : 1 / 2 ^ 100 ≤ x)
      exact hup.ne' (nearest_one_sub hhalf (by linarith) (by linarith))
    have hgrid : Multiple (-24) (nearest (1 - x / 2)) := (representable_nearest _).multiple_half (by linarith)
    refine nearest_le_of_mirrored hgrid hup (by linarith) (by linarith) (by linarith) (by linarith) ?_
    rcases le_or_gt (1 / 2 ^ 24) x with hlow | hlow
    · have hbase := nearest_between_one (x := 1 - x / 2) (by linarith) (by linarith)
      linarith [nearest_mul_lt hlow hq0 hq1]
    · linarith

end Binary32

open Binary32

variable {m u v : Float32} {x : ℚ}

theorem OnGrid.exists_lt_one (hu : OnGrid u) : ∃ q, value? u = some q ∧ 0 ≤ q ∧ q ≤ 1 - 1 / 2 ^ 24 := by
  obtain ⟨k, hk, hu⟩ := hu
  have hle : (k : ℚ) ≤ 2 ^ 24 - 1 := by
    have hcast : ((k + 1 : ℕ) : ℚ) ≤ (2 ^ 24 : ℕ) := by exact_mod_cast hk
    push_cast at hcast
    linarith
  refine ⟨_, hu, by positivity, ?_⟩
  rw [div_le_iff₀ (by positivity)]
  norm_num at hle ⊢
  exact hle

namespace Weights

theorem value?_ends (hm : value? m = some x) (h0 : 0 ≤ x) (h2 : x ≤ 2) :
    value? (1 - m / 2) = some (nearest (1 - x / 2)) ∧ value? (1 + m / 2) = some (nearest (1 + x / 2)) := by
  obtain ⟨hlo, hhi⟩ := nearest_beside_one (representable_value hm) h0
  obtain ⟨hhalf, hhalf0, hhalf1⟩ := value?_half hm h0 h2
  rw [← hlo, ← hhi]
  exact ⟨(value?_base hm h0 h2).1,
    value?_add value?_one hhalf (nearest_lt_top (abs_le.2 ⟨by linarith, by linarith⟩))⟩

theorem value?_factor {q : ℚ} (hm : value? m = some x) (hu : value? u = some q) (h0 : 0 ≤ x) (h2 : x ≤ 2)
    (hq0 : 0 ≤ q) (hq1 : q ≤ 1) :
    value? (jitterOf m u) = some (nearest (nearest (1 - x / 2) + nearest (q * x))) := by
  rw [← (nearest_beside_one (representable_value hm) h0).1]
  exact value?_jitterOf hm hu h0 h2 hq0 hq1

theorem jitterOf_within (hm : value? m = some x) (h0 : 0 ≤ x) (h2 : x ≤ 2) (hu : OnGrid u) :
    ∃ y, value? (jitterOf m u) = some y ∧ 0 ≤ y ∧ nearest (1 - x / 2) ≤ y ∧
      y ≤ nearest (1 + x / 2) := by
  obtain ⟨q, hu, hq0, hq1⟩ := hu.exists_lt_one
  have hbase : 0 ≤ nearest (1 - x / 2) := nearest_nonneg (by linarith)
  have hrest : 0 ≤ nearest (q * x) := nearest_nonneg (mul_nonneg hq0 h0)
  have hlo := le_nearest (representable_nearest (1 - x / 2)) (le_add_of_nonneg_right hrest)
  exact ⟨_, value?_factor hm hu h0 h2 hq0 (by linarith), hbase.trans hlo, hlo,
    nearest_factor_le (representable_value hm) h0 h2 hq0 hq1⟩

theorem jitterOf_mono (hm : value? m = some x) (h0 : 0 ≤ x) (h2 : x ≤ 2) (hu : OnGrid u) (hv : OnGrid v)
    (h : u ≤ v) : jitterOf m u ≤ jitterOf m v := by
  obtain ⟨q, hu, hq0, hq1⟩ := hu.exists_value
  obtain ⟨r, hv, hr0, hr1⟩ := hv.exists_value
  rw [le_iff (value?_factor hm hu h0 h2 hq0 hq1) (value?_factor hm hv h0 h2 hr0 hr1)]
  have hqr : q * x ≤ r * x := mul_le_mul_of_nonneg_right ((le_iff hu hv).1 h) h0
  exact nearest_mono (by linarith [nearest_mono hqr])

/-- For each magnitude that is accepted and each draw the factor is a number that is not below zero and
lies between the two ends of the interval, rounded once; they are also what `1 - m / 2` and `1 + m / 2`
come to. A larger draw makes no smaller factor. -/
theorem jitterOf_in_interval (noise : Noise) : ∃ x, value? noise.magnitude = some x ∧
    value? (1 - noise.magnitude / 2) = some (nearest (1 - x / 2)) ∧
    value? (1 + noise.magnitude / 2) = some (nearest (1 + x / 2)) ∧
    (∀ u, OnGrid u → ∃ y, value? (jitterOf noise.magnitude u) = some y ∧ 0 ≤ y ∧
      nearest (1 - x / 2) ≤ y ∧ y ≤ nearest (1 + x / 2)) ∧
    ∀ u v, OnGrid u → OnGrid v → u ≤ v → jitterOf noise.magnitude u ≤ jitterOf noise.magnitude v := by
  obtain ⟨x, hm, h0, h2⟩ := noise.exists_magnitude
  obtain ⟨hlo, hhi⟩ := value?_ends hm h0 h2
  exact ⟨x, hm, hlo, hhi, fun _ => jitterOf_within hm h0 h2, fun _ _ => jitterOf_mono hm h0 h2⟩

end Weights

end RecursiveMatrix
