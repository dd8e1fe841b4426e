import RecursiveMatrix.Noise
import RecursiveMatrix.Proofs.Binary32.Error
import RecursiveMatrix.Proofs.Binary32.Grid
import RecursiveMatrix.Random.KeyedStream
import RecursiveMatrix.Weights

namespace RecursiveMatrix

open Binary32 Float.Model

variable {m u : Float32} {x lo : ℚ}

/-- A fraction of one in 24 binary digits. -/
def OnGrid (u : Float32) : Prop := ∃ k : ℕ, k < 2 ^ 24 ∧ value? u = some (k / 2 ^ 24 : ℚ)

theorem OnGrid.exists_value (h : OnGrid u) : ∃ q, value? u = some q ∧ 0 ≤ q ∧ q ≤ 1 := by
  obtain ⟨k, hk, hu⟩ := h
  have hk : (k : ℚ) ≤ 2 ^ 24 := by exact_mod_cast hk.le
  exact ⟨_, hu, by positivity, by rw [div_le_one (by positivity)]; exact hk⟩

namespace Xoshiro

/-- `k` parts of `2 ^ 24`, as a generator that comes to them draws them. -/
def fraction (k : ℕ) : Float32 := (UInt64.ofNat k).toFloat32 * Float32.ofBits 0x33800000

theorem value?_fraction {k : ℕ} (h : k < 2 ^ 24) : value? (fraction k) = some (k / 2 ^ 24 : ℚ) := by
  have hword : (UInt64.ofNat k).toNat = k := UInt64.toNat_ofNat_of_lt' (h.trans (by norm_num))
  have hcast : (k : ℚ) < 2 ^ 24 := by exact_mod_cast h
  have hr : Representable (k * (1 / 2 ^ 24)) := by
    refine ⟨k, -24, h, by norm_num, ?_⟩
    rw [abs_of_nonneg (by positivity)]
    norm_num
  have hvalue := value?_toFloat32 (hword.trans_lt h)
  rw [hword] at hvalue
  have hprod := value?_mul hvalue value?_unit (nearest_lt_top ?_)
  · rw [nearest_of_representable hr, mul_one_div] at hprod
    exact hprod
  · rw [abs_of_nonneg (by positivity)]
    linarith

theorem exists_fraction (r : UInt64) : ∃ k < 2 ^ 24, uniform r = fraction k := by
  refine ⟨(r >>> 40).toNat, ?_, by rw [fraction, UInt64.ofNat_toNat, uniform]⟩
  have hr := r.toNat_lt
  rw [UInt64.toNat_shiftRight, Nat.shiftRight_eq_div_pow]
  change r.toNat / 2 ^ 40 < _
  omega

end Xoshiro

theorem onGrid_uniform (r : UInt64) : OnGrid (Xoshiro.uniform r) := by
  obtain ⟨k, hk, hr⟩ := Xoshiro.exists_fraction r
  exact ⟨k, hk, hr ▸ Xoshiro.value?_fraction hk⟩

theorem Noise.exists_magnitude (noise : Noise) : ∃ x, value? noise.magnitude = some x ∧ 0 ≤ x ∧ x ≤ 2 :=
  exists_value?_of_le value?_zero value?_two noise.nonneg noise.le_two

namespace Weights

theorem value?_half (hm : value? m = some x) (hx0 : 0 ≤ x) (hx2 : x ≤ 2) :
    value? (m / 2) = some (nearest (x / 2)) ∧ 0 ≤ nearest (x / 2) ∧ nearest (x / 2) ≤ 1 := by
  refine ⟨value?_div hm value?_two two_ne_zero (nearest_lt_top (abs_le.2 ⟨by linarith, by linarith⟩)), ?_, ?_⟩
  · exact nearest_nonneg (by linarith)
  · exact nearest_le representable_one (by linarith)

/-- The lower end of the interval. -/
theorem value?_base (hm : value? m = some x) (hx0 : 0 ≤ x) (hx2 : x ≤ 2) :
    value? (1 - m / 2) = some (nearest (1 - nearest (x / 2))) ∧
      0 ≤ nearest (1 - nearest (x / 2)) ∧ nearest (1 - nearest (x / 2)) ≤ 1 := by
  obtain ⟨hhalf, hhalf0, hhalf1⟩ := value?_half hm hx0 hx2
  refine ⟨value?_sub value?_one hhalf (nearest_lt_top (abs_le.2 ⟨by linarith, by linarith⟩)), ?_, ?_⟩
  · exact nearest_nonneg (by linarith)
  · exact nearest_le representable_one (by linarith)

theorem value?_jitterOf {q : ℚ} (hm : value? m = some x) (hu : value? u = some q) (hx0 : 0 ≤ x) (hx2 : x ≤ 2)
    (hq0 : 0 ≤ q) (hq1 : q ≤ 1) :
    value? (jitterOf m u) = some (nearest (nearest (1 - nearest (x / 2)) + nearest (q * x))) := by
  have htwo : Representable 2 := representable_ofNat 2 (by norm_num)
  obtain ⟨hbase, hbase0, hbase1⟩ := value?_base hm hx0 hx2
  have hqx0 : 0 ≤ q * x := mul_nonneg hq0 hx0
  have hqx : q * x ≤ x := mul_le_of_le_one_left hx0 hq1
  have hrest0 : 0 ≤ nearest (q * x) := nearest_nonneg hqx0
  have hrest1 : nearest (q * x) ≤ 2 := nearest_le htwo (by linarith)
  have hrest : value? (u * m) = some (nearest (q * x)) :=
    value?_mul hu hm (nearest_lt_top (abs_le.2 ⟨by linarith, by linarith⟩))
  exact value?_add hbase hrest (nearest_lt_top (abs_le.2 ⟨by linarith, by linarith⟩))

theorem jitterOf_between (hm : value? m = some x) (hu : OnGrid u) (h0 : 0 ≤ x) (hlo : Representable lo)
    (hhi : Representable (1 - lo)) (hx : x ≤ 2 * (1 - lo)) (hlo0 : 0 ≤ lo) :
    ∃ y, value? (jitterOf m u) = some y ∧ lo ≤ y ∧ y ≤ 3 := by
  obtain ⟨q, hu, hq0, hq1⟩ := hu.exists_value
  have htwo : Representable 2 := representable_ofNat 2 (by norm_num)
  have hthree : Representable 3 := representable_ofNat 3 (by norm_num)
  have hhalf0 : 0 ≤ nearest (x / 2) := nearest_nonneg (by linarith)
  have hhalf1 : nearest (x / 2) ≤ 1 - lo := nearest_le hhi (by linarith)
  have hbase0 : lo ≤ nearest (1 - nearest (x / 2)) := le_nearest hlo (by linarith)
  have hbase1 : nearest (1 - nearest (x / 2)) ≤ 1 := nearest_le representable_one (by linarith)
  have hrest0 : 0 ≤ nearest (q * x) := nearest_nonneg (mul_nonneg hq0 h0)
  have hrest1 : nearest (q * x) ≤ 2 :=
    nearest_le htwo ((mul_le_of_le_one_left h0 hq1).trans (by linarith))
  exact ⟨_, value?_jitterOf hm hu h0 (by linarith) hq0 hq1, le_nearest hlo (by linarith),
    nearest_le hthree (by linarith)⟩

/-- Up to magnitude one a factor is off the interval by little. -/
theorem jitterOf_near (hm : value? m = some x) (hu : OnGrid u) (h0 : 0 ≤ x) (hx : x ≤ 1) :
    ∃ y, value? (jitterOf m u) = some y ∧ 1 - x / 2 - 1 / 2 ^ 23 ≤ y ∧ y ≤ 1 + x / 2 + 1 / 2 ^ 23 := by
  obtain ⟨q, hu, hq0, hq1⟩ := hu.exists_value
  have hhalf := abs_le.1 (nearest_error_one (x := x / 2) (abs_le.2 ⟨by linarith, by linarith⟩))
  have hhalf0 : 0 ≤ nearest (x / 2) := nearest_nonneg (by linarith)
  have hbase := abs_le.1 (nearest_error_one (x := 1 - nearest (x / 2)) (abs_le.2 ⟨by linarith, by linarith⟩))
  have hrest0 : 0 ≤ nearest (q * x) := nearest_nonneg (mul_nonneg hq0 h0)
  have hrest1 : nearest (q * x) ≤ x :=
    nearest_le (representable_value hm) (mul_le_of_le_one_left h0 hq1)
  have hsum := abs_le.1 (nearest_error_two (x := nearest (1 - nearest (x / 2)) + nearest (q * x))
    (abs_le.2 ⟨by linarith, by linarith⟩))
  exact ⟨_, value?_jitterOf hm hu h0 (by linarith) hq0 hq1, by linarith, by linarith⟩

theorem jitterOf_nonneg (noise : Noise) (hu : OnGrid u) :
    ∃ y, value? (jitterOf noise.magnitude u) = some y ∧ 0 ≤ y ∧ y ≤ 3 := by
  obtain ⟨x, hm, h0, h2⟩ := noise.exists_magnitude
  refine jitterOf_between hm hu h0 representable_zero ?_ (by linarith) le_rfl
  rw [sub_zero]
  exact representable_one

theorem jitterOf_pos (noise : Noise) (hlt : ¬ 2 ≤ noise.magnitude) (hu : OnGrid u) :
    ∃ y, value? (jitterOf noise.magnitude u) = some y ∧ 1 / 2 ^ 24 ≤ y ∧ y ≤ 3 := by
  obtain ⟨x, hm, h0, h2⟩ := noise.exists_magnitude
  have hx : x < 2 := lt_of_not_ge fun h => hlt ((le_iff value?_two hm).2 h)
  exact jitterOf_between hm hu h0 representable_unit one_sub_unit ((representable_value hm).le_of_lt_two hx)
    (by norm_num)

end Weights

end RecursiveMatrix
