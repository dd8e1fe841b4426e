import Mathlib.Algebra.Order.Field.Power
import Mathlib.Data.Int.Log
import Mathlib.Data.Rat.Floor
import Mathlib.Tactic.Linarith
import Mathlib.Tactic.Positivity

namespace RecursiveMatrix.Binary32

variable {m n : ℕ} {e k : ℤ} {q r x : ℚ}

/-- The natural number nearest to `q`, and of two that are as near the even one. -/
def roundEven (q : ℚ) : ℕ :=
  if q - ⌊q⌋₊ < 1 / 2 then ⌊q⌋₊
  else if 1 / 2 < q - ⌊q⌋₊ then ⌊q⌋₊ + 1
  else ⌊q⌋₊ + ⌊q⌋₊ % 2

theorem floor_le_roundEven (q : ℚ) : ⌊q⌋₊ ≤ roundEven q := by
  unfold roundEven
  split
  · exact Nat.le_refl _
  · split <;> omega

theorem roundEven_le_floor (q : ℚ) : roundEven q ≤ ⌊q⌋₊ + 1 := by
  unfold roundEven
  split
  · exact Nat.le_succ _
  · split <;> omega

theorem roundEven_natCast (n : ℕ) : roundEven n = n := by
  rw [roundEven, Nat.floor_natCast, sub_self, if_pos (by norm_num)]

theorem le_roundEven (h : (n : ℚ) ≤ q) : n ≤ roundEven q :=
  (Nat.le_floor h).trans (floor_le_roundEven q)

theorem roundEven_le (h : q ≤ n) : roundEven q ≤ n := by
  rcases h.eq_or_lt with rfl | hlt
  · exact (roundEven_natCast n).le
  · rcases Nat.eq_zero_or_pos n with rfl | hn
    · have hfloor : ⌊q⌋₊ = 0 := Nat.floor_of_nonpos h
      have hq : q < 0 := by exact_mod_cast hlt
      rw [roundEven, hfloor, if_pos (by push_cast; linarith)]
    · exact (roundEven_le_floor q).trans ((Nat.floor_lt' hn.ne').2 hlt)

theorem roundEven_mono (h : q ≤ r) : roundEven q ≤ roundEven r := by
  rcases h.eq_or_lt with rfl | hlt
  · exact le_rfl
  · rcases (Nat.floor_mono h).lt_or_eq with hfloor | hfloor
    · exact ((roundEven_le_floor q).trans hfloor).trans (floor_le_roundEven r)
    · rcases lt_or_ge (q - ⌊q⌋₊) (1 / 2) with hq | hq
      · rw [roundEven, if_pos hq, hfloor]
        exact floor_le_roundEven r
      · -- then `r` is above the middle, and goes up
        rw [hfloor] at hq
        have hup : roundEven r = ⌊r⌋₊ + 1 := by
          rw [roundEven, if_neg (by linarith), if_pos (by linarith)]
        rw [hup, ← hfloor]
        exact roundEven_le_floor q

theorem roundEven_error (h : 0 ≤ q) : |(roundEven q : ℚ) - q| ≤ 1 / 2 := by
  have hlo := Nat.floor_le h
  have hhi := Nat.lt_floor_add_one q
  unfold roundEven
  split
  · rw [abs_le]
    constructor <;> linarith
  · split
    · rw [abs_le]
      push_cast
      constructor <;> linarith
    · have hhalf : q - ⌊q⌋₊ = 1 / 2 := by linarith
      have hmod := Nat.mod_two_eq_zero_or_one ⌊q⌋₊
      rw [abs_le]
      rcases hmod with h0 | h1
      · rw [h0, Nat.add_zero]
        constructor <;> linarith
      · rw [h1]
        push_cast
        constructor <;> linarith

/-- The exponent of the last place of a single at the height of `x`. -/
def place (x : ℚ) : ℤ := max (Int.log 2 x - 23) (-149)

theorem scale_pos (e : ℤ) : (0 : ℚ) < 2 ^ e := by positivity

theorem scale_le_scale (h : e ≤ k) : (2 : ℚ) ^ e ≤ 2 ^ k := zpow_le_zpow_right₀ one_le_two h

theorem natCast_mul_scale (n : ℕ) (h : e ≤ k) :
    (n : ℚ) * 2 ^ k = (n * 2 ^ (k - e).toNat : ℕ) * 2 ^ e := by
  have hk : k = (k - e).toNat + e := by omega
  push_cast
  rw [mul_assoc, ← zpow_natCast, ← zpow_add₀ two_ne_zero, ← hk]

theorem lt_scale_place (x : ℚ) : x < 2 ^ 24 * 2 ^ place x := by
  have hlog : x < 2 ^ (Int.log 2 x + 1) := Int.lt_zpow_succ_log_self one_lt_two x
  have hplace : (2 : ℚ) ^ (Int.log 2 x + 1) ≤ 2 ^ (24 + place x) :=
    scale_le_scale (by unfold place; omega)
  rw [zpow_add₀ two_ne_zero 24] at hplace
  exact hlog.trans_le hplace

/-- Above the least place the singles fill all their digits. -/
theorem place_cases (hx : 0 < x) : place x = -149 ∨ 2 ^ 23 * 2 ^ place x ≤ x := by
  rcases le_or_gt (Int.log 2 x - 23) (-149) with h | h
  · exact .inl (max_eq_right h)
  · have hplace : place x = Int.log 2 x - 23 := max_eq_left h.le
    have hlog : (2 : ℚ) ^ Int.log 2 x ≤ x := Int.zpow_log_le_self one_lt_two hx
    have hsplit : (2 : ℚ) ^ Int.log 2 x = 2 ^ 23 * 2 ^ place x := by
      rw [hplace, ← zpow_natCast, ← zpow_add₀ two_ne_zero]
      congr 1
      push_cast
      ring
    exact .inr (hsplit ▸ hlog)

theorem mul_scale_lt (hm : m < 2 ^ 24) (h : e < k) : (m : ℚ) * 2 ^ e < 2 ^ 23 * 2 ^ k := by
  have hscale : (2 : ℚ) ^ (e + 1) ≤ 2 ^ k := scale_le_scale h
  have hm' : (m : ℚ) < 2 ^ 24 := by exact_mod_cast hm
  rw [zpow_add_one₀ two_ne_zero] at hscale
  nlinarith [scale_pos e]

/-- The single nearest to `x`, which is not below zero, as if there were no greatest one. -/
def nearestAbs (x : ℚ) : ℚ := roundEven (x / 2 ^ place x) * 2 ^ place x

theorem nearestAbs_nonneg (x : ℚ) : 0 ≤ nearestAbs x := by
  unfold nearestAbs
  positivity

theorem nearestAbs_le (hx : 0 ≤ x) (hm : m < 2 ^ 24) (he : -149 ≤ e) (h : x ≤ m * 2 ^ e) :
    nearestAbs x ≤ m * 2 ^ e := by
  rcases hx.eq_or_lt with rfl | hpos
  · rw [nearestAbs, zero_div, ← Nat.cast_zero, roundEven_natCast, Nat.cast_zero, zero_mul]
    positivity
  · have hplace : place x ≤ e := by
      rcases place_cases hpos with hp | hp
      · exact hp.trans_le he
      · -- otherwise the bound, with no more than 24 digits, would lie below `x`
        by_contra hlt
        exact (mul_scale_lt hm (not_le.1 hlt)).not_ge (hp.trans h)
    rw [natCast_mul_scale m hplace] at h ⊢
    have hquot : x / 2 ^ place x ≤ (m * 2 ^ (e - place x).toNat : ℕ) := by
      rwa [div_le_iff₀ (scale_pos _)]
    have hround := roundEven_le hquot
    exact mul_le_mul_of_nonneg_right (by exact_mod_cast hround) (scale_pos _).le

theorem le_nearestAbs (hm : m < 2 ^ 24) (he : -149 ≤ e) (h : m * 2 ^ e ≤ x) :
    m * 2 ^ e ≤ nearestAbs x := by
  rcases le_or_gt x 0 with hx | hx
  · exact (h.trans hx).trans (nearestAbs_nonneg x)
  · rcases le_or_gt (place x) e with hplace | hplace
    · rw [natCast_mul_scale m hplace] at h ⊢
      have hquot : ((m * 2 ^ (e - place x).toNat : ℕ) : ℚ) ≤ x / 2 ^ place x := by
        rwa [le_div_iff₀ (scale_pos _)]
      have hround := le_roundEven hquot
      exact mul_le_mul_of_nonneg_right (by exact_mod_cast hround) (scale_pos _).le
    · have hhigh : 2 ^ 23 * 2 ^ place x ≤ x := (place_cases hx).resolve_left (by omega)
      have hquot : ((2 ^ 23 : ℕ) : ℚ) ≤ x / 2 ^ place x := by
        rw [le_div_iff₀ (scale_pos _)]
        exact_mod_cast hhigh
      have hround : ((2 ^ 23 : ℕ) : ℚ) ≤ roundEven (x / 2 ^ place x) := by
        exact_mod_cast le_roundEven hquot
      push_cast at hround
      have hlow : (m : ℚ) * 2 ^ e ≤ 2 ^ 23 * 2 ^ place x := (mul_scale_lt hm hplace).le
      exact hlow.trans (mul_le_mul_of_nonneg_right hround (scale_pos _).le)

theorem nearestAbs_mono {y : ℚ} (hx : 0 < x) (h : x ≤ y) : nearestAbs x ≤ nearestAbs y := by
  have hplace : place x ≤ place y := max_le_max_right _ (sub_le_sub_right (Int.log_mono_right hx h) 23)
  rcases hplace.lt_or_eq with hlt | heq
  · -- the least single of the higher place lies between the two
    have hleast : -149 ≤ place x := le_max_right _ _
    have hscale : (2 : ℚ) ^ (place x + 1) ≤ 2 ^ place y := scale_le_scale hlt
    rw [zpow_add_one₀ two_ne_zero] at hscale
    have hlow : x ≤ (2 ^ 23 : ℕ) * 2 ^ place y := by
      push_cast
      linarith [lt_scale_place x]
    have hhigh : (2 ^ 23 : ℕ) * 2 ^ place y ≤ y := by
      exact_mod_cast (place_cases (hx.trans_le h)).resolve_left (by omega)
    exact (nearestAbs_le hx.le (by norm_num) (by omega) hlow).trans
      (le_nearestAbs (by norm_num) (by omega) hhigh)
  · rw [nearestAbs, nearestAbs, heq]
    have hquot : x / 2 ^ place y ≤ y / 2 ^ place y := div_le_div_of_nonneg_right h (scale_pos _).le
    exact mul_le_mul_of_nonneg_right (by exact_mod_cast roundEven_mono hquot) (scale_pos _).le

theorem nearestAbs_error (hx : 0 ≤ x) : |nearestAbs x - x| ≤ 2 ^ place x / 2 := by
  have hquot : x = x / 2 ^ place x * 2 ^ place x := (div_mul_cancel₀ x (scale_pos _).ne').symm
  have herror := roundEven_error (div_nonneg hx (scale_pos (place x)).le)
  have hdiff : nearestAbs x - x =
      (roundEven (x / 2 ^ place x) - x / 2 ^ place x) * 2 ^ place x := by
    rw [sub_mul, ← hquot, nearestAbs]
  rw [hdiff, abs_mul, abs_of_pos (scale_pos _)]
  calc _ ≤ 1 / 2 * 2 ^ place x := mul_le_mul_of_nonneg_right herror (scale_pos _).le
    _ = 2 ^ place x / 2 := by ring

def nearest (x : ℚ) : ℚ := if x < 0 then -nearestAbs (-x) else nearestAbs x

/-- Of the form of a single, but for the size. -/
def Representable (r : ℚ) : Prop := ∃ (m : ℕ) (e : ℤ), m < 2 ^ 24 ∧ -149 ≤ e ∧ |r| = m * 2 ^ e

theorem nearest_of_nonneg (h : 0 ≤ x) : nearest x = nearestAbs x := if_neg h.not_gt

theorem nearest_neg (x : ℚ) : nearest (-x) = -nearest x := by
  unfold nearest
  rcases lt_trichotomy x 0 with h | rfl | h
  · rw [if_neg (by linarith), if_pos h, neg_neg]
  · norm_num [nearestAbs, roundEven]
  · rw [if_pos (by linarith), if_neg (by linarith), neg_neg]

theorem nearest_nonneg (h : 0 ≤ x) : 0 ≤ nearest x := by
  rw [nearest_of_nonneg h]
  exact nearestAbs_nonneg x

theorem nearest_nonpos (h : x ≤ 0) : nearest x ≤ 0 := by
  have hneg := nearest_nonneg (neg_nonneg.2 h)
  rw [nearest_neg] at hneg
  linarith

theorem Representable.neg (h : Representable r) : Representable (-r) := by
  obtain ⟨m, e, hm, he, hr⟩ := h
  exact ⟨m, e, hm, he, (abs_neg r).trans hr⟩

/-- Rounding does not step over a single. -/
theorem nearest_le (hr : Representable r) (h : x ≤ r) : nearest x ≤ r := by
  obtain ⟨m, e, hm, he, habs⟩ := hr
  rcases le_or_gt 0 x with hx | hx
  · rw [abs_of_nonneg (hx.trans h)] at habs
    rw [nearest_of_nonneg hx, habs]
    exact nearestAbs_le hx hm he (habs ▸ h)
  · rcases le_or_gt 0 r with hr | hr
    · exact (nearest_nonpos hx.le).trans hr
    · rw [abs_of_neg hr] at habs
      have hle := le_nearestAbs hm he (x := -x) (by linarith)
      rw [nearest, if_pos hx]
      linarith

theorem le_nearest (hr : Representable r) (h : r ≤ x) : r ≤ nearest x := by
  have hneg := nearest_le hr.neg (neg_le_neg h)
  rw [nearest_neg] at hneg
  linarith

theorem nearest_mono {y : ℚ} (h : x ≤ y) : nearest x ≤ nearest y := by
  rcases lt_trichotomy x 0 with hx | rfl | hx
  · rcases lt_or_ge y 0 with hy | hy
    · rw [nearest, nearest, if_pos hx, if_pos hy]
      exact neg_le_neg (nearestAbs_mono (neg_pos.2 hy) (neg_le_neg h))
    · exact (nearest_nonpos hx.le).trans (nearest_nonneg hy)
  · exact (nearest_nonpos le_rfl).trans (nearest_nonneg h)
  · rw [nearest_of_nonneg hx.le, nearest_of_nonneg (hx.le.trans h)]
    exact nearestAbs_mono hx h

theorem nearest_of_representable (hr : Representable r) : nearest r = r :=
  (nearest_le hr le_rfl).antisymm (le_nearest hr le_rfl)

theorem abs_nearest (x : ℚ) : |nearest x| = nearestAbs |x| := by
  rcases le_or_gt 0 x with h | h
  · rw [nearest_of_nonneg h, abs_of_nonneg h, abs_of_nonneg (nearestAbs_nonneg x)]
  · rw [nearest, if_pos h, abs_of_neg h, abs_neg, abs_of_nonneg (nearestAbs_nonneg _)]

theorem abs_nearest_le (hr : Representable r) (h : |x| ≤ r) : |nearest x| ≤ r := by
  have hle := nearest_le hr h
  rwa [nearest_of_nonneg (abs_nonneg x), ← abs_nearest] at hle

theorem nearest_error (x : ℚ) : |nearest x - x| ≤ 2 ^ place |x| / 2 := by
  rcases le_or_gt 0 x with h | h
  · rw [nearest_of_nonneg h, abs_of_nonneg h]
    exact nearestAbs_error h
  · have herror := nearestAbs_error (x := -x) (by linarith)
    rw [nearest, if_pos h, abs_of_neg h, ← abs_neg]
    have hneg : -(-nearestAbs (-x) - x) = nearestAbs (-x) - -x := by ring
    rwa [hneg]

theorem representable_scale (h : -149 ≤ e) : Representable (2 ^ e) :=
  ⟨1, e, by norm_num, h, by rw [abs_of_pos (scale_pos e), Nat.cast_one, one_mul]⟩

theorem representable_zero : Representable 0 :=
  ⟨0, 0, by norm_num, by norm_num, by rw [abs_zero, Nat.cast_zero, zero_mul]⟩

theorem nearest_zero : nearest 0 = 0 := nearest_of_representable representable_zero

/-- The error is small against the number, or against the least single where the digits run out. -/
theorem nearest_error_rel (x : ℚ) : |nearest x - x| ≤ 2 ^ (-24 : ℤ) * |x| + 2 ^ (-150 : ℤ) := by
  rcases eq_or_ne x 0 with rfl | hx
  · rw [nearest_zero, sub_zero, abs_zero, mul_zero, zero_add]
    exact (scale_pos _).le
  · refine (nearest_error x).trans ?_
    rcases place_cases (abs_pos.2 hx) with hplace | hplace
    · have hsmall : (2 : ℚ) ^ (-149 : ℤ) / 2 = 2 ^ (-150 : ℤ) := by norm_num
      have hnonneg : 0 ≤ (2 : ℚ) ^ (-24 : ℤ) * |x| := by positivity
      rw [hplace, hsmall]
      exact le_add_of_nonneg_left hnonneg
    · have hsmall : (0 : ℚ) < 2 ^ (-150 : ℤ) := scale_pos _
      have hunit : (2 : ℚ) ^ (-24 : ℤ) * 2 ^ 23 = 1 / 2 := by norm_num
      nlinarith [scale_pos (place |x|)]

theorem place_le (hk : -125 ≤ k) (hx : 0 < x) (h : x < 2 ^ k) : place x ≤ k - 24 := by
  rcases place_cases hx with hplace | hplace
  · omega
  · have hlt := hplace.trans_lt h
    rw [← zpow_natCast, ← zpow_add₀ two_ne_zero, zpow_lt_zpow_iff_right₀ one_lt_two] at hlt
    push_cast at hlt
    omega

/-- A number too small for any single but zero. -/
theorem nearestAbs_eq_zero (hx : 0 ≤ x) (h : x < 2 ^ (-150 : ℤ)) : nearestAbs x = 0 := by
  rcases hx.eq_or_lt with rfl | hpos
  · rw [← nearest_of_nonneg le_rfl, nearest_zero]
  · have hscale : (2 : ℚ) ^ (-150 : ℤ) ≤ 2 ^ (-125 : ℤ) := scale_le_scale (by norm_num)
    have hplace : place x = -149 :=
      le_antisymm (place_le (le_refl (-125)) hpos (h.trans_le hscale)) (le_max_right _ _)
    have hquot : x / 2 ^ place x < 1 / 2 := by
      rw [hplace, div_lt_iff₀ (scale_pos _)]
      norm_num at h ⊢
      linarith
    have hfloor : ⌊x / 2 ^ place x⌋₊ = 0 := Nat.floor_eq_zero.2 (by linarith)
    rw [nearestAbs, roundEven, hfloor, if_pos (by rwa [Nat.cast_zero, sub_zero]), Nat.cast_zero, zero_mul]

/-- Below a power of two the error is at most half of the last place there. -/
theorem nearest_error_abs (hk : -125 ≤ k) (h : |x| ≤ 2 ^ k) : |nearest x - x| ≤ 2 ^ (k - 25) := by
  have hexact (hr : Representable x) : |nearest x - x| ≤ 2 ^ (k - 25) := by
    rw [nearest_of_representable hr, sub_self, abs_zero]
    exact (scale_pos _).le
  rcases h.eq_or_lt with heq | hlt
  · exact hexact ⟨1, k, by norm_num, by omega, by rw [heq, Nat.cast_one, one_mul]⟩
  · rcases eq_or_ne x 0 with rfl | hx
    · exact hexact representable_zero
    · have hscale : (2 : ℚ) ^ place |x| ≤ 2 ^ (k - 25 + 1) :=
        scale_le_scale (by have := place_le hk (abs_pos.2 hx) hlt; omega)
      rw [zpow_add_one₀ two_ne_zero] at hscale
      linarith [nearest_error x]

end RecursiveMatrix.Binary32
