import RecursiveMatrix.Proofs.Binary32.Value

namespace RecursiveMatrix.Binary32

open Float.Model Float.Model.UnpackedFloat

variable {s : Sign} {m n : ℕ} {e : ℤ} {q r x y : ℚ} {f g : Float32} {em : ExtendedMantissa}
  {acc : Accuracy}

/-- The digits stand for `y`, cut off; the two bits tell where between them and the next `y` lies. -/
def Represents (em : ExtendedMantissa) (y : ℚ) : Prop :=
  match em.roundBit, em.stickyBit with
  | false, false => y = em.mantissa
  | false, true => em.mantissa < y ∧ y < em.mantissa + 1 / 2
  | true, false => y = em.mantissa + 1 / 2
  | true, true => em.mantissa + 1 / 2 < y ∧ y < em.mantissa + 1

theorem Represents.bounds (h : Represents em y) : em.mantissa ≤ y ∧ y < em.mantissa + 1 := by
  obtain ⟨m, round, sticky⟩ := em
  cases round <;> cases sticky <;> simp only [Represents] at h ⊢ <;> constructor <;> linarith

theorem Represents.rounded (h : Represents em y) : em.roundedMantissa = roundEven y := by
  obtain ⟨hlo, hhi⟩ := h.bounds
  have hfloor : ⌊y⌋₊ = em.mantissa := by
    rw [Nat.floor_eq_iff (le_trans (Nat.cast_nonneg _) hlo)]
    exact ⟨hlo, hhi⟩
  rw [roundEven, hfloor]
  obtain ⟨m, round, sticky⟩ := em
  cases round <;> cases sticky <;> simp only [Represents] at h
  · rw [if_pos (by linarith)]
    rfl
  · rw [if_pos (by linarith)]
    rfl
  · rw [if_neg (by linarith), if_neg (by linarith)]
    rfl
  · rw [if_neg (by linarith), if_pos (by linarith)]
    rfl

theorem Represents.shiftRightOne (h : Represents em y) : Represents em.shiftRightOne (y / 2) := by
  obtain ⟨m, round, sticky⟩ := em
  have hsplit : ((m / 2 : ℕ) : ℚ) * 2 + (m % 2 : ℕ) = m := by exact_mod_cast Nat.div_add_mod' m 2
  change Represents ⟨m / 2, m % 2 != 0, round || sticky⟩ (y / 2)
  -- the digit that is shifted out tells on which side of the middle `y / 2` lies
  rcases Nat.mod_two_eq_zero_or_one m with hm | hm
  · rw [hm, Nat.cast_zero] at hsplit
    rw [hm, bne_self_eq_false]
    cases round <;> cases sticky <;> simp only [Represents, Bool.or_false, Bool.or_true] at h ⊢ <;>
      first | (constructor <;> linarith) | linarith
  · rw [hm, Nat.cast_one] at hsplit
    rw [hm, bne_iff_ne.2 one_ne_zero]
    cases round <;> cases sticky <;> simp only [Represents, Bool.or_false, Bool.or_true] at h ⊢ <;>
      first | (constructor <;> linarith) | linarith

theorem Represents.shiftRight (h : Represents em y) (k : ℕ) : Represents (em >>> k) (y / 2 ^ k) := by
  change Represents (k.repeat ExtendedMantissa.shiftRightOne em) (y / 2 ^ k)
  induction k with
  | zero => rwa [pow_zero, div_one]
  | succ k ih =>
      rw [pow_succ, ← div_div]
      exact ih.shiftRightOne

theorem target_eq (m : ℕ) (e : ℤ) : Format.binary32.targetExponent (totalExponent m e) =
    max (m.log2 + e - 23) (-149) := by
  change max ((m.log2 : ℤ) + 1 + e - 24) (-149) = _
  congr 1
  ring

/-- What comes of rounding a number of the size `x`: a single of the given sign, but for the top. -/
inductive Rounds (s : Sign) (x : ℚ) : UnpackedFloat → Prop
  | zero (hx : nearestAbs x = 0) : Rounds s x (.zero s)
  | finite {m : ℕ} {e : ℤ} (h : 0 < m) (fits : Fits m e) (hx : nearestAbs x = m * 2 ^ e) :
      Rounds s x (.finite s m e h)

/-- The first shift gets to the place of the number. -/
theorem place_eq_target (hm : (m : ℚ) ≤ y) (hy : y < m + 1) (h0 : 0 < y)
    (he : e ≤ Format.binary32.targetExponent (totalExponent m e)) :
    place (y * 2 ^ e) = Format.binary32.targetExponent (totalExponent m e) := by
  have hpos : 0 < y * 2 ^ e := mul_pos h0 (scale_pos e)
  rw [target_eq] at he ⊢
  rcases Nat.eq_zero_or_pos m with rfl | hm0
  · have hsmall : y * 2 ^ e < 2 ^ e := by
      rw [Nat.cast_zero, zero_add] at hy
      nlinarith [scale_pos e]
    have hleast : e ≤ -149 := by
      rw [Nat.log2_zero] at he
      push_cast at he
      omega
    have hle : (2 : ℚ) ^ e ≤ 2 ^ (-125 : ℤ) := scale_le_scale (by omega)
    have hplace := place_le (le_refl (-125)) hpos (hsmall.trans_le hle)
    unfold place at hplace ⊢
    rw [Nat.log2_zero]
    push_cast
    omega
  · have hlo : (2 : ℚ) ^ m.log2 ≤ y :=
      le_trans (by exact_mod_cast Nat.log2_self_le hm0.ne') hm
    have hhi : y < 2 ^ (m.log2 + 1) :=
      lt_of_lt_of_le hy (by exact_mod_cast Nat.lt_log2_self)
    have hlog : Int.log 2 (y * 2 ^ e) = m.log2 + e := by
      have hle : (2 : ℚ) ^ (m.log2 + e) ≤ y * 2 ^ e := by
        rw [zpow_add₀ two_ne_zero, zpow_natCast]
        exact mul_le_mul_of_nonneg_right hlo (scale_pos e).le
      have hlt : y * 2 ^ e < 2 ^ (m.log2 + e + 1) := by
        rw [add_right_comm, zpow_add₀ two_ne_zero]
        exact mul_lt_mul_of_pos_right (by exact_mod_cast hhi) (scale_pos e)
      have hge := (Int.zpow_le_iff_le_log one_lt_two hpos).1 (by exact_mod_cast hle)
      have hgt := (Int.lt_zpow_iff_log_lt one_lt_two hpos).1 (by exact_mod_cast hlt)
      omega
    rw [place, hlog]

/-- One digit too many is shifted out at the end, and it is a zero. -/
theorem carry {t : ℤ} (hn : n ≤ 2 ^ 24) (ht : -149 ≤ t) (hfull : 2 ^ 23 ≤ n ∨ t = -149) :
    ∃ m e, shiftToTargetExponent Format.binary32 n t .exact = (⟨m, false, false⟩, e) ∧ Fits m e ∧
      (n : ℚ) * 2 ^ t = m * 2 ^ e := by
  have hshift (k : ℕ) (hk : (Format.binary32.targetExponent (totalExponent n t) - t).toNat = k) :
      shiftToTargetExponent Format.binary32 n t .exact =
        ((⟨n, false, false⟩ : ExtendedMantissa) >>> k, t + k) := by
    rw [shiftToTargetExponent, shiftToExponent, hk]
    rfl
  rcases hn.lt_or_eq with hlt | rfl
  · have hlog : n.log2 ≤ 23 := by
      rcases Nat.eq_zero_or_pos n with rfl | hpos
      · rw [Nat.log2_zero]
        omega
      · exact Nat.le_of_lt_succ ((Nat.log2_lt hpos.ne').2 hlt)
    refine ⟨n, t, ?_, ⟨hlt, ht, hfull⟩, rfl⟩
    rw [hshift 0 (by rw [target_eq]; omega), Nat.cast_zero, add_zero]
    rfl
  · refine ⟨2 ^ 23, t + 1, ?_, ⟨by norm_num, by omega, .inl le_rfl⟩, ?_⟩
    · rw [hshift 1 (by rw [target_eq, Nat.log2_two_pow]; omega)]
      rfl
    · rw [zpow_add_one₀ two_ne_zero]
      push_cast
      ring

/-- The digits of the rounded number, before a digit too many is shifted out. -/
theorem nearestAbs_eq (hm : (m : ℚ) ≤ y) (hy : y < m + 1)
    (he : e ≤ Format.binary32.targetExponent (totalExponent m e))
    (hn : n = roundEven (y * 2 ^ e / 2 ^ Format.binary32.targetExponent (totalExponent m e))) :
    nearestAbs (y * 2 ^ e) = n * 2 ^ Format.binary32.targetExponent (totalExponent m e) ∧ n ≤ 2 ^ 24 ∧
      (2 ^ 23 ≤ n ∨ Format.binary32.targetExponent (totalExponent m e) = -149) := by
  have htarget := target_eq m e
  rcases ((Nat.cast_nonneg m).trans hm).eq_or_lt with rfl | hpos
  · have hm0 : m = 0 := Nat.le_zero.1 (by exact_mod_cast hm)
    have hzero : n = 0 := by
      rw [hn, zero_mul, zero_div, ← Nat.cast_zero, roundEven_natCast]
    have hlog : m.log2 = 0 := by rw [hm0, Nat.log2_zero]
    refine ⟨?_, by omega, .inr (by omega)⟩
    rw [zero_mul, hzero, Nat.cast_zero, zero_mul, ← nearest_of_nonneg le_rfl, nearest_zero]
  · have hplace := place_eq_target hm hy hpos he
    have hxpos : 0 < y * 2 ^ e := mul_pos hpos (scale_pos e)
    refine ⟨?_, ?_, ?_⟩
    · rw [nearestAbs, hplace, hn]
    · rw [hn]
      apply roundEven_le
      rw [div_le_iff₀ (scale_pos _), ← hplace]
      exact_mod_cast (lt_scale_place (y * 2 ^ e)).le
    · rcases place_cases hxpos with hleast | hfull
      · exact .inr (hplace.symm.trans hleast)
      · rw [hplace] at hfull
        refine .inl (hn ▸ le_roundEven ?_)
        rw [le_div_iff₀ (scale_pos _)]
        exact_mod_cast hfull

theorem rounds_roundWithAccuracy (s : Sign) (h : Represents (.ofMantissaAndAccuracy m acc) y)
    (he : e ≤ Format.binary32.targetExponent (totalExponent m e)) :
    Rounds s (y * 2 ^ e) (roundWithAccuracy Format.binary32 s m e acc) := by
  let t := Format.binary32.targetExponent (totalExponent m e)
  let k := (t - e).toNat
  let n := (ExtendedMantissa.ofMantissaAndAccuracy m acc >>> k).roundedMantissa
  have hk : e + k = t := by omega
  have hmantissa : (ExtendedMantissa.ofMantissaAndAccuracy m acc).mantissa = m := by
    unfold ExtendedMantissa.ofMantissaAndAccuracy
    split <;> rfl
  obtain ⟨hlo, hhi⟩ := h.bounds
  rw [hmantissa] at hlo hhi
  have hx : y * 2 ^ e / 2 ^ t = y / 2 ^ k := by
    rw [← hk, zpow_add₀ two_ne_zero, zpow_natCast]
    field_simp
  have hn : n = roundEven (y * 2 ^ e / 2 ^ t) := hx ▸ (h.shiftRight k).rounded
  have ht : -149 ≤ t := (target_eq m e).ge.trans' (le_max_right _ _)
  obtain ⟨hnearest, hbound, hfull⟩ := nearestAbs_eq hlo hhi he hn
  obtain ⟨m', e', hcarry, hfits, hsame⟩ := carry hbound ht hfull
  rw [hsame] at hnearest
  have hround : roundWithAccuracy Format.binary32 s m e acc =
      if hz : m' = 0 then .zero s else .finite s m' e' (Nat.pos_of_ne_zero hz) := by
    rw [roundWithAccuracy]
    change (let last := shiftToTargetExponent Format.binary32 n (e + k) .exact
      if hz : last.1.mantissa = 0 then UnpackedFloat.zero s
      else .finite s last.1.mantissa last.2 (Nat.pos_of_ne_zero hz)) = _
    rw [hk, hcarry]
  rw [hround]
  split
  next hz =>
    rw [hz, Nat.cast_zero, zero_mul] at hnearest
    exact .zero hnearest
  next hz => exact .finite _ hfits hnearest

theorem neg_apply (s : Sign) (m : ℕ) : (((-s).apply m : ℤ) : ℚ) = -(s.apply m : ℤ) := by
  cases s
  · exact (neg_neg _).symm.trans (congrArg _ (Int.cast_neg _).symm)
  · exact Int.cast_neg _

theorem apply_eq (s : Sign) (m : ℕ) : (s.apply m : ℚ) = s.apply 1 * m := by
  cases s <;> simp [Sign.apply]

theorem mul_apply (s s' : Sign) : (s * s').apply 1 = s.apply 1 * s'.apply 1 := by
  cases s <;> cases s' <;> rfl

theorem div_apply (s s' : Sign) : s.apply 1 = (s / s').apply 1 * s'.apply 1 := by
  cases s <;> cases s' <;> rfl

/-- The unpacked result of an operation whose exact result is `x`. -/
inductive Yields (x : ℚ) (u : UnpackedFloat) : Prop
  | of_rounds {s : Sign} (h : Rounds s |x| u) (hs : (s.apply 1 : ℚ) * |x| = x) : Yields x u

theorem nearest_of_sign (h : (s.apply 1 : ℚ) * |x| = x) : nearest x = s.apply 1 * nearestAbs |x| := by
  cases s with
  | positive =>
      have hx : |x| = x := by simpa [Sign.apply] using h
      rw [hx, nearest_of_nonneg (abs_eq_self.1 hx)]
      simp [Sign.apply]
  | negative =>
      have hx : -|x| = x := by simpa [Sign.apply] using h
      have hneg : nearest x = -nearestAbs |x| := by
        rw [← nearest_of_nonneg (abs_nonneg x), ← nearest_neg, hx]
      rw [hneg]
      simp [Sign.apply]

theorem Fits.lt_top_iff (h : Fits m e) : (m : ℚ) * 2 ^ e < 2 ^ 128 ↔ e ≤ 104 := by
  constructor
  · intro hlt
    by_contra hle
    have hfull : (2 ^ 23 : ℚ) ≤ m := by exact_mod_cast h.full.resolve_right (by omega)
    have hscale : (2 : ℚ) ^ (105 : ℤ) ≤ 2 ^ e := scale_le_scale (by omega)
    have hprod := mul_le_mul hfull hscale (scale_pos _).le (Nat.cast_nonneg m)
    norm_num at hprod hlt
    linarith
  · intro hle
    have hscale : (2 : ℚ) ^ e ≤ 2 ^ (104 : ℤ) := scale_le_scale hle
    have hm : (m : ℚ) < 2 ^ 24 := by exact_mod_cast h.digits
    have hprod := mul_lt_mul_of_lt_of_le_of_nonneg_of_pos hm hscale (Nat.cast_nonneg m) (scale_pos _)
    norm_num at hprod ⊢
    linarith

theorem value_of_yields {u : UnpackedFloat} (h : Yields x u) (htop : |nearest x| < 2 ^ 128) :
    valueOf (Float32.Model.pack u).unpack = some (nearest x) := by
  obtain ⟨hrounds, hs⟩ := h
  rw [abs_nearest] at htop
  rw [nearest_of_sign hs]
  cases hrounds with
  | zero hx =>
      rw [unpack_pack_zero, hx, mul_zero]
      rfl
  | @finite m e hm hfits hx =>
      rw [hx] at htop ⊢
      have hexp : e ≤ 104 := hfits.lt_top_iff.1 htop
      rw [unpack_pack hfits hexp, valueOf]
      rename_i s'
      cases s' <;> simp [Sign.apply]

theorem yields_canonical (hfits : Fits m e) (h : 0 < m) : Yields (s.apply m * 2 ^ e) (.finite s m e h) := by
  refine .of_rounds (s := s) (.finite h hfits ?_) ?_
  · rw [abs_apply, ← nearest_of_nonneg (by positivity)]
    exact nearest_of_representable ⟨m, e, hfits.digits, hfits.least, abs_of_nonneg (by positivity)⟩
  · rw [abs_apply]
    cases s <;> simp [Sign.apply]

theorem yields_zero (s : Sign) : Yields 0 (.zero s) := by
  refine .of_rounds (s := s) (.zero ?_) (by rw [abs_zero, mul_zero])
  rw [abs_zero, ← nearest_of_nonneg le_rfl, nearest_zero]

theorem represents_exact (m : ℕ) : Represents (.ofMantissaAndAccuracy m .exact) m := rfl

theorem log2_shiftLeft (hm : 0 < m) (k : ℕ) : (m <<< k).log2 = m.log2 + k := by
  rw [Nat.shiftLeft_eq, Nat.log2_eq_iff (by positivity), pow_add, add_right_comm, pow_add]
  exact ⟨Nat.mul_le_mul_right _ (Nat.log2_self_le hm.ne'),
    Nat.mul_lt_mul_of_pos_right Nat.lt_log2_self (by positivity)⟩

theorem rounds_round (s : Sign) (hm : 0 < m) (e : ℤ) :
    Rounds s (m * 2 ^ e) (round Format.binary32 s m e) := by
  let t := Format.binary32.targetExponent (totalExponent m e)
  let k := (e - t).toNat
  have hvalue : (m : ℚ) * 2 ^ e = (m <<< k : ℕ) * 2 ^ (e - k) := by
    rw [Nat.shiftLeft_eq, natCast_mul_scale m (Int.sub_le_self e (Int.natCast_nonneg k))]
    congr 4
    omega
  have htarget : e - k ≤ Format.binary32.targetExponent (totalExponent (m <<< k) (e - k)) := by
    have ht : t = max (m.log2 + e - 23) (-149) := target_eq m e
    rw [target_eq, log2_shiftLeft hm]
    push_cast
    omega
  rw [hvalue]
  exact rounds_roundWithAccuracy s (represents_exact _) htarget

theorem yields_normalize (m : ℤ) (e : ℤ) (z : Sign) :
    Yields (m * 2 ^ e) (UnpackedFloat.normalize Format.binary32 m e z) := by
  have hround (s : Sign) (hs : m = s.apply m.natAbs) (hm : m ≠ 0) :
      Yields (m * 2 ^ e) (round Format.binary32 s m.natAbs e) := by
    have hrounds := rounds_round s (Int.natAbs_pos.2 hm) e
    have habs : |(m : ℚ) * 2 ^ e| = m.natAbs * 2 ^ e := by
      rw [abs_mul, abs_of_pos (scale_pos e), Nat.cast_natAbs, Int.cast_abs]
    refine .of_rounds (s := s) (habs ▸ hrounds) ?_
    have hcast : (m : ℚ) = s.apply m.natAbs := by exact_mod_cast hs
    rw [habs, hcast]
    cases s <;> simp [Sign.apply]
  rw [UnpackedFloat.normalize]
  rcases lt_trichotomy m 0 with h | rfl | h
  · rw [compare_lt_iff_lt.2 h]
    have hnat : (-m).toNat = m.natAbs := by omega
    have hs : m = Sign.negative.apply m.natAbs := by
      simp only [Sign.apply]
      omega
    exact hnat ▸ hround .negative hs h.ne
  · rw [compare_eq_iff_eq.2 rfl, Int.cast_zero, zero_mul]
    exact yields_zero z
  · rw [compare_gt_iff_gt.2 h]
    have hnat : m.toNat = m.natAbs := by omega
    have hs : m = Sign.positive.apply m.natAbs := by
      simp only [Sign.apply]
      omega
    exact hnat ▸ hround .positive hs h.ne'

theorem decreaseExponent_value (s : Sign) (m : ℕ) {t : ℤ} (h : t ≤ e) :
    (s.apply m : ℚ) * 2 ^ e = ((s.apply (decreaseExponent m e t).1 : ℤ) : ℚ) * 2 ^ t := by
  have hshift : (m : ℚ) * 2 ^ e = ((decreaseExponent m e t).1 : ℕ) * 2 ^ t := by
    rw [natCast_mul_scale m h, ← Nat.shiftLeft_eq]
    rfl
  cases s <;> simp [Sign.apply, hshift]

section Finite

variable {s' : Sign} {m' : ℕ} {e' : ℤ}

theorem yields_add (h : 0 < m) (h' : 0 < m') :
    Yields (s.apply m * 2 ^ e + s'.apply m' * 2 ^ e')
      (UnpackedFloat.add Format.binary32 (.finite s m e h) (.finite s' m' e' h')) := by
  rw [decreaseExponent_value s m (min_le_left e e'), decreaseExponent_value s' m' (min_le_right e e'),
    ← add_mul, ← Int.cast_add]
  exact yields_normalize _ _ _

theorem yields_sub (h : 0 < m) (h' : 0 < m') :
    Yields (s.apply m * 2 ^ e - s'.apply m' * 2 ^ e')
      (UnpackedFloat.sub Format.binary32 (.finite s m e h) (.finite s' m' e' h')) := by
  rw [decreaseExponent_value s m (min_le_left e e'), decreaseExponent_value s' m' (min_le_right e e'),
    ← sub_mul, ← Int.cast_sub]
  exact yields_normalize _ _ _

theorem yields_mul (h : 0 < m) (h' : 0 < m') (henough : 2 ^ 23 ≤ m * m' ∨ e + e' ≤ -149) :
    Yields (s.apply m * 2 ^ e * (s'.apply m' * 2 ^ e'))
      (UnpackedFloat.mul Format.binary32 (.finite s m e h) (.finite s' m' e' h')) := by
  have habs : |(s.apply m : ℚ) * 2 ^ e * (s'.apply m' * 2 ^ e')| = (m * m' : ℕ) * 2 ^ (e + e') := by
    rw [abs_mul, abs_apply, abs_apply, zpow_add₀ two_ne_zero]
    push_cast
    ring
  have htarget : e + e' ≤ Format.binary32.targetExponent (totalExponent (m * m') (e + e')) := by
    rw [target_eq]
    rcases henough with hfull | hleast
    · have hlog : 23 ≤ (m * m').log2 := (Nat.le_log2 (Nat.mul_pos h h').ne').2 hfull
      omega
    · omega
  refine .of_rounds (s := s * s') ?_ ?_
  · rw [habs]
    exact rounds_roundWithAccuracy (s * s') (represents_exact _) htarget
  · rw [habs, zpow_add₀ two_ne_zero, mul_apply, apply_eq s m, apply_eq s' m']
    push_cast
    ring

/-- Two singles have digits enough for their product. -/
theorem Fits.enough (hfits : Fits m e) (hfits' : Fits m' e') (h : 0 < m) (h' : 0 < m') :
    2 ^ 23 ≤ m * m' ∨ e + e' ≤ -149 := by
  rcases hfits.full with hfull | hleast
  · exact .inl (hfull.trans (Nat.le_mul_of_pos_right m h'))
  · rcases hfits'.full with hfull | hleast'
    · exact .inl (hfull.trans (Nat.le_mul_of_pos_left m' h))
    · exact .inr (by omega)

theorem represents_quotient (n : ℕ) (h : 0 < m) :
    Represents (.ofMantissaAndAccuracy (n / m) (accuracyOfFraction (n % m) m)) (n / m : ℚ) := by
  have hsplit : (n : ℚ) / m = (n / m : ℕ) + (n % m : ℕ) / m := by
    have hdiv : ((n / m : ℕ) : ℚ) * m + (n % m : ℕ) = n := by exact_mod_cast Nat.div_add_mod' n m
    have hm : (m : ℚ) ≠ 0 := by exact_mod_cast h.ne'
    field_simp
    linarith
  have hm : (0 : ℚ) < m := by exact_mod_cast h
  have hrest : ((n % m : ℕ) : ℚ) / m < 1 := by
    rw [div_lt_one hm]
    exact_mod_cast Nat.mod_lt n h
  rw [hsplit, accuracyOfFraction]
  split
  next hzero =>
    rw [hzero, Nat.cast_zero, zero_div, add_zero]
    exact represents_exact _
  next hsome =>
    have hpos : (0 : ℚ) < (n % m : ℕ) / m := div_pos (by exact_mod_cast Nat.pos_of_ne_zero hsome) hm
    rcases lt_trichotomy (2 * (n % m)) m with hlt | heq | hgt
    · have hhalf : ((n % m : ℕ) : ℚ) / m < 1 / 2 := by
        have : (2 : ℚ) * (n % m : ℕ) < m := by exact_mod_cast hlt
        rw [div_lt_div_iff₀ hm two_pos]
        linarith
      rw [compare_lt_iff_lt.2 hlt]
      change ((n / m : ℕ) : ℚ) < _ ∧ _ < ((n / m : ℕ) : ℚ) + 1 / 2
      constructor <;> linarith
    · have hhalf : ((n % m : ℕ) : ℚ) / m = 1 / 2 := by
        have : (2 : ℚ) * (n % m : ℕ) = m := by exact_mod_cast heq
        rw [div_eq_div_iff hm.ne' two_ne_zero]
        linarith
      rw [compare_eq_iff_eq.2 heq, hhalf]
      rfl
    · have hhalf : 1 / 2 < ((n % m : ℕ) : ℚ) / m := by
        have : (m : ℚ) < 2 * (n % m : ℕ) := by exact_mod_cast hgt
        rw [div_lt_div_iff₀ two_pos hm]
        linarith
      rw [compare_gt_iff_gt.2 hgt]
      change ((n / m : ℕ) : ℚ) + 1 / 2 < _ ∧ _ < ((n / m : ℕ) : ℚ) + 1
      constructor <;> linarith

theorem yields_div (h : 0 < m) (h' : 0 < m') :
    Yields (s.apply m * 2 ^ e / (s'.apply m' * 2 ^ e'))
      (UnpackedFloat.div Format.binary32 (.finite s m e h) (.finite s' m' e' h')) := by
  let t := min (e - e') (Format.binary32.targetExponent (totalExponent m e - totalExponent m' e'))
  let n := m <<< (e - e' - t).toNat
  have hm' : (m' : ℚ) ≠ 0 := by exact_mod_cast h'.ne'
  have hn : (m : ℚ) * 2 ^ (e - e') = n * 2 ^ t := by
    rw [natCast_mul_scale m (min_le_left _ _ : t ≤ e - e'), ← Nat.shiftLeft_eq]
  have habs : |(s.apply m : ℚ) * 2 ^ e / (s'.apply m' * 2 ^ e')| = n / m' * 2 ^ t := by
    rw [abs_div, abs_apply, abs_apply, div_mul_eq_mul_div, ← hn, zpow_sub₀ two_ne_zero]
    field_simp
  have htarget : t ≤ Format.binary32.targetExponent (totalExponent (n / m') t) := by
    have ht : t ≤ max (((m.log2 : ℤ) + 1 + e - (m'.log2 + 1 + e')) - 24) (-149) := min_le_right _ _
    have hte : t ≤ e - e' := min_le_left _ _
    rw [target_eq]
    rcases le_or_gt t (-149) with hleast | hmore
    · omega
    · -- enough digits are left once the divisor's are taken away
      have hlog : m'.log2 + 24 ≤ n.log2 := by
        have hshift : n.log2 = m.log2 + (e - e' - t).toNat := log2_shiftLeft h _
        omega
      have hpos : 0 < n := Nat.pos_of_ne_zero fun h0 => by
        rw [h0, Nat.log2_zero] at hlog
        omega
      have hquot : 2 ^ 23 ≤ n / m' := by
        rw [Nat.le_div_iff_mul_le h']
        calc 2 ^ 23 * m' ≤ 2 ^ 23 * 2 ^ (m'.log2 + 1) := Nat.mul_le_mul_left _ Nat.lt_log2_self.le
          _ = 2 ^ (m'.log2 + 24) := by ring
          _ ≤ n := (Nat.le_log2 hpos.ne').1 hlog
      have hdigits := (Nat.le_log2 (Nat.pos_of_ne_zero (by omega) : 0 < n / m').ne').2 hquot
      omega
  refine .of_rounds (s := s / s') ?_ ?_
  · rw [habs]
    exact rounds_roundWithAccuracy (s / s') (represents_quotient n h') htarget
  · have hsign : (s'.apply 1 : ℚ) ≠ 0 := by
      cases s' <;> simp [Sign.apply]
    rw [habs, apply_eq s m, apply_eq s' m', div_apply s s', div_mul_eq_mul_div, ← hn,
      zpow_sub₀ two_ne_zero]
    push_cast
    field_simp

end Finite

theorem yields_of_add (hf : value? f = some q) (hg : value? g = some r) :
    Yields (q + r) (UnpackedFloat.add Format.binary32 f.toModel.unpack g.toModel.unpack) := by
  rcases exists_of_value? hf with ⟨s, hu, rfl⟩ | ⟨s, m, e, hm, hu, hfits, -, rfl⟩ <;>
    rcases exists_of_value? hg with ⟨s', hu', rfl⟩ | ⟨s', m', e', hm', hu', hfits', -, rfl⟩ <;>
    rw [hu, hu']
  · rw [add_zero]
    change Yields 0 (if s == s' then .zero s else .zero .positive)
    split
    · exact yields_zero s
    · exact yields_zero .positive
  · rw [zero_add]
    exact yields_canonical hfits' hm'
  · rw [add_zero]
    exact yields_canonical hfits hm
  · exact yields_add hm hm'

theorem value?_add (hf : value? f = some q) (hg : value? g = some r) (htop : |nearest (q + r)| < 2 ^ 128) :
    value? (f + g) = some (nearest (q + r)) := value_of_yields (yields_of_add hf hg) htop

def Overflows (f : Float32) : Prop := f.toModel.unpack = .infinity .positive

theorem Overflows.not_le (h : Overflows f) (hg : value? g = some r) : ¬ f ≤ g := by
  intro hle
  have hle : f.toModel.unpack.le g.toModel.unpack = true := decide_eq_true_iff.1 hle
  rw [h, UnpackedFloat.le] at hle
  rcases exists_of_value? hg with ⟨s, hu, -⟩ | ⟨s, m, e, hm, hu, -⟩ <;> rw [hu] at hle
  · cases hle
  · cases hle

theorem Overflows.add (h : Overflows f) (hg : value? g = some r) : Overflows (f + g) := by
  change (Float32.Model.pack (UnpackedFloat.add Format.binary32 f.toModel.unpack g.toModel.unpack)).unpack = _
  rw [h]
  rcases exists_of_value? hg with ⟨s, hu, -⟩ | ⟨s, m, e, hm, hu, -⟩ <;> rw [hu]
  · exact unpack_pack_infinity .positive
  · exact unpack_pack_infinity .positive

theorem overflows_of_yields {u : UnpackedFloat} (h : Yields x u) (hx : 0 < x)
    (htop : 2 ^ 128 ≤ nearest x) : (Float32.Model.pack u).unpack = .infinity .positive := by
  obtain ⟨hrounds, hs⟩ := h
  rw [abs_of_pos hx] at hrounds hs
  rw [nearest_of_nonneg hx.le] at htop
  cases hrounds with
  | zero hzero => norm_num [hzero] at htop
  | @finite m e hm hfits hvalue =>
      rename_i s
      have hexp : 104 < e := by rwa [hvalue, ← not_lt, hfits.lt_top_iff, not_le] at htop
      rw [unpack_pack_top hexp]
      cases s with
      | positive => rfl
      | negative =>
          norm_num [Sign.apply] at hs
          linarith

/-- A sum of numbers that are not below zero is rounded or too large. -/
theorem value?_add_or (hf : value? f = some q) (hg : value? g = some r) (hq : 0 ≤ q) (hr : 0 ≤ r) :
    value? (f + g) = some (nearest (q + r)) ∨ Overflows (f + g) ∧ 2 ^ 128 ≤ nearest (q + r) := by
  rcases lt_or_ge |nearest (q + r)| (2 ^ 128) with h | h
  · exact .inl (value?_add hf hg h)
  · rw [abs_of_nonneg (nearest_nonneg (add_nonneg hq hr))] at h
    have hpos : 0 < q + r := by
      refine (add_nonneg hq hr).lt_of_ne fun h0 => ?_
      rw [← h0, nearest_zero] at h
      norm_num at h
    exact .inr ⟨overflows_of_yields (yields_of_add hf hg) hpos h, h⟩

theorem value?_sub (hf : value? f = some q) (hg : value? g = some r) (htop : |nearest (q - r)| < 2 ^ 128) :
    value? (f - g) = some (nearest (q - r)) := by
  refine value_of_yields ?_ htop
  rcases exists_of_value? hf with ⟨s, hu, rfl⟩ | ⟨s, m, e, hm, hu, hfits, -, rfl⟩ <;>
    rcases exists_of_value? hg with ⟨s', hu', rfl⟩ | ⟨s', m', e', hm', hu', hfits', -, rfl⟩ <;>
    rw [hu, hu']
  · rw [sub_zero]
    change Yields 0 (if s == -s' then .zero s else .zero .positive)
    split
    · exact yields_zero s
    · exact yields_zero .positive
  · rw [zero_sub, ← neg_mul, ← neg_apply]
    exact yields_canonical hfits' hm'
  · rw [sub_zero]
    exact yields_canonical hfits hm
  · exact yields_sub hm hm'

theorem yields_of_mul (hf : value? f = some q) (hg : value? g = some r) :
    Yields (q * r) (UnpackedFloat.mul Format.binary32 f.toModel.unpack g.toModel.unpack) := by
  rcases exists_of_value? hf with ⟨s, hu, rfl⟩ | ⟨s, m, e, hm, hu, hfits, -, rfl⟩ <;>
    rcases exists_of_value? hg with ⟨s', hu', rfl⟩ | ⟨s', m', e', hm', hu', hfits', -, rfl⟩ <;>
    rw [hu, hu']
  · rw [mul_zero]
    exact yields_zero _
  · rw [zero_mul]
    exact yields_zero _
  · rw [mul_zero]
    exact yields_zero _
  · exact yields_mul hm hm' (hfits.enough hfits' hm hm')

theorem value?_mul (hf : value? f = some q) (hg : value? g = some r) (htop : |nearest (q * r)| < 2 ^ 128) :
    value? (f * g) = some (nearest (q * r)) := value_of_yields (yields_of_mul hf hg) htop

theorem yields_of_div (hf : value? f = some q) (hg : value? g = some r) (hr : r ≠ 0) :
    Yields (q / r) (UnpackedFloat.div Format.binary32 f.toModel.unpack g.toModel.unpack) := by
  rcases exists_of_value? hg with ⟨s', -, rfl⟩ | ⟨s', m', e', hm', hu', -, -, rfl⟩
  · exact absurd rfl hr
  · rcases exists_of_value? hf with ⟨s, hu, rfl⟩ | ⟨s, m, e, hm, hu, -, -, rfl⟩ <;> rw [hu, hu']
    · rw [zero_div]
      exact yields_zero _
    · exact yields_div hm hm'

theorem value?_div (hf : value? f = some q) (hg : value? g = some r) (hr : r ≠ 0)
    (htop : |nearest (q / r)| < 2 ^ 128) : value? (f / g) = some (nearest (q / r)) :=
  value_of_yields (yields_of_div hf hg hr) htop

end RecursiveMatrix.Binary32
