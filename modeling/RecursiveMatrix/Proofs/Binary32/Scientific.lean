import RecursiveMatrix.Proofs.Binary32.Error

namespace RecursiveMatrix.Binary32

open Float.Model Float.Model.UnpackedFloat

variable {s : Sign} {m : ℕ} {e : ℤ} {x : ℚ} {f g : Float32} {u : UnpackedFloat}

/-- The sign of a single, which a zero has too. -/
def sign? (f : Float32) : Option Sign :=
  match f.toModel.unpack with
  | .infinity s | .zero s | .finite s _ _ _ => some s
  | .notANumber => none

theorem isInf_iff : f.isInf = true ↔ ∃ s, f.toModel.unpack = .infinity s := by
  change f.toModel.unpack.isInf = true ↔ _
  cases f.toModel.unpack <;> simp [UnpackedFloat.isInf]

theorem unpack_of_isInf (hs : sign? f = some s) (h : f.isInf = true) : f.toModel.unpack = .infinity s := by
  obtain ⟨s', hu⟩ := isInf_iff.1 h
  rw [sign?, hu] at hs
  rw [hu, Option.some.inj hs]

theorem canonical_neg (h : Canonical u) : Canonical u.neg := by
  cases h with
  | infinity s => exact .infinity _
  | notANumber => exact .notANumber
  | zero s => exact .zero _
  | finite s h fits top => exact .finite _ h fits top

theorem unpack_neg (f : Float32) : (-f).toModel.unpack = f.toModel.unpack.neg :=
  unpack_pack_canonical (canonical_neg (canonical_unpack f.toModel))

theorem neg_involutive : Function.Involutive (Neg.neg : Float32 → Float32) := by
  intro f
  apply unpack_injective
  rw [unpack_neg, unpack_neg]
  cases f.toModel.unpack with
  | notANumber => rfl
  | infinity s | zero s | finite s m e h => cases s <;> rfl

/-- A number and the sign of it, for the sake of the two zeros, tell a single. -/
theorem eq_of_value? (hs : sign? f = sign? g) (hf : value? f = some x) (hg : value? g = some x) : f = g := by
  apply unpack_injective
  rcases exists_of_value? hf with ⟨s, hu, rfl⟩ | ⟨s, m, e, hm, hu, hfits, -, rfl⟩ <;>
    rcases exists_of_value? hg with ⟨s', hu', hx⟩ | ⟨s', m', e', hm', hu', hfits', -, hx⟩ <;>
    rw [sign?, sign?, hu, hu'] at hs <;> obtain rfl := Option.some.inj hs <;> rw [hu, hu']
  · exact absurd hx.symm (apply_ne_zero hm')
  · exact absurd hx (apply_ne_zero hm)
  · have habs := congrArg (|·|) hx
    simp only [abs_apply] at habs
    obtain ⟨rfl, rfl⟩ := hfits.unique hfits' habs
    rfl

/-- `f` is the single nearest to a number of the size `x` with the sign `s`, or an infinity where the
number is too large for any. -/
structure IsNearest (s : Sign) (x : ℚ) (f : Float32) : Prop where
  sign : sign? f = some s
  finite : nearest x < 2 ^ 128 → value? f = some (s.apply 1 * nearest x)
  infinite : 2 ^ 128 ≤ nearest x → f.isInf = true

theorem IsNearest.unique (h : IsNearest s x f) (h' : IsNearest s x g) : f = g := by
  rcases lt_or_ge (nearest x) (2 ^ 128) with hx | hx
  · exact eq_of_value? (h.sign.trans h'.sign.symm) (h.finite hx) (h'.finite hx)
  · apply unpack_injective
    rw [unpack_of_isInf h.sign (h.infinite hx), unpack_of_isInf h'.sign (h'.infinite hx)]

theorem sign?_neg (h : sign? f = some s) : sign? (-f) = some (-s) := by
  rw [sign?] at h ⊢
  rw [unpack_neg]
  cases hu : f.toModel.unpack with
  | notANumber =>
      rw [hu] at h
      cases h
  | infinity | zero | finite =>
      rw [hu] at h
      cases h
      rfl

theorem value?_neg (h : value? f = some x) : value? (-f) = some (-x) := by
  rw [value?] at h ⊢
  rw [unpack_neg]
  cases hu : f.toModel.unpack with
  | infinity | notANumber =>
      rw [hu] at h
      cases h
  | zero s =>
      rw [hu] at h
      cases h
      rw [neg_zero]
      rfl
  | finite s m e hm =>
      rw [hu] at h
      cases h
      change some (((-s).apply m : ℚ) * 2 ^ e) = _
      rw [neg_apply, neg_mul]

theorem isNaN_neg (h : f.isNaN = true) : (-f).isNaN = true := by
  apply UnpackedFloat.isNaN_iff.2
  rw [unpack_neg, UnpackedFloat.isNaN_iff.1 h]
  rfl

theorem isInf_neg (h : f.isInf = true) : (-f).isInf = true := by
  obtain ⟨s, hu⟩ := isInf_iff.1 h
  refine isInf_iff.2 ⟨-s, ?_⟩
  rw [unpack_neg, hu]
  rfl

theorem IsNearest.neg (h : IsNearest s x f) : IsNearest (-s) x (-f) where
  sign := sign?_neg h.sign
  finite hx := by
    have hneg : (((-s).apply 1 : ℤ) : ℚ) = -(s.apply 1 : ℤ) := by exact_mod_cast neg_apply s 1
    rw [hneg, neg_mul]
    exact value?_neg (h.finite hx)
  infinite hx := isInf_neg (h.infinite hx)

theorem isNearest_of_rounds (hx : 0 ≤ x) (h : Rounds s x u) : IsNearest s x (.ofModel (.pack u)) := by
  have hnearest := nearest_of_nonneg hx
  cases h with
  | zero hzero =>
      refine ⟨by rw [sign?, unpack_pack_zero], fun _ => ?_, fun hlarge => ?_⟩
      · rw [value?, unpack_pack_zero, hnearest, hzero, mul_zero]
        rfl
      · rw [hnearest, hzero] at hlarge
        norm_num at hlarge
  | @finite m e hm hfits hvalue =>
      rw [← hnearest] at hvalue
      rcases le_or_gt e 104 with htop | htop
      · have hunpack := unpack_pack (s := s) (h := hm) hfits htop
        refine ⟨by rw [sign?, hunpack], fun _ => ?_, fun hlarge => ?_⟩
        · rw [value?, hunpack, hvalue, valueOf, apply_eq, mul_assoc]
        · rw [hvalue, ← not_lt, hfits.lt_top_iff] at hlarge
          exact absurd htop hlarge
      · have hunpack := unpack_pack_top (s := s) (h := hm) htop
        refine ⟨by rw [sign?, hunpack], fun hsmall => ?_, fun _ => isInf_iff.2 ⟨s, hunpack⟩⟩
        rw [hvalue, hfits.lt_top_iff] at hsmall
        omega

theorem isNearest_of_yields (hx : 0 < x) (h : Yields x u) :
    IsNearest .positive x (.ofModel (.pack u)) := by
  obtain @⟨s, hrounds, hs⟩ := h
  rw [abs_of_pos hx] at hrounds hs
  cases s with
  | positive => exact isNearest_of_rounds hx.le hrounds
  | negative =>
      norm_num [Sign.apply] at hs
      linarith

theorem mantissa_lt (m : ℕ) : (m : ℚ) < 2 * 2 ^ m.log2 := by
  rw [← pow_succ']
  exact_mod_cast Nat.lt_log2_self

theorem tenfold_large (hm : 0 < m) (he : 256 < e) : (2 : ℚ) ^ 128 ≤ m * 10 ^ e := by
  have hone : (1 : ℚ) ≤ m := by exact_mod_cast hm
  have hten : (10 : ℚ) ^ (256 : ℤ) ≤ 10 ^ e := zpow_le_zpow_right₀ (by norm_num) he.le
  have htwo : (2 : ℚ) ^ 128 ≤ 10 ^ (256 : ℤ) := by norm_num
  exact htwo.trans (hten.trans (le_mul_of_one_le_left (by positivity) hone))

theorem tenfold_small (he : e < -(256 + m.log2)) : (m : ℚ) * 10 ^ e < 2 ^ (-150 : ℤ) := by
  have hten : (10 : ℚ) ^ e ≤ 10 ^ (-256 - m.log2 : ℤ) := zpow_le_zpow_right₀ (by norm_num) (by omega)
  have hpow : (2 : ℚ) ^ m.log2 ≤ 10 ^ m.log2 := pow_le_pow_left₀ (by norm_num) (by norm_num) _
  have hpos : (0 : ℚ) < 10 ^ m.log2 := by positivity
  calc (m : ℚ) * 10 ^ e ≤ m * 10 ^ (-256 - m.log2 : ℤ) := mul_le_mul_of_nonneg_left hten (by positivity)
    _ = m / 10 ^ m.log2 * 10 ^ (-256 : ℤ) := by
      rw [zpow_sub₀ (by norm_num), zpow_natCast]
      ring
    _ ≤ 2 * 10 ^ (-256 : ℤ) := by
      refine mul_le_mul_of_nonneg_right ?_ (by positivity)
      rw [div_le_iff₀ hpos]
      linarith [mantissa_lt m]
    _ < 2 ^ (-150 : ℤ) := by norm_num

theorem isNearest_infinity (h : 2 ^ 128 ≤ nearest x) : IsNearest s x (.ofModel (.pack (.infinity s))) := by
  refine ⟨by rw [sign?, unpack_pack_infinity], fun hsmall => absurd h hsmall.not_ge, fun _ => ?_⟩
  exact isInf_iff.2 ⟨s, unpack_pack_infinity s⟩

theorem yields_tenfold (hm : 0 < m) (k : ℕ) (hshift : 0 < m <<< 24) (hten : 0 < 10 ^ k) :
    Yields (m * 10 ^ k) (UnpackedFloat.mul Format.binary32 (.finite .positive (m <<< 24) (-24) hshift)
      (.finite .positive (10 ^ k) 0 hten)) := by
  have hfull : 2 ^ 23 ≤ m <<< 24 * 10 ^ k := by
    rw [Nat.shiftLeft_eq]
    calc 2 ^ 23 ≤ m * 2 ^ 24 := by omega
      _ ≤ m * 2 ^ 24 * 10 ^ k := Nat.le_mul_of_pos_right _ hten
  have hvalue : (m : ℚ) * (10 : ℚ) ^ k =
      (Sign.positive.apply (m <<< 24 : ℕ) : ℤ) * 2 ^ (-24 : ℤ) *
        ((Sign.positive.apply (10 ^ k : ℕ) : ℤ) * 2 ^ (0 : ℤ)) := by
    rw [Nat.shiftLeft_eq, Sign.apply, Sign.apply]
    push_cast
    norm_num
    ring
  rw [hvalue]
  exact yields_mul hshift hten (.inl hfull)

theorem yields_tenth (hm : 0 < m) (k : ℕ) (hten : 0 < 10 ^ k) : Yields (m / 10 ^ k)
    (UnpackedFloat.div Format.binary32 (.finite .positive m 0 hm) (.finite .positive (10 ^ k) 0 hten)) := by
  have hvalue : (m : ℚ) / 10 ^ k =
      (Sign.positive.apply m : ℤ) * 2 ^ (0 : ℤ) / ((Sign.positive.apply (10 ^ k : ℕ) : ℤ) * 2 ^ (0 : ℤ)) := by
    rw [Sign.apply, Sign.apply]
    push_cast
    norm_num
  rw [hvalue]
  exact yields_div hm hten

/-- What is written in digits with a power of ten is rounded once. -/
theorem isNearest_scientific (m : ℕ) (e : ℤ) :
    IsNearest .positive (m * 10 ^ e) (.ofModel (.ofScientific m e)) := by
  have hnonneg : (0 : ℚ) ≤ m * 10 ^ e := by positivity
  rw [Float32.Model.ofScientific, UnpackedFloat.ofScientific]
  split
  next hm =>
    refine isNearest_of_rounds hnonneg (.zero ?_)
    rw [hm, Nat.cast_zero, zero_mul, ← nearest_of_nonneg le_rfl, nearest_zero]
  next hm =>
    have hm := Nat.pos_of_ne_zero hm
    have hpos : (0 : ℚ) < m * 10 ^ e := mul_pos (by exact_mod_cast hm) (by positivity)
    split
    next hlarge =>
      have hr : Representable (2 ^ 128) := by exact_mod_cast representable_scale (e := 128) (by norm_num)
      exact isNearest_infinity (le_nearest hr (tenfold_large hm hlarge))
    next =>
      split
      next hsmall =>
        exact isNearest_of_rounds hnonneg (.zero (nearestAbs_eq_zero hnonneg (tenfold_small hsmall)))
      next =>
        split
        next he =>
          obtain ⟨k, rfl⟩ := Int.eq_ofNat_of_zero_le he
          rw [zpow_natCast] at hpos ⊢
          exact isNearest_of_yields hpos (yields_tenfold hm k _ _)
        next he =>
          have hk : e = -(-e).toNat := by omega
          have hvalue : (m : ℚ) * 10 ^ e = m / 10 ^ (-e).toNat := by
            conv_lhs => rw [hk, zpow_neg, zpow_natCast, ← div_eq_mul_inv]
          rw [hvalue] at hpos ⊢
          exact isNearest_of_yields hpos (yields_tenth hm _ _)

/-- Up to the tenth power they are singles. -/
theorem value?_powerOfTen (k : Fin Float32.exactlyRepresentablePowersOfTen.size) :
    value? Float32.exactlyRepresentablePowersOfTen[k] = some (10 ^ k.val) := by
  have hvalue {f : Float32} {m k : ℕ} {e : ℤ} {h : 0 < m} (hu : f.toModel.unpack = .finite .positive m e h)
      (hq : (m : ℚ) * 2 ^ e = 10 ^ k) : value? f = some (10 ^ k) := by
    rw [value?_of_unpack hu, ← hq]
    rfl
  change Fin 11 at k
  fin_cases k
  · exact hvalue (m := 2 ^ 23) (e := -23) (h := by decide) rfl (by norm_num)
  · exact hvalue (m := 10 * 2 ^ 20) (e := -20) (h := by decide) rfl (by norm_num)
  · exact hvalue (m := 10 ^ 2 * 2 ^ 17) (e := -17) (h := by decide) rfl (by norm_num)
  · exact hvalue (m := 10 ^ 3 * 2 ^ 14) (e := -14) (h := by decide) rfl (by norm_num)
  · exact hvalue (m := 10 ^ 4 * 2 ^ 10) (e := -10) (h := by decide) rfl (by norm_num)
  · exact hvalue (m := 10 ^ 5 * 2 ^ 7) (e := -7) (h := by decide) rfl (by norm_num)
  · exact hvalue (m := 10 ^ 6 * 2 ^ 4) (e := -4) (h := by decide) rfl (by norm_num)
  · exact hvalue (m := 10 ^ 7) (e := 0) (h := by decide) rfl (by norm_num)
  · exact hvalue (m := 10 ^ 8 / 2 ^ 3) (e := 3) (h := by decide) rfl (by norm_num)
  · exact hvalue (m := 10 ^ 9 / 2 ^ 6) (e := 6) (h := by decide) rfl (by norm_num)
  · exact hvalue (m := 10 ^ 10 / 2 ^ 10) (e := 10) (h := by decide) rfl (by norm_num)

theorem isNearest_product {k : ℕ} (hm : 0 < m) (h : m < 2 ^ 23) (hk : k < 11) (inverse : Bool) :
    IsNearest .positive (m * 10 ^ (if inverse then -k else k : ℤ)) (.ofScientific m inverse k) := by
  have hword : m.toUInt64.toNat = m := UInt64.toNat_ofNat_of_lt' (h.trans (by norm_num))
  have hdigits := value?_toFloat32 (hword.trans_lt (h.trans (by norm_num)))
  rw [hword] at hdigits
  have hpower := value?_powerOfTen ⟨k, hk⟩
  have hpos : (0 : ℚ) < m := by exact_mod_cast hm
  rw [Float32.ofScientific, dif_pos ⟨h, Nat.le_of_lt_succ hk⟩]
  cases inverse with
  | false =>
      rw [if_neg Bool.false_ne_true, if_neg Bool.false_ne_true, zpow_natCast]
      exact isNearest_of_yields (by positivity) (yields_of_mul hdigits hpower)
  | true =>
      rw [if_pos rfl, if_pos rfl, zpow_neg, zpow_natCast, ← div_eq_mul_inv]
      exact isNearest_of_yields (by positivity) (yields_of_div hdigits hpower (by positivity))

/-- Few digits and a small power of ten need no more than one operation on singles. -/
theorem isNearest_ofScientific (m : ℕ) (inverse : Bool) (k : ℕ) :
    IsNearest .positive (m * 10 ^ (if inverse then -k else k : ℤ)) (.ofScientific m inverse k) := by
  by_cases h : m < 2 ^ 23 ∧ k ≤ 10
  · rcases Nat.eq_zero_or_pos m with rfl | hm
    · have hzero : ∀ (inverse : Bool) (k : Fin 11),
          Float32.ofScientific 0 inverse k = .ofModel (.pack (.zero .positive)) := by decide
      rw [hzero inverse ⟨k, Nat.lt_succ_of_le h.2⟩, Nat.cast_zero, zero_mul]
      exact isNearest_of_rounds le_rfl (.zero (nearestAbs_eq_zero le_rfl (by positivity)))
    · exact isNearest_product hm h.1 (Nat.lt_succ_of_le h.2) inverse
  · rw [Float32.ofScientific, dif_neg h]
    cases inverse with
    | false => exact isNearest_scientific m k
    | true =>
        have hneg : Int.negOfNat k = -k := Int.negOfNat_eq
        rw [if_pos rfl, ← hneg]
        exact isNearest_scientific m _

end RecursiveMatrix.Binary32
