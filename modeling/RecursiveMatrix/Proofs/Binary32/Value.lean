import Mathlib
import RecursiveMatrix.Proofs.Binary32.Rounding

namespace RecursiveMatrix.Binary32

open Float.Model Float.Model.UnpackedFloat

variable {s : Sign} {m : ℕ} {e : ℤ} {q r : ℚ} {f g : Float32} {u : UnpackedFloat}

def valueOf : UnpackedFloat → Option ℚ
  | .zero _ => some 0
  | .finite s m e _ => some (s.apply m * 2 ^ e)
  | _ => none

/-- The number that a single stands for; none if it is infinite or not a number. -/
def value? (f : Float32) : Option ℚ := valueOf f.toModel.unpack

/-- All the digits are in use, or the exponent is the least there is. -/
structure Fits (m : ℕ) (e : ℤ) : Prop where
  digits : m < 2 ^ 24
  least : -149 ≤ e
  full : 2 ^ 23 ≤ m ∨ e = -149

theorem toNat_implicit (x : BitVec 23) : (1#1 ++ x).toNat = 2 ^ 23 + x.toNat := by
  rw [BitVec.toNat_append, ← Nat.shiftLeft_add_eq_or_of_lt x.isLt]
  rfl

/-- What a single can be unpacked to. -/
inductive Canonical : UnpackedFloat → Prop
  | infinity (s : Sign) : Canonical (.infinity s)
  | notANumber : Canonical .notANumber
  | zero (s : Sign) : Canonical (.zero s)
  | finite (s : Sign) {m : ℕ} {e : ℤ} (h : 0 < m) (fits : Fits m e) (top : e ≤ 104) :
      Canonical (.finite s m e h)

theorem canonical_unpack (u : Float32.Model) : Canonical u.unpack := by
  let digits : BitVec 23 := @unpackMantissa Format.binary32 u.toBits.toBitVec
  let biased : BitVec 8 := @unpackExponent Format.binary32 u.toBits.toBitVec
  have hdigits : digits.toNat < 2 ^ 23 := digits.isLt
  have hbiased : biased.toNat < 2 ^ 8 := biased.isLt
  have hbias : (Format.binary32.exponentBias : ℤ) + Format.binary32.mantissaBitsWithoutImplicit = 150 := rfl
  rw [Float32.Model.unpack, UnpackedFloat.unpack]
  split
  next hall =>
    split
    · exact .infinity _
    · exact .notANumber
  next hall =>
    split
    next hzero =>
      split
      · exact .zero _
      next hnonzero =>
        have hleast : (biased.toNat : ℤ) - 150 + 1 = -149 := by
          have hzero : biased = 0 := hzero
          rw [hzero]
          rfl
        rw [hbias]
        refine .finite _ _ ⟨?_, hleast.ge, .inr hleast⟩ (hleast.trans_le (by norm_num))
        change digits.toNat < _
        omega
    next hzero =>
      have hsome : biased.toNat ≠ 0 := fun h => hzero (BitVec.eq_of_toNat_eq h)
      have hrest : biased.toNat ≠ 255 := fun h => hall (BitVec.eq_of_toNat_eq h)
      have hmantissa : (1#1 ++ digits).toNat = 2 ^ 23 + digits.toNat := toNat_implicit digits
      rw [hbias]
      have htop : (biased.toNat : ℤ) - 150 ≤ 104 := by omega
      refine .finite _ _ ⟨?_, ?_, .inl ?_⟩ htop
      · change (1#1 ++ digits).toNat < _
        omega
      · change -149 ≤ (biased.toNat : ℤ) - 150
        omega
      · change _ ≤ (1#1 ++ digits).toNat
        omega

theorem unpack_pack_zero (s : Sign) : (Float32.Model.pack (.zero s)).unpack = .zero s := by
  cases s <;> rfl

theorem unpack_pack_infinity (s : Sign) : (Float32.Model.pack (.infinity s)).unpack = .infinity s := by
  cases s <;> rfl

theorem pack_finite (h : 0 < m) : UnpackedFloat.pack Format.binary32 (.finite s m e h) =
    if 2 ^ 8 ≤ (e + 127 + 23).toNat + 1 then packedInfinity Format.binary32 s
    else if m.log2 + 1 = 24 then
      packComponents Format.binary32 s (BitVec.ofNat 8 (e + 127 + 23).toNat) (BitVec.ofNat 23 m)
    else packComponents Format.binary32 s 0#8 (BitVec.ofNat 23 m) := rfl

theorem unpack_pack_top {h : 0 < m} (htop : 104 < e) :
    (Float32.Model.pack (.finite s m e h)).unpack = .infinity s := by
  have hlarge : 2 ^ 8 ≤ (e + 127 + 23).toNat + 1 := by omega
  change UnpackedFloat.unpack Format.binary32 (UnpackedFloat.pack Format.binary32 _) = _
  rw [pack_finite, if_pos hlarge]
  cases s <;> rfl

theorem unpack_pack {h : 0 < m} (hfits : Fits m e) (htop : e ≤ 104) :
    (Float32.Model.pack (.finite s m e h)).unpack = .finite s m e h := by
  obtain ⟨hm, hleast, hfull⟩ := hfits
  let biased : ℕ := (e + 127 + 23).toNat
  have hbiased : (biased : ℤ) = e + 150 := by omega
  have hsmall : ¬ 2 ^ 8 ≤ biased + 1 := by omega
  have hnat : (BitVec.ofNat 8 biased).toNat = biased := by
    rw [BitVec.toNat_ofNat, Nat.mod_eq_of_lt (by omega)]
  have hnonzero : BitVec.ofNat 8 biased ≠ 0#8 := by
    intro hzero
    rw [hzero] at hnat
    simp at hnat
    omega
  have hall : BitVec.ofNat 8 biased ≠ -1#8 := by
    intro hall
    rw [hall] at hnat
    change 255 = biased at hnat
    omega
  change UnpackedFloat.unpack Format.binary32 (UnpackedFloat.pack Format.binary32 _) = _
  rw [pack_finite, if_neg hsmall]
  by_cases hlog : m.log2 + 1 = 24
  · have hlow : 2 ^ 23 ≤ m := (Nat.le_log2 h.ne').1 (by omega)
    have hdigits : (1#1 ++ BitVec.ofNat 23 m).toNat = m := by
      rw [toNat_implicit, BitVec.toNat_ofNat]
      omega
    rw [if_pos hlog, UnpackedFloat.unpack]
    simp only [unpackMantissa_packComponents, unpackExponent_packComponents, unpackSign_packComponents,
      Sign.ofBitVec_toBitVec]
    rw [if_neg hall, if_neg hnonzero]
    congr 1
    rw [hnat]
    change (biased : ℤ) - 150 = e
    omega
  · have hlow : m < 2 ^ 23 := by
      by_contra hge
      have := (Nat.le_log2 h.ne').2 (not_lt.1 hge)
      have := (Nat.log2_lt h.ne').2 hm
      omega
    have hdigits : (BitVec.ofNat 23 m).toNat = m := by
      rw [BitVec.toNat_ofNat, Nat.mod_eq_of_lt hlow]
    have hsome : BitVec.ofNat 23 m ≠ 0#23 := by
      intro hzero
      rw [hzero] at hdigits
      exact h.ne hdigits
    have hleast : e = -149 := hfull.resolve_left (Nat.not_le_of_lt hlow)
    rw [if_neg hlog, UnpackedFloat.unpack]
    simp only [unpackMantissa_packComponents, unpackExponent_packComponents, unpackSign_packComponents,
      Sign.ofBitVec_toBitVec]
    rw [if_neg (by decide), if_pos trivial, dif_neg hsome]
    congr 1
    exact hleast.symm

theorem unpack_pack_canonical (h : Canonical u) : (Float32.Model.pack u).unpack = u := by
  cases h with
  | infinity s => exact unpack_pack_infinity s
  | notANumber => rfl
  | zero s => exact unpack_pack_zero s
  | finite s h fits top => exact unpack_pack fits top

theorem packComponents_unpack (b : BitVec 32) : packComponents Format.binary32
    (Sign.ofBitVec (@unpackSign Format.binary32 b)) (@unpackExponent Format.binary32 b)
    (@unpackMantissa Format.binary32 b) = b := by
  have hsign (c : BitVec 1) : (Sign.ofBitVec c).toBitVec = c := by
    revert c
    decide
  have hhigh : b.extractLsb' 31 1 ++ b.extractLsb' 23 8 = b.extractLsb' 23 9 :=
    BitVec.extractLsb'_append_extractLsb'_eq_extractLsb' rfl
  have hall : b.extractLsb' 23 9 ++ b.extractLsb' 0 23 = b.extractLsb' 0 32 :=
    BitVec.extractLsb'_append_extractLsb'_eq_extractLsb' rfl
  rw [packComponents, hsign]
  change b.extractLsb' 31 1 ++ b.extractLsb' 23 8 ++ b.extractLsb' 0 23 = b
  rw [hhigh, hall]
  exact BitVec.extractLsb'_eq_self

theorem pack_unpack (v : Float32.Model) : Float32.Model.pack v.unpack = v := by
  obtain ⟨⟨b⟩, hvalid⟩ := v
  let digits : BitVec 23 := @unpackMantissa Format.binary32 b
  let biased : BitVec 8 := @unpackExponent Format.binary32 b
  have hb := packComponents_unpack b
  have hdigits : digits.toNat < 2 ^ 23 := digits.isLt
  have hbiased : biased.toNat < 2 ^ 8 := biased.isLt
  suffices h : UnpackedFloat.pack Format.binary32 (UnpackedFloat.unpack Format.binary32 b) = b by
    unfold Float32.Model.pack
    congr
  rw [UnpackedFloat.unpack]
  split
  next hall =>
    split
    next hzero =>
      rw [hall, hzero] at hb
      exact hb
    next hnan => exact (hvalid.eq_packedNaN hall hnan).symm
  next hall =>
    split
    next hnone =>
      split
      next hzero =>
        rw [hnone, hzero] at hb
        exact hb
      next hsome =>
        have hpos : digits.toNat ≠ 0 := fun h => hsome (BitVec.eq_of_toNat_eq h)
        have hlog : digits.toNat.log2 + 1 ≠ 24 := by
          have := (Nat.log2_lt hpos).2 hdigits
          omega
        rw [hnone] at hb ⊢
        rw [pack_finite, if_neg (by decide), if_neg hlog]
        change packComponents Format.binary32 _ _ (BitVec.ofNat 23 digits.toNat) = b
        rw [BitVec.ofNat_toNat, BitVec.setWidth_eq]
        exact hb
    next hsome =>
      have hrest : biased.toNat ≠ 255 := fun h => hall (BitVec.eq_of_toNat_eq h)
      have hmantissa : (1#1 ++ digits).toNat = 2 ^ 23 + digits.toNat := toNat_implicit digits
      have hlog : (1#1 ++ digits).toNat.log2 + 1 = 24 := by
        rw [hmantissa, Nat.succ_inj, Nat.log2_eq_iff (by omega)]
        omega
      have hexp : ((biased.toNat : ℤ) - 150 + 127 + 23).toNat = biased.toNat := by omega
      have hlow : BitVec.ofNat 23 (1#1 ++ digits).toNat = digits := by
        apply BitVec.eq_of_toNat_eq
        rw [hmantissa, BitVec.toNat_ofNat]
        omega
      have hpack := pack_finite (s := Sign.ofBitVec (@unpackSign Format.binary32 b)) (m := (1#1 ++ digits).toNat)
        (e := (biased.toNat : ℤ) - 150) (by omega)
      rw [hexp, if_neg (by omega), if_pos hlog, hlow, BitVec.ofNat_toNat, BitVec.setWidth_eq] at hpack
      exact hpack.trans hb

theorem unpack_injective (h : f.toModel.unpack = g.toModel.unpack) : f = g := by
  have hmodel : f.toModel = g.toModel := by rw [← pack_unpack f.toModel, h, pack_unpack]
  cases f
  cases g
  exact congrArg Float32.ofModel hmodel


theorem exists_of_value? (h : value? f = some q) :
    (∃ s, f.toModel.unpack = .zero s ∧ q = 0) ∨
      ∃ s m e h, f.toModel.unpack = .finite s m e h ∧ Fits m e ∧ e ≤ 104 ∧ q = s.apply m * 2 ^ e := by
  rw [value?] at h
  have hcanonical := canonical_unpack f.toModel
  cases hu : f.toModel.unpack with
  | infinity s =>
      rw [hu] at h
      cases h
  | notANumber =>
      rw [hu] at h
      cases h
  | zero s =>
      rw [hu] at h
      exact .inl ⟨s, rfl, (Option.some.inj h).symm⟩
  | finite s m e hm =>
      rw [hu] at h hcanonical
      cases hcanonical with
      | finite _ _ hfits htop => exact .inr ⟨s, m, e, hm, rfl, hfits, htop, (Option.some.inj h).symm⟩

theorem abs_apply (s : Sign) (m : ℕ) (e : ℤ) : |(s.apply m : ℚ) * 2 ^ e| = m * 2 ^ e := by
  rw [abs_mul, abs_of_pos (scale_pos e)]
  cases s
  · simp [Sign.apply]
  · simp [Sign.apply]

theorem representable_value (h : value? f = some q) : Representable q := by
  rcases exists_of_value? h with ⟨s, -, rfl⟩ | ⟨s, m, e, -, -, hfits, -, rfl⟩
  · exact representable_zero
  · exact ⟨m, e, hfits.digits, hfits.least, abs_apply s m e⟩

theorem isFinite_iff : f.isFinite = true ↔ ∃ q, value? f = some q := by
  change f.toModel.unpack.isFinite = true ↔ ∃ q, valueOf f.toModel.unpack = some q
  cases f.toModel.unpack <;> simp [UnpackedFloat.isFinite, valueOf]

theorem fits_lt {m' : ℕ} {e' : ℤ} (h : Fits m e) (h' : Fits m' e') (he : e < e') :
    (m : ℚ) * 2 ^ e < m' * 2 ^ e' := by
  have hlow := h.least
  have hfull : (2 ^ 23 : ℚ) ≤ m' := by exact_mod_cast h'.full.resolve_right (by omega)
  exact (mul_scale_lt h.digits he).trans_le (mul_le_mul_of_nonneg_right hfull (scale_pos e').le)

theorem Fits.unique {m' : ℕ} {e' : ℤ} (h : Fits m e) (h' : Fits m' e') (heq : (m : ℚ) * 2 ^ e = m' * 2 ^ e') :
    m = m' ∧ e = e' := by
  rcases lt_trichotomy e e' with he | rfl | he
  · exact absurd heq (fits_lt h h' he).ne
  · exact ⟨by exact_mod_cast mul_right_cancel₀ (scale_pos e).ne' heq, rfl⟩
  · exact absurd heq (fits_lt h' h he).ne'

theorem apply_ne_zero (hm : 0 < m) : (s.apply m : ℚ) * 2 ^ e ≠ 0 := by
  rw [← abs_pos, abs_apply]
  exact mul_pos (by exact_mod_cast hm) (scale_pos e)

/-- Exponents first, then digits: that is the order of the numbers. -/
theorem isLE_iff {m' : ℕ} {e' : ℤ} (h : Fits m e) (h' : Fits m' e') :
    ((compare e e').then (compare m m')).isLE = true ↔ (m : ℚ) * 2 ^ e ≤ m' * 2 ^ e' := by
  rcases lt_trichotomy e e' with he | rfl | he
  · rw [compare_lt_iff_lt.2 he]
    exact iff_of_true rfl (fits_lt h h' he).le
  · rw [compare_eq_iff_eq.2 rfl, Ordering.eq_then, Nat.isLE_compare,
      mul_le_mul_iff_left₀ (scale_pos e), Nat.cast_le]
  · rw [compare_gt_iff_gt.2 he]
    exact iff_of_false Bool.false_ne_true (fits_lt h' h he).not_ge

theorem swap_then_compare {m' : ℕ} {e' : ℤ} :
    ((compare e e').then (compare m m')).swap = (compare e' e).then (compare m' m) := by
  rw [Ordering.swap_then, Int.compare_swap, Nat.compare_swap]

theorem le_iff (hf : value? f = some q) (hg : value? g = some r) : f ≤ g ↔ q ≤ r := by
  change decide (f.toModel.unpack.le g.toModel.unpack = true) = true ↔ q ≤ r
  rw [decide_eq_true_iff, UnpackedFloat.le]
  have hpos (m : ℕ) (e : ℤ) (h : 0 < m) : 0 < (m : ℚ) * 2 ^ e :=
    mul_pos (by exact_mod_cast h) (scale_pos e)
  have hneg (m : ℕ) (e : ℤ) : ((Sign.negative.apply m : ℤ) : ℚ) * 2 ^ e = -(m * 2 ^ e) := by
    simp [Sign.apply]
  have hplus (m : ℕ) (e : ℤ) : ((Sign.positive.apply m : ℤ) : ℚ) * 2 ^ e = m * 2 ^ e := by
    simp [Sign.apply]
  rcases exists_of_value? hf with ⟨s, hu, rfl⟩ | ⟨s, m, e, hm, hu, hfits, -, rfl⟩ <;>
    rcases exists_of_value? hg with ⟨s', hu', rfl⟩ | ⟨s', m', e', hm', hu', hfits', -, rfl⟩ <;>
    rw [hu, hu']
  · exact iff_of_true rfl le_rfl
  · have hm' := hpos m' e' hm'
    cases s'
    · rw [hneg]
      exact iff_of_false Bool.false_ne_true (by linarith)
    · rw [hplus]
      exact iff_of_true rfl hm'.le
  · have hm := hpos m e hm
    cases s
    · rw [hneg]
      exact iff_of_true rfl (by linarith)
    · rw [hplus]
      exact iff_of_false Bool.false_ne_true hm.not_ge
  · have hm := hpos m e hm
    have hm' := hpos m' e' hm'
    cases s <;> cases s'
    · rw [hneg, hneg, neg_le_neg_iff, ← isLE_iff hfits' hfits, ← swap_then_compare]
      rfl
    · rw [hneg, hplus]
      exact iff_of_true rfl (by linarith)
    · rw [hneg, hplus]
      exact iff_of_false Bool.false_ne_true (by linarith)
    · rw [hplus, hplus, ← isLE_iff hfits hfits']
      rfl

theorem compare_swap (u v : UnpackedFloat) : v.compare u = (u.compare v).map Ordering.swap := by
  cases u with
  | notANumber => cases v <;> rfl
  | infinity s => cases v with
    | infinity s' => cases s <;> cases s' <;> rfl
    | notANumber => cases s <;> rfl
    | zero s' => cases s <;> rfl
    | finite s' m' e' h' => cases s <;> rfl
  | zero s => cases v with
    | infinity s' => cases s' <;> rfl
    | notANumber => rfl
    | zero s' => rfl
    | finite s' m' e' h' => cases s' <;> rfl
  | finite s m e h => cases v with
    | infinity s' => cases s' <;> rfl
    | notANumber => rfl
    | zero s' => cases s <;> rfl
    | finite s' m' e' h' =>
        cases s <;> cases s'
        · exact congrArg some (congrArg Ordering.swap swap_then_compare.symm)
        · rfl
        · rfl
        · exact congrArg some swap_then_compare.symm

theorem lt_iff_not_le (hf : value? f = some q) (hg : value? g = some r) : f < g ↔ ¬ g ≤ f := by
  change decide (f.toModel.unpack.lt g.toModel.unpack = true) = true ↔
    ¬ decide (g.toModel.unpack.le f.toModel.unpack = true) = true
  rw [decide_eq_true_iff, decide_eq_true_iff, UnpackedFloat.lt, UnpackedFloat.le,
    compare_swap f.toModel.unpack]
  have hcompare : ∃ o, f.toModel.unpack.compare g.toModel.unpack = some o := by
    rcases exists_of_value? hf with ⟨s, hu, -⟩ | ⟨s, m, e, hm, hu, -⟩ <;>
      rcases exists_of_value? hg with ⟨s', hu', -⟩ | ⟨s', m', e', hm', hu', -⟩ <;> rw [hu, hu']
    · exact ⟨_, rfl⟩
    · cases s' <;> exact ⟨_, rfl⟩
    · cases s <;> exact ⟨_, rfl⟩
    · cases s <;> cases s' <;> exact ⟨_, rfl⟩
  obtain ⟨o, ho⟩ := hcompare
  rw [ho]
  cases o <;> decide

theorem lt_iff (hf : value? f = some q) (hg : value? g = some r) : f < g ↔ q < r := by
  rw [lt_iff_not_le hf hg, le_iff hg hf, not_le]

/-- What lies between two numbers is a number. -/
theorem exists_value?_of_le {lo hi : Float32} (hlo : value? lo = some q) (hhi : value? hi = some r)
    (h : lo ≤ f) (h' : f ≤ hi) : ∃ x, value? f = some x ∧ q ≤ x ∧ x ≤ r := by
  have hvalue : ∃ x, value? f = some x := by
    have hle : lo.toModel.unpack.le f.toModel.unpack = true := decide_eq_true_iff.1 h
    have hle' : f.toModel.unpack.le hi.toModel.unpack = true := decide_eq_true_iff.1 h'
    rw [UnpackedFloat.le] at hle hle'
    rw [value?]
    cases hu : f.toModel.unpack with
    | zero s => exact ⟨0, rfl⟩
    | finite s m e hm => exact ⟨_, rfl⟩
    | notANumber =>
        rw [hu] at hle'
        exact nomatch hle'
    | infinity s =>
        rw [hu] at hle hle'
        cases s with
        | negative =>
            rcases exists_of_value? hlo with ⟨s', hu', -⟩ | ⟨s', m, e, hm, hu', -⟩ <;> rw [hu'] at hle
            · exact nomatch hle
            · exact nomatch hle
        | positive =>
            rcases exists_of_value? hhi with ⟨s', hu', -⟩ | ⟨s', m, e, hm, hu', -⟩ <;> rw [hu'] at hle'
            · exact nomatch hle'
            · exact nomatch hle'
  obtain ⟨x, hx⟩ := hvalue
  exact ⟨x, hx, (le_iff hlo hx).1 h, (le_iff hx hhi).1 h'⟩

theorem exists_value?_of_lt {lo hi : Float32} (hlo : value? lo = some q) (hhi : value? hi = some r)
    (h : lo ≤ f) (h' : f < hi) : ∃ x, value? f = some x ∧ q ≤ x ∧ x < r := by
  have hle : f ≤ hi := by
    have hlt : f.toModel.unpack.lt hi.toModel.unpack = true := decide_eq_true_iff.1 h'
    change decide (f.toModel.unpack.le hi.toModel.unpack = true) = true
    rw [UnpackedFloat.lt, beq_iff_eq] at hlt
    rw [decide_eq_true_iff, UnpackedFloat.le, hlt]
    rfl
  obtain ⟨x, hx, hqx, -⟩ := exists_value?_of_le hlo hhi h hle
  exact ⟨x, hx, hqx, (lt_iff hx hhi).1 h'⟩

end RecursiveMatrix.Binary32
