import RecursiveMatrix.Proofs.Addresses
import RecursiveMatrix.Proofs.Shares

namespace RecursiveMatrix

open Binary32

variable {σ : Type} [Source σ] {s : σ} {w : Weights} {a b c d lo hi x ρ : ℚ} {i n : ℕ}

namespace Weights

/-- How much of the last share a shaking leaves at least, with all that is lost by rounding. -/
theorem Balanced.perturb_d {noise : Noise} (hw : w.Balanced a b c d) (hs : Fair s) (hlo : 1 / 4 ≤ lo)
    (hhi1 : 1 ≤ hi) (hhi : hi ≤ 3)
    (hf : ∀ u, OnGrid u → ∃ y, value? (jitterOf noise.magnitude u) = some y ∧ lo ≤ y ∧ y ≤ hi)
    (hρ : ρ * hi ≤ (1 - 1 / 2 ^ 18) * lo) (hd0 : 0 ≤ d) :
    (w.perturb noise.magnitude s).1.Normalised ∧
      ∃ y, value? (w.perturb noise.magnitude s).1.d = some y ∧ ρ * d - 9 / 2 ^ 24 ≤ y := by
  obtain ⟨a', b', c', d', S, hv, hscalable, hS, hd0', hd'⟩ :=
    hw.exists_scalable hs (by linarith) hhi1 hhi hf hd0
  obtain ⟨hnormalised, n, y, hn0, hn, hy, hlast⟩ := hscalable.normalize hv
  rw [perturb_fst]
  refine ⟨hnormalised, y, hy, ?_⟩
  have hld : 0 ≤ lo * d := mul_nonneg (by linarith) hd0
  have hkept : ρ * d - 1 / 2 ^ 24 ≤ n * d' := by
    have hbelow : (1 - 2 / 2 ^ 24) * d' ≤ (1 + 22 / 2 ^ 24) * hi * (n * d') :=
      calc (1 - 2 / 2 ^ 24) * d' ≤ n * S * d' := mul_le_mul_of_nonneg_right hn hd0'
        _ ≤ n * ((1 + 22 / 2 ^ 24) * hi) * d' :=
          mul_le_mul_of_nonneg_right (mul_le_mul_of_nonneg_left hS hn0) hd0'
        _ = (1 + 22 / 2 ^ 24) * hi * (n * d') := by ring
    have hρd : ρ * hi * d ≤ (1 - 1 / 2 ^ 18) * lo * d := mul_le_mul_of_nonneg_right hρ hd0
    refine le_of_mul_le_mul_left ?_ (by linarith : 0 < (1 + 22 / 2 ^ 24) * hi)
    linarith
  linarith

/-- A shaking leaves at least `ρ` of the last share, but for the rounding. -/
structure Retains (noise : Noise) (ρ : ℚ) : Prop where
  nonneg : 0 ≤ ρ
  le_one : ρ ≤ 1
  bound : ∃ x, value? noise.magnitude = some x ∧ x ≤ 1 ∧
    ρ * (1 + x / 2 + 1 / 2 ^ 23) ≤ (1 - 1 / 2 ^ 18) * (1 - x / 2 - 1 / 2 ^ 23)

theorem retains_default {noise : Noise} (h : noise.magnitude = Noise.defaultMagnitude) :
    Retains noise (9 / 10) := by
  refine ⟨by norm_num, by norm_num, 13421773 / 2 ^ 27, ?_, by norm_num, by norm_num⟩
  rw [h, value?_of_unpack (s := .positive) (m := 13421773) (e := -27) (h := by decide) rfl]
  norm_num [Float.Model.UnpackedFloat.Sign.apply]

theorem Retains.perturb {noise : Noise} (h : Retains noise ρ) (hw : w.Normalised) (hs : Fair s)
    (hd : value? w.d = some d) (hd0 : 0 ≤ d) :
    (w.perturb noise.magnitude s).1.Normalised ∧
      ∃ y, value? (w.perturb noise.magnitude s).1.d = some y ∧ ρ * d - 9 / 2 ^ 24 ≤ y := by
  obtain ⟨x, hx, hx1, hρ⟩ := h.bound
  obtain ⟨a, b, c, d', hw'⟩ := hw.balanced
  have hd' : d = d' := Option.some.inj (hd.symm.trans hw'.value_d)
  subst hd'
  have hx0 : 0 ≤ x := (le_iff value?_zero hx).1 noise.nonneg
  exact hw'.perturb_d hs (by linarith) (by linarith) (by linarith)
    (fun u hu => jitterOf_near hx hu hx0 hx1) hρ hd0

theorem Retains.enough {noise : Noise} (h : Retains noise ρ) (hd0 : 0 ≤ d)
    (hn : 9 * n / 2 ^ 24 ≤ ρ ^ n * d) (hi : i ≤ n) : 9 * i / 2 ^ 24 ≤ ρ ^ i * d := by
  have hpow : ρ ^ n * d ≤ ρ ^ i * d :=
    mul_le_mul_of_nonneg_right (pow_le_pow_of_le_one h.nonneg h.le_one hi) hd0
  have hin : (i : ℚ) ≤ n := by exact_mod_cast hi
  linarith

theorem Retains.shares_ge {noise : Noise} (h : Retains noise ρ) (p : Probabilities) (s : ℕ → σ)
    (hs : ∀ i < n, Fair (s i)) (hd : value? p.d = some d) (hd0 : 0 ≤ d)
    (hn : 9 * n / 2 ^ 24 ≤ ρ ^ n * d) (hi : i ≤ n) :
    (Weights.shares noise.magnitude p.weights s i).Normalised ∧
      ∃ y, value? (Weights.shares noise.magnitude p.weights s i).d = some y ∧
        ρ ^ i * d - 9 * i / 2 ^ 24 ≤ y := by
  induction i with
  | zero => exact ⟨weights_normalised p, d, hd, by norm_num⟩
  | succ i ih =>
      obtain ⟨hw, y, hy, hlow⟩ := ih (i.le_succ.trans hi)
      have hy0 : 0 ≤ y := by linarith [h.enough hd0 hn (i.le_succ.trans hi)]
      obtain ⟨hw', y', hy', hlow'⟩ := h.perturb hw (hs i hi) hy hy0
      refine ⟨hw', y', hy', ?_⟩
      have hstep : ρ * (ρ ^ i * d - 9 * i / 2 ^ 24) ≤ ρ * y := mul_le_mul_of_nonneg_left hlow h.nonneg
      have hless : ρ * (9 * i / 2 ^ 24) ≤ 9 * i / 2 ^ 24 := mul_le_of_le_one_left (by positivity) h.le_one
      rw [pow_succ']
      push_cast
      linarith

end Weights

namespace Sampler

theorem down_shares {z : Sampler} (h : z.noise.enabled = true) (s : σ) (i : ℕ) :
    (z.down^[i] (z.top s)).1 = Weights.shares z.noise.magnitude z.probabilities.weights
      (fun i => (draw (z.down^[i] (z.top s)).2).2) i := by
  induction i with
  | zero => rfl
  | succ i ih =>
      rw [Function.iterate_succ_apply', down, shake, if_pos h, Weights.shares, ← ih]

theorem down_normalised {z : Sampler} (h : z.noise.enabled = true) (hr : Weights.Retains z.noise ρ)
    (hs : ∀ i < n, Weights.Fair (draw (z.down^[i] (z.top s)).2).2) (hd : value? z.probabilities.d = some d)
    (hd0 : 0 ≤ d) (hn : 9 * n / 2 ^ 24 ≤ ρ ^ n * d) (hi : i ≤ n) :
    (z.down^[i] (z.top s)).1.Normalised ∧ 0 ≤ (z.down^[i] (z.top s)).1.d := by
  obtain ⟨hw, y, hy, hlow⟩ := hr.shares_ge z.probabilities _ hs hd hd0 hn hi
  rw [← down_shares h] at hw hy
  exact ⟨hw, (le_iff value?_zero hy).2 (by linarith [hr.enough hd0 hn hi])⟩

theorem value?_default_d : value? (default : Probabilities).d = some (13421776 / 2 ^ 28) := by
  have hd : (default : Probabilities).d = Float32.ofBits 0x3D4CCCD0 := by decide +kernel
  rw [hd, value?_of_unpack (s := .positive) (m := 13421776) (e := -28) (h := by decide) rfl]
  norm_num [Float.Model.UnpackedFloat.Sign.apply]

/-- With the default probabilities and magnitude the shares sum to one and none is below zero on every
level of every candidate, whatever is drawn. -/
theorem default_down_normalised {z : Sampler} (hp : z.probabilities = default)
    (hm : z.noise.magnitude = Noise.defaultMagnitude) (h : z.noise.enabled = true)
    (hs : ∀ i < z.scale, Weights.Fair (draw (z.down^[i] (z.top s)).2).2) (hi : i ≤ z.scale) :
    (z.down^[i] (z.top s)).1.Normalised ∧ 0 ≤ (z.down^[i] (z.top s)).1.d := by
  have hscale : (z.scale : ℚ) ≤ 64 := by exact_mod_cast idBits_le z.vertexCount
  have hpow : (9 / 10 : ℚ) ^ 64 ≤ (9 / 10) ^ z.scale :=
    pow_le_pow_of_le_one (by norm_num) (by norm_num) (idBits_le z.vertexCount)
  refine down_normalised h (Weights.retains_default hm) hs (hp ▸ value?_default_d) (by norm_num) ?_ hi
  norm_num at hpow ⊢
  linarith

end Sampler

namespace Weights

def corner : Probabilities := ⟨1, 0, 0, by decide, by decide, by decide⟩

/-- Accepted, as the sum is rounded to one, and leaves less than nothing for the last quadrant. -/
def excess : Probabilities :=
  ⟨1, Float32.ofBits 0x33800000, Float32.ofBits 0x33800000, by decide, by decide, by decide⟩

theorem onGrid_zero : OnGrid 0 := ⟨0, by norm_num, by rw [value?_zero]; norm_num⟩

theorem onGrid_last : OnGrid (Float32.ofBits 0x3F7FFFFF) := by
  refine ⟨2 ^ 24 - 1, by norm_num, ?_⟩
  rw [value?_of_unpack (s := .positive) (m := 2 ^ 24 - 1) (e := -24) (h := by decide) rfl]
  norm_num [Float.Model.UnpackedFloat.Sign.apply]

/-- The last share is what the others leave of one, whatever the shakings do. As long as none of them
loses all shares or the sign of the last, they sum to one. With the default probabilities and magnitude
that is so on every level of every candidate, and the last share is never below zero. -/
theorem shares_normalised (p : Probabilities) (noise : Noise) (s : ℕ → σ) (n : ℕ) :
    let w := shares noise.magnitude p.weights s n
    w.d = 1 - w.a - w.b - w.c ∧
    ((∀ i < n, Fair (s i)) →
      (∀ i < n, ¬ 2 ≤ noise.magnitude ∧ 0 ≤ (shares noise.magnitude p.weights s i).d ∨
        ∃ S d, ((shares noise.magnitude p.weights s i).shaken noise.magnitude (s i)).Scalable S d) →
      w.Normalised) ∧
    ∀ (z : Sampler) (t : σ), z.probabilities = default → z.noise.magnitude = Noise.defaultMagnitude →
      z.noise.enabled = true → (∀ i < z.scale, Fair (draw (z.down^[i] (z.top t)).2).2) →
      ∀ i ≤ z.scale, (z.down^[i] (z.top t)).1.Normalised ∧ 0 ≤ (z.down^[i] (z.top t)).1.d :=
  ⟨shares_remainder p noise.magnitude s n, shares_normalised_of_kept p noise s n,
    fun _ _ hp hm h ht _ hi => Sampler.default_down_normalised hp hm h ht hi⟩

def shakenEight : Sampler :=
  ⟨⟨8, by decide⟩, default, { Noise.disabled with enabled := true }, none⟩

theorem shares_normalised_default :
    (shares Noise.defaultMagnitude (default : Probabilities).weights
      (fun i => KeyedStream.positioned defaultSeed i.toUInt64) 3).Normalised ∧
    (shares 1 excess.weights (fun _ => ({ draws := #[0, 0, 0, 0] } : Script)) 1).Normalised ∧
    ∀ i ≤ 3, (shakenEight.down^[i] (shakenEight.top (KeyedStream.positioned defaultSeed 0))).1.Normalised ∧
      0 ≤ (shakenEight.down^[i] (shakenEight.top (KeyedStream.positioned defaultSeed 0))).1.d := by
  have hd : ∀ i < 3, 0 ≤ (shares Noise.defaultMagnitude (default : Probabilities).weights
      (fun i => KeyedStream.positioned defaultSeed i.toUInt64) i).d := by decide +kernel
  let w := excess.weights.shaken 1 ({ draws := #[0, 0, 0, 0] } : Script)
  have hsum : w.a + w.b + w.c + w.d = Float32.ofBits 0x3EFFFFFE := by decide +kernel
  have hlast : w.d = Float32.ofBits 0xB3800000 := by decide +kernel
  have hscalable : w.Scalable ((2 ^ 24 - 2) / 2 ^ 25) (-1 / 2 ^ 24) := by
    refine ⟨?_, ?_, by norm_num, by norm_num⟩
    · rw [hsum, value?_of_unpack (s := .positive) (m := 2 ^ 24 - 2) (e := -25) (h := by decide) rfl]
      norm_num [Float.Model.UnpackedFloat.Sign.apply]
    · rw [hlast, value?_of_unpack (s := .negative) (m := 2 ^ 23) (e := -47) (h := by decide) rfl]
      norm_num [Float.Model.UnpackedFloat.Sign.apply]
  let fair := fun i : ℕ => KeyedStream.positioned defaultSeed i.toUInt64
  let nothing := fun _ : ℕ => ({ draws := #[0, 0, 0, 0] } : Script)
  refine ⟨?_, ?_, ?_⟩
  · exact (shares_normalised default shakenEight.noise fair 3).2.1 (fun i _ => fair_keyedStream _)
      fun i hi => .inl ⟨by decide, hd i hi⟩
  · refine (shares_normalised excess ⟨true, 1, by decide, by decide⟩ nothing 1).2.1
      (fun i _ => fair_iff.2 ⟨onGrid_zero, onGrid_zero, onGrid_zero, onGrid_zero⟩) fun i hi => ?_
    obtain rfl := Nat.lt_one_iff.1 hi
    exact .inr ⟨_, _, hscalable⟩
  · exact (shares_normalised default shakenEight.noise fair 3).2.2 shakenEight _ rfl rfl rfl
      fun i _ => fair_keyedStream _

/-- At magnitude two every share can be lost, and what is scaled is nothing. The edge then falls into
a quadrant that no share is on. -/
theorem not_normalised_at_two :
    let s : Script := { draws := #[0, 0, 0, 0, 0, 0, 0, 0, 0, 0] }
    Fair s ∧ ¬ (shares 2 corner.weights (fun _ => s) 1).Normalised ∧
      (Sampler.candidate ⟨⟨4, by decide⟩, corner, ⟨true, 2, by decide, by decide⟩, none⟩ s).1 = ⟨1, 1⟩ := by
  refine ⟨fair_iff.2 ⟨onGrid_zero, onGrid_zero, onGrid_zero, onGrid_zero⟩, fun h => ?_, by decide +kernel⟩
  obtain ⟨a, b, c, d, hw⟩ := h.balanced
  have hfinite := isFinite_iff.2 ⟨a, hw.value_a⟩
  revert hfinite
  decide +kernel

/-- Below two the last share, once it is below zero, can sink further with every shaking. -/
theorem not_normalised_below_two :
    let s : Script := { draws := #[0, 0, 0, Float32.ofBits 0x3F7FFFFF] }
    Fair s ∧ ¬ (shares 1 excess.weights (fun _ => s) 2).Normalised := by
  refine ⟨fair_iff.2 ⟨onGrid_zero, onGrid_zero, onGrid_zero, onGrid_last⟩, fun h => ?_⟩
  obtain ⟨a, b, c, d, hw⟩ := h.balanced
  have hbound : value? (Float32.ofBits 0xB5800001) = some (-(2 ^ 23 + 1) / 2 ^ 43) := by
    rw [value?_of_unpack (s := .negative) (m := 2 ^ 23 + 1) (e := -43) (h := by decide) rfl]
    norm_num [Float.Model.UnpackedFloat.Sign.apply]
  have hle := (le_iff hw.value_d hbound).1 (by decide +kernel)
  have htolerance : tolerance = 8 / 2 ^ 23 := rfl
  linarith [hw.ge_d]

end Weights

end RecursiveMatrix
