import RecursiveMatrix.Proofs.Constants
import RecursiveMatrix.Proofs.Jitter
import RecursiveMatrix.Random.Script
import RecursiveMatrix.Sampler

namespace RecursiveMatrix.Weights

open Binary32

variable {σ : Type} [Source σ] {s : σ} {w : Weights} {A B C : Float32} {a b c d lo hi S x : ℚ}

/-- Eight times the gap between one and the next single. -/
def tolerance : ℚ := 8 / 2 ^ 23

structure Values (w : Weights) (a b c d : ℚ) : Prop where
  value_a : value? w.a = some a
  value_b : value? w.b = some b
  value_c : value? w.c = some c
  value_d : value? w.d = some d

/-- The shares sum to one up to the tolerance, exactly and as rounded. -/
structure Balanced (w : Weights) (a b c d : ℚ) : Prop extends Values w a b c d where
  mem_a : 0 ≤ a ∧ a ≤ 1 + tolerance
  mem_b : 0 ≤ b ∧ b ≤ 1 + tolerance
  mem_c : 0 ≤ c ∧ c ≤ 1 + tolerance
  ge_d : -tolerance ≤ d
  sum : |a + b + c + d - 1| ≤ tolerance
  rounded_sum : ∃ t, value? (w.a + w.b + w.c + w.d) = some t ∧ |t - 1| ≤ tolerance

structure Normalised (w : Weights) : Prop where
  remainder : w.d = 1 - w.a - w.b - w.c
  balanced : ∃ a b c d, w.Balanced a b c d

theorem exists_remainder (hA : value? A = some a) (hB : value? B = some b) (hC : value? C = some c)
    (ha : 0 ≤ a) (hb : 0 ≤ b) (hc : 0 ≤ c) (h : a + b + c ≤ 3 / 2) :
    ∃ d, value? (1 - A - B - C) = some d ∧ 1 - (a + b + c) - 3 / 2 ^ 25 ≤ d ∧
      d ≤ 1 - (a + b + c) + 3 / 2 ^ 25 := by
  obtain ⟨hd, herror⟩ := value?_remainder hA hB hC ha hb hc h
  have hbounds := abs_le.1 herror
  exact ⟨_, hd, by linarith, by linarith⟩

theorem normalised_of_sum_le (hA : value? A = some a) (hB : value? B = some b) (hC : value? C = some c)
    (ha : 0 ≤ a) (hb : 0 ≤ b) (hc : 0 ≤ c) (h : a + b + c ≤ 1 + 29 / 2 ^ 25) :
    Normalised ⟨A, B, C, 1 - A - B - C⟩ := by
  -- each subtraction is off by `2 ^ (-25)` at most, each addition by twice that
  obtain ⟨d, hd, hdlo, hdhi⟩ := exists_remainder hA hB hC ha hb hc (by linarith)
  obtain ⟨s, hs, hslo, hshi⟩ := exists_add_of_le_two hA hB (by linarith) (by linarith)
  obtain ⟨t, ht, htlo, hthi⟩ := exists_add_of_le_two hs hC (by linarith) (by linarith)
  obtain ⟨v, hv, hvlo, hvhi⟩ := exists_add_of_le_two ht hd (by linarith) (by linarith)
  have htolerance : tolerance = 8 / 2 ^ 23 := rfl
  refine ⟨rfl, a, b, c, d, ⟨hA, hB, hC, hd⟩, ⟨ha, ?_⟩, ⟨hb, ?_⟩, ⟨hc, ?_⟩, ?_, abs_le.2 ⟨?_, ?_⟩, v, hv,
    abs_le.2 ⟨?_, ?_⟩⟩ <;> linarith

theorem weights_normalised (p : Probabilities) : p.weights.Normalised := by
  obtain ⟨a, b, c, h⟩ := p.exists_accepted
  exact normalised_of_sum_le h.value_a h.value_b h.value_c h.nonneg_a h.nonneg_b h.nonneg_c
    (by linarith [h.exact_sum_le])

/-- Shares of which only the last may be below zero, none of them large. -/
structure Sized (w : Weights) (a b c d : ℚ) : Prop extends Values w a b c d where
  nonneg_a : 0 ≤ a
  nonneg_b : 0 ≤ b
  nonneg_c : 0 ≤ c
  sum_le : a + b + c ≤ 16
  ge_d : -16 ≤ d
  le_d : d ≤ 16

/-- The sum of the shares is large enough to divide by and the last share not far below zero: by half of
the tolerance once it is scaled, as the rounding takes up the other half. -/
structure Scalable (w : Weights) (S d : ℚ) : Prop where
  value_sum : value? (w.a + w.b + w.c + w.d) = some S
  value_d : value? w.d = some d
  sum_ge : 1 / 2 ^ 100 ≤ S
  ge_d : -S ≤ 2 ^ 21 * d

theorem Scalable.sum_le (h : w.Scalable S d) (hv : w.Sized a b c d) :
    a + b + c + d ≤ (1 + 15 / 2 ^ 26) * S ∧ S ≤ 64 := by
  have ha0 := hv.nonneg_a
  have hb0 := hv.nonneg_b
  have hc0 := hv.nonneg_c
  have hle := hv.sum_le
  have hd0 := hv.ge_d
  have hd1 := hv.le_d
  obtain ⟨p, hp, hpn⟩ := exists_add_near hv.value_a hv.value_b (by linarith) (by linarith)
  have hplo := hpn.lower
  have hphi := hpn.upper
  obtain ⟨q, hq, hqn⟩ := exists_add_near hp hv.value_c (by linarith [hpn.nonneg]) (by linarith)
  have hqlo := hqn.lower
  have hqhi := hqn.upper
  have hvalue := value?_add hq hv.value_d
    (nearest_lt_top (abs_le.2 ⟨by linarith [hqn.nonneg], by linarith⟩))
  have hS : S = nearest (q + d) := Option.some.inj (h.value_sum.symm.trans hvalue)
  have hpos := h.sum_ge
  have hback := h.ge_d
  -- a sum below zero would be rounded to no more than zero
  have hqd : 0 ≤ q + d := by
    by_contra hlt
    linarith [nearest_nonpos (not_le.1 hlt).le]
  have hSlo := (near_nearest hqd).lower
  have hShi := (near_nearest hqd).upper
  rw [← hS] at hSlo hShi
  constructor <;> linarith

theorem Scalable.exists_factor (h : w.Scalable S d) (hS : S ≤ 64) :
    ∃ n, value? (1 / (w.a + w.b + w.c + w.d)) = some n ∧ 0 ≤ n ∧ 1 - 2 / 2 ^ 24 ≤ n * S ∧
      n * S ≤ 1 + 5 / 2 ^ 26 := by
  have hlow := h.sum_ge
  have hpos : 0 < S := lt_of_lt_of_le (by norm_num) hlow
  have hinv0 : 0 ≤ 1 / S := by positivity
  have hinv : 1 / S ≤ 2 ^ 100 := by
    rw [div_le_iff₀ hpos]
    linarith
  have hnear := near_nearest hinv0
  have hlower := mul_le_mul_of_nonneg_right hnear.lower hpos.le
  have hupper := mul_le_mul_of_nonneg_right hnear.upper hpos.le
  rw [sub_mul, mul_assoc, one_div_mul_cancel hpos.ne'] at hlower
  rw [add_mul, mul_assoc, one_div_mul_cancel hpos.ne'] at hupper
  exact ⟨_, value?_div value?_one h.value_sum hpos.ne'
    (nearest_lt_top (abs_le.2 ⟨by linarith, by linarith⟩)), hnear.nonneg, by linarith, by linarith⟩

theorem Sized.exists_scaled {n : ℚ} (hv : w.Sized a b c d)
    (hn : value? (1 / (w.a + w.b + w.c + w.d)) = some n) (hn0 : 0 ≤ n) (hle : n * (a + b + c) ≤ 2) :
    ∃ x y z, value? w.normalize.a = some x ∧ value? w.normalize.b = some y ∧
      value? w.normalize.c = some z ∧ 0 ≤ x ∧ 0 ≤ y ∧ 0 ≤ z ∧
      x + y + z ≤ (1 + 1 / 2 ^ 24) * (n * (a + b + c)) + 3 / 2 ^ 150 := by
  have han : 0 ≤ a * n := mul_nonneg hv.nonneg_a hn0
  have hbn : 0 ≤ b * n := mul_nonneg hv.nonneg_b hn0
  have hcn : 0 ≤ c * n := mul_nonneg hv.nonneg_c hn0
  obtain ⟨x, hx, hxn⟩ := exists_mul_near hv.value_a hn han (by linarith)
  obtain ⟨y, hy, hyn⟩ := exists_mul_near hv.value_b hn hbn (by linarith)
  obtain ⟨z, hz, hzn⟩ := exists_mul_near hv.value_c hn hcn (by linarith)
  exact ⟨x, y, z, hx, hy, hz, hxn.nonneg, hyn.nonneg, hzn.nonneg,
    by linarith [hxn.upper, hyn.upper, hzn.upper]⟩

theorem Scalable.normalize (h : w.Scalable S d) (hv : w.Sized a b c d) :
    w.normalize.Normalised ∧
      ∃ n x, 0 ≤ n ∧ 1 - 2 / 2 ^ 24 ≤ n * S ∧ value? w.normalize.d = some x ∧ n * d - 8 / 2 ^ 24 ≤ x := by
  obtain ⟨hsum, hS⟩ := h.sum_le hv
  obtain ⟨n, hn, hn0, hnlo, hnhi⟩ := h.exists_factor hS
  have hall : n * (a + b + c + d) ≤ (1 + 15 / 2 ^ 26) * (1 + 5 / 2 ^ 26) :=
    calc n * (a + b + c + d) ≤ n * ((1 + 15 / 2 ^ 26) * S) := mul_le_mul_of_nonneg_left hsum hn0
      _ = (1 + 15 / 2 ^ 26) * (n * S) := by ring
      _ ≤ (1 + 15 / 2 ^ 26) * (1 + 5 / 2 ^ 26) := mul_le_mul_of_nonneg_left hnhi (by norm_num)
  have hlast : -(n * S) ≤ 2 ^ 21 * (n * d) := by
    have := mul_le_mul_of_nonneg_left h.ge_d hn0
    linarith
  obtain ⟨x, y, z, hx, hy, hz, hx0, hy0, hz0, hxyz⟩ := hv.exists_scaled hn hn0 (by linarith)
  obtain ⟨d', hd', hdlo, -⟩ := exists_remainder hx hy hz hx0 hy0 hz0 (by linarith)
  exact ⟨normalised_of_sum_le hx hy hz hx0 hy0 hz0 (by linarith), n, d', hn0, hnlo, hd', by linarith⟩

def shaken (w : Weights) (magnitude : Float32) (s : σ) : Weights :=
  let (ua, s) := draw s
  let (ub, s) := draw s
  let (uc, s) := draw s
  let (ud, _) := draw s
  let f := jitterOf magnitude
  w.scale (f ua) (f ub) (f uc) (f ud)

theorem perturb_fst (w : Weights) (magnitude : Float32) (s : σ) :
    (w.perturb magnitude s).1 = (w.shaken magnitude s).normalize := rfl

def Fair (s : σ) : Prop := ∀ u ∈ (takeDraws 4 s).1, OnGrid u

theorem fair_iff : Fair s ↔ OnGrid (draw s).1 ∧ OnGrid (draw (draw s).2).1 ∧
    OnGrid (draw (draw (draw s).2).2).1 ∧ OnGrid (draw (draw (draw (draw s).2).2).2).1 := by
  have hdraws : (takeDraws 4 s).1 = [(draw s).1, (draw (draw s).2).1, (draw (draw (draw s).2).2).1,
    (draw (draw (draw (draw s).2).2).2).1] := rfl
  rw [Fair, hdraws, List.forall_mem_cons, List.forall_mem_cons, List.forall_mem_cons, List.forall_mem_singleton]

theorem fair_keyedStream (s : KeyedStream) : Fair s :=
  fair_iff.2 ⟨onGrid_uniform _, onGrid_uniform _, onGrid_uniform _, onGrid_uniform _⟩

theorem Fair.exists_scale (h : Fair s) (w : Weights) (magnitude : Float32) :
    ∃ ua ub uc ud, OnGrid ua ∧ OnGrid ub ∧ OnGrid uc ∧ OnGrid ud ∧
      w.shaken magnitude s = w.scale (jitterOf magnitude ua) (jitterOf magnitude ub)
        (jitterOf magnitude uc) (jitterOf magnitude ud) := by
  obtain ⟨ha, hb, hc, hd⟩ := fair_iff.1 h
  exact ⟨_, _, _, _, ha, hb, hc, hd, rfl⟩

/-- A share of `x` became one of `y`, by a factor between `lo` and `hi`. -/
structure Kept (lo hi x y : ℚ) : Prop where
  ge : -4 ≤ y
  le : y ≤ 4
  nonneg : 0 ≤ x → 0 ≤ y
  lower : 0 ≤ x → (1 - 1 / 2 ^ 24) * (lo * x) - 1 / 2 ^ 150 ≤ y
  upper : 0 ≤ x → y ≤ (1 + 1 / 2 ^ 24) * (hi * x) + 1 / 2 ^ 150

theorem exists_kept (hx : value? A = some x) (hx0 : -1 ≤ x) (hx1 : x ≤ 4 / 3) (hlo : 0 ≤ lo)
    (hhi : hi ≤ 3) (hf : ∃ f, value? B = some f ∧ lo ≤ f ∧ f ≤ hi) :
    ∃ y, value? (A * B) = some y ∧ Kept lo hi x y := by
  obtain ⟨f, hf, hf0, hf1⟩ := hf
  have hf0' : 0 ≤ f := hlo.trans hf0
  have hfour : Representable 4 := representable_ofNat 4 (by norm_num)
  have habs : |x * f| ≤ 4 := by
    rw [abs_mul, abs_of_nonneg hf0']
    calc |x| * f ≤ 4 / 3 * 3 :=
          mul_le_mul (abs_le.2 ⟨by linarith, hx1⟩) (hf1.trans hhi) hf0' (by norm_num)
      _ = 4 := by norm_num
  have ⟨hge, hle⟩ := abs_le.1 (abs_nearest_le hfour habs)
  refine ⟨_, value?_mul hx hf (nearest_lt_top (habs.trans (by norm_num))), hge, hle,
    fun h0 => nearest_nonneg (mul_nonneg h0 hf0'), fun h0 => ?_, fun h0 => ?_⟩
  · have hle : x * lo ≤ x * f := mul_le_mul_of_nonneg_left hf0 h0
    linarith [(near_nearest (mul_nonneg h0 hf0')).lower]
  · have hle : x * f ≤ x * hi := mul_le_mul_of_nonneg_left hf1 h0
    linarith [(near_nearest (mul_nonneg h0 hf0')).upper]

theorem Balanced.exists_shaken {magnitude : Float32} (hw : w.Balanced a b c d) (hs : Fair s) (hlo : 0 ≤ lo)
    (hhi : hi ≤ 3) (hf : ∀ u, OnGrid u → ∃ y, value? (jitterOf magnitude u) = some y ∧ lo ≤ y ∧ y ≤ hi) :
    ∃ a' b' c' d', (w.shaken magnitude s).Sized a' b' c' d' ∧
      Kept lo hi a a' ∧ Kept lo hi b b' ∧ Kept lo hi c c' ∧ Kept lo hi d d' := by
  obtain ⟨ua, ub, uc, ud, hua, hub, huc, hud, hw'⟩ := hs.exists_scale w magnitude
  have htolerance : tolerance = 8 / 2 ^ 23 := rfl
  have hsum := abs_le.1 hw.sum
  have ⟨ha0, ha1⟩ := hw.mem_a
  have ⟨hb0, hb1⟩ := hw.mem_b
  have ⟨hc0, hc1⟩ := hw.mem_c
  have hd0 := hw.ge_d
  obtain ⟨a', ha, hka⟩ := exists_kept hw.value_a (by linarith) (by linarith) hlo hhi (hf ua hua)
  obtain ⟨b', hb, hkb⟩ := exists_kept hw.value_b (by linarith) (by linarith) hlo hhi (hf ub hub)
  obtain ⟨c', hc, hkc⟩ := exists_kept hw.value_c (by linarith) (by linarith) hlo hhi (hf uc huc)
  obtain ⟨d', hd, hkd⟩ := exists_kept hw.value_d (by linarith) (by linarith) hlo hhi (hf ud hud)
  rw [hw']
  exact ⟨a', b', c', d', ⟨⟨ha, hb, hc, hd⟩, hka.nonneg ha0, hkb.nonneg hb0, hkc.nonneg hc0,
    by linarith [hka.le, hkb.le, hkc.le], by linarith [hkd.ge], by linarith [hkd.le]⟩, hka, hkb, hkc, hkd⟩

theorem Normalised.perturb (noise : Noise) (hw : w.Normalised) (hs : Fair s)
    (h : (w.shaken noise.magnitude s).Scalable S d) : (w.perturb noise.magnitude s).1.Normalised := by
  obtain ⟨a, b, c, d', hw⟩ := hw.balanced
  obtain ⟨a', b', c', d', hv, -⟩ := hw.exists_shaken hs le_rfl le_rfl fun u hu => jitterOf_nonneg noise hu
  have hd : d = d' := Option.some.inj (h.value_d.symm.trans hv.value_d)
  subst hd
  rw [perturb_fst]
  exact (h.normalize hv).1

theorem Sized.exists_sum (hv : w.Sized a b c d) (hd : 0 ≤ d) :
    ∃ S, value? (w.a + w.b + w.c + w.d) = some S ∧
      (1 - 4 / 2 ^ 24) * (a + b + c + d) - 4 / 2 ^ 150 ≤ S ∧
      S ≤ (1 + 4 / 2 ^ 24) * (a + b + c + d) + 4 / 2 ^ 150 := by
  have ha0 := hv.nonneg_a
  have hb0 := hv.nonneg_b
  have hc0 := hv.nonneg_c
  have hle := hv.sum_le
  obtain ⟨p, hp, hpn⟩ := exists_add_near hv.value_a hv.value_b (by linarith) (by linarith)
  have hp0 := hpn.nonneg
  have hplo := hpn.lower
  have hphi := hpn.upper
  obtain ⟨q, hq, hqn⟩ := exists_add_near hp hv.value_c (by linarith) (by linarith)
  have hq0 := hqn.nonneg
  have hqlo := hqn.lower
  have hqhi := hqn.upper
  obtain ⟨S, hS, hSn⟩ := exists_add_near hq hv.value_d (by linarith) (by linarith [hv.le_d])
  have hSlo := hSn.lower
  have hShi := hSn.upper
  exact ⟨S, hS, by linarith, by linarith⟩

/-- As long as no factor is too small and the last share is not below zero, enough is left. -/
theorem Balanced.exists_scalable {magnitude : Float32} (hw : w.Balanced a b c d) (hs : Fair s)
    (hlo : 1 / 2 ^ 24 ≤ lo) (hhi1 : 1 ≤ hi) (hhi : hi ≤ 3)
    (hf : ∀ u, OnGrid u → ∃ y, value? (jitterOf magnitude u) = some y ∧ lo ≤ y ∧ y ≤ hi) (hd0 : 0 ≤ d) :
    ∃ a' b' c' d' S, (w.shaken magnitude s).Sized a' b' c' d' ∧ (w.shaken magnitude s).Scalable S d' ∧
      S ≤ (1 + 22 / 2 ^ 24) * hi ∧ 0 ≤ d' ∧ (1 - 1 / 2 ^ 24) * (lo * d) - 1 / 2 ^ 150 ≤ d' := by
  have hlo0 : 0 ≤ lo := le_trans (by norm_num) hlo
  obtain ⟨a', b', c', d', hv, hka, hkb, hkc, hkd⟩ := hw.exists_shaken hs hlo0 hhi hf
  have hd0' := hkd.nonneg hd0
  obtain ⟨S, hS, hSlo, hShi⟩ := hv.exists_sum hd0'
  have htolerance : tolerance = 8 / 2 ^ 23 := rfl
  have hsum := abs_le.1 hw.sum
  have hall : hi * (a + b + c + d) ≤ hi * (1 + 8 / 2 ^ 23) :=
    mul_le_mul_of_nonneg_left (by linarith) (by linarith)
  have hleast : lo * (1 - 8 / 2 ^ 23) ≤ lo * (a + b + c + d) :=
    mul_le_mul_of_nonneg_left (by linarith) hlo0
  have hSmax : S ≤ (1 + 22 / 2 ^ 24) * hi := by
    linarith [hka.upper hw.mem_a.1, hkb.upper hw.mem_b.1, hkc.upper hw.mem_c.1, hkd.upper hd0]
  have hSmin : 1 / 2 ^ 100 ≤ S := by
    linarith [hka.lower hw.mem_a.1, hkb.lower hw.mem_b.1, hkc.lower hw.mem_c.1, hkd.lower hd0]
  have hpos : 0 ≤ S := le_trans (by norm_num) hSmin
  exact ⟨a', b', c', d', S, hv, ⟨hS, hv.value_d, hSmin, by linarith⟩, hSmax, hd0', hkd.lower hd0⟩

theorem Normalised.exists_scalable (noise : Noise) (hw : w.Normalised) (hs : Fair s)
    (hlt : ¬ 2 ≤ noise.magnitude) (hd : 0 ≤ w.d) : ∃ S d, (w.shaken noise.magnitude s).Scalable S d := by
  obtain ⟨a, b, c, d, hw⟩ := hw.balanced
  obtain ⟨a', b', c', d', S, -, h, -⟩ := hw.exists_scalable hs le_rfl (by norm_num) le_rfl
    (fun u hu => jitterOf_pos noise hlt hu) ((le_iff value?_zero hw.value_d).1 hd)
  exact ⟨S, d', h⟩

/-- The shares after `n` shakings, where `s i` is the source as number `i` finds it. -/
def shares (magnitude : Float32) (w : Weights) (s : ℕ → σ) : ℕ → Weights
  | 0 => w
  | n + 1 => ((shares magnitude w s n).perturb magnitude (s n)).1

/-- The last share is what the others leave of one, whatever the shaking does. -/
theorem shares_remainder (p : Probabilities) (magnitude : Float32) (s : ℕ → σ) (n : ℕ) :
    let w := shares magnitude p.weights s n
    w.d = 1 - w.a - w.b - w.c := by
  cases n with
  | zero => rfl
  | succ n => rfl

/-- Shaking leaves shares that sum to one as long as it loses neither all of them nor the sign of the
last. -/
theorem shares_normalised_of_kept (p : Probabilities) (noise : Noise) (s : ℕ → σ) (n : ℕ)
    (hs : ∀ i < n, Fair (s i))
    (h : ∀ i < n, ¬ 2 ≤ noise.magnitude ∧ 0 ≤ (shares noise.magnitude p.weights s i).d ∨
      ∃ S d, ((shares noise.magnitude p.weights s i).shaken noise.magnitude (s i)).Scalable S d) :
    (shares noise.magnitude p.weights s n).Normalised := by
  induction n with
  | zero => exact weights_normalised p
  | succ n ih =>
      have hw := ih (fun i hi => hs i (hi.trans n.lt_succ_self)) fun i hi => h i (hi.trans n.lt_succ_self)
      obtain ⟨S, d, hscalable⟩ := (h n n.lt_succ_self).elim
        (fun ⟨hlt, hd⟩ => hw.exists_scalable noise (hs n n.lt_succ_self) hlt hd) id
      exact hw.perturb noise (hs n n.lt_succ_self) hscalable

end RecursiveMatrix.Weights
