import RecursiveMatrix.Proofs.Constants
import RecursiveMatrix.Proofs.Draws
import RecursiveMatrix.Proofs.OutputContract
import RecursiveMatrix.Proofs.Sweep

namespace RecursiveMatrix

open Binary32 Source

section Stretches

variable {A B C u : Float32} {a b c x : ℚ}

namespace Probabilities.Accepted

theorem le_sum_of_le (h : Accepted A B C a b c) (hu : value? u = some x) (hle : u ≤ A) : u ≤ A + B :=
  (le_iff hu h.value_sum).2 (((le_iff hu h.value_a).1 hle).trans h.a_le_sum)

theorem le_total_of_le (h : Accepted A B C a b c) (hu : value? u = some x) (hle : u ≤ A + B) :
    u ≤ A + B + C :=
  (le_iff hu h.value_total).2 (((le_iff hu h.value_sum).1 hle).trans h.sum_le_total)

theorem select_topLeft_iff (h : Accepted A B C a b c) (hu : value? u = some x) :
    Quadrant.select u A B C = .topLeft ↔ x ≤ a := by
  rw [← le_iff hu h.value_a, Quadrant.select]
  split_ifs <;> simp_all

theorem select_topRight_iff (h : Accepted A B C a b c) (hu : value? u = some x) :
    Quadrant.select u A B C = .topRight ↔ a < x ∧ x ≤ nearest (a + b) := by
  rw [← not_le, ← le_iff hu h.value_a, ← le_iff hu h.value_sum, Quadrant.select]
  split_ifs <;> simp_all

theorem select_bottomLeft_iff (h : Accepted A B C a b c) (hu : value? u = some x) :
    Quadrant.select u A B C = .bottomLeft ↔ nearest (a + b) < x ∧ x ≤ total a b c := by
  have hsum := h.le_sum_of_le hu
  rw [← not_le, ← le_iff hu h.value_sum, ← le_iff hu h.value_total, Quadrant.select]
  split_ifs <;> simp_all

theorem select_bottomRight_iff (h : Accepted A B C a b c) (hu : value? u = some x) :
    Quadrant.select u A B C = .bottomRight ↔ total a b c < x := by
  have hsum := h.le_sum_of_le hu
  have htotal := h.le_total_of_le hu
  rw [← not_le, ← le_iff hu h.value_total, Quadrant.select]
  split_ifs <;> simp_all

end Probabilities.Accepted

/-- What a source is to draw: a number from zero on and below one. -/
def UnitDraw (u : Float32) : Prop := 0 ≤ u ∧ u < 1

instance (u : Float32) : Decidable (UnitDraw u) := inferInstanceAs (Decidable (0 ≤ u ∧ u < 1))

theorem UnitDraw.exists_value (h : UnitDraw u) : ∃ x, value? u = some x ∧ 0 ≤ x ∧ x ≤ 1 - 1 / 2 ^ 24 := by
  obtain ⟨x, hx, h0, h1⟩ := exists_value?_of_lt value?_zero value?_one h.1 h.2
  exact ⟨x, hx, h0, (representable_value hx).le_of_lt_one h1⟩

namespace Probabilities

variable {p : Probabilities}

def share (p : Probabilities) : Quadrant → Float32
  | .topLeft => p.a
  | .topRight => p.b
  | .bottomLeft => p.c
  | .bottomRight => p.d

/-- No draw falls into a stretch without length, but a draw of zero, which is the end of the first. -/
theorem share_select_pos (p : Probabilities) (hu : UnitDraw u) :
    0 < p.share (.select u p.a p.b p.c) ∨ u ≤ 0 ∧ Quadrant.select u p.a p.b p.c = .topLeft := by
  obtain ⟨a, b, c, h⟩ := p.exists_accepted
  obtain ⟨x, hx, hx0, hx1⟩ := hu.exists_value
  cases hq : Quadrant.select u p.a p.b p.c with
  | topLeft =>
      rw [h.select_topLeft_iff hx] at hq
      rw [share, lt_iff value?_zero h.value_a, le_iff hx value?_zero]
      rcases hx0.lt_or_eq with hpos | hzero
      · exact .inl (hpos.trans_le hq)
      · exact .inr ⟨hzero.ge, rfl⟩
  | topRight =>
      rw [h.select_topRight_iff hx] at hq
      rw [share, lt_iff value?_zero h.value_b]
      refine .inl (h.nonneg_b.lt_of_ne ?_)
      rintro rfl
      rw [add_zero, nearest_of_representable (representable_value h.value_a)] at hq
      exact hq.1.not_ge hq.2
  | bottomLeft =>
      rw [h.select_bottomLeft_iff hx] at hq
      rw [share, lt_iff value?_zero h.value_c]
      refine .inl (h.nonneg_c.lt_of_ne ?_)
      rintro rfl
      rw [total, add_zero, nearest_of_representable (representable_nearest _)] at hq
      exact hq.1.not_ge hq.2
  | bottomRight =>
      rw [h.select_bottomRight_iff hx] at hq
      rw [share, d, lt_iff value?_zero h.value_remainder.1]
      -- what is left of one may be rounded to nothing only if the sum is next to one
      refine .inl (not_le.1 fun hd => ?_)
      have hlast := total_ge_of_remainder_nonpos (representable_value h.value_a)
        (representable_value h.value_b) (representable_value h.value_c) h.nonneg_a h.nonneg_b h.nonneg_c
        h.total_le hd
      linarith

theorem select_zero (p : Probabilities) (hu : UnitDraw u) (h0 : u ≤ 0) :
    Quadrant.select u p.a p.b p.c = .topLeft := by
  obtain ⟨a, b, c, h⟩ := p.exists_accepted
  obtain ⟨x, hx, -, -⟩ := hu.exists_value
  exact (h.select_topLeft_iff hx).2 (((le_iff hx value?_zero).1 h0).trans h.nonneg_a)

/-- All shares but the last are nothing. -/
structure LastOnly (p : Probabilities) : Prop where
  a : p.a ≤ 0
  b : p.b ≤ 0
  c : p.c ≤ 0

theorem LastOnly.select_eq (h : LastOnly p) (hu : UnitDraw u) :
    Quadrant.select u p.a p.b p.c = .ofBits (decide (0 < u)) (decide (0 < u)) := by
  obtain ⟨x, hx, -, -⟩ := hu.exists_value
  obtain ⟨a, b, c, hn⟩ := p.exists_accepted
  have ha : a = 0 := le_antisymm ((le_iff hn.value_a value?_zero).1 h.a) hn.nonneg_a
  have hb : b = 0 := le_antisymm ((le_iff hn.value_b value?_zero).1 h.b) hn.nonneg_b
  have hc : c = 0 := le_antisymm ((le_iff hn.value_c value?_zero).1 h.c) hn.nonneg_c
  subst ha hb hc
  have htotal : total 0 0 0 = 0 := by norm_num [total, nearest_zero]
  rcases le_or_gt x 0 with hle | hlt
  · rw [decide_eq_false fun hpos => hle.not_gt ((lt_iff value?_zero hx).1 hpos)]
    exact (hn.select_topLeft_iff hx).2 hle
  · rw [decide_eq_true ((lt_iff value?_zero hx).2 hlt)]
    exact (hn.select_bottomRight_iff hx).2 (htotal.trans_lt hlt)

end Probabilities

end Stretches

namespace Sampler

variable {σ : Type} [Source σ] {z : Sampler} {s : σ} {i n : ℕ}

theorem share_selected_pos (h : z.noise.enabled = false) (hu : UnitDraw (upcoming i s)) :
    0 < z.probabilities.share (z.selected s i) ∨ upcoming i s ≤ 0 ∧ z.selected s i = .topLeft := by
  rw [selected_quiet h]
  exact z.probabilities.share_select_pos hu

/-- Which of the next draws are above zero, as the digits of a word. -/
def positives (n : ℕ) (s : σ) : UInt64 :=
  Word.ofBits ((List.range n).map fun i => decide (0 < upcoming i s))

theorem candidate_lastOnly (h : z.noise.enabled = false) (hp : z.probabilities.LastOnly)
    (hs : ∀ i < z.scale, UnitDraw (upcoming i s)) :
    (z.candidate s).1 = ⟨positives z.scale s, positives z.scale s⟩ := by
  have hselected (bit : Quadrant → Bool) (hbit : ∀ t, bit (.ofBits t t) = t) :
      ((List.range z.scale).map (z.selected s)).map bit =
        (List.range z.scale).map fun i => decide (0 < upcoming i s) := by
    rw [List.map_map]
    refine List.map_congr_left fun i hi => ?_
    rw [Function.comp_apply, selected_quiet h, hp.select_eq (hs i (List.mem_range.1 hi)), hbit]
  rw [candidate_fst, Edge.ofPath_eq, hselected _ fun t => Quadrant.sourceBit_ofBits t t,
    hselected _ fun t => Quadrant.targetBit_ofBits t t, positives]

theorem toNat_positives (hn : n ≤ 64) (hs : ∀ i < n, 0 < upcoming i s) :
    (positives n s).toNat = 2 ^ n - 1 := by
  have hall : (List.range n).map (fun i => decide (0 < upcoming i s)) = List.replicate n true := by
    rw [List.eq_replicate_iff]
    simpa using hs
  rw [positives, hall, Word.toNat_ofBits_replicate hn]

theorem not_contains_last (hpow : ¬ ∃ k, z.vertexCount.val.toNat = 2 ^ k) {e : Edge}
    (he : e.source.toNat = 2 ^ z.scale - 1) : z.contains e = false := by
  refine Bool.eq_false_iff.2 fun hin => hpow ⟨z.scale, ?_⟩
  have hlt := UInt64.lt_iff_toNat_lt.1 (contains_iff.1 hin).1
  have htight : z.vertexCount.val.toNat ≤ 2 ^ z.scale := idBits_le_iff.1 (Nat.le_refl z.scale)
  omega

theorem not_contains_lastOnly (h : z.noise.enabled = false) (hp : z.probabilities.LastOnly)
    (hpow : ¬ ∃ k, z.vertexCount.val.toNat = 2 ^ k)
    (hs : ∀ i < z.scale, UnitDraw (upcoming i s) ∧ 0 < upcoming i s) :
    z.contains (z.candidate s).1 = false := by
  rw [candidate_lastOnly h hp fun i hi => (hs i hi).1]
  exact not_contains_last hpow (toNat_positives (idBits_le z.vertexCount) fun i hi => (hs i hi).2)

theorem rejects_lastOnly (h : z.noise.enabled = false) (hp : z.probabilities.LastOnly)
    (hpow : ¬ ∃ k, z.vertexCount.val.toNat = 2 ^ k)
    (hs : ∀ i < n * z.scale, UnitDraw (upcoming i s) ∧ 0 < upcoming i s) : z.Rejects n s := by
  intro k hk
  refine not_contains_lastOnly h hp hpow fun i hi => ?_
  rw [after_quiet h, upcoming_skip]
  refine hs _ ?_
  calc i + k * z.scale < z.scale + k * z.scale := Nat.add_lt_add_right hi _
    _ = (k + 1) * z.scale := by ring
    _ ≤ n * z.scale := Nat.mul_le_mul_right _ hk

/-- Without noise no quadrant is selected that has no share, unless the draw is zero: that selects the
first, whatever its share. With all on the last quadrant nothing but a draw of zero leads inside a matrix
that is larger than it has to be. -/
theorem selected_with_share (z : Sampler) (h : z.noise.enabled = false) :
    (∀ (σ : Type) [Source σ] (s : σ) i, UnitDraw (upcoming i s) →
      (0 < z.probabilities.share (z.selected s i) ∨ upcoming i s ≤ 0) ∧
      (upcoming i s ≤ 0 → z.selected s i = .topLeft)) ∧
    (z.probabilities.LastOnly → ∀ (σ : Type) [Source σ],
      (∀ s : σ, (∀ i < z.scale, UnitDraw (upcoming i s)) →
        (z.candidate s).1 = ⟨positives z.scale s, positives z.scale s⟩) ∧
      ((¬ ∃ k, z.vertexCount.val.toNat = 2 ^ k) →
        (∀ s : σ, (∀ i < z.scale, UnitDraw (upcoming i s) ∧ 0 < upcoming i s) →
          z.contains (z.candidate s).1 = false) ∧
        ∀ (b : Block σ) (limit : Positive) patience, z.retryLimit = some limit →
          (∀ i < (limit.val.toNat + 1) * z.scale, let u := upcoming i (beginElement b.source b.firstElement)
            UnitDraw u ∧ 0 < u) →
          z.sample patience b = .error (.failed (.retriesExhausted b.index limit.val)))) := by
  refine ⟨fun σ _ s i hu => ⟨?_, fun h0 => ?_⟩, fun hp σ _ => ⟨fun s => candidate_lastOnly h hp, fun hpow =>
    ⟨fun s => not_contains_lastOnly h hp hpow, fun b limit patience hl hs => ?_⟩⟩⟩
  · exact (share_selected_pos h hu).imp_right And.left
  · rw [selected_quiet h]
    exact z.probabilities.select_zero hu h0
  · exact sample_of_rejects hl (rejects_lastOnly h hp hpow hs)

def hopeless : Sampler :=
  { (Generator.five .one).sampler with
    probabilities := ⟨.ofBits 0, .ofBits 0, .ofBits 0, by decide, by decide, by decide⟩ }

def sixTimes (u : Float32) : Block Script := ⟨0, 1, 0, .one, { draws := .replicate 6 u }⟩

theorem selected_with_share_five : hopeless.noise.enabled = false ∧ hopeless.probabilities.LastOnly ∧
    0 < hopeless.probabilities.share (hopeless.selected (sixTimes 0.5).source 0) ∧
    (hopeless.candidate (sixTimes 0.5).source).1 = ⟨7, 7⟩ ∧
    hopeless.sample 0 (sixTimes 0.5) = .error (.failed (.retriesExhausted 0 1)) := by
  have hquiet : hopeless.noise.enabled = false := rfl
  have hlast : hopeless.probabilities.LastOnly := ⟨by decide, by decide, by decide⟩
  have hpow : ¬ ∃ k, hopeless.vertexCount.val.toNat = 2 ^ k := by
    rintro ⟨k, hk⟩
    have hfive : 5 = 2 ^ k := hk
    have hlt : k < 3 := by
      rw [← Nat.pow_lt_pow_iff_right one_lt_two, ← hfive]
      norm_num
    interval_cases k <;> omega
  have hdraws : ∀ i < 6, UnitDraw (upcoming i (sixTimes 0.5).source) ∧
      0 < upcoming i (sixTimes 0.5).source := by decide +kernel
  obtain ⟨hshare, hall⟩ := selected_with_share hopeless hquiet
  obtain ⟨hcandidate, hfails⟩ := hall hlast Script
  refine ⟨hquiet, hlast, ?_, ?_, (hfails hpow).2 (sixTimes 0.5) Positive.one 0 rfl hdraws⟩
  · exact (hshare Script (sixTimes 0.5).source 0 (hdraws 0 (by decide)).1).1.resolve_right (by decide +kernel)
  · rw [hcandidate _ fun i hi => (hdraws i (Nat.lt_of_lt_of_le hi (by decide))).1]
    decide +kernel

/-- Draws of zero all lead to the first cell, which has no share. -/
theorem selected_without_share :
    let s := (sixTimes 0).source
    (∀ i < 6, UnitDraw (upcoming i s)) ∧ ¬ 0 < hopeless.probabilities.share .topLeft ∧
      (∀ i < 6, hopeless.selected s i = .topLeft) ∧
      hopeless.sample 0 (sixTimes 0) = .ok ⟨[⟨0, 0⟩], 0⟩ := by
  refine ⟨by decide +kernel, by decide, by decide +kernel, sample_eq_ok_iff.2 ⟨by decide +kernel, ?_⟩⟩
  have hedges : (hopeless.sweep 0 (sixTimes 0)).edges.toList = [⟨0, 0⟩] := by decide +kernel
  have hrejected : (hopeless.sweep 0 (sixTimes 0)).rejected = 0 := by decide +kernel
  rw [hedges, hrejected]

end Sampler

end RecursiveMatrix
