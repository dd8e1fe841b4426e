import Mathlib.Data.Rat.Floor
import RecursiveMatrix.Proofs.Jitter
import RecursiveMatrix.Proofs.Selection

namespace RecursiveMatrix

open Binary32

section Counting

variable {N : ℕ} {s t : ℚ}

/-- How many of `N` equal steps from zero to one start at `t` or before. -/
def reach (N : ℕ) (t : ℚ) : ℕ := ((Finset.range N).filter fun k : ℕ => (k / N : ℚ) ≤ t).card

/-- How many of them start after `s` and at `t` or before. -/
def between (N : ℕ) (s t : ℚ) : ℕ :=
  ((Finset.range N).filter fun k : ℕ => s < (k / N : ℚ) ∧ (k / N : ℚ) ≤ t).card

theorem reach_eq (hN : 0 < N) (h : 0 ≤ t) : reach N t = min N (⌊N * t⌋₊ + 1) := by
  have hpos : (0 : ℚ) < N := by exact_mod_cast hN
  have hfilter : (Finset.range N).filter (fun k : ℕ => (k / N : ℚ) ≤ t) =
      Finset.range (min N (⌊N * t⌋₊ + 1)) := by
    ext k
    rw [Finset.mem_filter, Finset.mem_range, Finset.mem_range, lt_min_iff, Nat.lt_succ_iff,
      Nat.le_floor_iff (by positivity), div_le_iff₀ hpos, mul_comm t]
  rw [reach, hfilter, Finset.card_range]

theorem reach_bounds (hN : 0 < N) (h : 0 ≤ t) (h1 : t ≤ 1) :
    N * t ≤ reach N t ∧ (reach N t : ℚ) ≤ N * t + 1 := by
  have hpos : (0 : ℚ) < N := by exact_mod_cast hN
  rw [reach_eq hN h, Nat.cast_min, Nat.cast_add_one]
  constructor
  · exact le_min (mul_le_of_le_one_right hpos.le h1) (Nat.lt_floor_add_one _).le
  · exact (min_le_right _ _).trans (by linarith [Nat.floor_le (by positivity : 0 ≤ N * t)])

theorem reach_add_between (h : s ≤ t) : reach N s + between N s t = reach N t := by
  have hsplit := Finset.card_filter_add_card_filter_not
    (s := (Finset.range N).filter fun k : ℕ => (k / N : ℚ) ≤ t) (p := fun k : ℕ => (k / N : ℚ) ≤ s)
  rw [Finset.filter_filter, Finset.filter_filter] at hsplit
  have hlow : (Finset.range N).filter (fun k : ℕ => (k / N : ℚ) ≤ t ∧ (k / N : ℚ) ≤ s) =
      (Finset.range N).filter fun k : ℕ => (k / N : ℚ) ≤ s :=
    Finset.filter_congr fun k _ => ⟨And.right, fun hk => ⟨hk.trans h, hk⟩⟩
  have hhigh : (Finset.range N).filter (fun k : ℕ => (k / N : ℚ) ≤ t ∧ ¬ (k / N : ℚ) ≤ s) =
      (Finset.range N).filter fun k : ℕ => s < (k / N : ℚ) ∧ (k / N : ℚ) ≤ t :=
    Finset.filter_congr fun k _ => by rw [not_le, and_comm]
  rwa [hlow, hhigh] at hsplit

theorem step_le_one {k : ℕ} (hk : k ∈ Finset.range N) : (k / N : ℚ) ≤ 1 := by
  refine div_le_one_of_le₀ ?_ (Nat.cast_nonneg N)
  exact_mod_cast (Finset.mem_range.1 hk).le

theorem reach_one : reach N 1 = N := by
  rw [reach, Finset.filter_true_of_mem fun k hk => step_le_one hk, Finset.card_range]

end Counting

def Quadrant.order : Quadrant → ℕ
  | .topLeft => 0
  | .topRight => 1
  | .bottomLeft => 2
  | .bottomRight => 3

open Xoshiro

namespace Probabilities

variable {p : Probabilities} {a b c x y : ℚ} {q : Quadrant} {u v : Float32}

/-- How many of the draws that a generator can make select a quadrant. -/
def selections (p : Probabilities) (q : Quadrant) : ℕ :=
  ((Finset.range (2 ^ 24)).filter fun k => Quadrant.select (fraction k) p.a p.b p.c = q).card

/-- The exact share of each quadrant, if the first three are `a`, `b` and `c`. -/
def exactShare (a b c : ℚ) : Quadrant → ℚ
  | .topLeft => a
  | .topRight => b
  | .bottomLeft => c
  | .bottomRight => max 0 (1 - a - b - c)

theorem selections_eq {P : ℚ → Prop} [DecidablePred P]
    (h : ∀ u x, value? u = some x → (Quadrant.select u p.a p.b p.c = q ↔ P x)) :
    p.selections q = ((Finset.range (2 ^ 24)).filter fun k : ℕ => P (k / (2 ^ 24 : ℕ) : ℚ)).card := by
  refine congrArg Finset.card (Finset.filter_congr fun k hk => h _ _ ?_)
  rw [value?_fraction (Finset.mem_range.1 hk), Nat.cast_pow, Nat.cast_ofNat]

namespace Accepted

variable (h : Accepted p.a p.b p.c a b c)
include h

theorem selections_topLeft : p.selections .topLeft = reach (2 ^ 24) a := by
  rw [selections_eq fun _ _ => h.select_topLeft_iff, reach]

theorem selections_topRight : p.selections .topRight = between (2 ^ 24) a (nearest (a + b)) := by
  rw [selections_eq fun _ _ => h.select_topRight_iff, between]

theorem selections_bottomLeft :
    p.selections .bottomLeft = between (2 ^ 24) (nearest (a + b)) (total a b c) := by
  rw [selections_eq fun _ _ => h.select_bottomLeft_iff, between]

theorem selections_bottomRight : p.selections .bottomRight = between (2 ^ 24) (total a b c) 1 := by
  rw [selections_eq fun _ _ => h.select_bottomRight_iff, between]
  exact congrArg Finset.card (Finset.filter_congr fun k hk => (and_iff_left (step_le_one hk)).symm)

/-- An end of a stretch takes up one draw too many at most, and each addition moves an end by as much
as one draw. -/
theorem selections_near (q : Quadrant) : |(p.selections q : ℚ) - 2 ^ 24 * exactShare a b c q| ≤ 3 := by
  have hs := abs_le.1 h.sum_error
  have ht := abs_le.1 h.total_error
  have ha0 := h.nonneg_a
  have hs0 := ha0.trans h.a_le_sum
  have ht1 := h.total_le
  have hs1 := h.sum_le_total.trans ht1
  obtain ⟨hra, hra'⟩ := reach_bounds (N := 2 ^ 24) (by norm_num) ha0 (h.a_le_sum.trans hs1)
  obtain ⟨hrs, hrs'⟩ := reach_bounds (N := 2 ^ 24) (by norm_num) hs0 hs1
  obtain ⟨hrt, hrt'⟩ := reach_bounds (N := 2 ^ 24) (by norm_num) (hs0.trans h.sum_le_total) ht1
  rw [Nat.cast_pow, Nat.cast_ofNat] at hra hra' hrs hrs' hrt hrt'
  cases q with
  | topLeft =>
      rw [h.selections_topLeft, exactShare]
      exact abs_le.2 ⟨by linarith, by linarith⟩
  | topRight =>
      have hadd : (reach (2 ^ 24) a + between (2 ^ 24) a (nearest (a + b)) : ℚ) = reach (2 ^ 24) (nearest (a + b)) := by
        exact_mod_cast reach_add_between h.a_le_sum
      rw [h.selections_topRight, exactShare]
      exact abs_le.2 ⟨by linarith, by linarith⟩
  | bottomLeft =>
      have hadd : (reach (2 ^ 24) (nearest (a + b)) + between (2 ^ 24) (nearest (a + b)) (total a b c) : ℚ) =
          reach (2 ^ 24) (total a b c) := by
        exact_mod_cast reach_add_between h.sum_le_total
      rw [h.selections_bottomLeft, exactShare]
      exact abs_le.2 ⟨by linarith, by linarith⟩
  | bottomRight =>
      have hadd : (reach (2 ^ 24) (total a b c) + between (2 ^ 24) (total a b c) 1 : ℚ) = 2 ^ 24 := by
        have hadd := reach_add_between (N := 2 ^ 24) ht1
        rw [reach_one] at hadd
        exact_mod_cast hadd
      rw [h.selections_bottomRight, exactShare]
      rcases max_cases 0 (1 - a - b - c) with ⟨hmax, hle⟩ | ⟨hmax, hle⟩ <;> rw [hmax] <;>
        exact abs_le.2 ⟨by linarith, by linarith⟩

end Accepted

theorem order_select_mono (p : Probabilities) (hu : value? u = some x) (hv : value? v = some y)
    (hxy : x ≤ y) :
    (Quadrant.select u p.a p.b p.c).order ≤ (Quadrant.select v p.a p.b p.c).order := by
  obtain ⟨a, b, c, h⟩ := p.exists_accepted
  cases hq : Quadrant.select v p.a p.b p.c with
  | topLeft =>
      rw [h.select_topLeft_iff hv] at hq
      rw [(h.select_topLeft_iff hu).2 (hxy.trans hq)]
  | topRight =>
      rw [h.select_topRight_iff hv] at hq
      cases hq' : Quadrant.select u p.a p.b p.c with
      | topLeft | topRight => decide
      | bottomLeft => linarith [((h.select_bottomLeft_iff hu).1 hq').1]
      | bottomRight => linarith [(h.select_bottomRight_iff hu).1 hq', h.sum_le_total]
  | bottomLeft =>
      rw [h.select_bottomLeft_iff hv] at hq
      cases hq' : Quadrant.select u p.a p.b p.c with
      | topLeft | topRight | bottomLeft => decide
      | bottomRight => linarith [(h.select_bottomRight_iff hu).1 hq']
  | bottomRight =>
      cases Quadrant.select u p.a p.b p.c <;> decide

/-- Of all the draws that a generator can make each quadrant gets its share, up to three draws. -/
theorem selections_close (p : Probabilities) : ∃ a b c, Numbers p.a p.b p.c a b c ∧
    (∀ q, |(p.selections q : ℚ) - 2 ^ 24 * exactShare a b c q| < 4) ∧
    (∀ k < 2 ^ 24, value? (fraction k) = some (k / 2 ^ 24 : ℚ)) ∧
    ∀ u v x y, value? u = some x → value? v = some y → x ≤ y →
      (Quadrant.select u p.a p.b p.c).order ≤ (Quadrant.select v p.a p.b p.c).order := by
  obtain ⟨a, b, c, h⟩ := p.exists_accepted
  exact ⟨a, b, c, h.toNumbers, fun q => (h.selections_near q).trans_lt (by norm_num),
    fun k => value?_fraction, fun u v x y => p.order_select_mono⟩

theorem selections_close_default : (∃ a, value? defaultA = some a ∧
      |((default : Probabilities).selections .topLeft : ℚ) - 2 ^ 24 * a| < 4) ∧
    (Quadrant.select (fraction 1) defaultA defaultB defaultC).order ≤
      (Quadrant.select (fraction 2) defaultA defaultB defaultC).order := by
  obtain ⟨a, b, c, hnumbers, hclose, hvalue, hmono⟩ := selections_close default
  exact ⟨⟨a, hnumbers.value_a, hclose .topLeft⟩,
    hmono _ _ _ _ (hvalue 1 (by norm_num)) (hvalue 2 (by norm_num)) (by norm_num)⟩

end Probabilities

end RecursiveMatrix
