import Mathlib.Data.Rat.Floor
import RecursiveMatrix.Proofs.Addresses
import RecursiveMatrix.Proofs.EvenSplit
import RecursiveMatrix.Proofs.Validation

namespace RecursiveMatrix

namespace Word

variable {a b w lo hi : UInt64}

theorem maximum_div_lt_iff (hb : b ≠ 0) :
    maximum / b < a ↔ UInt64.size - 1 < a.toNat * b.toNat := by
  rw [UInt64.lt_iff_toNat_lt, UInt64.toNat_div, Nat.div_lt_iff_lt_mul (toNat_pos hb)]
  rfl

theorem toNat_satMul (a b : UInt64) :
    (satMul a b).toNat = min (a.toNat * b.toNat) (UInt64.size - 1) := by
  by_cases hb : b = 0
  · rw [satMul, if_neg fun h => h.1 hb, hb, UInt64.mul_zero, UInt64.toNat_zero, Nat.mul_zero,
      Nat.zero_min]
  · by_cases hlt : UInt64.size - 1 < a.toNat * b.toNat
    · rw [satMul, if_pos ⟨hb, (maximum_div_lt_iff hb).2 hlt⟩, Nat.min_eq_right (Nat.le_of_lt hlt)]
      rfl
    · rw [satMul, if_neg fun h => hlt ((maximum_div_lt_iff hb).1 h.2),
        Nat.min_eq_left (Nat.le_of_not_lt hlt), UInt64.toNat_mul]
      apply Nat.mod_eq_of_lt
      simp only [UInt64.size] at hlt
      omega

/-- Where there is a remainder the divisor is above one, so that the quotient has a successor. -/
theorem toNat_div_add_one (hb : b ≠ 0) (h : ¬ b.toNat ∣ a.toNat) :
    (a / b + 1).toNat = a.toNat / b.toNat + 1 := by
  have ha : a.toNat ≠ 0 := fun hz => h (hz ▸ Nat.dvd_zero _)
  have hone : 1 ≠ b.toNat := fun he => h (he ▸ Nat.one_dvd _)
  have hless : a.toNat / b.toNat < a.toNat :=
    Nat.div_lt_self (Nat.pos_of_ne_zero ha) (Nat.lt_of_le_of_ne (toNat_pos hb) hone)
  have hsize := a.toNat_lt_size
  rw [toNat_add_of_lt] <;> rw [UInt64.toNat_div, UInt64.toNat_one]
  omega

theorem ceilDiv_le_iff (hb : b ≠ 0) (c : Nat) :
    (ceilDiv a b).toNat ≤ c ↔ a.toNat ≤ c * b.toNat := by
  have hpos := toNat_pos hb
  have hdvd : a % b = 0 ↔ b.toNat ∣ a.toNat := by
    rw [← UInt64.toNat_inj, UInt64.toNat_mod, Nat.dvd_iff_mod_eq_zero]
    rfl
  unfold ceilDiv
  split
  next h =>
    obtain ⟨q, hq⟩ := hdvd.1 h
    rw [UInt64.toNat_div, hq, Nat.mul_div_cancel_left q hpos, Nat.mul_comm,
      Nat.mul_le_mul_right_iff hpos]
  next h =>
    rw [hdvd] at h
    have hne : a.toNat ≠ c * b.toNat := fun he => h (he ▸ Nat.dvd_mul_left _ _)
    rw [toNat_div_add_one hb h, Nat.succ_le_iff, Nat.div_lt_iff_lt_mul hpos, Nat.lt_iff_le_and_ne,
      and_iff_left hne]

theorem toNat_clamp (h : lo ≤ hi) :
    (clamp w lo hi).toNat = max lo.toNat (min w.toNat hi.toNat) := by
  rw [UInt64.le_iff_toNat_le] at h
  simp only [clamp, UInt64.lt_iff_toNat_lt]
  split
  · omega
  · split <;> omega

end Word

namespace Block

/-- How many blocks the draws fill, at least one and not more than there may be nor than there are
elements. -/
def idealCount (elements cycles maxCount : Nat) : Nat :=
  max 1 (min ⌈(elements * cycles / 2 ^ 20 : ℚ)⌉₊ (min maxCount elements))

theorem ceil_le_iff (elements cycles c : Nat) :
    ⌈(elements * cycles / 2 ^ 20 : ℚ)⌉₊ ≤ c ↔ elements * cycles ≤ c * 2 ^ 20 := by
  rw [Nat.ceil_le, div_le_iff₀ (by positivity)]
  exact_mod_cast Iff.rfl

/-- A product that is cut short asks for as many blocks as the largest word of draws does. -/
theorem toNat_wantedCount (elements cycles : UInt64) : (wantedCount elements cycles).toNat =
    min ⌈(elements.toNat * cycles.toNat / 2 ^ 20 : ℚ)⌉₊ (2 ^ 44) := by
  apply eq_of_forall_ge_iff
  intro c
  have hbudget : drawBudget.toNat = 2 ^ 20 := rfl
  rw [wantedCount, Word.ceilDiv_le_iff (by decide), Word.toNat_satMul, hbudget, min_le_iff,
    min_le_iff, ceil_le_iff]
  simp only [UInt64.size]
  omega

theorem toNat_ceiling (elements maxCount : UInt64) :
    (ceiling elements maxCount).toNat = min maxCount.toNat elements.toNat := by
  simp only [ceiling, UInt64.lt_iff_toNat_lt]
  split <;> omega

theorem toNat_count (elements maxCount : Positive) (cycles : UInt64) :
    (count elements cycles maxCount).toNat =
      min (idealCount elements.val.toNat cycles.toNat maxCount.val.toNat) (2 ^ 44) := by
  rw [count, Word.toNat_clamp (one_le_ceiling elements maxCount), toNat_wantedCount, toNat_ceiling,
    idealCount, UInt64.toNat_one]
  omega

theorem idealCount_le_iff (elements cycles maxCount : Nat) :
    idealCount elements cycles maxCount ≤ 2 ^ 44 ↔
      elements * cycles ≤ 2 ^ 64 ∨ maxCount ≤ 2 ^ 44 ∨ elements ≤ 2 ^ 44 := by
  have hceil := ceil_le_iff elements cycles (2 ^ 44)
  rw [← Nat.pow_add] at hceil
  rw [← hceil, idealCount]
  omega

/-- A number of blocks that is the exact one, except that it stays at 2^44 where more are asked for: only
if the product does not fit a word, and both the ceiling and the elements leave room. -/
structure CountedFor (elements cycles maxCount blocks : Nat) : Prop where
  eq_min : blocks = min (idealCount elements cycles maxCount) (2 ^ 44)
  exact_iff : blocks = idealCount elements cycles maxCount ↔
    elements * cycles ≤ 2 ^ 64 ∨ maxCount ≤ 2 ^ 44 ∨ elements ≤ 2 ^ 44

theorem countedFor_count (elements maxCount : Positive) (cycles : UInt64) :
    CountedFor elements.val.toNat cycles.toNat maxCount.val.toNat
      (count elements cycles maxCount).toNat where
  eq_min := toNat_count elements maxCount cycles
  exact_iff := by rw [toNat_count, min_eq_left_iff, idealCount_le_iff]

end Block

open Block

theorem Generator.toNat_cyclesPerEdge (g : Generator) :
    g.cyclesPerEdge.toUInt64.toNat = g.cyclesPerEdge := by
  have hscale := idBits_le g.vertexCount
  have hcycles : g.cyclesPerEdge ≤ g.scale * 5 := by
    simp only [cyclesPerEdge, Sampler.cyclesPerEdge, scale]
    split <;> omega
  apply Nat.mod_eq_of_lt
  exact Nat.lt_of_le_of_lt (hcycles.trans (Nat.mul_le_mul_right 5 hscale)) (by decide)

/-- The product of elements and draws is cut at the largest word. For that 2^44 blocks are enough, and the
count is exact wherever no more of them are asked for. -/
theorem blocks_counted {σ : Type} (sourceAt : UInt64 → σ) (elements maxCount : Positive) (cycles : UInt64)
    (g : Generator) :
    (∃ blocks, partition sourceAt elements.val cycles maxCount = .ok blocks ∧
      CountedFor elements.val.toNat cycles.toNat maxCount.val.toNat blocks.length) ∧
    ∃ blocks, g.blocks = .ok blocks ∧ g.blockCount.toNat = blocks.length ∧
      CountedFor g.edgeCount.val.toNat g.cyclesPerEdge g.maxBlockCount.val.toNat blocks.length := by
  constructor
  · obtain ⟨blocks, h, -⟩ := partition_tiles sourceAt elements.pos cycles maxCount
    have hcount := countedFor_count elements maxCount cycles
    rw [← length_of_partition h] at hcount
    exact ⟨blocks, h, hcount⟩
  · obtain ⟨blocks, h⟩ := g.exists_blocks
    have hlen : blocks.length = g.blockCount.toNat := Generator.length_blocks h
    have hcount := countedFor_count g.edgeCount g.maxBlockCount g.cyclesPerEdge.toUInt64
    rw [g.toNat_cyclesPerEdge] at hcount
    exact ⟨blocks, h, hlen.symm, hlen ▸ hcount⟩

/-- Four draws for each of 2^63 edges fill 2^45 blocks, and half as many are counted. -/
theorem blocks_undercounted : ∃ g,
    ({ vertexCount := 16, edgeCount := 0x8000000000000000, maxBlockCount := Word.maximum } :
      Config).validate = .ok g ∧ g.blockCount.toNat = 2 ^ 44 ∧
    idealCount g.edgeCount.val.toNat g.cyclesPerEdge g.maxBlockCount.val.toNat = 2 ^ 45 := by
  refine ⟨_, rfl, by decide +kernel, ?_⟩
  have hcycles : (9223372036854775808 * 4 / 2 ^ 20 : ℚ) = (2 ^ 45 : Nat) := by norm_num
  change max 1 (min ⌈((9223372036854775808 : Nat) * (4 : Nat) / 2 ^ 20 : ℚ)⌉₊
    (min 18446744073709551615 9223372036854775808)) = 2 ^ 45
  push_cast
  rw [hcycles, Nat.ceil_natCast]
  rfl

end RecursiveMatrix
