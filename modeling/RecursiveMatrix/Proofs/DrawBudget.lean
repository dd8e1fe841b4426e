import RecursiveMatrix.Proofs.BlockCount

namespace RecursiveMatrix

namespace Block

variable {σ : Type} {sourceAt : UInt64 → σ} {elements maxCount : Positive} {cycles : UInt64}
  {blocks : List (Block σ)} {b : Block σ} {K M N n q : Nat}

/-- A number of elements that is less than one off the exact share of `N` of them among `n` blocks. -/
structure EvenShare (N n q : Nat) : Prop where
  lt : (q - 1) * n < N
  gt : N < (q + 1) * n

theorem evenShare_of_mem (h : partition sourceAt elements.val cycles maxCount = .ok blocks) (hb : b ∈ blocks) :
    EvenShare elements.val.toNat blocks.length b.elementCount.val.toNat := by
  have hquota := quota_of_mem h hb
  have helements := elements.toNat_pos
  have hblocks := List.length_pos_of_mem hb
  have hdiv := Nat.div_add_mod' elements.val.toNat blocks.length
  have hmod := Nat.mod_lt elements.val.toNat hblocks
  split at hquota
  next hextra =>
    rw [hquota]
    constructor
    · rw [Nat.add_sub_cancel]
      omega
    · rw [Nat.add_mul, Nat.add_mul]
      omega
  next =>
    rw [hquota, Nat.add_zero]
    constructor
    · rw [Nat.sub_mul]
      omega
    · rw [Nat.add_mul]
      omega

theorem EvenShare.sub_one_mul_lt (h : EvenShare N n q) (hfit : N * K ≤ n * 2 ^ 20) :
    (q - 1) * K < 2 ^ 20 := by
  rcases Nat.eq_zero_or_pos K with rfl | hK
  · exact Nat.two_pow_pos 20
  · refine Nat.lt_of_mul_lt_mul_left (a := n) ?_
    calc n * ((q - 1) * K) = (q - 1) * n * K := by ring
      _ < N * K := Nat.mul_lt_mul_of_pos_right h.lt hK
      _ ≤ n * 2 ^ 20 := hfit

theorem EvenShare.lt_add_one_mul (h : EvenShare N n q) (hn : 2 ≤ n) (hfew : (n - 1) * 2 ^ 20 < N * K) :
    2 ^ 19 < (q + 1) * K := by
  refine Nat.lt_of_mul_lt_mul_left (a := n) ?_
  calc n * 2 ^ 19 ≤ (n - 1) * 2 ^ 20 := by omega
    _ < N * K := hfew
    _ ≤ (q + 1) * n * K := Nat.mul_le_mul_right K (Nat.le_of_lt h.gt)
    _ = n * ((q + 1) * K) := by ring

/-- How many blocks the draws fill, be there so many or not. -/
def filled (elements cycles : Nat) : Nat := max 1 ⌈(elements * cycles / 2 ^ 20 : ℚ)⌉₊

theorem filled_le_iff (hn : 0 < n) : filled N K ≤ n ↔ N * K ≤ n * 2 ^ 20 := by
  rw [filled, Nat.max_le, ceil_le_iff]
  exact and_iff_right hn

theorem idealCount_eq_min (hM : 0 < M) (hN : 0 < N) :
    idealCount N K M = min (filled N K) (min M N) := by
  unfold idealCount filled
  omega

theorem length_of_filled_le (h : partition sourceAt elements.val cycles maxCount = .ok blocks)
    (hfit : elements.val.toNat * cycles.toNat < 2 ^ 64)
    (hle : filled elements.val.toNat cycles.toNat ≤ min maxCount.val.toNat elements.val.toNat) :
    blocks.length = filled elements.val.toNat cycles.toNat := by
  have hexact := (countedFor_count elements maxCount cycles).exact_iff.2 (.inl (Nat.le_of_lt hfit))
  rw [length_of_partition h, hexact, idealCount_eq_min maxCount.toNat_pos elements.toNat_pos,
    Nat.min_eq_left hle]

theorem length_eq_ceiling_iff (h : partition sourceAt elements.val cycles maxCount = .ok blocks)
    (hlt : min maxCount.val.toNat elements.val.toNat < filled elements.val.toNat cycles.toNat) :
    blocks.length = min maxCount.val.toNat elements.val.toNat ↔
      elements.val.toNat * cycles.toNat ≤ 2 ^ 64 ∨ maxCount.val.toNat ≤ 2 ^ 44 ∨
        elements.val.toNat ≤ 2 ^ 44 := by
  rw [length_of_partition h, ← (countedFor_count elements maxCount cycles).exact_iff,
    idealCount_eq_min maxCount.toNat_pos elements.toNat_pos, Nat.min_eq_right (Nat.le_of_lt hlt)]

end Block

open Block

/-- Where there are as many blocks as the draws fill, none of them exceeds the budget but for its last
element, and if there are several, one element more would take each of them past half of it. Where there
may not be so many, there are as many as may be, unless they were counted from a product that is cut. -/
theorem draws_within_budget {σ : Type} (sourceAt : UInt64 → σ) (elements maxCount : Positive)
    (cycles : UInt64) :
    let N := elements.val.toNat
    let K := cycles.toNat
    let M := maxCount.val.toNat
    let w := max 1 ⌈(N * K / 2 ^ 20 : ℚ)⌉₊
    ∃ blocks, partition sourceAt elements.val cycles maxCount = .ok blocks ∧
      (N * K < 2 ^ 64 → w ≤ min M N → blocks.length = w ∧ ∀ b ∈ blocks,
        (b.elementCount.val.toNat - 1) * K < 2 ^ 20 ∧
        (2 ≤ w → 2 ^ 19 < (b.elementCount.val.toNat + 1) * K)) ∧
      (min M N < w →
        (blocks.length = min M N ↔ N * K ≤ 2 ^ 64 ∨ M ≤ 2 ^ 44 ∨ N ≤ 2 ^ 44)) := by
  intro N K M w
  obtain ⟨blocks, h, -⟩ := partition_tiles sourceAt elements.pos cycles maxCount
  refine ⟨blocks, h, fun hfit hle => ?_, length_eq_ceiling_iff h⟩
  have hlen : blocks.length = filled N K := length_of_filled_le h hfit hle
  refine ⟨hlen, fun b hb => ⟨?_, fun htwo => ?_⟩⟩
  · have hpos := List.length_pos_of_mem hb
    exact (evenShare_of_mem h hb).sub_one_mul_lt ((filled_le_iff hpos).1 (Nat.le_of_eq hlen.symm))
  · have hmany : 2 ≤ blocks.length := hlen ▸ htwo
    have hfew : ¬ filled N K ≤ blocks.length - 1 := by omega
    rw [filled_le_iff (by omega), Nat.not_le] at hfew
    exact (evenShare_of_mem h hb).lt_add_one_mul hmany hfew

/-- A quarter of the budget for each of ten elements fills three blocks, and the whole of it for each of
eleven would fill more than the four there may be. -/
theorem draws_within_budget_quarters :
    (∃ blocks, partition id 10 0x40000 ⟨4, by decide⟩ = .ok blocks ∧ blocks.length = 3 ∧ ∀ b ∈ blocks,
      (b.elementCount.val.toNat - 1) * 2 ^ 18 < 2 ^ 20 ∧
        2 ^ 19 < (b.elementCount.val.toNat + 1) * 2 ^ 18) ∧
    ∃ blocks, partition id 11 0x100000 ⟨4, by decide⟩ = .ok blocks ∧ blocks.length = 4 := by
  have hthree : filled 10 (2 ^ 18) = 3 := by
    refine Nat.le_antisymm ((filled_le_iff (by decide)).2 (by decide)) (Nat.not_lt.1 fun h => ?_)
    have hle := (filled_le_iff (by decide)).1 (Nat.le_of_lt_succ h)
    exact absurd hle (by decide)
  have hmore : 4 < filled 11 (2 ^ 20) := by
    rw [← Nat.not_le, filled_le_iff (by decide)]
    decide
  constructor
  · obtain ⟨blocks, h, hfit, -⟩ :=
      draws_within_budget id ⟨10, by decide⟩ ⟨4, by decide⟩ 0x40000
    have hle : filled 10 (2 ^ 18) ≤ 4 := by rw [hthree]; decide
    obtain ⟨hlen, hall⟩ := hfit (by decide) hle
    have htwo : 2 ≤ filled 10 (2 ^ 18) := by rw [hthree]; decide
    exact ⟨blocks, h, hlen.trans hthree, fun b hb => ⟨(hall b hb).1, (hall b hb).2 htwo⟩⟩
  · obtain ⟨blocks, h, -, hceiling⟩ :=
      draws_within_budget id ⟨11, by decide⟩ ⟨4, by decide⟩ 0x100000
    exact ⟨blocks, h, (hceiling hmore).2 (.inl (by decide))⟩

end RecursiveMatrix
