import RecursiveMatrix.Proofs.Outcome

namespace RecursiveMatrix

namespace Block

variable {σ : Type} {sourceAt : UInt64 → σ} {hi i k lo : Nat} {blocks : List (Block σ)} {b : Block σ}

theorem Tiles.index_getElem (h : Tiles sourceAt hi i lo blocks) (hk : k < blocks.length) :
    blocks[k].index.toNat = i + k := by
  have hget := congrArg (·[k]?) h.indices
  simpa [hk] using hget

theorem Tiles.first_head (h : Tiles sourceAt hi i lo blocks) (hk : 0 < blocks.length) :
    blocks[0].firstElement.toNat = lo := by
  cases h with
  | nil => exact absurd hk (Nat.lt_irrefl 0)
  | cons => rfl

theorem Tiles.first_succ (h : Tiles sourceAt hi i lo blocks) (hk : k + 1 < blocks.length) :
    blocks[k + 1].firstElement.toNat =
      blocks[k].firstElement.toNat + blocks[k].elementCount.val.toNat := by
  induction h generalizing k with
  | nil => exact absurd hk (Nat.not_lt_zero _)
  | cons source rest ih =>
      cases k with
      | zero => exact rest.first_head (Nat.lt_of_succ_lt_succ hk)
      | succ k => exact ih (Nat.lt_of_succ_lt_succ hk)

theorem Tiles.lo_eq_hi (h : Tiles sourceAt hi i lo blocks) (hnil : blocks = []) : lo = hi := by
  cases h with
  | nil => rfl
  | cons => exact absurd hnil (List.cons_ne_nil _ _)

theorem Tiles.end_getLast (h : Tiles sourceAt hi i lo blocks) (hne : blocks ≠ []) :
    (blocks.getLast hne).firstElement.toNat + (blocks.getLast hne).elementCount.val.toNat = hi := by
  induction h with
  | nil => exact absurd rfl hne
  | @cons b bs source rest ih =>
      cases bs with
      | nil => exact rest.lo_eq_hi rfl
      | cons b' bs => exact ih (List.cons_ne_nil b' bs)

theorem mem_layout {blockCount : UInt64} {share : Positive} {extra : UInt64} {n : Nat}
    {index first : UInt64} {acc : Array (Block σ)}
    (hb : b ∈ (layout sourceAt blockCount share extra n index first acc).toList) :
    b ∈ acc.toList ∨
      b.blockCount = blockCount ∧ b.elementCount = if b.index < extra then share.satAdd 1 else share := by
  induction n generalizing index first acc with
  | zero => exact .inl hb
  | succ n ih =>
      rcases ih hb with hacc | hlaid
      · rw [Array.toList_push, List.mem_append, List.mem_singleton] at hacc
        rcases hacc with hacc | rfl
        · exact .inl hacc
        · exact .inr ⟨rfl, rfl⟩
      · exact .inr hlaid

variable {elements maxCount : Positive} {cycles : UInt64}

theorem count_le_maxCount (elements : Positive) (cycles : UInt64) (maxCount : Positive) :
    count elements cycles maxCount ≤ maxCount.val := by
  have hle : ceiling elements.val maxCount.val ≤ maxCount.val := by
    simp only [ceiling, UInt64.le_iff_toNat_le, UInt64.lt_iff_toNat_lt]
    split <;> omega
  exact UInt64.le_trans (Word.clamp_le (one_le_ceiling elements maxCount)) hle

theorem mem_partition (h : partition sourceAt elements.val cycles maxCount = .ok blocks)
    (hb : b ∈ blocks) : b.blockCount = count elements cycles maxCount ∧
      b.elementCount =
        if b.index < elements.val % count elements cycles maxCount
        then (share elements cycles maxCount).satAdd 1 else share elements cycles maxCount := by
  rw [partition, Positive.ofWord?_val] at h
  cases h
  exact (mem_layout hb).resolve_left List.not_mem_nil

/-- The share leaves room for one element more, so no quota is cut short. -/
theorem quota_of_mem (h : partition sourceAt elements.val cycles maxCount = .ok blocks)
    (hb : b ∈ blocks) : b.elementCount.val.toNat = elements.val.toNat / blocks.length +
      if b.index.toNat < elements.val.toNat % blocks.length then 1 else 0 := by
  have hlen := length_of_partition h
  have hshare : (share elements cycles maxCount).val.toNat = elements.val.toNat / blocks.length := by
    rw [hlen]
    exact UInt64.toNat_div ..
  have hextra : (elements.val % count elements cycles maxCount).toNat =
      elements.val.toNat % blocks.length := by
    rw [hlen]
    exact UInt64.toNat_mod ..
  rw [(mem_partition h hb).2]
  split
  next hx =>
    rw [UInt64.lt_iff_toNat_lt, hextra] at hx
    have hfit : elements.val.toNat / blocks.length + 1 < UInt64.size := by
      have hdiv := Nat.div_add_mod elements.val.toNat blocks.length
      have hmul := Nat.le_mul_of_pos_left (elements.val.toNat / blocks.length)
        (List.length_pos_of_mem hb)
      have hsize := elements.val.toNat_lt_size
      omega
    rw [if_pos hx, ← hshare]
    exact Word.toNat_satAdd (by rw [hshare, UInt64.toNat_one]; exact hfit)
  next hx =>
    rw [UInt64.lt_iff_toNat_lt, hextra] at hx
    rw [if_neg hx, hshare, Nat.add_zero]

/-- Blocks that share out so many elements without gap or overlap, and as evenly as can be: what is left
over goes to the first of them, one element to each. -/
structure SharesOut (sourceAt : UInt64 → σ) (elements : Nat) (blocks : List (Block σ)) : Prop where
  index : ∀ i (h : i < blocks.length), blocks[i].index.toNat = i
  blockCount : ∀ b ∈ blocks, b.blockCount.toNat = blocks.length
  source : ∀ b ∈ blocks, b.source = sourceAt b.firstElement
  first : ∀ h : 0 < blocks.length, blocks[0].firstElement = 0
  next : ∀ i (h : i + 1 < blocks.length), blocks[i + 1].firstElement.toNat =
    blocks[i].firstElement.toNat + blocks[i].elementCount.val.toNat
  last : ∀ h : blocks ≠ [], (blocks.getLast h).firstElement.toNat +
    (blocks.getLast h).elementCount.val.toNat = elements
  quota : ∀ i (h : i < blocks.length), blocks[i].elementCount.val.toNat =
    elements / blocks.length + if i < elements % blocks.length then 1 else 0
  positive : ∀ b ∈ blocks, 0 < b.elementCount.val
  descending : blocks.Pairwise fun b b' => b'.elementCount.val ≤ b.elementCount.val ∧
    b.elementCount.val.toNat ≤ b'.elementCount.val.toNat + 1

theorem sharesOut_of_partition (h : partition sourceAt elements.val cycles maxCount = .ok blocks) :
    SharesOut sourceAt elements.val.toNat blocks := by
  have ht := tiles_of_partition h
  have hindex (i : Nat) (hi : i < blocks.length) : blocks[i].index.toNat = i := by
    rw [ht.index_getElem hi, Nat.zero_add]
  have hquota (i : Nat) (hi : i < blocks.length) : blocks[i].elementCount.val.toNat =
      elements.val.toNat / blocks.length +
        if i < elements.val.toNat % blocks.length then 1 else 0 := by
    rw [quota_of_mem h (List.getElem_mem hi), hindex i hi]
  constructor
  case index => exact hindex
  case blockCount =>
    intro b hb
    rw [(mem_partition h hb).1, length_of_partition h]
  case source => exact fun b hb => ht.source_of_mem hb
  case first => exact fun hpos => UInt64.toNat_inj.1 (ht.first_head hpos)
  case next => exact fun i hi => ht.first_succ hi
  case last => exact ht.end_getLast
  case quota => exact hquota
  case positive => exact fun b _ => b.elementCount.pos
  case descending =>
    refine List.pairwise_iff_getElem.2 fun i j hi hj hij => ?_
    rw [UInt64.le_iff_toNat_le, hquota i hi, hquota j hj]
    -- only the earlier of two blocks can be the one that takes an element more
    by_cases hx : j < elements.val.toNat % blocks.length
    · rw [if_pos hx, if_pos (Nat.lt_trans hij hx)]
      omega
    · rw [if_neg hx]
      split <;> omega

end Block

open Block

/-- However many draws an element takes, a workload that is not empty is shared out evenly among as many
blocks as are counted beforehand, and their number is within the bounds that are set for it. There is no
way to share out an empty one. -/
theorem workload_shared_out (σ : Type) (sourceAt : UInt64 → σ) (elements : Positive) (cycles : UInt64)
    (maxCount : Positive) :
    (∃ blocks, partition sourceAt elements.val cycles maxCount = .ok blocks ∧
      blocks.length = (count elements cycles maxCount).toNat ∧ 1 ≤ blocks.length ∧
      blocks.length ≤ min maxCount.val.toNat elements.val.toNat ∧
      SharesOut sourceAt elements.val.toNat blocks) ∧
    partition sourceAt 0 cycles maxCount = .error .emptyWorkload ∧
    ∀ g : Generator, ∃ blocks, g.blocks = .ok blocks ∧ blocks.length = g.blockCount.toNat ∧
      SharesOut (KeyedStream.positioned g.seed) g.edgeCount.val.toNat blocks := by
  refine ⟨?_, rfl, fun g => ?_⟩
  · obtain ⟨blocks, h, -⟩ := partition_tiles sourceAt elements.pos cycles maxCount
    have hlen := length_of_partition h
    have hone := UInt64.le_iff_toNat_le.1 (one_le_count elements cycles maxCount)
    have hmax := UInt64.le_iff_toNat_le.1 (count_le_maxCount elements cycles maxCount)
    have hall := UInt64.le_iff_toNat_le.1 (count_le elements cycles maxCount)
    rw [UInt64.toNat_one] at hone
    exact ⟨blocks, h, hlen, hlen ▸ hone, hlen ▸ Nat.le_min.2 ⟨hmax, hall⟩, sharesOut_of_partition h⟩
  · obtain ⟨blocks, h⟩ := g.exists_blocks
    exact ⟨blocks, h, Generator.length_blocks h, sharesOut_of_partition h⟩

example : (partition id 11 0x100000 ⟨4, by decide⟩).map
    (·.map fun b => (b.index, b.firstElement, b.elementCount.val)) =
      .ok [(0, 0, 3), (1, 3, 3), (2, 6, 3), (3, 9, 2)] := rfl

end RecursiveMatrix
