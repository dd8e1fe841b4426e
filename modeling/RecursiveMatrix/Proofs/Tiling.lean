import RecursiveMatrix.Block

namespace RecursiveMatrix.Block

variable {σ : Type} {sourceAt : UInt64 → σ} {hi i lo : Nat} {blocks : List (Block σ)}

def Covers (b : Block σ) (j : Nat) : Prop :=
  b.firstElement.toNat ≤ j ∧ j < b.firstElement.toNat + b.elementCount.val.toNat

/-- Blocks numbered from `i` on take up the elements from `lo` to `hi`, each where the one before it
ends, and the source of each is positioned at its first element. -/
inductive Tiles (sourceAt : UInt64 → σ) (hi : Nat) : Nat → Nat → List (Block σ) → Prop
  | nil (i : Nat) : Tiles sourceAt hi i hi []
  | cons {b : Block σ} {bs : List (Block σ)} (source : b.source = sourceAt b.firstElement)
      (rest : Tiles sourceAt hi (b.index.toNat + 1)
        (b.firstElement.toNat + b.elementCount.val.toNat) bs) :
      Tiles sourceAt hi b.index.toNat b.firstElement.toNat (b :: bs)

theorem Tiles.le (h : Tiles sourceAt hi i lo blocks) : lo ≤ hi := by
  induction h with
  | nil => exact Nat.le_refl _
  | cons _ _ ih => omega

theorem Tiles.end_le (h : Tiles sourceAt hi i lo blocks) {b : Block σ} (hb : b ∈ blocks) :
    b.firstElement.toNat + b.elementCount.val.toNat ≤ hi := by
  induction h with
  | nil => exact absurd hb List.not_mem_nil
  | cons source rest ih =>
      rcases List.mem_cons.1 hb with rfl | hb
      · exact rest.le
      · exact ih hb

theorem Tiles.index_of_mem (h : Tiles sourceAt hi i lo blocks) {b : Block σ} (hb : b ∈ blocks) :
    i ≤ b.index.toNat ∧ b.index.toNat < i + blocks.length := by
  induction h with
  | nil => exact absurd hb List.not_mem_nil
  | @cons b' bs source rest ih =>
      rw [List.length_cons]
      rcases List.mem_cons.1 hb with rfl | hb
      · omega
      · have hrest := ih hb
        omega

theorem Tiles.indices (h : Tiles sourceAt hi i lo blocks) :
    blocks.map (·.index.toNat) = List.range' i blocks.length := by
  induction h with
  | nil => rfl
  | cons source rest ih => rw [List.map_cons, ih, List.length_cons, List.range'_succ]

theorem Tiles.source_of_mem (h : Tiles sourceAt hi i lo blocks) {b : Block σ} (hb : b ∈ blocks) :
    b.source = sourceAt b.firstElement := by
  induction h with
  | nil => exact absurd hb List.not_mem_nil
  | cons source rest ih =>
      rcases List.mem_cons.1 hb with rfl | hb
      · exact source
      · exact ih hb

/-- The sum that bounds `layout` never leaves the words, so no quota is cut short. -/
theorem layout_tiles (sourceAt : UInt64 → σ) (blockCount : UInt64) {share : Positive}
    {extra : UInt64} (n : Nat) (index first : UInt64) (acc : Array (Block σ)) (hi : Nat)
    (hfit : hi < UInt64.size) (hindex : index.toNat + n < UInt64.size)
    (hsum : first.toNat + n * share.val.toNat + min n (extra.toNat - index.toNat) = hi) :
    ∃ blocks, (layout sourceAt blockCount share extra n index first acc).toList =
        acc.toList ++ blocks ∧ Tiles sourceAt hi index.toNat first.toNat blocks := by
  induction n generalizing index first acc with
  | zero =>
      have hfirst : first.toNat = hi := by omega
      exact ⟨[], (List.append_nil _).symm, hfirst ▸ .nil _⟩
  | succ n ih =>
      let quota := if index < extra then share.satAdd 1 else share
      have hquota : quota.val.toNat = share.val.toNat + if index < extra then 1 else 0 := by
        by_cases hx : index < extra
        · have hlt := UInt64.lt_iff_toNat_lt.1 hx
          simp only [quota, if_pos hx]
          rw [Nat.succ_mul] at hsum
          exact Word.toNat_satAdd (by rw [UInt64.toNat_one]; omega)
        · simp only [quota, if_neg hx, Nat.add_zero]
      have hstep : first.toNat + quota.val.toNat + n * share.val.toNat +
          min n (extra.toNat - (index.toNat + 1)) = hi := by
        rw [hquota]
        rw [Nat.succ_mul] at hsum
        simp only [UInt64.lt_iff_toNat_lt]
        split <;> omega
      have hnext : (index + 1).toNat = index.toNat + 1 :=
        Word.toNat_add_of_lt (by rw [UInt64.toNat_one]; omega)
      have hstart : (first + quota.val).toNat = first.toNat + quota.val.toNat :=
        Word.toNat_add_of_lt (by omega)
      let b : Block σ := ⟨index, blockCount, first, quota, sourceAt first⟩
      obtain ⟨bs, hbs, ht⟩ := ih (index + 1) (first + quota.val) (acc.push b)
        (by rw [hnext]; omega) (by rw [hnext, hstart]; exact hstep)
      rw [hnext, hstart] at ht
      refine ⟨b :: bs, ?_, .cons (b := b) rfl ht⟩
      rw [layout, hbs, Array.toList_push, List.append_assoc, List.singleton_append]

theorem partition_tiles (sourceAt : UInt64 → σ) {elements : UInt64} (h : 0 < elements)
    (cycles : UInt64) (maxCount : Positive) :
    ∃ blocks, partition sourceAt elements cycles maxCount = .ok blocks ∧
      Tiles sourceAt elements.toNat 0 0 blocks := by
  let total : Positive := ⟨elements, h⟩
  have hword : Positive.ofWord? elements = some total := Positive.ofWord?_val total
  let n := count total cycles maxCount
  have hn : 0 < n.toNat := by
    have hone := UInt64.le_iff_toNat_le.1 (one_le_count total cycles maxCount)
    rwa [UInt64.toNat_one] at hone
  have hshare : (share total cycles maxCount).val.toNat = elements.toNat / n.toNat :=
    UInt64.toNat_div ..
  have hextra : (total.val % n).toNat = elements.toNat % n.toNat := UInt64.toNat_mod ..
  have hlt := Nat.mod_lt elements.toNat hn
  have hsum : (0 : UInt64).toNat + n.toNat * (share total cycles maxCount).val.toNat +
      min n.toNat ((total.val % n).toNat - (0 : UInt64).toNat) = elements.toNat := by
    have hdiv := Nat.div_add_mod elements.toNat n.toNat
    rw [hshare, hextra, UInt64.toNat_zero]
    omega
  have hbound : (0 : UInt64).toNat + n.toNat < UInt64.size := by
    have hlt := n.toNat_lt_size
    rw [UInt64.toNat_zero]
    omega
  obtain ⟨blocks, hb, ht⟩ := layout_tiles sourceAt n n.toNat 0 0 #[] elements.toNat
    elements.toNat_lt_size hbound hsum
  refine ⟨blocks, ?_, ht⟩
  rw [partition, hword]
  exact congrArg Except.ok hb

theorem tiles_of_partition {elements cycles : UInt64} {maxCount : Positive}
    (h : partition sourceAt elements cycles maxCount = .ok blocks) :
    Tiles sourceAt elements.toNat 0 0 blocks := by
  by_cases hpos : 0 < elements
  · obtain ⟨bs, hbs, ht⟩ := partition_tiles sourceAt hpos cycles maxCount
    rw [hbs] at h
    exact Except.ok.inj h ▸ ht
  · rw [partition, Positive.ofWord?, dif_neg hpos] at h
    cases h

theorem size_layout (sourceAt : UInt64 → σ) (blockCount : UInt64) (share : Positive) (extra : UInt64)
    (n : Nat) (index first : UInt64) (acc : Array (Block σ)) :
    (layout sourceAt blockCount share extra n index first acc).size = acc.size + n := by
  induction n generalizing index first acc with
  | zero => rfl
  | succ n ih =>
      rw [layout, ih, Array.size_push]
      omega

theorem length_of_partition {elements maxCount : Positive} {cycles : UInt64}
    (h : partition sourceAt elements.val cycles maxCount = .ok blocks) :
    blocks.length = (count elements cycles maxCount).toNat := by
  rw [partition, Positive.ofWord?_val] at h
  cases h
  rw [Array.length_toList, size_layout]
  exact Nat.zero_add _

end RecursiveMatrix.Block
