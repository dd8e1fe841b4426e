import RecursiveMatrix.Proofs.EvenSplit
import RecursiveMatrix.Proofs.WorkBound

namespace RecursiveMatrix

namespace Block

variable {σ : Type} {sourceAt : UInt64 → σ} {hi i k lo : Nat} {blocks : List (Block σ)} {b : Block σ}

/-- Where the block after the first `k` starts, as the words add up. -/
def frontier (start : UInt64) (blocks : List (Block σ)) (k : Nat) : UInt64 :=
  (blocks.take k).foldl (fun first b => first + b.elementCount.val) start

def held (blocks : List (Block σ)) (k : Nat) : Nat :=
  ((blocks.take k).map (·.elementCount.val.toNat)).sum

theorem frontier_succ (start : UInt64) (b : Block σ) (blocks : List (Block σ)) (k : Nat) :
    frontier start (b :: blocks) (k + 1) = frontier (start + b.elementCount.val) blocks k := rfl

theorem held_succ (b : Block σ) (blocks : List (Block σ)) (k : Nat) :
    held (b :: blocks) (k + 1) = b.elementCount.val.toNat + held blocks k := rfl

theorem Tiles.add_held_le (h : Tiles sourceAt hi i lo blocks) (k : Nat) : lo + held blocks k ≤ hi := by
  induction h generalizing k with
  | nil i =>
      rw [held, List.take_nil]
      exact Nat.le_refl _
  | @cons b bs source rest ih =>
      cases k with
      | zero => exact Nat.le_trans (Nat.le_add_right _ _) rest.le
      | succ k =>
          rw [held_succ, ← Nat.add_assoc]
          exact ih k

theorem Tiles.first_getElem (h : Tiles sourceAt hi i lo blocks) (hk : k < blocks.length) :
    blocks[k].firstElement.toNat = lo + held blocks k := by
  induction h generalizing k with
  | nil i => exact absurd hk (Nat.not_lt_zero _)
  | @cons b bs source rest ih =>
      cases k with
      | zero => rfl
      | succ k =>
          rw [held_succ, ← Nat.add_assoc]
          exact ih (Nat.lt_of_succ_lt_succ hk)

theorem Tiles.toNat_frontier (h : Tiles sourceAt hi i lo blocks) (hhi : hi < UInt64.size) (k : Nat)
    {start : UInt64} (hstart : start.toNat = lo) : (frontier start blocks k).toNat = lo + held blocks k := by
  induction h generalizing k start with
  | nil i =>
      rw [frontier, held, List.take_nil]
      exact hstart
  | @cons b bs source rest ih =>
      cases k with
      | zero => exact hstart
      | succ k =>
          have hle := rest.le
          have hnext : (start + b.elementCount.val).toNat =
              b.firstElement.toNat + b.elementCount.val.toNat := by
            rw [Word.toNat_add_of_lt (by omega), hstart]
          rw [frontier_succ, held_succ, ih k hnext, Nat.add_assoc]

/-- The element that a block takes beyond its share, as long as there are any left over. -/
def bonus (index extra : UInt64) : UInt64 := if index < extra then 1 else 0

theorem satAdd_bonus (share : Positive) (index extra : UInt64) :
    (share.satAdd (bonus index extra)).val =
      if index < extra then (share.satAdd 1).val else share.val := by
  unfold bonus
  split
  · rfl
  · apply UInt64.toNat_inj.1
    exact Word.toNat_satAdd share.val.toNat_lt_size

variable {elements maxCount : Positive} {cycles : UInt64}

/-- A block is as large as the sum of its share and its bonus in words, and that is the exact sum. -/
theorem quota_eq_satAdd (h : partition sourceAt elements.val cycles maxCount = .ok blocks) (hb : b ∈ blocks) :
    let share := share elements cycles maxCount
    let extra := elements.val % count elements cycles maxCount
    b.elementCount.val = (share.satAdd (bonus b.index extra)).val ∧
      (share.satAdd (bonus b.index extra)).val.toNat = share.val.toNat + (bonus b.index extra).toNat := by
  intro share extra
  have hword : b.elementCount.val = (share.satAdd (bonus b.index extra)).val := by
    rw [satAdd_bonus, (mem_partition h hb).2, apply_ite Positive.val]
  have hshare : share.val.toNat = elements.val.toNat / blocks.length := by
    rw [length_of_partition h]
    exact UInt64.toNat_div ..
  have hextra : extra.toNat = elements.val.toNat % blocks.length := by
    rw [length_of_partition h]
    exact UInt64.toNat_mod ..
  refine ⟨hword, ?_⟩
  rw [← hword, quota_of_mem h hb, hshare, ← hextra, bonus]
  simp only [UInt64.lt_iff_toNat_lt]
  split <;> rfl

/-- A layout for which each operation on words does what it does on numbers: the bounds of the count are in
order, neither the count nor the share is zero, no quota is cut short and no start wraps around. -/
structure WithinWords (elements : Positive) (cycles : UInt64) (maxCount : Positive)
    (blocks : List (Block σ)) : Prop where
  bounds : 1 ≤ ceiling elements.val maxCount.val
  positive : ∃ n : Positive,
    Positive.ofWord? (Word.clamp (wantedCount elements.val cycles) 1
      (ceiling elements.val maxCount.val)) = some n ∧
    Positive.ofWord? (elements.val / n.val) = some (share elements cycles maxCount) ∧
    n.val.toNat = blocks.length
  quota : ∀ b ∈ blocks,
    let share := share elements cycles maxCount
    let extra := elements.val % count elements cycles maxCount
    b.elementCount.val = (share.satAdd (bonus b.index extra)).val ∧
      (share.satAdd (bonus b.index extra)).val.toNat = share.val.toNat + (bonus b.index extra).toNat
  start : ∀ k (h : k < blocks.length), blocks[k].firstElement = frontier 0 blocks k
  frontier : ∀ k, (frontier 0 blocks k).toNat = held blocks k ∧ held blocks k ≤ elements.val.toNat

theorem withinWords_of_partition (h : partition sourceAt elements.val cycles maxCount = .ok blocks) :
    WithinWords elements cycles maxCount blocks := by
  have ht := tiles_of_partition h
  have hfrontier (k : Nat) : (Block.frontier 0 blocks k).toNat = held blocks k := by
    rw [ht.toNat_frontier elements.val.toNat_lt_size k rfl, Nat.zero_add]
  constructor
  case bounds => exact one_le_ceiling elements maxCount
  case positive =>
    let n : Positive := ⟨count elements cycles maxCount, one_le_count elements cycles maxCount⟩
    exact ⟨n, Positive.ofWord?_val n, Positive.ofWord?_val (share elements cycles maxCount),
      (length_of_partition h).symm⟩
  case quota => exact fun b hb => quota_eq_satAdd h hb
  case start =>
    intro k hk
    apply UInt64.toNat_inj.1
    rw [hfrontier, ht.first_getElem hk, Nat.zero_add]
  case frontier =>
    intro k
    have hle := ht.add_held_le k
    rw [Nat.zero_add] at hle
    exact ⟨hfrontier k, hle⟩

end Block

namespace Work

variable {σ : Type} {z : Sampler} {b : Block σ} {t : Work σ} {N k : Nat}

/-- Position and remaining elements go with the edges that have been emitted, inside a workload of `N`
elements. As long as the work goes on there is an element left. -/
structure Tracks (N : Nat) (b : Block σ) (t : Work σ) : Prop where
  position : t.position.toNat = b.firstElement.toNat + t.edges.size
  remaining : t.edges.size + t.remaining.toNat = b.elementCount.val.toNat
  inside : t.position.toNat + t.remaining.toNat ≤ N
  more : t.phase = .opening ∨ t.phase = .drawing → 0 < t.remaining.toNat

theorem tracks_start (h : b.firstElement.toNat + b.elementCount.val.toNat ≤ N) : Tracks N b (start b) where
  position := rfl
  remaining := Nat.zero_add _
  inside := h
  more _ := b.elementCount.toNat_pos

/-- An edge is emitted where there are elements left for it, so neither word wraps around. -/
theorem Tracks.toNat_next (h : Tracks N b t) (hN : N < UInt64.size) (hphase : t.phase = .drawing) :
    (t.position + 1).toNat = t.position.toNat + 1 ∧ (t.remaining - 1).toNat + 1 = t.remaining.toNat := by
  have hinside := h.inside
  have hpos := h.more (.inr hphase)
  constructor
  · exact Word.toNat_add_of_lt (by rw [UInt64.toNat_one]; omega)
  · rw [toNat_remaining_sub hpos, Nat.sub_add_cancel hpos]

theorem Tracks.accept (h : Tracks N b t) (hN : N < UInt64.size) (hphase : t.phase = .drawing) (e : Edge)
    (s : σ) : Tracks N b (t.accept e s) := by
  have hposition := h.position
  have hremaining := h.remaining
  have hinside := h.inside
  obtain ⟨hnext, hless⟩ := h.toNat_next hN hphase
  constructor
  case position =>
    change (t.position + 1).toNat = _ + (t.edges.push e).size
    rw [Array.size_push]
    omega
  case remaining =>
    change (t.edges.push e).size + (t.remaining - 1).toNat = _
    rw [Array.size_push]
    omega
  case inside =>
    change (t.position + 1).toNat + (t.remaining - 1).toNat ≤ N
    omega
  case more =>
    intro hlive
    refine Word.toNat_pos fun hnone => ?_
    have hfinished : (t.accept e s).phase = .finished := if_pos hnone
    rw [hfinished] at hlive
    rcases hlive with hlive | hlive <;> cases hlive

theorem Tracks.reject (h : Tracks N b t) (hphase : t.phase = .drawing) (z : Sampler) (s : σ) :
    Tracks N b (t.reject z 1 s) :=
  ⟨h.position, h.remaining, h.inside, fun _ => h.more (.inr hphase)⟩

variable [Source σ]

theorem Tracks.opened (h : Tracks N b t) (hphase : t.phase = .opening) : Tracks N b t.opened :=
  ⟨h.position, h.remaining, h.inside, fun _ => h.more (.inl hphase)⟩

theorem Tracks.step (h : Tracks N b t) (hN : N < UInt64.size) (z : Sampler) : Tracks N b (t.step z) := by
  cases hphase : t.phase with
  | opening =>
      rw [step_opening hphase]
      exact h.opened hphase
  | drawing =>
      rw [step_drawing hphase]
      split
      · exact h.accept hN hphase _ _
      · exact h.reject hphase z _
  | finished =>
      rw [step_ended (.inl hphase)]
      exact h
  | failed e =>
      rw [step_ended (.inr ⟨e, hphase⟩)]
      exact h

theorem Tracks.iterate (h : Tracks N b t) (hN : N < UInt64.size) (z : Sampler) (k : Nat) :
    Tracks N b ((Work.step z)^[k] t) := by
  induction k with
  | zero => exact h
  | succ k ih =>
      rw [Function.iterate_succ_apply']
      exact ih.step hN z

end Work

open Block Work

/-- From the count of the blocks to the last step of the work on each of them no word wraps around and no
sum is cut short, however many elements there are and whatever is drawn. The work takes these steps to
where the block's sample ends. -/
theorem words_never_wrap {σ : Type} [Source σ] (sourceAt : UInt64 → σ) (elements maxCount : Positive)
    (cycles : UInt64) :
    partition sourceAt 0 cycles maxCount = .error .emptyWorkload ∧
    ∃ blocks, partition sourceAt elements.val cycles maxCount = .ok blocks ∧
      WithinWords elements cycles maxCount blocks ∧
      ∀ b ∈ blocks, ∀ z : Sampler,
        (∀ k, let t := (step z)^[k] (start b)
          t.Tracks elements.val.toNat b ∧
          (t.phase = .drawing → (t.position + 1).toNat = t.position.toNat + 1 ∧
            (t.remaining - 1).toNat + 1 = t.remaining.toNat)) ∧
        (∀ patience batch, z.sample patience b = .ok batch → ∃ k,
          ((step z)^[k] (start b)).phase = .finished ∧
          ((step z)^[k] (start b)).edges.toList = batch.edges ∧
          ((step z)^[k] (start b)).rejected = batch.rejected) ∧
        ∀ patience fault, z.sample patience b = .error (.failed fault) → ∃ k,
          ((step z)^[k] (start b)).phase = .failed fault := by
  refine ⟨rfl, ?_⟩
  obtain ⟨blocks, h, ht⟩ := partition_tiles sourceAt elements.pos cycles maxCount
  refine ⟨blocks, h, withinWords_of_partition h, fun b hb z => ⟨fun k => ?_, ?_, ?_⟩⟩
  · have hsize := elements.val.toNat_lt_size
    have htracks := (tracks_start (ht.end_le hb)).iterate hsize z k
    exact ⟨htracks, htracks.toNat_next hsize⟩
  · exact fun patience batch hbatch => finished_of_sample hbatch
  · exact fun patience fault hfault => failed_of_sample hfault

/-- As many elements as a word can count, in four blocks. -/
example : (partition id Word.maximum 0x100000 ⟨4, by decide⟩).map
    (·.map fun b => (b.firstElement, b.elementCount.val)) =
      .ok [(0, 0x4000000000000000), (0x4000000000000000, 0x4000000000000000),
        (0x8000000000000000, 0x4000000000000000), (0xC000000000000000, 0x3FFFFFFFFFFFFFFF)] := rfl

end RecursiveMatrix
