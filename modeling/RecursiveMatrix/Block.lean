import RecursiveMatrix.Error
import RecursiveMatrix.Word

namespace RecursiveMatrix

/-- A stretch of consecutive elements, with the source they are drawn from. -/
structure Block (σ : Type) where
  index : UInt64
  blockCount : UInt64
  firstElement : UInt64
  elementCount : Positive
  source : σ

namespace Block

def drawBudget : UInt64 := 0x100000

def defaultCeiling : UInt64 := 0x8000

def wantedCount (elements cycles : UInt64) : UInt64 :=
  Word.ceilDiv (Word.satMul elements cycles) drawBudget

def ceiling (elements maxCount : UInt64) : UInt64 :=
  if maxCount < elements then maxCount else elements

theorem one_le_ceiling (elements maxCount : Positive) : 1 ≤ ceiling elements.val maxCount.val := by
  have he := elements.toNat_pos
  have hm := maxCount.toNat_pos
  simp only [ceiling, UInt64.le_iff_toNat_le]
  split <;> simp <;> omega

theorem ceiling_le (elements maxCount : UInt64) : ceiling elements maxCount ≤ elements := by
  simp only [ceiling, UInt64.le_iff_toNat_le, UInt64.lt_iff_toNat_lt]
  split <;> omega

/-- Into how many blocks the elements are split, each of them needing `cycles` draws. -/
def count (elements : Positive) (cycles : UInt64) (maxCount : Positive) : UInt64 :=
  Word.clamp (wantedCount elements.val cycles) 1 (ceiling elements.val maxCount.val)

theorem one_le_count (elements : Positive) (cycles : UInt64) (maxCount : Positive) :
    1 ≤ count elements cycles maxCount :=
  Word.le_clamp (one_le_ceiling elements maxCount)

theorem count_le (elements : Positive) (cycles : UInt64) (maxCount : Positive) :
    count elements cycles maxCount ≤ elements.val :=
  UInt64.le_trans (Word.clamp_le (one_le_ceiling elements maxCount)) (ceiling_le _ _)

def share (elements : Positive) (cycles : UInt64) (maxCount : Positive) : Positive where
  val := elements.val / count elements cycles maxCount
  pos := Word.div_pos (one_le_count _ _ _) (count_le _ _ _)

variable {σ : Type}

/-- The next `n` blocks from `index` on, the first of them starting at `first`. The blocks before
`extra` take one element more than their share. -/
def layout (sourceAt : UInt64 → σ) (blockCount : UInt64) (share : Positive) (extra : UInt64) :
    Nat → UInt64 → UInt64 → Array (Block σ) → Array (Block σ)
  | 0, _, _, blocks => blocks
  | n + 1, index, first, blocks =>
    let quota := if index < extra then share.satAdd 1 else share
    layout sourceAt blockCount share extra n (index + 1) (first + quota.val)
      (blocks.push ⟨index, blockCount, first, quota, sourceAt first⟩)

/-- Splits the elements into blocks as even as they can be, larger ones first, each with a source
positioned at its first element. -/
def partition (sourceAt : UInt64 → σ) (elements cycles : UInt64) (maxCount : Positive) :
    Except Error (List (Block σ)) :=
  match Positive.ofWord? elements with
  | none => .error .emptyWorkload
  | some total =>
    let n := count total cycles maxCount
    .ok (layout sourceAt n (share total cycles maxCount) (total.val % n) n.toNat 0 0 #[]).toList

end Block

end RecursiveMatrix
