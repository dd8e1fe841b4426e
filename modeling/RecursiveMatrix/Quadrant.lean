namespace RecursiveMatrix

/-- One of the four quarters of an adjacency matrix: the source's bit picks the row, the target's
bit the column. -/
inductive Quadrant
  | topLeft
  | topRight
  | bottomLeft
  | bottomRight
deriving DecidableEq, Repr

namespace Quadrant

def ofBits : Bool → Bool → Quadrant
  | false, false => topLeft
  | false, true => topRight
  | true, false => bottomLeft
  | true, true => bottomRight

def sourceBit : Quadrant → Bool
  | topLeft | topRight => false
  | bottomLeft | bottomRight => true

def targetBit : Quadrant → Bool
  | topLeft | bottomLeft => false
  | topRight | bottomRight => true

@[simp] theorem ofBits_bits (q : Quadrant) : ofBits q.sourceBit q.targetBit = q := by
  cases q <;> rfl

@[simp] theorem sourceBit_ofBits (s t : Bool) : (ofBits s t).sourceBit = s := by
  cases s <;> cases t <;> rfl

@[simp] theorem targetBit_ofBits (s t : Bool) : (ofBits s t).targetBit = t := by
  cases s <;> cases t <;> rfl

/-- The quadrant whose stretch of `[0, 1)` holds the draw, when the stretches of `a`, `b`, `c` and
the rest lie side by side; an end belongs to the stretch on its left. -/
@[inline] def select (draw a b c : Float32) : Quadrant :=
  if draw ≤ a then topLeft
  else if draw ≤ a + b then topRight
  else if draw ≤ a + b + c then bottomLeft
  else bottomRight

end Quadrant

end RecursiveMatrix
