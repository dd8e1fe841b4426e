import RecursiveMatrix.Quadrant

namespace RecursiveMatrix

structure Edge where
  source : UInt64
  target : UInt64
deriving DecidableEq, Repr

namespace Edge

def le (x y : Edge) : Bool :=
  x.source < y.source || (x.source == y.source && x.target ≤ y.target)

/-- One level further down: each id gains the quadrant's bit at its low end. -/
def append (e : Edge) (q : Quadrant) : Edge :=
  ⟨e.source <<< 1 ||| q.sourceBit.toUInt64, e.target <<< 1 ||| q.targetBit.toUInt64⟩

/-- The cell that a path of quadrants leads to, the first of them in the highest bits. -/
def ofPath (path : List Quadrant) : Edge := path.foldl append ⟨0, 0⟩

end Edge

end RecursiveMatrix
