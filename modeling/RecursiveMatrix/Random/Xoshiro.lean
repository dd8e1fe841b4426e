import RecursiveMatrix.Word
import RecursiveMatrix.Random.Source

namespace RecursiveMatrix

/-- The state of a xoshiro256++ generator. -/
structure Xoshiro where
  s0 : UInt64
  s1 : UInt64
  s2 : UInt64
  s3 : UInt64
deriving DecidableEq

namespace Xoshiro

@[inline] def next (g : Xoshiro) : UInt64 × Xoshiro :=
  let r := Word.rotateLeft (g.s0 + g.s3) 23 + g.s0
  let s2 := g.s2 ^^^ g.s0
  let s3 := g.s3 ^^^ g.s1
  (r, ⟨g.s0 ^^^ s3, g.s1 ^^^ s2, s2 ^^^ (g.s1 <<< 17), Word.rotateLeft s3 45⟩)

/-- The top 24 bits of one output, read as a fraction of one. -/
@[inline] def uniform (r : UInt64) : Float32 :=
  (r >>> 40).toFloat32 * Float32.ofBits 0x33800000

def scatter (w : UInt64) : UInt64 :=
  w * 6364136223846793005 + 11634580027462260723

/-- The low half of a scrambled word, rotated right by the word's top five bits. -/
def half (w : UInt64) : UInt64 :=
  let x := (((w >>> 18) ^^^ w) >>> 27).toUInt32
  let n := (w >>> 59).toUInt32
  (x >>> n ||| x <<< (32 - n)).toUInt64

/-- A state is filled from eight halves of successive scatterings of the seed, low half first. -/
def ofSeed (seed : UInt64) : Xoshiro :=
  let w1 := scatter seed
  let w2 := scatter w1
  let w3 := scatter w2
  let w4 := scatter w3
  let w5 := scatter w4
  let w6 := scatter w5
  let w7 := scatter w6
  let w8 := scatter w7
  ⟨half w1 ||| half w2 <<< 32, half w3 ||| half w4 <<< 32,
    half w5 ||| half w6 <<< 32, half w7 ||| half w8 <<< 32⟩

@[inline] def draw (g : Xoshiro) : Float32 × Xoshiro :=
  let (r, g) := g.next
  (uniform r, g)

instance : Source Xoshiro where
  draw := draw
  beginElement g _ := g

end Xoshiro

end RecursiveMatrix
