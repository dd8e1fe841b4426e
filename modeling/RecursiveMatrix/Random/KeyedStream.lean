import RecursiveMatrix.Random.Xoshiro

namespace RecursiveMatrix

def keyStep : UInt64 := 0x9E3779B97F4A7C15

def scramble (w : UInt64) : UInt64 :=
  let w := w + keyStep
  let w := (w ^^^ (w >>> 30)) * 0xBF58476D1CE4E5B9
  let w := (w ^^^ (w >>> 27)) * 0x94D049BB133111EB
  w ^^^ (w >>> 31)

/-- The seed of the stream behind the element at `position`. -/
def streamSeed (baseSeed position : UInt64) : UInt64 :=
  scramble (baseSeed ^^^ ((position + 1) * keyStep))

def defaultSeed : UInt64 := 0x5EEDCAFE

/-- A source that draws every element from a stream of its own, which the base seed and the
element's position alone decide. -/
structure KeyedStream where
  baseSeed : UInt64
  generator : Xoshiro
deriving DecidableEq

namespace KeyedStream

def positioned (baseSeed position : UInt64) : KeyedStream :=
  ⟨baseSeed, .ofSeed (streamSeed baseSeed position)⟩

instance : Source KeyedStream where
  draw s :=
    let (u, g) := s.generator.draw
    (u, { s with generator := g })
  beginElement s p := positioned s.baseSeed p

end KeyedStream

end RecursiveMatrix
