import RecursiveMatrix.Probabilities
import RecursiveMatrix.Random.Source

namespace RecursiveMatrix

/-- The shares in force at one bit level. -/
structure Weights where
  a : Float32
  b : Float32
  c : Float32
  d : Float32
deriving BEq

@[inline] def Probabilities.weights (p : Probabilities) : Weights := ⟨p.a, p.b, p.c, p.d⟩

namespace Weights

variable {σ : Type} [Source σ]

/-- A factor from the interval of the given width around one. -/
@[inline] def jitterOf (magnitude u : Float32) : Float32 := 1 - magnitude / 2 + u * magnitude

@[inline] def scale (w : Weights) (fa fb fc fd : Float32) : Weights :=
  ⟨w.a * fa, w.b * fb, w.c * fc, w.d * fd⟩

/-- Scales the shares to sum to one. The last is what the others leave of one, which loses less
than scaling it would. -/
@[inline] def normalize (w : Weights) : Weights :=
  let n := 1 / (w.a + w.b + w.c + w.d)
  let a := w.a * n
  let b := w.b * n
  let c := w.c * n
  ⟨a, b, c, 1 - a - b - c⟩

/-- Shakes each share by a factor of its own, then scales them to sum to one again. -/
@[specialize] def perturb (w : Weights) (magnitude : Float32) (s : σ) : Weights × σ :=
  let (ua, s) := draw s
  let (ub, s) := draw s
  let (uc, s) := draw s
  let (ud, s) := draw s
  let f := jitterOf magnitude
  ((w.scale (f ua) (f ub) (f uc) (f ud)).normalize, s)

end Weights

end RecursiveMatrix
