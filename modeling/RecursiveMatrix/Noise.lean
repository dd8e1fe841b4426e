import RecursiveMatrix.Error

namespace RecursiveMatrix

/-- How the shares are shaken after each bit. The magnitude is the width of the interval around one
that the factors come from; no factor is below zero as long as it is at most two. -/
structure Noise where
  enabled : Bool
  magnitude : Float32
  nonneg : 0 ≤ magnitude
  le_two : magnitude ≤ 2

namespace Noise

/-- The magnitude is checked whether or not noise is enabled. -/
def validate (enabled : Bool) (magnitude : Float32) : Except Error Noise :=
  if h : 0 ≤ magnitude ∧ magnitude ≤ 2 then .ok ⟨enabled, magnitude, h.1, h.2⟩
  else .error (.noise magnitude)

def defaultMagnitude : Float32 := 0.1

def disabled : Noise := ⟨false, defaultMagnitude, by decide, by decide⟩

instance : Inhabited Noise := ⟨disabled⟩

end Noise

end RecursiveMatrix
