import RecursiveMatrix.Error

namespace RecursiveMatrix

/-- The share of the edges that falls into each quadrant. That of the last is what the other three
leave of one. -/
structure Probabilities where
  a : Float32
  b : Float32
  c : Float32
  finite : a.isFinite ∧ b.isFinite ∧ c.isFinite
  nonneg : 0 ≤ a ∧ 0 ≤ b ∧ 0 ≤ c
  sum_le : a + b + c ≤ 1

namespace Probabilities

def validate (a b c : Float32) : Except Error Probabilities :=
  if h : (a.isFinite ∧ b.isFinite ∧ c.isFinite) ∧ (0 ≤ a ∧ 0 ≤ b ∧ 0 ≤ c) ∧ a + b + c ≤ 1 then
    .ok ⟨a, b, c, h.1, h.2.1, h.2.2⟩
  else .error (.constants a b c)

def d (p : Probabilities) : Float32 := 1 - p.a - p.b - p.c

def defaultA : Float32 := 0.57
def defaultB : Float32 := 0.19
def defaultC : Float32 := 0.19

instance : Inhabited Probabilities where
  default := ⟨defaultA, defaultB, defaultC, by decide, by decide, by decide⟩

end Probabilities

end RecursiveMatrix
