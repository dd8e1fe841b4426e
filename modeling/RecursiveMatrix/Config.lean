import RecursiveMatrix.Generator

namespace RecursiveMatrix

/-- Settings as they were asked for, valid or not. -/
structure Config where
  vertexCount : UInt64
  edgeCount : UInt64
  a : Float32 := Probabilities.defaultA
  b : Float32 := Probabilities.defaultB
  c : Float32 := Probabilities.defaultC
  noiseEnabled : Bool := false
  noise : Float32 := Noise.defaultMagnitude
  seed : UInt64 := defaultSeed
  parallelism : Option UInt64 := none
  maxBlockCount : UInt64 := Block.defaultCeiling
  retryLimit : Option UInt64 := none

namespace Config

/-- A new value for one setting. -/
inductive Change
  | constants (a b c : Float32)
  | noise (enabled : Bool) (magnitude : Float32)
  | seed (value : UInt64)
  | parallelism (threads : UInt64)
  | maxBlockCount (value : UInt64)
  | retryLimit (value : UInt64)

def apply (s : Config) : Change → Config
  | .constants a b c => { s with a, b, c }
  | .noise enabled magnitude => { s with noiseEnabled := enabled, noise := magnitude }
  | .seed v => { s with seed := v }
  | .parallelism threads => { s with parallelism := some threads }
  | .maxBlockCount v => { s with maxBlockCount := v }
  | .retryLimit v => { s with retryLimit := some v }

def positive (refusal : UInt64 → Error) (w : UInt64) : Except Error Positive :=
  match Positive.ofWord? w with
  | some p => .ok p
  | none => .error (refusal w)

def positive? (refusal : UInt64 → Error) : Option UInt64 → Except Error (Option Positive)
  | none => .ok none
  | some w => some <$> positive refusal w

/-- Checks the settings in this order and reports the first that is not valid. -/
def validate (s : Config) : Except Error Generator := do
  let vertexCount ← positive .vertexCount s.vertexCount
  let edgeCount ← positive .edgeCount s.edgeCount
  let probabilities ← Probabilities.validate s.a s.b s.c
  let noise ← Noise.validate s.noiseEnabled s.noise
  let parallelism ← positive? .parallelism s.parallelism
  let maxBlockCount ← positive .maxBlockCount s.maxBlockCount
  let retryLimit ← positive? .retryLimit s.retryLimit
  return ⟨edgeCount, ⟨vertexCount, probabilities, noise, retryLimit⟩, s.seed, parallelism, maxBlockCount⟩

end Config

end RecursiveMatrix
