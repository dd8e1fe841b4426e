import RecursiveMatrix.Config

namespace RecursiveMatrix

/-- Parameters of one measured run. -/
structure Preset where
  vertexCount : UInt64
  edgeCount : UInt64
  noise : Option Float32 := none

namespace Preset

def seed : UInt64 := 42

def config (p : Preset) : Config where
  vertexCount := p.vertexCount
  edgeCount := p.edgeCount
  noiseEnabled := p.noise.isSome
  noise := p.noise.getD Noise.defaultMagnitude
  seed := seed

/-- The name that a measurement goes by. -/
def label (p : Preset) : String :=
  let size := s!"v={p.vertexCount.toNat},e={p.edgeCount.toNat}"
  match p.noise with
  | some magnitude => s!"{size},noise={Decimal.shortest magnitude}"
  | none => size

/-- The last number of vertices is no power of two, so that candidates get rejected. -/
def sizes : List Preset := [⟨0x400, 0x4000, none⟩, ⟨0x10000, 0x40000, none⟩, ⟨100000, 0x40000, none⟩]

end Preset

end RecursiveMatrix
