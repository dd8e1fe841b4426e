import RecursiveMatrix.Config
import RecursiveMatrix.Report

namespace RecursiveMatrix.CommandLine

open Trace

/-- The command that generates a graph, with all its settings. -/
structure Generate where
  vertexCount : UInt64
  edgeCount : UInt64
  a : Float32
  b : Float32
  c : Float32
  noise : Option Float32
  seed : UInt64
  parallelism : Option UInt64
  format : OutputFormat

def target : String := "rmat_cli::cli::commands"

namespace Generate

/-- Noise is on when a magnitude was given for it. -/
def config (c : Generate) : Config where
  vertexCount := c.vertexCount
  edgeCount := c.edgeCount
  a := c.a
  b := c.b
  c := c.c
  noiseEnabled := c.noise.isSome
  noise := c.noise.getD Noise.defaultMagnitude
  seed := c.seed
  parallelism := c.parallelism

def span (c : Generate) : Span :=
  ⟨"cli.generate", .info, target, [("vertex_count", .natural c.vertexCount.toNat),
    ("edge_count", .natural c.edgeCount.toNat)]⟩

def runSpan : Span := ⟨"cli.run", .info, target, [("command", .empty)]⟩

def generate (c : Generate) (host : Host) : Run Summary :=
  Run.within 1 c.span do
    let g ← Run.ofExcept c.config.validate
    let blocks := g.blockCount
    let graph ← g.generate host
    Run.emit (.note .info target "command completed" [("vertices", .natural graph.vertexCount),
      ("edges", .natural graph.edgeCount), ("blocks", .natural blocks.toNat)])
    return ⟨c.format, g.scale, blocks, g.seed, graph⟩

/-- Carries the command out. -/
def run (c : Generate) (host : Host) : Run Summary :=
  Run.within 0 runSpan do
    Run.record 0 [("command", .shown "generate")]
    c.generate host

end Generate

end RecursiveMatrix.CommandLine
