import RecursiveMatrix.Graph
import RecursiveMatrix.Random.KeyedStream
import RecursiveMatrix.Run
import RecursiveMatrix.Sampler

namespace RecursiveMatrix

open Trace

namespace Sampler

variable {σ : Type} [Source σ]

def target : String := "rmat_core::synthesizer"

def signals (z : Sampler) (b : Block σ) (t : Sweep σ) : List Signal :=
  if t.complete then
    [.emitted (.note .debug target "block synthesized" [("block", .natural b.index.toNat),
      ("edges", .natural b.elementCount.val.toNat), ("rejected", .natural t.rejected)])]
  else
    match z.retryLimit with
    | some limit => [.emitted (.note .warn target "retry limit exceeded while synthesizing block"
        [("block", .natural b.index.toNat), ("limit", .natural limit.val.toNat)])]
    | none => []

/-- What a block adds to the counters; nothing if it was left incomplete. -/
def counters (b : Block σ) (t : Sweep σ) : Counters :=
  if t.complete then { generated := b.elementCount.val.toNat, rejected := t.rejected } else {}

def report (z : Sampler) (b : Block σ) (t : Sweep σ) : Run Batch :=
  ⟨z.resultOf b t, z.signals b t, counters b t⟩

structure Progress where
  edges : Array Edge := #[]
  signals : Array Signal := #[]
  counters : Counters := {}

@[specialize] def runBlocks (z : Sampler) (patience : Nat) :
    List (Block σ) → Progress → Run (List Edge)
  | [], p => ⟨.ok p.edges.toList, p.signals.toList, p.counters⟩
  | b :: bs, p =>
    let r := z.report b (z.sweep patience b)
    let signals := p.signals.appendList r.signals
    let counters := p.counters + r.counters
    match r.outcome with
    | .ok batch => runBlocks z patience bs ⟨p.edges.appendList batch.edges, signals, counters⟩
    | .error stop => ⟨.error stop, signals.toList, counters⟩

end Sampler

/-- A generator of graphs, from a configuration that was found valid. -/
structure Generator where
  edgeCount : Positive
  sampler : Sampler
  seed : UInt64
  parallelism : Option Positive
  maxBlockCount : Positive

namespace Generator

def target : String := "rmat_core::rmat"

def vertexCount (g : Generator) : Positive := g.sampler.vertexCount

def scale (g : Generator) : Nat := g.sampler.scale

def cyclesPerEdge (g : Generator) : Nat := g.sampler.cyclesPerEdge

def blockCount (g : Generator) : UInt64 :=
  Block.count g.edgeCount g.cyclesPerEdge.toUInt64 g.maxBlockCount

/-- The layout hangs on the edges and the draws they take, never on who does the work. -/
def blocks (g : Generator) : Except Error (List (Block KeyedStream)) :=
  Block.partition (KeyedStream.positioned g.seed) g.edgeCount.val g.cyclesPerEdge.toUInt64
    g.maxBlockCount

/-- One block alone is no reason to leave the caller's thread. -/
def inShared {α : Type} (host : Host) (blockCount : Nat) (work : Run α) : Run α :=
  if host.sharesWorkers && 1 < blockCount then work.relay else work

def runBlocks (g : Generator) (host : Host) : Run (List Edge) := do
  let blocks ← Run.ofExcept g.blocks
  let edges ← inShared host blocks.length (g.sampler.runBlocks host.patience blocks {})
  Run.count { blocks := blocks.length }
  Run.emit (.note .info target "blocks synthesized" [("blocks", .natural blocks.length)])
  return edges

/-- Where parallelism is set the work is handed to a pool of its own. -/
def inPool {α : Type} (g : Generator) (host : Host) (work : Run α) : Run α :=
  match g.parallelism, host.poolFault with
  | none, _ => work
  | some _, none => work.relay
  | some _, some reason => { outcome := .error (.failed (.workerPool reason)) }

def spanId : Nat := 2

def generateEdges (g : Generator) (host : Host) : Run (List Edge) :=
  Run.within spanId ⟨"core.generate_edges", .info, target, []⟩ (g.inPool host (g.runBlocks host))

def span (g : Generator) : Span :=
  ⟨"core.generate", .info, target, [("vertex_count", .natural g.vertexCount.val.toNat),
    ("edge_count", .natural g.edgeCount.val.toNat), ("scale", .natural g.scale),
    ("noise", .flag g.sampler.noise.enabled), ("seed", .natural g.seed.toNat)]⟩

def generate (g : Generator) (host : Host) : Run Graph :=
  Run.within spanId g.span do
    let graph ← g.inPool host (Graph.ofEdges <$> g.runBlocks host)
    Run.emit (.note .info target "graph generated"
      [("vertices", .natural graph.vertexCount), ("edges", .natural graph.edgeCount)])
    return graph

end Generator

end RecursiveMatrix
