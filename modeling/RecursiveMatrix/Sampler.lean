import RecursiveMatrix.Block
import RecursiveMatrix.Edge
import RecursiveMatrix.Noise
import RecursiveMatrix.Weights

namespace RecursiveMatrix

def idBits (vertexCount : Positive) : Nat := Word.bitLength (vertexCount.val - 1)

/-- Makes edges between the vertices below `vertexCount`. Without a retry limit an edge is tried for
as long as its candidates fall outside. -/
structure Sampler where
  vertexCount : Positive
  probabilities : Probabilities
  noise : Noise
  retryLimit : Option Positive := none

/-- What the search for one edge came to. Candidates are counted here and below by natural numbers, which
no run takes as far as `2 ^ 64`, where a word would start from zero again. -/
structure Search (σ : Type) where
  found : Option Edge
  rejected : Nat
  source : σ

structure Sweep (σ : Type) where
  edges : Array Edge
  rejected : Nat
  source : σ
  complete : Bool

structure Batch where
  edges : List Edge
  rejected : Nat

namespace Sampler

variable {σ : Type} [Source σ]

def scale (z : Sampler) : Nat := idBits z.vertexCount

def cyclesPerEdge (z : Sampler) : Nat :=
  if z.noise.enabled then z.scale * 5 else z.scale

def contains (z : Sampler) (e : Edge) : Bool :=
  e.source < z.vertexCount.val && e.target < z.vertexCount.val

@[specialize] def descend (z : Sampler) : Nat → Weights → σ → List Quadrant × σ
  | 0, _, s => ([], s)
  | n + 1, w, s =>
    let (u, s) := draw s
    let q := Quadrant.select u w.a w.b w.c
    let (w, s) := if z.noise.enabled then w.perturb z.noise.magnitude s else (w, s)
    let (path, s) := descend z n w s
    (q :: path, s)

/-- A path from the whole matrix down to one cell. It starts from the configured shares, whatever
noise made of them before. -/
@[specialize] def candidate (z : Sampler) (s : σ) : Edge × σ :=
  let (path, s) := z.descend z.scale z.probabilities.weights s
  (.ofPath path, s)

@[specialize] def search (z : Sampler) : (budget : Nat) → (rejected : Nat) → σ → Search σ
  | 0, r, s => ⟨none, r, s⟩
  | budget + 1, r, s =>
    let (e, s) := z.candidate s
    if z.contains e then ⟨some e, r, s⟩ else search z budget (r + 1) s

/-- How many candidates one edge may take: one more than may be rejected, or as many as the caller
has the patience for. -/
def budget (z : Sampler) (patience : Nat) : Nat :=
  match z.retryLimit with
  | some limit => limit.val.toNat + 1
  | none => patience

@[specialize] def sweepFrom (z : Sampler) (budget : Nat) :
    (remaining : Nat) → (position : UInt64) → Array Edge → (rejected : Nat) → σ → Sweep σ
  | 0, _, edges, r, s => ⟨edges, r, s, true⟩
  | n + 1, position, edges, r, s =>
    let t := z.search budget r (beginElement s position)
    match t.found with
    | some e => sweepFrom z budget n (position + 1) (edges.push e) t.rejected t.source
    | none => ⟨edges, t.rejected, t.source, false⟩

/-- Takes the elements of a block one after the other, up to the first that finds no edge. Room for all
the edges is taken for granted; from `2 ^ 59` of them on no memory has it. -/
@[specialize] def sweep (z : Sampler) (patience : Nat) (b : Block σ) : Sweep σ :=
  z.sweepFrom (z.budget patience) b.elementCount.val.toNat b.firstElement #[] 0 b.source

def stop (z : Sampler) (b : Block σ) : Stop :=
  match z.retryLimit with
  | some limit => .failed (.retriesExhausted b.index limit.val)
  | none => .unfinished

def resultOf (z : Sampler) (b : Block σ) (t : Sweep σ) : Except Stop Batch :=
  if t.complete then .ok ⟨t.edges.toList, t.rejected⟩ else .error (z.stop b)

@[specialize] def sample (z : Sampler) (patience : Nat) (b : Block σ) : Except Stop Batch :=
  z.resultOf b (z.sweep patience b)

end Sampler

end RecursiveMatrix
