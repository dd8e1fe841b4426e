import Std.Data.TreeSet
import RecursiveMatrix.Edge

namespace RecursiveMatrix

/-- Every id that an edge starts or ends at, in ascending order. -/
def vertexSet (edges : List Edge) : List UInt64 :=
  (edges.foldl (fun seen e => (seen.insert e.source).insert e.target)
    (∅ : Std.TreeSet UInt64)).toList

/-- A directed graph without isolated vertices. Its edges keep the order they came in, repeated
edges and loops included. -/
structure Graph where
  vertices : List UInt64
  edges : List Edge
deriving DecidableEq

namespace Graph

def ofEdges (edges : List Edge) : Graph := ⟨vertexSet edges, edges⟩

def empty : Graph := ⟨[], []⟩

def vertexCount (g : Graph) : Nat := g.vertices.length

def edgeCount (g : Graph) : Nat := g.edges.length

def isDirected (_ : Graph) : Bool := true

end Graph

end RecursiveMatrix
