import RecursiveMatrix.Graph

namespace RecursiveMatrix

inductive OutputFormat
  | edges
  | summary
deriving DecidableEq, Repr

/-- What a command produced, and how it is to be shown. -/
structure Summary where
  format : OutputFormat
  scale : Nat
  blocks : UInt64
  seed : UInt64
  graph : Graph

namespace Report

/-- Source and target in decimal, a tab between them. -/
def edgeLine (e : Edge) : String := toString e.source.toNat ++ "\t" ++ toString e.target.toNat ++ "\n"

def edgeList (edges : List Edge) : String := edges.foldl (fun text e => text ++ edgeLine e) ""

def counts (s : Summary) : String :=
  s!"vertices: {s.graph.vertexCount}\n" ++ s!"edges: {s.graph.edgeCount}\n" ++
    s!"scale: {s.scale}\n" ++ s!"blocks: {s.blocks.toNat}\n" ++ s!"seed: {s.seed.toNat}\n"

def render (s : Summary) : String :=
  match s.format with
  | .edges => edgeList s.graph.edges
  | .summary => counts s

inductive WriteError
  | full
deriving DecidableEq, Repr

def WriteError.message : WriteError → String
  | full => "writer is full"

/-- Writes to where there is room for so many characters: what fits is written, and the rest is an
error. -/
def writeInto (room : Option Nat) (text : String) : String × Option WriteError :=
  match room with
  | none => (text, none)
  | some n =>
    if text.length ≤ n then (text, none) else (String.ofList (text.toList.take n), some .full)

end Report

end RecursiveMatrix
