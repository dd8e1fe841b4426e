namespace RecursiveMatrix.CommandLine

/-- The options of the command that generates a graph. -/
inductive Opt
  | vertexCount
  | edgeCount
  | a
  | b
  | c
  | noise
  | seed
  | parallelism
  | format
deriving DecidableEq, Repr

namespace Opt

def all : List Opt := [vertexCount, edgeCount, a, b, c, noise, seed, parallelism, format]

def name : Opt → String
  | vertexCount => "vertex-count"
  | edgeCount => "edge-count"
  | a => "a"
  | b => "b"
  | c => "c"
  | noise => "noise"
  | seed => "seed"
  | parallelism => "parallelism"
  | format => "format"

/-- Names are matched in full. -/
def ofName? (name : String) : Option Opt := all.find? (·.name = name)

/-- The option with a word that stands for its value. -/
def usage (o : Opt) : String :=
  let place := o.name.toList.map fun ch => if ch = '-' then '_' else ch.toUpper
  s!"--{o.name} <{String.ofList place}>"

theorem ofName?_name (o : Opt) : ofName? o.name = some o := by
  cases o <;> decide

end Opt

end RecursiveMatrix.CommandLine
