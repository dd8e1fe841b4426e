import RecursiveMatrix.Random.Source

namespace RecursiveMatrix

/-- A source that replays a fixed list of draws. It starts over at each element when `rewinds`, and
is `overdrawn` once it was asked for more than it holds. -/
structure Script where
  draws : Array Float32
  rewinds : Bool := false
  cursor : Nat := 0
  overdrawn : Bool := false

namespace Script

instance : Source Script where
  draw s :=
    match s.draws[s.cursor]? with
    | some u => (u, { s with cursor := s.cursor + 1 })
    | none => (0, { s with overdrawn := true })
  beginElement s _ := if s.rewinds then { s with cursor := 0 } else s

/-- Each candidate that needs a draw takes one, so this many candidates overdraw the script. -/
def patience (s : Script) : Nat := s.draws.size + 1

/-- Elements that all take draws overdraw the script by this number, unless it starts over at each. -/
def horizon (s : Script) : Option Nat := if s.rewinds then none else some (s.draws.size + 1)

end Script

end RecursiveMatrix
