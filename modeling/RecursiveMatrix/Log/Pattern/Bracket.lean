import RecursiveMatrix.Log.Pattern.Element

/-!
Classes in brackets. Classes stand inside classes, between them operators that all bind to the left,
and what is read of a class is how deep it nests.
-/

namespace RecursiveMatrix.Log.Pattern

/-- Of several parts the whole nests one deeper than the deepest, a part alone no deeper than itself. -/
def depthOf : List Nat → Nat
  | [] => 0
  | [d] => d
  | ds => ds.foldl max 0 + 1

/-- A bracket that is open: the depth of what an operator has on its left, the depths of the members
since, and whether nothing but dashes came so far. -/
structure OpenBracket where
  left : Option Nat := none
  members : List Nat := []
  opening : Bool := true

namespace OpenBracket

def add (b : OpenBracket) (depth : Nat) : OpenBracket :=
  { b with members := depth :: b.members, opening := false }

def depth (b : OpenBracket) : Nat :=
  let right := depthOf b.members
  b.left.elim right fun left => depthOf [left, right]

def operate (b : OpenBracket) : OpenBracket := { left := some b.depth, opening := false }

end OpenBracket

def classNames : List String :=
  ["alnum", "alpha", "ascii", "blank", "cntrl", "digit", "graph", "lower", "print", "punct", "space",
    "upper", "word", "xdigit"]

/-- A class by its name between colons, after the bracket that opens it: whether it is negated, and
what follows it. -/
def readNamed? : List Char → Option (Bool × List Char)
  | ':' :: cs =>
    let (negated, cs) := match cs with
      | '^' :: cs => (true, cs)
      | cs => (false, cs)
    match cs.span (· ≠ ':') with
    | (name, ':' :: ']' :: cs) =>
      if String.ofList name ∈ classNames then some (negated, cs) else none
    | _ => none
  | _ => none

/-- What follows the bracket that opens a class, and the caret that negates it. The negation of what
is ASCII is not, so it calls for `unicode`. -/
def readOpening (m : Mode) (cs : List Char) : Option (List Char) :=
  match m.skip cs with
  | '^' :: cs => if m.unicode then some cs else none
  | cs => some cs

def readMember (m : Mode) : List Char → Option (Element × List Char)
  | [] => none
  | '\\' :: cs => readEscape m cs
  | c :: cs => some (.literal c, cs)

/-- One member of a class, or two with a dash between them that are the ends of a range. -/
def readRange (m : Mode) (cs : List Char) : Option (List Char) := do
  let (first, cs) ← readMember m cs
  if !m.admitsInside first then none
  else
    match m.skip cs with
    | '-' :: next =>
      if m.peek? next ∈ [some ']', some '-'] then return '-' :: next
      let (last, cs) ← readMember m (m.skip next)
      let lo ← first.char?
      let hi ← last.char?
      if m.admitsInside last && lo ≤ hi then some cs else none
    | cs => some cs

/-- How deep the class nests that is open outermost, and what follows it. A bracket that closes where
the class opens stands for itself, as do the dashes there. -/
def readClass (m : Mode) :
    (fuel : Nat) → OpenBracket → (outer : List OpenBracket) → List Char → Option (Nat × List Char)
  | 0, _, _, _ => none
  | fuel + 1, b, outer, cs =>
    let literal (c : Char) (b : OpenBracket) (cs : List Char) :=
      if m.admitsInside (.literal c) then readClass m fuel b outer cs else none
    match m.skip cs with
    | [] => none
    | '[' :: cs =>
      match readNamed? cs with
      | some (negated, cs) =>
        if m.folds || negated && !m.unicode then none else readClass m fuel (b.add 0) outer cs
      | none => (readOpening m cs).bind (readClass m fuel {} (b :: outer))
    | ']' :: cs =>
      if b.opening && b.members = [] then literal ']' (b.add 0) cs
      else
        match outer with
        | [] => some (b.depth + 1, cs)
        | o :: outer => readClass m fuel (o.add (b.depth + 1)) outer cs
    | '-' :: cs =>
      if b.opening then literal '-' { b.add 0 with opening := true } cs
      else
        match cs with
        | '-' :: cs => readClass m fuel b.operate outer cs
        | cs => (readRange m ('-' :: cs)).bind (readClass m fuel (b.add 0) outer)
    | '&' :: '&' :: cs | '~' :: '~' :: cs => readClass m fuel b.operate outer cs
    | cs => (readRange m cs).bind (readClass m fuel (b.add 0) outer)

end RecursiveMatrix.Log.Pattern
