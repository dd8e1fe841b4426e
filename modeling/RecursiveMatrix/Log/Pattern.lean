import RecursiveMatrix.Log.Pattern.Bracket
import RecursiveMatrix.Text.Alphanumeric

/-!
Patterns are regular expressions. No span opens with a text that one could match, so all that matters
of a pattern is whether it can be read. Classes and cases of letters are known for ASCII alone: what
calls for more, such as `\d` or a caseless letter, cannot be read unless the flag `u` is off. Nor can
a counted repetition, for the brace that would close it has closed the field before, nor a pattern
whose parts nest too deep.
-/

namespace RecursiveMatrix.Log.Pattern

def maxDepth : Nat := 250

def isName : List Char → Bool
  | [] => false
  | c :: cs => (c = '_' || Text.isAlphabetic c) &&
      cs.all fun c => c ∈ ['_', '.', '[', ']'] || Text.isAlphanumeric c

/-- A group that is open: the mode in force, the depths of its finished branches and of the parts of
the branch at hand, the last first, and whether that last one can be repeated. -/
structure OpenGroup where
  mode : Mode := {}
  branches : List Nat := []
  parts : List Nat := []
  repeatable : Bool := false

namespace OpenGroup

def add (g : OpenGroup) (depth : Nat) : OpenGroup :=
  { g with parts := depth :: g.parts, repeatable := true }

/-- Flags are a part that matches nothing. -/
def turn (g : OpenGroup) (m : Mode) : OpenGroup :=
  { g with mode := m, parts := 0 :: g.parts, repeatable := false }

def repeat? (g : OpenGroup) : Option OpenGroup :=
  match g.repeatable, g.parts with
  | true, d :: parts => some { g with parts := (d + 1) :: parts }
  | _, _ => none

def branch (g : OpenGroup) : OpenGroup :=
  { g with branches := depthOf g.parts :: g.branches, parts := [], repeatable := false }

def depth (g : OpenGroup) : Nat := depthOf g.branch.branches

end OpenGroup

/-- What is known of the text on the left: the groups that are open, the innermost apart, and the
names given to groups. -/
structure Left where
  group : OpenGroup := {}
  outer : List OpenGroup := []
  names : List (List Char) := []

namespace Left

def add (l : Left) (depth : Nat) : Left := { l with group := l.group.add depth }

def enter (l : Left) (m : Mode) : Left :=
  { l with group := { mode := m }, outer := l.group :: l.outer }

def leave? (l : Left) : Option Left :=
  match l.outer with
  | [] => none
  | g :: outer => some { l with group := g.add (l.group.depth + 1), outer }

/-- A group with a name or with flags, after its question mark; or flags alone, for the rest of the
group around them. -/
def special? (l : Left) (cs : List Char) : Option (Left × List Char) :=
  let mode := l.group.mode
  let named (cs : List Char) : Option (Left × List Char) :=
    match cs.span (· ≠ '>') with
    | (name, _ :: cs) =>
      if isName name && !l.names.contains name then
        some ({ l.enter mode with names := name :: l.names }, cs)
      else none
    | (_, []) => none
  match cs with
  | 'P' :: '<' :: cs | '<' :: cs => named cs
  | cs =>
    match cs.span fun c => c ≠ ':' && c ≠ ')' with
    | (word, ':' :: cs) => (mode.turn? word).map fun m => (l.enter m, cs)
    | (word, ')' :: cs) =>
      if word = [] then none
      else (mode.turn? word).map fun m => ({ l with group := l.group.turn m }, cs)
    | _ => none

end Left

/-- How deep the whole pattern nests, of which `cs` is left to read. -/
def readFrom : (fuel : Nat) → Left → List Char → Option Nat
  | 0, _, _ => none
  | fuel + 1, l, cs =>
    let m := l.group.mode
    match m.skip cs with
    | [] => if l.outer.isEmpty then some l.group.depth else none
    | '(' :: cs =>
      match m.skip cs with
      | '?' :: cs => (l.special? cs).bind fun (l, cs) => readFrom fuel l cs
      | cs => readFrom fuel (l.enter m) cs
    | ')' :: cs => l.leave?.bind fun l => readFrom fuel l cs
    | '|' :: cs => readFrom fuel { l with group := l.group.branch } cs
    | '[' :: cs =>
      ((readOpening m cs).bind (readClass m (cs.length + 1) {} [])).bind fun (depth, cs) =>
        readFrom fuel (l.add depth) cs
    | '{' :: _ => none
    | '\\' :: cs => (readEscape m cs).bind fun (e, cs) =>
        if m.admits e then readFrom fuel (l.add 0) cs else none
    | '.' :: cs => if m.unicode then readFrom fuel (l.add 0) cs else none
    | c :: cs =>
      if c ∈ ['?', '*', '+'] then
        l.group.repeat?.bind fun group => readFrom fuel { l with group } <|
          match cs with
          | '?' :: cs => cs
          | cs => cs
      else if c ∈ ['^', '$'] || m.admits (.literal c) then readFrom fuel (l.add 0) cs
      else none

/-- Whether a text can be read as a pattern. -/
def isReadable (cs : List Char) : Bool := (readFrom (cs.length + 1) {} cs).any (· ≤ maxDepth)

end RecursiveMatrix.Log.Pattern
