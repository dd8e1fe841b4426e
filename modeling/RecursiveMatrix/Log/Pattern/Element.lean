import RecursiveMatrix.Log.Pattern.Mode

/-!
What a single character or one escape of a pattern stands for, and which of it can be told without
tables of the characters beyond ASCII.
-/

namespace RecursiveMatrix.Log.Pattern

inductive Element
  | literal (c : Char)
  | byte (c : Char)
  | shorthand (negated : Bool)
  | anchor
  | boundary
deriving DecidableEq

def Element.char? : Element → Option Char
  | .literal c | .byte c => some c
  | _ => none

def isAscii (c : Char) : Bool := c.toNat < 0x80

namespace Mode

def admits (m : Mode) : Element → Bool
  | .literal _ => !m.folds
  | .byte c => !m.folds && (m.unicode || isAscii c)
  | .shorthand negated => !m.unicode && !negated
  | .anchor => true
  | .boundary => !m.unicode

/-- Inside brackets there are single characters and classes only. -/
def admitsInside (m : Mode) : Element → Bool
  | .literal c | .byte c => !m.folds && (m.unicode || isAscii c)
  | .shorthand negated => !m.unicode && !negated
  | .anchor | .boundary => false

end Mode

def hexDigit? (c : Char) : Option Nat :=
  if c.isDigit then some (c.toNat - 48)
  else if 'a' ≤ c && c ≤ 'f' then some (c.toNat - 87)
  else if 'A' ≤ c && c ≤ 'F' then some (c.toNat - 55)
  else none

/-- The character whose number the next `n` digits tell. -/
def readCode (m : Mode) : (n : Nat) → (value : Nat) → List Char → Option (Char × List Char)
  | 0, v, cs => if v.isValidChar then some (Char.ofNat v, cs) else none
  | n + 1, v, c :: cs => (hexDigit? c).bind fun d => readCode m n (v * 16 + d) (m.skip cs)
  | _ + 1, _, [] => none

/-- What a backslash makes of the characters after it. -/
def readEscape (m : Mode) : List Char → Option (Element × List Char)
  | [] => none
  | c :: cs =>
    match c with
    | 'x' => (readCode m 2 0 (m.skip cs)).map fun (c, cs) => (.byte c, cs)
    | 'u' => (readCode m 4 0 (m.skip cs)).map fun (c, cs) => (.literal c, cs)
    | 'U' => (readCode m 8 0 (m.skip cs)).map fun (c, cs) => (.literal c, cs)
    | 'd' | 's' | 'w' => some (.shorthand false, cs)
    | 'D' | 'S' | 'W' => some (.shorthand true, cs)
    | 'a' => some (.literal '\x07', cs)
    | 'f' => some (.literal '\x0c', cs)
    | 't' => some (.literal '\t', cs)
    | 'n' => some (.literal '\n', cs)
    | 'r' => some (.literal '\r', cs)
    | 'v' => some (.literal '\x0b', cs)
    | 'A' | 'z' => some (.anchor, cs)
    | 'b' | 'B' | '<' | '>' => some (.boundary, cs)
    | c => if isAscii c && !c.isAlphanum then some (.literal c, cs) else none

end RecursiveMatrix.Log.Pattern
