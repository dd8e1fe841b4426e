import RecursiveMatrix.Text.Blank

/-!
The flags of a pattern that decide how it is read, and the blanks and comments that one of them lets
stand between its parts.
-/

namespace RecursiveMatrix.Log.Pattern

/-- Without `unicode` all that matches a byte beyond ASCII is refused. With `spaced` blanks stand for
nothing, and a hash sign opens a comment. -/
structure Mode where
  caseless : Bool := false
  unicode : Bool := true
  spaced : Bool := false
deriving DecidableEq

def skipBlanks : (inComment : Bool) → List Char → List Char
  | _, [] => []
  | true, c :: cs => skipBlanks (c ≠ '\n') cs
  | false, c :: cs =>
    if Text.isBlank c then skipBlanks false cs
    else if c = '#' then skipBlanks true cs
    else c :: cs

namespace Mode

def flags : List Char := ['i', 'm', 's', 'U', 'u', 'R', 'x']

/-- Those before the dash are turned on, those after it off. No flag comes twice. -/
def turn? (m : Mode) (word : List Char) : Option Mode :=
  let on := word.takeWhile (· ≠ '-')
  let off := word.drop on.length
  let after (c : Char) (before : Bool) := (before || on.contains c) && !off.contains c
  if word.all (· ∈ '-' :: flags) && word.Nodup && word.getLast? ≠ some '-' then
    some ⟨after 'i' m.caseless, after 'u' m.unicode, after 'x' m.spaced⟩
  else none

def folds (m : Mode) : Bool := m.caseless && m.unicode

def skip (m : Mode) (cs : List Char) : List Char := if m.spaced then skipBlanks false cs else cs

/-- The character that tells what the dash before it means. Of a comment the hash sign alone is passed
over. -/
def peek? (m : Mode) (cs : List Char) : Option Char :=
  if m.spaced then
    match Text.trimLeft cs with
    | '#' :: cs => (Text.trimLeft cs).head?
    | cs => cs.head?
  else cs.head?

end Mode

end RecursiveMatrix.Log.Pattern
