import RecursiveMatrix.Decimal.Single
import RecursiveMatrix.Log.Pattern
import RecursiveMatrix.Trace.Signal

namespace RecursiveMatrix.Log

open Trace

/-- What the value of a field has to be. A text is a fraction or a pattern; no number is either. -/
inductive Criterion
  | flag (b : Bool)
  | natural (n : UInt64)
  | integer (i : Int)
  | text (cs : List Char)
deriving DecidableEq

namespace Criterion

def readNegative? : List Char → Option Int
  | '-' :: '+' :: _ => none
  | '-' :: cs =>
    match Decimal.readNatural 0x8000000000000000 cs with
    | .ok n => some (-n)
    | .error _ => none
  | _ => none

def isFraction (cs : List Char) : Bool :=
  match Decimal.readSingle cs with
  | .ok _ => true
  | .error _ => false

def read? (cs : List Char) : Option Criterion :=
  if cs = "true".toList then some (flag true)
  else if cs = "false".toList then some (flag false)
  else
    match Decimal.readWord cs, readNegative? cs with
    | .ok n, _ => some (natural n)
    | _, some i => some (integer i)
    | _, none => if isFraction cs || Pattern.isReadable cs then some (text cs) else none

def holds : Criterion → Value → Bool
  | flag b, .flag v => b = v
  | natural n, .natural v => n.toNat = v
  | natural n, .integer v => (n.toNat : Int) = v
  | integer i, .integer v => i = v
  | _, _ => false

end Criterion

/-- Which levels are let through, by rank, and for whom: for targets that begin with `target`, and
inside spans of that name or with that field. A field may have to have a value. -/
structure Directive where
  target : Option String := none
  span : Option String := none
  field : Option (String × Option Criterion) := none
  limit : Nat
deriving DecidableEq

namespace Directive

def readLimit? (cs : List Char) : Option Nat :=
  match Decimal.readWord cs with
  | .ok n => if n ≤ 5 then some n.toNat else none
  | .error _ =>
    match String.ofList (Text.lower cs) with
    | "off" => some 0
    | "error" => some 1
    | "warn" => some 2
    | "info" => some 3
    | "debug" => some 4
    | "trace" => some 5
    | _ => none

def startsTarget (c : Char) : Bool := Text.isAlphanumeric c || c ∈ ['-', ':', '_']

/-- A name, and perhaps a value after an equals sign; what another sign begins is left out. -/
def readField? (cs : List Char) : Option (String × Option Criterion) :=
  let name := String.ofList (cs.takeWhile (· ≠ '='))
  match cs.dropWhile (· ≠ '=') with
  | [] => some (name, none)
  | _ :: rest => (Criterion.read? (rest.takeWhile (· ≠ '='))).map fun c => (name, some c)

def dropBytes? : Nat → List Char → Option (List Char)
  | 0, cs => some cs
  | _ + 1, [] => none
  | n + 1, c :: cs => if c.utf8Size ≤ n + 1 then dropBytes? (n + 1 - c.utf8Size) cs else none

def takeBytes? : Nat → List Char → Option (List Char)
  | 0, _ => some []
  | _ + 1, [] => none
  | n + 1, c :: cs =>
    if c.utf8Size ≤ n + 1 then (takeBytes? (n + 1 - c.utf8Size) cs).map (c :: ·) else none

def byteSize (cs : List Char) : Nat := cs.foldl (fun n c => n + c.utf8Size) 0

def slice? (cs : List Char) (start size : Nat) : Option (List Char) :=
  (dropBytes? start cs).bind (takeBytes? size)

def readEnd? (text : List Char) (start : Nat) (d : Directive) : Option Directive := do
  match ← dropBytes? start text with
  | [] => some { d with limit := 5 }
  | cs => (readLimit? cs).map fun n => { d with limit := n }

def readTail? (text : List Char) (start : Nat) (d : Directive) : List Char → Option Directive
  | [] => some d
  | '=' :: _ => readEnd? text (start + 1) d
  | _ => none

def readSpan? (text : List Char) (start : Nat) (d : Directive) (cs : List Char) : Option Directive := do
  let word := cs.takeWhile fun c => c ≠ ']' && c ≠ '\x7b'
  let size := byteSize word
  let name ← slice? text start size
  match cs.drop word.length with
  | [] => none
  | ']' :: cs => readTail? text (start + size + 1) { d with span := some (String.ofList name) } cs
  | _ :: cs =>
    let start := start + size + 1
    let word := cs.takeWhile (· ≠ '\x7d')
    let size := byteSize word
    let field ← readField? (← slice? text start size)
    let span := if name = [] then none else some (String.ofList name)
    match cs.drop word.length with
    | _ :: ']' :: cs =>
      if word = [] then none
      else readTail? text (start + size + 2) { d with span, field := some field } cs
    | _ => none

/-- A level, a target, or a target with a level after an equals sign; behind a target or in its place
a span in brackets. What stands where is found in the text without the blanks around it, counted in
bytes, and then taken from the text with them. -/
def parse? (text : List Char) : Option Directive :=
  match Text.trim text with
  | [] => none
  | '[' :: cs => readSpan? text 1 { limit := 5 } cs
  | c :: cs =>
    if !startsTarget c then none
    else do
      let word := (c :: cs).takeWhile fun c => c ≠ '=' && c ≠ '['
      let size := byteSize word
      match (c :: cs).drop word.length with
      | [] =>
        match readLimit? text with
        | some n => some { limit := n }
        | none => some { target := some (String.ofList text), limit := 5 }
      | sign :: cs =>
        let target ← slice? text 0 size
        let d : Directive := { target := some (String.ofList target), limit := 5 }
        if sign = '[' then readSpan? text (size + 1) d cs else readEnd? text (size + 1) d

def isScoped (d : Directive) : Bool := d.span.isSome || d.field.isSome

def isGeneral (d : Directive) : Bool := d.span.isNone && !(d.field.any (·.2.isSome))

def coversTarget (d : Directive) (target : String) : Bool :=
  d.target.all fun t => t.toList.isPrefixOf target.toList

def declaresField (d : Directive) (fields : Fields) : Bool :=
  d.field.all fun f => fields.any (·.1 = f.1)

def coversSpan (d : Directive) (s : Span) : Bool :=
  d.coversTarget s.target && d.span.all (· = s.name) && d.declaresField s.fields

def holds (d : Directive) (s : Span) : Bool :=
  match d.field with
  | some (name, some c) => s.fields.any fun f => f.1 = name && c.holds f.2
  | _ => true

/-- Whether `e` tells at least as much as `d` of where it applies: a longer target, or else a field, or
else a field whose name comes later. -/
def yieldsTo (d e : Directive) : Bool :=
  let reach (d : Directive) : Nat := (d.target.map (·.length + 1)).getD 0
  if reach d ≠ reach e then reach d < reach e
  else
    match d.field, e.field with
    | none, _ => true
    | some _, none => false
    | some f, some g => f.1 ≤ g.1

def matchesScope (d e : Directive) : Bool :=
  d.target = e.target && d.span = e.span && d.field = e.field

end Directive

end RecursiveMatrix.Log
