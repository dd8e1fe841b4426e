import RecursiveMatrix.Text.Json
import RecursiveMatrix.Trace.Signal

namespace RecursiveMatrix.Log

open Trace

inductive Format
  | human
  | json
deriving DecidableEq, Repr

/-- One line of a log, with the spans around it, outermost first. The line that closes a span
counts that span among them. -/
structure Line where
  level : Level
  target : String
  fields : Fields
  scope : List Span := []
  closing : Bool := false

namespace Line

def humanValue : Value → String
  | .quoted t => Text.quote t
  | v => v.text

/-- The message stands alone, any other field after its name. -/
def humanField (f : String × Value) : String :=
  if f.1 = "message" then f.2.text else s!"{f.1}={humanValue f.2}"

def humanFields (fs : Fields) : String := " ".intercalate (fs.held.map humanField)

def humanSpan (s : Span) : String :=
  if s.fields.held = [] then s.name ++ ":" else s.name ++ "\x7b" ++ humanFields s.fields ++ "\x7d:"

def human (l : Line) : String :=
  let scope := if l.scope = [] then "" else String.join (l.scope.map humanSpan) ++ " "
  s!"{l.level.label} {scope}{l.target}: {humanFields l.fields}"

def jsonValue : Value → String
  | .empty => "null"
  | .natural n => toString n
  | .integer i => toString i
  | .flag b => toString b
  | .shown t | .quoted t => Text.Json.string t

def jsonFields (fs : Fields) : List (String × String) := fs.held.map fun (n, v) => (n, jsonValue v)

def jsonSpan (s : Span) : String :=
  Text.Json.object (jsonFields s.fields ++ [("name", Text.Json.string s.name)])

/-- The innermost span stands by itself. The list of spans is that of the work going on, which a
span that is closing no longer belongs to. -/
def json (l : Line) : String :=
  let going := if l.closing then l.scope.dropLast else l.scope
  Text.Json.object <|
    [("level", Text.Json.string l.level.label), ("fields", Text.Json.object (jsonFields l.fields)),
      ("target", Text.Json.string l.target)] ++
    match l.scope.getLast? with
    | none => []
    | some s => [("span", jsonSpan s), ("spans", Text.Json.array (going.map jsonSpan))]

def render (l : Line) : Format → String
  | .human => l.human
  | .json => l.json

end Line

end RecursiveMatrix.Log
