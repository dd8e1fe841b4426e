import RecursiveMatrix.Log.Directive
import RecursiveMatrix.Setting

namespace RecursiveMatrix.Log

open Trace

def filterSettingName : String := "RUST_LOG"

abbrev Filter := List Directive

namespace Filter

def upTo (limit : Nat) : Filter := [{ limit }]

def splitCommas (cs : List Char) : List (List Char) := (cs.splitOn ',').filter (· ≠ [])

def parse? (cs : List Char) : Option Filter := (splitCommas cs).mapM Directive.parse?

/-- Warnings and errors, unless the setting is a list of directives, each of which can be read. -/
def ofSetting : Setting → Filter
  | .text s => (parse? s.toList).getD (upTo 2)
  | _ => upTo 2

/-- No level above it is ever let through. Values are not known before a span opens, so a filter that
asks for one sets no bound. -/
def ceiling (f : Filter) : Nat :=
  if f.any fun d => d.field.any (·.2.isSome) then 5 else f.foldl (fun n d => max n d.limit) 0

def limit? (f : Filter) : Option Nat :=
  (f.foldl (fun best d => if best.all (·.yieldsTo d) then some d else best) (none : Option Directive)).map
    (·.limit)

def generalRules (f : Filter) : Filter := f.filter Directive.isGeneral

/-- The directives on spans, without those that a later one on the same takes the place of. -/
def spanRules : Filter → Filter
  | [] => []
  | d :: ds => if d.isScoped && !ds.any d.matchesScope then d :: spanRules ds else spanRules ds

def limitInside? (f : Filter) (s : Span) : Option Nat :=
  match f.spanRules.filter (·.coversSpan s) with
  | [] => none
  | ds => some ((ds.filter (·.holds s)).foldl (fun n d => max n d.limit) 0)

def admits (f : Filter) (around : List Nat) (level : Level) : Bool :=
  around.any (level.rank ≤ ·) || f.limit?.any (level.rank ≤ ·)

/-- A span that a directive speaks of is let through for the sake of what happens inside. -/
def admitsSpan (f : Filter) (around : List Nat) (s : Span) : Bool :=
  s.level.rank ≤ f.ceiling &&
    ((f.limitInside? s).isSome || admits (f.generalRules.filter (·.coversTarget s.target)) around s.level)

def admitsEvent (f : Filter) (around : List Nat) (e : Event) : Bool :=
  admits (f.generalRules.filter fun d => d.coversTarget e.target && d.declaresField e.fields) around e.level

end Filter

end RecursiveMatrix.Log
