import RecursiveMatrix.Log.Filter
import RecursiveMatrix.Log.Line

namespace RecursiveMatrix.Log

open Trace

/-- A span that is open and let through. What happens inside is let through up to `limit`, if there
is one. -/
structure OpenSpan where
  id : Nat
  span : Span
  limit : Option Nat

/-- The open spans, outermost first, and the lines written so far. -/
structure Writer where
  scope : List OpenSpan := []
  lines : Array Line := #[]

namespace Writer

def limits (scope : List OpenSpan) : List Nat := scope.filterMap (·.limit)

def event (w : Writer) (f : Filter) (scope : List OpenSpan) (e : Event) : Writer :=
  if f.admitsEvent (limits scope) e then
    { w with lines := w.lines.push ⟨e.level, e.target, e.fields, scope.map (·.span), false⟩ }
  else w

def see (f : Filter) (w : Writer) : Signal → Writer
  | .opened id s =>
    if f.admitsSpan (limits w.scope) s then
      { w with scope := w.scope ++ [⟨id, s, f.limitInside? s⟩] }
    else w
  | .recorded id fields =>
    { w with scope := w.scope.map fun o =>
        if o.id = id then { o with span.fields := o.span.fields ++ fields } else o }
  | .emitted e => w.event f w.scope e
  | .relayed e => w.event f [] e
  | .closed id =>
    match w.scope.find? (·.id = id) with
    | none => w
    | some o =>
      let scope := (w.scope.takeWhile (·.id ≠ id)).map (·.span) ++ [o.span]
      { scope := w.scope.filter (·.id ≠ id),
        lines := w.lines.push
          ⟨o.span.level, o.span.target, [("message", .shown "close")], scope, true⟩ }

end Writer

/-- The lines that the signals leave in a log. -/
def linesOf (f : Filter) (signals : List Signal) : List Line :=
  (signals.foldl (Writer.see f) {}).lines.toList

end RecursiveMatrix.Log
