import RecursiveMatrix.Error
import RecursiveMatrix.Trace.Signal

namespace RecursiveMatrix

open Trace

/-- What has been counted: edges made, candidates rejected and blocks finished. No count of a run comes
near `2 ^ 64`, so that natural numbers stand for words. -/
structure Counters where
  generated : Nat := 0
  rejected : Nat := 0
  blocks : Nat := 0
deriving DecidableEq, Repr

instance : Add Counters where
  add x y := ⟨x.generated + y.generated, x.rejected + y.rejected, x.blocks + y.blocks⟩

/-- What the machine lends to a run: how many candidates an edge may take when nothing else limits
them, whether workers that all share take on the blocks where there are several, and why no pool of
workers can be started, if that is so. -/
structure Host where
  patience : Nat := 0x4000000000000000
  sharesWorkers : Bool := true
  poolFault : Option String := none

/-- A result with what was told and counted on the way to it. -/
structure Run (α : Type) where
  outcome : Except Stop α
  signals : List Signal := []
  counters : Counters := {}

namespace Run

variable {α : Type}

instance : Monad Run where
  pure a := { outcome := .ok a }
  bind r f :=
    match r.outcome with
    | .error e => { r with outcome := .error e }
    | .ok a =>
      let t := f a
      ⟨t.outcome, r.signals ++ t.signals, r.counters + t.counters⟩

def ofExcept (x : Except Error α) : Run α := { outcome := x.mapError .failed }

def emit (e : Event) : Run Unit := { outcome := .ok (), signals := [.emitted e] }

def record (id : Nat) (fields : Fields) : Run Unit :=
  { outcome := .ok (), signals := [.recorded id fields] }

def count (c : Counters) : Run Unit := { outcome := .ok (), counters := c }

/-- The same run by a worker, whose events are out of the caller's sight. -/
def relay (r : Run α) : Run α := { r with signals := r.signals.map Signal.relay }

/-- An error leaves a span with an event that carries its text. -/
def errorSignals (target : String) : Except Stop α → List Signal
  | .error (.failed e) => [.emitted ⟨.error, target, [("error", .shown e.message)]⟩]
  | _ => []

def within (id : Nat) (span : Span) (body : Run α) : Run α :=
  { body with
    signals := .opened id span :: (body.signals ++ errorSignals span.target body.outcome ++ [.closed id]) }

end Run

end RecursiveMatrix
