namespace RecursiveMatrix

/-- A source of draws. One that keys its draws by element starts afresh at `beginElement`; any
other goes on where it was. -/
class Source (σ : Type) where
  draw : σ → Float32 × σ
  beginElement : σ → UInt64 → σ

export Source (draw beginElement)

inductive Demand
  | draw
  | beginElement (position : UInt64)
deriving DecidableEq

/-- A source with all that was asked of it so far. -/
structure Logged (σ : Type) where
  source : σ
  demands : Array Demand := #[]

variable {σ : Type} [Source σ]

instance : Source (Logged σ) where
  draw l :=
    let (u, s) := draw l.source
    (u, ⟨s, l.demands.push .draw⟩)
  beginElement l p := ⟨beginElement l.source p, l.demands.push (.beginElement p)⟩

/-- Draws `n` times more and puts what was `taken` before, latest first, in front. -/
def takeMore (taken : List Float32) : Nat → σ → List Float32 × σ
  | 0, s => (taken.reverse, s)
  | n + 1, s =>
    let (u, s) := draw s
    takeMore (u :: taken) n s

def takeDraws (n : Nat) (s : σ) : List Float32 × σ := takeMore [] n s

end RecursiveMatrix
