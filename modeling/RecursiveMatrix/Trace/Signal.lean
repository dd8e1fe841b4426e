namespace RecursiveMatrix.Trace

inductive Level
  | error
  | warn
  | info
  | debug
  | trace
deriving DecidableEq, Repr

namespace Level

def label : Level → String
  | error => "ERROR"
  | warn => "WARN"
  | info => "INFO"
  | debug => "DEBUG"
  | trace => "TRACE"

/-- A level is let through by every limit of at least its rank. -/
def rank : Level → Nat
  | error => 1
  | warn => 2
  | info => 3
  | debug => 4
  | trace => 5

end Level

/-- A field's value. Text is either `shown` as it stands or `quoted` where a line calls for it. A field
is `empty` that has been declared but holds nothing. -/
inductive Value
  | empty
  | natural (n : Nat)
  | integer (i : Int)
  | flag (b : Bool)
  | shown (text : String)
  | quoted (text : String)
deriving DecidableEq, Repr

def Value.text : Value → String
  | empty => ""
  | natural n => toString n
  | integer i => toString i
  | flag b => toString b
  | shown t | quoted t => t

abbrev Fields := List (String × Value)

def Fields.held (fs : Fields) : Fields := fs.filter (·.2 ≠ .empty)

structure Span where
  name : String
  level : Level
  target : String
  fields : Fields
deriving DecidableEq, Repr

structure Event where
  level : Level
  target : String
  fields : Fields
deriving DecidableEq, Repr

/-- An event whose text is its field `message`. -/
def Event.note (level : Level) (target message : String) (fields : Fields) : Event :=
  ⟨level, target, ("message", .shown message) :: fields⟩

/-- What work tells about itself. An event is `relayed` when a worker emits it, out of sight of the
caller and outside the caller's spans. -/
inductive Signal
  | opened (id : Nat) (span : Span)
  | recorded (id : Nat) (fields : Fields)
  | emitted (event : Event)
  | relayed (event : Event)
  | closed (id : Nat)
deriving DecidableEq, Repr

def Signal.relay : Signal → Signal
  | emitted e => relayed e
  | s => s

end RecursiveMatrix.Trace
