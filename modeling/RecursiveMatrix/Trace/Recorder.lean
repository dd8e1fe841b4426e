import RecursiveMatrix.Trace.Signal

namespace RecursiveMatrix.Trace

/-- Field names with the text last recorded for each. -/
abbrev Record := List (String × String)

namespace Record

def set (r : Record) (name text : String) : Record :=
  match r with
  | [] => [(name, text)]
  | (n, t) :: r => if n = name then (n, text) :: r else (n, t) :: set r name text

def get? (r : Record) (name : String) : Option String := List.lookup name r

def write (r : Record) (fields : Fields) : Record :=
  fields.held.foldl (fun r f => r.set f.1 f.2.text) r

end Record

structure SpanRecord where
  name : String
  fields : Record
deriving DecidableEq

structure EventRecord where
  level : Level
  fields : Record
deriving DecidableEq

/-- What the caller's thread was seen to do: the spans closed so far, the events so far, and the
spans still open. -/
structure Recorder where
  live : List (Nat × SpanRecord) := []
  spans : Array SpanRecord := #[]
  events : Array EventRecord := #[]

namespace Recorder

def see (r : Recorder) : Signal → Recorder
  | .opened id span => { r with live := (id, ⟨span.name, .write [] span.fields⟩) :: r.live }
  | .recorded id fields =>
    { r with live := r.live.map fun (i, s) =>
        if i = id then (i, { s with fields := s.fields.write fields }) else (i, s) }
  | .emitted event => { r with events := r.events.push ⟨event.level, .write [] event.fields⟩ }
  | .relayed _ => r
  | .closed id =>
    match r.live.lookup id with
    | none => r
    | some s => { r with live := r.live.filter (·.1 ≠ id), spans := r.spans.push s }

def ofSignals (signals : List Signal) : Recorder := signals.foldl see {}

/-- The first closed span of that name. -/
def span? (r : Recorder) (name : String) : Option SpanRecord := r.spans.toList.find? (·.name = name)

def eventsWithMessage (r : Recorder) (message : String) : List EventRecord :=
  r.events.toList.filter (·.fields.get? "message" = some message)

end Recorder

end RecursiveMatrix.Trace
