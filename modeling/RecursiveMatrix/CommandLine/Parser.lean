import RecursiveMatrix.CommandLine.Generate
import RecursiveMatrix.CommandLine.Rejection
import RecursiveMatrix.Decimal.Single

namespace RecursiveMatrix.CommandLine

/-- The values given so far. -/
structure Given where
  vertexCount : Option UInt64 := none
  edgeCount : Option UInt64 := none
  a : Option Float32 := none
  b : Option Float32 := none
  c : Option Float32 := none
  noise : Option Float32 := none
  seed : Option UInt64 := none
  parallelism : Option UInt64 := none
  format : Option OutputFormat := none

namespace Given

def has (g : Given) : Opt → Bool
  | .vertexCount => g.vertexCount.isSome
  | .edgeCount => g.edgeCount.isSome
  | .a => g.a.isSome
  | .b => g.b.isSome
  | .c => g.c.isSome
  | .noise => g.noise.isSome
  | .seed => g.seed.isSome
  | .parallelism => g.parallelism.isSome
  | .format => g.format.isSome

def readWord (o : Opt) (text : String) : Except Rejection UInt64 :=
  (Decimal.readWord text.toList).mapError fun e => .badValue o text e.message

def readSingle (o : Opt) (text : String) : Except Rejection Float32 :=
  (Decimal.readSingle text.toList).mapError fun e => .badValue o text e.message

def readFormat (text : String) : Except Rejection OutputFormat :=
  match text with
  | "edges" => .ok .edges
  | "summary" => .ok .summary
  | _ => .error (.unknownFormat text)

def read (g : Given) (o : Opt) (text : String) : Except Rejection Given :=
  match o with
  | .vertexCount => (readWord o text).map fun v => { g with vertexCount := some v }
  | .edgeCount => (readWord o text).map fun v => { g with edgeCount := some v }
  | .a => (readSingle o text).map fun v => { g with a := some v }
  | .b => (readSingle o text).map fun v => { g with b := some v }
  | .c => (readSingle o text).map fun v => { g with c := some v }
  | .noise => (readSingle o text).map fun v => { g with noise := some v }
  | .seed => (readWord o text).map fun v => { g with seed := some v }
  | .parallelism => (readWord o text).map fun v => { g with parallelism := some v }
  | .format => (readFormat text).map fun v => { g with format := some v }

/-- An option is given once. -/
def give (g : Given) (o : Opt) (text : String) : Except Rejection Given :=
  if g.has o then .error (.repeated o) else g.read o text

def finish (g : Given) : Except Rejection Generate :=
  match g.vertexCount, g.edgeCount with
  | some v, some e =>
    .ok {
      vertexCount := v
      edgeCount := e
      a := g.a.getD Probabilities.defaultA
      b := g.b.getD Probabilities.defaultB
      c := g.c.getD Probabilities.defaultC
      noise := g.noise
      seed := g.seed.getD defaultSeed
      parallelism := g.parallelism
      format := g.format.getD .edges }
  | some _, none => .error (.missingRequired [.edgeCount])
  | none, some _ => .error (.missingRequired [.vertexCount])
  | none, none => .error (.missingRequired [.vertexCount, .edgeCount])

end Given

/-- What one argument looks like. A lone dash is a word. -/
inductive Token
  | escape
  | long (name : String) (value : Option String)
  | short (letter : Char)
  | word (text : String)
deriving DecidableEq, Repr

def Token.of (arg : String) : Token :=
  match arg.toList with
  | ['-', '-'] => .escape
  | '-' :: '-' :: cs =>
    match cs.span (· ≠ '=') with
    | (name, _ :: value) => .long (String.ofList name) (some (String.ofList value))
    | (name, []) => .long (String.ofList name) none
  | '-' :: c :: _ => .short c
  | _ => .word arg

/-- An option whose value has not been taken yet, with the value if it was seen. -/
abbrev Pending := Option (Opt × Option String)

def settle (g : Given) : Pending → Except Rejection Given
  | none => .ok g
  | some (o, none) => .error (.missingValue o)
  | some (o, some text) => g.give o text

/-- Reads the options of the command. A value is taken up only when the next option or the end is
reached, so an argument that is no option at all is reported before a bad value on its left. -/
def readOptions : Given → Pending → List String → Except Rejection Given
  | g, p, [] => settle g p
  | g, p, arg :: args =>
    match Token.of arg with
    | .escape =>
      match args with
      | [] => settle g p
      | extra :: _ => .error (.unknownArgument extra)
    | .short 'h' => do
      let _ ← settle g p
      .error .help
    | .short c => .error (.unknownArgument (String.ofList ['-', c]))
    | .long name value =>
      match Opt.ofName? name with
      | some o =>
        match value with
        | some text => do
          let g ← settle g p
          let g ← g.give o text
          readOptions g none args
        | none => do
          let g ← settle g p
          readOptions g (some (o, none)) args
      | none =>
        if name = "help" then
          match value with
          | some text => .error (.valueOnHelp text)
          | none => do
            let _ ← settle g p
            .error .help
        else .error (.unknownArgument ("--" ++ name))
    | .word text =>
      match p with
      | some (o, none) => readOptions g (some (o, some text)) args
      | _ => .error (.unknownArgument text)

def commands : List String := ["generate", "help"]

/-- What help is asked about is a command, and that has no commands of its own. -/
def readHelp : List String → Rejection
  | [] => .help
  | name :: rest =>
    if name ∈ commands then
      match rest with
      | [] => .help
      | extra :: _ => .unknownCommand extra
    else .unknownCommand name

def parse : List String → Except Rejection Generate
  | [] => .error .missingCommand
  | arg :: args =>
    if arg = "generate" then do
      let g ← readOptions {} none args
      g.finish
    else if arg = "help" then .error (readHelp args)
    else
      match Token.of arg with
      | .escape =>
        match args with
        | [] => .error .missingCommand
        | name :: _ =>
          .error (if name ∈ commands then .unknownArgument name else .unknownCommand name)
      | .short 'h' => .error .help
      | .short c => .error (.unknownArgument (String.ofList ['-', c]))
      | .long name value =>
        if name = "help" then
          match value with
          | some text => .error (.valueOnHelp text)
          | none => .error .help
        else .error (.unknownArgument ("--" ++ name))
      | .word text => .error (.unknownCommand text)

end RecursiveMatrix.CommandLine
