import RecursiveMatrix.CommandLine.Parser
import RecursiveMatrix.Log.Setup
import RecursiveMatrix.Log.Writer

namespace RecursiveMatrix.CommandLine

open Trace

structure Environment where
  logFormat : Setting := .unset
  logFilter : Setting := .unset

inductive Output
  | working
  | full
deriving DecidableEq

structure Execution where
  exitCode : UInt32
  stdout : String := ""
  stderr : List String := []

def bufferSize : Nat := 8192

-- a text that fits the buffer is passed on only at the end
def writeFailure (text : String) : String :=
  if text.utf8ByteSize ≤ bufferSize then "failed to flush output" else "failed to render output"

/-- How a command ends, before its signals have become lines. -/
structure Ending where
  exitCode : UInt32
  stdout : String
  signals : List Signal

def failure (reason : String) (code : Option String) : Signal :=
  .emitted (.note .error "rmat" "command execution failed"
    [("error", .shown reason), ("code", (code.map .shown).getD .empty)])

/-- All of the report is printed, or nothing is. Work that the host had no more patience for is shown as
a failure without a word, where a process would go on. -/
def ending (output : Output) (r : Run Summary) : Ending :=
  match r.outcome, output with
  | .ok s, .working => ⟨0, Report.render s, r.signals⟩
  | .ok s, .full => ⟨1, "", r.signals ++ [failure (writeFailure (Report.render s)) none]⟩
  | .error (.failed e), _ => ⟨1, "", r.signals ++ [failure "failed to execute command" (some e.code)]⟩
  | .error .unfinished, _ => ⟨1, "", r.signals⟩

def Ending.logged (t : Ending) (filter : Log.Filter) (format : Log.Format) : Execution :=
  ⟨t.exitCode, t.stdout, (Log.linesOf filter t.signals).map (·.render format)⟩

/-- Logging comes first; the arguments are looked at only once it works. -/
def execute (host : Host) (env : Environment) (output : Output) (args : List String) : Execution :=
  match Log.Format.ofSetting env.logFormat with
  | .error e => { exitCode := 1, stderr := ["failed to initialize logging: " ++ e.message] }
  | .ok format =>
    match parse args with
    | .error .help => { exitCode := 0, stdout := Rejection.help.message ++ "\n" }
    | .error r => { exitCode := r.exitCode, stderr := ["error: " ++ r.message, usage] }
    | .ok command => (ending output (command.run host)).logged (.ofSetting env.logFilter) format

end RecursiveMatrix.CommandLine
