import RecursiveMatrix.CommandLine.Opt

namespace RecursiveMatrix.CommandLine

/-- Why arguments were not accepted, or that only help was asked for. -/
inductive Rejection
  | help
  | missingCommand
  | unknownCommand (name : String)
  | unknownArgument (text : String)
  | valueOnHelp (value : String)
  | missingValue (option : Opt)
  | unknownFormat (value : String)
  | badValue (option : Opt) (value reason : String)
  | repeated (option : Opt)
  | missingRequired (options : List Opt)
deriving DecidableEq, Repr

def usage : String :=
  "Usage: rmat generate [OPTIONS] " ++ Opt.vertexCount.usage ++ " " ++ Opt.edgeCount.usage

namespace Rejection

def exitCode : Rejection → UInt32
  | help => 0
  | _ => 2

def message : Rejection → String
  | help => usage
  | missingCommand => "a command is required"
  | unknownCommand name => s!"unrecognized command: {name}"
  | unknownArgument text => s!"unexpected argument: {text}"
  | valueOnHelp value => s!"unexpected value for --help: {value}"
  | missingValue option => s!"a value is required for {option.usage}"
  | unknownFormat value => s!"invalid value for {Opt.format.usage}: {value}"
  | badValue option value reason => s!"invalid value for {option.usage}: {value}: {reason}"
  | repeated option => s!"used more than once: {option.usage}"
  | missingRequired options =>
    "required arguments were not provided: " ++ ", ".intercalate (options.map Opt.usage)

end Rejection

end RecursiveMatrix.CommandLine
