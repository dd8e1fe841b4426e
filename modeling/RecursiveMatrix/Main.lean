import RecursiveMatrix.CommandLine.Program

namespace RecursiveMatrix.CommandLine

def settingOf (name : String) : IO Setting := do
  match ← IO.getEnv name with
  | some text => return .text text
  | none => return .unset

def printed (e : Execution) : IO Unit := do
  let stdout ← IO.getStdout
  stdout.putStr e.stdout
  stdout.flush

end RecursiveMatrix.CommandLine

open RecursiveMatrix.CommandLine in
/-- Runs the command line. Output that cannot be written counts as full. -/
def main (args : List String) : IO UInt32 := do
  let env : Environment :=
    ⟨← settingOf RecursiveMatrix.Log.formatSettingName, ← settingOf RecursiveMatrix.Log.filterSettingName⟩
  let working := execute {} env .working args
  let done ←
    try
      printed working
      pure working
    catch _ => pure (execute {} env .full args)
  for line in done.stderr do
    IO.eprintln line
  return done.exitCode
