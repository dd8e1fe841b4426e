import RecursiveMatrix.Decimal.Natural
import RecursiveMatrix.Setting
import RecursiveMatrix.Text.Blank
import RecursiveMatrix.Trace.Signal

namespace RecursiveMatrix.CaseCount

open Trace

def settingName : String := "RMAT_PROPTEST_CASES"

/-- A number of cases above zero that fits in 32 bits, blanks around it aside. -/
def parse (raw : String) : Except String Nat :=
  match Decimal.readNatural 0xFFFFFFFF (Text.trim raw.toList) with
  | .error e => .error s!"parse error: {e.message}"
  | .ok 0 => .error "cases must be > 0"
  | .ok n => .ok n

/-- The number of cases to run: what the setting asks for, or else the fallback. A text that asks
for no number of cases is warned about. -/
def load (fallback : Nat) : Setting → Nat × List Signal
  | .text raw =>
    match parse raw with
    | .ok n => (n, [])
    | .error reason =>
      (fallback, [.emitted (.note .warn "case_count" "invalid property-test case override; using default"
        [("env", .quoted settingName), ("raw", .shown raw), ("reason", .shown reason)])])
  | _ => (fallback, [])

end RecursiveMatrix.CaseCount
