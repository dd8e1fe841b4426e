import RecursiveMatrix.Decimal.Natural
import RecursiveMatrix.Text.Blank

namespace RecursiveMatrix.Decimal

inductive SingleError
  | empty
  | invalid
deriving DecidableEq, Repr

def SingleError.message : SingleError → String
  | empty => "cannot parse float from empty string"
  | invalid => "invalid float literal"

def ofDigits (cs : List Char) : Nat := cs.foldl (fun n c => n * 10 + digit c) 0

/-- The exponent that a numeral ends in; none is zero. -/
def readExponent : List Char → Option Int
  | [] => some 0
  | e :: cs =>
    if e = 'e' ∨ e = 'E' then
      let (sign, ds) := match cs with
        | '-' :: ds => ((-1 : Int), ds)
        | '+' :: ds => (1, ds)
        | ds => (1, ds)
      if ds ≠ [] ∧ ds.all Char.isDigit then some (sign * ofDigits ds) else none
    else none

/-- The single nearest to `mantissa * 10 ^ exponent`. -/
def nearest (mantissa : Nat) (exponent : Int) : Float32 :=
  if exponent < 0 then .ofScientific mantissa true (-exponent).toNat
  else .ofScientific mantissa false exponent.toNat

/-- Digits around at most one point, at least one of them, and perhaps an exponent. -/
def readNumeral (cs : List Char) : Option Float32 :=
  let (whole, rest) := cs.span Char.isDigit
  let (fraction, rest) := match rest with
    | '.' :: rest => rest.span Char.isDigit
    | rest => ([], rest)
  if whole = [] ∧ fraction = [] then none
  else (readExponent rest).map fun e => nearest (ofDigits (whole ++ fraction)) (e - fraction.length)

def readName (cs : List Char) : Option Float32 :=
  match String.ofList (Text.lower cs) with
  | "inf" | "infinity" => some (1 / 0)
  | "nan" => some (0 / 0)
  | _ => none

def readUnsigned (cs : List Char) : Except SingleError Float32 :=
  match (readNumeral cs).or (readName cs) with
  | some v => .ok v
  | none => .error .invalid

/-- A numeral, or infinity or not-a-number by name, after an optional sign. -/
def readSingle : List Char → Except SingleError Float32
  | [] => .error .empty
  | '-' :: cs => Neg.neg <$> readUnsigned cs
  | '+' :: cs => readUnsigned cs
  | cs => readUnsigned cs

end RecursiveMatrix.Decimal
