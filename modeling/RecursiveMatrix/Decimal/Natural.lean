namespace RecursiveMatrix.Decimal

inductive NaturalError
  | empty
  | invalidDigit
  | tooLarge
deriving DecidableEq, Repr

def NaturalError.message : NaturalError → String
  | empty => "cannot parse integer from empty string"
  | invalidDigit => "invalid digit found in string"
  | tooLarge => "number too large to fit in target type"

def digit (c : Char) : Nat := c.toNat - 48

/-- Reads on from `value`, up to the first character that is no digit or makes the number exceed
`limit`. -/
def readDigits (limit : Nat) : Nat → List Char → Except NaturalError Nat
  | value, [] => .ok value
  | value, c :: cs =>
    if c.isDigit then
      let v := value * 10 + digit c
      if limit < v then .error .tooLarge else readDigits limit v cs
    else .error .invalidDigit

/-- Digits after an optional plus sign. -/
def readNatural (limit : Nat) : List Char → Except NaturalError Nat
  | [] => .error .empty
  | ['+'] => .error .invalidDigit
  | '+' :: cs => readDigits limit 0 cs
  | cs => readDigits limit 0 cs

def readWord (cs : List Char) : Except NaturalError UInt64 :=
  UInt64.ofNat <$> readNatural 0xFFFFFFFFFFFFFFFF cs

end RecursiveMatrix.Decimal
