import RecursiveMatrix.Text.Graphic

namespace RecursiveMatrix.Text

def hexDigits (n : Nat) : List Char := Nat.toDigits 16 n

/-- A character inside quotes: a control with a letter of its own, a backslash or quote is escaped
by a backslash, any other character without a shape is written by its number. -/
def escapeChar (c : Char) : List Char :=
  match c with
  | '\x00' => ['\\', '0']
  | '\t' => ['\\', 't']
  | '\r' => ['\\', 'r']
  | '\n' => ['\\', 'n']
  | '\\' => ['\\', '\\']
  | '"' => ['\\', '"']
  | c => if isGraphic c then [c] else ['\\', 'u', '\x7b'] ++ hexDigits c.toNat ++ ['\x7d']

def quote (s : String) : String := String.ofList ('"' :: s.toList.flatMap escapeChar ++ ['"'])

def escapeByte (b : UInt8) : List Char :=
  let ds := (hexDigits b.toNat).map Char.toUpper
  ['\\', 'x'] ++ List.replicate (2 - ds.length) '0' ++ ds

/-- What can be read of the bytes from `i` on is escaped as text, and any other byte by its number. -/
def escapeBytes (bytes : ByteArray) : (fuel : Nat) → (i : Nat) → List Char
  | 0, _ => []
  | fuel + 1, i =>
    if h : i < bytes.size then
      match bytes.utf8DecodeChar? i with
      | some c => escapeChar c ++ escapeBytes bytes fuel (i + c.utf8Size)
      | none => escapeByte bytes[i] ++ escapeBytes bytes fuel (i + 1)
    else []

def quoteBytes (bytes : ByteArray) : String :=
  String.ofList ('"' :: escapeBytes bytes bytes.size 0 ++ ['"'])

end RecursiveMatrix.Text
