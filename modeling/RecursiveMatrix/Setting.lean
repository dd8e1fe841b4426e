import RecursiveMatrix.Text.Quoted

namespace RecursiveMatrix

/-- What an environment variable holds. -/
inductive Setting
  | unset
  | text (value : String)
  | raw (bytes : ByteArray)

namespace Setting

/-- Bytes that are no text stay bytes. -/
def ofBytes (bytes : ByteArray) : Setting :=
  match String.fromUTF8? bytes with
  | some s => text s
  | none => raw bytes

end Setting

end RecursiveMatrix
