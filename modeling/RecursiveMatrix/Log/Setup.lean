import RecursiveMatrix.Log.Line
import RecursiveMatrix.Setting
import RecursiveMatrix.Text.Blank

namespace RecursiveMatrix.Log

def formatSettingName : String := "RMAT_LOG_FORMAT"

inductive SetupError
  | invalidUnicode (bytes : ByteArray)
  | unsupportedFormat (provided : String)
  | installFailed (reason : String)

def SetupError.message : SetupError → String
  | invalidUnicode bytes =>
    s!"environment variable `{formatSettingName}` contained invalid UTF-8: " ++
      "environment variable was not valid unicode: " ++ Text.quoteBytes bytes
  | unsupportedFormat provided =>
    "unsupported log format `" ++ provided ++ "`; expected `human` or `json`"
  | installFailed reason => "failed to install tracing subscriber: " ++ reason

/-- A format by its name in any case, blanks around it aside. -/
def Format.parse (raw : String) : Except SetupError Format :=
  match String.ofList (Text.lower (Text.trim raw.toList)) with
  | "human" => .ok .human
  | "json" => .ok .json
  | other => .error (.unsupportedFormat other)

def Format.ofSetting : Setting → Except SetupError Format
  | .unset => .ok .human
  | .text raw => Format.parse raw
  | .raw bytes => .error (.invalidUnicode bytes)

inductive Subscriber
  | own (format : Format)
  | foreign
deriving DecidableEq

/-- Whether logging has been set up, and who listens. Nobody who listens is ever replaced. -/
structure Setup where
  ready : Bool := false
  subscriber : Option Subscriber := none
deriving DecidableEq

namespace Setup

def conflict : String :=
  "structured logging already configured elsewhere: " ++
    "a global default trace dispatcher has already been set"

def install (s : Setup) (who : Subscriber) : Bool × Setup :=
  match s.subscriber with
  | none => (true, { s with subscriber := some who })
  | some _ => (false, s)

/-- Sets logging up once, in the format asked for. That someone else listens already is no error, but
is told. -/
def init (s : Setup) (setting : Setting) : Except SetupError (List String) × Setup :=
  if s.ready then (.ok [], s)
  else
    match Format.ofSetting setting with
    | .error e => (.error e, s)
    | .ok format =>
      let (installed, s) := s.install (.own format)
      (.ok (if installed then [] else [conflict]), { s with ready := true })

def format? (s : Setup) : Option Format :=
  match s.subscriber with
  | some (.own format) => some format
  | _ => none

end Setup

end RecursiveMatrix.Log
