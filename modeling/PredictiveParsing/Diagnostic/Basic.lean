import PredictiveParsing.Diagnostic.Location
import PredictiveParsing.Failure

/-!
# Diagnostics

A parse error together with the text it is about: where it is, what is wrong there,
and the bytes to point at.
-/

namespace PredictiveParsing

structure Diagnostic where
  error : ParseError
  text : String
deriving DecidableEq

namespace Diagnostic

def location (d : Diagnostic) : Location := .of d.error.position d.text

def span (d : Diagnostic) : Span := (Location.find d.error.position d.text).2

def describe (d : Diagnostic) : String := d.location.describe ++ ": " ++ d.error.summary

def label (d : Diagnostic) : String :=
  match d.error with
  | .expected .. => "unexpected"
  | .endOfInput .. => "input ends here"
  | .message .. => "here"

/-- The kind of all diagnostics of parsers. -/
def code : String := "pcomb::parse"

end Diagnostic

end PredictiveParsing
