import EventLineage.Failure.Store
import EventLineage.Instant
import EventLineage.Json.Reader
import EventLineage.Text.Utf8
import EventLineage.Uuid

/-! # Errors of everyday readers and conversions

What is said when a number, a truth value, a text in UTF-8, a JSON text, an identifier or an instant
cannot be read. Each of these errors is known by name and has no cause. -/
namespace EventLineage.ReadingError
open Text

def named (familiar : Familiar) (debug display : String) : ErrorNode where
  display := display
  debug := debug
  familiar := familiar

/-- Read a natural below a bound, digit by digit: the first bad digit or the first digit that goes
past the bound is what is wrong. -/
def boundedDigits (bound : Nat) : Nat → List Char → Option String
  | _, [] => none
  | n, c :: cs =>
    if ¬ isDigit c then some "invalid digit found in string"
    else if bound ≤ n * 10 + digitValue c then some "number too large to fit in target type"
    else boundedDigits bound (n * 10 + digitValue c) cs

/-- Why a text is no natural below a bound; a plus sign may stand in front. -/
def integerFault (bound : Nat) : List Char → Option String
  | [] => some "cannot parse integer from empty string"
  | ['+'] => some "invalid digit found in string"
  | '+' :: cs => boundedDigits bound 0 cs
  | cs => boundedDigits bound 0 cs

/-- The error in the spelling of a number from 0 to 255. -/
def byte? (text : String) : Option ErrorNode :=
  (integerFault 256 text.toList).map (named .integer "ParseIntError \x7b")

/-- The error in the spelling of a floating-point number. -/
def float (text : String) : ErrorNode :=
  named .float "ParseFloatError \x7b"
    (if text.isEmpty then "cannot parse float from empty string" else "invalid float literal")

/-- The error in the spelling of a truth value. -/
def truth : ErrorNode :=
  named .truth "ParseBoolError" "provided string was not `true` or `false`"

/-- The error of a number that is too large for its new type. -/
def conversion : ErrorNode :=
  named .conversion "TryFromIntError(" "number too large to fit in target type"

/-- The error of a text that cannot be written. -/
def writing : ErrorNode :=
  named .writing "Error" "an error occurred when formatting an argument"

def faultOf (result : Except φ α) : Option φ :=
  match result with
  | .ok _ => none
  | .error fault => some fault

/-- The error in a text in UTF-8 that belongs to somebody else. -/
def utf8? (bytes : List Nat) : Option ErrorNode :=
  (faultOf (Utf8.decode bytes)).map fun fault =>
    named .utf8 "Utf8Error \x7b" fault.text

/-- The error in a text in UTF-8 that was handed over. -/
def ownedUtf8? (bytes : List Nat) : Option ErrorNode :=
  (faultOf (Utf8.decode bytes)).map fun fault =>
    named .ownedUtf8 "FromUtf8Error \x7b" fault.text

def json? (text : String) : Option ErrorNode :=
  (faultOf (Json.parse text)).map fun fault => named .json "Error(" fault.text

def uuid? (text : String) : Option ErrorNode :=
  (faultOf (Uuid.parse text)).map fun fault => named .uuid "Error(" fault.text

def instant? (text : String) : Option ErrorNode :=
  (faultOf (Instant.parse text)).map fun fault => named .instant "ParseError(" fault.text

end EventLineage.ReadingError
