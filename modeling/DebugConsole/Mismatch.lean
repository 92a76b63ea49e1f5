import DebugConsole.Text.Quoted

/-!
# Data that does not fit

Well-formed data may still not be what is asked for. A mismatch says what was found and what was
expected, in words that do not depend on the notation of the data.
-/

namespace DebugConsole

/-- What was found in place of the expected data. -/
inductive Found where
  | null
  | boolean  (b : Bool)
  | integer  (n : Int)
  /-- A number with a point, by its text. -/
  | floating (text : String)
  | string   (s : String)
  | sequence
  | map
deriving DecidableEq, Repr

/-- What was found, in words. -/
def Found.describe : Found → String
  | .null          => "null"
  | .boolean b     => "boolean `" ++ toString b ++ "`"
  | .integer n     => "integer `" ++ toString n ++ "`"
  | .floating text => "floating point `" ++ text ++ "`"
  | .string s      => "string " ++ Text.quoted s
  | .sequence      => "sequence"
  | .map           => "map"

/-- Why data does not fit. -/
inductive Mismatch where
  | type           (found : Found) (expected : String)
  | value          (found : Found) (expected : String)
  | color          (text : String)
  | variant        (name : String) (expected : List String)
  | duplicateField (name : String)
deriving DecidableEq, Repr

/-- A text between backticks. -/
def backticked (s : String) : String := "`" ++ s ++ "`"

/-- Why data does not fit, in words. -/
def Mismatch.message : Mismatch → String
  | .type found expected    => "invalid type: " ++ found.describe ++ ", expected " ++ expected
  | .value found expected   => "invalid value: " ++ found.describe ++ ", expected " ++ expected
  | .color text             => "invalid hex color: " ++ text
  | .variant name expected  =>
      "unknown variant " ++ backticked name ++ ", expected one of "
        ++ ", ".intercalate (expected.map backticked)
  | .duplicateField name    => "duplicate field " ++ backticked name

end DebugConsole
