import DebugConsole.Color
import DebugConsole.Severity

/-!
# Text styles

How a line or message is to be drawn. A style is data; drawing it is left to the frame.
-/

namespace DebugConsole

/-- A color, if any, and two switches. -/
structure TextStyle where
  color  : Option Color := none
  bold   : Bool := false
  italic : Bool := false
deriving DecidableEq, Repr

namespace TextStyle

instance : Inhabited TextStyle := ⟨{}⟩

/-- No color, neither bold nor italic. -/
def plain : TextStyle := {}

def colored (c : Color) : TextStyle := { color := some c }

def emboldened (s : TextStyle) : TextStyle := { s with bold := true }

def italicized (s : TextStyle) : TextStyle := { s with italic := true }

/-- The style of echoed lines and of reports that a command is missing. -/
def command : TextStyle := (colored .cyan).italicized

/-- The style of an event of a severity. -/
def ofSeverity : Severity → TextStyle
  | .verbose   => plain
  | .warning   => (colored .yellow).italicized
  | .error     => (colored .pureRed).emboldened
  | .exception => (colored .pureRed).emboldened

def isPlain (s : TextStyle) : Bool := s == plain

end TextStyle

end DebugConsole
