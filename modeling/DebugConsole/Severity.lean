/-!
# Severities

How grave a logged event is, with the texts that show it.
-/

namespace DebugConsole

/-- The severity of a received event. -/
inductive Severity where
  | verbose
  | warning
  | error
  /-- A failure raised while something was executed, usually with detail. -/
  | exception
deriving DecidableEq, Repr

namespace Severity

instance : Inhabited Severity := ⟨.verbose⟩

/-- Every severity, the gravest last. -/
def all : List Severity := [.verbose, .warning, .error, .exception]

/-- The text in front of a displayed event. -/
def tag : Severity → String
  | .verbose   => ""
  | .warning   => "Warning: "
  | .error     => "Error: "
  | .exception => "Exception: "

/-- The name shown beside a count. -/
def label : Severity → String
  | .verbose   => "Verbose"
  | .warning   => "Warning"
  | .error     => "Error"
  | .exception => "Exception"

def name : Severity → String
  | .verbose   => "verbose"
  | .warning   => "warning"
  | .error     => "error"
  | .exception => "exception"

def ofName? (s : String) : Option Severity := all.find? (·.name == s)

end Severity

end DebugConsole
