import DebugConsole.Json.Error
import DebugConsole.Toml.Error

/-!
# Console errors

What the operations of the console and the handlers of its commands may fail with.
-/

namespace DebugConsole

/-- Why an operation failed. -/
inductive ConsoleError where
  /-- A blank or missing argument. -/
  | invalidArgument (text : String)
  /-- A command prefix against the rules. -/
  | invalidFormat   (text : String)
  | duplicatePrefix (p : String)
  /-- A failure that a handler reports in its own words. -/
  | handler         (text : String)
  | config          (text : String)
  | io              (text : String)
  | toml            (e : Toml.Error)
  | json            (e : Json.Error)
deriving DecidableEq, Repr

def ConsoleError.message : ConsoleError → String
  | .invalidArgument text => "invalid argument: " ++ text
  | .invalidFormat text   => "invalid format: " ++ text
  | .duplicatePrefix p    => "command with prefix '" ++ p ++ "' already exists"
  | .handler text         => text
  | .config text          => "config error: " ++ text
  | .io text              => "I/O error: " ++ text
  | .toml e               => "TOML parse error: " ++ e.message
  | .json e               => "JSON error: " ++ e.message

end DebugConsole
