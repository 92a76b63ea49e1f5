import DebugConsole.ConsoleError
import DebugConsole.Log.Sink
import DebugConsole.Registry
import DebugConsole.Toml.Reader
import DebugConsole.Toml.Typed

/-!
# Configuration

What can be set about a console, and how it is read from the table of a TOML document. A key that
is missing leaves the default, and a key that is not known is ignored.
-/

namespace DebugConsole

/-- The settings of a console. -/
structure Config where
  /-- The number of log lines kept. -/
  logCapacity        : Nat := 64
  /-- The number of executed lines kept. -/
  historyCapacity    : Nat := 16
  /-- Show every executed line in the log. -/
  echoCommands       : Bool := false
  autoShowWarning    : Bool := false
  autoShowError      : Bool := false
  autoShowException  : Bool := false
  /-- The character that command prefixes start with. -/
  prefixSentinel     : Char := defaultSentinel
  /-- Whether prefixes have to start with it. -/
  requireSentinel    : Bool := true
  showScreenMessages : Bool := true
  /-- The style of screen messages that come without one. -/
  screenStyle        : TextStyle := {}
deriving DecidableEq, Repr

namespace Config

instance : Inhabited Config := ⟨{}⟩

/-- The sentinel that a registry has to enforce, if any. -/
def sentinel (c : Config) : Option Char := if c.requireSentinel then some c.prefixSentinel else none

/-- The severities that open the console. -/
def autoShow (c : Config) : AutoShow where
  warning   := c.autoShowWarning
  error     := c.autoShowError
  exception := c.autoShowException

/-! ### Reading -/

/-- The settings with the value of a key in place of their own. -/
def set (c : Config) (key : String) (v : Toml.Value) : Except Mismatch Config :=
  if key = "log_capacity" then v.natural.map fun n => { c with logCapacity := n }
  else if key = "history_capacity" then v.natural.map fun n => { c with historyCapacity := n }
  else if key = "echo_commands" then v.asBoolean.map fun b => { c with echoCommands := b }
  else if key = "auto_show_warning" then v.asBoolean.map fun b => { c with autoShowWarning := b }
  else if key = "auto_show_error" then v.asBoolean.map fun b => { c with autoShowError := b }
  else if key = "auto_show_exception" then
    v.asBoolean.map fun b => { c with autoShowException := b }
  else if key = "prefix_sentinel" then v.asCharacter.map fun x => { c with prefixSentinel := x }
  else if key = "require_sentinel" then v.asBoolean.map fun b => { c with requireSentinel := b }
  else if key = "show_screen_messages" then
    v.asBoolean.map fun b => { c with showScreenMessages := b }
  else if key = "screen_style" then v.asStyle.map fun s => { c with screenStyle := s }
  else .ok c

/-- The settings of a table, the first value that does not fit being an error. -/
def ofEntries (t : Toml.Table) : Except Mismatch Config :=
  t.foldlM (fun c (key, v) => c.set key v) {}

/-- Refuse settings that no console can work with. -/
def validate (c : Config) : Except ConsoleError Config :=
  if c.logCapacity = 0 then .error (.config "log_capacity must be at least 1")
  else if Text.isBlank c.prefixSentinel then
    .error (.config "prefix_sentinel cannot be whitespace")
  else .ok c

/-- The settings of a table. -/
def ofTable (t : Toml.Table) : Except ConsoleError Config :=
  match ofEntries t with
  | .error m => .error (.toml (.mismatch m))
  | .ok c    => c.validate

def ofToml (text : String) : Except ConsoleError Config :=
  match Toml.read text with
  | .error e => .error (.toml e)
  | .ok t    => ofTable t

/-- The settings in the bytes of a file, or nothing if there is no such file. -/
def ofFile (bytes : Option ByteArray) : Except ConsoleError Config :=
  match bytes with
  | none       => .error (.io "No such file or directory (os error 2)")
  | some bytes =>
      match String.fromUTF8? bytes with
      | none      => .error (.io "stream did not contain valid UTF-8")
      | some text => ofToml text

end Config

end DebugConsole
