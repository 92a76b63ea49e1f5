import DebugConsole.Config
import DebugConsole.History
import DebugConsole.Preset.Menu
import DebugConsole.Registry
import DebugConsole.Screen
import DebugConsole.Token

/-!
# The console

Everything a debug console holds, and what can be done with it: lines are executed by handlers,
recalled from the history and prepared as presets; events are logged; time passes.

Operations that report records about themselves are told where records go. These records bear the
console's own target, so no logger copies them back into the log.
-/

namespace DebugConsole

/-- The panels that are shown. -/
structure View where
  console        : Bool := false
  /-- The panel with the counts. -/
  preview        : Bool := false
  screenMessages : Bool := false
deriving DecidableEq, Repr

/-- What activating a preset did. -/
inductive Activation where
  /-- Its line was executed; tells whether there was such a command. -/
  | executed (found : Bool)
  /-- Its line was put into the input line. -/
  | filled
deriving DecidableEq, Repr

/-- A debug console whose commands are run by handlers of type `η`. -/
structure Console (η : Type) where
  config        : Config
  registry      : Registry η
  presets       : Catalog := .empty
  log           : Sink
  history       : History
  screen        : Screen := {}
  input         : String := ""
  /-- The description of the preset that was activated last. -/
  helpText      : String := ""
  /-- The group of the menu that is expanded. -/
  expandedGroup : Option String := none
  view          : View

namespace Console

variable {η : Type}

/-- A new console. Its registry enforces the sentinel of this configuration for good. -/
def ofConfig (config : Config) : Console η where
  config   := config
  registry := .empty config.sentinel
  log      := .empty config.logCapacity config.autoShow
  history  := .empty config.historyCapacity
  view     := { screenMessages := config.showScreenMessages }

/-- Apply another configuration to a running console: its capacities, its severities that open the
console, and whatever is looked up when it is needed. -/
def reconfigure (c : Console η) (config : Config) : Console η :=
  { c with
    config
    log     := (c.log.setCapacity config.logCapacity).setAutoShow config.autoShow
    history := c.history.setCapacity config.historyCapacity }

/-! ### Own records -/

/-- A record that the console reports about itself. -/
def ownRecord (level : Level) (part message : String) : Record where
  level   := level
  target  := consoleTarget ++ "::" ++ part
  message := message

/-- Report a record about the console itself. -/
def note (c : Console η) (facade : Facade) (level : Level) (part message : String) : Console η :=
  { c with log := facade.report (ownRecord level part message) c.log }

theorem report_ownRecord (facade : Facade) (level : Level) (part message : String) (s : Sink) :
    facade.report (ownRecord level part message) s = s := by
  have h : Logger.isOwn (ownRecord level part message).target = true := by
    simp [Logger.isOwn, ownRecord, String.append_assoc]
  have hf (l : Logger) : l.copy (ownRecord level part message) s = s := by
    simp [Logger.copy, Logger.forwards, h]
  unfold Facade.report
  split
  · split
    · exact hf _
    · rfl
  · rfl

/-! ### Commands -/

def register (c : Console η) (facade : Facade) (p : String) (handler : η) :
    Except ConsoleError (Console η) :=
  (c.registry.register p handler).map fun registry =>
    { c with registry }.note facade .debug "registry" ("registered command " ++ p)

def unregister (c : Console η) (p : String) : Console η × Bool :=
  let (registry, found) := c.registry.unregister p
  ({ c with registry }, found)

def clearCommands (c : Console η) : Console η := { c with registry := c.registry.clear }

/-- Show a line that is about to be executed, if the configuration says so. -/
def echo (c : Console η) (line : String) : Console η :=
  if c.config.echoCommands then { c with log := c.log.logStyled (">" ++ line) .command } else c

/-- Run the command of a prefix with all tokens of its line, and tell whether there is one. A
failure of its handler becomes an exception in the log. -/
def dispatch [Handler η] (c : Console η) (facade : Facade) (p : String) (args : List String) :
    Console η × Bool :=
  let noted := facade.report (ownRecord .debug "console"
    ("executing " ++ p ++ " (" ++ toString (args.length - 1) ++ " args)")) c.log
  match c.registry.dispatch facade p args noted with
  | none =>
      ({ c with log := c.log.logStyled ("No command '" ++ p ++ "' found.") .command }, false)
  | some (registry, log, failure?) =>
      let c := { c with registry, log }
      match failure? with
      | none         => (c, true)
      | some failure =>
          let c := c.note facade .warn "console"
            ("command " ++ p ++ " failed: " ++ failure.message)
          ({ c with log := c.log.receive failure.message "" .exception }, true)

/-- Execute a line, and tell whether a command was run. A line with a token is recorded in the
history before its command is looked up. -/
def execute [Handler η] (c : Console η) (facade : Facade) (line : String) : Console η × Bool :=
  let line := Text.trim line
  let c := c.echo line
  match tokenize line with
  | []        => (c, false)
  | p :: args => { c with history := c.history.push line }.dispatch facade p (p :: args)

/-! ### Input line and recall -/

def setInput (c : Console η) (text : String) : Console η := { c with input := text }

/-- Empty the input line and execute what it held. -/
def submit [Handler η] (c : Console η) (facade : Facade) : Console η × Bool :=
  (c.setInput "").execute facade c.input

/-- Do to the input line what a step of the recall cursor asks for. -/
def applyRecall (c : Console η) : History × Recall → Console η
  | (history, .entry line) => { c with history, input := line }
  | (history, .cleared)    => { c with history, input := "" }
  | (history, .unchanged)  => { c with history }

/-- Recall the entry before the one recalled last. -/
def recallPrevious (c : Console η) : Console η := c.applyRecall c.history.stepBack

/-- Recall the entry after the one recalled last, or empty the input line after the newest. -/
def recallNext (c : Console η) : Console η := c.applyRecall c.history.stepForward

/-! ### Presets -/

def addPreset (c : Console η) (text name : String) (description group : Option String)
    (immediate : Bool) : Except ConsoleError (Console η) :=
  (c.presets.add text name description group immediate).map fun presets => { c with presets }

/-- Remove the first preset of a name, and tell whether there was one. -/
def removePreset (c : Console η) (name : String) : Console η × Bool :=
  let (presets, found) := c.presets.removeByName name
  ({ c with presets }, found)

/-- Remove the preset at a position, and tell whether there was one. -/
def removePresetAt (c : Console η) (index : Nat) : Console η × Bool :=
  let (presets, found) := c.presets.removeAt index
  ({ c with presets }, found)

def clearPresets (c : Console η) : Console η := { c with presets := c.presets.clear }

/-- Expand a group of the menu, or collapse it if it is expanded. -/
def toggleGroup (c : Console η) (group : String) : Console η :=
  { c with expandedGroup := if c.expandedGroup = some group then none else some group }

def menu (c : Console η) : List MenuRow := c.presets.menu c.expandedGroup

/-- Show a preset's description, then execute its line or put it into the input line. -/
def activate [Handler η] (c : Console η) (facade : Facade) (e : Preset) :
    Console η × Activation :=
  let c := { c with helpText := e.description.getD "" }
  if e.immediate then
    let (c, found) := c.execute facade e.text
    (c, .executed found)
  else (c.setInput e.text, .filled)

/-- Activate the preset at a position, if there is one. -/
def activateAt [Handler η] (c : Console η) (facade : Facade) (index : Nat) :
    Console η × Option Activation :=
  match c.presets.get? index with
  | none   => (c, none)
  | some e =>
      let (c, a) := c.activate facade e
      (c, some a)

/-! ### Log and screen -/

/-- Append a text to the log in the plain style. -/
def logText (c : Console η) (text : String) : Console η := { c with log := c.log.log text }

def logStyled (c : Console η) (text : String) (style : TextStyle) : Console η :=
  { c with log := c.log.logStyled text style }

def receive (c : Console η) (message detail : String) (severity : Severity) : Console η :=
  { c with log := c.log.receive message detail severity }

def clearLogs (c : Console η) : Console η := { c with log := c.log.clear }

/-- A record that another part of the program reports. -/
def record (c : Console η) (facade : Facade) (r : Record) : Console η :=
  { c with log := facade.report r c.log }

/-- Put a text on the screen for some seconds; a blank text is ignored. -/
def logScreenStyled (c : Console η) (text : String) (duration : Float32) (style : TextStyle) :
    Console η :=
  if Text.isBlankText text then c else { c with screen := c.screen.push text duration style }

/-- Put a text on the screen in the configured style. -/
def logScreen (c : Console η) (text : String) (duration : Float32) : Console η :=
  c.logScreenStyled text duration c.config.screenStyle

/-! ### Time and view -/

/-- Let time pass between two frames: screen messages age, and an event that opens the console
does so. The pending signals are taken. -/
def tick (c : Console η) (facade : Facade) (dt : Float32) : Console η × Signals :=
  let (log, signals) := c.log.takeSignals
  let c := { c with screen := c.screen.tick dt, log }
  if signals.reveal ∧ ¬ c.view.console then
    let c := c.note facade .debug "console" "console revealed by log event"
    ({ c with view := { c.view with console := true } }, signals)
  else (c, signals)

def toggleConsole (c : Console η) : Console η :=
  { c with view := { c.view with console := !c.view.console } }

def togglePreview (c : Console η) : Console η :=
  { c with view := { c.view with preview := !c.view.preview } }

def toggleScreenMessages (c : Console η) : Console η :=
  { c with view := { c.view with screenMessages := !c.view.screenMessages } }

end Console

end DebugConsole
