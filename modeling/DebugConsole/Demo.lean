import DebugConsole.Console
import DebugConsole.Decimal.Layout
import DebugConsole.Json.Printer
import DebugConsole.Json.Reader
import DebugConsole.Text.Lines

/-!
# Demo commands

The commands and presets that the terminal session offers. The commands write to the log they are
given; one of them reports a log record instead.
-/

namespace DebugConsole

/-! ### Reporting -/

/-- The parts of the host that report records. -/
inductive HostPart where
  | session
  | input
  | commands
deriving DecidableEq, Repr

/-- The target that a part of the host reports under. -/
def HostPart.target : HostPart → String
  | .session  => "devcon"
  | .input    => "devcon::input"
  | .commands => "devcon::commands"

/-- A record that a part of the host reports. -/
def hostRecord (part : HostPart) (level : Level) (message : String) : Record where
  level   := level
  target  := part.target
  message := message

/-! ### Running -/

/-- The demo commands. -/
inductive DemoCommand where
  /-- Log the arguments. -/
  | echo
  /-- Log every argument as JSON over several lines. -/
  | parse
  /-- Log the sum of the arguments. -/
  | sum
  /-- Clear the log. -/
  | clear
  /-- Report the arguments as a warning. -/
  | warn
  /-- Fail. -/
  | fail
deriving DecidableEq, Repr

namespace DemoCommand

/-- Every demo command with its prefix. -/
def all : List (String × DemoCommand) :=
  [("/echo", .echo), ("/parse", .parse), ("/sum", .sum), ("/clear", .clear), ("/warn", .warn),
    ("/fail", .fail)]

def logAll (log : Sink) (texts : List String) : Sink := texts.foldl Sink.log log

/-- Log every text as JSON over several lines, up to the first that is no JSON. -/
def parseAll (log : Sink) : List String → Sink × Option ConsoleError
  | []        => (log, none)
  | raw :: rest =>
      match Json.Value.ofText raw with
      | .error e => (log, some (.json e))
      | .ok v    => parseAll (logAll log (Text.lines v.pretty)) rest

/-- The sum of numbers after those added so far, or the first text that is none. -/
def sumFrom (total : Float) : List String → Except String Float
  | []        => .ok total
  | arg :: rest =>
      match Decimal.read? arg with
      | some x => sumFrom (total + x) rest
      | none   => .error arg

/-- Run a demo command on its arguments. -/
def run (command : DemoCommand) (facade : Facade) (args : List String) (log : Sink) :
    Sink × Option ConsoleError :=
  match command with
  | .echo  => (log.log (" ".intercalate args), none)
  | .parse =>
      if args.isEmpty then (log, some (.invalidArgument "usage: /parse \x7bjson\x7d ..."))
      else parseAll log args
  | .sum   =>
      match sumFrom 0 args with
      | .ok total  => (log.log (Decimal.plainText total), none)
      | .error arg => (log, some (.invalidArgument ("not a number: " ++ arg)))
  | .clear => (log.clear, none)
  | .warn  => (facade.report (hostRecord .commands .warn (" ".intercalate args)) log, none)
  | .fail  => (log, some (.handler (args.head?.getD "requested failure")))

instance : Handler DemoCommand where
  invoke command facade tokens log :=
    let (log, failure) := command.run facade tokens.tail log
    { handler := command, log, failure }

end DemoCommand

/-! ### Registering -/

namespace Console

variable {η : Type}

/-- Register commands up to the first that is refused. -/
def registerAll (facade : Facade) : List (String × η) → Console η → Console η × Option ConsoleError
  | [], c                   => (c, none)
  | (p, handler) :: rest, c =>
      match c.register facade p handler with
      | .ok c    => registerAll facade rest c
      | .error e => (c, some e)

/-- Register the demo commands; `handler` makes handlers of them. -/
def registerDemoCommands (c : Console η) (facade : Facade) (handler : DemoCommand → η) :
    Console η × Option ConsoleError :=
  match c.registerAll facade (DemoCommand.all.map fun (p, command) => (p, handler command)) with
  | (c, some e) => (c, some e)
  | (c, none)   =>
      (c.record facade (hostRecord .commands .info
        ("registered " ++ toString c.registry.length ++ " demo commands")), none)

def demoPresets : List Preset :=
  [{ text := "/echo \"hello from a preset\"", name := "Hello",
     description := "Echo a greeting", group := none, immediate := true },
   { text := "/parse \x7b\"player\": \x7b\"hp\": 100, \"pos\": [0, 0]\x7d\x7d",
     name := "Player JSON", description := "Parse a nested JSON literal", group := "Data",
     immediate := true },
   { text := "/sum 1 2 3", name := "Sum",
     description := "Fills the input line; edit before submitting", group := "Data",
     immediate := false },
   { text := "/warn low memory", name := "Warn", description := none, group := "Diagnostics",
     immediate := true },
   { text := "/fail \"something broke\"", name := "Fail",
     description := "Handler error shown as an exception", group := "Diagnostics",
     immediate := true },
   { text := "/clear", name := "Clear log", description := none, group := none,
     immediate := true }]

/-- Add presets up to the first that is refused. -/
def addPresets : List Preset → Console η → Console η × Option ConsoleError
  | [], c        => (c, none)
  | e :: rest, c =>
      match c.addPreset e.text e.name e.description e.group e.immediate with
      | .ok c    => addPresets rest c
      | .error e => (c, some e)

def addDemoPresets (c : Console η) : Console η × Option ConsoleError := c.addPresets demoPresets

end Console

end DebugConsole
