import DebugConsole.Demo

/-!
# Host actions

A line that starts with a colon stands for a key of the host: it shows a panel, recalls a line,
activates a preset. Any other line is typed into the input line and submitted.
-/

namespace DebugConsole

/-- What a line with a colon asks for. -/
inductive HostAction where
  | quit
  | toggleConsole
  | togglePreview
  | toggleScreen
  | previous
  | next
  /-- Submit what the input line holds. -/
  | submit
  | preset   (index : Nat)
  | group    (name : String)
  | complete (start : String)
  | flash    (text : String)
  /-- A key that the host does not have, by everything after the colon. -/
  | unknown  (key : String)
deriving DecidableEq, Repr

namespace HostAction

/-! ### Reading -/

/-- One more than the largest position a line can name. -/
def indexLimit : Nat := UInt64.size

/-- The position that a text names in decimal digits, which a plus sign may precede. -/
def index? (cs : List Char) : Option Nat :=
  let ds := match cs with
    | '+' :: ds => ds
    | ds        => ds
  if ds.isEmpty ∨ ¬ ds.all Char.isDigit then none
  else if Decimal.number ds < indexLimit then some (Decimal.number ds) else none

/-- The action of a key and its argument; `rest` is both as they were written. -/
def ofKey (key arg rest : List Char) : HostAction :=
  match String.ofList key with
  | "q" | "quit" => .quit
  | "toggle"     => .toggleConsole
  | "preview"    => .togglePreview
  | "screen"     => .toggleScreen
  | "up"         => .previous
  | "down"       => .next
  | "" | "go"    => .submit
  | "preset"     =>
      match index? arg with
      | some index => .preset index
      | none       => .unknown (String.ofList rest)
  | "group"      => .group (String.ofList arg)
  | "complete"   => .complete (String.ofList arg)
  | "flash"      => .flash (String.ofList arg)
  | _            => .unknown (String.ofList rest)

/-- The action of a line, unless it is no line with a colon. -/
def ofLine? (line : String) : Option HostAction :=
  match Text.strip line.toList with
  | ':' :: rest =>
      let key := rest.takeWhile (!Text.isBlank ·)
      let arg := Text.strip (rest.dropWhile (!Text.isBlank ·))
      some (ofKey key arg rest)
  | _           => none

/-- The line that asks for an action in the plainest way. -/
def line : HostAction → String
  | .quit           => ":quit"
  | .toggleConsole  => ":toggle"
  | .togglePreview  => ":preview"
  | .toggleScreen   => ":screen"
  | .previous       => ":up"
  | .next           => ":down"
  | .submit         => ":"
  | .preset index   => ":preset " ++ toString index
  | .group name     => ":group " ++ name
  | .complete start => ":complete " ++ start
  | .flash text     => ":flash " ++ text
  | .unknown key    => ":" ++ key

end HostAction

/-! ### Carrying out -/

namespace Console

variable {η : Type} [Handler η]

/-- The seconds that a flashed text stays on the screen. -/
def flashSeconds : Float32 := 3

/-- Log the commands that start with a text, on one line. -/
def showCompletions (c : Console η) (start : String) : Console η :=
  let shown := "  ".intercalate (c.registry.completions start)
  c.logText (if shown.isEmpty then "No completions for '" ++ start ++ "'." else shown)

/-- Activate the preset at a position and report how that went. -/
def activatePreset (c : Console η) (facade : Facade) (index : Nat) : Console η :=
  match c.activateAt facade index with
  | (c, some (.executed found)) =>
      c.record facade (hostRecord .input .debug
        ("preset " ++ toString index ++ " executed (handler found: " ++ toString found ++ ")"))
  | (c, some .filled)           => c
  | (c, none)                   =>
      c.record facade (hostRecord .input .warn ("no preset at index " ++ toString index))

/-- Carry out an action; quitting changes nothing. -/
def perform (c : Console η) (facade : Facade) : HostAction → Console η
  | .quit           => c
  | .toggleConsole  => c.toggleConsole
  | .togglePreview  => c.togglePreview
  | .toggleScreen   => c.toggleScreenMessages
  | .previous       => c.recallPrevious
  | .next           => c.recallNext
  | .submit         => (c.submit facade).1
  | .preset index   => c.activatePreset facade index
  | .group name     => c.toggleGroup name
  | .complete start => c.showCompletions start
  | .flash text     => c.logScreen text flashSeconds
  | .unknown key    =>
      c.record facade (hostRecord .input .warn ("unknown host key ':" ++ key ++ "'"))

/-- Whether a line ends the session. -/
def quits (line : String) : Bool := HostAction.ofLine? line = some .quit

/-- Do what a line asks for. -/
def handleLine (c : Console η) (facade : Facade) (line : String) : Console η :=
  match HostAction.ofLine? line with
  | none        => ((c.setInput line).submit facade).1
  | some action => c.perform facade action

end Console

end DebugConsole
