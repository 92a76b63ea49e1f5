import DebugConsole.Console
import DebugConsole.Decimal.Layout
import DebugConsole.Text.Bytes

/-!
# Frames

A console drawn as text: the panels that are shown, from top to bottom, and the input line. With
ANSI codes the screen is cleared first and styles are drawn; otherwise the text is the same without
them.
-/

namespace DebugConsole

/-- How frames are drawn. -/
structure Renderer where
  /-- Clear the screen and draw styles by ANSI codes. -/
  ansi : Bool
deriving DecidableEq, Repr

namespace Renderer

/-! ### Styles -/

/-- The code of a color in the foreground. -/
def colorCode (c : Color) : String :=
  "38;2;" ++ toString c.red ++ ";" ++ toString c.green ++ ";" ++ toString c.blue

/-- The codes of a style. -/
def codes (s : TextStyle) : List String :=
  (if s.bold then ["1"] else []) ++ (if s.italic then ["3"] else [])
    ++ s.color.toList.map colorCode

/-- A text drawn in a style; the plain style needs no codes. -/
def styled (r : Renderer) (text : String) (s : TextStyle) : String :=
  if ¬ r.ansi ∨ s.isPlain then text
  else "\x1b[" ++ ";".intercalate (codes s) ++ "m" ++ text ++ "\x1b[0m"

/-! ### Panels -/

/-- A text after blanks that bring it to a width. -/
def padLeft (width : Nat) (text : String) : String :=
  String.ofList (List.replicate (width - text.length) ' ') ++ text

/-- The seconds left that are shown: none once the time is over. -/
def shownSeconds (remaining : Float32) : Float32 := if 0 < remaining then remaining else 0

def messageLine (r : Renderer) (m : ScreenMessage) : String :=
  "  [" ++ padLeft 4 (Decimal.fixedText 1 (shownSeconds m.remaining)) ++ "s] "
    ++ r.styled m.text m.style

def previewLine (r : Renderer) (n : Counts) : String :=
  " | ".intercalate <| Severity.all.map fun s =>
    r.styled (s.label ++ ": " ++ toString (n.get s)) (.ofSeverity s)

def rowLine : MenuRow → String
  | .group name expanded => "[" ++ (if expanded then "-" else "+") ++ "] " ++ name
  | .ungrouped           => "    " ++ ungroupedLabel
  | .preset index e      => "    " ++ padLeft 2 (toString index) ++ ": " ++ e.name

/-- The lines of the console panel above the input line. -/
def consoleLines (r : Renderer) (log : List LogLine) (menu : List MenuRow) (help : String) :
    List String :=
  "---- console ----" :: log.map (fun l => r.styled l.text l.style)
    ++ (if menu.isEmpty then [] else "---- presets ----" :: menu.map rowLine)
    ++ (if help.isEmpty then [] else [r.styled help TextStyle.plain.italicized])

/-! ### Frames -/

/-- A line with its end. -/
def withNewline (line : String) : String := line ++ "\n"

/-- What is written before any panel. -/
def prelude (r : Renderer) : String := if r.ansi then "\x1b[2J\x1b[H" else ""

/-- The parts of a frame in the order in which they are written. -/
def parts {η : Type} (r : Renderer) (c : Console η) : List String :=
  [r.prelude]
    ++ (if c.view.screenMessages then c.screen.messages.map (withNewline ∘ r.messageLine) else [])
    ++ (if c.view.preview then [withNewline (r.previewLine c.log.counts)] else [])
    ++ (if c.view.console then
          (r.consoleLines c.log.lines.items c.menu c.helpText).map withNewline ++ ["> " ++ c.input]
        else [])

/-- The frame of a console. -/
def frame {η : Type} (r : Renderer) (c : Console η) : String := String.join (r.parts c)

end Renderer

/-! ### Drawing -/

/-- What a frame can be written to. -/
structure Output (m : Type → Type) where
  write : String → m Unit
  flush : m Unit

namespace Output

variable {m : Type → Type}

def writeLine (out : Output m) (line : String) : m Unit := out.write (Renderer.withNewline line)

/-- An output that takes everything. -/
def collecting : Output (StateM String) where
  write text := modify (· ++ text)
  flush      := pure ()

end Output

namespace Renderer

variable {η : Type} {m : Type → Type} [Monad m]

/-- Do something only on a condition. -/
def onlyIf (condition : Bool) (part : m Unit) : m Unit := if condition then part else pure ()

def drawMessages (r : Renderer) (messages : List ScreenMessage) (out : Output m) : m Unit := do
  for message in messages do
    out.writeLine (r.messageLine message)

def drawPreview (r : Renderer) (counts : Counts) (out : Output m) : m Unit :=
  out.writeLine (r.previewLine counts)

def drawMenu (menu : List MenuRow) (out : Output m) : m Unit := do
  out.writeLine "---- presets ----"
  for row in menu do
    out.writeLine (rowLine row)

def drawConsole (r : Renderer) (log : List LogLine) (menu : List MenuRow) (help input : String)
    (out : Output m) : m Unit := do
  out.writeLine "---- console ----"
  for line in log do
    out.writeLine (r.styled line.text line.style)
  onlyIf (!menu.isEmpty) (drawMenu menu out)
  onlyIf (!help.isEmpty) (out.writeLine (r.styled help TextStyle.plain.italicized))
  out.write ("> " ++ input)

/-- Draw a console panel by panel, with a write for every line. The first write that fails ends the
drawing. -/
def draw (r : Renderer) (c : Console η) (out : Output m) : m Unit := do
  onlyIf r.ansi (out.write r.prelude)
  onlyIf c.view.screenMessages (r.drawMessages c.screen.messages out)
  onlyIf c.view.preview (r.drawPreview c.log.counts out)
  onlyIf c.view.console (r.drawConsole c.log.lines.items c.menu c.helpText c.input out)
  out.flush

end Renderer

/-! ### Writers that fail -/

/-- A write was offered more than the writer takes. -/
inductive WriteError where
  | full
deriving DecidableEq, Repr

/-- A writer that accepts bytes in order and fails once more than its limit have been offered. -/
structure LimitedWriter where
  limit    : Nat
  accepted : List UInt8 := []
deriving DecidableEq, Repr

namespace LimitedWriter

/-- The writer with as many more bytes as fit. -/
def accept (w : LimitedWriter) (bytes : List UInt8) : LimitedWriter :=
  { w with accepted := w.accepted ++ bytes.take (w.limit - w.accepted.length) }

/-- Offer bytes. Those that fit are accepted, and if some do not fit, the write fails. -/
def offer (bytes : List UInt8) : EStateM WriteError LimitedWriter Unit := do
  let w ← get
  set (w.accept bytes)
  if w.limit < w.accepted.length + bytes.length then throw .full

def output : Output (EStateM WriteError LimitedWriter) where
  write text := offer (Text.bytes text)
  flush      := pure ()

end LimitedWriter

/-- What has come of a drawing. -/
structure Drawn where
  accepted : List UInt8
  failed   : Bool
deriving DecidableEq, Repr

/-- Draw a console to a writer. -/
def Renderer.drawTo {η : Type} (r : Renderer) (c : Console η) (w : LimitedWriter) : Drawn :=
  match (r.draw c LimitedWriter.output).run w with
  | .ok _ w    => { accepted := w.accepted, failed := false }
  | .error _ w => { accepted := w.accepted, failed := true }

end DebugConsole
