import DebugConsole.Bounded
import DebugConsole.Text.Blank
import DebugConsole.TextStyle

/-!
# The log

The lines the console shows, how many events of each severity were received, and the requests to
the drawing side that are collected between two frames. Every producer writes to the same log; an
operation happens as a whole, so a log shared by several producers is a log after an interleaving
of their operations.
-/

namespace DebugConsole

/-- A line of the log. -/
structure LogLine where
  text     : String
  severity : Severity
  style    : TextStyle
deriving DecidableEq, Repr

/-! ### Counts -/

/-- The largest value a counter shows. -/
def Counter.limit : Nat := UInt64.size - 1

/-- The number of received events of each severity. -/
structure Counts where
  verbose   : Nat := 0
  warning   : Nat := 0
  error     : Nat := 0
  exception : Nat := 0
deriving DecidableEq, Repr

namespace Counts

def get (n : Counts) : Severity → Nat
  | .verbose   => n.verbose
  | .warning   => n.warning
  | .error     => n.error
  | .exception => n.exception

/-- One more, or the limit when it is reached. -/
def saturate (n : Nat) : Nat := min (n + 1) Counter.limit

def bump (n : Counts) : Severity → Counts
  | .verbose   => { n with verbose := saturate n.verbose }
  | .warning   => { n with warning := saturate n.warning }
  | .error     => { n with error := saturate n.error }
  | .exception => { n with exception := saturate n.exception }

theorem get_bump (n : Counts) (s t : Severity) :
    (n.bump s).get t = if t = s then saturate (n.get t) else n.get t := by
  cases s <;> cases t <;> rfl

end Counts

/-! ### Signals -/

/-- The severities that open the console. -/
structure AutoShow where
  warning   : Bool := false
  error     : Bool := false
  exception : Bool := false
deriving DecidableEq, Repr

/-- Whether an event of a severity opens the console. -/
def AutoShow.appliesTo (a : AutoShow) : Severity → Bool
  | .verbose   => false
  | .warning   => a.warning
  | .error     => a.error
  | .exception => a.exception

/-- Requests to the drawing side. -/
structure Signals where
  /-- A line arrived, so the view should move to the newest. -/
  scroll : Bool := false
  /-- An event arrived that opens the console. -/
  reveal : Bool := false
deriving DecidableEq, Repr

/-! ### The log -/

/-- The log with its counts, settings and pending signals. -/
structure Sink where
  lines    : Bounded LogLine
  counts   : Counts := {}
  autoShow : AutoShow := {}
  signals  : Signals := {}

namespace Sink

def empty (capacity : Nat) (autoShow : AutoShow) : Sink where
  lines    := .empty capacity
  autoShow := autoShow

/-- Append a line and ask the view to move to it. -/
def append (s : Sink) (line : LogLine) : Sink :=
  { s with lines := s.lines.push line, signals := { s.signals with scroll := true } }

/-- Append a text in a style; a blank text is ignored. -/
def logStyled (s : Sink) (text : String) (style : TextStyle) : Sink :=
  if Text.isBlankText text then s else s.append { text, severity := .verbose, style }

/-- Append a text in the plain style; a blank text is ignored. -/
def log (s : Sink) (text : String) : Sink := s.logStyled text .plain

/-- Whether an event is recorded: all are but blank verbose ones. -/
def accepts (message : String) (severity : Severity) : Bool :=
  severity != .verbose || !Text.isBlankText message

/-- The line of an event: its tag, its message and, for an exception, its detail below. -/
def eventLine (message detail : String) (severity : Severity) : LogLine where
  text     := severity.tag ++ message
    ++ if severity = .exception ∧ ¬ Text.isBlankText detail then "\n" ++ Text.trimEnd detail else ""
  severity := severity
  style    := .ofSeverity severity

/-- Receive an event: show it, count it and open the console if its severity does. -/
def receive (s : Sink) (message detail : String) (severity : Severity) : Sink :=
  if accepts message severity then
    let shown := s.append (eventLine message detail severity)
    { shown with
      counts  := s.counts.bump severity
      signals := { shown.signals with
        reveal := s.signals.reveal || s.autoShow.appliesTo severity } }
  else s

/-- Drop every line and every count. -/
def clear (s : Sink) : Sink := { s with lines := s.lines.clear, counts := {} }

def setCapacity (s : Sink) (capacity : Nat) : Sink :=
  { s with lines := s.lines.setCapacity capacity }

def setAutoShow (s : Sink) (autoShow : AutoShow) : Sink := { s with autoShow }

/-- Take the pending signals, leaving none. -/
def takeSignals (s : Sink) : Sink × Signals := ({ s with signals := {} }, s.signals)

/-! ### Operations as data -/

/-- What a producer may do to the log. -/
inductive Op where
  | log         (text : String)
  | logStyled   (text : String) (style : TextStyle)
  | receive     (message detail : String) (severity : Severity)
  | clear
  | setCapacity (capacity : Nat)
  | setAutoShow (autoShow : AutoShow)
  | takeSignals
deriving DecidableEq, Repr

def apply (s : Sink) : Op → Sink
  | .log text                        => s.log text
  | .logStyled text style            => s.logStyled text style
  | .receive message detail severity => s.receive message detail severity
  | .clear                           => s.clear
  | .setCapacity capacity            => s.setCapacity capacity
  | .setAutoShow autoShow            => s.setAutoShow autoShow
  | .takeSignals                     => s.takeSignals.1

def applyAll (s : Sink) (ops : List Op) : Sink := ops.foldl apply s

@[simp] theorem applyAll_nil (s : Sink) : s.applyAll [] = s := rfl

@[simp] theorem applyAll_cons (s : Sink) (op : Op) (ops : List Op) :
    s.applyAll (op :: ops) = (s.apply op).applyAll ops := rfl

@[simp] theorem applyAll_append (s : Sink) (ops more : List Op) :
    s.applyAll (ops ++ more) = (s.applyAll ops).applyAll more := by
  simp [applyAll]

end Sink

end DebugConsole
