import DebugConsole.Log.Record
import DebugConsole.Log.Sink

/-!
# Loggers

A logger copies the records of a program into a log, up to a level, and may hand them to a second
logger as well. Records of the console itself are never copied, or a failing command would be shown
twice.
-/

namespace DebugConsole

/-- The start of the targets the console reports under. -/
def consoleTarget : String := "devcon_console"

/-- A second logger: which records it takes, and the least important level it may take. -/
structure InnerLogger where
  level   : LevelFilter
  enabled : Metadata → Bool

/-- What the second logger is given. -/
inductive Delivery where
  | record (r : Record)
  | flush
deriving DecidableEq, Repr

/-- A logger that writes to a log. -/
structure Logger where
  level : LevelFilter := .upTo .info
  inner : Option InnerLogger := none

namespace Logger

/-- Whether the target is one of the console's own. -/
def isOwn (target : String) : Bool := consoleTarget.toList.isPrefixOf target.toList

/-- Whether records like this are copied into the log. -/
def forwards (l : Logger) (m : Metadata) : Bool := l.level.admits m.level && !isOwn m.target

/-- Whether records like this are handed to the second logger. -/
def hands (l : Logger) (m : Metadata) : Bool := l.inner.any (·.enabled m)

/-- Whether records like this go anywhere. -/
def enabled (l : Logger) (m : Metadata) : Bool := l.forwards m || l.hands m

/-- The least important level that either side may take. -/
def maxLevel (l : Logger) : LevelFilter :=
  match l.inner with
  | some inner => l.level.max inner.level
  | none       => l.level

/-- The log after a record. -/
def copy (l : Logger) (r : Record) (s : Sink) : Sink :=
  if l.forwards r.toMetadata then s.receive r.message "" r.level.severity else s

/-- What the second logger is given of a record. -/
def deliveries (l : Logger) (r : Record) : List Delivery :=
  if l.hands r.toMetadata then [.record r] else []

/-- What the second logger is given of a flush. -/
def flush (l : Logger) : List Delivery := if l.inner.isSome then [.flush] else []

end Logger

/-! ### The log facade -/

/-- Where a program's records go: to the installed logger, or nowhere. -/
structure Facade where
  logger : Option Logger := none

namespace Facade

/-- Records are dropped. -/
def silent : Facade := {}

/-- Records go to a logger that copies them into the console's log up to a level. -/
def upTo (level : LevelFilter) : Facade := { logger := some { level } }

/-- Report a record; what is less important than either side takes is suppressed beforehand. -/
def report (f : Facade) (r : Record) (s : Sink) : Sink :=
  match f.logger with
  | .some l => if l.maxLevel.admits r.level then l.copy r s else s
  | .none   => s

end Facade

end DebugConsole
