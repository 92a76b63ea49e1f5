import DebugConsole.Severity

/-!
# Records

Messages that parts of a program report, each with a level and a target that names the part.
-/

namespace DebugConsole

/-- How important a record is, the most important first. -/
inductive Level where
  | error
  | warn
  | info
  | debug
  | trace
deriving DecidableEq, Repr

/-- The least important level let through, if any. -/
inductive LevelFilter where
  | off
  | upTo (level : Level)
deriving DecidableEq, Repr

namespace Level

/-- The place of a level, one for the most important. -/
def rank : Level → Nat
  | .error => 1
  | .warn  => 2
  | .info  => 3
  | .debug => 4
  | .trace => 5

/-- The severity an event of this level has in the console. -/
def severity : Level → Severity
  | .error                   => .error
  | .warn                    => .warning
  | .info | .debug | .trace  => .verbose

end Level

namespace LevelFilter

/-- The number of levels let through. -/
def rank : LevelFilter → Nat
  | .off        => 0
  | .upTo level => level.rank

/-- Whether a level is let through. -/
def admits (f : LevelFilter) (l : Level) : Bool := l.rank ≤ f.rank

/-- The more permissive of two filters. -/
def max (f g : LevelFilter) : LevelFilter := if f.rank ≤ g.rank then g else f

theorem rank_max (f g : LevelFilter) : (f.max g).rank = Nat.max f.rank g.rank := by
  unfold max
  split <;> simp only [Nat.max_def] <;> split <;> omega

end LevelFilter

/-- What a filter may look at. -/
structure Metadata where
  level  : Level
  target : String
deriving DecidableEq, Repr

/-- A reported message. -/
structure Record extends Metadata where
  message : String
deriving DecidableEq, Repr

end DebugConsole
