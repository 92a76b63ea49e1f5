import DebugConsole.Log.Logger
import DebugConsole.Proofs.Log.Run

/-!
# Writes to a log

What a holder of a log does to it who neither configures nor draws it: it adds texts, passes events
on and clears. The settings of the log stay what they are under such writes, and its requests to
the drawing side only grow.
-/

namespace DebugConsole

namespace Sink

inductive Write where
  | log       (text : String)
  | logStyled (text : String) (style : TextStyle)
  | receive   (message detail : String) (severity : Severity)
  | clear
deriving DecidableEq, Repr

namespace Write

/-- The operation that a write is. -/
def op : Write → Op
  | .log text                        => .log text
  | .logStyled text style            => .logStyled text style
  | .receive message detail severity => .receive message detail severity
  | .clear                           => .clear

/-- Whether a write adds a line. -/
def appends (w : Write) : Bool := w.op.line?.isSome

/-- Whether a write is an event that opens the console under a setting. -/
def reveals (autoShow : AutoShow) (w : Write) : Bool := w.op.event?.any autoShow.appliesTo

lemma reveals_iff {autoShow : AutoShow} {w : Write} :
    w.reveals autoShow = true ↔ ∃ message detail severity,
      w = .receive message detail severity ∧ autoShow.appliesTo severity = true := by
  rw [reveals, event?_any_appliesTo]
  cases w <;> simp [op]

end Write

def writeAll (s : Sink) (ws : List Write) : Sink := s.applyAll (ws.map Write.op)

@[simp] lemma writeAll_nil (s : Sink) : s.writeAll [] = s := rfl

@[simp] lemma writeAll_cons (s : Sink) (w : Write) (ws : List Write) :
    s.writeAll (w :: ws) = (s.apply w.op).writeAll ws := rfl

@[simp] lemma writeAll_append (s : Sink) (ws ws' : List Write) :
    s.writeAll (ws ++ ws') = (s.writeAll ws).writeAll ws' := by simp [writeAll]

/-! ### Settings and requests -/

lemma autoShow_write (s : Sink) (w : Write) : (s.apply w.op).autoShow = s.autoShow := by
  rw [apply_eq]
  cases w <;> rfl

lemma capacity_write (s : Sink) (w : Write) :
    (s.apply w.op).lines.capacity = s.lines.capacity := by
  rcases lines_apply s w.op with ⟨capacity, hop, -⟩ | ⟨-, hlines⟩ | hlines
  · cases w <;> contradiction
  · rw [hlines]
    rfl
  · rw [hlines]
    cases w.op.line? <;> rfl

lemma signals_write (s : Sink) (w : Write) :
    (s.apply w.op).signals =
      { scroll := s.signals.scroll || w.appends
        reveal := s.signals.reveal || w.reveals s.autoShow } := by
  have htake : w.op ≠ .takeSignals := by cases w <;> simp [Write.op]
  rw [apply_eq]
  exact if_neg htake

lemma autoShow_writeAll (s : Sink) (ws : List Write) : (s.writeAll ws).autoShow = s.autoShow := by
  induction ws generalizing s with
  | nil => rfl
  | cons w ws ih => rw [writeAll_cons, ih, autoShow_write]

lemma capacity_writeAll (s : Sink) (ws : List Write) :
    (s.writeAll ws).lines.capacity = s.lines.capacity := by
  induction ws generalizing s with
  | nil => rfl
  | cons w ws ih => rw [writeAll_cons, ih, capacity_write]

/-- Writes withdraw no request; the setting is the same for all of them. -/
theorem signals_writeAll (s : Sink) (ws : List Write) :
    (s.writeAll ws).signals =
      { scroll := s.signals.scroll || ws.any Write.appends
        reveal := s.signals.reveal || ws.any (Write.reveals s.autoShow) } := by
  induction ws generalizing s with
  | nil => simp
  | cons w ws ih => simp [ih, signals_write, autoShow_write, Bool.or_assoc]

end Sink

/-! ### Reported records -/

/-- What a record that is reported writes to the log. -/
def Facade.writes (f : Facade) (r : Record) : List Sink.Write :=
  match f.logger with
  | some l =>
      if l.maxLevel.admits r.level ∧ l.forwards r.toMetadata then
        [.receive r.message "" r.level.severity]
      else []
  | none   => []

lemma Facade.report_eq (f : Facade) (r : Record) (s : Sink) :
    f.report r s = s.writeAll (f.writes r) := by
  unfold report writes
  cases f.logger with
  | none => rfl
  | some l =>
    by_cases h : l.maxLevel.admits r.level <;> by_cases h' : l.forwards r.toMetadata <;>
      simp [Logger.copy, h, h', Sink.apply, Sink.Write.op]

end DebugConsole
