import DebugConsole.Console
import Mathlib.Tactic.Common

/-!
# Courses of an execution

A line that is executed is blank, starts with a token that no command is registered under, or runs
a command. What the console is afterwards is told once for each of the three, and whatever else is
said about executions follows from that.
-/

namespace DebugConsole

variable {η : Type}

/-! ### Lines and texts of an execution -/

/-- The tokens of a line, without the blanks around it. -/
def lineTokens (line : String) : List String := tokenize (Text.trim line)

/-- A log line about a command. -/
def commandLine (text : String) : LogLine where
  text     := text
  severity := .verbose
  style    := .command

/-- The text of the log line for a prefix that is not registered. -/
def missingText (p : String) : String := "No command '" ++ p ++ "' found."

lemma isBlankText_missingText (p : String) : Text.isBlankText (missingText p) = false := by
  rw [missingText, String.append_assoc]
  exact Text.isBlankText_append_left rfl _

/-- The echo is never blank, for it has the mark in front of the line. -/
lemma isBlankText_echo (line : String) : Text.isBlankText (">" ++ Text.trim line) = false :=
  Text.isBlankText_append_left rfl _

lemma logStyled_command {s : String} (h : Text.isBlankText s = false) (log : Sink) :
    log.logStyled s .command = log.append (commandLine s) := by
  rw [Sink.logStyled, h]
  rfl

/-- The log after a run, in which a failure is an exception with its text. -/
def Outcome.told (o : Outcome η) : Sink :=
  match o.failure with
  | none         => o.log
  | some failure => o.log.receive failure.message "" .exception

namespace Console

/-- The log after a line is echoed, a blank one too, if lines are echoed. -/
def echoed (c : Console η) (line : String) : Sink :=
  if c.config.echoCommands then c.log.append (commandLine (">" ++ Text.trim line)) else c.log

lemma echo_trim (c : Console η) (line : String) :
    c.echo (Text.trim line) = { c with log := c.echoed line } := by
  rw [echo, echoed, logStyled_command (isBlankText_echo line)]
  split <;> rfl

/-- The console once a line with tokens is echoed and in the history. -/
def recorded (c : Console η) (line : String) : Console η :=
  { c with log := c.echoed line, history := c.history.push (Text.trim line) }

/-! ### Courses -/

/-- What executing a line can come to. -/
inductive Course (c : Console η) (line : String) : Prop where
  /-- The line has no token. -/
  | blank (tokens : lineTokens line = [])
  /-- There is no command for the first token. -/
  | missing (p : String) (first : (lineTokens line).head? = some p)
      (absent : c.registry.lookup p = none)
  /-- The command of the first token is run. -/
  | run (p : String) (handler : η) (first : (lineTokens line).head? = some p)
      (present : c.registry.lookup p = some handler)

lemma course (c : Console η) (line : String) : c.Course line := by
  cases first : (lineTokens line).head? with
  | none => exact .blank (List.head?_eq_none_iff.mp first)
  | some p =>
    cases h : c.registry.lookup p with
    | none => exact .missing p first h
    | some handler => exact .run p handler first h

/-! ### Running a command -/

variable [Handler η]

/-- The record of a dispatch does not reach the log, so the report is all that is added. -/
lemma dispatch_of_lookup_eq_none {c : Console η} {p : String} (h : c.registry.lookup p = none)
    (facade : Facade) (args : List String) :
    c.dispatch facade p args
      = ({ c with log := c.log.append (commandLine (missingText p)) }, false) := by
  rw [dispatch, Registry.dispatch_of_lookup_eq_none h,
    ← logStyled_command (isBlankText_missingText p)]
  rfl

lemma dispatch_of_lookup_eq_some {c : Console η} {p : String} {handler : η}
    (h : c.registry.lookup p = some handler) (facade : Facade) (args : List String) :
    c.dispatch facade p args =
      let outcome := Handler.invoke handler facade args c.log
      ({ c with
          registry := c.registry.put p outcome.handler (Registry.refusal?_of_lookup h)
          log      := outcome.told }, true) := by
  rw [dispatch, report_ownRecord, Registry.dispatch_of_lookup_eq_some h]
  simp only [note, report_ownRecord, Outcome.told]
  cases (Handler.invoke handler facade args c.log).failure <;> rfl

/-! ### Executing a line -/

lemma execute_of_first {line p : String} (first : (lineTokens line).head? = some p) (c : Console η)
    (facade : Facade) :
    c.execute facade line = (c.recorded line).dispatch facade p (lineTokens line) := by
  obtain ⟨args, tokens⟩ : ∃ args, lineTokens line = p :: args := List.head?_eq_some_iff.mp first
  rw [execute, echo_trim, ← lineTokens, tokens]
  rfl

lemma execute_trim (c : Console η) (facade : Facade) (line : String) :
    c.execute facade (Text.trim line) = c.execute facade line := by
  rw [execute, execute, Text.trim_trim]

lemma execute_of_blank {line : String} (tokens : lineTokens line = []) (c : Console η)
    (facade : Facade) : c.execute facade line = ({ c with log := c.echoed line }, false) := by
  rw [execute, echo_trim, ← lineTokens, tokens]

lemma execute_of_missing {c : Console η} {line p : String}
    (first : (lineTokens line).head? = some p) (absent : c.registry.lookup p = none)
    (facade : Facade) :
    c.execute facade line =
      ({ c with
          log     := (c.echoed line).append (commandLine (missingText p))
          history := c.history.push (Text.trim line) }, false) := by
  rw [execute_of_first first]
  exact dispatch_of_lookup_eq_none (c := c.recorded line) absent ..

lemma execute_of_run {c : Console η} {line p : String} {handler : η}
    (first : (lineTokens line).head? = some p) (present : c.registry.lookup p = some handler)
    (facade : Facade) :
    c.execute facade line =
      let outcome := Handler.invoke handler facade (lineTokens line) (c.echoed line)
      ({ c with
          registry := c.registry.put p outcome.handler (Registry.refusal?_of_lookup present)
          log      := outcome.told
          history  := c.history.push (Text.trim line) }, true) := by
  rw [execute_of_first first]
  exact dispatch_of_lookup_eq_some (c := c.recorded line) present ..

end Console

end DebugConsole
