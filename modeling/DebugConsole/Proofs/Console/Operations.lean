import DebugConsole.Proofs.Console.HostRun
import DebugConsole.Proofs.Log.Writes
import DebugConsole.Proofs.Registry.Admission

/-!
# Runs of console operations

Everything that can be done to a console, as data: what its owner asks for, and what others who
hold its log write to it meanwhile. Handlers are taken to do nothing to the log but write; then
each operation comes to a list of writes, unless it is one that configures or draws the console.
-/

namespace DebugConsole

/-! ### Writing handlers -/

/-- Handlers that add texts to the log, pass events on or clear it, and do nothing else to it. What
they write may depend on their state and on all that they are given. -/
class Writer (η : Type) [Handler η] where
  writes : η → Facade → List String → Sink → List Sink.Write
  log_invoke (handler : η) (facade : Facade) (tokens : List String) (log : Sink) :
    (Handler.invoke handler facade tokens log).log
      = log.writeAll (writes handler facade tokens log)

namespace DemoCommand

lemma logAll_eq (log : Sink) (texts : List String) :
    logAll log texts = log.writeAll (texts.map .log) := by
  induction texts generalizing log with
  | nil => rfl
  | cons text texts ih => exact ih (log.log text)

def parseWrites : List String → List Sink.Write
  | []          => []
  | raw :: rest =>
      match Json.Value.ofText raw with
      | .error _ => []
      | .ok v    => (Text.lines v.pretty).map .log ++ parseWrites rest

lemma parseAll_eq (log : Sink) (args : List String) :
    (parseAll log args).1 = log.writeAll (parseWrites args) := by
  induction args generalizing log with
  | nil => rfl
  | cons raw rest ih =>
    rw [parseAll, parseWrites]
    cases Json.Value.ofText raw with
    | error e => rfl
    | ok v => simp [ih, logAll_eq]

def writes (command : DemoCommand) (facade : Facade) (args : List String) : List Sink.Write :=
  match command with
  | .echo  => [.log (" ".intercalate args)]
  | .parse => parseWrites args
  | .sum   =>
      match sumFrom 0 args with
      | .ok total => [.log (Decimal.plainText total)]
      | .error _  => []
  | .clear => [.clear]
  | .warn  => facade.writes (hostRecord .commands .warn (" ".intercalate args))
  | .fail  => []

lemma run_eq (command : DemoCommand) (facade : Facade) (args : List String) (log : Sink) :
    (command.run facade args log).1 = log.writeAll (command.writes facade args) := by
  cases command with
  | parse =>
    rw [run, writes]
    split
    case isTrue h => rw [List.isEmpty_iff.mp h]; rfl
    case isFalse => exact parseAll_eq log args
  | sum =>
    rw [run, writes]
    cases sumFrom 0 args <;> rfl
  | warn => exact facade.report_eq _ log
  | _ => rfl

instance : Writer DemoCommand where
  writes command facade tokens _ := command.writes facade tokens.tail
  log_invoke command facade tokens log := run_eq command facade tokens.tail log

end DemoCommand

namespace Console

/-! ### Operations as data -/

/-- What may be done to a console. -/
inductive Op (η : Type) where
  | register         (facade : Facade) (p : String) (handler : η)
  | unregister       (p : String)
  | clearCommands
  | execute          (facade : Facade) (line : String)
  | setInput         (text : String)
  | submit           (facade : Facade)
  | recallPrevious
  | recallNext
  | addPreset        (text name : String) (description group : Option String) (immediate : Bool)
  | removePreset     (name : String)
  | removePresetAt   (index : Nat)
  | clearPresets
  | toggleGroup      (group : String)
  | activatePreset   (facade : Facade) (index : Nat)
  | log              (text : String)
  | logStyled        (text : String) (style : TextStyle)
  | receive          (message detail : String) (severity : Severity)
  | clearLogs
  | logScreen        (text : String) (duration : Float32)
  | logScreenStyled  (text : String) (duration : Float32) (style : TextStyle)
  | reconfigure      (config : Config)
  | tick             (facade : Facade) (dt : Float32)
  | toggleConsole
  | togglePreview
  | toggleScreenMessages
  /-- Somebody else who holds the log writes to it. -/
  | write            (w : Sink.Write)

namespace Op

variable {η : Type}

/-- The configuration that an operation applies, if it does. -/
def config? : Op η → Option Config
  | .reconfigure config => some config
  | _                   => none

def isTick : Op η → Bool
  | .tick .. => true
  | _        => false

/-- An operation on the commands, the presets, the input line or the screen alone. -/
def isLocal : Op η → Bool
  | .register .. | .unregister .. | .clearCommands => true
  | .setInput .. | .recallPrevious | .recallNext => true
  | .addPreset .. | .removePreset .. | .removePresetAt .. | .clearPresets | .toggleGroup .. => true
  | .logScreen .. | .logScreenStyled .. => true
  | _ => false

/-- An operation applies a configuration, lets time pass, or does neither. -/
inductive Kind : Op η → Prop where
  | reconfigure (config : Config) : Kind (.reconfigure config)
  | tick (facade : Facade) (dt : Float32) : Kind (.tick facade dt)
  | other {op : Op η} (hconfig : op.config? = none) (htick : op.isTick = false) : Kind op

lemma kind (op : Op η) : op.Kind := by
  cases op with
  | reconfigure config => exact .reconfigure config
  | tick facade dt => exact .tick facade dt
  | _ => exact .other rfl rfl

end Op

/-- The configuration in force after a run. -/
def configAfter {η : Type} (config : Config) (ops : List (Op η)) : Config :=
  ops.foldl (fun config op => op.config?.getD config) config

@[simp] lemma configAfter_append_singleton {η : Type} (config : Config) (ops : List (Op η))
    (op : Op η) :
    configAfter config (ops ++ [op]) = op.config?.getD (configAfter config ops) := by
  simp [configAfter]

section

variable {η : Type} [Handler η]

/-- The console after an operation; one that is refused changes nothing. -/
def apply (c : Console η) : Op η → Console η
  | .register facade p handler =>
      match c.register facade p handler with
      | .ok c    => c
      | .error _ => c
  | .unregister p                        => (c.unregister p).1
  | .clearCommands                       => c.clearCommands
  | .execute facade line                 => (c.execute facade line).1
  | .setInput text                       => c.setInput text
  | .submit facade                       => (c.submit facade).1
  | .recallPrevious                      => c.recallPrevious
  | .recallNext                          => c.recallNext
  | .addPreset text name description group immediate =>
      match c.addPreset text name description group immediate with
      | .ok c    => c
      | .error _ => c
  | .removePreset name                   => (c.removePreset name).1
  | .removePresetAt index                => (c.removePresetAt index).1
  | .clearPresets                        => c.clearPresets
  | .toggleGroup group                   => c.toggleGroup group
  | .activatePreset facade index         => (c.activateAt facade index).1
  | .log text                            => c.logText text
  | .logStyled text style                => c.logStyled text style
  | .receive message detail severity     => c.receive message detail severity
  | .clearLogs                           => c.clearLogs
  | .logScreen text duration             => c.logScreen text duration
  | .logScreenStyled text duration style => c.logScreenStyled text duration style
  | .reconfigure config                  => c.reconfigure config
  | .tick facade dt                      => (c.tick facade dt).1
  | .toggleConsole                       => c.toggleConsole
  | .togglePreview                       => c.togglePreview
  | .toggleScreenMessages                => c.toggleScreenMessages
  | .write w                             => { c with log := c.log.apply w.op }

def applyAll (c : Console η) (ops : List (Op η)) : Console η := ops.foldl apply c

@[simp] lemma applyAll_append_singleton (c : Console η) (ops : List (Op η)) (op : Op η) :
    c.applyAll (ops ++ [op]) = (c.applyAll ops).apply op := by simp [applyAll]

end

/-! ### Frames

A registration reports a record of the console's own, and so does a tick that opens the console;
neither reaches the log. -/

section

variable {η : Type} (c : Console η) (facade : Facade)

lemma note_eq (level : Level) (part message : String) :
    c.note facade level part message = c := by
  rw [note, report_ownRecord]

lemma register_eq (p : String) (handler : η) :
    c.register facade p handler
      = (c.registry.register p handler).map fun registry => { c with registry } := by
  simp only [register, note_eq]

lemma tick_eq (dt : Float32) :
    c.tick facade dt =
      ({ c with
          log    := c.log.takeSignals.1
          screen := c.screen.tick dt
          view   := { c.view with console := c.view.console || c.log.signals.reveal } },
        c.log.signals) := by
  rw [tick]
  simp only [Sink.takeSignals, note_eq]
  split
  case isTrue h => simp [h.1]
  case isFalse h =>
    have hview : (c.view.console || c.log.signals.reveal) = c.view.console := by
      cases hconsole : c.view.console <;> simp_all
    rw [hview]

lemma exists_applyRecall_eq (found : History × Recall) :
    ∃ input, c.applyRecall found = { c with history := found.1, input } := by
  obtain ⟨history, _ | _ | _⟩ := found <;> exact ⟨_, rfl⟩

lemma exists_logScreenStyled_eq (text : String) (duration : Float32) (style : TextStyle) :
    ∃ screen, c.logScreenStyled text duration style = { c with screen } := by
  unfold logScreenStyled
  split <;> exact ⟨_, rfl⟩

/-- The log, the settings, the executed lines and the panels are the same. -/
structure Untouched (c d : Console η) : Prop where
  log      : d.log = c.log
  config   : d.config = c.config
  sentinel : d.registry.sentinel = c.registry.sentinel
  entries  : d.history.entries = c.history.entries
  view     : d.view = c.view

lemma untouched_applyRecall {history : History} (h : history.entries = c.history.entries)
    (found : Recall) : Untouched c (c.applyRecall (history, found)) := by
  obtain ⟨input, heq⟩ := exists_applyRecall_eq c (history, found)
  rw [heq]
  exact ⟨rfl, rfl, rfl, h, rfl⟩

lemma untouched_logScreenStyled (text : String) (duration : Float32) (style : TextStyle) :
    Untouched c (c.logScreenStyled text duration style) := by
  obtain ⟨screen, heq⟩ := exists_logScreenStyled_eq c text duration style
  rw [heq]
  exact ⟨rfl, rfl, rfl, rfl, rfl⟩

lemma untouched_apply [Handler η] {op : Op η} (hlocal : op.isLocal = true) :
    Untouched c (c.apply op) := by
  cases op with
  | register facade p handler =>
    rw [apply, register_eq]
    cases h : c.registry.register p handler with
    | error e => exact ⟨rfl, rfl, rfl, rfl, rfl⟩
    | ok r => exact ⟨rfl, rfl, Registry.sentinel_of_register h, rfl, rfl⟩
  | addPreset text name description group immediate =>
    rw [apply, addPreset]
    cases c.presets.add text name description group immediate <;> exact ⟨rfl, rfl, rfl, rfl, rfl⟩
  | recallPrevious => exact untouched_applyRecall c c.history.entries_stepBack _
  | recallNext => exact untouched_applyRecall c c.history.entries_stepForward _
  | logScreen text duration => exact untouched_logScreenStyled c text duration c.config.screenStyle
  | logScreenStyled text duration style => exact untouched_logScreenStyled c text duration style
  | unregister | clearCommands | setInput | removePreset | removePresetAt | clearPresets
  | toggleGroup => exact ⟨rfl, rfl, rfl, rfl, rfl⟩
  | _ => cases hlocal

end

/-! ### Writes of an operation -/

variable {η : Type}

/-- What echoing a line writes. -/
def echoWrites (c : Console η) (line : String) : List Sink.Write :=
  if c.config.echoCommands then [.logStyled (">" ++ Text.trim line) .command] else []

lemma echoed_eq (c : Console η) (line : String) :
    c.echoed line = c.log.writeAll (c.echoWrites line) := by
  rw [echoed, echoWrites, ← logStyled_command (isBlankText_echo line)]
  split <;> simp [Sink.Write.op, Sink.apply]

variable [Handler η] [Writer η]

/-- What running a command writes, its failure last. -/
def runWrites (handler : η) (facade : Facade) (tokens : List String) (log : Sink) :
    List Sink.Write :=
  Writer.writes handler facade tokens log ++
    match (Handler.invoke handler facade tokens log).failure with
    | none         => []
    | some failure => [.receive failure.message "" .exception]

/-- What executing a line writes. -/
def executeWrites (c : Console η) (facade : Facade) (line : String) : List Sink.Write :=
  c.echoWrites line ++
    match (lineTokens line).head? with
    | none   => []
    | some p =>
        match c.registry.lookup p with
        | none         => [.logStyled (missingText p) .command]
        | some handler => runWrites handler facade (lineTokens line) (c.echoed line)

/-- What an operation writes to the log. -/
def writes (c : Console η) : Op η → List Sink.Write
  | .execute facade line             => c.executeWrites facade line
  | .submit facade                   => c.executeWrites facade c.input
  | .activatePreset facade index =>
      (c.presets.immediateText? index).elim [] (c.executeWrites facade)
  | .log text                        => [.log text]
  | .logStyled text style            => [.logStyled text style]
  | .receive message detail severity => [.receive message detail severity]
  | .clearLogs                       => [.clear]
  | .write w                         => [w]
  | _                                => []

lemma told_eq (handler : η) (facade : Facade) (tokens : List String) (log : Sink) :
    (Handler.invoke handler facade tokens log).told
      = log.writeAll (runWrites handler facade tokens log) := by
  rw [Outcome.told, runWrites, Sink.writeAll_append, ← Writer.log_invoke]
  cases (Handler.invoke handler facade tokens log).failure <;> rfl

lemma log_execute (c : Console η) (facade : Facade) (line : String) :
    (c.execute facade line).1.log = c.log.writeAll (c.executeWrites facade line) := by
  rw [executeWrites, Sink.writeAll_append, ← echoed_eq]
  cases c.course line with
  | blank tokens =>
    rw [execute_of_blank tokens, tokens]
    rfl
  | missing p first absent =>
    simp only [execute_of_missing first absent, first, absent,
      ← logStyled_command (isBlankText_missingText p)]
    rfl
  | run p handler first present =>
    simp only [execute_of_run first present, first, present, told_eq]

lemma log_activateAt (c : Console η) (facade : Facade) (index : Nat) :
    (c.activateAt facade index).1.log
      = c.log.writeAll ((c.presets.immediateText? index).elim [] (c.executeWrites facade)) := by
  cases c.presets.choice index with
  | missing absent =>
    rw [activateAt_of_none facade absent, Catalog.immediateText?_of_none absent]
    rfl
  | immediate e found immediate =>
    rw [activateAt_of_immediate facade found immediate,
      Catalog.immediateText?_of_immediate found immediate, Option.elim_some, ← log_execute]
  | filled e found filled =>
    rw [activateAt_of_filled facade found filled, Catalog.immediateText?_of_filled found filled]
    rfl

/-- All that an operation does to the log is to write to it, unless it configures the console or
lets time pass. -/
theorem log_apply {op : Op η} (hconfig : op.config? = none) (htick : op.isTick = false)
    (c : Console η) : (c.apply op).log = c.log.writeAll (c.writes op) := by
  cases op with
  | execute facade line => rw [apply, writes, log_execute]
  | submit facade =>
    simp only [apply, writes, submit, setInput, log_execute, executeWrites, echoWrites, echoed]
  | activatePreset facade index => rw [apply, writes, log_activateAt]
  | log | logStyled | receive | clearLogs | write => rfl
  | toggleConsole | togglePreview | toggleScreenMessages => rfl
  | reconfigure config => cases hconfig
  | tick facade dt => cases htick
  | _ => exact (untouched_apply c rfl).log

end Console

end DebugConsole
