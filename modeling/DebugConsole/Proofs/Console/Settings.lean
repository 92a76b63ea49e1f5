import DebugConsole.Proofs.Console.Operations

/-!
# Settings in force

A console keeps its configuration, and its log, its history and its registry each keep what they
need of it. The copies of the log and of the history follow every configuration that is applied;
the registry stays with the first.
-/

namespace DebugConsole

/-- Everything that a console has stored of configurations. -/
structure Settings where
  config          : Config
  logCapacity     : Nat
  autoShow        : AutoShow
  historyCapacity : Nat
  sentinel        : Option Char

/-- The settings under a configuration. -/
def Settings.under (config : Config) (sentinel : Option Char) : Settings where
  config          := config
  logCapacity     := config.logCapacity
  autoShow        := config.autoShow
  historyCapacity := config.historyCapacity
  sentinel        := sentinel

namespace Console

variable {η : Type}

def settings (c : Console η) : Settings where
  config          := c.config
  logCapacity     := c.log.lines.capacity
  autoShow        := c.log.autoShow
  historyCapacity := c.history.entries.capacity
  sentinel        := c.registry.sentinel

lemma settings_ofConfig (config : Config) :
    (ofConfig config : Console η).settings = .under config config.sentinel := rfl

lemma settings_reconfigure (c : Console η) (config : Config) :
    (c.reconfigure config).settings = .under config c.settings.sentinel := rfl

/-! ### Operations -/

/-- Two consoles agree on the settings that are stored outside of the log. -/
structure Agrees (c d : Console η) : Prop where
  config          : d.config = c.config
  historyCapacity : d.history.entries.capacity = c.history.entries.capacity
  sentinel        : d.registry.sentinel = c.registry.sentinel

/-- Executing a text enters it, and no setting is among what it enters. -/
lemma Agrees.of_ledger {c d : Console η} {texts : List String}
    (h : d.ledger = c.ledger.recordAll texts) : Agrees c d := by
  rw [Ledger.recordAll_eq] at h
  have hentries : d.history.entries = c.history.entries.pushAll _ := congrArg Ledger.entries h
  exact ⟨congrArg Ledger.config h, by rw [hentries, Bounded.capacity_pushAll],
    congrArg Ledger.sentinel h⟩

lemma Agrees.of_untouched {c d : Console η} (h : Untouched c d) : Agrees c d where
  config          := h.config
  historyCapacity := congrArg Bounded.capacity h.entries
  sentinel        := h.sentinel

lemma agrees_apply [Handler η] {op : Op η} (hconfig : op.config? = none) (c : Console η) :
    Agrees c (c.apply op) := by
  cases op with
  | execute facade line =>
    have hledger : (c.execute facade line).1.ledger = c.ledger.recordAll [Text.trim line] := by
      rw [ledger_execute, Ledger.recordAll_cons, Ledger.recordAll_nil]
    rw [apply]
    exact .of_ledger hledger
  | submit facade =>
    rw [apply]
    exact .of_ledger (ledger_submit facade c)
  | activatePreset facade index =>
    rw [apply]
    exact .of_ledger (ledger_activateAt facade c index)
  | log | logStyled | receive | clearLogs | write => exact ⟨rfl, rfl, rfl⟩
  | toggleConsole | togglePreview | toggleScreenMessages => exact ⟨rfl, rfl, rfl⟩
  | reconfigure config => cases hconfig
  | tick facade dt =>
    rw [apply, tick_eq]
    exact ⟨rfl, rfl, rfl⟩
  | _ => exact .of_untouched (untouched_apply c rfl)

/-- Applying a configuration changes the settings, and nothing else does. -/
theorem settings_apply [Handler η] [Writer η] (c : Console η) (op : Op η) :
    (c.apply op).settings
      = op.config?.elim c.settings fun config => .under config c.settings.sentinel := by
  have hsame (hconfig : op.config? = none)
      (hcapacity : (c.apply op).log.lines.capacity = c.log.lines.capacity)
      (hautoShow : (c.apply op).log.autoShow = c.log.autoShow) :
      (c.apply op).settings = c.settings := by
    obtain ⟨hc, hh, hs⟩ := agrees_apply hconfig c
    simp only [settings, hc, hh, hs, hcapacity, hautoShow]
  cases op.kind with
  | reconfigure config => exact settings_reconfigure c config
  | tick facade dt => exact hsame rfl (by rw [apply, tick_eq]; rfl) (by rw [apply, tick_eq]; rfl)
  | other hconfig htick =>
    have hlog := log_apply hconfig htick c
    rw [hconfig]
    exact hsame hconfig (by rw [hlog, Sink.capacity_writeAll])
      (by rw [hlog, Sink.autoShow_writeAll])

/-- After a run, everything is as the configuration in force has it, but for the sentinel. -/
theorem settings_applyAll [Handler η] [Writer η] (config : Config) (ops : List (Op η)) :
    ((ofConfig config : Console η).applyAll ops).settings
      = .under (configAfter config ops) config.sentinel := by
  induction ops using List.reverseRecOn with
  | nil => exact settings_ofConfig config
  | append_singleton ops op ih =>
    rw [applyAll_append_singleton, settings_apply, ih, configAfter_append_singleton]
    cases op.config? <;> rfl

lemma config_applyAll [Handler η] [Writer η] (config : Config) (ops : List (Op η)) :
    ((ofConfig config : Console η).applyAll ops).config = configAfter config ops :=
  congrArg Settings.config (settings_applyAll config ops)

/-- What is stored of the configuration is stored of the one that is in force. -/
lemma settings_under [Handler η] [Writer η] (config : Config) (ops : List (Op η)) :
    ((ofConfig config : Console η).applyAll ops).settings
      = .under ((ofConfig config : Console η).applyAll ops).config config.sentinel := by
  rw [settings_applyAll, config_applyAll]

/-! ### The contract -/

/-- What applying a configuration makes of a console. -/
structure Reconfigured (config : Config) (c d : Console η) : Prop where
  inForce       : d.config = config
  /-- The newest lines are kept, as many as there is room for. -/
  lines         : d.log.lines.items <:+ c.log.lines.items
  linesLength   : d.log.lines.items.length = min c.log.lines.items.length config.logCapacity
  entries       : d.history.entries.items <:+ c.history.entries.items
  entriesLength : d.history.entries.items.length
    = min c.history.entries.items.length config.historyCapacity
  registry      : d.registry = c.registry
  presets       : d.presets = c.presets
  input         : d.input = c.input
  helpText      : d.helpText = c.helpText
  expandedGroup : d.expandedGroup = c.expandedGroup
  view          : d.view = c.view
  screen        : d.screen = c.screen
  counts        : d.log.counts = c.log.counts
  signals       : d.log.signals = c.log.signals

lemma reconfigured (config : Config) (c : Console η) :
    Reconfigured config c (c.reconfigure config) := by
  constructor
  case lines => exact keepLast_suffix ..
  case linesLength => exact length_keepLast ..
  case entries => exact keepLast_suffix ..
  case entriesLength => exact length_keepLast ..
  all_goals rfl

/-- A console after a run of operations, under the configuration that was applied last. -/
structure Configured (config : Config) (ops : List (Op η)) (c : Console η) : Prop where
  inForce         : c.config = configAfter config ops
  logCapacity     : c.log.lines.capacity = c.config.logCapacity
  autoShow        : c.log.autoShow = c.config.autoShow
  historyCapacity : c.history.entries.capacity = c.config.historyCapacity
  lines_le        : c.log.lines.items.length ≤ c.config.logCapacity
  entries_le      : c.history.entries.items.length ≤ c.config.historyCapacity
  cursor_le       : c.history.cursor ≤ c.history.entries.items.length
  /-- The sentinel is that of the first configuration. -/
  sentinel        : c.registry.sentinel = config.sentinel
  prefixes        : ∀ p ∈ c.registry.prefixes, Admissible config.sentinel p
  enforced        : ∀ facade p handler, (∃ d, c.register facade p handler = .ok d) ↔
    Admissible config.sentinel p ∧ p ∉ c.registry.prefixes
  reconfigure     : ∀ config', Reconfigured config' c (c.reconfigure config')

theorem configured_applyAll [Handler η] [Writer η] (config : Config) (ops : List (Op η)) :
    Configured config ops ((ofConfig config : Console η).applyAll ops) := by
  set c := (ofConfig config : Console η).applyAll ops
  have hsettings : c.settings = .under c.config config.sentinel := settings_under config ops
  have hlog : c.log.lines.capacity = c.config.logCapacity :=
    congrArg Settings.logCapacity hsettings
  have hhistory : c.history.entries.capacity = c.config.historyCapacity :=
    congrArg Settings.historyCapacity hsettings
  have hsentinel : c.registry.sentinel = config.sentinel := congrArg Settings.sentinel hsettings
  constructor
  case inForce => exact config_applyAll config ops
  case logCapacity => exact hlog
  case autoShow => exact congrArg Settings.autoShow hsettings
  case historyCapacity => exact hhistory
  case lines_le => exact hlog ▸ c.log.lines.length_le
  case entries_le => exact hhistory ▸ c.history.entries.length_le
  case cursor_le => exact c.history.cursor_le
  case sentinel => exact hsentinel
  case prefixes => exact fun p hp => hsentinel ▸ c.registry.admissible hp
  case enforced =>
    intro facade p handler
    rw [← hsentinel, register_eq, ← Registry.exists_register_eq_ok_iff handler]
    cases c.registry.register p handler <;> simp [Except.map]
  case reconfigure => exact fun config' => reconfigured config' c

/-- Two lines are executed, and then there is room for one and prefixes need no sentinel. -/
def shrinkingRun : List (Op DemoCommand) :=
  [.register .silent "/echo" .echo, .execute .silent "/echo one", .execute .silent "/echo two",
    .reconfigure { logCapacity := 1, historyCapacity := 1, requireSentinel := false },
    .register .silent "sum" .sum]

def shrunkConsole : Console DemoCommand := (ofConfig {}).applyAll shrinkingRun

/-- The newest line and the newest entry are kept, and the sentinel of the first configuration is
enforced although a later one requires none. -/
theorem configured_shrunkConsole :
    Configured {} shrinkingRun shrunkConsole ∧
      shrunkConsole.log.lines.items.map LogLine.text = ["two"] ∧
      shrunkConsole.history.entries.items = ["/echo two"] ∧
      shrunkConsole.config.sentinel = none ∧ shrunkConsole.registry.prefixes = ["/echo"] :=
  ⟨configured_applyAll {} shrinkingRun, by decide +kernel⟩

end Console

end DebugConsole
