import DebugConsole.Proofs.Console.Settings

/-!
# Signals and panels

A tick reports what was asked for since the tick before it. What is asked for waits in the log and
stays asked for, whatever becomes of the lines, the settings and the panels in the meantime.
-/

namespace DebugConsole.Console

variable {η : Type} [Handler η] [Writer η]

/-! ### Requests -/

/-- An operation has an event written that opens the console under the configuration in force. -/
def Reveals (c : Console η) (op : Op η) : Prop :=
  ∃ message detail severity, .receive message detail severity ∈ c.writes op ∧
    c.config.autoShow.appliesTo severity = true

/-- An operation has a line added to the log. -/
def Appends (c : Console η) (op : Op η) : Prop := ∃ w ∈ c.writes op, w.appends = true

/-- An operation of a run on a new console has asked for something, and no tick has followed. -/
def SinceTick (config : Config) (asks : Console η → Op η → Prop) (ops : List (Op η)) : Prop :=
  HappenedSince (·.isTick = true) (fun before op => asks ((ofConfig config).applyAll before) op) ops

lemma any_reveals_iff {c : Console η} {op : Op η} :
    (c.writes op).any (Sink.Write.reveals c.config.autoShow) = true ↔ c.Reveals op := by
  simp only [List.any_eq_true, Sink.Write.reveals_iff, Reveals]
  constructor
  · rintro ⟨w, hw, message, detail, severity, rfl, happlies⟩
    exact ⟨message, detail, severity, hw, happlies⟩
  · rintro ⟨message, detail, severity, hw, happlies⟩
    exact ⟨_, hw, message, detail, severity, rfl, happlies⟩

lemma writes_of_isTick {op : Op η} (htick : op.isTick = true) (c : Console η) :
    c.writes op = [] := by
  cases op <;> simp_all only [writes, Op.isTick, Bool.false_eq_true]

/-- A tick takes all requests; anything else adds to them what it writes. -/
lemma signals_apply (c : Console η) (op : Op η) :
    (c.apply op).log.signals =
      if op.isTick then {} else
        { scroll := c.log.signals.scroll || (c.writes op).any Sink.Write.appends
          reveal := c.log.signals.reveal ||
            (c.writes op).any (Sink.Write.reveals c.log.autoShow) } := by
  cases op.kind with
  | reconfigure config =>
    have hwrites : c.writes (.reconfigure config) = [] := by simp only [writes]
    simp only [hwrites, List.any_nil, Bool.or_false]
    rfl
  | tick facade dt =>
    rw [apply, tick_eq]
    rfl
  | other hconfig htick => rw [log_apply hconfig htick, Sink.signals_writeAll, htick]; rfl

lemma scroll_apply (c : Console η) (op : Op η) :
    (c.apply op).log.signals.scroll = true ↔
      c.Appends op ∨ (¬ op.isTick = true ∧ c.log.signals.scroll = true) := by
  rw [signals_apply, Appends, ← List.any_eq_true]
  by_cases htick : op.isTick = true
  · simp [htick, writes_of_isTick htick]
  · simp [htick, or_comm]

/-- The setting of the log decides on a request, and it is that of the configuration in force. -/
lemma reveal_apply {c : Console η} (hsetting : c.log.autoShow = c.config.autoShow) (op : Op η) :
    (c.apply op).log.signals.reveal = true ↔
      c.Reveals op ∨ (¬ op.isTick = true ∧ c.log.signals.reveal = true) := by
  rw [signals_apply, hsetting, ← any_reveals_iff]
  by_cases htick : op.isTick = true
  · simp [htick, writes_of_isTick htick]
  · simp [htick, or_comm]

omit [Writer η] in
/-- A request that only a tick withdraws stands after a run if it was made since the last. -/
lemma pending_applyAll {config : Config} {asks : Console η → Op η → Prop}
    (pending : Console η → Prop) (hnew : ¬ pending (ofConfig config))
    (hstep : ∀ ops op, pending (((ofConfig config).applyAll ops).apply op) ↔
      asks ((ofConfig config).applyAll ops) op ∨
        (¬ op.isTick = true ∧ pending ((ofConfig config).applyAll ops)))
    (ops : List (Op η)) :
    pending ((ofConfig config).applyAll ops) ↔ SinceTick config asks ops := by
  induction ops using List.reverseRecOn with
  | nil => exact iff_of_false hnew not_happenedSince_nil
  | append_singleton ops op ih =>
    rw [applyAll_append_singleton, hstep, ih]
    simp only [SinceTick, happenedSince_append_singleton]

theorem scroll_applyAll (config : Config) (ops : List (Op η)) :
    ((ofConfig config).applyAll ops).log.signals.scroll = true ↔
      SinceTick config Appends ops := by
  refine pending_applyAll (·.log.signals.scroll = true) ?_ (fun ops op => scroll_apply _ op) ops
  simp [ofConfig, Sink.empty]

theorem reveal_applyAll (config : Config) (ops : List (Op η)) :
    ((ofConfig config).applyAll ops).log.signals.reveal = true ↔
      SinceTick config Reveals ops := by
  refine pending_applyAll (·.log.signals.reveal = true) ?_ (fun ops op => ?_) ops
  · simp [ofConfig, Sink.empty]
  · have hsetting := congrArg Settings.autoShow (settings_under config ops)
    exact reveal_apply hsetting op

/-! ### Panels -/

/-- The panels after an operation. -/
def turned (c : Console η) : Op η → View
  | .toggleConsole        => { c.view with console := !c.view.console }
  | .togglePreview        => { c.view with preview := !c.view.preview }
  | .toggleScreenMessages => { c.view with screenMessages := !c.view.screenMessages }
  | .tick facade dt       =>
      { c.view with console := c.view.console || (c.tick facade dt).2.reveal }
  | _                     => c.view

section

omit [Writer η]

lemma view_execute (c : Console η) (facade : Facade) (line : String) :
    (c.execute facade line).1.view = c.view := by
  obtain ⟨-, others⟩ := frame_execute facade line c
  rw [others]

lemma view_activateAt (c : Console η) (facade : Facade) (index : Nat) :
    (c.activateAt facade index).1.view = c.view := by
  cases c.presets.choice index with
  | missing absent => rw [activateAt_of_none facade absent]
  | immediate e found immediate =>
    rw [activateAt_of_immediate facade found immediate, ← view_execute c facade e.text]
  | filled e found filled => rw [activateAt_of_filled facade found filled]

/-- The console opens at a tick that reports a request for it, and turns at its own toggle. -/
theorem view_apply (c : Console η) (op : Op η) :
    (c.apply op).view = c.turned op := by
  cases op with
  | execute facade line => rw [apply, view_execute]; rfl
  | submit facade => rw [apply, submit, view_execute]; rfl
  | activatePreset facade index => rw [apply, view_activateAt]; rfl
  | log | logStyled | receive | clearLogs | write | reconfigure => rfl
  | toggleConsole | togglePreview | toggleScreenMessages => rfl
  | tick facade dt => rw [apply, turned, tick_eq]
  | _ => exact (untouched_apply c rfl).view

end

/-! ### The contract -/

/-- What the ticks of a run report, and what shows and hides its panels. -/
structure Signalling (config : Config) (ops : List (Op η)) (c : Console η) : Prop where
  /-- What an operation writes is all that it does to the log, unless it configures or ticks. -/
  written : ∀ op : Op η, op.config? = none → op.isTick = false →
    (c.apply op).log = c.log.writeAll (c.writes op)
  reveal  : ∀ facade dt, (c.tick facade dt).2.reveal = true ↔ SinceTick config Reveals ops
  scroll  : ∀ facade dt, (c.tick facade dt).2.scroll = true ↔ SinceTick config Appends ops
  /-- A tick right after another has nothing to report. -/
  silent  : ∀ facade dt facade' dt', ((c.tick facade dt).1.tick facade' dt').2 = {}
  view    : ∀ op, (c.apply op).view = c.turned op

theorem signalling_applyAll (config : Config) (ops : List (Op η)) :
    Signalling config ops ((ofConfig config).applyAll ops) := by
  constructor
  case written => exact fun op hconfig htick => log_apply hconfig htick _
  case reveal =>
    intro facade dt
    rw [tick_eq]
    exact reveal_applyAll config ops
  case scroll =>
    intro facade dt
    rw [tick_eq]
    exact scroll_applyAll config ops
  case silent =>
    intro facade dt facade' dt'
    rw [tick_eq, tick_eq]
    rfl
  case view => exact view_apply _

/-- A command warns, and then the log is cleared and warnings open the console no more. -/
def warnedRun : List (Op DemoCommand) :=
  [.register .silent "/warn" .warn, .execute (.upTo (.upTo .warn)) "/warn low memory", .clearLogs,
    .reconfigure {}]

def warnedConsole : Console DemoCommand :=
  (ofConfig { autoShowWarning := true }).applyAll warnedRun

/-- Neither clearing the log nor another configuration withdraws a request. -/
theorem signalling_warnedConsole :
    Signalling { autoShowWarning := true } warnedRun warnedConsole ∧
      SinceTick { autoShowWarning := true } Reveals warnedRun ∧
      warnedConsole.log.lines.items = [] ∧ warnedConsole.config.autoShowWarning = false ∧
      (warnedConsole.tick .silent 0).1.view.console = true := by
  have signalling : Signalling { autoShowWarning := true } warnedRun warnedConsole :=
    signalling_applyAll { autoShowWarning := true } warnedRun
  have requested : (warnedConsole.tick .silent 0).2.reveal = true := by rfl
  exact ⟨signalling, (signalling.reveal .silent 0).mp requested, by rfl, by rfl, by rfl⟩

end DebugConsole.Console
