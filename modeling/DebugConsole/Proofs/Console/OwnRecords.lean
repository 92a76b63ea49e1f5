import DebugConsole.Proofs.Console.Operations

/-!
# Own records

A console reports what it does with its commands: that one is registered, executed or has failed,
and that an event has opened the console. No logger passes such a record on to the log. As long as
handlers report nothing themselves, a console goes through the same states wherever records go.
-/

namespace DebugConsole

variable {η : Type}

/-! ### Quiet handlers -/

/-- Handlers that report no records, so where records go makes no difference to them. -/
def Handler.Quiet (η : Type) [Handler η] : Prop :=
  ∀ (handler : η) (facade facade' : Facade) (tokens : List String) (log : Sink),
    Handler.invoke handler facade tokens log = Handler.invoke handler facade' tokens log

/-- A handler whose records are dropped. -/
structure Muted (η : Type) where
  handler : η

instance [Handler η] : Handler (Muted η) where
  invoke m _ tokens log := (Handler.invoke m.handler .silent tokens log).map Muted.mk

lemma Muted.quiet [Handler η] : Handler.Quiet (Muted η) := fun _ _ _ _ _ => rfl

namespace Console

/-! ### Where records go -/

/-- The same operation, with the records about it going to a facade. -/
def Op.reportedTo (facade : Facade) : Op η → Op η
  | .register _ p handler   => .register facade p handler
  | .execute _ line         => .execute facade line
  | .submit _               => .submit facade
  | .activatePreset _ index => .activatePreset facade index
  | .tick _ dt              => .tick facade dt
  | op                      => op

variable [Handler η]

section

variable (hquiet : Handler.Quiet η) (facade facade' : Facade)
include hquiet

lemma execute_facade (c : Console η) (line : String) :
    c.execute facade line = c.execute facade' line := by
  cases c.course line with
  | blank tokens => rw [execute_of_blank tokens, execute_of_blank tokens]
  | missing p first absent => rw [execute_of_missing first absent, execute_of_missing first absent]
  | run p handler first present =>
    have hinvoke := hquiet handler facade facade' (lineTokens line) (c.echoed line)
    simp only [execute_of_run first present, hinvoke]

lemma submit_facade (c : Console η) : c.submit facade = c.submit facade' :=
  execute_facade hquiet facade facade' (c.setInput "") c.input

lemma activateAt_facade (c : Console η) (index : Nat) :
    c.activateAt facade index = c.activateAt facade' index := by
  cases c.presets.choice index with
  | missing absent => rw [activateAt_of_none facade absent, activateAt_of_none facade' absent]
  | immediate e found immediate =>
    rw [activateAt_of_immediate facade found immediate,
      activateAt_of_immediate facade' found immediate, execute_facade hquiet facade facade']
  | filled e found filled =>
    rw [activateAt_of_filled facade found filled, activateAt_of_filled facade' found filled]

omit [Handler η] hquiet in
lemma register_facade (c : Console η) (p : String) (handler : η) :
    c.register facade p handler = c.register facade' p handler := by
  rw [register_eq, register_eq]

omit [Handler η] hquiet in
lemma tick_facade (c : Console η) (dt : Float32) : c.tick facade dt = c.tick facade' dt := by
  rw [tick_eq, tick_eq]

/-- An operation leaves the same console behind wherever the records about it go. -/
lemma apply_reportedTo (c : Console η) (op : Op η) :
    c.apply (op.reportedTo facade) = c.apply op := by
  cases op with
  | register facade' p handler =>
    simp only [Op.reportedTo, apply, register_facade facade facade']
  | execute facade' line =>
    simp only [Op.reportedTo, apply, execute_facade hquiet facade facade']
  | submit facade' =>
    simp only [Op.reportedTo, apply, submit_facade hquiet facade facade']
  | activatePreset facade' index =>
    simp only [Op.reportedTo, apply, activateAt_facade hquiet facade facade']
  | tick facade' dt =>
    simp only [Op.reportedTo, apply, tick_facade facade facade']
  | _ => rfl

theorem applyAll_reportedTo (c : Console η) (ops : List (Op η)) :
    c.applyAll (ops.map (Op.reportedTo facade)) = c.applyAll ops := by
  induction ops using List.reverseRecOn with
  | nil => rfl
  | append_singleton ops op ih =>
    rw [List.map_append, List.map_singleton, applyAll_append_singleton, applyAll_append_singleton,
      ih, apply_reportedTo hquiet]

end

/-! ### Failures -/

/-- What the failure of a command adds to what the command itself has written. -/
lemma log_execute_of_failure {c : Console η} {facade : Facade} {line p : String} {handler : η}
    {failure : ConsoleError} (first : (lineTokens line).head? = some p)
    (present : c.registry.lookup p = some handler)
    (failed : (Handler.invoke handler facade (lineTokens line) (c.echoed line)).failure
      = some failure) :
    (c.execute facade line).1.log =
      (Handler.invoke handler facade (lineTokens line) (c.echoed line)).log.receive
        failure.message "" .exception := by
  simp only [execute_of_run first present, Outcome.told, failed]

/-! ### The contract -/

/-- A run of operations goes the same way wherever the console's own records go. -/
structure Unheard (facade : Facade) (ops : List (Op η)) (c : Console η) : Prop where
  /-- The console ends in the same state as without a logger. -/
  state    : c.applyAll (ops.map (.reportedTo facade)) = c.applyAll (ops.map (.reportedTo .silent))
  /-- Records of the console's own never reach a log. -/
  own      : ∀ level part message s, facade.report (ownRecord level part message) s = s
  register : ∀ p handler, (c.applyAll ops).register facade p handler
    = (c.applyAll ops).register .silent p handler
  execute  : ∀ line, (c.applyAll ops).execute facade line = (c.applyAll ops).execute .silent line
  submit   : (c.applyAll ops).submit facade = (c.applyAll ops).submit .silent
  activate : ∀ index, (c.applyAll ops).activateAt facade index
    = (c.applyAll ops).activateAt .silent index
  tick     : ∀ dt, (c.applyAll ops).tick facade dt = (c.applyAll ops).tick .silent dt
  /-- A command that fails adds one line and one exception to what it has written itself. -/
  failure  : ∀ line p handler error, (lineTokens line).head? = some p →
    (c.applyAll ops).registry.lookup p = some handler →
    let written := Handler.invoke handler facade (lineTokens line) ((c.applyAll ops).echoed line)
    written.failure = some error →
      let log := ((c.applyAll ops).execute facade line).1.log
      log.lines = written.log.lines.push (Sink.eventLine error.message "" .exception) ∧
        ∀ severity, log.counts.get severity =
          if severity = .exception then Counts.saturate (written.log.counts.get severity)
          else written.log.counts.get severity

/-- Quiet handlers leave no way for a record to come back, whatever logger is installed. -/
theorem unheard_of_quiet (hquiet : Handler.Quiet η) (facade : Facade) (ops : List (Op η))
    (c : Console η) : c.Unheard facade ops := by
  constructor
  case state => rw [applyAll_reportedTo hquiet, applyAll_reportedTo hquiet]
  case own => exact report_ownRecord facade
  case register => exact register_facade facade .silent (c.applyAll ops)
  case execute => exact execute_facade hquiet facade .silent (c.applyAll ops)
  case submit => exact submit_facade hquiet facade .silent (c.applyAll ops)
  case activate => exact activateAt_facade hquiet facade .silent (c.applyAll ops)
  case tick => exact tick_facade facade .silent (c.applyAll ops)
  case failure =>
    intro line p handler error first present written failed
    have hlog := log_execute_of_failure first present failed
    have haccepted : Sink.accepts error.message .exception = true := rfl
    rw [hlog, Sink.receive, if_pos haccepted]
    refine ⟨rfl, fun severity => ?_⟩
    exact Counts.get_bump written.log.counts .exception severity

/-- A command that is registered, fails and so opens the console. -/
def failingRun : List (Op (Muted DemoCommand)) :=
  [.register .silent "/fail" ⟨.fail⟩, .execute .silent "/fail", .tick .silent 0]

/-- The most talkative logger adds nothing to the one line that tells of the failure. -/
theorem unheard_failingRun :
    Handler.Quiet (Muted DemoCommand) ∧
      (ofConfig { autoShowException := true }).Unheard (.upTo (.upTo .trace)) failingRun ∧
      (((ofConfig { autoShowException := true }).applyAll
        (failingRun.map (.reportedTo (.upTo (.upTo .trace))))).log.lines.items.map LogLine.text
          = ["Exception: requested failure"]) :=
  ⟨Muted.quiet, unheard_of_quiet Muted.quiet _ failingRun _, by rfl⟩

end Console

end DebugConsole
