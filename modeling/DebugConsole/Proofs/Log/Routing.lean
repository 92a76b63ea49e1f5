import DebugConsole.Proofs.Log.Writes

/-!
# Routing of records

A logger has two sides, the console's log and a second logger, and each of them chooses its records
by a filter of its own. Whether a record is wanted at all, and which records are suppressed before
they are made, is told by both filters together, so that no side misses a record for the sake of
the other.
-/

namespace DebugConsole

/-! ### Records as events -/

namespace Record

/-- The event that a record is for a log. -/
def event (r : Record) : Sink.Op := .receive r.message "" r.level.severity

/-- The line that a log shows of a record. A warning or an error has its tag and is shown even if
its message is blank; of all others only those with a message are shown. -/
def line? (r : Record) : Option LogLine :=
  match r.level with
  | .error =>
      some { text := "Error: " ++ r.message, severity := .error, style := .ofSeverity .error }
  | .warn  =>
      some { text := "Warning: " ++ r.message, severity := .warning, style := .ofSeverity .warning }
  | .info | .debug | .trace =>
      if Text.isBlankText r.message then none
      else some { text := r.message, severity := .verbose, style := .plain }

lemma line?_event (r : Record) : r.event.line? = r.line? := by
  obtain ⟨⟨level, target⟩, message⟩ := r
  cases level with
  | error | warn =>
    simp [event, line?, Sink.Op.line?, Sink.accepts, Sink.eventLine, Level.severity, Severity.tag]
  | info | debug | trace =>
    cases h : Text.isBlankText message <;>
      simp [event, line?, Sink.Op.line?, Sink.accepts, Sink.eventLine, Level.severity, Severity.tag,
        TextStyle.ofSeverity, h]

/-- An event is counted if and only if it is shown. -/
lemma event?_event (r : Record) : r.event.event? = r.line?.map LogLine.severity := by
  rw [← line?_event, event, Sink.Op.event?, Sink.Op.line?]
  split <;> rfl

lemma lines_apply_event (r : Record) (s : Sink) :
    (s.apply r.event).lines = r.line?.elim s.lines s.lines.push := by
  rw [Sink.apply_eq, ← line?_event]
  rfl

lemma counts_apply_event (r : Record) (s : Sink) :
    (s.apply r.event).counts = r.line?.elim s.counts fun line => s.counts.bump line.severity := by
  rw [Sink.apply_eq, if_neg (by simp [event]), event?_event]
  cases r.line? <;> rfl

lemma lines_applyAll_event (rs : List Record) (s : Sink) :
    (s.applyAll (rs.map event)).lines = s.lines.pushAll (rs.filterMap line?) := by
  induction rs generalizing s with
  | nil => rfl
  | cons r rs ih =>
    rw [List.map_cons, Sink.applyAll_cons, ih, lines_apply_event]
    cases h : r.line? <;> simp [h]

lemma counts_applyAll_event (rs : List Record) (s : Sink) :
    (s.applyAll (rs.map event)).counts =
      (rs.filterMap line?).foldl (fun counts line => counts.bump line.severity) s.counts := by
  induction rs generalizing s with
  | nil => rfl
  | cons r rs ih =>
    rw [List.map_cons, Sink.applyAll_cons, ih, counts_apply_event]
    cases h : r.line? <;> simp [h]

end Record

namespace Logger

/-! ### Both sides of a logger -/

/-- What a logger does with a record. -/
inductive Call where
  /-- Hand it to the second logger. -/
  | hand (r : Record)
  /-- Pass it to the log as an event. -/
  | pass (event : Sink.Op)
deriving DecidableEq, Repr

/-- What the second logger has been given, the first delivery first, and the log. -/
structure Sides where
  given : List Delivery
  sink  : Sink

/-- Both sides after a call. -/
def Sides.take (s : Sides) : Call → Sides
  | .hand r     => { s with given := s.given ++ [.record r] }
  | .pass event => { s with sink := s.sink.apply event }

/-- The calls that a logger makes for a record, the second logger being called first. -/
def calls (l : Logger) (r : Record) : List Call :=
  (if l.hands r.toMetadata then [.hand r] else [])
    ++ if l.forwards r.toMetadata then [.pass r.event] else []

/-- Both sides after a record. -/
def log (l : Logger) (s : Sides) (r : Record) : Sides where
  given := s.given ++ l.deliveries r
  sink  := l.copy r s.sink

/-- Both sides after some records. -/
def logAll (l : Logger) (s : Sides) (rs : List Record) : Sides := rs.foldl l.log s

variable {l : Logger} {m : Metadata} {r : Record} {s : Sides}

@[simp] lemma logAll_nil (l : Logger) (s : Sides) : l.logAll s [] = s := rfl

@[simp] lemma logAll_cons (l : Logger) (s : Sides) (r : Record) (rs : List Record) :
    l.logAll s (r :: rs) = l.logAll (l.log s r) rs := rfl

lemma log_eq (l : Logger) (s : Sides) (r : Record) :
    l.log s r = (l.calls r).foldl Sides.take s := by
  unfold log calls deliveries copy
  cases l.hands r.toMetadata <;> cases l.forwards r.toMetadata <;>
    simp [Sides.take, Record.event, Sink.apply]

/-! ### The two filters -/

/-- A record is copied into the log if its level is let through and its target does not start with
that of the console. -/
def Copies (l : Logger) (r : Record) : Prop :=
  l.level.admits r.level = true ∧ ¬ consoleTarget.toList <+: r.target.toList

instance : DecidablePred l.Copies := fun _ => inferInstanceAs (Decidable (_ ∧ _))

lemma forwards_iff : l.forwards r.toMetadata = true ↔ l.Copies r := by
  rw [forwards, Copies, isOwn, Bool.and_eq_true, Bool.not_eq_true', ← Bool.not_eq_true,
    List.isPrefixOf_iff_prefix]

/-- The records that the log is passed are those copied, in their order. -/
lemma sink_logAll (l : Logger) (s : Sides) (rs : List Record) :
    (l.logAll s rs).sink = s.sink.applyAll ((rs.filter l.Copies).map Record.event) := by
  induction rs generalizing s with
  | nil => rfl
  | cons r rs ih =>
    rw [logAll_cons, ih, log, copy]
    by_cases h : l.Copies r
    · rw [if_pos (forwards_iff.mpr h), List.filter_cons_of_pos (by simpa using h)]
      rfl
    · rw [if_neg (mt forwards_iff.mp h), List.filter_cons_of_neg (by simpa using h)]

/-- The records that the second logger is given are those it takes, in their order. -/
lemma given_logAll (l : Logger) (s : Sides) (rs : List Record) :
    (l.logAll s rs).given = s.given ++ (rs.filter fun r => l.hands r.toMetadata).map .record := by
  induction rs generalizing s with
  | nil => rw [logAll_nil, List.filter_nil, List.map_nil, List.append_nil]
  | cons r rs ih =>
    rw [logAll_cons, ih, log, deliveries, List.append_assoc]
    cases h : l.hands r.toMetadata <;> simp [h]

/-! ### Wanted records -/

lemma calls_ne_nil_iff : l.calls r ≠ [] ↔ l.enabled r.toMetadata = true := by
  unfold calls enabled
  cases l.hands r.toMetadata <;> cases l.forwards r.toMetadata <;> simp

lemma log_of_not_enabled (h : l.enabled r.toMetadata = false) (s : Sides) : l.log s r = s := by
  have hcalls : l.calls r = [] := by
    by_contra hne
    exact Bool.false_ne_true (h.symm.trans (calls_ne_nil_iff.mp hne))
  rw [log_eq, hcalls, List.foldl_nil]

/-- A record with a message that one of the sides wants makes a difference to that side. -/
lemma log_ne_of_enabled (h : l.enabled r.toMetadata = true) (hmessage : r.message = "message") :
    l.log ⟨[], .empty 0 {}⟩ r ≠ ⟨[], .empty 0 {}⟩ := by
  intro hsame
  rw [enabled, Bool.or_eq_true] at h
  obtain ⟨hgiven, hsink⟩ := Sides.mk.inj hsame
  rcases h with h | h
  · have hscroll : (l.copy r (.empty 0 {})).signals.scroll = true := by
      have haccepts : Sink.accepts "message" r.level.severity = true := by
        cases r.level.severity <;> decide
      rw [copy, if_pos h, Sink.receive, hmessage, if_pos haccepts]
      rfl
    rw [hsink] at hscroll
    contradiction
  · rw [deliveries, if_pos h] at hgiven
    contradiction

lemma enabled_iff_exists_log_ne :
    l.enabled m = true ↔ ∃ r s, r.toMetadata = m ∧ l.log s r ≠ s := by
  constructor
  · intro h
    exact ⟨{ m with message := "message" }, _, rfl, log_ne_of_enabled h rfl⟩
  · rintro ⟨r, s, rfl, hlog⟩
    by_contra h
    exact hlog (log_of_not_enabled (by simpa using h) s)

/-! ### Suppressed records -/

/-- The second logger takes no record above the level it is announced with. -/
def Honest (l : Logger) : Prop :=
  ∀ inner ∈ l.inner, ∀ m, inner.enabled m = true → inner.level.admits m.level = true

lemma admits_max_iff {f g : LevelFilter} {level : Level} :
    (f.max g).admits level = true ↔ f.admits level = true ∨ g.admits level = true := by
  simp only [LevelFilter.admits, LevelFilter.rank_max, decide_eq_true_eq, Nat.max_def]
  split <;> omega

/-- What is suppressed for both sides is wanted by none. -/
lemma Honest.admits_of_enabled (h : l.Honest) (henabled : l.enabled m = true) :
    l.maxLevel.admits m.level = true := by
  rw [enabled, Bool.or_eq_true, forwards, Bool.and_eq_true, hands, Option.any_eq_true] at henabled
  rw [maxLevel]
  cases hinner : l.inner with
  | none =>
    rw [hinner] at henabled
    exact (henabled.resolve_right (by simp)).1
  | some inner =>
    rw [admits_max_iff]
    rcases henabled with ⟨hlevel, -⟩ | ⟨inner', hinner', htakes⟩
    · exact .inl hlevel
    · obtain rfl : inner = inner' := Option.some.inj (hinner.symm.trans hinner')
      exact .inr (h inner hinner m htakes)

lemma Honest.log_of_not_admits (h : l.Honest) (hlevel : ¬ l.maxLevel.admits r.level = true)
    (s : Sides) : l.log s r = s := by
  refine log_of_not_enabled ?_ s
  by_contra henabled
  exact hlevel (h.admits_of_enabled (by simpa using henabled))

lemma Honest.logAll_filter (h : l.Honest) (s : Sides) (rs : List Record) :
    l.logAll s (rs.filter fun r => l.maxLevel.admits r.level) = l.logAll s rs := by
  rw [logAll, List.foldl_filter, logAll]
  congr 1
  funext s r
  split
  · rfl
  · next hlevel => rw [h.log_of_not_admits hlevel]

/-! ### The whole route -/

/-- Where a logger brings some records, its two sides being what they are before. -/
structure Routes (l : Logger) (s : Sides) (rs : List Record) : Prop where
  /-- The second logger is given the records it takes, in their order. -/
  given      : ∀ inner, l.inner = some inner → (l.logAll s rs).given
    = s.given ++ (rs.filter fun r => inner.enabled r.toMetadata).map .record
  unshared   : l.inner = none → (l.logAll s rs).given = s.given
  /-- The level of the console and its log have no part in that. -/
  givenApart : ∀ level sink,
    ({ l with level }.logAll { s with sink } rs).given = (l.logAll s rs).given
  /-- The log receives the records that are copied, in their order, each as one event. -/
  sink       : (l.logAll s rs).sink = s.sink.applyAll ((rs.filter l.Copies).map Record.event)
  /-- The second logger has no part in that. -/
  sinkApart  : ∀ inner given,
    ({ l with inner }.logAll { s with given } rs).sink = (l.logAll s rs).sink
  /-- Events of warnings and errors are shown, and all others that are not blank. -/
  lines      : (l.logAll s rs).sink.lines
    = s.sink.lines.pushAll ((rs.filter l.Copies).filterMap Record.line?)
  /-- Those that are shown are counted under their severities. -/
  counts     : (l.logAll s rs).sink.counts
    = ((rs.filter l.Copies).filterMap Record.line?).foldl
        (fun counts line => counts.bump line.severity) s.sink.counts
  /-- A record is wanted if and only if one of the two sides is called for it. -/
  called     : ∀ r, l.enabled r.toMetadata = true ↔ l.calls r ≠ []
  /-- Both sides are what the calls make of them. -/
  taken      : ∀ s r, l.log s r = (l.calls r).foldl Sides.take s
  /-- Records are wanted if and only if one like them can make a difference. -/
  wanted     : ∀ m, l.enabled m = true ↔ ∃ r s, r.toMetadata = m ∧ l.log s r ≠ s
  /-- Neither side misses anything if what is above the maximum level is suppressed. -/
  suppressed : l.logAll s (rs.filter fun r => l.maxLevel.admits r.level) = l.logAll s rs
  /-- The log facade suppresses it. -/
  reported   : ∀ r sink, Facade.report { logger := some l } r sink = l.copy r sink

/-- Whatever the levels, the second logger and the records are, no record goes astray. -/
theorem routes_of_honest (l : Logger) (honest : l.Honest) (s : Sides) (rs : List Record) :
    l.Routes s rs := by
  constructor
  case given =>
    intro inner hinner
    rw [given_logAll]
    simp only [hands, hinner, Option.any_some]
  case unshared =>
    intro hinner
    simp [given_logAll, hands, hinner]
  case givenApart =>
    intro level sink
    rw [given_logAll, given_logAll]
    rfl
  case sink => exact sink_logAll l s rs
  case sinkApart =>
    intro inner given
    rw [sink_logAll, sink_logAll]
    rfl
  case lines => rw [sink_logAll, Record.lines_applyAll_event]
  case counts => rw [sink_logAll, Record.counts_applyAll_event]
  case called => exact fun r => calls_ne_nil_iff.symm
  case taken => exact log_eq l
  case wanted => exact fun m => enabled_iff_exists_log_ne
  case suppressed => exact honest.logAll_filter s rs
  case reported =>
    intro r sink
    by_cases hlevel : l.maxLevel.admits r.level = true
    · exact if_pos hlevel
    · have hlog : l.log ⟨[], sink⟩ r = ⟨[], sink⟩ := honest.log_of_not_admits hlevel _
      exact (if_neg hlevel).trans (congrArg Sides.sink hlog).symm

/-- A logger whose second side takes more of one part of the program than the console shows. -/
def watchingGame : Logger where
  level := .upTo .warn
  inner := some
    { level   := .upTo .debug
      enabled := fun m => m.target == "game" && (LevelFilter.upTo .debug).admits m.level }

/-- One record for each way of being routed, a blank warning and a record of the console's own among
them. -/
def mixedRecords : List Record :=
  [⟨⟨.debug, "game"⟩, "loaded"⟩, ⟨⟨.warn, "net"⟩, ""⟩, ⟨⟨.trace, "game"⟩, "tick"⟩,
    ⟨⟨.error, "game"⟩, "no disk"⟩, ⟨⟨.error, "devcon_console::console"⟩, "failed"⟩]

/-- Each side gets its own share of the records. -/
theorem routes_of_honest_watchingGame :
    watchingGame.Honest ∧ watchingGame.Routes ⟨[], .empty 8 {}⟩ mixedRecords ∧
      (watchingGame.logAll ⟨[], .empty 8 {}⟩ mixedRecords).given
        = [.record ⟨⟨.debug, "game"⟩, "loaded"⟩, .record ⟨⟨.error, "game"⟩, "no disk"⟩] ∧
      (watchingGame.logAll ⟨[], .empty 8 {}⟩ mixedRecords).sink.lines.items.map LogLine.text
        = ["Warning: ", "Error: no disk"] := by
  have honest : watchingGame.Honest := by
    rintro inner hinner m htakes
    obtain rfl := Option.some.inj hinner
    exact (Bool.and_eq_true_iff.mp htakes).2
  exact ⟨honest, routes_of_honest watchingGame honest _ _, by decide, by decide⟩

end Logger

end DebugConsole
