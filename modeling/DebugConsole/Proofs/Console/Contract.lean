import DebugConsole.Proofs.Console.Watching

/-!
# The execution contract

What executing a line does to every part of the console, whatever its commands do: which command
is called, how often and with what, what the answer tells, and what the history and the log are
afterwards. Commands may change their own state, do anything to the log, and fail.
-/

namespace DebugConsole.Console

variable {η : Type}

/-! ### Which command is called -/

lemma not_calls_of_blank {line : String} (tokens : lineTokens line = []) (c : Console η)
    (q : String) : ¬ c.Calls line q := by
  rintro ⟨first, -⟩
  rw [tokens, List.head?_nil] at first
  exact Option.some_ne_none q first.symm

lemma not_calls_of_absent {c : Console η} {q : String} (absent : c.registry.lookup q = none)
    (line : String) : ¬ c.Calls line q := by
  rintro ⟨-, registered⟩
  rw [Registry.contains, absent, Option.isSome_none] at registered
  exact Bool.false_ne_true registered

lemma not_calls_of_missing {c : Console η} {line p : String}
    (first : (lineTokens line).head? = some p) (absent : c.registry.lookup p = none) (q : String) :
    ¬ c.Calls line q := by
  intro hcalls
  obtain rfl : p = q := Option.some.inj (first.symm.trans hcalls.1)
  exact not_calls_of_absent absent line hcalls

lemma calls_iff_of_run {c : Console η} {line p : String} {handler : η}
    (first : (lineTokens line).head? = some p) (present : c.registry.lookup p = some handler)
    (q : String) : c.Calls line q ↔ q = p := by
  constructor
  · rintro ⟨first', -⟩
    exact Option.some.inj (first'.symm.trans first)
  · rintro rfl
    exact ⟨first, by rw [Registry.contains, present, Option.isSome_some]⟩

variable [Handler η] (facade : Facade) (line : String)

theorem execute_answer_iff (c : Console η) :
    (c.execute facade line).2 = true ↔ ∃ p, c.Calls line p := by
  cases c.course line with
  | blank tokens =>
    rw [execute_of_blank tokens]
    simp [not_calls_of_blank tokens]
  | missing p first absent =>
    rw [execute_of_missing first absent]
    simp [not_calls_of_missing first absent]
  | run p handler first present =>
    rw [execute_of_run first present]
    simp [calls_iff_of_run first present]

/-! ### What becomes of the handlers -/

/-- Only the command that is called may change its state. -/
theorem lookup_execute (c : Console η) (q : String) :
    (c.execute facade line).1.registry.lookup q = (c.registry.lookup q).map fun handler =>
      if c.Calls line q then
        (Handler.invoke handler facade (lineTokens line) (c.echoed line)).handler
      else handler := by
  cases c.course line with
  | blank tokens =>
    rw [execute_of_blank tokens]
    simp [not_calls_of_blank tokens]
  | missing p first absent =>
    rw [execute_of_missing first absent]
    simp [not_calls_of_missing first absent]
  | run p handler first present =>
    rw [execute_of_run first present]
    simp only [calls_iff_of_run first present, Registry.lookup_put]
    by_cases hq : q = p
    · rw [if_pos hq, hq, present, Option.map_some, if_pos rfl]
    · simp only [if_neg hq, Option.map_id']

theorem prefixes_execute (c : Console η) :
    (c.execute facade line).1.registry.prefixes = c.registry.prefixes := by
  cases c.course line with
  | blank tokens => rw [execute_of_blank tokens]
  | missing p first absent => rw [execute_of_missing first absent]
  | run p handler first present =>
    rw [execute_of_run first present]
    exact Registry.prefixes_put_of_lookup present _ (Registry.refusal?_of_lookup present)

/-- An execution adds to the notes of the command it calls all tokens of its line, once. -/
theorem callsOf_execute (c : Console (Watched η)) (q : String) :
    (c.execute facade line).1.callsOf q
      = c.callsOf q ++ if c.Calls line q then [lineTokens line] else [] := by
  rw [callsOf, lookup_execute, callsOf]
  cases h : c.registry.lookup q with
  | none =>
    rw [if_neg (not_calls_of_absent h line), List.append_nil, Option.map_none]
  | some w =>
    simp only [Option.map_some, Option.elim_some]
    split
    · rfl
    · rw [List.append_nil]

/-! ### The contract -/

/-- What executing a line does, whatever its command does. -/
structure ExecutionContract (c : Console η) (facade : Facade) (line : String) : Prop where
  /-- The command registered under the first token is called once, with all tokens; no other
  command is called. -/
  calls      : ∀ p, (c.watched.execute facade line).1.callsOf p
    = if c.Calls line p then [lineTokens line] else []
  /-- Watching the commands changes nothing. -/
  unseen     : (c.watched.execute facade line).map (map Watched.handler) id = c.execute facade line
  /-- The answer tells whether a command was called, however that ended. -/
  answer     : (c.execute facade line).2 = true ↔ ∃ p, c.Calls line p
  /-- The command that was called is in the state that its run left; all others are untouched. -/
  handlers   : ∀ p, (c.execute facade line).1.registry.lookup p = (c.registry.lookup p).map fun h =>
    if c.Calls line p then
      (Handler.invoke h facade (lineTokens line) (c.echoed line)).handler
    else h
  prefixes   : (c.execute facade line).1.registry.prefixes = c.registry.prefixes
  sentinel   : (c.execute facade line).1.registry.sentinel = c.registry.sentinel
  /-- A line without a token leaves no trace but its echo. -/
  logBlank   : lineTokens line = [] → (c.execute facade line).1.log = c.echoed line
  /-- A first token without a command is told below the echo. -/
  logMissing : ∀ p, (lineTokens line).head? = some p → c.registry.lookup p = none →
    (c.execute facade line).1.log = (c.echoed line).append (commandLine (missingText p))
  /-- A command writes below the echo; its failure comes last. -/
  logRun     : ∀ p h, (lineTokens line).head? = some p → c.registry.lookup p = some h →
    (c.execute facade line).1.log = (Handler.invoke h facade (lineTokens line) (c.echoed line)).told
  /-- A line without a token is not recorded. -/
  unrecorded : lineTokens line = [] → (c.execute facade line).1.history = c.history
  /-- Any other line is the newest entry, and nothing is being recalled. -/
  recorded   : lineTokens line ≠ [] →
    let history := (c.execute facade line).1.history
    history.entries.items
        = keepLast c.history.entries.capacity (c.history.entries.items ++ [Text.trim line])
      ∧ history.entries.capacity = c.history.entries.capacity
      ∧ history.cursor = history.entries.items.length
  /-- Nothing else changes. -/
  others     : (c.execute facade line).1 =
    { c with
        registry := (c.execute facade line).1.registry
        log      := (c.execute facade line).1.log
        history  := (c.execute facade line).1.history }

lemma history_execute (c : Console η) (h : lineTokens line ≠ []) :
    (c.execute facade line).1.history = c.history.push (Text.trim line) := by
  cases c.course line with
  | blank tokens => exact absurd tokens h
  | missing p first absent => rw [execute_of_missing first absent]
  | run p handler first present => rw [execute_of_run first present]

lemma frame_execute (c : Console η) :
    (c.execute facade line).1.registry.sentinel = c.registry.sentinel ∧
    (c.execute facade line).1 =
      { c with
          registry := (c.execute facade line).1.registry
          log      := (c.execute facade line).1.log
          history  := (c.execute facade line).1.history } := by
  cases c.course line with
  | blank tokens => rw [execute_of_blank tokens]; exact ⟨rfl, rfl⟩
  | missing p first absent => rw [execute_of_missing first absent]; exact ⟨rfl, rfl⟩
  | run p handler first present => rw [execute_of_run first present]; exact ⟨rfl, rfl⟩

lemma input_execute (c : Console η) : (c.execute facade line).1.input = c.input := by
  obtain ⟨-, others⟩ := frame_execute facade line c
  rw [others]

/-- Every execution keeps the contract, for any commands and any line. -/
theorem execution_contract (c : Console η) (facade : Facade) (line : String) :
    c.ExecutionContract facade line := by
  constructor
  case calls =>
    intro p
    rw [callsOf_execute, callsOf_watched, List.nil_append]
    simp only [calls_watched_iff]
  case unseen => rw [← execute_map Watched.simulates, map_watched]
  case answer => exact execute_answer_iff facade line c
  case handlers => exact lookup_execute facade line c
  case prefixes => exact prefixes_execute facade line c
  case sentinel => exact (frame_execute facade line c).1
  case logBlank =>
    intro tokens
    rw [execute_of_blank tokens]
  case logMissing =>
    intro p first absent
    rw [execute_of_missing first absent]
  case logRun =>
    intro p handler first present
    rw [execute_of_run first present]
  case unrecorded =>
    intro tokens
    rw [execute_of_blank tokens]
  case recorded =>
    intro h
    rw [history_execute facade line c h]
    exact ⟨rfl, rfl, rfl⟩
  case others => exact (frame_execute facade line c).2

end DebugConsole.Console
