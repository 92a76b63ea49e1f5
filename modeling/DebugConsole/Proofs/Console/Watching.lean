import DebugConsole.Proofs.Console.Execution

/-!
# Watched commands

A handler that notes what it is called with, and otherwise does what the handler under it does. A
console with such handlers goes through the same states as the console without them, so its notes
tell which commands an execution calls, how often and with which tokens.
-/

namespace DebugConsole

variable {η θ : Type}

/-! ### Other handlers -/

/-- The same run, told of another handler. -/
def Outcome.map (f : θ → η) (o : Outcome θ) : Outcome η where
  handler := f o.handler
  log     := o.log
  failure := o.failure

/-- Handlers do what the handlers they stand for do. -/
def Handler.Simulates [Handler θ] [Handler η] (f : θ → η) : Prop :=
  ∀ handler facade args log,
    Handler.invoke (f handler) facade args log = (Handler.invoke handler facade args log).map f

@[simp] lemma Outcome.handler_map (f : θ → η) (o : Outcome θ) :
    (o.map f).handler = f o.handler := rfl

@[simp] lemma Outcome.told_map (f : θ → η) (o : Outcome θ) : (o.map f).told = o.told := rfl

namespace Registry

/-- The same prefixes with other handlers. -/
def map (f : θ → η) (r : Registry θ) : Registry η where
  sentinel  := r.sentinel
  entries   := r.entries.map fun e => (e.1, f e.2)
  ascending := by
    rw [Keyed.Ascending, List.pairwise_map]
    exact r.ascending
  admitted  := by
    intro e he
    obtain ⟨d, hd, rfl⟩ := List.mem_map.mp he
    exact r.admitted d hd

lemma lookup_map (f : θ → η) (r : Registry θ) (p : String) :
    (r.map f).lookup p = (r.lookup p).map f := by
  show (r.entries.map _).lookup p = (r.entries.lookup p).map f
  induction r.entries with
  | nil => rfl
  | cons e entries ih =>
    obtain ⟨q, handler⟩ := e
    rw [List.map_cons, Keyed.lookup_cons, Keyed.lookup_cons, ih]
    split <;> rfl

lemma map_put (f : θ → η) (r : Registry θ) (p : String) (handler : θ)
    (h : refusal? r.sentinel p = none) :
    (r.put p handler h).map f = (r.map f).put p (f handler) h := by
  refine ext rfl ?_
  show (Keyed.insert p handler r.entries).map _ = Keyed.insert p (f handler) (r.entries.map _)
  induction r.entries with
  | nil => rfl
  | cons e entries ih =>
    rw [Keyed.insert, List.map_cons, Keyed.insert]
    split
    · rfl
    · split
      · rfl
      · rw [List.map_cons, ih]

end Registry

namespace Console

/-- The same console with other handlers. -/
def map (f : θ → η) (c : Console θ) : Console η := { c with registry := c.registry.map f }

/-- Executing a line and replacing the handlers may be done in either order. -/
theorem execute_map [Handler θ] [Handler η] {f : θ → η} (hf : Handler.Simulates f) (c : Console θ)
    (facade : Facade) (line : String) :
    (c.map f).execute facade line = (c.execute facade line).map (map f) id := by
  cases c.course line with
  | blank tokens => rw [execute_of_blank tokens, execute_of_blank tokens]; rfl
  | missing p first absent =>
    have absent' : (c.map f).registry.lookup p = none := by
      rw [map, Registry.lookup_map, absent, Option.map_none]
    rw [execute_of_missing first absent, execute_of_missing first absent']
    rfl
  | run p handler first present =>
    have present' : (c.map f).registry.lookup p = some (f handler) := by
      rw [map, Registry.lookup_map, present, Option.map_some]
    rw [execute_of_run first present, execute_of_run first present']
    simp only [hf handler, Outcome.handler_map, Outcome.told_map, Prod.map_apply, id, map,
      Registry.map_put]
    rfl

end Console

/-! ### Watching -/

/-- A handler with the tokens of every call so far, the first call first. -/
structure Watched (η : Type) where
  handler : η
  calls   : List (List String) := []

instance [Handler η] : Handler (Watched η) where
  invoke w facade tokens log :=
    (Handler.invoke w.handler facade tokens log).map fun handler =>
      { handler, calls := w.calls ++ [tokens] }

lemma Watched.simulates [Handler η] : Handler.Simulates (Watched.handler (η := η)) :=
  fun _ _ _ _ => rfl

namespace Console

/-- The same console with its commands watched, none of them called yet. -/
def watched (c : Console η) : Console (Watched η) := c.map fun handler => { handler }

/-- The calls of the command of a prefix, none if there is no such command. -/
def callsOf (c : Console (Watched η)) (p : String) : List (List String) :=
  (c.registry.lookup p).elim [] Watched.calls

/-- A line calls the command that is registered under its first token. -/
def Calls (c : Console η) (line p : String) : Prop :=
  (lineTokens line).head? = some p ∧ c.registry.contains p = true

instance (c : Console η) (line p : String) : Decidable (c.Calls line p) :=
  inferInstanceAs (Decidable (_ ∧ _))

lemma callsOf_watched (c : Console η) (q : String) : c.watched.callsOf q = [] := by
  rw [callsOf, watched, map, Registry.lookup_map]
  cases c.registry.lookup q <;> rfl

lemma calls_watched_iff (c : Console η) (line q : String) :
    c.watched.Calls line q ↔ c.Calls line q := by
  rw [Calls, Calls, Registry.contains, watched, map, Registry.lookup_map, Option.isSome_map]
  rfl

lemma map_watched (c : Console η) : c.watched.map Watched.handler = c := by
  have : c.watched.registry.map Watched.handler = c.registry := by
    refine Registry.ext rfl ?_
    show (c.registry.entries.map _).map _ = c.registry.entries
    rw [List.map_map]
    exact List.map_id _
  rw [map, this]
  rfl

end Console

end DebugConsole
