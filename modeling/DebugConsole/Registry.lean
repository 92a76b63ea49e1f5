import DebugConsole.ConsoleError
import DebugConsole.Keyed
import DebugConsole.Log.Logger
import DebugConsole.Text.Blank

/-!
# Command registry

The commands of a console under their prefixes. What runs a command is left open: it is any type
with a way to be invoked, which may change its own state, write to the log and fail.
-/

namespace DebugConsole

/-! ### Handlers -/

/-- What running a command leaves behind. -/
structure Outcome (η : Type) where
  /-- The handler with its state after the run. -/
  handler : η
  log     : Sink
  failure : Option ConsoleError := none

/-- Types whose values run commands. A handler is given all tokens of the line, its own prefix
first, the log, and where log records go. -/
class Handler (η : Type) where
  invoke : η → Facade → List String → Sink → Outcome η

/-! ### Admission -/

/-- The sentinel that prefixes start with unless another is asked for. -/
def defaultSentinel : Char := '/'

/-- Why a prefix may not be registered, whatever is registered already. -/
def refusal? (sentinel : Option Char) (p : String) : Option ConsoleError :=
  if Text.isBlankText p then some (.invalidArgument "prefix cannot be empty")
  else match sentinel.filter (p.toList.head? ≠ some ·) with
    | some c =>
        some (.invalidFormat ("prefix '" ++ p ++ "' must start with '" ++ c.toString ++ "'"))
    | none   =>
        if p.toList.any Text.isBlank then
          some (.invalidFormat ("prefix '" ++ p ++ "' cannot contain whitespace"))
        else none

/-! ### The registry -/

/-- Handlers under their prefixes, in ascending order of the prefixes. -/
structure Registry (η : Type) where
  sentinel  : Option Char
  entries   : List (String × η)
  ascending : Keyed.Ascending entries
  admitted  : ∀ e ∈ entries, refusal? sentinel e.1 = none

namespace Registry

variable {η : Type}

@[ext] theorem ext {r r' : Registry η} (hs : r.sentinel = r'.sentinel)
    (he : r.entries = r'.entries) : r = r' := by
  cases r; cases r'; simp_all

def empty (sentinel : Option Char) : Registry η where
  sentinel  := sentinel
  entries   := []
  ascending := List.Pairwise.nil
  admitted  := by simp

def lookup (r : Registry η) (p : String) : Option η := r.entries.lookup p

def contains (r : Registry η) (p : String) : Bool := (r.lookup p).isSome

/-- The registered prefixes in ascending order. -/
def prefixes (r : Registry η) : List String := Keyed.keys r.entries

def completions (r : Registry η) (start : String) : List String :=
  r.prefixes.filter fun p => start.toList.isPrefixOf p.toList

def length (r : Registry η) : Nat := r.entries.length

def isEmpty (r : Registry η) : Bool := r.entries.isEmpty

/-- Put a handler under an admissible prefix, in place of the one that is there. -/
def put (r : Registry η) (p : String) (handler : η) (h : refusal? r.sentinel p = none) :
    Registry η where
  sentinel  := r.sentinel
  entries   := Keyed.insert p handler r.entries
  ascending := r.ascending.insert p handler
  admitted  := fun e he => by
    rcases Keyed.eq_or_mem_of_mem_insert he with rfl | he
    · exact h
    · exact r.admitted e he

/-- Register a command; a prefix that is taken keeps its handler. -/
def register (r : Registry η) (p : String) (handler : η) : Except ConsoleError (Registry η) :=
  match h : refusal? r.sentinel p with
  | some e => .error e
  | none   =>
      if r.contains p then .error (.duplicatePrefix p) else .ok (r.put p handler h)

def unregister (r : Registry η) (p : String) : Registry η × Bool :=
  ({ sentinel  := r.sentinel
     entries   := Keyed.erase p r.entries
     ascending := r.ascending.erase p
     admitted  := fun e he => r.admitted e (List.mem_filter.mp he).1 }, r.contains p)

def clear (r : Registry η) : Registry η := empty r.sentinel

theorem register_of_refusal {r : Registry η} {p : String} {e : ConsoleError}
    (h : refusal? r.sentinel p = some e) (handler : η) : r.register p handler = .error e := by
  unfold register
  split
  · next e' h' => rw [Option.some.inj (h'.symm.trans h)]
  · next h' => rw [h] at h'; contradiction

theorem register_of_admitted {r : Registry η} {p : String} (h : refusal? r.sentinel p = none)
    (handler : η) :
    r.register p handler =
      if r.contains p then .error (.duplicatePrefix p) else .ok (r.put p handler h) := by
  unfold register
  split
  · next h' => rw [h] at h'; contradiction
  · rfl

theorem refusal?_of_lookup {r : Registry η} {p : String} {handler : η}
    (h : r.lookup p = some handler) : refusal? r.sentinel p = none := by
  obtain ⟨before, after, he, -⟩ := List.lookup_eq_some_iff.mp h
  exact r.admitted (p, handler) (by simp [he])

/-- Run the command of a prefix, if there is one, and keep the state of its handler. -/
def dispatch [Handler η] (r : Registry η) (facade : Facade) (p : String) (args : List String)
    (log : Sink) : Option (Registry η × Sink × Option ConsoleError) :=
  match h : r.lookup p with
  | none         => none
  | some handler =>
      let outcome := Handler.invoke handler facade args log
      some (r.put p outcome.handler (refusal?_of_lookup h), outcome.log, outcome.failure)

theorem dispatch_of_lookup_eq_none [Handler η] {r : Registry η} {p : String}
    (h : r.lookup p = none) (facade : Facade) (args : List String) (log : Sink) :
    r.dispatch facade p args log = none := by
  unfold dispatch
  split
  · rfl
  · next handler h' => rw [h] at h'; contradiction

theorem dispatch_of_lookup_eq_some [Handler η] {r : Registry η} {p : String} {handler : η}
    (h : r.lookup p = some handler) (facade : Facade) (args : List String) (log : Sink) :
    r.dispatch facade p args log =
      let outcome := Handler.invoke handler facade args log
      some (r.put p outcome.handler (refusal?_of_lookup h), outcome.log, outcome.failure) := by
  unfold dispatch
  split
  · next h' => rw [h] at h'; contradiction
  · next handler' h' =>
    obtain rfl : handler' = handler := Option.some.inj (h'.symm.trans h)
    rfl

/-- The registry in words, for diagnosis. -/
def describe (r : Registry η) : String :=
  let sentinel := match r.sentinel with
    | some c => "Some(" ++ Text.quotedChar c ++ ")"
    | none   => "None"
  "CommandRegistry \x7b prefixes: [" ++ ", ".intercalate (r.prefixes.map Text.quoted)
    ++ "], sentinel: " ++ sentinel ++ " \x7d"

@[simp] theorem sentinel_empty (c : Option Char) : (empty c : Registry η).sentinel = c := rfl

@[simp] theorem entries_empty (c : Option Char) : (empty c : Registry η).entries = [] := rfl

@[simp] theorem sentinel_put (r : Registry η) (p : String) (handler : η)
    (h : refusal? r.sentinel p = none) : (r.put p handler h).sentinel = r.sentinel := rfl

@[simp] theorem entries_put (r : Registry η) (p : String) (handler : η)
    (h : refusal? r.sentinel p = none) :
    (r.put p handler h).entries = Keyed.insert p handler r.entries := rfl

theorem lookup_put (r : Registry η) (p : String) (handler : η)
    (h : refusal? r.sentinel p = none) (q : String) :
    (r.put p handler h).lookup q = if q = p then some handler else r.lookup q :=
  Keyed.lookup_insert p handler r.entries q

theorem prefixes_put_of_lookup {r : Registry η} {p : String} {old : η}
    (hold : r.lookup p = some old) (handler : η) (h : refusal? r.sentinel p = none) :
    (r.put p handler h).prefixes = r.prefixes :=
  Keyed.keys_insert_of_mem r.ascending (Keyed.mem_keys_of_lookup hold) handler

theorem contains_iff {r : Registry η} {p : String} : r.contains p = true ↔ p ∈ r.prefixes :=
  Keyed.mem_keys_iff.symm

@[simp] theorem sentinel_unregister (r : Registry η) (p : String) :
    (r.unregister p).1.sentinel = r.sentinel := rfl

@[simp] theorem entries_unregister (r : Registry η) (p : String) :
    (r.unregister p).1.entries = Keyed.erase p r.entries := rfl

theorem lookup_unregister (r : Registry η) (p q : String) :
    (r.unregister p).1.lookup q = if q = p then none else r.lookup q :=
  Keyed.lookup_erase p r.entries q

end Registry

end DebugConsole
