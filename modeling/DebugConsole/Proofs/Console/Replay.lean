import DebugConsole.Proofs.Console.HostRun

/-!
# Recalling and submitting

A line that was executed can be brought back into the input line by as many steps as tell how long
ago that was. Its text comes back trimmed, which is how it was executed, so submitting it looks up
the same command and hands it the same tokens.
-/

namespace DebugConsole.Console

variable {η : Type}

/-! ### Recalling -/

lemma history_recallPrevious (c : Console η) :
    c.recallPrevious.history = c.history.stepBack.1 := by
  unfold recallPrevious
  generalize c.history.stepBack = found
  obtain ⟨history, _ | _ | _⟩ := found <;> rfl

lemma input_recallPrevious {c : Console η} {line : String}
    (hfound : c.history.stepBack.2 = .entry line) : c.recallPrevious.input = line := by
  have hstep : c.history.stepBack = (c.history.stepBack.1, .entry line) := Prod.ext rfl hfound
  rw [recallPrevious, hstep]
  rfl

/-- Recall one entry after the other, going back. -/
def recallBack (c : Console η) : Nat → Console η
  | 0     => c
  | k + 1 => (c.recallBack k).recallPrevious

lemma history_recallBack (c : Console η) (k : Nat) :
    (c.recallBack k).history = c.history.stepsBack k := by
  induction k with
  | zero => rfl
  | succ k ih => rw [recallBack, history_recallPrevious, ih, History.stepsBack]

lemma ledger_recallBack (c : Console η) (k : Nat) : (c.recallBack k).ledger = c.ledger := by
  induction k with
  | zero => rfl
  | succ k ih => rw [recallBack, ledger_recallPrevious, ih]

/-- When nothing is being recalled, the entries come back from the newest on. -/
lemma input_recallBack {c : Console η} {line : String} {k : Nat}
    (hrest : c.history.cursor = c.history.length)
    (hline : c.history.entries.newestFirst[k]? = some line) :
    (c.recallBack (k + 1)).input = line := by
  refine input_recallPrevious ?_
  rw [history_recallBack]
  exact History.stepBack_stepsBack_of_newestFirst hrest hline

/-! ### Executing one line after the other -/

variable [Handler η] (facade : Facade)

def executeAll (c : Console η) (lines : List String) : Console η :=
  lines.foldl (fun c line => (c.execute facade line).1) c

@[simp] lemma executeAll_cons (c : Console η) (line : String) (lines : List String) :
    c.executeAll facade (line :: lines) = (c.execute facade line).1.executeAll facade lines := by
  rw [executeAll, List.foldl_cons, executeAll]

lemma executeAll_append_singleton (c : Console η) (lines : List String) (line : String) :
    c.executeAll facade (lines ++ [line]) = ((c.executeAll facade lines).execute facade line).1 := by
  rw [executeAll, List.foldl_append, executeAll, List.foldl_cons, List.foldl_nil]

lemma ledger_executeAll (c : Console η) (lines : List String) :
    (c.executeAll facade lines).ledger = c.ledger.recordAll (lines.map Text.trim) := by
  induction lines generalizing c with
  | nil => rfl
  | cons line lines ih =>
    rw [executeAll_cons, ih, List.map_cons, Ledger.recordAll_cons, ledger_execute]

lemma prefixes_executeAll (c : Console η) (lines : List String) :
    (c.executeAll facade lines).registry.prefixes = c.registry.prefixes := by
  have hledger := ledger_executeAll facade c lines
  rw [Ledger.recordAll_eq] at hledger
  exact congrArg Ledger.prefixes hledger

/-- Lines with tokens are all recorded. -/
lemma entries_executeAll (c : Console η) {lines : List String}
    (htokens : ∀ line ∈ lines, lineTokens line ≠ []) :
    (c.executeAll facade lines).history.entries
      = c.history.entries.pushAll (lines.map Text.trim) := by
  have hall : (lines.map Text.trim).filter (tokenize · ≠ []) = lines.map Text.trim := by
    rw [List.filter_eq_self, List.forall_mem_map]
    exact fun line hline => decide_eq_true (htokens line hline)
  have hledger := ledger_executeAll facade c lines
  rw [Ledger.recordAll_eq, hall] at hledger
  exact congrArg Ledger.entries hledger

/-- After a line with tokens nothing is being recalled. -/
lemma cursor_execute {c : Console η} {line : String} (htokens : lineTokens line ≠ []) :
    (c.execute facade line).1.history.cursor = (c.execute facade line).1.history.length := by
  rw [history_execute facade line c htokens]
  rfl

lemma cursor_executeAll (c : Console η) {lines : List String} (hne : lines ≠ [])
    (htokens : ∀ line ∈ lines, lineTokens line ≠ []) :
    (c.executeAll facade lines).history.cursor = (c.executeAll facade lines).history.length := by
  obtain ⟨lines, last, rfl⟩ := (List.eq_nil_or_concat lines).resolve_left hne
  rw [List.concat_eq_append] at htokens ⊢
  rw [executeAll_append_singleton]
  exact cursor_execute facade (htokens last (by simp))

/-! ### Replaying -/

/-- Submitting what was recalled does again what executing a line has done. -/
structure Replays (origin recalled : Console η) (facade : Facade) (line : String) : Prop where
  input    : recalled.input = Text.trim line
  /-- The same prefix is looked up, to be called with the same tokens. -/
  dispatch : ∃ p, (lineTokens line).head? = some p ∧
    origin.execute facade line = (origin.recorded line).dispatch facade p (lineTokens line) ∧
    recalled.submit facade
      = ((recalled.setInput "").recorded line).dispatch facade p (lineTokens line)
  /-- The same command is called, once, with the same tokens; or none is, either time. -/
  calls    : ∀ p, (recalled.watched.submit facade).1.callsOf p
    = (origin.watched.execute facade line).1.callsOf p
  answer   : (recalled.submit facade).2 = (origin.execute facade line).2
  newest   : (recalled.submit facade).1.history.entries.newest? = some (Text.trim line)
  emptied  : (recalled.submit facade).1.input = ""
  /-- The next recall starts over, and gives the same text. -/
  again    : (recalled.submit facade).1.history.cursor
        = (recalled.submit facade).1.history.length ∧
      (recalled.submit facade).1.recallPrevious.input = Text.trim line

lemma submit_of_input {c : Console η} {line : String} (hinput : c.input = Text.trim line) :
    c.submit facade = (c.setInput "").execute facade line := by
  rw [submit, hinput, execute_trim]

omit [Handler η] in
/-- The commands that a line can call are told by the prefixes. -/
lemma calls_iff_of_prefixes {c d : Console η} (h : c.registry.prefixes = d.registry.prefixes)
    (line p : String) : c.Calls line p ↔ d.Calls line p := by
  rw [Calls, Calls, Registry.contains_iff, Registry.contains_iff, h]

/-- Whatever brought the text of a line back, submitting it executes the line once more. -/
lemma replays_of_input {origin recalled : Console η} {line : String}
    (hinput : recalled.input = Text.trim line) (htokens : lineTokens line ≠ [])
    (hprefixes : recalled.registry.prefixes = origin.registry.prefixes)
    (hroom : 0 < recalled.history.entries.capacity) : Replays origin recalled facade line := by
  have hsubmit := submit_of_input facade hinput
  have hhistory : (recalled.submit facade).1.history = recalled.history.push (Text.trim line) := by
    rw [hsubmit, history_execute facade line _ htokens]
    rfl
  have hrest : (recalled.submit facade).1.history.cursor
      = (recalled.submit facade).1.history.length := by
    rw [hsubmit]
    exact cursor_execute facade htokens
  have hnewest : (recalled.submit facade).1.history.entries.newest? = some (Text.trim line) := by
    rw [hhistory]
    exact Bounded.newest?_push hroom _
  have hcalls (p : String) : (recalled.setInput "").Calls line p ↔ origin.Calls line p :=
    calls_iff_of_prefixes hprefixes line p
  constructor
  case input => exact hinput
  case dispatch =>
    obtain ⟨p, args, htoken⟩ := List.exists_cons_of_ne_nil htokens
    have hfirst : (lineTokens line).head? = some p := by rw [htoken, List.head?_cons]
    exact ⟨p, hfirst, execute_of_first hfirst .., hsubmit.trans (execute_of_first hfirst ..)⟩
  case calls =>
    intro p
    have hwatched : recalled.watched.submit facade
        = (recalled.setInput "").watched.execute facade line := submit_of_input facade hinput
    rw [hwatched, callsOf_execute, callsOf_execute, callsOf_watched, callsOf_watched]
    simp only [calls_watched_iff, hcalls]
  case answer =>
    rw [Bool.eq_iff_iff, hsubmit, execute_answer_iff, execute_answer_iff]
    simp only [hcalls]
  case newest => exact hnewest
  case emptied => rw [hsubmit, input_execute]; rfl
  case again => exact ⟨hrest, input_recallPrevious (History.stepBack_of_newest hrest hnewest)⟩

/-- A line is brought back by one step more than lines were executed since, and submitting it does
again what its execution did. -/
theorem replays_executeAll (c : Console η) (facade : Facade) (before : List String) (line : String)
    (after : List String) (htokens : ∀ l ∈ before ++ line :: after, lineTokens l ≠ [])
    (hfits : (before ++ line :: after).length ≤ c.history.entries.capacity) :
    Replays (c.executeAll facade before)
      ((c.executeAll facade (before ++ line :: after)).recallBack (after.length + 1)) facade
      line := by
  set lines := before ++ line :: after with hlines
  have hentries := entries_executeAll facade c htokens
  have hage : after.length < c.history.entries.capacity := by
    rw [hlines, List.length_append, List.length_cons] at hfits
    omega
  have hfound : (c.executeAll facade lines).history.entries.newestFirst[after.length]?
      = some (Text.trim line) := by
    have hreverse : (lines.map Text.trim).reverse = (after.map Text.trim).reverse
        ++ Text.trim line :: (before.map Text.trim).reverse := by simp [hlines]
    rw [hentries, Bounded.newestFirst_pushAll, List.getElem?_take_of_lt hage, hreverse]
    simp
  refine replays_of_input facade ?input (htokens line (by simp [hlines])) ?prefixes ?room
  case input =>
    exact input_recallBack (cursor_executeAll facade c (by simp [hlines]) htokens) hfound
  case prefixes =>
    have hrecall := congrArg Ledger.prefixes
      ((c.executeAll facade lines).ledger_recallBack (after.length + 1))
    have hall := prefixes_executeAll facade c lines
    have hbefore := prefixes_executeAll facade c before
    exact hrecall.trans (hall.trans hbefore.symm)
  case room =>
    rw [history_recallBack, History.entries_stepsBack, hentries, Bounded.capacity_pushAll]
    omega

/-- A console with the demo commands. -/
def demoConsole : Console DemoCommand :=
  ((ofConfig {} : Console DemoCommand).registerDemoCommands .silent id).1

/-- The blanks at the end of an open quote are not brought back, nor were they executed. -/
theorem replays_openQuote :
    (∀ l ∈ ["/warn low", " /echo \"a ", "/fail"], lineTokens l ≠ []) ∧
      3 ≤ demoConsole.history.entries.capacity ∧
      Replays (demoConsole.executeAll .silent ["/warn low"])
        ((demoConsole.executeAll .silent ["/warn low", " /echo \"a ", "/fail"]).recallBack 2)
        .silent " /echo \"a " ∧
      Text.trim " /echo \"a " = "/echo \"a" ∧ lineTokens " /echo \"a " = ["/echo", "a"] := by
  have htokens : ∀ l ∈ ["/warn low", " /echo \"a ", "/fail"], lineTokens l ≠ [] := by decide
  have hfits : 3 ≤ demoConsole.history.entries.capacity := by decide
  have hreplays := replays_executeAll demoConsole .silent ["/warn low"] " /echo \"a " ["/fail"]
    htokens hfits
  exact ⟨htokens, hfits, hreplays, by decide, by decide⟩

end DebugConsole.Console
