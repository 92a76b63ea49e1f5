import DebugConsole.HostAction
import DebugConsole.Proofs.Bounded.Window
import DebugConsole.Proofs.Console.Contract
import DebugConsole.Proofs.History.Walk

/-!
# Runs of input lines

A console is given one line after the other. What a later line may rest on is its ledger: the
entries of the history, the prefixes of the commands, the presets and the configuration. A line
bears on the ledger through the text that it has executed, if any, and in no other way.
-/

namespace DebugConsole

/-! ### The ledger -/

/-- What lasts of a console from line to line. -/
structure Ledger where
  entries  : Bounded String
  prefixes : List String
  sentinel : Option Char
  presets  : Catalog
  config   : Config

namespace Ledger

/-- Enter a text that is executed; one without a token is not worth recalling. -/
def record (l : Ledger) (text : String) : Ledger :=
  if tokenize text = [] then l else { l with entries := l.entries.push text }

lemma record_of_eq_nil {text : String} (h : tokenize text = []) (l : Ledger) :
    l.record text = l :=
  if_pos h

lemma record_of_ne_nil {text : String} (h : tokenize text ≠ []) (l : Ledger) :
    l.record text = { l with entries := l.entries.push text } :=
  if_neg h

def recordAll (l : Ledger) (texts : List String) : Ledger := texts.foldl record l

@[simp] lemma recordAll_nil (l : Ledger) : l.recordAll [] = l := rfl

@[simp] lemma recordAll_cons (l : Ledger) (text : String) (texts : List String) :
    l.recordAll (text :: texts) = (l.record text).recordAll texts := rfl

lemma recordAll_append (l : Ledger) (texts texts' : List String) :
    l.recordAll (texts ++ texts') = (l.recordAll texts).recordAll texts' :=
  List.foldl_append

lemma recordAll_eq (l : Ledger) (texts : List String) :
    l.recordAll texts =
      { l with entries := l.entries.pushAll (texts.filter (tokenize · ≠ [])) } := by
  induction texts generalizing l with
  | nil => rfl
  | cons text texts ih =>
    rw [recordAll_cons, ih]
    by_cases htext : tokenize text = []
    · rw [record_of_eq_nil htext, List.filter_cons_of_neg (by simp [htext])]
    · rw [record_of_ne_nil htext, List.filter_cons_of_pos (by simp [htext]), Bounded.pushAll_cons]

end Ledger

/-! ### Executed texts -/

/-- The text that a preset has executed, unless it is just filled in. -/
def Catalog.immediateText? (presets : Catalog) (index : Nat) : Option String :=
  ((presets.get? index).filter (·.immediate)).map (·.text)

/-- The text that an action has executed, if any. -/
def HostAction.executed? (presets : Catalog) (input : String) : HostAction → Option String
  | .submit       => some (Text.trim input)
  | .preset index => presets.immediateText? index
  | _             => none

/-- The text that a line has executed, if any. -/
def executed? (presets : Catalog) (input line : String) : Option String :=
  match HostAction.ofLine? line with
  | none        => some (Text.trim line)
  | some action => action.executed? presets input

lemma Catalog.trim_immediateText? {presets : Catalog} {index : Nat} {text : String}
    (h : presets.immediateText? index = some text) : Text.trim text = text := by
  obtain ⟨e, he, rfl⟩ := Option.map_eq_some_iff.mp h
  have hmem : e ∈ presets.entries := List.mem_of_getElem? (Option.eq_some_of_filter_eq_some he)
  exact (presets.normal e hmem).text.1

lemma trim_executed? {presets : Catalog} {input line text : String}
    (h : executed? presets input line = some text) : Text.trim text = text := by
  unfold executed? at h
  split at h
  case h_1 =>
    obtain rfl := Option.some.inj h
    exact Text.trim_trim line
  case h_2 action _ =>
    cases action with
    | submit =>
      obtain rfl := Option.some.inj h
      exact Text.trim_trim input
    | preset index => exact Catalog.trim_immediateText? h
    | _ => cases h

namespace Catalog

/-- What there can be at a position. -/
inductive Choice (presets : Catalog) (index : Nat) : Prop where
  | missing (absent : presets.get? index = none)
  /-- The preset there is executed at once. -/
  | immediate (e : Preset) (found : presets.get? index = some e) (immediate : e.immediate = true)
  /-- The preset there is filled in. -/
  | filled (e : Preset) (found : presets.get? index = some e) (filled : e.immediate = false)

lemma choice (presets : Catalog) (index : Nat) : presets.Choice index := by
  cases found : presets.get? index with
  | none => exact .missing found
  | some e =>
    cases himmediate : e.immediate with
    | false => exact .filled e found himmediate
    | true => exact .immediate e found himmediate

variable {presets : Catalog} {index : Nat} {e : Preset}

lemma immediateText?_of_none (absent : presets.get? index = none) :
    presets.immediateText? index = none := by
  rw [immediateText?, absent, Option.filter_none, Option.map_none]

lemma immediateText?_of_immediate (found : presets.get? index = some e)
    (immediate : e.immediate = true) : presets.immediateText? index = some e.text := by
  rw [immediateText?, found, Option.filter_some, if_pos immediate, Option.map_some]

lemma immediateText?_of_filled (found : presets.get? index = some e)
    (filled : e.immediate = false) : presets.immediateText? index = none := by
  rw [immediateText?, found, Option.filter_some, if_neg (by simp [filled]), Option.map_none]

end Catalog

namespace Console

variable {η : Type}

/-! ### Presets at a position -/

section

variable [Handler η] (c : Console η) (facade : Facade)

/-- Presets, the input line and what is shown as help have no part in an execution. -/
lemma execute_apart (presets : Catalog) (input helpText line : String) :
    ({ c with presets, input, helpText } : Console η).execute facade line
      = ({ (c.execute facade line).1 with presets, input, helpText },
          (c.execute facade line).2) := by
  set d : Console η := { c with presets, input, helpText }
  cases c.course line with
  | blank tokens =>
    rw [execute_of_blank tokens, execute_of_blank tokens]
    rfl
  | missing p first absent =>
    rw [execute_of_missing first absent, execute_of_missing (c := d) first absent]
    rfl
  | run p handler first present =>
    rw [execute_of_run first present, execute_of_run (c := d) first present]
    rfl

lemma execute_helpText (helpText line : String) :
    ({ c with helpText } : Console η).execute facade line
      = ({ (c.execute facade line).1 with helpText }, (c.execute facade line).2) := by
  have hframe := (frame_execute facade line c).2
  have hkept : ({ (c.execute facade line).1 with helpText } : Console η)
      = { (c.execute facade line).1 with presets := c.presets, input := c.input, helpText } := by
    rw [hframe]
  rw [hkept]
  exact execute_apart c facade c.presets c.input helpText line

variable {c} {index : Nat} {e : Preset}

lemma activateAt_of_none (absent : c.presets.get? index = none) :
    c.activateAt facade index = (c, none) := by
  rw [activateAt, absent]

lemma activateAt_of_immediate (found : c.presets.get? index = some e)
    (immediate : e.immediate = true) :
    c.activateAt facade index =
      ({ (c.execute facade e.text).1 with helpText := e.description.getD "" },
        some (.executed (c.execute facade e.text).2)) := by
  simp only [activateAt, found, activate, immediate, if_true, execute_helpText]

lemma activateAt_of_filled (found : c.presets.get? index = some e) (filled : e.immediate = false) :
    c.activateAt facade index
      = ({ c with helpText := e.description.getD "", input := e.text }, some .filled) := by
  simp only [activateAt, found, activate, filled]
  rfl

end

/-! ### What an operation enters -/

def ledger (c : Console η) : Ledger where
  entries  := c.history.entries
  prefixes := c.registry.prefixes
  sentinel := c.registry.sentinel
  presets  := c.presets
  config   := c.config

lemma ledger_setInput (c : Console η) (text : String) : (c.setInput text).ledger = c.ledger := rfl

lemma ledger_helpText (c : Console η) (helpText : String) :
    ({ c with helpText } : Console η).ledger = c.ledger := rfl

/-- Moving the recall cursor changes the input line at most. -/
lemma ledger_applyRecall {c : Console η} {history : History}
    (h : history.entries = c.history.entries) (found : Recall) :
    (c.applyRecall (history, found)).ledger = c.ledger := by
  cases found <;> simp only [applyRecall, ledger, h]

lemma ledger_recallPrevious (c : Console η) : c.recallPrevious.ledger = c.ledger :=
  ledger_applyRecall c.history.entries_stepBack c.history.stepBack.2

lemma ledger_recallNext (c : Console η) : c.recallNext.ledger = c.ledger :=
  ledger_applyRecall c.history.entries_stepForward c.history.stepForward.2

lemma ledger_logScreen (c : Console η) (text : String) (duration : Float32) :
    (c.logScreen text duration).ledger = c.ledger := by
  rw [logScreen, logScreenStyled]
  split <;> rfl

variable [Handler η] (facade : Facade)

lemma ledger_execute (c : Console η) (line : String) :
    (c.execute facade line).1.ledger = c.ledger.record (Text.trim line) := by
  by_cases tokens : lineTokens line = []
  · rw [execute_of_blank tokens, Ledger.record_of_eq_nil tokens]
    rfl
  · obtain ⟨sentinel, others⟩ := frame_execute facade line c
    have presets : (c.execute facade line).1.presets = c.presets := by rw [others]
    have config : (c.execute facade line).1.config = c.config := by rw [others]
    rw [ledger, history_execute facade line c tokens, prefixes_execute, sentinel, presets, config,
      Ledger.record_of_ne_nil tokens]
    rfl

lemma ledger_submit (c : Console η) :
    (c.submit facade).1.ledger = c.ledger.recordAll [Text.trim c.input] := by
  rw [submit, ledger_execute, ledger_setInput, Ledger.recordAll_cons, Ledger.recordAll_nil]

lemma ledger_activateAt (c : Console η) (index : Nat) :
    (c.activateAt facade index).1.ledger
      = c.ledger.recordAll (c.presets.immediateText? index).toList := by
  cases c.presets.choice index with
  | missing absent =>
    rw [activateAt_of_none facade absent, Catalog.immediateText?_of_none absent]
    rfl
  | immediate e found immediate =>
    have htext := Catalog.immediateText?_of_immediate found immediate
    rw [activateAt_of_immediate facade found immediate, ledger_helpText, ledger_execute,
      Catalog.trim_immediateText? htext, htext]
    rfl
  | filled e found filled =>
    rw [activateAt_of_filled facade found filled, Catalog.immediateText?_of_filled found filled]
    rfl

lemma ledger_activatePreset (c : Console η) (index : Nat) :
    (c.activatePreset facade index).ledger
      = c.ledger.recordAll (c.presets.immediateText? index).toList := by
  -- However the activation went, all that follows is a report to the log.
  have hreport : (c.activatePreset facade index).ledger = (c.activateAt facade index).1.ledger := by
    unfold activatePreset
    generalize c.activateAt facade index = p
    obtain ⟨d, _ | _ | _⟩ := p <;> rfl
  rw [hreport, ledger_activateAt]

lemma ledger_perform (c : Console η) (action : HostAction) :
    (c.perform facade action).ledger
      = c.ledger.recordAll (action.executed? c.presets c.input).toList := by
  cases action with
  | submit       => exact ledger_submit facade c
  | preset index => exact ledger_activatePreset facade c index
  | previous     => exact ledger_recallPrevious c
  | next         => exact ledger_recallNext c
  | flash text   => exact ledger_logScreen c text flashSeconds
  | _            => rfl

theorem ledger_handleLine (c : Console η) (line : String) :
    (c.handleLine facade line).ledger
      = c.ledger.recordAll (executed? c.presets c.input line).toList := by
  rw [handleLine, executed?]
  cases HostAction.ofLine? line with
  | none => exact ledger_submit facade (c.setInput line)
  | some action => exact ledger_perform facade c action

/-! ### Runs -/

/-- Handle one line after the other. Lines after the one that quits are handled like any other. -/
def handleAll (c : Console η) (lines : List String) : Console η :=
  lines.foldl (fun c line => c.handleLine facade line) c

/-- The texts that are executed in the course of a run, each by what its line finds in the console
at that moment. -/
def executedTexts (c : Console η) : List String → List String
  | []            => []
  | line :: lines =>
      (executed? c.presets c.input line).toList ++ (c.handleLine facade line).executedTexts lines

@[simp] lemma handleAll_cons (c : Console η) (line : String) (lines : List String) :
    c.handleAll facade (line :: lines) = (c.handleLine facade line).handleAll facade lines := rfl

theorem ledger_handleAll (c : Console η) (lines : List String) :
    (c.handleAll facade lines).ledger = c.ledger.recordAll (c.executedTexts facade lines) := by
  induction lines generalizing c with
  | nil => rfl
  | cons line lines ih =>
    rw [handleAll_cons, ih, ledger_handleLine, executedTexts, Ledger.recordAll_append]

lemma trim_executedTexts {c : Console η} {lines : List String} {text : String}
    (h : text ∈ c.executedTexts facade lines) : Text.trim text = text := by
  induction lines generalizing c with
  | nil => cases h
  | cons line lines ih =>
    rw [executedTexts, List.mem_append, Option.mem_toList] at h
    rcases h with h | h
    · exact trim_executed? h
    · exact ih h

/-- A new console with commands and presets. -/
def equipped (config : Config) (registry : Registry η) (presets : Catalog) : Console η :=
  { (ofConfig config : Console η) with registry, presets }

/-- What a run of lines leaves behind, whatever the commands do. -/
structure RunContract (c : Console η) (facade : Facade) (lines : List String) : Prop where
  /-- The history holds the last of the texts with a token that were executed. -/
  entries  : (c.handleAll facade lines).history.entries.items
    = keepLast c.config.historyCapacity
        ((c.executedTexts facade lines).filter (tokenize · ≠ []))
  capacity : (c.handleAll facade lines).history.entries.capacity = c.config.historyCapacity
  trimmed  : ∀ text ∈ (c.handleAll facade lines).history.entries.items, Text.trim text = text
  tokens   : ∀ text ∈ (c.handleAll facade lines).history.entries.items, tokenize text ≠ []
  prefixes : (c.handleAll facade lines).registry.prefixes = c.registry.prefixes
  sentinel : (c.handleAll facade lines).registry.sentinel = c.registry.sentinel
  presets  : (c.handleAll facade lines).presets = c.presets
  config   : (c.handleAll facade lines).config = c.config

/-- The contract holds from any configuration, for any commands, presets and lines. -/
theorem run_contract (config : Config) (registry : Registry η) (presets : Catalog)
    (facade : Facade) (lines : List String) :
    RunContract (equipped config registry presets) facade lines := by
  set c := equipped config registry presets
  set texts := (c.executedTexts facade lines).filter (tokenize · ≠ []) with htexts
  have hledger : (c.handleAll facade lines).ledger =
      { c.ledger with entries := c.ledger.entries.pushAll texts } := by
    rw [ledger_handleAll, Ledger.recordAll_eq]
  have hentries : (c.handleAll facade lines).history.entries =
      (Bounded.empty config.historyCapacity).pushAll texts := congrArg Ledger.entries hledger
  have hitems : (c.handleAll facade lines).history.entries.items =
      keepLast config.historyCapacity texts := by
    rw [hentries, Bounded.items_pushAll]
    rfl
  have hmem : ∀ text ∈ (c.handleAll facade lines).history.entries.items,
      text ∈ c.executedTexts facade lines ∧ tokenize text ≠ [] := by
    intro text htext
    rw [hitems] at htext
    simpa [htexts] using (keepLast_suffix ..).mem htext
  constructor
  case entries => exact hitems
  case capacity => rw [hentries, Bounded.capacity_pushAll]; rfl
  case trimmed => exact fun text htext => trim_executedTexts facade (hmem text htext).1
  case tokens => exact fun text htext => (hmem text htext).2
  case prefixes => exact congrArg Ledger.prefixes hledger
  case sentinel => exact congrArg Ledger.sentinel hledger
  case presets => exact congrArg Ledger.presets hledger
  case config => exact congrArg Ledger.config hledger

/-- A recalled line is recorded again, and a line of quotes alone is not. -/
example : ((equipped { historyCapacity := 2 } (.empty none : Registry DemoCommand) .empty).handleAll
    (.upTo (.upTo .info)) [" a ", "b", ":up", ":go", "\"\""]).history.entries.items
      = ["b", "b"] := by rfl

end Console

end DebugConsole
