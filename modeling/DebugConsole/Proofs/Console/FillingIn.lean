import DebugConsole.Proofs.Console.Activation

/-!
# Presets executed at once and presets filled in

Activating a preset that is executed at once does the work of filling in the same preset and
submitting the input line: the same command is called with the same tokens, it leaves the same
state, and the answer is the same. What the input line held before is kept by the one and lost by
the other, and nothing else tells them apart.
-/

namespace DebugConsole

/-! ### The flag of a preset -/

/-- The preset executed at once, or filled in. -/
def Preset.flagged (immediate : Bool) (e : Preset) : Preset := { e with immediate }

namespace Catalog

variable (c : Catalog) (index : Nat) (immediate : Bool)

lemma map_groupKey_modify (entries : List Preset) :
    (entries.modify index (Preset.flagged immediate)).map Preset.groupKey
      = entries.map Preset.groupKey := by
  refine List.ext_getElem? fun i => ?_
  rw [List.getElem?_map, List.getElem?_modify, List.getElem?_map]
  cases entries[i]? with
  | none => rfl
  | some e => by_cases hi : index = i <;> simp [hi, Preset.flagged, Preset.groupKey]

lemma normal_of_mem_modify {e : Preset}
    (he : e ∈ c.entries.modify index (Preset.flagged immediate)) : e.Normal := by
  obtain ⟨i, hi⟩ := List.mem_iff_getElem?.mp he
  rw [List.getElem?_modify] at hi
  obtain ⟨d, hd, rfl⟩ := Option.map_eq_some_iff.mp hi
  obtain ⟨text, name, description, group⟩ := c.normal d (List.mem_of_getElem? hd)
  split
  · exact ⟨text, name, description, group⟩
  · exact ⟨text, name, description, group⟩

/-- The catalog in which the preset at a position is executed at once, or filled in. -/
def flag : Catalog where
  entries := c.entries.modify index (Preset.flagged immediate)
  ordered := by
    have hordered := c.ordered
    rw [Preset.Ordered, ← List.pairwise_map (f := Preset.groupKey) (R := (· ≤ ·))] at hordered ⊢
    rwa [map_groupKey_modify]
  normal  := fun _ he => c.normal_of_mem_modify index immediate he

/-- Only the preset at the position is another one, and only its flag is another. -/
lemma get?_flag (i : Nat) :
    (c.flag index immediate).get? i
      = (c.get? i).map fun e => if index = i then e.flagged immediate else e := by
  rw [get?, flag, List.getElem?_modify, get?]
  split <;> rfl

end Catalog

namespace Console

variable {η : Type} [Handler η] (c : Console η) (facade : Facade) (index : Nat)

/-! ### Two ways to work -/

/-- Activate the preset at a position as one that is executed at once. -/
def activateNow : Console η × Option Activation :=
  ({ c with presets := c.presets.flag index true } : Console η).activateAt facade index

/-- Activate the preset at a position as one that is filled in. -/
def fillIn : Console η × Option Activation :=
  ({ c with presets := c.presets.flag index false } : Console η).activateAt facade index

/-- Fill in the preset at a position and submit the input line. -/
def fillInAndSubmit : Console η × Bool := (c.fillIn facade index).1.submit facade

section

variable {c index} {e : Preset} (h : c.presets.get? index = some e)

include h

omit [Handler η] in
lemma get?_flag_eq (immediate : Bool) (i : Nat) :
    (c.presets.flag index immediate).get? i
      = if i = index then some (e.flagged immediate) else c.presets.get? i := by
  rw [Catalog.get?_flag]
  by_cases hi : i = index
  · simp [hi, h]
  · simp [hi, Ne.symm hi]

omit [Handler η] in
lemma get?_flag_self (immediate : Bool) :
    (c.presets.flag index immediate).get? index = some (e.flagged immediate) := by
  rw [get?_flag_eq h, if_pos rfl]

lemma activateNow_eq :
    c.activateNow facade index =
      ({ (c.execute facade e.text).1 with
          presets  := c.presets.flag index true
          input    := c.input
          helpText := e.description.getD "" },
        some (.executed (c.execute facade e.text).2)) := by
  have hapart := execute_apart c facade (c.presets.flag index true) c.input c.helpText e.text
  rw [activateNow, activateAt_of_immediate facade (get?_flag_self h true) rfl, Preset.flagged,
    hapart]

lemma fillIn_eq :
    c.fillIn facade index =
      ({ c with
          presets  := c.presets.flag index false
          input    := e.text
          helpText := e.description.getD "" }, some .filled) := by
  rw [fillIn, activateAt_of_filled facade (get?_flag_self h false) rfl]
  rfl

lemma fillInAndSubmit_eq :
    c.fillInAndSubmit facade index =
      ({ (c.execute facade e.text).1 with
          presets  := c.presets.flag index false
          input    := ""
          helpText := e.description.getD "" },
        (c.execute facade e.text).2) := by
  rw [fillInAndSubmit, fillIn_eq facade h, submit, setInput]
  exact execute_apart c facade (c.presets.flag index false) "" (e.description.getD "") e.text

end

/-! ### The same work -/

/-- What the two ways to activate the preset at a position have in common, and what not. -/
structure SameWork (c : Console η) (facade : Facade) (index : Nat) (e : Preset) : Prop where
  /-- Both answer whether there was a command. -/
  answers  : (c.activateNow facade index).2
      = some (.executed (c.fillInAndSubmit facade index).2) ∧
    (c.fillIn facade index).2 = some .filled
  /-- Both call the same command once, with all tokens of the text, and no other. -/
  calls    : ∀ p, (c.watched.activateNow facade index).1.callsOf p
      = (if c.Calls e.text p then [lineTokens e.text] else []) ∧
    (c.watched.fillInAndSubmit facade index).1.callsOf p
      = if c.Calls e.text p then [lineTokens e.text] else []
  /-- The two consoles agree in all but the input line and the presets. -/
  consoles : (c.fillInAndSubmit facade index).1 =
    { (c.activateNow facade index).1 with
        input   := (c.fillInAndSubmit facade index).1.input
        presets := (c.fillInAndSubmit facade index).1.presets }
  /-- The input line is kept, or it is empty. -/
  inputs   : (c.activateNow facade index).1.input = c.input ∧
    (c.fillInAndSubmit facade index).1.input = ""
  /-- The presets are as they were, but for the flag of the one at the position. -/
  presets  : ∀ i, (c.activateNow facade index).1.presets.get? i
      = (if i = index then some { e with immediate := true } else c.presets.get? i) ∧
    (c.fillInAndSubmit facade index).1.presets.get? i
      = if i = index then some { e with immediate := false } else c.presets.get? i
  /-- Both show the description of the preset. -/
  helpText : (c.activateNow facade index).1.helpText = e.description.getD ""

/-- Whatever its text and whatever its command does, a preset that is executed at once does the work
of the same preset when it is filled in and the input line is submitted. -/
theorem sameWork (c : Console η) (facade : Facade) {index : Nat} {e : Preset}
    (h : c.presets.get? index = some e) : c.SameWork facade index e := by
  have hcalls (p : String) :
      ((c.watched.execute facade e.text).1.registry.lookup p).elim [] Watched.calls
        = if c.Calls e.text p then [lineTokens e.text] else [] :=
    (execution_contract c facade e.text).calls p
  constructor
  case answers =>
    simp only [activateNow_eq facade h, fillInAndSubmit_eq facade h, fillIn_eq facade h, and_self]
  case calls =>
    intro p
    have hwatched : c.watched.presets.get? index = some e := h
    rw [activateNow_eq facade hwatched, fillInAndSubmit_eq facade hwatched]
    dsimp only [callsOf]
    exact ⟨hcalls p, hcalls p⟩
  case consoles => rw [activateNow_eq facade h, fillInAndSubmit_eq facade h]
  case inputs =>
    simp only [activateNow_eq facade h, fillInAndSubmit_eq facade h, and_self]
  case presets =>
    intro i
    rw [activateNow_eq facade h, fillInAndSubmit_eq facade h]
    exact ⟨get?_flag_eq h true i, get?_flag_eq h false i⟩
  case helpText => rw [activateNow_eq facade h]

/-- A console that echoes lines, with the demo commands and presets and a line begun. -/
def begunConsole : Console DemoCommand :=
  let c : Console DemoCommand := ofConfig { echoCommands := true }
  (c.registerDemoCommands .silent id).1.addDemoPresets.1.setInput "/ech"

/-- A command that fails does so in either way, below the echo of its line. -/
theorem sameWork_begunConsole :
    ∃ e, begunConsole.presets.get? 5 = some e ∧ begunConsole.SameWork .silent 5 e ∧
      (begunConsole.fillInAndSubmit .silent 5).1.log.lines.items.map LogLine.text
        = [">/fail \"something broke\"", "Exception: something broke"] := by
  refine ⟨_, rfl, sameWork begunConsole .silent rfl, by rfl⟩

end Console

end DebugConsole
