import DebugConsole.ConsoleError
import DebugConsole.Text.Blank

/-!
# Presets

Command lines prepared in advance, each with a name to show and perhaps a description and a group.
The catalog keeps them in ascending order of their groups, the ungrouped ones first, and within a
group in the order in which they were added.
-/

namespace DebugConsole

/-- A prepared command line. -/
structure Preset where
  text        : String
  name        : String
  description : Option String
  group       : Option String
  /-- Execute the line on activation, and do not just fill it in. -/
  immediate   : Bool
deriving DecidableEq, Repr

/-- The place of a preset's group in the order of groups. -/
def Preset.groupKey (e : Preset) : String := e.group.getD ""

/-- Every text of the preset is trimmed and not empty. -/
structure Preset.Normal (e : Preset) : Prop where
  text        : Text.Trimmed e.text
  name        : Text.Trimmed e.name
  description : ∀ d ∈ e.description, Text.Trimmed d
  group       : ∀ g ∈ e.group, Text.Trimmed g

/-- Groups ascend. -/
def Preset.Ordered (l : List Preset) : Prop := l.Pairwise (·.groupKey ≤ ·.groupKey)

/-- Put a preset behind all those whose group does not come after its own. -/
def Preset.insert (e : Preset) : List Preset → List Preset
  | []     => [e]
  | d :: l => if e.groupKey < d.groupKey then e :: d :: l else d :: Preset.insert e l

theorem Preset.mem_insert {e d : Preset} {l : List Preset} :
    d ∈ Preset.insert e l ↔ d = e ∨ d ∈ l := by
  induction l with
  | nil => simp [Preset.insert]
  | cons c l ih =>
    unfold Preset.insert
    split
    · simp
    · simp only [List.mem_cons, ih]
      exact or_left_comm

theorem Preset.Ordered.insert {l : List Preset} (h : Preset.Ordered l) (e : Preset) :
    Preset.Ordered (Preset.insert e l) := by
  induction l with
  | nil => exact List.pairwise_singleton ..
  | cons d l ih =>
    obtain ⟨hd, hl⟩ := List.pairwise_cons.mp h
    unfold Preset.insert
    split
    · next hlt =>
      refine List.pairwise_cons.mpr ⟨fun c hc => ?_, h⟩
      rcases List.mem_cons.mp hc with rfl | hc
      · exact Std.le_of_lt hlt
      · exact Std.le_trans (Std.le_of_lt hlt) (hd c hc)
    · next hlt =>
      refine List.pairwise_cons.mpr ⟨fun c hc => ?_, ih hl⟩
      rcases Preset.mem_insert.mp hc with rfl | hc
      · exact String.not_lt.mp hlt
      · exact hd c hc

/-! ### The catalog -/

/-- Presets in ascending order of their groups. -/
structure Catalog where
  entries : List Preset
  ordered : Preset.Ordered entries
  normal  : ∀ e ∈ entries, e.Normal

namespace Catalog

def empty : Catalog where
  entries := []
  ordered := List.Pairwise.nil
  normal  := by simp

instance : Inhabited Catalog := ⟨empty⟩

/-- The preset of untrimmed texts, of which the first two must not be blank. -/
def preset (text name : String) (description group : Option String) (immediate : Bool) :
    Preset where
  text        := Text.trim text
  name        := Text.trim name
  description := Text.trimmed? description
  group       := Text.trimmed? group
  immediate   := immediate

theorem normal_preset {text name : String} (description group : Option String) (immediate : Bool)
    (ht : ¬ Text.isBlankText text) (hn : ¬ Text.isBlankText name) :
    (preset text name description group immediate).Normal where
  text        := Text.trimmed_trim ht
  name        := Text.trimmed_trim hn
  description := fun _ h => Text.trimmed_of_trimmed? h
  group       := fun _ h => Text.trimmed_of_trimmed? h

/-- Add a preset; its texts are trimmed, and a blank description or group counts as none. -/
def add (c : Catalog) (text name : String) (description group : Option String)
    (immediate : Bool) : Except ConsoleError Catalog :=
  if ht : Text.isBlankText text then .error (.invalidArgument "preset text cannot be empty")
  else if hn : Text.isBlankText name then
    .error (.invalidArgument "preset name cannot be empty")
  else
    let e := preset text name description group immediate
    .ok
      { entries := Preset.insert e c.entries
        ordered := c.ordered.insert e
        normal  := fun d hd => by
          rcases Preset.mem_insert.mp hd with rfl | hd
          · exact normal_preset description group immediate ht hn
          · exact c.normal d hd }

/-- Remove the preset at a position, and tell whether there was one. -/
def removeAt (c : Catalog) (index : Nat) : Catalog × Bool :=
  ({ entries := c.entries.eraseIdx index
     ordered := c.ordered.sublist (List.eraseIdx_sublist ..)
     normal  := fun e he => c.normal e (List.mem_of_mem_eraseIdx he) },
    decide (index < c.entries.length))

/-- Remove the first preset of a name, and tell whether there was one. -/
def removeByName (c : Catalog) (name : String) : Catalog × Bool :=
  ({ entries := c.entries.eraseP (·.name == name)
     ordered := c.ordered.sublist List.eraseP_sublist
     normal  := fun e he => c.normal e (List.mem_of_mem_eraseP he) },
    c.entries.any (·.name == name))

def clear (_ : Catalog) : Catalog := empty

def get? (c : Catalog) (index : Nat) : Option Preset := c.entries[index]?

def texts (c : Catalog) : List String := c.entries.map (·.text)

def names (c : Catalog) : List String := c.entries.map (·.name)

@[simp] theorem entries_empty : empty.entries = [] := rfl

@[simp] theorem entries_removeAt (c : Catalog) (index : Nat) :
    (c.removeAt index).1.entries = c.entries.eraseIdx index := rfl

@[simp] theorem entries_removeByName (c : Catalog) (name : String) :
    (c.removeByName name).1.entries = c.entries.eraseP (·.name == name) := rfl

end Catalog

end DebugConsole
