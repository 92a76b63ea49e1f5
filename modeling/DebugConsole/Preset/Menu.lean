import DebugConsole.Preset.Catalog

/-!
# The preset menu

The rows that show a catalog: a header for every group and a button for every preset that is
ungrouped or in the expanded group.
-/

namespace DebugConsole

/-- The header above ungrouped presets. -/
def ungroupedLabel : String := "Etc."

/-- A row of the menu. -/
inductive MenuRow where
  /-- The header of a named group. -/
  | group     (name : String) (expanded : Bool)
  /-- The header above ungrouped presets. -/
  | ungrouped
  /-- The button of a preset, with its position in the catalog. -/
  | preset    (index : Nat) (entry : Preset)
deriving DecidableEq, Repr

namespace MenuRow

/-- The header of a group. -/
def header (expanded : Option String) : Option String → MenuRow
  | some name => .group name (expanded == some name)
  | none      => .ungrouped

/-- Whether the presets of a group are shown. -/
def isOpen (expanded : Option String) (group : Option String) : Bool :=
  group.isNone || group == expanded

/-- The rows of presets from a position on, after a preset of the given group if there was one. -/
def rowsFrom (expanded : Option String) (above : Option (Option String)) (index : Nat) :
    List Preset → List MenuRow
  | []     => []
  | e :: l =>
      (if above = some e.group then [] else [header expanded e.group])
        ++ (if isOpen expanded e.group then [.preset index e] else [])
        ++ rowsFrom expanded (some e.group) (index + 1) l

end MenuRow

/-- The rows of the menu when a group, or none, is expanded. -/
def Catalog.menu (c : Catalog) (expanded : Option String) : List MenuRow :=
  MenuRow.rowsFrom expanded none 0 c.entries

end DebugConsole
