import DebugConsole.Decimal.Layout
import DebugConsole.Mismatch
import DebugConsole.TextStyle
import DebugConsole.Toml.Value

/-!
# TOML values of a given kind

What a value stands for when its kind is known, or why it does not fit.
-/

namespace DebugConsole.Toml

/-- What a value is found to be; a date or a time is found to be a map. -/
def Value.found : Value → Found
  | .string s          => .string s
  | .integer n         => .integer n
  | .float x           => .floating (Decimal.plainPointedText x)
  | .boolean b         => .boolean b
  | .array _           => .sequence
  | .datetime          => .map
  | .table _           => .map

/-- A number that counts. -/
def Value.natural : Value → Except Mismatch Nat
  | .integer (.ofNat n) => .ok n
  | .integer n          => .error (.value (.integer n) "usize")
  | v                   => .error (.type v.found "usize")

def Value.asBoolean : Value → Except Mismatch Bool
  | .boolean b => .ok b
  | v          => .error (.type v.found "a boolean")

/-- A character: a string of exactly one. -/
def Value.asCharacter : Value → Except Mismatch Char
  | .string s =>
      match s.toList with
      | [c] => .ok c
      | _   => .error (.value (.string s) "a character")
  | v         => .error (.type v.found "a character")

/-- A color: a string with its hexadecimal form. -/
def Value.asColor : Value → Except Mismatch Color
  | .string s =>
      match Color.ofHex? s with
      | some c => .ok c
      | none   => .error (.color s)
  | v         => .error (.type v.found "a string")

/-! ### Styles -/

/-- A style with the value of a field in place of its own; styles have no other fields. -/
def setStyleField (style : TextStyle) (name : String) (v : Value) : Except Mismatch TextStyle :=
  if name = "color" then v.asColor.map fun c => { style with color := some c }
  else if name = "bold" then v.asBoolean.map fun b => { style with bold := b }
  else if name = "italic" then v.asBoolean.map fun b => { style with italic := b }
  else .ok style

/-- A style: a table with its fields, or a list with the values of its first fields. A date or a
time has none of the fields. -/
def Value.asStyle : Value → Except Mismatch TextStyle
  | .table entries => entries.foldlM (fun style (name, v) => setStyleField style name v) {}
  | .array items   =>
      (["color", "bold", "italic"].zip items).foldlM
        (fun style (name, v) => setStyleField style name v) {}
  | .datetime      => .ok {}
  | v              => .error (.type v.found "struct TextStyle")

end DebugConsole.Toml
