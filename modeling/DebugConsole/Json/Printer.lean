import DebugConsole.Decimal.Layout
import DebugConsole.Json.Value
import DebugConsole.Text.Hex

/-!
# Printing JSON values

A value over several lines: two blanks a level, one item or field a line, and an empty list or
object in two characters.
-/

namespace DebugConsole.Json

/-! ### Scalars -/

/-- A double in the fewest digits: positionally with a point from `1e-5` up to `1e16`, otherwise
with an exponent. A value that is no number or not finite has no JSON form and is null. -/
def floatText (x : Float) : List Char :=
  match Decimal.Format.double.decode x.toBits.toNat with
  | .finite negative m e =>
      Decimal.signed negative <| if m = 0 then ['0', '.', '0'] else
        let (digits, exponent) := Decimal.shortest .double .even m e
        -- The power of ten of the first digit.
        let lead := exponent + (Decimal.digitCount digits - 1 : Nat)
        if -5 ≤ lead ∧ lead < 16 then Decimal.pointed digits exponent
        else Decimal.scientific digits exponent
  | .infinite _ | .nan   => ['n', 'u', 'l', 'l']

def Number.text : Number → List Char
  | .whole n => (toString n).toList
  | .float x => floatText x

/-- The characters of one character of a string. -/
def escape (c : Char) : List Char :=
  if c = '"' ∨ c = '\\' then ['\\', c]
  else if c = '\x08' then ['\\', 'b']
  else if c = '\x0c' then ['\\', 'f']
  else if c = '\n' then ['\\', 'n']
  else if c = '\r' then ['\\', 'r']
  else if c = '\t' then ['\\', 't']
  else if c < ' ' then
    ['\\', 'u', '0', '0', Text.hexLower (c.toNat / 16), Text.hexLower (c.toNat % 16)]
  else [c]

/-- A string between its quotes. -/
def stringText (s : String) : List Char := '"' :: (s.toList.flatMap escape ++ ['"'])

/-! ### Values -/

/-- A new line at a level. -/
def newLine (level : Nat) : List Char := '\n' :: List.replicate (2 * level) ' '

mutual

/-- A value whose first line stands at a level. -/
def prettyAt (level : Nat) : Value → List Char
  | .null              => ['n', 'u', 'l', 'l']
  | .boolean true      => ['t', 'r', 'u', 'e']
  | .boolean false     => ['f', 'a', 'l', 's', 'e']
  | .number n          => n.text
  | .string s          => stringText s
  | .array []          => ['[', ']']
  | .array (v :: vs)   =>
      '[' :: newLine (level + 1) ++ prettyAt (level + 1) v ++ prettyItems (level + 1) vs
        ++ newLine level ++ [']']
  | .object []         => ['{', '}']
  | .object ((k, v) :: fs) =>
      '{' :: newLine (level + 1) ++ stringText k ++ ':' :: ' ' :: prettyAt (level + 1) v
        ++ prettyFields (level + 1) fs ++ newLine level ++ ['}']

/-- The items after the first one. -/
def prettyItems (level : Nat) : List Value → List Char
  | []      => []
  | v :: vs => ',' :: newLine level ++ prettyAt level v ++ prettyItems level vs

/-- The fields after the first one. -/
def prettyFields (level : Nat) : List (String × Value) → List Char
  | []           => []
  | (k, v) :: fs =>
      ',' :: newLine level ++ stringText k ++ ':' :: ' ' :: prettyAt level v
        ++ prettyFields level fs

end

/-- A value over several lines. -/
def Value.pretty (v : Value) : String := String.ofList (prettyAt 0 v)

end DebugConsole.Json
