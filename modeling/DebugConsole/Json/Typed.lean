import DebugConsole.Json.Printer
import DebugConsole.Json.Skipped

/-!
# JSON values of a given kind

Readers for a value of which the kind is known. A value of another kind is reported by what it is;
a list or an object is reported without being read.
-/

namespace DebugConsole.Json

open Text (Scanned)

/-! ### Mismatches -/

/-- What a number is found to be. -/
def Number.found : Number → Found
  | .whole n => .integer n
  | .float x => .floating (String.ofList (floatText x))

/-- The fault of a scalar of the wrong kind, once it was read. -/
def wrongKind {α : Type} {s : List Char} (expected : String) (found : α → Found)
    (r : Reading α s) : Fault :=
  match r with
  | .error e => e
  | .ok v    => .mismatch (.type (found v.value) expected)

/-- The fault of a text that does not start with a value of the expected kind. -/
def wrong (expected : String) : List Char → Fault
  | []     => .next .value []
  | c :: r =>
      if c = 'n' then wrongKind expected (fun _ => .null) (wordAfter () ['u', 'l', 'l'] c r)
      else if c = 't' then
        wrongKind expected .boolean (wordAfter true ['r', 'u', 'e'] c r)
      else if c = 'f' then
        wrongKind expected .boolean (wordAfter false ['a', 'l', 's', 'e'] c r)
      else if c = '-' ∨ c.isDigit then wrongKind expected Number.found (number (c :: r))
      else if c = '"' then wrongKind expected .string (stringFrom [] r)
      else if c = '[' then .mismatch (.type .sequence expected)
      else if c = '{' then .mismatch (.type .map expected)
      else .next .value (c :: r)

/-- Read a value of which the first character tells the kind. -/
def expect {α : Type} (start : (c : Char) → (r : List Char) → Reading α (c :: r)) (s : List Char) :
    Reading α s :=
  match skip s with
  | ⟨[], _⟩     => .error (.next .endInValue [])
  | ⟨c :: r, h⟩ => (start c r).map (.within h)

/-! ### Kinds -/

def aString (expected : String) : (s : List Char) → Reading String s :=
  expect fun c r =>
    if c = '"' then (stringFrom [] r).map .cons else .error (wrong expected (c :: r))

def aBoolean : (s : List Char) → Reading Bool s :=
  expect fun c r =>
    if c = 't' then wordAfter true ['r', 'u', 'e'] c r
    else if c = 'f' then wordAfter false ['a', 'l', 's', 'e'] c r
    else .error (wrong "a boolean" (c :: r))

def aNull (expected : String) : (s : List Char) → Reading Unit s :=
  expect fun c r =>
    if c = 'n' then wordAfter () ['u', 'l', 'l'] c r else .error (wrong expected (c :: r))

/-- Read the word `null` as nothing, and anything else with a reader. -/
def orNull {α : Type} (reader : (s : List Char) → Reading α s) (s : List Char) :
    Reading (Option α) s :=
  if (skip s).text.head? = some 'n' then (aNull "" s).map (·.map fun _ => none)
  else (reader s).map (·.map some)

end DebugConsole.Json
