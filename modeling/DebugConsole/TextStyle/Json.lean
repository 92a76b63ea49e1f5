import DebugConsole.Json.Typed
import DebugConsole.TextStyle

/-!
# Colors, styles and severities as JSON

A color is a string with its hexadecimal form. A style is an object of which every field may be
missing, or a list of the values of its fields of which the last ones may be missing. A severity is
its name, as a string or as the only field of an object whose value is null.
-/

namespace DebugConsole

open Json (Reading Fault)
open Text (Scanned)

/-! ### Colors -/

def Color.reader (s : List Char) : Reading Color s :=
  match Json.aString "a string" s with
  | .error e => .error e
  | .ok text =>
      match Color.ofHex? text.value with
      | some c => .ok (text.map fun _ => c)
      | none   => .error (.mismatch (.color text.value))

def Color.ofJson (text : String) : Except Json.Error Color := Json.readAll Color.reader text

def Color.toJson (c : Color) : String := String.ofList (Json.stringText c.toHex)

/-! ### Styles -/

namespace TextStyle

/-- The fields of a style that were read so far. -/
structure Fields where
  color  : Option (Option Color) := none
  bold   : Option Bool := none
  italic : Option Bool := none

/-- The style of the fields that were read. -/
def Fields.style (f : Fields) : TextStyle where
  color  := f.color.getD none
  bold   := f.bold.getD false
  italic := f.italic.getD false

/-- Whether a field was read before. -/
def Fields.has (f : Fields) (name : String) : Bool :=
  if name = "color" then f.color.isSome
  else if name = "bold" then f.bold.isSome
  else if name = "italic" then f.italic.isSome
  else false

/-- Read the value of a field; the value of a field that styles do not have is passed over. -/
def Fields.readValue (f : Fields) (name : String) (s : List Char) : Reading Fields s :=
  if name = "color" then
    (Json.orNull Color.reader s).map (·.map fun c => { f with color := some c })
  else if name = "bold" then (Json.aBoolean s).map (·.map fun b => { f with bold := some b })
  else if name = "italic" then (Json.aBoolean s).map (·.map fun b => { f with italic := some b })
  else (Json.skipValue s).map (·.map fun _ => f)

/-- Read a field after the opening quote of its name. -/
def Fields.readField (f : Fields) (s : List Char) : Reading Fields s :=
  match Json.stringFrom [] s with
  | .error e => .error e
  | .ok name =>
      if f.has name.value then .error (.mismatch (.duplicateField name.value))
      else
        match Json.colon name.rest with
        | .error e => .error e
        | .ok c    =>
            (f.readValue name.value c.rest).map fun v => name.andThen (c.andThen v)

/-- Read the closing bracket of a list that may hold no more. -/
def closing (s : List Char) : Reading Unit s :=
  match Json.skip s with
  | ⟨[], _⟩     => .error (.next .endInList [])
  | ⟨c :: r, h⟩ =>
      if c = ']' then .ok (.within h (.tail ()))
      else if c = ',' then
        let t := (Json.skip r).text
        .error (.next (if t.head? = some ']' then .trailingComma else .trailingCharacters) t)
      else .error (.next .trailingCharacters (c :: r))

/-- Read the values of these fields from a list after its opening bracket. -/
def Fields.readList (f : Fields) (first : Bool) : List String → (s : List Char) → Reading Fields s
  | [], s            => (closing s).map (·.map fun _ => f)
  | name :: names, s =>
      match Json.listAhead first s with
      | .error e              => .error e
      | .ok (.closed bracket) => .ok (bracket.map fun _ => f)
      | .ok (.entry t)        =>
          match f.readValue name t.text with
          | .error e => .error e
          | .ok v    => (v.value.readList false names v.rest).map fun r => .after t (v.andThen r)

def reader : (s : List Char) → Reading TextStyle s :=
  Json.expect fun c r =>
    if c = '[' then
      (Fields.readList {} true ["color", "bold", "italic"] r).map (·.map Fields.style |>.cons)
    else if c = '{' then
      (Json.fieldsFrom Fields.readField {} true r).map (·.map Fields.style |>.cons)
    else .error (Json.wrong "struct TextStyle" (c :: r))

def ofJson (text : String) : Except Json.Error TextStyle := Json.readAll reader text

end TextStyle

/-! ### Severities -/

namespace Severity

/-- The severity of a name that was read. -/
def ofNameRead {s : List Char} (name : Scanned String s) : Reading Severity s :=
  match ofName? name.value with
  | some v => .ok (name.map fun _ => v)
  | none   => .error (.mismatch (.variant name.value (all.map Severity.name)))

/-- Read a severity's name after its opening quote. -/
def nameReader (s : List Char) : Reading Severity s :=
  match Json.stringFrom [] s with
  | .error e => .error e
  | .ok name => ofNameRead name

/-- Read the null that is the value of a severity's field, and the closing brace. -/
def fieldEnd (s : List Char) : Reading Unit s :=
  match Json.aNull "unit" s with
  | .error e => .error e
  | .ok n    =>
      match Json.skip n.rest with
      | ⟨[], _⟩     => .error (.here .endInObject [])
      | ⟨c :: r, h⟩ =>
          if c = '}' then .ok (n.andThen (.within h (.tail ())))
          else .error (.here .value (c :: r))

/-- Read a severity that is the only field of an object, after the opening brace. -/
def fieldReader (s : List Char) : Reading Severity s :=
  match Json.objectAhead true s with
  | .error e        => .error e
  | .ok (.closed _) => .error (.next .value (Json.skip s).text)
  | .ok (.entry t)  =>
      match nameReader t.text with
      | .error e => .error e
      | .ok v    =>
          match Json.colon v.rest with
          | .error e => .error e
          | .ok c    =>
              (fieldEnd c.rest).map fun n =>
                .after t (v.andThen (c.andThen (n.map fun _ => v.value)))

def reader : (s : List Char) → Reading Severity s :=
  Json.expect fun c r =>
    if c = '{' then (fieldReader r).map .cons
    else if c = '"' then (nameReader r).map .cons
    else .error (.next .value (c :: r))

def ofJson (text : String) : Except Json.Error Severity := Json.readAll reader text

def toJson (s : Severity) : String := String.ofList (Json.stringText s.name)

end Severity

end DebugConsole
