import DebugConsole.Json.Scalar
import DebugConsole.Keyed

/-!
# Reading JSON values

A value may hold values down to a fixed depth. Of several fields with one name the last one counts.
-/

namespace DebugConsole.Json

open Text (Rest Scanned)

/-! ### Between entries -/

/-- What comes next inside a list or an object. -/
inductive Ahead (s : List Char) where
  /-- It is closed. -/
  | closed (bracket : Scanned Unit s)
  /-- An entry starts here; in an object the quote of its name was read. -/
  | entry  (start : Rest s)

/-- Look for an item of a list or its end; before any but the first item comes a comma. -/
def listAhead (first : Bool) (s : List Char) : Except Fault (Ahead s) :=
  match skip s with
  | ⟨[], _⟩     => .error (.next .endInList [])
  | ⟨c :: r, h⟩ =>
      if c = ']' then .ok (.closed (.within h (.tail ())))
      else if first then .ok (.entry ⟨c :: r, h⟩)
      else if c = ',' then
        match skip r with
        | ⟨[], _⟩      => .error (.next .endInValue [])
        | ⟨d :: t, h'⟩ =>
            if d = ']' then .error (.next .trailingComma (d :: t))
            else .ok (.entry (.within h (.cons ⟨d :: t, h'⟩)))
      else .error (.next .listCommaOrEnd (c :: r))

/-- Look for a field of an object or its end; before any but the first field comes a comma. -/
def objectAhead (first : Bool) (s : List Char) : Except Fault (Ahead s) :=
  match skip s with
  | ⟨[], _⟩     => .error (.next .endInObject [])
  | ⟨c :: r, h⟩ =>
      if c = '}' then .ok (.closed (.within h (.tail ())))
      else if first then
        if c = '"' then .ok (.entry (.within h .tail))
        else .error (.next .keyNotString (c :: r))
      else if c = ',' then
        match skip r with
        | ⟨[], _⟩      => .error (.next .endInValue [])
        | ⟨d :: t, h'⟩ =>
            if d = '"' then .ok (.entry (.within h (.cons (.within h' .tail))))
            else .error (.next (if d = '}' then .trailingComma else .keyNotString) (d :: t))
      else .error (.next .objectCommaOrEnd (c :: r))

/-- Read the opening quote of a name after its blanks. -/
def nameQuote (s : List Char) : Reading Unit s :=
  match skip s with
  | ⟨[], _⟩     => .error (.next .endInObject [])
  | ⟨c :: r, h⟩ =>
      if c = '"' then .ok (.within h (.tail ())) else .error (.next .keyNotString (c :: r))

/-- Read a colon after its blanks. -/
def colon (s : List Char) : Reading Unit s :=
  match skip s with
  | ⟨[], _⟩     => .error (.next .endInObject [])
  | ⟨c :: r, h⟩ =>
      if c = ':' then .ok (.within h (.tail ())) else .error (.next .colon (c :: r))

/-! ### Lists and objects -/

/-- Read the rest of a list after the items read so far, which are reversed. -/
def listFrom {α : Type} (item : (s : List Char) → Reading α s) (read : List α) (first : Bool)
    (s : List Char) : Reading (List α) s :=
  match listAhead first s with
  | .error e              => .error e
  | .ok (.closed bracket) => .ok (bracket.map fun _ => read.reverse)
  | .ok (.entry t)        =>
      match item t.text with
      | .error e => .error e
      | .ok v    =>
          (listFrom item (v.value :: read) false v.rest).map fun r => .after t (v.andThen r)
termination_by s.length
decreasing_by have := v.shorter; have := t.le; omega

/-- Read the rest of an object; every field, from its name on, changes what was read so far. -/
def fieldsFrom {β : Type} (field : β → (s : List Char) → Reading β s) (read : β) (first : Bool)
    (s : List Char) : Reading β s :=
  match objectAhead first s with
  | .error e              => .error e
  | .ok (.closed bracket) => .ok (bracket.map fun _ => read)
  | .ok (.entry t)        =>
      match field read t.text with
      | .error e => .error e
      | .ok v    => (fieldsFrom field v.value false v.rest).map fun r => .after t (v.andThen r)
termination_by s.length
decreasing_by have := v.shorter; have := t.le; omega

/-- Read a name after its opening quote, and the colon. -/
def fieldName (s : List Char) : Reading String s :=
  match stringFrom [] s with
  | .error e => .error e
  | .ok name =>
      (colon name.rest).map fun r => name.andThen (r.map fun _ => name.value)

/-! ### Values -/

/-- Read a field and put it among the fields read so far. -/
def addField (item : (s : List Char) → Reading Value s) (read : List (String × Value))
    (s : List Char) : Reading (List (String × Value)) s :=
  match fieldName s with
  | .error e => .error e
  | .ok name =>
      (item name.rest).map fun v => name.andThen (v.map (Keyed.insert name.value · read))

/-- Read a value; without a reader for the values inside it, lists and objects are too deep. -/
def valueWith (item? : Option ((s : List Char) → Reading Value s)) (s : List Char) :
    Reading Value s :=
  match skip s with
  | ⟨[], _⟩     => .error (.next .endInValue [])
  | ⟨c :: r, h⟩ =>
      let read : Reading Value (c :: r) :=
        if c = 'n' then wordAfter .null ['u', 'l', 'l'] c r
        else if c = 't' then wordAfter (.boolean true) ['r', 'u', 'e'] c r
        else if c = 'f' then wordAfter (.boolean false) ['a', 'l', 's', 'e'] c r
        else if c = '-' ∨ c.isDigit then (number (c :: r)).map (·.map .number)
        else if c = '"' then (stringFrom [] r).map (·.map .string |>.cons)
        else if c = '[' ∨ c = '{' then
          match item? with
          | none      => .error (.next .depth (c :: r))
          | some item =>
              if c = '[' then (listFrom item [] true r).map (·.map .array |>.cons)
              else (fieldsFrom (addField item) [] true r).map (·.map .object |>.cons)
        else .error (.next .value (c :: r))
      read.map (.within h)

/-- How deep lists and objects may lie in each other. -/
def depthLimit : Nat := 127

/-- Read a value that may hold values down to a depth. -/
def value : Nat → (s : List Char) → Reading Value s
  | 0         => valueWith none
  | depth + 1 => valueWith (some (value depth))

/-- What a reader finds in a text, if nothing but blanks is left. -/
def readAll {α : Type} (reader : (s : List Char) → Reading α s) (text : String) :
    Except Error α :=
  let s := text.toList
  match reader s with
  | .error e => .error (e.locate s)
  | .ok v    =>
      let rest := (skip v.rest).text
      if rest.isEmpty then .ok v.value
      else .error ((Fault.next .trailingCharacters rest).locate s)

/-- The value that a text stands for. -/
def Value.ofText (text : String) : Except Error Value := readAll (value depthLimit) text

end DebugConsole.Json
