import DebugConsole.Json.Reader

/-!
# Skipping JSON values

The value of a field that nobody asked for is passed over. What is passed over is checked less
closely than what is read: numbers may be of any size, halves of code unit pairs may stand alone,
and values may lie in each other to any depth.
-/

namespace DebugConsole.Json

open Text (Rest Scanned)

/-! ### Scalars -/

/-- Pass over what follows a backslash. -/
def skipEscaped : (s : List Char) → Reading Unit s
  | []     => .error (.here .endInString [])
  | c :: s =>
      if (simpleEscape? c).isSome then .ok (.tail ())
      else if c = 'u' then (quad s).map (·.map (fun _ => ()) |>.cons)
      else .error (.next .escape (c :: s))

/-- Pass over a string after its opening quote. -/
def skipString (s : List Char) : Reading Unit s :=
  match s with
  | []     => .error (.here .endInString [])
  | c :: s =>
      if c = '"' then .ok (.tail ())
      else if c = '\\' then
        match skipEscaped s with
        | .error e => .error e
        | .ok x    => (skipString x.rest).map fun r => .cons (x.andThen r)
      else if c < ' ' then .error (.here .controlCharacter (c :: s))
      else (skipString s).map .cons
termination_by s.length
decreasing_by
  · have := x.shorter
    simp only [List.length_cons]; omega
  · simp

/-- Pass over an exponent after its letter. -/
def skipExponent (s : List Char) : Except Fault (Rest s) :=
  match (exponentSign s).2 with
  | ⟨[], _⟩     => .error (.here .number [])
  | ⟨c :: r, h⟩ =>
      if c.isDigit then .ok ((skipDigits r).cons.within h) else .error (.next .number (c :: r))

/-- Pass over an exponent if there is one. -/
def skipExponentIfAny : (s : List Char) → Except Fault (Rest s)
  | []     => .ok (.whole [])
  | c :: s =>
      if c = 'e' ∨ c = 'E' then (skipExponent s).map .cons else .ok (.whole (c :: s))

/-- Pass over what may follow the digits in front of the point. -/
def skipAfterDigits : (s : List Char) → Except Fault (Rest s)
  | '.' :: s =>
      if startsWithDigit s then
        (skipExponentIfAny (skipDigits s).text).map fun r => .cons ((skipDigits s).trans r)
      else .error (.next .number s)
  | s        => skipExponentIfAny s

/-- Pass over a number after its sign. -/
def skipNumberAfterSign : (s : List Char) → Reading Unit s
  | []     => .error (.here .number [])
  | c :: s =>
      if ¬ c.isDigit then .error (.next .number (c :: s))
      else if c = '0' ∧ startsWithDigit s then .error (.next .number s)
      else
        (skipAfterDigits (skipDigits s).text).map fun r => .ofRest () ((skipDigits s).trans r)

def skipNumber : (s : List Char) → Reading Unit s
  | '-' :: s => (skipNumberAfterSign s).map .cons
  | s        => skipNumberAfterSign s

/-! ### Lists and objects -/

/-- Pass over the items of a list; a comma may come next unless it is the first place. -/
def skipItems (item : (s : List Char) → Reading Unit s) (first : Bool) (s : List Char) :
    Reading Unit s :=
  match skip s with
  | ⟨[], _⟩     => .error (.next .endInList [])
  | ⟨c :: r, h⟩ =>
      if c = ']' then .ok (.within h (.tail ()))
      else
        let next? : Option (Rest (c :: r)) :=
          if first then some (.whole (c :: r)) else if c = ',' then some .tail else none
        match next? with
        | none   => .error (.next .listCommaOrEnd (c :: r))
        | some t =>
            match item t.text with
            | .error e => .error e
            | .ok v    =>
                (skipItems item false v.rest).map fun r => .within h (.after t (v.andThen r))
termination_by s.length
decreasing_by have := v.shorter; have := t.le; omega

/-- Pass over a field from the quote of its name on. -/
def skipField (item : (s : List Char) → Reading Unit s) (s : List Char) : Reading Unit s :=
  match nameQuote s with
  | .error e  => .error e
  | .ok quote =>
      match skipString quote.rest with
      | .error e => .error e
      | .ok name =>
          match colon name.rest with
          | .error e => .error e
          | .ok t    =>
              (item t.rest).map fun v => quote.andThen (name.andThen (t.andThen v))

/-- Pass over the fields of an object; a comma may come next unless it is the first place. -/
def skipFields (item : (s : List Char) → Reading Unit s) (first : Bool) (s : List Char) :
    Reading Unit s :=
  match skip s with
  | ⟨[], _⟩     => .error (.next .endInObject [])
  | ⟨c :: r, h⟩ =>
      if c = '}' then .ok (.within h (.tail ()))
      else
        let next? : Option (Rest (c :: r)) :=
          if first then some (.whole (c :: r)) else if c = ',' then some .tail else none
        match next? with
        | none   => .error (.next .objectCommaOrEnd (c :: r))
        | some t =>
            match skipField item t.text with
            | .error e => .error e
            | .ok v    =>
                (skipFields item false v.rest).map fun r => .within h (.after t (v.andThen r))
termination_by s.length
decreasing_by have := v.shorter; have := t.le; omega

/-- Pass over a value, given how to pass over the values inside it. -/
def skipWith (item : (s : List Char) → Reading Unit s) (s : List Char) : Reading Unit s :=
  match skip s with
  | ⟨[], _⟩     => .error (.next .endInValue [])
  | ⟨c :: r, h⟩ =>
      let read : Reading Unit (c :: r) :=
        if c = 'n' then wordAfter () ['u', 'l', 'l'] c r
        else if c = 't' then wordAfter () ['r', 'u', 'e'] c r
        else if c = 'f' then wordAfter () ['a', 'l', 's', 'e'] c r
        else if c = '-' ∨ c.isDigit then skipNumber (c :: r)
        else if c = '"' then (skipString r).map .cons
        else if c = '[' then (skipItems item true r).map .cons
        else if c = '{' then (skipFields item true r).map .cons
        else .error (.next .value (c :: r))
      read.map (.within h)

/-- Pass over a value in which values lie in each other at most to a depth. -/
def skipToDepth : Nat → (s : List Char) → Reading Unit s
  | 0         => fun s => .error (.next .value s)
  | depth + 1 => skipWith (skipToDepth depth)

/-- Pass over a value. Values inside it start at least one character later, so the length of the
text bounds the depth. -/
def skipValue (s : List Char) : Reading Unit s := skipToDepth (s.length + 1) s

end DebugConsole.Json
