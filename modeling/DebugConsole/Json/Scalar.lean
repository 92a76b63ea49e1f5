import DebugConsole.Decimal.Reader
import DebugConsole.Json.Error
import DebugConsole.Json.Value
import DebugConsole.Text.Scanned

/-!
# JSON scalars

Reading of blanks, of the three words, of strings and of numbers.
-/

namespace DebugConsole.Json

open Text (Rest Scanned dropRun)

/-- A reader's result on a text: a value and a shorter rest, or a fault. -/
abbrev Reading (α : Type) (s : List Char) := Except Fault (Scanned α s)

/-! ### Blanks and words -/

/-- The blanks between the parts of a JSON text. -/
def isSpace (c : Char) : Bool := c == ' ' || c == '\n' || c == '\t' || c == '\r'

def skip (s : List Char) : Rest s := dropRun isSpace s

def word : List Char → (s : List Char) → Except Fault (Rest s)
  | [], s          => .ok (.whole s)
  | _ :: _, []     => .error (.here .endInValue [])
  | w :: ws, c :: s =>
      if c = w then (word ws s).map .cons else .error (.next .ident (c :: s))

/-- Read the characters of a word after its first one. -/
def wordAfter {α : Type} (value : α) (ws : List Char) (c : Char) (s : List Char) :
    Reading α (c :: s) :=
  (word ws s).map (.ofRest value)

/-! ### Strings -/

/-- The character that a backslash and this character stand for. -/
def simpleEscape? (c : Char) : Option Char :=
  if c = '"' ∨ c = '\\' ∨ c = '/' then some c
  else if c = 'b' then some '\x08'
  else if c = 'f' then some '\x0c'
  else if c = 'n' then some '\n'
  else if c = 'r' then some '\r'
  else if c = 't' then some '\t'
  else none

def quad? (a b c d : Char) : Option Nat :=
  match Text.hexValue? a, Text.hexValue? b, Text.hexValue? c, Text.hexValue? d with
  | some a, some b, some c, some d => some (((a * 16 + b) * 16 + c) * 16 + d)
  | _, _, _, _                     => none

/-- The fault of a text that does not start with four hexadecimal digits. -/
def quadFault (s : List Char) : Fault :=
  if byteCount s < 4 then .here .endInString [] else .syntactic .escape s 4

def quad : (s : List Char) → Reading Nat s
  | a :: b :: c :: d :: r =>
      match quad? a b c d with
      | some n => .ok (.cons (.cons (.cons (.tail n))))
      | none   => .error (quadFault (a :: b :: c :: d :: r))
  | s => .error (quadFault s)

/-- The first half of a pair of code units. -/
def isLeading (n : Nat) : Bool := 0xd800 ≤ n ∧ n ≤ 0xdbff

/-- The second half of a pair of code units. -/
def isTrailing (n : Nat) : Bool := 0xdc00 ≤ n ∧ n ≤ 0xdfff

/-- Read the second half of a pair of code units, which has to be escaped as well. -/
def secondHalf (first : Nat) : (s : List Char) → Reading Char s
  | []        => .error (.here .endInString [])
  | '\\' :: s =>
      match s with
      | []       => .error (.here .endInString [])
      | 'u' :: s =>
          match quad s with
          | .error e => .error e
          | .ok half =>
              if isTrailing half.value then
                let n := (first - 0xd800) * 0x400 + (half.value - 0xdc00) + 0x10000
                .ok (.cons (.cons (half.map fun _ => Char.ofNat n)))
              else .error (.here .loneSurrogate half.rest)
      | s        => .error (.next .endInHexEscape s)
  | s         => .error (.next .endInHexEscape s)

/-- Read a character given by its number. -/
def numbered (s : List Char) : Reading Char s :=
  match quad s with
  | .error e => .error e
  | .ok half =>
      if isTrailing half.value then .error (.here .loneSurrogate half.rest)
      else if isLeading half.value then
        (secondHalf half.value half.rest).map half.andThen
      else .ok (half.map Char.ofNat)

/-- Read what follows a backslash. -/
def escaped : (s : List Char) → Reading Char s
  | []     => .error (.here .endInString [])
  | c :: s =>
      match simpleEscape? c with
      | some x => .ok (.tail x)
      | none   =>
          if c = 'u' then (numbered s).map .cons
          else .error (.next .escape (c :: s))

/-- Read a string after its opening quote and the given characters, which are reversed. -/
def stringFrom (read : List Char) (s : List Char) : Reading String s :=
  match s with
  | []     => .error (.here .endInString [])
  | c :: s =>
      if c = '"' then .ok (.tail (String.ofList read.reverse))
      else if c = '\\' then
        match escaped s with
        | .error e => .error e
        | .ok x    => (stringFrom (x.value :: read) x.rest).map fun r => .cons (x.andThen r)
      else if c < ' ' then .error (.next .controlCharacter (c :: s))
      else (stringFrom (c :: read) s).map .cons
termination_by s.length
decreasing_by
  · have := x.shorter
    simp only [List.length_cons]; omega
  · simp

/-! ### Numbers -/

/-- The digits that fit in 64 bits after `n`: the number, how many were read, and the rest. -/
def fitting (n count : Nat) : (s : List Char) → Nat × Nat × Rest s
  | []     => (n, count, .whole [])
  | c :: s =>
      let m := 10 * n + (c.toNat - '0'.toNat)
      if c.isDigit ∧ m < wordSize then
        let (m, count, r) := fitting m (count + 1) s
        (m, count, r.cons)
      else (n, count, .whole (c :: s))

def skipDigits (s : List Char) : Rest s := dropRun Char.isDigit s

def startsWithDigit : List Char → Bool
  | []     => false
  | c :: _ => c.isDigit

/-- The power of ten as a double, rounded. -/
def powerOfTen (n : Nat) : Float := Decimal.toFloat 1 n

/-- Divide by powers of ten until the exponent is in range or nothing is left. -/
def lower (x : Float) (e : Nat) : Float :=
  if x == 0 then x
  else if e ≤ 308 then x / powerOfTen e
  else lower (x / powerOfTen 308) (e - 308)
termination_by e

/-- The double of a significand and a decimal exponent, if it is finite. It is found by one rounded
multiplication or by rounded divisions, so it need not be the nearest double. -/
def scaled? (negative : Bool) (significand : Nat) (e : Int) : Option Float :=
  let x := significand.toUInt64.toFloat
  let magnitude := match e with
    | .ofNat k   =>
        if 308 < k then if x == 0 then some x else none
        else
          let y := x * powerOfTen k
          if y.isInf then none else some y
    | .negSucc k => some (lower x (k + 1))
  magnitude.map fun y => if negative then -y else y

/-- The number of a significand and an exponent, read up to `r`. -/
def finish {s : List Char} (negative : Bool) (significand : Nat) (e : Int) (r : Rest s) :
    Except Fault (Number × Rest s) :=
  match scaled? negative significand e with
  | some x => .ok (.float x, r)
  | none   => .error (.here .numberRange r.text)

/-- The largest exponent that is read. -/
def exponentLimit : Nat := 2147483647

/-- The digits of an exponent after `n`; nothing when it gets too large, with the rest after the
digit that made it so. -/
def exponentDigits (n : Nat) : (s : List Char) → Option Nat × Rest s
  | []     => (some n, .whole [])
  | c :: s =>
      if c.isDigit then
        let m := 10 * n + (c.toNat - '0'.toNat)
        if exponentLimit < m then (none, .tail)
        else
          let (m, r) := exponentDigits m s
          (m, r.cons)
      else (some n, .whole (c :: s))

/-- The sign of an exponent and the text after it. -/
def exponentSign : (s : List Char) → Bool × Rest s
  | '-' :: _ => (true, .tail)
  | '+' :: _ => (false, .tail)
  | s        => (false, .whole s)

/-- Read an exponent after its letter, to be added to `e`. -/
def exponentPart (negative : Bool) (significand : Nat) (e : Int) (s : List Char) :
    Except Fault (Number × Rest s) :=
  match exponentSign s with
  | (_, ⟨[], _⟩)        => .error (.here .endInValue [])
  | (down, ⟨c :: r, h⟩) =>
      if c.isDigit then
        match exponentDigits (c.toNat - '0'.toNat) r with
        | (some n, t) =>
            finish negative significand (if down then e - n else e + n) (t.cons.within h)
        | (none, t)   =>
            if significand ≠ 0 ∧ ¬ down then .error (.here .numberRange t.text)
            else
              .ok (.float (if negative then -0 else 0), (t.trans (skipDigits t.text)).cons.within h)
      else .error (.next .number (c :: r))

def exponentIfAny (negative : Bool) (significand : Nat) (e : Int) :
    (s : List Char) → Except Fault (Number × Rest s)
  | []     => finish negative significand e (.whole [])
  | c :: s =>
      if c = 'e' ∨ c = 'E' then
        (exponentPart negative significand e s).map fun (n, r) => (n, r.cons)
      else finish negative significand e (.whole (c :: s))

/-- Read the places after a point, and an exponent. Digits that do not fit are dropped. -/
def places (negative : Bool) (significand : Nat) (e : Int) (s : List Char) :
    Except Fault (Number × Rest s) :=
  let (n, count, r) := fitting significand 0 s
  if count = 0 ∧ ¬ startsWithDigit r.text then
    .error (.next (if r.text.isEmpty then .endInValue else .number) r.text)
  else
    let t := r.trans (skipDigits r.text)
    (exponentIfAny negative n (e - count) t.text).map fun (x, u) => (x, t.trans u)

/-- Read what may follow the digits in front of the point; `dropped` of them did not fit. -/
def afterDigits (negative : Bool) (significand dropped : Nat) :
    (s : List Char) → Except Fault (Number × Rest s)
  | '.' :: s =>
      (places negative significand dropped s).map fun (n, r) => (n, r.cons)
  | s        => exponentIfAny negative significand dropped s

/-- The whole number of a sign and its digits; a negative zero is a double. -/
def wholeNumber (negative : Bool) (n : Nat) : Number :=
  if negative then
    if n = 0 ∨ 0x8000000000000000 < n then .float (-n.toUInt64.toFloat) else .whole (-n)
  else .whole n

/-- Whether a number goes on after the digits in front of the point. -/
def goesOn : List Char → Bool
  | []     => false
  | c :: _ => c == '.' || c == 'e' || c == 'E'

/-- Read a number after its sign. -/
def numberAfterSign (negative : Bool) : (s : List Char) → Reading Number s
  | []     => .error (.here .endInValue [])
  | c :: s =>
      if ¬ c.isDigit then .error (.next .number (c :: s))
      else if c = '0' ∧ startsWithDigit s then .error (.next .number s)
      else
        let (n, _, r) := fitting (c.toNat - '0'.toNat) 0 s
        if ¬ startsWithDigit r.text ∧ ¬ goesOn r.text then
          .ok (.ofRest (wholeNumber negative n) r)
        else
          let t := r.trans (skipDigits r.text)
          let dropped := r.text.length - t.text.length
          (afterDigits negative n dropped t.text).map fun (x, u) => .ofRest x (t.trans u)

/-- Read a number that starts with a sign or a digit. -/
def number : (s : List Char) → Reading Number s
  | '-' :: s => (numberAfterSign true s).map .cons
  | s        => numberAfterSign false s

end DebugConsole.Json
