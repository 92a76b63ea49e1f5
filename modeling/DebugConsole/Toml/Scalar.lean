import DebugConsole.Decimal.Reader
import DebugConsole.Text.Hex
import DebugConsole.Text.Scanned
import DebugConsole.Toml.Value

/-!
# TOML scalars

Reading of blanks, line ends, keys, strings, numbers, dates and times.
-/

namespace DebugConsole.Toml

open Text (Rest Scanned dropRun)

/-- A reader's result on a text: a value and a shorter rest, or nothing. -/
abbrev Reading (α : Type) (s : List Char) := Option (Scanned α s)

def mark (x : Char) : (s : List Char) → Reading Unit s
  | []     => none
  | c :: _ => if c = x then some (.tail ()) else none

/-! ### Blanks and lines -/

/-- The blanks within a line. -/
def isSpace (c : Char) : Bool := c == ' ' || c == '\t'

def skip (s : List Char) : Rest s := dropRun isSpace s

/-- The characters of comments and of strings on one line. -/
def isText (c : Char) : Bool := c == '\t' || (' ' ≤ c && c ≠ '\x7f')

def newline : (s : List Char) → Reading Unit s
  | '\n' :: _         => some (.tail ())
  | '\r' :: '\n' :: _ => some (.cons (.tail ()))
  | _                 => none

/-- Read the end of a line or of the text. -/
def lineEnd (s : List Char) : Option (Rest s) :=
  if s.isEmpty then some (.whole s) else (newline s).map (·.toRest)

/-- The text after a comment, if it starts with one. -/
def skipComment : (s : List Char) → Rest s
  | '#' :: s => (dropRun isText s).cons
  | s        => .whole s

/-- Read what may stand at the end of a line: blanks, a comment, and the end itself. -/
def lineRest (s : List Char) : Option (Rest s) :=
  let t := (skip s).trans (skipComment (skip s).text)
  (lineEnd t.text).map t.trans

/-- The text after blanks, comments and ends of lines. -/
def skipLines (s : List Char) : Rest s :=
  let t := (skip s).trans (skipComment (skip s).text)
  match newline t.text with
  | some r => t.trans (r.toRest.trans (skipLines r.rest))
  | none   => skip s
termination_by s.length
decreasing_by exact Nat.lt_of_lt_of_le r.shorter t.le

/-- The text after blanks and ends of lines. -/
def skipBlankLines (s : List Char) : Rest s :=
  match newline (skip s).text with
  | some r => (skip s).trans (r.toRest.trans (skipBlankLines r.rest))
  | none   => skip s
termination_by s.length
decreasing_by exact Nat.lt_of_lt_of_le r.shorter (skip s).le

/-! ### Escapes -/

/-- Read a number of hexadecimal digits after those read so far. -/
def hexDigits (value : Nat) : Nat → (s : List Char) → Option (Nat × Rest s)
  | 0, s          => some (value, .whole s)
  | _ + 1, []     => none
  | n + 1, c :: s =>
      match Text.hexValue? c with
      | none   => none
      | some d => (hexDigits (16 * value + d) n s).map fun (v, r) => (v, r.cons)

/-- Read a character given by a number of hexadecimal digits. -/
def numbered (digits : Nat) (s : List Char) : Option (Char × Rest s) :=
  match hexDigits 0 digits s with
  | none        => none
  | some (n, r) => if n.isValidChar then some (Char.ofNat n, r) else none

/-- The character that a backslash and this character stand for. -/
def simpleEscape? (c : Char) : Option Char :=
  if c = '"' ∨ c = '\\' then some c
  else if c = 'b' then some '\x08'
  else if c = 'f' then some '\x0c'
  else if c = 'n' then some '\n'
  else if c = 'r' then some '\r'
  else if c = 't' then some '\t'
  else none

/-- Read what follows a backslash. -/
def escaped : (s : List Char) → Reading Char s
  | []     => none
  | c :: s =>
      match simpleEscape? c with
      | some x => some (.tail x)
      | none   =>
          let digits := if c = 'u' then 4 else if c = 'U' then 8 else 0
          if digits = 0 then none
          else (numbered digits s).map fun (x, r) => .ofRest x r

/-! ### Strings -/

/-- Read a string with escapes after its opening quote and the characters read so far, reversed. -/
def basicFrom (read : List Char) (s : List Char) : Reading String s :=
  match s with
  | []     => none
  | c :: s =>
      if c = '"' then some (.tail (String.ofList read.reverse))
      else if c = '\\' then
        match escaped s with
        | none   => none
        | some x => (basicFrom (x.value :: read) x.rest).map fun r => .cons (x.andThen r)
      else if isText c then (basicFrom (c :: read) s).map .cons
      else none
termination_by s.length
decreasing_by
  · have := x.shorter
    simp only [List.length_cons]; omega
  · simp

/-- Read a string without escapes after its opening quote. -/
def literal (s : List Char) : Reading String s :=
  let inside := fun c => isText c && c ≠ '\''
  match dropRun inside s with
  | ⟨[], _⟩     => none
  | ⟨c :: _, h⟩ =>
      if c = '\'' then some (.within h (.tail (String.ofList (s.takeWhile inside)))) else none

/-- The quotes of a run that belong to a string of several lines which it ends, if it ends one. -/
def closingQuotes? (run : Nat) : Option Nat := if 3 ≤ run then some (min (run - 3) 2) else none

/-- Read a string of several lines after its opening quotes and the characters read so far, which
are reversed. Escapes are read if the quotes are double quotes. -/
def multilineFrom (quote : Char) (read : List Char) (s : List Char) : Reading String s :=
  match s with
  | []     => none
  | c :: s =>
      if c = quote then
        let run := (s.takeWhile (· == quote)).length + 1
        match closingQuotes? run with
        | some n =>
            some (.ofRest (String.ofList (List.replicate n quote ++ read).reverse) (.drop (n + 2) s))
        | none   =>
            let t := Rest.drop (run - 1) s
            (multilineFrom quote (List.replicate run quote ++ read) t.text).map
              fun r => .cons (.after t r)
      else if c = '\\' ∧ quote = '"' then
        match newline (skip s).text with
        | some r =>
            let t := (skip s).trans (r.toRest.trans (skipBlankLines r.rest))
            (multilineFrom quote read t.text).map fun r => .cons (.after t r)
        | none   =>
            match escaped s with
            | none   => none
            | some x =>
                (multilineFrom quote (x.value :: read) x.rest).map fun r => .cons (x.andThen r)
      else if isText c then (multilineFrom quote (c :: read) s).map .cons
      else
        match newline (c :: s) with
        | none   => none
        | some r => (multilineFrom quote ('\n' :: read) r.rest).map r.andThen
termination_by s.length
decreasing_by
  · exact Nat.lt_succ_of_le t.le
  · exact Nat.lt_succ_of_le t.le
  · exact Nat.lt_succ_of_lt x.shorter
  · exact Nat.lt_succ_self _
  · exact r.shorter

/-- Read a string of several lines after its opening quotes; a line end right after them is not
part of it. -/
def multiline (quote : Char) (s : List Char) : Reading String s :=
  match newline s with
  | some r => (multilineFrom quote [] r.rest).map r.andThen
  | none   => multilineFrom quote [] s

/-- Read a string of one line or of several. -/
def string : (s : List Char) → Reading String s
  | '"' :: '"' :: '"' :: s    => (multiline '"' s).map (.cons <| .cons <| .cons ·)
  | '"' :: s                  => (basicFrom [] s).map .cons
  | '\'' :: '\'' :: '\'' :: s => (multiline '\'' s).map (.cons <| .cons <| .cons ·)
  | '\'' :: s                 => (literal s).map .cons
  | _                         => none

/-! ### Keys -/

/-- The characters of keys without quotes. -/
def isBare (c : Char) : Bool := c.isAlphanum || c == '-' || c == '_'

def simpleKey : (s : List Char) → Reading String s
  | []     => none
  | c :: s =>
      if c = '"' then (basicFrom [] s).map .cons
      else if c = '\'' then (literal s).map .cons
      else if isBare c then
        some (.ofRest (String.ofList (c :: s.takeWhile isBare)) (dropRun isBare s))
      else none

/-- Read the parts of a key, with points between them and blanks around them. -/
def keyParts (s : List Char) : Reading (List String) s :=
  match simpleKey (skip s).text with
  | none   => none
  | some k =>
      let k := k.upTo (skip k.rest)
      match mark '.' k.rest with
      | none   => some (.after (skip s) (k.map ([·])))
      | some m =>
          (keyParts m.rest).map fun ks =>
            .after (skip s) (k.andThen (m.andThen (ks.map (k.value :: ·))))
termination_by s.length
decreasing_by exact Nat.lt_of_lt_of_le (Nat.lt_trans m.shorter k.shorter) (skip s).le

/-- The least number of parts, and of values in each other, that is too many. -/
def nestingLimit : Nat := 80

def key (s : List Char) : Reading (List String) s :=
  (keyParts s).filter fun ks => ks.value.length < nestingLimit

/-! ### Numbers -/

/-- Read digits after a first one; single underscores may stand between digits. -/
def moreDigits (isDigit : Char → Bool) : (s : List Char) → Option (List Char × Rest s)
  | []            => some ([], .whole [])
  | ['_']         => none
  | '_' :: c :: s =>
      if isDigit c then
        (moreDigits isDigit s).map fun (ds, r) => (c :: ds, r.cons.cons)
      else none
  | c :: s        =>
      if isDigit c then
        (moreDigits isDigit s).map fun (ds, r) => (c :: ds, r.cons)
      else some ([], .whole (c :: s))

/-- Read digits; single underscores may stand between them. -/
def digits (isDigit : Char → Bool) : (s : List Char) → Reading (List Char) s
  | []     => none
  | c :: s =>
      if isDigit c then
        (moreDigits isDigit s).map fun (ds, r) => .ofRest (c :: ds) r
      else none

/-- Read the digits of a whole number, which has no needless zero in front. -/
def wholeDigits : (s : List Char) → Reading (List Char) s
  | '0' :: _ => some (.tail ['0'])
  | s        => digits Char.isDigit s

/-- An integer of 64 bits. -/
def integer? (n : Int) : Option Value :=
  if Int64.minValue.toInt ≤ n ∧ n ≤ Int64.maxValue.toInt then some (.integer n) else none

/-- Read an integer in a base after its letter. -/
def inBase (base : Nat) (s : List Char) : Reading Value s :=
  let isDigit := fun c => (Text.hexValue? c).any (· < base)
  match digits isDigit s with
  | none    => none
  | some ds =>
      let n := ds.value.foldl (fun n c => base * n + (Text.hexValue? c).getD 0) 0
      (integer? n).map fun v => ds.map fun _ => v

def exponent : (s : List Char) → Option (Option Int × Rest s)
  | []     => some (none, .whole [])
  | c :: s =>
      if c = 'e' ∨ c = 'E' then
        let (negative, t) : Bool × Rest s := match s with
          | '-' :: _ => (true, .tail)
          | '+' :: _ => (false, .tail)
          | s        => (false, .whole s)
        (digits Char.isDigit t.text).map fun ds =>
          let n : Int := Decimal.number ds.value
          (some (if negative then -n else n), .cons (t.trans ds.toRest))
      else some (none, .whole (c :: s))

/-- Read the places after a point if there is one. -/
def places : (s : List Char) → Option (Option (List Char) × Rest s)
  | '.' :: s =>
      (digits Char.isDigit s).map fun ds => (some ds.value, .cons ds.toRest)
  | s        => some (none, .whole s)

/-- A float; positive infinity does not come from digits. -/
def float? (negative : Bool) (digits : List Char) (e : Int) : Option Value :=
  let x := Decimal.toFloat (Decimal.number digits) e
  if negative then some (.float (-x)) else if x.isInf then none else some (.float x)

/-- Read a number in base ten after its sign. -/
def decimal (negative : Bool) (s : List Char) : Reading Value s :=
  match wholeDigits s with
  | none       => none
  | some whole =>
      match places whole.rest with
      | none          => none
      | some (ds?, t) =>
          match exponent t.text with
          | none         => none
          | some (e?, u) =>
              let value? :=
                if ds?.isNone ∧ e?.isNone then
                  let n : Int := Decimal.number whole.value
                  integer? (if negative then -n else n)
                else
                  let ds := ds?.getD []
                  float? negative (whole.value ++ ds) (e?.getD 0 - ds.length)
              value?.map fun v => whole.map (fun _ => v) |>.upTo (t.trans u)

/-- Read a number after its sign, or the name of a value without digits. -/
def afterSign (negative : Bool) : (s : List Char) → Reading Value s
  | 'i' :: 'n' :: 'f' :: _ =>
      some (.cons (.cons (.tail (.float (if negative then -1 / 0 else 1 / 0)))))
  | 'n' :: 'a' :: 'n' :: _ => some (.cons (.cons (.tail (.float (0 / 0)))))
  | s                      => decimal negative s

def number : (s : List Char) → Reading Value s
  | '+' :: s        => (afterSign false s).map .cons
  | '-' :: s        => (afterSign true s).map .cons
  | '0' :: 'x' :: s => (inBase 16 s).map (.cons <| .cons ·)
  | '0' :: 'o' :: s => (inBase 8 s).map (.cons <| .cons ·)
  | '0' :: 'b' :: s => (inBase 2 s).map (.cons <| .cons ·)
  | s               => afterSign false s

/-! ### Dates and times -/

def two? (a b : Char) : Option Nat :=
  if a.isDigit ∧ b.isDigit then some (Decimal.number [a, b]) else none

/-- Whether two digits stand for a number between two bounds. -/
def isWithin (low high : Nat) (a b : Char) : Bool := (two? a b).any fun n => low ≤ n ∧ n ≤ high

def daysOfMonth (year month : Nat) : Nat :=
  if month = 2 then
    if year % 4 = 0 ∧ (year % 100 ≠ 0 ∨ year % 400 = 0) then 29 else 28
  else if month = 4 ∨ month = 6 ∨ month = 9 ∨ month = 11 then 30
  else 31

/-- The text after a fraction of a second; a point needs a digit. -/
def fraction : (s : List Char) → Option (Rest s)
  | '.' :: s =>
      if s.head?.any Char.isDigit then some (dropRun Char.isDigit s).cons else none
  | s        => some (.whole s)

def time : (s : List Char) → Reading Unit s
  | a :: b :: ':' :: c :: d :: ':' :: e :: f :: s =>
      if isWithin 0 23 a b ∧ isWithin 0 59 c d ∧ isWithin 0 60 e f then
        (fraction s).map fun r => .ofRest () r.cons.cons.cons.cons.cons.cons.cons
      else none
  | _ => none

/-- The text after the offset of a time, if there is one. -/
def offset : (s : List Char) → Option (Rest s)
  | []     => some (.whole [])
  | c :: s =>
      if c = 'Z' ∨ c = 'z' then some .tail
      else if c = '+' ∨ c = '-' then
        match s with
        | a :: b :: ':' :: d :: e :: _ =>
            if isWithin 0 23 a b ∧ isWithin 0 59 d e then
              some (.cons (.cons (.cons (.cons (.cons .tail)))))
            else none
        | _ => none
      else some (.whole (c :: s))

/-- Whether a text starts like a time of a day. -/
def startsLikeTime : List Char → Bool
  | a :: b :: ':' :: _ => isWithin 0 23 a b
  | _                  => false

/-- Read what may follow a date: a time, after which an offset may follow. -/
def timeAfterDate : (s : List Char) → Option (Rest s)
  | []     => some (.whole [])
  | c :: s =>
      if (c = 'T' ∨ c = 't' ∨ c = ' ') ∧ startsLikeTime s then
        match time s with
        | none   => none
        | some t => (offset t.rest).map fun r => .cons (t.toRest.trans r)
      else some (.whole (c :: s))

/-- Read a date, after which a time may follow. -/
def date : (s : List Char) → Reading Unit s
  | a :: b :: c :: d :: '-' :: e :: f :: '-' :: g :: h :: s =>
      match two? a b, two? c d, two? e f, two? g h with
      | some century, some year, some month, some day =>
          if 1 ≤ month ∧ month ≤ 12 ∧ 1 ≤ day ∧ day ≤ daysOfMonth (100 * century + year) month then
            (timeAfterDate s).map fun r =>
              .ofRest () r.cons.cons.cons.cons.cons.cons.cons.cons.cons
          else none
      | _, _, _, _ => none
  | _ => none

/-- Read a number, a date or a time. -/
def numeric (s : List Char) : Reading Value s :=
  if (s.take 4).all Char.isDigit ∧ s[4]? = some '-' then (date s).map (·.map fun _ => .datetime)
  else if (s.take 2).all Char.isDigit ∧ s[2]? = some ':' then
    (time s).map (·.map fun _ => .datetime)
  else number s

end DebugConsole.Toml
