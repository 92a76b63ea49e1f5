import DebugConsole.Decimal.Binary

/-!
# Reading decimals

The decimal texts of floating point numbers: a sign, digits with or without a point, and an
exponent, or the name of infinity or of the value that is no number, in either case.
-/

namespace DebugConsole.Decimal

/-- The number that decimal digits stand for, after the digits read so far. -/
def numberFrom (n : Nat) (ds : List Char) : Nat :=
  ds.foldl (fun n d => 10 * n + (d.toNat - '0'.toNat)) n

/-- The number that decimal digits stand for. -/
def number (ds : List Char) : Nat := numberFrom 0 ds

/-- A sign and what follows it; without a sign the text is positive. -/
def splitSign : List Char → Bool × List Char
  | '-' :: cs => (true, cs)
  | '+' :: cs => (false, cs)
  | cs        => (false, cs)

/-- The exponent of a text that is empty or starts with its letter. -/
def exponent? : List Char → Option Int
  | []      => some 0
  | c :: cs =>
      if c = 'e' ∨ c = 'E' then
        let (negative, ds) := splitSign cs
        if ds.isEmpty ∨ ¬ ds.all Char.isDigit then none
        else some (if negative then -(number ds : Int) else number ds)
      else none

/-- The digits and the exponent of a text without a sign. -/
def unsigned? (cs : List Char) : Option (Nat × Int) :=
  let whole := cs.takeWhile Char.isDigit
  let rest  := cs.dropWhile Char.isDigit
  let (places, rest) := match rest with
    | '.' :: r => (r.takeWhile Char.isDigit, r.dropWhile Char.isDigit)
    | r        => ([], r)
  if whole.isEmpty ∧ places.isEmpty then none
  else (exponent? rest).map fun e => (number (whole ++ places), e - places.length)

/-- The names of the values without digits. -/
def special? (cs : List Char) : Option Float :=
  let name := String.ofList (cs.map Char.toLower)
  if name = "inf" ∨ name = "infinity" then some (1 / 0)
  else if name = "nan" then some (0 / 0)
  else none

/-- The double that a text stands for. -/
def read? (text : String) : Option Float :=
  let (negative, cs) := splitSign text.toList
  let magnitude := special? cs <|> (unsigned? cs).map fun (digits, e) => toFloat digits e
  magnitude.map fun x => if negative then -x else x

end DebugConsole.Decimal
