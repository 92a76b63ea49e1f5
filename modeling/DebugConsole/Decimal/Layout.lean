import DebugConsole.Decimal.Shortest

/-!
# Layouts of decimals

How the digits and the exponent of a decimal are written out: positionally, with an exponent, or
with a fixed number of places.
-/

namespace DebugConsole.Decimal

def digitsOf (n : Nat) : List Char := Nat.toDigits 10 n

/-- A decimal written positionally, without a point when it is whole. -/
def positional (digits : Nat) (exponent : Int) : List Char :=
  let ds := digitsOf digits
  match exponent with
  | .ofNat k   => ds ++ List.replicate k '0'
  | .negSucc k =>
      let places := k + 1
      let padded := List.replicate (places + 1 - ds.length) '0' ++ ds
      padded.take (padded.length - places) ++ '.' :: padded.drop (padded.length - places)

/-- A decimal written positionally, always with a point. -/
def pointed (digits : Nat) (exponent : Int) : List Char :=
  let text := positional digits exponent
  if text.contains '.' then text else text ++ ['.', '0']

/-- A decimal written as one digit, the other digits as places, and an exponent with its sign. -/
def scientific (digits : Nat) (exponent : Int) : List Char :=
  let ds := digitsOf digits
  let e := exponent + (ds.length - 1 : Nat)
  let mantissa := match ds with
    | []      => []
    | [d]     => [d]
    | d :: ds => d :: '.' :: ds
  mantissa ++ 'e' :: (if e < 0 then '-' else '+') :: digitsOf e.natAbs

/-- A sign in front of a text. -/
def signed (negative : Bool) (text : List Char) : List Char :=
  if negative then '-' :: text else text

/-! ### Plain numbers -/

/-- A number in the fewest digits, never with an exponent. -/
def plainText (x : Float) : String := String.ofList <|
  match Format.double.decode x.toBits.toNat with
  | .nan               => ['N', 'a', 'N']
  | .infinite negative => signed negative ['i', 'n', 'f']
  | .finite negative m e =>
      signed negative <| if m = 0 then ['0'] else
        let (digits, exponent) := shortest .double .up m e
        positional digits exponent

/-- A number in the fewest digits, never with an exponent; a finite one always has a point. -/
def plainPointedText (x : Float) : String :=
  let text := plainText x
  if x.isFinite ∧ ¬ text.toList.contains '.' then text ++ ".0" else text

/-! ### Fixed places -/

/-- The quotient `num / den` with a number of places, a half to the even neighbour. -/
def fixed (places num den : Nat) : List Char :=
  let scaled := roundDiv (num * Nat.pow 10 places) den
  if places = 0 then digitsOf scaled
  else positional scaled (-(places : Int))

/-- A number of single precision with a number of places. -/
def fixedText (places : Nat) (x : Float32) : String := String.ofList <|
  match Format.single.decode x.toBits.toNat with
  | .nan               => ['N', 'a', 'N']
  | .infinite negative => signed negative ['i', 'n', 'f']
  | .finite negative m e =>
      let (num, den) := match e with
        | .ofNat k   => (m * Nat.pow 2 k, 1)
        | .negSucc k => (m, Nat.pow 2 (k + 1))
      signed negative (fixed places num den)

end DebugConsole.Decimal
