import DebugConsole.Decimal.Binary

/-!
# Shortest decimals

The decimal with the fewest digits that reads back as a given floating point number, and among
those the one nearest to it. The search goes from coarse decimal grids to fine ones, and on each
grid only the two neighbours of the number can be near enough.
-/

namespace DebugConsole.Decimal

/-- Which way a number goes that lies halfway between two decimals. -/
inductive Tie where
  | even
  | up
deriving DecidableEq, Repr

/-- A positive number with the bounds of the interval that rounds to it, over one denominator. -/
structure Interval where
  low    : Nat
  value  : Nat
  high   : Nat
  den    : Nat
  /-- The bounds themselves round to the number. -/
  closed : Bool
deriving DecidableEq, Repr

namespace Interval

/-- The interval of the finite value `mantissa * 2 ^ exponent` of a format. -/
def ofValue (f : Format) (mantissa : Nat) (exponent : Int) : Interval :=
  let (unit, den) := match exponent with
    | .ofNat k   => (Nat.pow 2 k, 4)
    | .negSucc k => (1, 4 * Nat.pow 2 (k + 1))
  { low    := (4 * mantissa - if f.narrowBelow mantissa exponent then 1 else 2) * unit
    value  := 4 * mantissa * unit
    high   := (4 * mantissa + 2) * unit
    den    := den
    closed := mantissa % 2 = 0 }

/-- The same interval in units of `10 ^ e`. -/
def scale (i : Interval) (e : Int) : Interval :=
  match e with
  | .ofNat k   => { i with den := i.den * Nat.pow 10 k }
  | .negSucc k =>
      { i with
        low   := i.low * Nat.pow 10 (k + 1)
        value := i.value * Nat.pow 10 (k + 1)
        high  := i.high * Nat.pow 10 (k + 1) }

/-- Whether the integer `n` lies in the interval. -/
def holds (i : Interval) (n : Nat) : Bool :=
  if i.closed then i.low ≤ n * i.den ∧ n * i.den ≤ i.high
  else i.low < n * i.den ∧ n * i.den < i.high

/-- The integer in the interval that is nearest to its value, if one of its two neighbours is. -/
def nearest? (tie : Tie) (i : Interval) : Option Nat :=
  let below := i.value / i.den
  let rest  := i.value % i.den
  let above := below + 1
  match i.holds below, i.holds above with
  | true, true   =>
      if 2 * rest < i.den then some below
      else if i.den < 2 * rest then some above
      else if tie = .even ∧ below % 2 = 0 then some below
      else some above
  | true, false  => some below
  | false, true  => some above
  | false, false => none

end Interval

/-- The number of grids tried; the finest of them separates all doubles. -/
def gridCount : Nat := 24

/-- An exponent whose power of ten is above `mantissa * 2 ^ exponent`. -/
def topExponent (mantissa : Nat) (exponent : Int) : Int :=
  (mantissa.log2 + 1 + exponent) * 30103 / 100000 + 1

/-- The digits and the exponent of the shortest decimal for a positive finite value. -/
def shortest (f : Format) (tie : Tie) (mantissa : Nat) (exponent : Int) : Nat × Int :=
  let i   := Interval.ofValue f mantissa exponent
  let top := topExponent mantissa exponent
  let found := (List.range gridCount).findSome? fun (k : Nat) =>
    ((i.scale (top - k)).nearest? tie).map fun n => (n, top - k)
  found.getD (mantissa, 0)

end DebugConsole.Decimal
