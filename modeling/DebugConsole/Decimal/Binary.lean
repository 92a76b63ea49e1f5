/-!
# Binary floating point numbers

The value that the bits of a floating point number stand for, and the number nearest to a decimal.
Both are exact: they use natural numbers only.
-/

namespace DebugConsole.Decimal

/-- The widths of the fields of a binary floating point format. -/
structure Format where
  fractionBits : Nat
  exponentBits : Nat
deriving DecidableEq, Repr

def Format.double : Format := ⟨52, 11⟩

def Format.single : Format := ⟨23, 8⟩

/-- What the bits of a floating point number stand for. -/
inductive Datum where
  | nan
  | infinite (negative : Bool)
  /-- The value `mantissa * 2 ^ exponent` with a sign. -/
  | finite (negative : Bool) (mantissa : Nat) (exponent : Int)
deriving DecidableEq, Repr

namespace Format

/-- The exponent field of infinities. -/
def topField (f : Format) : Nat := Nat.pow 2 f.exponentBits - 1

/-- The least exponent of a finite value. -/
def leastExponent (f : Format) : Int :=
  2 - (Nat.pow 2 (f.exponentBits - 1) : Int) - (f.fractionBits : Int)

/-- The value of the bits of a number. -/
def decode (f : Format) (bits : Nat) : Datum :=
  let fraction := bits % Nat.pow 2 f.fractionBits
  let field    := bits / Nat.pow 2 f.fractionBits % Nat.pow 2 f.exponentBits
  let negative := bits / Nat.pow 2 (f.fractionBits + f.exponentBits) % 2 = 1
  if field = f.topField then if fraction = 0 then .infinite negative else .nan
  else if field = 0 then .finite negative fraction f.leastExponent
  else .finite negative (Nat.pow 2 f.fractionBits + fraction) (f.leastExponent + (field - 1 : Nat))

/-- Whether the gap below this finite value is half of the gap above it. -/
def narrowBelow (f : Format) (mantissa : Nat) (exponent : Int) : Bool :=
  mantissa = Nat.pow 2 f.fractionBits ∧ f.leastExponent < exponent

end Format

/-! ### The nearest number -/

/-- A quotient rounded to the nearest integer, a half to the even neighbour. -/
def roundDiv (num den : Nat) : Nat :=
  let q := num / den
  let r := num % den
  if 2 * r < den then q else if den < 2 * r then q + 1 else if q % 2 = 0 then q else q + 1

/-- The quotient `num / den` over `2 ^ e`, as a quotient. -/
def scaleBinary (num den : Nat) (e : Int) : Nat × Nat :=
  match e with
  | .ofNat k   => (num, den * Nat.pow 2 k)
  | .negSucc k => (num * Nat.pow 2 (k + 1), den)

/-- The bits of the number nearest to a positive quotient, infinity when it is too large. -/
def Format.nearestBits (f : Format) (num den : Nat) : Nat :=
  -- The quotient lies strictly between the powers of two at `guess - 1` and `guess + 1`.
  let guess : Int := num.log2 - den.log2
  let scaled := fun e => let (n, d) := scaleBinary num den e; roundDiv n d
  let start := max (guess - 1 - f.fractionBits) f.leastExponent
  let e := if Nat.pow 2 (f.fractionBits + 1) ≤ scaled start then start + 1 else start
  let m := scaled e
  let field := (e - f.leastExponent).toNat
  min (field * Nat.pow 2 f.fractionBits + m) (f.topField * Nat.pow 2 f.fractionBits)

/-- The decimal `digits * 10 ^ exponent` as a quotient. -/
def quotient (digits : Nat) (exponent : Int) : Nat × Nat :=
  match exponent with
  | .ofNat k   => (digits * Nat.pow 10 k, 1)
  | .negSucc k => (digits, Nat.pow 10 (k + 1))

/-- The number of decimal digits of a number, at least one. -/
def digitCount (n : Nat) : Nat := (Nat.toDigits 10 n).length

/-- The double nearest to `digits * 10 ^ exponent`. -/
def toFloat (digits : Nat) (exponent : Int) : Float :=
  let size : Int := digitCount digits + exponent
  if digits = 0 ∨ size < -400 then 0
  else if 400 < size then Float.ofBits (UInt64.ofNat (Format.double.topField * Nat.pow 2 52))
  else
    let (num, den) := quotient digits exponent
    Float.ofBits (UInt64.ofNat (Format.double.nearestBits num den))

end DebugConsole.Decimal
