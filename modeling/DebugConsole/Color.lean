import DebugConsole.Text.Hex
import DebugConsole.Text.Span

/-!
# Colors

Colors of eight bits a channel, and their hexadecimal form `#RRGGBB` or `#RRGGBBAA`.

A channel is read as an unsigned number in base sixteen from two bytes of the text, so a plus sign
may stand in place of its first digit.
-/

namespace DebugConsole

/-- A color; alpha is 255 when it is opaque. -/
structure Color where
  red   : UInt8
  green : UInt8
  blue  : UInt8
  alpha : UInt8 := 255
deriving DecidableEq, Repr

namespace Color

def cyan : Color := { red := 0, green := 255, blue := 255 }

def yellow : Color := { red := 255, green := 255, blue := 0 }

def pureRed : Color := { red := 255, green := 0, blue := 0 }

/-! ### Writing -/

/-- The two digits of a channel. -/
def channelDigits (n : UInt8) : List Char :=
  [Text.hexUpper (n.toNat / 16), Text.hexUpper (n.toNat % 16)]

/-- The hexadecimal form; alpha is left out of an opaque color. -/
def toHex (c : Color) : String :=
  String.ofList <| '#' :: (channelDigits c.red ++ channelDigits c.green ++ channelDigits c.blue
    ++ if c.alpha = 255 then [] else channelDigits c.alpha)

/-! ### Reading -/

/-- The value of a channel in hexadecimal digits, if they make up a byte. -/
def channel? (text : List Char) : Option UInt8 :=
  let digits := match text with
    | '+' :: digits => digits
    | digits        => digits
  if digits.isEmpty then none
  else (Text.hexNumber? 0 digits).bind fun n => if n < 256 then some (UInt8.ofNat n) else none

/-- The channel in the two bytes from an offset on. There is no answer if they are not characters of
the digits. -/
def channelAt (digits : List Char) (offset : Nat) : OptionT Option UInt8 :=
  .mk ((Text.slice? digits ⟨offset, offset + 2⟩).map channel?)

/-- The color of the digits behind the mark, if they are one; no answer if a channel has none. -/
def ofDigits (digits : List Char) : OptionT Option Color :=
  if ¬ digits.all Text.isAscii then failure
  else match Text.byteLength digits with
    | 6 => do
        return { red   := ← channelAt digits 0
                 green := ← channelAt digits 2
                 blue  := ← channelAt digits 4 }
    | 8 => do
        return { red   := ← channelAt digits 0
                 green := ← channelAt digits 2
                 blue  := ← channelAt digits 4
                 alpha := ← channelAt digits 6 }
    | _ => failure

/-- The color of a text, if it is a hexadecimal form; no answer if a channel has none. -/
def read? (s : String) : Option (Option Color) :=
  match s.toList with
  | '#' :: digits => (ofDigits digits).run
  | _             => some none

/-- The color of a hexadecimal form. -/
def ofHex? (s : String) : Option Color := (read? s).getD none

end Color

end DebugConsole
