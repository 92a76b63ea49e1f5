import DebugConsole.Decimal.Reader
import DebugConsole.Mismatch

/-!
# Errors of JSON texts

A text that is no JSON is refused with a cause and a place. The place is a line and a column, both
counted in bytes, of the last byte that the reader looked at. Data that do not fit are refused
without a place.
-/

namespace DebugConsole.Json

/-- Why a text is no JSON. -/
inductive Cause where
  | endInValue
  | endInList
  | endInObject
  | endInString
  | value
  | ident
  | colon
  | listCommaOrEnd
  | objectCommaOrEnd
  | keyNotString
  | trailingComma
  | trailingCharacters
  | number
  | numberRange
  | escape
  | endInHexEscape
  | loneSurrogate
  | controlCharacter
  | depth
deriving DecidableEq, Repr

def Cause.message : Cause → String
  | .endInValue         => "EOF while parsing a value"
  | .endInList          => "EOF while parsing a list"
  | .endInObject        => "EOF while parsing an object"
  | .endInString        => "EOF while parsing a string"
  | .value              => "expected value"
  | .ident              => "expected ident"
  | .colon              => "expected `:`"
  | .listCommaOrEnd     => "expected `,` or `]`"
  | .objectCommaOrEnd   => "expected `,` or `\x7d`"
  | .keyNotString       => "key must be a string"
  | .trailingComma      => "trailing comma"
  | .trailingCharacters => "trailing characters"
  | .number             => "invalid number"
  | .numberRange        => "number out of range"
  | .escape             => "invalid escape"
  | .endInHexEscape     => "unexpected end of hex escape"
  | .loneSurrogate      => "lone leading surrogate in hex escape"
  | .controlCharacter   => "control character (\\u0000-\\u001F) found while parsing a string"
  | .depth              => "recursion limit exceeded"

/-! ### Places -/

/-- A cause with the text left to read and the bytes of it that were looked at. -/
inductive Fault where
  | syntactic (cause : Cause) (rest : List Char) (looked : Nat)
  | mismatch  (m : Mismatch)
deriving DecidableEq, Repr

/-- A fault after what was read. -/
def Fault.here (cause : Cause) (rest : List Char) : Fault := .syntactic cause rest 0

/-- A fault at the next byte. -/
def Fault.next (cause : Cause) (rest : List Char) : Fault := .syntactic cause rest 1

def byteCount (s : List Char) : Nat := s.foldl (· + ·.utf8Size) 0

/-- The first characters of a text that lie within a number of bytes. -/
def takeBytes (n : Nat) : List Char → List Char
  | []     => []
  | c :: s => if c.utf8Size ≤ n then c :: takeBytes (n - c.utf8Size) s else []

/-- The line, from one, of the byte after the first `n` ones, and how far into the line it is. -/
def place (s : List Char) (n : Nat) : Nat × Nat :=
  let before   := takeBytes n s
  let lastLine := (before.reverse.takeWhile (· != '\n')).reverse
  (1 + before.count '\n', n - byteCount (before.take (before.length - lastLine.length)))

/-- Why a JSON text was not read. -/
inductive Error where
  | syntactic (cause : Cause) (line column : Nat)
  | mismatch  (m : Mismatch)
deriving DecidableEq, Repr

/-- The error of a fault met while reading a text. -/
def Fault.locate (s : List Char) : Fault → Error
  | .syntactic cause rest looked =>
      let read := byteCount s - byteCount rest
      let (line, column) := place s (min (byteCount s) (read + looked))
      .syntactic cause line column
  | .mismatch m => .mismatch m

/-! ### Wording -/

/-- One more than the largest whole number of 64 bits. -/
def wordSize : Nat := UInt64.size

/-- The text before a label and a number of 64 bits, if it ends in them. -/
def beforeNumber? (label : String) (s : List Char) : Option (List Char) :=
  let digits := (s.reverse.takeWhile Char.isDigit).reverse
  if digits ≠ [] ∧ Decimal.number digits < wordSize then
    label.toList.isSuffixOf? (s.take (s.length - digits.length))
  else none

/-- A text without the place that it ends in. -/
def withoutPlace (s : List Char) : List Char :=
  ((beforeNumber? " column " s).bind (beforeNumber? " at line ")).getD s

/-- The error in words. A text that is no JSON has its place at the end. Data that do not fit have
none, and a place at the end of the data that are quoted counts as theirs. -/
def Error.message : Error → String
  | .syntactic cause line column =>
      cause.message ++ " at line " ++ toString line ++ " column " ++ toString column
  | .mismatch m => String.ofList (withoutPlace m.message.toList)

end DebugConsole.Json
