import DebugConsole.Text.Hex
import DebugConsole.Text.Shown

/-!
# Quoted texts

Texts as they are shown in messages: between quotes, with the quote and the backslash escaped, and
with characters that would not be visible shown by a short name or by their number.
-/

namespace DebugConsole.Text

/-- The characters that show one character between the given quotes. -/
def escape (quote c : Char) : List Char :=
  if c = '\x00' then ['\\', '0']
  else if c = '\t' then ['\\', 't']
  else if c = '\n' then ['\\', 'n']
  else if c = '\r' then ['\\', 'r']
  else if c = '\\' ∨ c = quote then ['\\', c]
  else if isShown c then [c]
  else '\\' :: 'u' :: '{' :: (toHex c.toNat ++ ['}'])

def quoted (s : String) : String :=
  String.ofList ('"' :: (s.toList.flatMap (escape '"') ++ ['"']))

def quotedChar (c : Char) : String := String.ofList ('\'' :: (escape '\'' c ++ ['\'']))

end DebugConsole.Text
