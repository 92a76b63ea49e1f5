/-!
# Lines

A text cut at its newlines. A carriage return before a newline goes with it, and a newline at the
very end starts no further line. The rule is the same for characters and for bytes.
-/

namespace DebugConsole.Text

variable {α : Type} [DecidableEq α]

/-- A line in reversed order, without the carriage return that came last. -/
def endLine (cr : α) : List α → List α
  | []     => []
  | c :: r => if c = cr then r.reverse else (c :: r).reverse

/-- The lines of a text, after the characters of the current line in reversed order. -/
def linesFrom (newline cr : α) (line : List α) : List α → List (List α)
  | []     => if line.isEmpty then [] else [line.reverse]
  | c :: s =>
      if c = newline then endLine cr line :: linesFrom newline cr [] s
      else linesFrom newline cr (c :: line) s

def lines (s : String) : List String := (linesFrom '\n' '\r' [] s.toList).map String.ofList

end DebugConsole.Text
