import DebugConsole.Text.Blank
import DebugConsole.Text.Span

/-!
# Tokens of a command line

A command line is read from left to right in one pass. Blanks separate tokens, a span between
double quotes is one token without its quotes, and an opening brace where a word may start opens
a literal that lasts to its matching closing brace and is kept as written.

The pass notes only where tokens start and stop; they are cut out of the line when it is over. It
is a fold of `Scan.step` over the characters, so reading `a ++ b` is reading `b` from where `a`
left off.
-/

namespace DebugConsole

/-- Where a pass over a command line stands. Places are byte offsets from the start of the line. -/
structure Scan where
  /-- The completed tokens, newest first. -/
  spans      : List Span := []
  /-- Where the current token starts. -/
  start      : Nat := 0
  /-- Where the next character stands. -/
  place      : Nat := 0
  /-- Between two double quotes. -/
  quoted     : Bool := false
  /-- Open braces of the literal being read; zero outside a literal. -/
  depth      : Nat := 0
  /-- The next character of the literal was hidden by a backslash. -/
  hidden     : Bool := false
  /-- The last character outside literals was a blank that separates tokens. -/
  afterBlank : Bool := false
deriving DecidableEq, Repr

namespace Scan

/-- Where the character after this one stands. -/
def after (s : Scan) (c : Char) : Nat := s.place + c.utf8Size

/-- End the current token at a place, if it is not empty, and start another one at the next. -/
def cut (s : Scan) (stop next : Nat) : Scan :=
  { s with
    spans := if s.start = stop then s.spans else ⟨s.start, stop⟩ :: s.spans
    start := next }

def inLiteral (s : Scan) (c : Char) : Scan :=
  if s.hidden then { s with hidden := false }
  else if c = '\\' then { s with hidden := true }
  else if c = '{' then { s with depth := s.depth + 1 }
  else if c = '}' then
    if s.depth = 1 then { s.cut (s.after c) (s.after c) with depth := 0 }
    else { s with depth := s.depth - 1 }
  else s

def inText (s : Scan) (c : Char) : Scan :=
  if c = '{' ∧ ¬ s.quoted ∧ (s.place = 0 ∨ s.afterBlank) then
    { s with depth := 1, start := s.place, afterBlank := false }
  else if c = '"' then { s.cut s.place (s.after c) with quoted := !s.quoted, afterBlank := false }
  else if Text.isBlank c ∧ ¬ s.quoted then { s.cut s.place (s.after c) with afterBlank := true }
  else { s with afterBlank := false }

def step (s : Scan) (c : Char) : Scan :=
  { if s.depth = 0 then s.inText c else s.inLiteral c with place := s.after c }

def run (s : Scan) (cs : List Char) : Scan := cs.foldl step s

@[simp] theorem run_nil (s : Scan) : s.run [] = s := rfl

@[simp] theorem run_cons (s : Scan) (c : Char) (cs : List Char) :
    s.run (c :: cs) = (s.step c).run cs := rfl

/-- The tokens of the line if it ended here; an open quote or literal is the last of them. -/
def close (s : Scan) : List Span := (s.cut s.place s.place).spans.reverse

end Scan

/-- Where the tokens of a command line stand. -/
def tokenSpans (line : List Char) : List Span := (Scan.run {} line).close

/-- The tokens of a command line cut out of it, unless a place lies inside a character. -/
def tokens? (line : List Char) : Option (List (List Char)) :=
  (tokenSpans line).mapM (Text.slice? line)

/-- The tokens of a command line, the prefix of the command first. -/
def tokenize (line : String) : List String := ((tokens? line.toList).getD []).map String.ofList

end DebugConsole
