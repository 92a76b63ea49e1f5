import DebugConsole.Text.Blank

/-!
# The grammar of a command line

The same language as the one-pass reader's, told by what a character means in each of four modes
and not by flags. A gap is the start of the line or a place right after a blank; only there does an
opening brace open a literal.
-/

namespace DebugConsole.Grammar

/-- What is being read; a word, a quote and a literal carry their text so far. -/
inductive Mode where
  | gap
  | word    (text : List Char)
  | quote   (text : List Char)
  | literal (depth : Nat) (hidden : Bool) (text : List Char)
deriving DecidableEq, Repr

/-- A text in front of the tokens after it; an empty text is no token. -/
def emit (text : List Char) (rest : List (List Char)) : List (List Char) :=
  if text = [] then rest else text :: rest

@[simp] theorem emit_nil (rest : List (List Char)) : emit [] rest = rest := rfl

/-- The tokens still to come, from a mode and the rest of the line. -/
def read : Mode → List Char → List (List Char)
  | .gap, []              => []
  | .word w, []           => emit w []
  | .quote q, []          => emit q []
  | .literal _ _ t, []    => emit t []
  | .gap, c :: cs         =>
      if c = '{' then read (.literal 1 false [c]) cs
      else if c = '"' then read (.quote []) cs
      else if Text.isBlank c then read .gap cs
      else read (.word [c]) cs
  | .word w, c :: cs      =>
      if c = '"' then emit w (read (.quote []) cs)
      else if Text.isBlank c then emit w (read .gap cs)
      else read (.word (w ++ [c])) cs
  | .quote q, c :: cs     =>
      if c = '"' then emit q (read (.word []) cs) else read (.quote (q ++ [c])) cs
  | .literal d hidden t, c :: cs =>
      if hidden then read (.literal d false (t ++ [c])) cs
      else if c = '\\' then read (.literal d true (t ++ [c])) cs
      else if c = '{' then read (.literal (d + 1) false (t ++ [c])) cs
      else if c = '}' then
        if d = 1 then emit (t ++ [c]) (read (.word []) cs)
        else read (.literal (d - 1) false (t ++ [c])) cs
      else read (.literal d false (t ++ [c])) cs

def tokens (line : List Char) : List (List Char) := read .gap line

end DebugConsole.Grammar
