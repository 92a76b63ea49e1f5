/-!
# Reading from the front of a text

A reader takes something off the front of a text and leaves the rest. That the rest is shorter is
part of its result, so a loop over a reader ends.
-/

namespace DebugConsole.Text

/-- A rest of a text, which need not be shorter. -/
structure Rest (s : List Char) where
  text : List Char
  le   : text.length ≤ s.length

/-- What was read from the front of `s`, and the rest, which is shorter. -/
structure Scanned (α : Type) (s : List Char) where
  value   : α
  rest    : List Char
  shorter : rest.length < s.length

variable {α β : Type} {s t : List Char} {c : Char}

/-! ### Rests -/

namespace Rest

def whole (s : List Char) : Rest s := ⟨s, Nat.le_refl _⟩

def tail : Rest (c :: s) := ⟨s, Nat.le_succ _⟩

/-- A rest of a text is one of the text with a character in front. -/
def cons (r : Rest s) : Rest (c :: s) := ⟨r.text, Nat.le_succ_of_le r.le⟩

/-- A rest of a text that is no longer is a rest of the text. -/
def within (h : t.length ≤ s.length) (r : Rest t) : Rest s := ⟨r.text, Nat.le_trans r.le h⟩

/-- The text after a number of characters. -/
def drop (n : Nat) (s : List Char) : Rest s := ⟨s.drop n, by simp⟩

/-- A rest of a rest. -/
def trans (r : Rest s) (t : Rest r.text) : Rest s := t.within r.le

end Rest

/-! ### Readings -/

namespace Scanned

/-- The same reading with its value changed. -/
def map (f : α → β) (r : Scanned α s) : Scanned β s := ⟨f r.value, r.rest, r.shorter⟩

/-- A reading of the first character at least, when a rest of what follows it is left. -/
def ofRest (value : α) (r : Rest s) : Scanned α (c :: s) :=
  ⟨value, r.text, Nat.lt_succ_of_le r.le⟩

/-- A reading of the first character alone. -/
def tail (value : α) : Scanned α (c :: s) := ofRest value (.whole s)

/-- A reading from a text that is no longer is a reading from the text. -/
def within (h : t.length ≤ s.length) (r : Scanned α t) : Scanned α s :=
  ⟨r.value, r.rest, Nat.lt_of_lt_of_le r.shorter h⟩

/-- A reading after a first character. -/
def cons (r : Scanned α s) : Scanned α (c :: s) := r.within (Nat.le_succ _)

/-- A reading from a rest of the text. -/
def after (t : Rest s) (r : Scanned α t.text) : Scanned α s := r.within t.le

/-- A reading after another one. -/
def andThen (r : Scanned α s) (t : Scanned β r.rest) : Scanned β s :=
  t.within (Nat.le_of_lt r.shorter)

/-- The same reading when a rest of its rest is left. -/
def upTo (r : Scanned α s) (t : Rest r.rest) : Scanned α s :=
  ⟨r.value, t.text, Nat.lt_of_le_of_lt t.le r.shorter⟩

/-- What is left after a reading. -/
def toRest (r : Scanned α s) : Rest s := ⟨r.rest, Nat.le_of_lt r.shorter⟩

@[simp] theorem value_map (f : α → β) (r : Scanned α s) : (r.map f).value = f r.value := rfl

@[simp] theorem rest_map (f : α → β) (r : Scanned α s) : (r.map f).rest = r.rest := rfl

end Scanned

/-! ### Runs -/

theorem length_dropWhile_le (p : Char → Bool) (s : List Char) :
    (s.dropWhile p).length ≤ s.length :=
  (List.dropWhile_suffix p).length_le

/-- The text after the characters of a class at its front. -/
def dropRun (p : Char → Bool) (s : List Char) : Rest s := ⟨s.dropWhile p, length_dropWhile_le p s⟩

end DebugConsole.Text
