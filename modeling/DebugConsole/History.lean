import DebugConsole.Bounded

/-!
# Command history

The executed lines, as many as the capacity allows, with a cursor for recalling them. The cursor
lies between zero and the number of entries; at the number of entries nothing is being recalled.
-/

namespace DebugConsole

/-- What a step of the recall cursor does to the input line. -/
inductive Recall where
  /-- The cursor stands at this entry. -/
  | entry (line : String)
  /-- The cursor moved past the newest entry. -/
  | cleared
  /-- There is nothing to recall. -/
  | unchanged
deriving DecidableEq, Repr

/-- Executed lines, oldest first, and the recall cursor. -/
structure History where
  entries   : Bounded String
  cursor    : Nat
  cursor_le : cursor ≤ entries.items.length := by simp

namespace History

@[ext] theorem ext {h k : History} (he : h.entries = k.entries) (hc : h.cursor = k.cursor) :
    h = k := by
  cases h; cases k; simp_all

def empty (capacity : Nat) : History where
  entries := .empty capacity
  cursor  := 0

/-- Record a line and stop recalling. -/
def push (h : History) (line : String) : History where
  entries   := h.entries.push line
  cursor    := (h.entries.push line).items.length
  cursor_le := Nat.le_refl _

/-- What the cursor designates. -/
def current (h : History) : Recall :=
  match h.entries.get? h.cursor with
  | some line => .entry line
  | none      => .cleared

/-- Move the cursor, no further than past the newest entry. -/
def moveTo (h : History) (cursor : Nat) : History where
  entries   := h.entries
  cursor    := min cursor h.entries.items.length
  cursor_le := Nat.min_le_right _ _

/-- Step towards older entries, stopping at the oldest. -/
def stepBack (h : History) : History × Recall :=
  if h.entries.items.isEmpty then (h, .unchanged)
  else
    let moved := h.moveTo (min (h.cursor - 1) (h.entries.length - 1))
    (moved, moved.current)

/-- Step towards newer entries, stopping past the newest. -/
def stepForward (h : History) : History × Recall :=
  if h.entries.items.isEmpty then (h, .unchanged)
  else
    let moved := h.moveTo (h.cursor + 1)
    (moved, moved.current)

/-- Change the capacity, keeping the newest entries. -/
def setCapacity (h : History) (capacity : Nat) : History where
  entries   := h.entries.setCapacity capacity
  cursor    := min h.cursor (h.entries.setCapacity capacity).items.length
  cursor_le := Nat.min_le_right _ _

def length (h : History) : Nat := h.entries.length

@[simp] theorem entries_push (h : History) (line : String) :
    (h.push line).entries = h.entries.push line := rfl

@[simp] theorem cursor_push (h : History) (line : String) :
    (h.push line).cursor = (h.push line).entries.items.length := rfl

@[simp] theorem entries_moveTo (h : History) (cursor : Nat) :
    (h.moveTo cursor).entries = h.entries := rfl

@[simp] theorem cursor_moveTo (h : History) (cursor : Nat) :
    (h.moveTo cursor).cursor = min cursor h.entries.items.length := rfl

@[simp] theorem entries_setCapacity (h : History) (n : Nat) :
    (h.setCapacity n).entries = h.entries.setCapacity n := rfl

@[simp] theorem cursor_setCapacity (h : History) (n : Nat) :
    (h.setCapacity n).cursor = min h.cursor (h.setCapacity n).entries.items.length := rfl

end History

end DebugConsole
