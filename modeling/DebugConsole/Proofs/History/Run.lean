import DebugConsole.Proofs.Bounded.Window
import DebugConsole.Proofs.History.Walk
import Mathlib.Data.List.Induction

/-!
# Runs of history operations

What a history is after any run of operations is told by the run alone: the lines that were pushed,
a window that says how many of them are left, and the place of the cursor among these. An operation
extends the run by one.
-/

namespace DebugConsole.History

/-! ### Operations as data -/

/-- What may be done to a history. -/
inductive Op where
  | push        (line : String)
  | stepBack
  | stepForward
  | setCapacity (capacity : Nat)
deriving DecidableEq, Repr

def apply (h : History) : Op → History
  | .push line            => h.push line
  | .stepBack             => h.stepBack.1
  | .stepForward          => h.stepForward.1
  | .setCapacity capacity => h.setCapacity capacity

def applyAll (h : History) (ops : List Op) : History := ops.foldl apply h

@[simp] lemma applyAll_append_singleton (h : History) (ops : List Op) (op : Op) :
    h.applyAll (ops ++ [op]) = (h.applyAll ops).apply op := by simp [applyAll]

/-! ### What a run tells -/

/-- The line that an operation pushes, if any. -/
def Op.line? : Op → Option String
  | .push line => some line
  | _          => none

/-- How many entries there are and may be, and where the cursor stands among them. -/
structure Gauge where
  window : Window
  cursor : Nat
deriving DecidableEq, Repr

namespace Gauge

/-- The gauge of a history without entries. -/
def empty (capacity : Nat) : Gauge where
  window := .empty capacity
  cursor := 0

/-- The gauge after an operation. No line is looked at, and no step leaves the window. -/
def after (g : Gauge) : Op → Gauge
  | .push _               => { window := g.window.push, cursor := g.window.push.size }
  | .stepBack             => { g with cursor := g.cursor - 1 }
  | .stepForward          => { g with cursor := min (g.cursor + 1) g.window.size }
  | .setCapacity capacity =>
      { window := g.window.setCapacity capacity
        cursor := min g.cursor (g.window.setCapacity capacity).size }

end Gauge

/-- The gauge after a run on a history without entries. -/
def gauge (capacity : Nat) (ops : List Op) : Gauge := ops.foldl Gauge.after (.empty capacity)

@[simp] lemma gauge_append_singleton (capacity : Nat) (ops : List Op) (op : Op) :
    gauge capacity (ops ++ [op]) = (gauge capacity ops).after op := by simp [gauge]

/-! ### What a run leaves -/

/-- The history holds the last of the pushed lines, and its cursor stands where the gauge says. -/
structure Follows (g : Gauge) (pushed : List String) (h : History) : Prop where
  entries : h.entries.Keeps g.window pushed
  cursor  : h.cursor = g.cursor

section

variable {g : Gauge} {pushed : List String} {h : History}

lemma Follows.length (hf : Follows g pushed h) : h.length = g.window.size := hf.entries.size

lemma follows_empty (capacity : Nat) : Follows (.empty capacity) [] (empty capacity) where
  entries := .empty capacity
  cursor  := rfl

/-- A step of the cursor pushes nothing. -/
lemma Follows.step {h' : History} (hf : Follows g pushed h) (hentries : h'.entries = h.entries) :
    Follows { g with cursor := h'.cursor } (pushed ++ []) h' where
  entries := by rw [hentries, List.append_nil]; exact hf.entries
  cursor  := rfl

theorem Follows.apply (hf : Follows g pushed h) (op : Op) :
    Follows (g.after op) (pushed ++ op.line?.toList) (h.apply op) := by
  cases op with
  | push line =>
    have hpush := hf.entries.push line
    exact ⟨hpush, hpush.size⟩
  | stepBack =>
    have hstep := hf.step h.entries_stepBack
    rwa [cursor_stepBack, hf.cursor] at hstep
  | stepForward =>
    have hstep := hf.step h.entries_stepForward
    rwa [cursor_stepForward, hf.cursor, hf.length] at hstep
  | setCapacity capacity =>
    have hset := hf.entries.setCapacity capacity
    refine ⟨by rwa [← List.append_nil pushed] at hset, ?_⟩
    rw [History.apply, cursor_setCapacity, hf.cursor]
    exact congrArg (min g.cursor) hset.size

end

theorem follows_applyAll (capacity : Nat) (ops : List Op) :
    Follows (gauge capacity ops) (ops.filterMap Op.line?) ((empty capacity).applyAll ops) := by
  induction ops using List.reverseRecOn with
  | nil => exact follows_empty capacity
  | append_singleton ops op ih =>
    have hpushed : (ops ++ [op]).filterMap Op.line?
        = ops.filterMap Op.line? ++ op.line?.toList := by
      rw [List.filterMap_append]
      cases op <;> rfl
    rw [gauge_append_singleton, applyAll_append_singleton, hpushed]
    exact ih.apply op

/-! ### Recalling -/

/-- How recalling works after a run of operations on a history without entries. -/
structure Recalls (capacity : Nat) (ops : List Op) (h : History) : Prop where
  bounded : h.cursor ≤ h.length ∧ h.length ≤ h.entries.capacity
  /-- The last of the lines that were pushed are left. -/
  entries : h.entries.items = keepLast h.length (ops.filterMap Op.line?)
  /-- Their number, the capacity and the place of the cursor follow the operations. -/
  gauged  : gauge capacity ops = ⟨⟨h.entries.capacity, h.length⟩, h.cursor⟩
  /-- After a push nothing is being recalled. -/
  pushed  : ∀ line, (h.push line).cursor = (h.push line).length
  /-- Without entries a step changes nothing. -/
  empty   : h.length = 0 → h.stepBack = (h, .unchanged) ∧ h.stepForward = (h, .unchanged)
  /-- A step back shows an entry, the oldest if it can go no further. -/
  back    : 0 < h.length → ∃ line, h.entries.get? (h.cursor - 1) = some line ∧
    h.stepBack.1.entries = h.entries ∧ h.stepBack.1.cursor = h.cursor - 1 ∧
    h.stepBack.2 = .entry line
  /-- A step forward shows an entry, unless it goes past the newest. -/
  forward : 0 < h.length → h.stepForward.1.entries = h.entries ∧
    h.stepForward.1.cursor = min (h.cursor + 1) h.length ∧
    (h.stepForward.2 = .cleared ↔ h.stepForward.1.cursor = h.length) ∧
    (h.stepForward.1.cursor < h.length → ∃ line,
      h.entries.get? h.stepForward.1.cursor = some line ∧ h.stepForward.2 = .entry line)
  /-- A walk back from a push passes the entries from the newest to the oldest. -/
  walk    : ∀ line k, 0 < (h.push line).length → ∃ found,
    (h.push line).entries.newestFirst[min (k + 1) (h.push line).length - 1]? = some found ∧
      ((h.push line).stepsBack k).stepBack.2 = .entry found
  /-- A step forward undoes a step back that moved the cursor. -/
  undone  : h.stepBack.1.cursor ≠ h.cursor → h.stepBack.1.stepForward = (h, h.current)

theorem recalls_applyAll (capacity : Nat) (ops : List Op) :
    Recalls capacity ops ((History.empty capacity).applyAll ops) := by
  have hfollows := follows_applyAll capacity ops
  set h := (History.empty capacity).applyAll ops
  constructor
  case bounded => exact ⟨h.cursor_le_length, h.length_le_capacity⟩
  case entries => rw [hfollows.length, hfollows.entries.items]
  case gauged => rw [hfollows.entries.capacity, hfollows.length, hfollows.cursor]
  case pushed => exact fun line => rfl
  case empty => exact fun hempty => ⟨stepBack_of_empty hempty, stepForward_of_empty hempty⟩
  case back =>
    intro hpos
    obtain ⟨line, hline, hanswer⟩ := exists_stepBack hpos
    exact ⟨line, hline, h.entries_stepBack, h.cursor_stepBack, hanswer⟩
  case forward =>
    exact fun hpos => ⟨h.entries_stepForward, h.cursor_stepForward,
      stepForward_eq_cleared_iff hpos, exists_stepForward⟩
  case walk => exact fun line k hpos => exists_stepBack_stepsBack rfl hpos k
  case undone =>
    intro hmoved
    rw [cursor_stepBack] at hmoved
    exact stepForward_stepBack (by omega)

end DebugConsole.History
