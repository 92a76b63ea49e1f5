import DebugConsole.Proofs.History.Walk

/-!
# Changing the capacity while recalling

The cursor counts from the oldest entry. A smaller capacity drops the oldest entries and leaves the
count as it is, so the cursor comes to stand on an entry as much newer as entries were dropped, or
behind the newest, where nothing is being recalled. It stays on its entry only if none is dropped.
-/

namespace DebugConsole.History

/-! ### Entries that are left -/

/-- The number of the entry that the cursor designates, the newest being one, or zero when nothing
is being recalled. Dropping older entries does not change the number of an entry. -/
def recalled (h : History) : Nat := h.length - h.cursor

/-- The entry that the cursor designates is among the newest that a capacity has room for. -/
def Survives (h : History) (capacity : Nat) : Prop := h.cursor < h.length ∧ h.recalled ≤ capacity

instance (h : History) (capacity : Nat) : Decidable (h.Survives capacity) :=
  inferInstanceAs (Decidable (_ ∧ _))

/-- The newest of three entries is being recalled. -/
def recallingNewest : History := (((empty 3).push "a").push "b").push "c" |>.stepBack.1

/-- The newest entry survives any capacity but zero, and yet it may no longer be designated: the
next step back shows it once more, and not its neighbour. -/
theorem recallingNewest_loses_place :
    recallingNewest.Survives 2 ∧ (recallingNewest.setCapacity 2).entries.items = ["b", "c"] ∧
      recallingNewest.current = .entry "c" ∧
      (recallingNewest.setCapacity 2).current = .cleared ∧
      recallingNewest.stepBack.2 = .entry "b" ∧
      (recallingNewest.setCapacity 2).stepBack.2 = .entry "c" := by
  decide

/-! ### Places after the change -/

variable {h : History} {capacity : Nat}

lemma length_setCapacity (h : History) (capacity : Nat) :
    (h.setCapacity capacity).length = min h.length capacity :=
  length_keepLast capacity h.entries.items

lemma get?_setCapacity (h : History) (capacity n : Nat) :
    (h.setCapacity capacity).entries.get? n = h.entries.get? (n + (h.length - capacity)) := by
  show (h.entries.items.drop (h.entries.items.length - capacity))[n]? = _
  rw [List.getElem?_drop, Nat.add_comm]
  rfl

/-- A place among the entries that are left is a later one among all entries. -/
lemma current_moveTo_setCapacity {n : Nat} (hn : n ≤ (h.setCapacity capacity).length) :
    ((h.setCapacity capacity).moveTo n).current
      = (h.moveTo (n + (h.length - capacity))).current := by
  have hplace : n + (h.length - capacity) ≤ h.length := by
    rw [length_setCapacity] at hn
    omega
  rw [current, current, entries_moveTo, entries_moveTo, cursor_moveTo_of_le hn,
    cursor_moveTo_of_le hplace, get?_setCapacity]

lemma current_setCapacity (h : History) (capacity : Nat) :
    (h.setCapacity capacity).current
      = (h.moveTo (h.cursor + (h.length - capacity))).current := by
  have hle := h.cursor_le_length
  have hlength := h.length_setCapacity capacity
  have hplace : min h.cursor (h.setCapacity capacity).length + (h.length - capacity)
      = min (h.cursor + (h.length - capacity)) h.length := by omega
  rw [← moveTo_cursor (h.setCapacity capacity), current_moveTo_setCapacity (cursor_le_length _),
    cursor_setCapacity, ← Bounded.length, ← length, hplace, moveTo_min]

/-- A step back does not leave the entries that are left. -/
lemma stepBack_setCapacity (hpos : 0 < (h.setCapacity capacity).length) :
    (h.setCapacity capacity).stepBack.2 = (h.moveTo (max
      ((h.setCapacity capacity).cursor + (h.length - capacity) - 1)
      (h.length - capacity))).current := by
  have hle := (h.setCapacity capacity).cursor_le_length
  have hplace : (h.setCapacity capacity).cursor - 1 + (h.length - capacity)
      = max ((h.setCapacity capacity).cursor + (h.length - capacity) - 1)
          (h.length - capacity) := by omega
  rw [stepBack_of_pos hpos, current_moveTo_setCapacity (by omega), hplace]

lemma stepForward_setCapacity (hpos : 0 < (h.setCapacity capacity).length) :
    (h.setCapacity capacity).stepForward.2
      = (h.moveTo ((h.setCapacity capacity).cursor + (h.length - capacity) + 1)).current := by
  have hlength := h.length_setCapacity capacity
  have hplace : min ((h.setCapacity capacity).cursor + 1) (h.setCapacity capacity).length
        + (h.length - capacity)
      = min ((h.setCapacity capacity).cursor + (h.length - capacity) + 1) h.length := by omega
  rw [stepForward_of_pos hpos, current_moveTo_setCapacity (Nat.min_le_right ..), hplace,
    h.moveTo_min]

/-- When no entry is dropped, nothing changes for the cursor. -/
lemma steps_setCapacity (hfits : h.length ≤ capacity) :
    (h.setCapacity capacity).current = h.current ∧
      (h.setCapacity capacity).stepBack.2 = h.stepBack.2 ∧
      (h.setCapacity capacity).stepForward.2 = h.stepForward.2 := by
  have hle := h.cursor_le_length
  have hlength : (h.setCapacity capacity).length = h.length := by
    rw [length_setCapacity, Nat.min_eq_left hfits]
  have hcursor : (h.setCapacity capacity).cursor = h.cursor := by
    rw [cursor_setCapacity, ← Bounded.length, ← length, hlength, Nat.min_eq_left hle]
  have hdropped : h.length - capacity = 0 := Nat.sub_eq_zero_of_le hfits
  refine ⟨by rw [current_setCapacity, hdropped, Nat.add_zero, moveTo_cursor], ?_⟩
  rcases Nat.eq_zero_or_pos h.length with hempty | hpos
  · rw [stepBack_of_empty hempty, stepForward_of_empty hempty,
      stepBack_of_empty (hlength.trans hempty), stepForward_of_empty (hlength.trans hempty)]
    exact ⟨rfl, rfl⟩
  · have hpos' : 0 < (h.setCapacity capacity).length := hlength ▸ hpos
    rw [stepBack_setCapacity hpos', stepForward_setCapacity hpos', hcursor, hdropped,
      stepBack_of_pos hpos, stepForward_of_pos hpos, h.moveTo_min, Nat.add_zero, Nat.max_zero]
    exact ⟨rfl, rfl⟩

/-! ### What becomes of recalling -/

/-- How a history goes on when its capacity is changed. -/
structure Resized (h : History) (capacity : Nat) : Prop where
  entries    : (h.setCapacity capacity).entries.items = keepLast capacity h.entries.items
  /-- The cursor keeps its distance from the oldest entry, as far as there are entries. -/
  cursor     : (h.setCapacity capacity).cursor = min h.cursor (h.setCapacity capacity).length
  /-- So it designates the entry that is newer by the number of entries that were dropped. -/
  shifted    : (h.setCapacity capacity).current
    = (h.moveTo (h.cursor + (h.length - capacity))).current
  /-- The next steps reach the entries beside that one, among those that are left. -/
  neighbours : 0 < (h.setCapacity capacity).length →
    let place := (h.setCapacity capacity).cursor + (h.length - capacity)
    (h.setCapacity capacity).stepBack.2
        = (h.moveTo (max (place - 1) (h.length - capacity))).current ∧
      (h.setCapacity capacity).stepForward.2 = (h.moveTo (place + 1)).current
  /-- The cursor stays on its entry if and only if no entry is dropped. -/
  same       : h.cursor < h.length →
    ((h.setCapacity capacity).recalled = h.recalled ↔ h.length ≤ capacity)
  /-- Then the next steps reach its neighbours as before. -/
  kept       : h.length ≤ capacity → (h.setCapacity capacity).current = h.current ∧
    (h.setCapacity capacity).stepBack.2 = h.stepBack.2 ∧
    (h.setCapacity capacity).stepForward.2 = h.stepForward.2
  /-- When nothing is being recalled, nothing is afterwards. -/
  resting    : h.cursor = h.length →
    (h.setCapacity capacity).cursor = (h.setCapacity capacity).length

theorem resized_setCapacity (h : History) (capacity : Nat) : h.Resized capacity := by
  have hle := h.cursor_le_length
  have hlength := h.length_setCapacity capacity
  have hcursor : (h.setCapacity capacity).cursor = min h.cursor (h.setCapacity capacity).length :=
    rfl
  constructor
  case entries => rfl
  case cursor => exact hcursor
  case shifted => exact h.current_setCapacity capacity
  case neighbours => exact fun hpos => ⟨stepBack_setCapacity hpos, stepForward_setCapacity hpos⟩
  case same =>
    intro hlt
    rw [recalled, recalled]
    omega
  case kept => exact steps_setCapacity
  case resting =>
    intro hrest
    omega

end DebugConsole.History
