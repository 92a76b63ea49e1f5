import DebugConsole.History
import DebugConsole.Proofs.Bounded.Window
import Mathlib.Tactic.Common

/-!
# Walking through the history

A step of the recall cursor moves it by one place, within the entries, and tells what stands there.
The entries stay as they are, so a step can be taken back, and where a walk ends depends on its
length alone.
-/

namespace DebugConsole.History

variable {h : History} {line : String} {n : Nat}

/-! ### Places -/

lemma length_le_capacity (h : History) : h.length ≤ h.entries.capacity := h.entries.length_le

lemma cursor_le_length (h : History) : h.cursor ≤ h.length := h.cursor_le

lemma cursor_moveTo_of_le (hn : n ≤ h.length) : (h.moveTo n).cursor = n := Nat.min_eq_left hn

lemma moveTo_cursor (h : History) : h.moveTo h.cursor = h := ext rfl (Nat.min_eq_left h.cursor_le)

lemma moveTo_min (h : History) (n : Nat) : h.moveTo (min n h.length) = h.moveTo n :=
  ext rfl (by simp only [cursor_moveTo, length, Bounded.length]; omega)

lemma current_moveTo_eq_entry_iff (hn : n ≤ h.length) :
    (h.moveTo n).current = .entry line ↔ h.entries.get? n = some line := by
  rw [current, entries_moveTo, cursor_moveTo_of_le hn]
  cases h.entries.get? n <;> simp

/-- Nothing stands behind the newest entry, and something stands everywhere else. -/
lemma current_moveTo_eq_cleared_iff (hn : n ≤ h.length) :
    (h.moveTo n).current = .cleared ↔ n = h.length := by
  have hnone : h.entries.get? n = none ↔ n = h.length := by
    rw [Bounded.get?, List.getElem?_eq_none_iff]
    exact ⟨Nat.le_antisymm hn, Nat.le_of_eq ∘ Eq.symm⟩
  rw [← hnone, current, entries_moveTo, cursor_moveTo_of_le hn]
  cases h.entries.get? n <;> simp

/-! ### One step -/

lemma stepBack_of_empty (hempty : h.length = 0) : h.stepBack = (h, .unchanged) := by
  have hitems : h.entries.items = [] := List.eq_nil_of_length_eq_zero hempty
  rw [stepBack, if_pos (by simp [hitems])]

lemma stepForward_of_empty (hempty : h.length = 0) : h.stepForward = (h, .unchanged) := by
  have hitems : h.entries.items = [] := List.eq_nil_of_length_eq_zero hempty
  rw [stepForward, if_pos (by simp [hitems])]

lemma stepBack_of_pos (hpos : 0 < h.length) :
    h.stepBack = (h.moveTo (h.cursor - 1), (h.moveTo (h.cursor - 1)).current) := by
  have hitems : h.entries.items ≠ [] := List.ne_nil_of_length_pos hpos
  have hplace : min (h.cursor - 1) (h.entries.length - 1) = h.cursor - 1 :=
    Nat.min_eq_left (Nat.sub_le_sub_right h.cursor_le 1)
  rw [stepBack, if_neg (by simpa using hitems), hplace]

lemma stepForward_of_pos (hpos : 0 < h.length) :
    h.stepForward =
      (h.moveTo (min (h.cursor + 1) h.length), (h.moveTo (min (h.cursor + 1) h.length)).current) := by
  have hitems : h.entries.items ≠ [] := List.ne_nil_of_length_pos hpos
  rw [moveTo_min, stepForward, if_neg (by simpa using hitems)]

lemma entries_stepBack (h : History) : h.stepBack.1.entries = h.entries := by
  unfold stepBack
  split <;> rfl

lemma entries_stepForward (h : History) : h.stepForward.1.entries = h.entries := by
  unfold stepForward
  split <;> rfl

/-- Without entries the cursor stands at zero, and there it stays. -/
lemma cursor_stepBack (h : History) : h.stepBack.1.cursor = h.cursor - 1 := by
  have hle := h.cursor_le_length
  rcases Nat.eq_zero_or_pos h.length with hempty | hpos
  · rw [stepBack_of_empty hempty]
    show h.cursor = h.cursor - 1
    omega
  · rw [stepBack_of_pos hpos]
    exact cursor_moveTo_of_le (by omega)

lemma cursor_stepForward (h : History) :
    h.stepForward.1.cursor = min (h.cursor + 1) h.length := by
  have hle := h.cursor_le_length
  rcases Nat.eq_zero_or_pos h.length with hempty | hpos
  · rw [stepForward_of_empty hempty]
    show h.cursor = min (h.cursor + 1) h.length
    omega
  · rw [stepForward_of_pos hpos]
    exact cursor_moveTo_of_le (Nat.min_le_right ..)

/-- A step back shows an entry, the oldest if it can go no further. -/
lemma exists_stepBack (hpos : 0 < h.length) :
    ∃ line, h.entries.get? (h.cursor - 1) = some line ∧ h.stepBack.2 = .entry line := by
  have hle := h.cursor_le_length
  have hlt : h.cursor - 1 < h.length := by omega
  obtain ⟨line, hline⟩ : ∃ line, h.entries.get? (h.cursor - 1) = some line :=
    ⟨_, List.getElem?_eq_getElem hlt⟩
  refine ⟨line, hline, ?_⟩
  rw [stepBack_of_pos hpos, current_moveTo_eq_entry_iff (Nat.le_of_lt hlt), hline]

/-- A step forward shows what stands at the place it reaches. -/
lemma stepForward_eq_current (hpos : 0 < h.length) :
    h.stepForward.2 = (h.moveTo h.stepForward.1.cursor).current := by
  rw [cursor_stepForward, stepForward_of_pos hpos]

lemma cursor_stepForward_le (h : History) : h.stepForward.1.cursor ≤ h.length := by
  rw [cursor_stepForward]
  exact Nat.min_le_right ..

lemma stepForward_eq_cleared_iff (hpos : 0 < h.length) :
    h.stepForward.2 = .cleared ↔ h.stepForward.1.cursor = h.length := by
  rw [stepForward_eq_current hpos, current_moveTo_eq_cleared_iff h.cursor_stepForward_le]

lemma exists_stepForward (hlt : h.stepForward.1.cursor < h.length) :
    ∃ line, h.entries.get? h.stepForward.1.cursor = some line ∧ h.stepForward.2 = .entry line := by
  obtain ⟨line, hline⟩ : ∃ line, h.entries.get? h.stepForward.1.cursor = some line :=
    ⟨_, List.getElem?_eq_getElem hlt⟩
  refine ⟨line, hline, ?_⟩
  rw [stepForward_eq_current (Nat.zero_lt_of_lt hlt),
    current_moveTo_eq_entry_iff h.cursor_stepForward_le, hline]

/-- A step forward undoes a step back, unless that one had no place to go. -/
theorem stepForward_stepBack (hpos : 0 < h.cursor) :
    h.stepBack.1.stepForward = (h, h.current) := by
  have hle := h.cursor_le_length
  have hback : h.stepBack.1 = h.moveTo (h.cursor - 1) := by rw [stepBack_of_pos (by omega)]
  have hlength : (h.moveTo (h.cursor - 1)).length = h.length := rfl
  have hplace : min ((h.moveTo (h.cursor - 1)).cursor + 1) h.length = h.cursor := by
    rw [cursor_moveTo_of_le (by omega)]
    omega
  have hmove : (h.moveTo (h.cursor - 1)).moveTo h.cursor = h := h.moveTo_cursor
  rw [hback, stepForward_of_pos (by omega), hlength, hplace, hmove]

/-! ### Many steps -/

/-- The history after some steps back. -/
def stepsBack (h : History) : Nat → History
  | 0     => h
  | k + 1 => (h.stepsBack k).stepBack.1

lemma entries_stepsBack (h : History) (k : Nat) : (h.stepsBack k).entries = h.entries := by
  induction k with
  | zero => rfl
  | succ k ih => rw [stepsBack, entries_stepBack, ih]

lemma cursor_stepsBack (h : History) (k : Nat) : (h.stepsBack k).cursor = h.cursor - k := by
  induction k with
  | zero => rfl
  | succ k ih => rw [stepsBack, cursor_stepBack, ih, Nat.sub_sub]

/-- One more step back shows what stands one place further back. -/
lemma stepBack_stepsBack (hpos : 0 < h.length) (k : Nat) :
    (h.stepsBack k).stepBack.2 = (h.moveTo (h.cursor - (k + 1))).current := by
  have hentries := h.entries_stepsBack k
  have hmove : (h.stepsBack k).moveTo ((h.stepsBack k).cursor - 1)
      = h.moveTo (h.cursor - (k + 1)) := by
    rw [cursor_stepsBack, Nat.sub_sub]
    exact ext hentries (by simp only [cursor_moveTo, hentries])
  rw [stepBack_of_pos (by rwa [length, hentries]), hmove]

/-- From behind the newest entry a walk back passes one entry after the other and ends with the
oldest, however long it is. -/
theorem exists_stepBack_stepsBack (hrest : h.cursor = h.length) (hpos : 0 < h.length) (k : Nat) :
    ∃ found, h.entries.newestFirst[min (k + 1) h.length - 1]? = some found ∧
      (h.stepsBack k).stepBack.2 = .entry found := by
  have hlt : min (k + 1) h.length - 1 < h.entries.items.length := by
    rw [← Bounded.length, ← length]
    omega
  have hplace : h.entries.items.length - 1 - (min (k + 1) h.length - 1) = h.cursor - (k + 1) := by
    rw [← Bounded.length, ← length]
    omega
  obtain ⟨found, hfound⟩ : ∃ found, h.entries.newestFirst[min (k + 1) h.length - 1]? = some found :=
    ⟨_, List.getElem?_eq_getElem (by rwa [Bounded.newestFirst, List.length_reverse])⟩
  refine ⟨found, hfound, ?_⟩
  rw [Bounded.newestFirst, List.getElem?_reverse hlt, hplace] at hfound
  rw [stepBack_stepsBack hpos, current_moveTo_eq_entry_iff (by omega)]
  exact hfound

/-- A walk back finds every entry after as many steps as tell its age. -/
lemma stepBack_stepsBack_of_newestFirst (hrest : h.cursor = h.length) {k : Nat}
    (hline : h.entries.newestFirst[k]? = some line) :
    (h.stepsBack k).stepBack.2 = .entry line := by
  have hlt : k < h.length := by
    obtain ⟨hlt, -⟩ := List.getElem?_eq_some_iff.mp hline
    rwa [Bounded.newestFirst, List.length_reverse] at hlt
  have hplace : min (k + 1) h.length - 1 = k := by omega
  obtain ⟨found, hfound, hanswer⟩ := exists_stepBack_stepsBack hrest (by omega) k
  rw [hplace, hline] at hfound
  rw [hanswer, Option.some.inj hfound]

lemma stepBack_of_newest (hrest : h.cursor = h.length) (hnewest : h.entries.newest? = some line) :
    h.stepBack.2 = .entry line := by
  rw [← Bounded.newestFirst_zero] at hnewest
  exact stepBack_stepsBack_of_newestFirst hrest hnewest

end DebugConsole.History
