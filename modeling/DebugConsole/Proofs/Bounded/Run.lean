import DebugConsole.Proofs.Bounded.Window
import Mathlib.Data.List.Induction

/-!
# Runs of a bounded list

What a bounded list holds after any run of pushes, changes of the capacity and clears is told by the
run alone: the last of the items that were pushed, as many as the window tells. The items leave in
the order in which they were pushed, and none of them comes back. An operation that drops the oldest
item again and again until the rest fits needs one turn for each item too many.
-/

namespace DebugConsole.Bounded

universe u

variable {α : Type u}

/-! ### Dropping one item after the other -/

/-- The oldest item is dropped while there are more items than fit. This ends, after a number of
turns, with what is left. -/
inductive Evicts (capacity : Nat) : Nat → List α → List α → Prop
  | done {xs : List α} (hfits : xs.length ≤ capacity) : Evicts capacity 0 xs xs
  | turn {n : Nat} {a : α} {xs ys : List α} (hmore : capacity < (a :: xs).length)
      (hrest : Evicts capacity n xs ys) : Evicts capacity (n + 1) (a :: xs) ys

lemma evicts_of_length_le {capacity : Nat} {xs : List α} (hfits : xs.length ≤ capacity) :
    Evicts capacity (xs.length - capacity) xs (keepLast capacity xs) := by
  rw [Nat.sub_eq_zero_of_le hfits, keepLast_of_length_le hfits]
  exact .done hfits

lemma evicts_keepLast (capacity : Nat) (xs : List α) :
    Evicts capacity (xs.length - capacity) xs (keepLast capacity xs) := by
  induction xs with
  | nil => exact evicts_of_length_le (Nat.zero_le capacity)
  | cons a xs ih =>
    rcases Nat.lt_or_ge capacity (a :: xs).length with hmore | hfits
    · have hle : capacity ≤ xs.length := Nat.le_of_lt_succ hmore
      rw [List.length_cons, Nat.succ_sub hle, keepLast_cons_of_le hle]
      exact .turn hmore ih
    · exact evicts_of_length_le hfits

/-- Dropping ends for every list, and in one way only: no turn changes what is left in the end. -/
theorem evicts_iff {capacity n : Nat} {xs ys : List α} :
    Evicts capacity n xs ys ↔ n = xs.length - capacity ∧ ys = keepLast capacity xs := by
  constructor
  · intro h
    induction h with
    | done hfits =>
      exact ⟨(Nat.sub_eq_zero_of_le hfits).symm, (keepLast_of_length_le hfits).symm⟩
    | turn hmore _ ih =>
      obtain ⟨rfl, rfl⟩ := ih
      have hle := Nat.le_of_lt_succ hmore
      exact ⟨(Nat.succ_sub hle).symm, (keepLast_cons_of_le hle).symm⟩
  · rintro ⟨rfl, rfl⟩
    exact evicts_keepLast capacity xs

/-! ### Operations as data -/

/-- What may be done to a bounded list. -/
inductive Op (α : Type u) where
  | push        (a : α)
  | setCapacity (capacity : Nat)
  | clear
deriving DecidableEq, Repr

def apply (b : Bounded α) : Op α → Bounded α
  | .push a               => b.push a
  | .setCapacity capacity => b.setCapacity capacity
  | .clear                => b.clear

def applyAll (b : Bounded α) (ops : List (Op α)) : Bounded α := ops.foldl apply b

lemma applyAll_append (b : Bounded α) (ops more : List (Op α)) :
    b.applyAll (ops ++ more) = (b.applyAll ops).applyAll more := List.foldl_append ..

@[simp] lemma applyAll_append_singleton (b : Bounded α) (ops : List (Op α)) (op : Op α) :
    b.applyAll (ops ++ [op]) = (b.applyAll ops).apply op := by simp [applyAll]

/-! ### What a run tells -/

/-- The item that an operation pushes, if any. -/
def Op.item? : Op α → Option α
  | .push a => some a
  | _       => none

/-- The items that a run pushes, the first of them first. -/
def pushed (ops : List (Op α)) : List α := ops.filterMap Op.item?

lemma pushed_append (ops more : List (Op α)) : pushed (ops ++ more) = pushed ops ++ pushed more :=
  List.filterMap_append

@[simp] lemma pushed_push (a : α) : pushed [.push a] = [a] := rfl

@[simp] lemma pushed_setCapacity (capacity : Nat) :
    pushed [(.setCapacity capacity : Op α)] = [] := rfl

@[simp] lemma pushed_clear : pushed [(.clear : Op α)] = [] := rfl

/-- The window after an operation. No item is looked at. -/
def Op.slide (w : Window) : Op α → Window
  | .push _               => w.push
  | .setCapacity capacity => w.setCapacity capacity
  | .clear                => w.clear

/-- The window after a run on a list without items. -/
def window (capacity : Nat) (ops : List (Op α)) : Window := ops.foldl Op.slide (.empty capacity)

@[simp] lemma window_append_singleton (capacity : Nat) (ops : List (Op α)) (op : Op α) :
    window capacity (ops ++ [op]) = op.slide (window capacity ops) := by simp [window]

/-- How many of the items that a run pushed have left. -/
def departed (capacity : Nat) (ops : List (Op α)) : Nat :=
  (pushed ops).length - (window capacity ops).size

/-! ### What a run leaves -/

lemma Keeps.apply {w : Window} {xs : List α} {b : Bounded α} (h : Keeps w xs b) (op : Op α) :
    Keeps (op.slide w) (xs ++ pushed [op]) (b.apply op) := by
  cases op with
  | push a => exact h.push a
  | setCapacity capacity =>
    rw [pushed_setCapacity, List.append_nil]
    exact h.setCapacity capacity
  | clear =>
    rw [pushed_clear, List.append_nil]
    exact h.clear

theorem keeps_applyAll (capacity : Nat) (ops : List (Op α)) :
    Keeps (window capacity ops) (pushed ops) ((empty capacity).applyAll ops) := by
  induction ops using List.reverseRecOn with
  | nil => exact .empty capacity
  | append_singleton ops op ih =>
    rw [window_append_singleton, pushed_append, applyAll_append_singleton]
    exact ih.apply op

/-- An operation drops the oldest items, if any, and adds at most a newest. -/
lemma items_apply_suffix (b : Bounded α) (op : Op α) :
    (b.apply op).items <:+ b.items ++ pushed [op] := by
  cases op with
  | push a => exact keepLast_suffix ..
  | setCapacity capacity =>
    rw [pushed_setCapacity, List.append_nil]
    exact keepLast_suffix ..
  | clear => exact List.nil_suffix

theorem items_applyAll_suffix (b : Bounded α) (ops : List (Op α)) :
    (b.applyAll ops).items <:+ b.items ++ pushed ops := by
  induction ops using List.reverseRecOn with
  | nil => simp [applyAll, pushed]
  | append_singleton ops op ih =>
    rw [applyAll_append_singleton, pushed_append, ← List.append_assoc]
    exact (items_apply_suffix _ op).trans (List.suffix_append_self_iff.mpr ih)

lemma departed_add_length (capacity : Nat) (ops : List (Op α)) :
    departed capacity ops + ((empty capacity).applyAll ops).length = (pushed ops).length := by
  have hkeeps := keeps_applyAll capacity ops
  -- The subtraction is exact, for no more is left than was pushed.
  have hle : ((empty capacity).applyAll ops).length ≤ (pushed ops).length := by
    simpa [length] using (items_applyAll_suffix (empty capacity) ops).length_le
  rw [departed, ← hkeeps.size]
  exact Nat.sub_add_cancel hle

/-- The items that are left are the ones behind those that have left. -/
lemma items_applyAll (capacity : Nat) (ops : List (Op α)) :
    ((empty capacity).applyAll ops).items = (pushed ops).drop (departed capacity ops) :=
  (keeps_applyAll capacity ops).items

/-- What has left does not come back. -/
lemma departed_le_append (capacity : Nat) (ops later : List (Op α)) :
    departed capacity ops ≤ departed capacity (ops ++ later) := by
  have hbefore := departed_add_length capacity ops
  have hafter := departed_add_length capacity (ops ++ later)
  have hle := (items_applyAll_suffix ((empty capacity).applyAll ops) later).length_le
  rw [← applyAll_append, List.length_append] at hle
  rw [pushed_append, List.length_append] at hafter
  simp only [length] at hbefore hafter
  omega

/-! ### First in, first out -/

/-- How a list works after a run of operations on an empty one. -/
structure Fifo (capacity : Nat) (ops : List (Op α)) (b : Bounded α) : Prop where
  bounded   : b.length ≤ b.capacity
  /-- The capacity and the number of items follow the operations. -/
  windowed  : window capacity ops = ⟨b.capacity, b.length⟩
  /-- The last of the items that were pushed are left, in the order of the pushes. -/
  contents  : b.items = keepLast b.length (pushed ops)
  /-- A pushed item has left or stands at its own place behind those that have left. -/
  placed    : departed capacity ops + b.length = (pushed ops).length ∧
    ∀ i, b.get? i = (pushed ops)[departed capacity ops + i]?
  newest    : b.newest? = if b.length = 0 then none else (pushed ops).getLast?
  backwards : b.newestFirst = (pushed ops).reverse.take b.length
  /-- The items leave in the order of the pushes, and what has left does not come back. -/
  departs   : ∀ later, departed capacity ops ≤ departed capacity (ops ++ later) ∧
    (b.applyAll later).items <:+ b.items ++ pushed later
  /-- With one more item, dropping ends with what a push leaves. -/
  pushing   : ∀ a n xs, Evicts b.capacity n (b.items ++ [a]) xs ↔
    n = b.length + 1 - b.capacity ∧ xs = (b.push a).items
  /-- With another capacity, dropping ends with what the change of the capacity leaves. -/
  resizing  : ∀ c n xs, Evicts c n b.items xs ↔ n = b.length - c ∧ xs = (b.setCapacity c).items

theorem fifo_applyAll (capacity : Nat) (ops : List (Op α)) :
    Fifo capacity ops ((empty capacity).applyAll ops) := by
  have hkeeps := keeps_applyAll capacity ops
  have hitems := items_applyAll capacity ops
  have hplaces := departed_add_length capacity ops
  set b := (empty capacity).applyAll ops
  have hcontents : b.items = keepLast b.length (pushed ops) := by
    rw [length, hkeeps.size, hkeeps.items]
  constructor
  case bounded => exact b.length_le
  case windowed => rw [hkeeps.capacity, length, hkeeps.size]
  case contents => exact hcontents
  case placed =>
    refine ⟨hplaces, fun i => ?_⟩
    rw [get?, hitems, List.getElem?_drop]
  case newest =>
    rw [newest?, hitems, List.getLast?_drop]
    exact if_congr (by omega) rfl rfl
  case backwards => rw [newestFirst, hcontents, reverse_keepLast]
  case departs =>
    exact fun later => ⟨departed_le_append capacity ops later, items_applyAll_suffix b later⟩
  case pushing =>
    intro a n xs
    rw [evicts_iff, List.length_append, List.length_singleton]
    rfl
  case resizing => exact fun c n xs => evicts_iff

/-- What a small capacity has dropped stays away when there is room again. -/
example : ((empty 3).applyAll
    [.push 1, .push 2, .push 3, .setCapacity 1, .setCapacity 3, .push 4]).items = [3, 4] := by
  decide

end DebugConsole.Bounded
