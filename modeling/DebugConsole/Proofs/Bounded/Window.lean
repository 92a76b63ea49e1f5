import DebugConsole.Bounded
import Mathlib.Tactic.Common

/-!
# Windows over what was pushed

A bounded list holds the last items that were pushed on it. How many of them is told by a window,
which follows the operations but never looks at an item.
-/

namespace DebugConsole

universe u

/-- How many items a bounded list may hold and how many it holds. -/
structure Window where
  capacity : Nat
  size     : Nat
deriving DecidableEq, Repr

namespace Window

/-- The window of a list without items. -/
def empty (capacity : Nat) : Window where
  capacity := capacity
  size     := 0

/-- The window after a push. -/
def push (w : Window) : Window := { w with size := min (w.size + 1) w.capacity }

/-- The window after a change of the capacity. -/
def setCapacity (w : Window) (capacity : Nat) : Window where
  capacity := capacity
  size     := min w.size capacity

/-- The window after every item was dropped. -/
def clear (w : Window) : Window := { w with size := 0 }

end Window

namespace Bounded

variable {α : Type u} {w : Window} {pushed : List α} {b : Bounded α}

/-- The list holds exactly the last items that were pushed, as many as the window tells. -/
structure Keeps (w : Window) (pushed : List α) (b : Bounded α) : Prop where
  capacity : b.capacity = w.capacity
  size     : b.items.length = w.size
  items    : b.items = keepLast w.size pushed

namespace Keeps

lemma empty (capacity : Nat) : Keeps (.empty capacity) [] (Bounded.empty capacity : Bounded α) where
  capacity := rfl
  size     := rfl
  items    := by simp [Window.empty]

lemma push (h : Keeps w pushed b) (a : α) : Keeps w.push (pushed ++ [a]) (b.push a) where
  capacity := h.capacity
  size     := by simp [Window.push, h.capacity, h.size]
  items    := by
    rw [items_push, h.items, h.capacity, ← keepLast_append_singleton, keepLast_keepLast,
      Nat.min_comm]
    rfl

lemma setCapacity (h : Keeps w pushed b) (capacity : Nat) :
    Keeps (w.setCapacity capacity) pushed (b.setCapacity capacity) where
  capacity := rfl
  size     := by simp [Window.setCapacity, h.size]
  items    := by
    rw [items_setCapacity, h.items, keepLast_keepLast, Nat.min_comm]
    rfl

lemma clear (h : Keeps w pushed b) : Keeps w.clear pushed b.clear where
  capacity := h.capacity
  size     := rfl
  items    := by simp [Window.clear]

end Keeps

/-! ### One push after the other -/

/-- What a shorter list has dropped would be dropped anyway. -/
lemma keepLast_keepLast_append (n : Nat) (xs ys : List α) :
    keepLast n (keepLast n xs ++ ys) = keepLast n (xs ++ ys) := by
  have hdrop : keepLast n xs ++ ys = (xs ++ ys).drop (xs.length - n) := by
    rw [keepLast, List.drop_append_of_le_length (Nat.sub_le ..)]
  rw [keepLast, List.length_append, length_keepLast, hdrop, List.drop_drop, keepLast,
    List.length_append]
  congr 1
  omega

lemma keepLast_of_length_le {n : Nat} {xs : List α} (h : xs.length ≤ n) : keepLast n xs = xs := by
  rw [keepLast, Nat.sub_eq_zero_of_le h, List.drop_zero]

lemma keepLast_cons_of_le {n : Nat} {a : α} {xs : List α} (h : n ≤ xs.length) :
    keepLast n (a :: xs) = keepLast n xs := by
  rw [keepLast, List.length_cons, Nat.succ_sub h, List.drop_succ_cons, keepLast]

/-- Push the items of a list, the first of them first. -/
def pushAll (b : Bounded α) (xs : List α) : Bounded α := xs.foldl push b

@[simp] lemma pushAll_nil (b : Bounded α) : b.pushAll [] = b := rfl

@[simp] lemma pushAll_cons (b : Bounded α) (a : α) (xs : List α) :
    b.pushAll (a :: xs) = (b.push a).pushAll xs := rfl

lemma pushAll_append (b : Bounded α) (xs ys : List α) :
    b.pushAll (xs ++ ys) = (b.pushAll xs).pushAll ys := List.foldl_append ..

lemma capacity_pushAll (b : Bounded α) (xs : List α) : (b.pushAll xs).capacity = b.capacity := by
  induction xs generalizing b with
  | nil => rfl
  | cons a xs ih => rw [pushAll_cons, ih, capacity_push]

lemma items_pushAll (b : Bounded α) (xs : List α) :
    (b.pushAll xs).items = keepLast b.capacity (b.items ++ xs) := by
  induction xs generalizing b with
  | nil => rw [pushAll_nil, List.append_nil, keepLast_of_length_le b.length_le]
  | cons a xs ih =>
    rw [pushAll_cons, ih, items_push, capacity_push, keepLast_keepLast_append, List.append_assoc,
      List.singleton_append]

/-! ### The newest items -/

lemma reverse_keepLast (n : Nat) (xs : List α) : (keepLast n xs).reverse = xs.reverse.take n := by
  rw [keepLast, List.reverse_drop]
  rcases Nat.le_total n xs.length with hle | hle
  · rw [Nat.sub_sub_self hle]
  · rw [Nat.sub_eq_zero_of_le hle, Nat.sub_zero, List.take_of_length_le (by simp),
      List.take_of_length_le (by simpa using hle)]

lemma newest?_push {b : Bounded α} (hroom : 0 < b.capacity) (a : α) :
    (b.push a).newest? = some a := by
  obtain ⟨n, hn⟩ : ∃ n, b.capacity = n + 1 := ⟨b.capacity - 1, by omega⟩
  rw [newest?, items_push, hn, keepLast_append_singleton, List.getLast?_concat]

lemma newestFirst_zero (b : Bounded α) : b.newestFirst[0]? = b.newest? := by
  rw [newestFirst, ← List.head?_eq_getElem?, List.head?_reverse, newest?]

/-- What was pushed last comes first, in front of what was there before. -/
lemma newestFirst_pushAll (b : Bounded α) (xs : List α) :
    (b.pushAll xs).newestFirst = (xs.reverse ++ b.newestFirst).take b.capacity := by
  rw [newestFirst, items_pushAll, reverse_keepLast, List.reverse_append, newestFirst]

end Bounded

end DebugConsole
