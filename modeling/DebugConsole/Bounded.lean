/-!
# Bounded lists

A first-in first-out list that never holds more than its capacity: a push that would exceed it
drops the oldest item, and so does a smaller capacity. A capacity of zero holds nothing.
-/

namespace DebugConsole

universe u v

variable {α : Type u}

/-- The last `n` items of a list. -/
def keepLast (n : Nat) (xs : List α) : List α := xs.drop (xs.length - n)

@[simp] theorem length_keepLast (n : Nat) (xs : List α) :
    (keepLast n xs).length = min xs.length n := by
  simp only [keepLast, List.length_drop]
  omega

@[simp] theorem keepLast_zero (xs : List α) : keepLast 0 xs = [] := by simp [keepLast]

theorem keepLast_suffix (n : Nat) (xs : List α) : keepLast n xs <:+ xs := List.drop_suffix ..

theorem keepLast_append_singleton (n : Nat) (xs : List α) (a : α) :
    keepLast (n + 1) (xs ++ [a]) = keepLast n xs ++ [a] := by
  rw [keepLast, keepLast, List.length_append, List.length_singleton, Nat.add_sub_add_right,
    List.drop_append_of_le_length (Nat.sub_le ..)]

theorem keepLast_keepLast (m n : Nat) (xs : List α) :
    keepLast m (keepLast n xs) = keepLast (min m n) xs := by
  rw [keepLast, length_keepLast, keepLast, keepLast, List.drop_drop]
  congr 1
  omega

theorem map_keepLast {β : Type v} (f : α → β) (n : Nat) (xs : List α) :
    (keepLast n xs).map f = keepLast n (xs.map f) := by
  rw [keepLast, keepLast, List.map_drop, List.length_map]

/-- A list of at most `capacity` items, oldest first. -/
structure Bounded (α : Type u) where
  items     : List α
  capacity  : Nat
  length_le : items.length ≤ capacity := by simp

namespace Bounded

@[ext] theorem ext {b c : Bounded α} (hi : b.items = c.items) (hc : b.capacity = c.capacity) :
    b = c := by
  cases b; cases c; simp_all

def empty (capacity : Nat) : Bounded α where
  items    := []
  capacity := capacity

/-- The last items of a list, as many as fit. -/
def ofList (capacity : Nat) (xs : List α) : Bounded α where
  items     := keepLast capacity xs
  capacity  := capacity
  length_le := by simp only [length_keepLast]; omega

/-- Add an item at the end, dropping the oldest when there is no room. -/
def push (b : Bounded α) (a : α) : Bounded α := ofList b.capacity (b.items ++ [a])

/-- Change the capacity, dropping the oldest items that no longer fit. -/
def setCapacity (b : Bounded α) (capacity : Nat) : Bounded α := ofList capacity b.items

def clear (b : Bounded α) : Bounded α := empty b.capacity

def length (b : Bounded α) : Nat := b.items.length

/-- The item at a position, the oldest at zero. -/
def get? (b : Bounded α) (i : Nat) : Option α := b.items[i]?

def newest? (b : Bounded α) : Option α := b.items.getLast?

def newestFirst (b : Bounded α) : List α := b.items.reverse

@[simp] theorem items_empty (n : Nat) : (empty n : Bounded α).items = [] := rfl

@[simp] theorem capacity_empty (n : Nat) : (empty n : Bounded α).capacity = n := rfl

@[simp] theorem items_push (b : Bounded α) (a : α) :
    (b.push a).items = keepLast b.capacity (b.items ++ [a]) := rfl

@[simp] theorem capacity_push (b : Bounded α) (a : α) : (b.push a).capacity = b.capacity := rfl

@[simp] theorem items_setCapacity (b : Bounded α) (n : Nat) :
    (b.setCapacity n).items = keepLast n b.items := rfl

@[simp] theorem capacity_setCapacity (b : Bounded α) (n : Nat) :
    (b.setCapacity n).capacity = n := rfl

@[simp] theorem items_clear (b : Bounded α) : b.clear.items = [] := rfl

@[simp] theorem capacity_clear (b : Bounded α) : b.clear.capacity = b.capacity := rfl

end Bounded

end DebugConsole
