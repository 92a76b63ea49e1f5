/-!
# Spans

Parts of a text given by the byte offsets of their ends. An offset that lies inside a character or
past the end of the text cuts nothing out, and neither do offsets in the wrong order.
-/

namespace DebugConsole

/-- The part of a text between two byte offsets. -/
structure Span where
  start : Nat
  stop  : Nat
deriving DecidableEq, Repr

namespace Text

/-- The number of bytes that characters take. -/
def byteLength : List Char → Nat
  | []      => 0
  | c :: cs => c.utf8Size + byteLength cs

@[simp] theorem byteLength_nil : byteLength [] = 0 := rfl

@[simp] theorem byteLength_cons (c : Char) (cs : List Char) :
    byteLength (c :: cs) = c.utf8Size + byteLength cs := rfl

@[simp] theorem byteLength_append (as bs : List Char) :
    byteLength (as ++ bs) = byteLength as + byteLength bs := by
  induction as with
  | nil => simp
  | cons a as ih => simp only [List.cons_append, byteLength_cons, ih]; omega

@[simp] theorem byteLength_eq_zero {cs : List Char} : byteLength cs = 0 ↔ cs = [] := by
  cases cs with
  | nil => simp
  | cons c cs => have := c.utf8Size_pos; simp; omega

/-- The characters that take one byte. -/
def isAscii (c : Char) : Bool := c.toNat < 128

/-! ### Cutting -/

/-- The characters from a byte offset on. -/
def dropBytes? : Nat → List Char → Option (List Char)
  | 0, cs          => some cs
  | _ + 1, []      => none
  | n + 1, c :: cs => if c.utf8Size ≤ n + 1 then dropBytes? (n + 1 - c.utf8Size) cs else none

/-- The characters before a byte offset. -/
def takeBytes? : Nat → List Char → Option (List Char)
  | 0, _           => some []
  | _ + 1, []      => none
  | n + 1, c :: cs =>
      if c.utf8Size ≤ n + 1 then (takeBytes? (n + 1 - c.utf8Size) cs).map (c :: ·) else none

/-- The characters of a span. -/
def slice? (cs : List Char) (s : Span) : Option (List Char) :=
  if s.start ≤ s.stop then (dropBytes? s.start cs).bind (takeBytes? (s.stop - s.start)) else none

theorem dropBytes?_byteLength (as bs : List Char) :
    dropBytes? (byteLength as) (as ++ bs) = some bs := by
  induction as with
  | nil => cases bs <;> rfl
  | cons a as ih =>
    obtain ⟨n, hn⟩ := Nat.exists_eq_add_of_lt a.utf8Size_pos
    have hsum : a.utf8Size + byteLength as = n + byteLength as + 1 := by omega
    have hrest : n + byteLength as + 1 - a.utf8Size = byteLength as := by omega
    rw [byteLength_cons, List.cons_append, hsum, dropBytes?, if_pos (by omega), hrest, ih]

theorem takeBytes?_byteLength (as bs : List Char) :
    takeBytes? (byteLength as) (as ++ bs) = some as := by
  induction as with
  | nil => cases bs <;> rfl
  | cons a as ih =>
    obtain ⟨n, hn⟩ := Nat.exists_eq_add_of_lt a.utf8Size_pos
    have hsum : a.utf8Size + byteLength as = n + byteLength as + 1 := by omega
    have hrest : n + byteLength as + 1 - a.utf8Size = byteLength as := by omega
    rw [byteLength_cons, List.cons_append, hsum, takeBytes?, if_pos (by omega), hrest, ih,
      Option.map_some]

/-- A span between two places of a text where characters meet cuts out what lies between them. -/
theorem slice?_append (before piece after : List Char) :
    slice? (before ++ piece ++ after)
      ⟨byteLength before, byteLength before + byteLength piece⟩ = some piece := by
  rw [slice?, if_pos (Nat.le_add_right ..), List.append_assoc, dropBytes?_byteLength,
    Option.bind_some, Nat.add_sub_cancel_left, takeBytes?_byteLength]

end Text

end DebugConsole
