import DebugConsole.Json.Printer
import DebugConsole.Json.Scalar
import DebugConsole.Proofs.Decimal.Characters

/-!
# Layouts of JSON texts

How a value is laid out is a matter of the blanks between its parts. A value on one line has none of
them; the printer of this library breaks the line in front of every item and every field.
-/

namespace DebugConsole.Json

/-- The blanks that a printer puts between the parts of a value. -/
structure Layout where
  /-- The blanks in front of an item, a field or a closing bracket at a level. -/
  newLine     : Nat → List Char
  /-- The blanks between a colon and the value behind it. -/
  colon       : List Char
  newLine_all : ∀ level, ∀ c ∈ newLine level, isSpace c = true
  colon_all   : ∀ c ∈ colon, isSpace c = true

namespace Layout

/-- Everything on one line, without a blank. -/
def compact : Layout where
  newLine _   := []
  colon       := []
  newLine_all := by simp
  colon_all   := by simp

/-- One item or field a line, two blanks a level. -/
def lines : Layout where
  newLine           := Json.newLine
  colon             := [' ']
  newLine_all _ c h := by
    rcases List.mem_cons.mp h with rfl | h
    · rfl
    · rw [List.eq_of_mem_replicate h]
      rfl
  colon_all         := by simp [isSpace]

/-- A name and the text of its value. -/
def field (l : Layout) (k : String) (value : List Char) : List Char :=
  stringText k ++ ':' :: (l.colon ++ value)

mutual

/-- A value whose first line stands at a level. -/
def print (l : Layout) (level : Nat) : Value → List Char
  | .null              => ['n', 'u', 'l', 'l']
  | .boolean true      => ['t', 'r', 'u', 'e']
  | .boolean false     => ['f', 'a', 'l', 's', 'e']
  | .number n          => n.text
  | .string s          => stringText s
  | .array []          => ['[', ']']
  | .array (v :: vs)   =>
      '[' :: (l.newLine (level + 1) ++ l.print (level + 1) v ++ l.printItems (level + 1) vs
        ++ l.newLine level) ++ [']']
  | .object []         => ['{', '}']
  | .object ((k, v) :: fs) =>
      '{' :: (l.newLine (level + 1) ++ l.field k (l.print (level + 1) v)
        ++ l.printFields (level + 1) fs ++ l.newLine level) ++ ['}']

/-- The items after the first one. -/
def printItems (l : Layout) (level : Nat) : List Value → List Char
  | []      => []
  | v :: vs => ',' :: (l.newLine level ++ l.print level v ++ l.printItems level vs)

/-- The fields after the first one. -/
def printFields (l : Layout) (level : Nat) : List (String × Value) → List Char
  | []           => []
  | (k, v) :: fs =>
      ',' :: (l.newLine level ++ l.field k (l.print level v) ++ l.printFields level fs)

end

end Layout

/-- A value on one line. -/
def Value.compact (v : Value) : String := String.ofList (Layout.compact.print 0 v)

/-! ### The layout over several lines -/

namespace Layout

mutual

lemma print_lines (level : Nat) (v : Value) : lines.print level v = prettyAt level v := by
  match v with
  | .null | .boolean true | .boolean false | .number _ | .string _ | .array [] | .object [] =>
    simp only [print, prettyAt]
  | .array (v :: vs) =>
    simp only [print, prettyAt, print_lines _ v, printItems_lines _ vs]
    simp [lines]
  | .object ((k, v) :: fs) =>
    simp only [print, field, prettyAt, print_lines _ v, printFields_lines _ fs]
    simp [lines]

lemma printItems_lines (level : Nat) (vs : List Value) :
    lines.printItems level vs = prettyItems level vs := by
  match vs with
  | []      => simp only [printItems, prettyItems]
  | v :: vs =>
    simp only [printItems, prettyItems, print_lines _ v, printItems_lines _ vs]
    simp [lines]

lemma printFields_lines (level : Nat) (fs : List (String × Value)) :
    lines.printFields level fs = prettyFields level fs := by
  match fs with
  | []           => simp only [printFields, prettyFields]
  | (k, v) :: fs =>
    simp only [printFields, field, prettyFields, print_lines _ v, printFields_lines _ fs]
    simp [lines]

end

end Layout

/-- The printer of this library is the one that breaks the line. -/
lemma Value.pretty_eq (v : Value) : v.pretty = String.ofList (Layout.lines.print 0 v) := by
  rw [Value.pretty, Layout.print_lines]

/-! ### The numbers of a value -/

/-- A double is printed as a decimal or, if it is none, as null. -/
lemma floatText_cases (x : Float) :
    floatText x = ['n', 'u', 'l', 'l'] ∨ (Decimal.Marks (floatText x) ∧ floatText x ≠ []) := by
  rw [floatText]
  split
  · right
    split
    · exact ⟨.signed _ (by decide), Decimal.signed_ne_nil _ (by simp)⟩
    · dsimp only
      split
      · exact ⟨.signed _ (Decimal.marks_pointed _ _),
          Decimal.signed_ne_nil _ (Decimal.pointed_ne_nil _ _)⟩
      · exact ⟨.signed _ (Decimal.marks_scientific _ _),
          Decimal.signed_ne_nil _ (Decimal.scientific_ne_nil _ _)⟩
  · exact .inl rfl
  · exact .inl rfl

lemma Number.text_cases (n : Number) :
    n.text = ['n', 'u', 'l', 'l'] ∨ (Decimal.Marks n.text ∧ n.text ≠ []) := by
  cases n with
  | whole n => exact .inr ⟨Decimal.marks_toString n, Decimal.toString_ne_nil n⟩
  | float x => exact floatText_cases x

/-! ### The strings of a value -/

mutual

/-- The strings and the names of fields in a value, at any depth. -/
def Value.strings : Value → List String
  | .null | .boolean _ | .number _ => []
  | .string s                      => [s]
  | .array items                   => itemStrings items
  | .object fields                 => fieldStrings fields

def itemStrings : List Value → List String
  | []      => []
  | v :: vs => v.strings ++ itemStrings vs

def fieldStrings : List (String × Value) → List String
  | []           => []
  | (k, v) :: fs => k :: v.strings ++ fieldStrings fs

end

end DebugConsole.Json
