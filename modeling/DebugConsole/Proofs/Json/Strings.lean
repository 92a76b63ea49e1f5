import DebugConsole.Json.Typed
import Mathlib.Tactic.Common

/-!
# Strings read back

A string that was printed is read as it was. Every character is printed in one of three ways, as
itself, behind a backslash or by its number, and each of them is read as that character, whatever
was read before and whatever comes next.
-/

namespace DebugConsole.Json

/-- A reading of a value that leaves a text. -/
def Gives {α : Type} {s : List Char} (r : Reading α s) (value : α) (rest : List Char) : Prop :=
  ∃ v, r = .ok v ∧ v.value = value ∧ v.rest = rest

/-! ### Printed characters -/

/-- The ways in which characters are printed. -/
inductive Printed (c : Char) : List Char → Prop where
  | escaped  {e : Char} (h : simpleEscape? e = some c) : Printed c ['\\', e]
  /-- A control character, by the four digits of its number. -/
  | numbered (h : c < ' ') :
      Printed c ['\\', 'u', '0', '0', Text.hexLower (c.toNat / 16), Text.hexLower (c.toNat % 16)]
  | plain    (hquote : c ≠ '"') (hbackslash : c ≠ '\\') (h : ¬ c < ' ') : Printed c [c]

lemma printed_escape (c : Char) : Printed c (escape c) := by
  unfold escape
  split
  case isTrue h => rcases h with rfl | rfl <;> exact .escaped (by decide)
  case isFalse hself =>
    split
    case isTrue h => subst h; exact .escaped (by decide)
    split
    case isTrue h => subst h; exact .escaped (by decide)
    split
    case isTrue h => subst h; exact .escaped (by decide)
    split
    case isTrue h => subst h; exact .escaped (by decide)
    split
    case isTrue h => subst h; exact .escaped (by decide)
    split
    case isTrue h => exact .numbered h
    case isFalse h =>
      rw [not_or] at hself
      exact .plain hself.1 hself.2 h

section

variable {read s rest : List Char} {c : Char} {text : String}

/-- A control character is no half of a pair of code units. -/
lemma gives_numbered (hc : c < ' ') :
    Gives (numbered ('0' :: '0' :: Text.hexLower (c.toNat / 16) ::
      Text.hexLower (c.toNat % 16) :: s)) c s := by
  have hlt : c.toNat < 32 := hc
  have hquad : quad? '0' '0' (Text.hexLower (c.toNat / 16)) (Text.hexLower (c.toNat % 16))
      = some c.toNat := by
    have hzero : Text.hexValue? '0' = some 0 := by decide
    simp only [quad?, hzero, Text.hexValue?_hexLower (show c.toNat / 16 < 16 by omega),
      Text.hexValue?_hexLower (show c.toNat % 16 < 16 by omega), Option.some.injEq]
    omega
  have htrailing : isTrailing c.toNat = false := by simp [isTrailing]; omega
  have hleading : isLeading c.toNat = false := by simp [isLeading]; omega
  simp only [numbered, quad, hquad]
  simp only [Text.Scanned.cons, Text.Scanned.within, Text.Scanned.tail, Text.Scanned.ofRest,
    htrailing, hleading]
  exact ⟨_, rfl, Char.ofNat_toNat c, rfl⟩

lemma gives_escaped_of_numbered (h : Gives (numbered s) c rest) :
    Gives (escaped ('u' :: s)) c rest := by
  obtain ⟨v, hv, rfl, rfl⟩ := h
  have hu : simpleEscape? 'u' = none := by decide
  simp only [escaped, hu, if_true, hv]
  exact ⟨_, rfl, rfl, rfl⟩

lemma gives_escaped_of_simple {e : Char} (h : simpleEscape? e = some c) :
    Gives (escaped (e :: s)) c s := by
  rw [escaped, h]
  exact ⟨_, rfl, rfl, rfl⟩

lemma gives_stringFrom_of_escaped {t : List Char} (hescaped : Gives (escaped s) c t)
    (h : Gives (stringFrom (c :: read) t) text rest) :
    Gives (stringFrom read ('\\' :: s)) text rest := by
  obtain ⟨x, hx, rfl, rfl⟩ := hescaped
  obtain ⟨v, hv, rfl, rfl⟩ := h
  rw [stringFrom, if_neg (by decide), if_pos rfl, hx]
  simp only [hv]
  exact ⟨_, rfl, rfl, rfl⟩

/-- However it is printed, a character is read as that character. -/
lemma Printed.gives {e : List Char} (hprinted : Printed c e)
    (h : Gives (stringFrom (c :: read) s) text rest) :
    Gives (stringFrom read (e ++ s)) text rest := by
  cases hprinted with
  | escaped hsimple => exact gives_stringFrom_of_escaped (gives_escaped_of_simple hsimple) h
  | numbered hcontrol =>
    exact gives_stringFrom_of_escaped (gives_escaped_of_numbered (gives_numbered hcontrol)) h
  | plain hquote hbackslash hcontrol =>
    obtain ⟨v, hv, rfl, rfl⟩ := h
    rw [List.singleton_append, stringFrom, if_neg hquote, if_neg hbackslash, if_neg hcontrol, hv]
    exact ⟨_, rfl, rfl, rfl⟩

/-! ### Printed strings -/

lemma gives_stringFrom (read cs rest : List Char) :
    Gives (stringFrom read (cs.flatMap escape ++ '"' :: rest))
      (String.ofList (read.reverse ++ cs)) rest := by
  induction cs generalizing read with
  | nil =>
    rw [List.flatMap_nil, List.nil_append, stringFrom, if_pos rfl, List.append_nil]
    exact ⟨_, rfl, rfl, rfl⟩
  | cons c cs ih =>
    have ih := ih (c :: read)
    rw [List.reverse_cons, List.append_assoc, List.singleton_append] at ih
    rw [List.flatMap_cons, List.append_assoc]
    exact (printed_escape c).gives ih

/-- A printed string is read as a string, and nothing is left of it. -/
theorem gives_aString (expected s : String) : Gives (aString expected (stringText s)) s [] := by
  obtain ⟨v, hv, hvalue, hrest⟩ := gives_stringFrom [] s.toList []
  rw [List.reverse_nil, List.nil_append, String.ofList_toList] at hvalue
  have hread : aString expected (stringText s)
      = ((stringFrom [] (s.toList.flatMap escape ++ ['"'])).map .cons).map
          (.within (Nat.le_refl _)) := rfl
  rw [hread, hv]
  exact ⟨_, rfl, hvalue, hrest⟩

/-- What a reader finds when it leaves nothing. -/
lemma readAll_of_gives {α : Type} {reader : (s : List Char) → Reading α s} {value : α}
    (h : Gives (reader text.toList) value []) : readAll reader text = .ok value := by
  obtain ⟨v, hv, rfl, hrest⟩ := h
  have hskip : (skip v.rest).text.isEmpty = true := by rw [hrest]; rfl
  simp only [readAll, hv, hskip, if_true]

end

end DebugConsole.Json
