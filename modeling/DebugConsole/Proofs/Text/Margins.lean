import DebugConsole.Text.Blank
import Mathlib.Data.List.TakeWhile
import Mathlib.Tactic.Common

/-!
# Margins

The blanks at the front of a text and those at its end are taken off independently of each other,
and a text that does not end with a blank protects whatever is in front of it.
-/

namespace DebugConsole.Text

variable {cs es : List Char}

lemma isBlank_of_isDigit {d : Char} (hd : d.isDigit = true) : isBlank d = false := by
  obtain ⟨hlow, hhigh⟩ : 48 ≤ d.toNat ∧ d.toNat ≤ 57 := Char.isDigit_iff_toNat.mp hd
  simp only [isBlank, Char.le_def, UInt32.le_iff_toNat_le, Char.toNat_val, ← Char.toNat_inj,
    beq_eq_decide]
  grind

/-- The blanks at the end, told from the front: a character stays unless only blanks are left. -/
lemma dropEndBlanks_cons (c : Char) (cs : List Char) :
    dropEndBlanks (c :: cs) =
      if isBlank c = true ∧ dropEndBlanks cs = [] then [] else c :: dropEndBlanks cs := by
  simp only [dropEndBlanks, List.reverse_cons, List.dropWhile_append, List.isEmpty_iff,
    List.reverse_eq_nil_iff]
  by_cases hcs : cs.reverse.dropWhile isBlank = []
  · by_cases hc : isBlank c = true <;> simp [hcs, hc]
  · simp [hcs]

lemma dropEndBlanks_cons_of_not_blank {c : Char} (hc : isBlank c = false) (cs : List Char) :
    dropEndBlanks (c :: cs) = c :: dropEndBlanks cs := by
  rw [dropEndBlanks_cons, if_neg (by simp [hc])]

/-- Behind a text without blanks, the blanks at the end are those of what follows it. -/
lemma dropEndBlanks_append (hcs : ∀ c ∈ cs, isBlank c = false) :
    dropEndBlanks (cs ++ es) = cs ++ dropEndBlanks es := by
  induction cs with
  | nil => rfl
  | cons c cs ih =>
    obtain ⟨hc, hcs⟩ := List.forall_mem_cons.mp hcs
    rw [List.cons_append, dropEndBlanks_cons_of_not_blank hc, ih hcs, List.cons_append]

lemma strip_cons_of_blank {c : Char} (hc : isBlank c = true) (cs : List Char) :
    strip (c :: cs) = strip cs := by
  rw [strip, dropBlanks, List.dropWhile_cons_of_pos hc, ← dropBlanks, strip]

lemma strip_cons_of_not_blank {c : Char} (hc : isBlank c = false) (cs : List Char) :
    strip (c :: cs) = c :: dropEndBlanks cs := by
  rw [strip, dropBlanks_eq_self (by simpa using hc), dropEndBlanks_cons_of_not_blank hc]

/-- It does not matter on which side blanks are taken off first. -/
lemma dropBlanks_dropEndBlanks (cs : List Char) : dropBlanks (dropEndBlanks cs) = strip cs := by
  induction cs with
  | nil => rfl
  | cons c cs ih =>
    by_cases hc : isBlank c = true
    · rw [strip_cons_of_blank hc, ← ih, dropEndBlanks_cons]
      split
      case isTrue h => rw [h.2]
      case isFalse => rw [dropBlanks, List.dropWhile_cons_of_pos hc, ← dropBlanks]
    · have hc : isBlank c = false := by simpa using hc
      rw [strip_cons_of_not_blank hc, dropEndBlanks_cons_of_not_blank hc]
      exact dropBlanks_eq_self (by simpa using hc)

lemma strip_dropEndBlanks (cs : List Char) : strip (dropEndBlanks cs) = strip cs := by
  rw [← dropBlanks_dropEndBlanks, dropEndBlanks_dropEndBlanks, dropBlanks_dropEndBlanks]

lemma strip_append_of_blank {bs : List Char} (hbs : ∀ c ∈ bs, isBlank c = true) :
    strip (bs ++ cs) = strip cs := by
  have hfront : dropBlanks (bs ++ cs) = dropBlanks cs := List.dropWhile_append_of_pos hbs
  rw [strip, hfront, strip]

/-- What stands around a stripped text is blank. -/
lemma exists_margins (cs : List Char) :
    ∃ before after, (∀ c ∈ before, isBlank c = true) ∧ (∀ c ∈ after, isBlank c = true) ∧
      cs = before ++ strip cs ++ after := by
  refine ⟨cs.takeWhile isBlank, ((dropBlanks cs).reverse.takeWhile isBlank).reverse,
    fun c hc => List.mem_takeWhile_imp hc,
    fun c hc => List.mem_takeWhile_imp (List.mem_reverse.mp hc), ?_⟩
  have hend : strip cs ++ ((dropBlanks cs).reverse.takeWhile isBlank).reverse = dropBlanks cs := by
    rw [strip, dropEndBlanks, ← List.reverse_append, List.takeWhile_append_dropWhile,
      List.reverse_reverse]
  rw [List.append_assoc, hend, dropBlanks, List.takeWhile_append_dropWhile]

lemma isBlank_getLast?_strip (cs : List Char) : ∀ c ∈ (strip cs).getLast?, isBlank c = false := by
  intro c hc
  rw [strip, dropEndBlanks, List.getLast?_reverse] at hc
  exact isBlank_head?_dropBlanks _ c hc

lemma dropEndBlanks_append_of_blank {bs : List Char} (hbs : ∀ c ∈ bs, isBlank c = true) :
    dropEndBlanks (cs ++ bs) = dropEndBlanks cs := by
  rw [dropEndBlanks, List.reverse_append,
    List.dropWhile_append_of_pos fun c hc => hbs c (List.mem_reverse.mp hc), dropEndBlanks]

lemma strip_append_of_blank_right {bs : List Char} (hbs : ∀ c ∈ bs, isBlank c = true) :
    strip (cs ++ bs) = strip cs := by
  rw [← dropBlanks_dropEndBlanks, dropEndBlanks_append_of_blank hbs, dropBlanks_dropEndBlanks]

end DebugConsole.Text
