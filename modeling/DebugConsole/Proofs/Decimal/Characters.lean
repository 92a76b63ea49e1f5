import DebugConsole.Decimal.Layout
import DebugConsole.Proofs.Text.Rows

/-!
# Characters of decimals

However a decimal is laid out, it is written with digits, signs, a point and the letter of the
exponent, and with nothing else. None of them is blank and there is at least one, so a decimal can
stand on a line.
-/

namespace DebugConsole.Decimal

/-- A character that decimals are written with. -/
def isMark (c : Char) : Bool := c.isDigit || c == '.' || c == '-' || c == '+' || c == 'e'

/-- Only such characters are in a text. -/
def Marks (text : List Char) : Prop := text.all isMark = true

instance (text : List Char) : Decidable (Marks text) := inferInstanceAs (Decidable (_ = _))

variable {as bs text : List Char} {c : Char}

lemma marks_iff : Marks text ↔ ∀ c ∈ text, isMark c = true := List.all_eq_true

lemma Marks.append (has : Marks as) (hbs : Marks bs) : Marks (as ++ bs) :=
  marks_iff.mpr (List.forall_mem_append.mpr ⟨marks_iff.mp has, marks_iff.mp hbs⟩)

lemma Marks.cons (hc : isMark c = true) (h : Marks text) : Marks (c :: text) :=
  marks_iff.mpr (List.forall_mem_cons.mpr ⟨hc, marks_iff.mp h⟩)

lemma marks_digitsOf (n : Nat) : Marks (digitsOf n) := by
  refine marks_iff.mpr fun c hc => ?_
  rw [isMark, Nat.isDigit_of_mem_toDigits (by decide) (by decide) hc]
  rfl

lemma marks_zeros (k : Nat) : Marks (List.replicate k '0') := by
  refine marks_iff.mpr fun c hc => ?_
  rw [List.eq_of_mem_replicate hc]
  decide

lemma marks_toString (n : Int) : Marks (toString n).toList := by
  cases n with
  | ofNat n   => simpa [Int.repr, digitsOf] using marks_digitsOf n
  | negSucc n =>
    have hminus : isMark '-' = true := by decide
    simpa [Int.repr, digitsOf] using (marks_digitsOf (n + 1)).cons hminus

lemma marks_positional (digits : Nat) (exponent : Int) : Marks (positional digits exponent) := by
  cases exponent with
  | ofNat k   => exact (marks_digitsOf digits).append (marks_zeros k)
  | negSucc k =>
    rw [positional]
    set padded := List.replicate (k + 1 + 1 - (digitsOf digits).length) '0' ++ digitsOf digits
    have hpadded : Marks padded := (marks_zeros _).append (marks_digitsOf digits)
    have htake (n : Nat) : Marks (padded.take n) :=
      marks_iff.mpr fun c hc => marks_iff.mp hpadded c (List.mem_of_mem_take hc)
    have hdrop (n : Nat) : Marks (padded.drop n) :=
      marks_iff.mpr fun c hc => marks_iff.mp hpadded c (List.mem_of_mem_drop hc)
    exact (htake _).append (.cons (by decide) (hdrop _))

lemma marks_pointed (digits : Nat) (exponent : Int) : Marks (pointed digits exponent) := by
  have hpositional := marks_positional digits exponent
  rw [pointed]
  split
  · exact hpositional
  · exact hpositional.append (by decide)

lemma marks_scientific (digits : Nat) (exponent : Int) : Marks (scientific digits exponent) := by
  have hdigits := marks_digitsOf digits
  rw [scientific]
  refine Marks.append ?_ (.cons (by decide) (.cons ?_ (marks_digitsOf _)))
  · cases hds : digitsOf digits with
    | nil => rfl
    | cons d ds =>
      obtain ⟨hd, hds'⟩ := List.forall_mem_cons.mp (marks_iff.mp (hds ▸ hdigits))
      cases ds with
      | nil => exact .cons hd rfl
      | cons e es => exact .cons hd (.cons (by decide) (marks_iff.mpr hds'))
  · split <;> decide

lemma Marks.signed (negative : Bool) (h : Marks text) : Marks (signed negative text) := by
  rw [Decimal.signed]
  split
  · exact .cons (by decide) h
  · exact h

/-! ### Decimals on a line -/

lemma isBlank_of_isMark (hc : isMark c = true) : Text.isBlank c = false := by
  simp only [isMark, Bool.or_eq_true, beq_iff_eq] at hc
  rcases hc with (((hc | rfl) | rfl) | rfl) | rfl
  · exact Text.isBlank_of_isDigit hc
  all_goals decide

lemma Marks.isRow (h : Marks text) (hne : text ≠ []) : Text.IsRow text :=
  Text.isRow_of_solid hne (by simpa using fun c hc => isBlank_of_isMark (marks_iff.mp h c hc))

lemma toString_ne_nil (n : Int) : (toString n).toList ≠ [] := by
  cases n <;> simp [Int.repr]

lemma positional_ne_nil (digits : Nat) (exponent : Int) : positional digits exponent ≠ [] := by
  cases exponent with
  | ofNat k   => exact List.append_ne_nil_of_left_ne_nil Nat.toDigits_ne_nil _
  | negSucc k => exact List.append_ne_nil_of_right_ne_nil _ (List.cons_ne_nil _ _)

lemma pointed_ne_nil (digits : Nat) (exponent : Int) : pointed digits exponent ≠ [] := by
  have hpositional := positional_ne_nil digits exponent
  rw [pointed]
  split
  · exact hpositional
  · exact List.append_ne_nil_of_left_ne_nil hpositional _

lemma scientific_ne_nil (digits : Nat) (exponent : Int) : scientific digits exponent ≠ [] :=
  List.append_ne_nil_of_right_ne_nil _ (List.cons_ne_nil _ _)

lemma signed_ne_nil (negative : Bool) (h : text ≠ []) : signed negative text ≠ [] := by
  rw [signed]
  split
  · exact List.cons_ne_nil _ _
  · exact h

/-- A plain number, be it finite or not, shows something on one line. -/
lemma isRow_plainText (x : Float) : Text.IsRow (plainText x).toList := by
  rw [plainText, String.toList_ofList]
  split
  · exact Text.isRow_of_solid (by simp) (by decide)
  · refine Text.isRow_of_solid (signed_ne_nil _ (by simp)) ?_
    rw [signed]
    split <;> decide
  · split
    · exact Marks.isRow (.signed _ (by decide)) (signed_ne_nil _ (by simp))
    · exact Marks.isRow (.signed _ (marks_positional _ _)) (signed_ne_nil _ (positional_ne_nil _ _))

end DebugConsole.Decimal
