import Mathlib.Data.List.Forall2

/-!
# Control sequences

A control sequence is an escape character, a bracket, any digits and semicolons, and a letter.
Stripping a text deletes every control sequence in it and keeps all other characters, an escape
character that starts none included.

A sequence may extend over the pieces that a text is put together from, so it is not stripping
itself that is told piece by piece: a piece strips to another if it does so whatever follows.
-/

namespace DebugConsole.Ansi

/-! ### Stripping -/

/-- The character that starts control sequences. -/
def escape : Char := '\x1b'

/-- The characters between the bracket and the letter of a control sequence. -/
def isParameter (ch : Char) : Bool := ch.isDigit || ch == ';'

/-- What follows the control sequence that a text starts with, if it starts with one. -/
def afterSequence? : List Char → Option (List Char)
  | first :: '[' :: cs =>
      match cs.dropWhile isParameter with
      | final :: rest => if first = escape ∧ final.isAlpha then some rest else none
      | []            => none
  | _                  => none

lemma length_afterSequence? {cs rest : List Char} (h : afterSequence? cs = some rest) :
    rest.length < cs.length := by
  unfold afterSequence? at h
  split at h
  · next first cs =>
    have hle := (List.dropWhile_suffix (l := cs) isParameter).length_le
    split at h
    · next final rest' heq =>
      split at h
      · obtain rfl := Option.some.inj h
        rw [heq, List.length_cons] at hle
        simp only [List.length_cons]
        omega
      · contradiction
    · contradiction
  · contradiction

/-- A text without its control sequences. -/
def strip : List Char → List Char
  | []       => []
  | ch :: cs =>
      match _h : afterSequence? (ch :: cs) with
      | some rest => strip rest
      | none      => ch :: strip cs
termination_by cs => cs.length
decreasing_by
  · exact length_afterSequence? ‹_›
  · simp

@[simp] lemma strip_nil : strip [] = [] := by rw [strip]

lemma strip_of_sequence {cs rest : List Char} (h : afterSequence? cs = some rest) :
    strip cs = strip rest := by
  cases cs with
  | nil => contradiction
  | cons ch cs =>
    rw [strip]
    split
    · next rest' h' => rw [Option.some.inj (h.symm.trans h')]
    · next h' => rw [h] at h'; contradiction

lemma strip_cons {ch : Char} (h : ch ≠ escape) (cs : List Char) :
    strip (ch :: cs) = ch :: strip cs := by
  have hnone : afterSequence? (ch :: cs) = none := by
    unfold afterSequence?
    split
    · next heq =>
      obtain ⟨rfl, -⟩ := List.cons.inj heq
      split
      · rw [if_neg fun hand => h hand.1]
      · rfl
    · rfl
  rw [strip]
  split
  · next rest h' => rw [hnone] at h'; contradiction
  · rfl

lemma strip_append_of_free {cs : List Char} (h : escape ∉ cs) (rest : List Char) :
    strip (cs ++ rest) = cs ++ strip rest := by
  induction cs with
  | nil => rfl
  | cons ch cs ih =>
    rw [List.mem_cons, not_or] at h
    rw [List.cons_append, strip_cons (Ne.symm h.1), ih h.2, List.cons_append]

lemma le_toNat_of_isAlpha {ch : Char} (h : ch.isAlpha = true) : 'A'.toNat ≤ ch.toNat := by
  rcases (Bool.or_eq_true ..).mp h with hupper | hlower
  · exact (of_decide_eq_true hupper).1
  · have ha : 'a'.toNat ≤ ch.toNat := of_decide_eq_true (Bool.and_eq_true_iff.mp hlower).1
    exact Nat.le_trans (by decide) ha

/-- The letter that ends a control sequence is not taken for a part of its parameters. -/
lemma not_isParameter_of_isAlpha {ch : Char} (h : ch.isAlpha = true) : isParameter ch = false := by
  have hletter := le_toNat_of_isAlpha h
  rw [isParameter, Bool.or_eq_false_iff, Bool.eq_false_iff, beq_eq_false_iff_ne]
  constructor
  · intro hdigit
    have hnine := (Char.isDigit_iff_toNat.mp hdigit).2
    exact absurd (Nat.le_trans hletter hnine) (by decide)
  · rintro rfl
    exact absurd hletter (by decide)

lemma afterSequence?_sequence {params : List Char} (hparams : ∀ ch ∈ params, isParameter ch = true)
    {final : Char} (hfinal : final.isAlpha = true) (rest : List Char) :
    afterSequence? (escape :: '[' :: (params ++ final :: rest)) = some rest := by
  have hdrop : (params ++ final :: rest).dropWhile isParameter = final :: rest := by
    rw [List.dropWhile_append_of_pos hparams, List.dropWhile_cons_of_neg]
    rw [not_isParameter_of_isAlpha hfinal]
    exact Bool.false_ne_true
  simp only [afterSequence?, hdrop, hfinal, and_self, if_true]

/-! ### Texts without escape characters -/

/-- A text has no escape character. -/
def Free (text : String) : Prop := escape ∉ text.toList

instance (text : String) : Decidable (Free text) := inferInstanceAs (Decidable (¬ _))

lemma Free.append {s t : String} (hs : Free s) (ht : Free t) : Free (s ++ t) := by
  rw [Free, String.toList_append, List.mem_append]
  exact not_or_intro hs ht

/-! ### Texts of digits and semicolons -/

/-- A text may stand between the bracket and the letter of a control sequence. -/
def Parameters (text : String) : Prop := text.toList.all isParameter = true

instance (text : String) : Decidable (Parameters text) :=
  inferInstanceAs (Decidable (_ = true))

lemma Parameters.append {s t : String} (hs : Parameters s) (ht : Parameters t) :
    Parameters (s ++ t) := by
  rw [Parameters, String.toList_append, List.all_append, hs, ht, Bool.and_self]

lemma Parameters.intercalate {sep : String} (hsep : Parameters sep) {ss : List String}
    (h : ∀ s ∈ ss, Parameters s) : Parameters (sep.intercalate ss) := by
  induction ss with
  | nil =>
    rw [String.intercalate_nil]
    decide
  | cons s ss ih =>
    obtain ⟨hs, hss⟩ := List.forall_mem_cons.mp h
    cases ss with
    | nil => rwa [String.intercalate_singleton]
    | cons =>
      rw [String.intercalate_cons_cons]
      exact (hs.append hsep).append (ih hss)

lemma parameters_toString (n : Nat) : Parameters (toString n) := by
  rw [Parameters, Nat.toString_eq_repr, Nat.toList_repr, List.all_eq_true]
  intro ch hch
  rw [isParameter, Nat.isDigit_of_mem_toDigits (by decide) (by decide) hch, Bool.true_or]

lemma Parameters.free {s : String} (h : Parameters s) : Free s := by
  intro hmem
  exact absurd (List.all_eq_true.mp h escape hmem) (by decide)

/-! ### Pieces -/

/-- A piece of a text becomes another when the text is stripped, whatever follows it. -/
def Strips (marked plain : String) : Prop :=
  ∀ rest, strip (marked.toList ++ rest) = plain.toList ++ strip rest

namespace Strips

lemma of_free {s : String} (h : Free s) : Strips s s := strip_append_of_free h

lemma append {s s' t t' : String} (hs : Strips s s') (ht : Strips t t') :
    Strips (s ++ t) (s' ++ t') := by
  intro rest
  rw [String.toList_append, String.toList_append, List.append_assoc, hs, ht, List.append_assoc]

/-- A whole control sequence becomes nothing. -/
lemma sequence {marked params : String} (hparams : Parameters params) (final : Char)
    (hfinal : final.isAlpha = true)
    (h : marked.toList = escape :: '[' :: (params.toList ++ [final])) : Strips marked "" := by
  intro rest
  rw [h]
  simp only [List.cons_append, List.append_assoc, List.nil_append]
  exact strip_of_sequence (afterSequence?_sequence (List.all_eq_true.mp hparams) hfinal rest)

lemma map {α : Type} {f g : α → String} {xs : List α} (h : ∀ x ∈ xs, Strips (f x) (g x)) :
    List.Forall₂ Strips (xs.map f) (xs.map g) := by
  rw [List.forall₂_map_left_iff, List.forall₂_map_right_iff, List.forall₂_same]
  exact h

lemma join {ss ts : List String} (h : List.Forall₂ Strips ss ts) :
    Strips (String.join ss) (String.join ts) := by
  induction h with
  | nil =>
    rw [String.join_nil]
    exact of_free (by decide)
  | cons hst _ ih =>
    rw [String.join_cons, String.join_cons]
    exact hst.append ih

lemma intercalate {sep : String} (hsep : Free sep) {ss ts : List String}
    (h : List.Forall₂ Strips ss ts) : Strips (sep.intercalate ss) (sep.intercalate ts) := by
  induction h with
  | nil =>
    rw [String.intercalate_nil]
    exact of_free (by decide)
  | cons hst hrest ih =>
    cases hrest with
    | nil => rwa [String.intercalate_singleton, String.intercalate_singleton]
    | cons =>
      rw [String.intercalate_cons_cons, String.intercalate_cons_cons]
      exact (hst.append (of_free hsep)).append ih

lemma strip_eq {marked plain : String} (h : Strips marked plain) :
    strip marked.toList = plain.toList := by
  simpa using h []

end Strips

end DebugConsole.Ansi
