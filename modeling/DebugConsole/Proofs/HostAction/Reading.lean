import DebugConsole.HostAction
import DebugConsole.Proofs.Text.Margins

/-!
# Reading keys and positions

A line with a colon is read as a key and its argument, whatever blanks stand around the argument.
A position is read from decimal digits, and the digits that a position is written in are among
those it is read from.
-/

namespace DebugConsole.HostAction

open Text (isBlank strip dropEndBlanks)

/-! ### Keys -/

/-- The line of a key and an argument asks for the action of the key, for the argument without
the blanks around it. Blanks around the line do not matter, nor does it which blank ends the key. -/
lemma ofLine?_key {line : String} {key arg : List Char} {b : Char}
    (hline : strip line.toList = strip (':' :: (key ++ b :: arg))) (hb : isBlank b = true)
    (hne : key ≠ []) (hkey : ∀ c ∈ key, isBlank c = false) :
    ofLine? line = some (ofKey key (strip arg) (strip (key ++ b :: arg))) := by
  obtain ⟨k, ks, rfl⟩ := List.exists_cons_of_ne_nil hne
  have hkept : ∀ c ∈ k :: ks, (!isBlank c) = true := by simpa using hkey
  set tail := dropEndBlanks (b :: arg) with htail
  have hstrip : strip line.toList = ':' :: (k :: ks ++ tail) := by
    rw [hline, Text.strip_cons_of_not_blank (by decide), Text.dropEndBlanks_append hkey]
  have hrest : strip (k :: ks ++ b :: arg) = k :: ks ++ tail := by
    rw [List.forall_mem_cons] at hkey
    rw [List.cons_append, Text.strip_cons_of_not_blank hkey.1, Text.dropEndBlanks_append hkey.2]
    rfl
  -- What follows the key is empty or starts with the blank.
  have hend : tail.takeWhile (!isBlank ·) = [] ∧ tail.dropWhile (!isBlank ·) = tail := by
    rw [htail, Text.dropEndBlanks_cons]
    split <;> simp [hb]
  have htake : (k :: ks ++ tail).takeWhile (!isBlank ·) = k :: ks := by
    rw [List.takeWhile_append_of_pos hkept, hend.1, List.append_nil]
  have hdrop : (k :: ks ++ tail).dropWhile (!isBlank ·) = tail := by
    rw [List.dropWhile_append_of_pos hkept, hend.2]
  have harg : strip tail = strip arg := by
    rw [htail, Text.strip_dropEndBlanks, Text.strip_cons_of_blank hb]
  simp only [ofLine?, hstrip, htake, hdrop, hrest, harg]

/-! ### Positions -/

/-- A text names a position by decimal digits, which a plus sign may precede. Positions are machine
words. -/
def NamesIndex (cs : List Char) (index : Nat) : Prop :=
  ∃ ds, (cs = ds ∨ cs = '+' :: ds) ∧ ds ≠ [] ∧ (∀ d ∈ ds, d.isDigit = true) ∧
    Nat.ofDigitChars 10 ds 0 = index ∧ index < UInt64.size

lemma NamesIndex.lt {cs : List Char} {index : Nat} (h : NamesIndex cs index) :
    index < UInt64.size := by
  obtain ⟨-, -, -, -, -, hlt⟩ := h
  exact hlt

/-- The text without a plus sign in front. -/
def withoutPlus : List Char → List Char
  | '+' :: ds => ds
  | ds        => ds

lemma eq_withoutPlus (cs : List Char) : cs = withoutPlus cs ∨ cs = '+' :: withoutPlus cs := by
  unfold withoutPlus
  split
  · exact .inr rfl
  · exact .inl rfl

lemma withoutPlus_of_digits {ds : List Char} (hds : ∀ d ∈ ds, d.isDigit = true) :
    withoutPlus ds = ds := by
  cases ds with
  | nil => rfl
  | cons d ds =>
    have hd : d ≠ '+' := by
      rintro rfl
      exact absurd (hds '+' List.mem_cons_self) (by decide)
    simp [withoutPlus, hd]

lemma index?_eq_some_iff_withoutPlus {cs : List Char} {index : Nat} :
    index? cs = some index ↔
      withoutPlus cs ≠ [] ∧ (∀ d ∈ withoutPlus cs, d.isDigit = true) ∧
        Nat.ofDigitChars 10 (withoutPlus cs) 0 = index ∧ index < UInt64.size := by
  have hread : index? cs =
      if (withoutPlus cs).isEmpty ∨ ¬ (withoutPlus cs).all Char.isDigit then none
      else if Nat.ofDigitChars 10 (withoutPlus cs) 0 < UInt64.size then
        some (Nat.ofDigitChars 10 (withoutPlus cs) 0)
      else none := rfl
  rw [hread]
  simp only [List.isEmpty_iff, List.all_eq_true]
  grind

theorem index?_eq_some_iff {cs : List Char} {index : Nat} :
    index? cs = some index ↔ NamesIndex cs index := by
  rw [index?_eq_some_iff_withoutPlus]
  constructor
  · rintro ⟨hne, hdigits, hvalue, hlt⟩
    exact ⟨withoutPlus cs, eq_withoutPlus cs, hne, hdigits, hvalue, hlt⟩
  · rintro ⟨ds, hcs, hne, hdigits, hvalue, hlt⟩
    have hds : withoutPlus cs = ds := by
      rcases hcs with rfl | rfl
      · exact withoutPlus_of_digits hdigits
      · rfl
    rw [hds]
    exact ⟨hne, hdigits, hvalue, hlt⟩

lemma index?_eq_none_iff {cs : List Char} :
    index? cs = none ↔ ∀ index, ¬ NamesIndex cs index := by
  simp only [Option.eq_none_iff_forall_ne_some, ne_eq, index?_eq_some_iff]

lemma isDigit_of_mem_toDigits {n : Nat} {d : Char} (hd : d ∈ Nat.toDigits 10 n) :
    d.isDigit = true :=
  Nat.isDigit_of_mem_toDigits (by decide) (by decide) hd

/-- The decimal digits of a number name that number, if it is a position, and no other. -/
lemma namesIndex_toDigits_iff {n index : Nat} :
    NamesIndex (Nat.toDigits 10 n) index ↔ n = index ∧ n < UInt64.size := by
  have hvalue : Nat.ofDigitChars 10 (Nat.toDigits 10 n) 0 = n :=
    Nat.ofDigitChars_toDigits (by decide) (by decide)
  constructor
  · rintro ⟨ds, hds | hds, -, -, rfl, hlt⟩
    · rw [← hds, hvalue] at hlt ⊢
      exact ⟨rfl, hlt⟩
    · have hplus : '+' ∈ Nat.toDigits 10 n := by simp [hds]
      exact absurd (isDigit_of_mem_toDigits hplus) (by decide)
  · rintro ⟨rfl, hlt⟩
    exact ⟨_, .inl rfl, Nat.toDigits_ne_nil, fun _ => isDigit_of_mem_toDigits, hvalue, hlt⟩

/-- Around the digits of a number there are no blanks to take off. -/
lemma strip_toString (n : Nat) : strip (toString n).toList = Nat.toDigits 10 n := by
  rw [Nat.toString_eq_repr, Nat.toList_repr]
  have hdigits : ∀ d ∈ Nat.toDigits 10 n, isBlank d = false :=
    fun d hd => Text.isBlank_of_isDigit (isDigit_of_mem_toDigits hd)
  exact Text.strip_eq_self (fun d hd => hdigits d (List.mem_of_mem_head? hd))
    (fun d hd => hdigits d (List.mem_of_mem_getLast? hd))

/-- A position in plain decimal digits is read as that position. -/
lemma namesIndex_toString {index : Nat} (h : index < UInt64.size) :
    NamesIndex (strip (toString index).toList) index := by
  rw [strip_toString, namesIndex_toDigits_iff]
  exact ⟨rfl, h⟩

/-- No other number in plain decimal digits is read as a position. -/
lemma not_namesIndex_toString {n : Nat} (h : ¬ n < UInt64.size) (index : Nat) :
    ¬ NamesIndex (strip (toString n).toList) index := by
  rw [strip_toString, namesIndex_toDigits_iff]
  exact fun hn => h hn.2

/-! ### Activations -/

/-- The key of presets activates what its argument names, if it names a position. -/
lemma ofLine?_preset (arg : String) :
    ofLine? (":preset " ++ arg) = some (match index? (strip arg.toList) with
      | some index => .preset index
      | none       => .unknown (Text.trim ("preset " ++ arg))) := by
  have hkey : ∀ c ∈ ['p', 'r', 'e', 's', 'e', 't'], isBlank c = false := by simp [isBlank]
  have hline : (":preset " ++ arg).toList
      = ':' :: (['p', 'r', 'e', 's', 'e', 't'] ++ ' ' :: arg.toList) := by
    rw [String.toList_append]
    rfl
  have hrest : ("preset " ++ arg).toList
      = ['p', 'r', 'e', 's', 'e', 't'] ++ ' ' :: arg.toList := by
    rw [String.toList_append]
    rfl
  rw [ofLine?_key (congrArg strip hline) (by decide) (List.cons_ne_nil _ _) hkey, Text.trim, hrest]
  rfl

lemma ofLine?_preset_of_names {arg : String} {index : Nat}
    (h : NamesIndex (strip arg.toList) index) :
    ofLine? (":preset " ++ arg) = some (.preset index) := by
  rw [ofLine?_preset, index?_eq_some_iff.mpr h]

end DebugConsole.HostAction
