/-!
# Blank characters

The characters that separate words, and the removal of them from the ends of a text.

A character is blank when it has the Unicode property `White_Space`, which is wider than the
blanks of ASCII: the no-break space and the ideographic space are blank too.
-/

namespace DebugConsole.Text

/-- A character with the Unicode property `White_Space`. -/
def isBlank (c : Char) : Bool :=
  ('\t' ≤ c && c ≤ '\r') || c == ' ' || c == '\x85' || c == '\xa0' || c == '\u1680'
    || ('\u2000' ≤ c && c ≤ '\u200a') || c == '\u2028' || c == '\u2029' || c == '\u202f'
    || c == '\u205f' || c == '\u3000'

/-! ### Character lists -/

/-- The characters without the blanks at their front. -/
def dropBlanks (cs : List Char) : List Char := cs.dropWhile isBlank

/-- The characters without the blanks at their end. -/
def dropEndBlanks (cs : List Char) : List Char := (cs.reverse.dropWhile isBlank).reverse

/-- The characters without the blanks at either end. -/
def strip (cs : List Char) : List Char := dropEndBlanks (dropBlanks cs)

@[simp] theorem dropBlanks_nil : dropBlanks [] = [] := rfl

@[simp] theorem dropEndBlanks_nil : dropEndBlanks [] = [] := rfl

@[simp] theorem strip_nil : strip [] = [] := rfl

theorem dropBlanks_eq_self {cs : List Char} (h : ∀ c ∈ cs.head?, isBlank c = false) :
    dropBlanks cs = cs := by
  cases cs with
  | nil => rfl
  | cons c cs => simp [dropBlanks, h c (by simp)]

theorem isBlank_head?_dropBlanks (cs : List Char) :
    ∀ c ∈ (dropBlanks cs).head?, isBlank c = false := by
  intro c hc
  have := List.head?_dropWhile_not isBlank cs
  rw [dropBlanks] at hc
  rw [Option.mem_def.mp hc] at this
  exact this

@[simp] theorem dropBlanks_dropBlanks (cs : List Char) :
    dropBlanks (dropBlanks cs) = dropBlanks cs :=
  dropBlanks_eq_self (isBlank_head?_dropBlanks cs)

@[simp] theorem dropEndBlanks_dropEndBlanks (cs : List Char) :
    dropEndBlanks (dropEndBlanks cs) = dropEndBlanks cs := by
  have := dropBlanks_dropBlanks cs.reverse
  simp only [dropBlanks] at this
  simp [dropEndBlanks, this]

theorem dropEndBlanks_prefix (cs : List Char) : dropEndBlanks cs <+: cs := by
  have := List.dropWhile_suffix isBlank (l := cs.reverse)
  simpa [dropEndBlanks] using List.reverse_prefix.mpr this

@[simp] theorem strip_strip (cs : List Char) : strip (strip cs) = strip cs := by
  have h : dropBlanks (dropEndBlanks (dropBlanks cs)) = dropEndBlanks (dropBlanks cs) := by
    refine dropBlanks_eq_self fun c hc => isBlank_head?_dropBlanks cs c ?_
    obtain ⟨r, hr⟩ := dropEndBlanks_prefix (dropBlanks cs)
    rw [← hr, List.head?_append, Option.mem_def.mp hc]
    rfl
  rw [strip, strip, h, dropEndBlanks_dropEndBlanks]

theorem dropBlanks_eq_nil_iff {cs : List Char} :
    dropBlanks cs = [] ↔ ∀ c ∈ cs, isBlank c = true := by
  induction cs with
  | nil => simp
  | cons c cs ih =>
    rw [dropBlanks] at ih ⊢
    by_cases h : isBlank c <;> simp [h, ih]

theorem strip_eq_nil_iff {cs : List Char} : strip cs = [] ↔ ∀ c ∈ cs, isBlank c = true := by
  constructor
  · intro hs
    have hd : dropBlanks cs = [] := by
      cases hcs : dropBlanks cs with
      | nil => rfl
      | cons c r =>
        have hc := isBlank_head?_dropBlanks cs c (by simp [hcs])
        rw [strip, hcs, dropEndBlanks, List.reverse_eq_nil_iff] at hs
        simp [dropBlanks_eq_nil_iff.mp hs c (by simp)] at hc
    exact dropBlanks_eq_nil_iff.mp hd
  · intro hb
    rw [strip, dropBlanks_eq_nil_iff.mpr hb, dropEndBlanks_nil]

theorem dropEndBlanks_eq_self {cs : List Char} (h : ∀ c ∈ cs.getLast?, isBlank c = false) :
    dropEndBlanks cs = cs := by
  rw [dropEndBlanks, ← dropBlanks, dropBlanks_eq_self (by simpa using h), List.reverse_reverse]

theorem strip_eq_self {cs : List Char} (hfirst : ∀ c ∈ cs.head?, isBlank c = false)
    (hlast : ∀ c ∈ cs.getLast?, isBlank c = false) : strip cs = cs := by
  rw [strip, dropBlanks_eq_self hfirst, dropEndBlanks_eq_self hlast]

/-! ### Texts -/

/-- The text without the blanks at either end. -/
def trim (s : String) : String := String.ofList (strip s.toList)

/-- The text without the blanks at its end. -/
def trimEnd (s : String) : String := String.ofList (dropEndBlanks s.toList)

/-- A text of blanks only, the empty text included. -/
def isBlankText (s : String) : Bool := s.toList.all isBlank

/-- What follows a character that is not blank does not make a text blank. -/
theorem isBlankText_append_left {s : String} (h : isBlankText s = false) (t : String) :
    isBlankText (s ++ t) = false := by
  simp only [isBlankText] at h ⊢
  rw [String.toList_append, List.all_append, h, Bool.false_and]

@[simp] theorem trim_trim (s : String) : trim (trim s) = trim s := by simp [trim]

theorem trim_eq_empty_iff {s : String} : trim s = "" ↔ isBlankText s = true := by
  rw [isBlankText, List.all_eq_true, ← strip_eq_nil_iff, trim, ← String.toList_inj]
  simp

/-- Trimmed and not empty. -/
def Trimmed (s : String) : Prop := trim s = s ∧ s ≠ ""

theorem trimmed_trim {s : String} (h : ¬ isBlankText s) : Trimmed (trim s) :=
  ⟨trim_trim s, fun h' => h (trim_eq_empty_iff.mp h')⟩

/-- The trimmed text of a value, or nothing when only blanks are there. -/
def trimmed? (s : Option String) : Option String :=
  s.bind fun t => if isBlankText t then none else some (trim t)

theorem trimmed_of_trimmed? {s : Option String} {t : String} (h : trimmed? s = some t) :
    Trimmed t := by
  cases s with
  | none => simp [trimmed?] at h
  | some u =>
    by_cases hu : isBlankText u
    · simp [trimmed?, hu] at h
    · simp only [trimmed?, Option.bind_some, hu, Bool.false_eq_true, if_false,
        Option.some.injEq] at h
      subst h
      exact trimmed_trim hu

end DebugConsole.Text
