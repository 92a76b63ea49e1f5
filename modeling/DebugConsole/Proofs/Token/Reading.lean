import DebugConsole.Token.Grammar
import Mathlib.Data.List.Infix
import Mathlib.Tactic.Common

/-!
# Reading a piece of a line

What the grammar makes of one character, and of a piece of a line that lies within one mode: blanks
in a gap, characters of a word, the content of a quote, a literal up to the brace that closes it.
Each is told for any rest of the line.
-/

namespace DebugConsole.Grammar

open Text

variable {c : Char} {cs rest : List Char}

lemma emit_of_ne_nil {text : List Char} (h : text ≠ []) (tokens : List (List Char)) :
    emit text tokens = text :: tokens :=
  if_neg h

/-! ### One character -/

/-- What a character does: the text it completes, which is empty if there is no token in it, and
the mode after it. -/
structure Advance where
  token : List Char := []
  mode  : Mode

def Mode.step : Mode → Char → Advance
  | .gap, c =>
      if c = '{' then { mode := .literal 1 false [c] }
      else if c = '"' then { mode := .quote [] }
      else if isBlank c then { mode := .gap }
      else { mode := .word [c] }
  | .word w, c =>
      if c = '"' then { token := w, mode := .quote [] }
      else if isBlank c then { token := w, mode := .gap }
      else { mode := .word (w ++ [c]) }
  | .quote q, c =>
      if c = '"' then { token := q, mode := .word [] } else { mode := .quote (q ++ [c]) }
  | .literal d hidden t, c =>
      if hidden then { mode := .literal d false (t ++ [c]) }
      else if c = '\\' then { mode := .literal d true (t ++ [c]) }
      else if c = '{' then { mode := .literal (d + 1) false (t ++ [c]) }
      else if c = '}' then
        if d = 1 then { token := t ++ [c], mode := .word [] }
        else { mode := .literal (d - 1) false (t ++ [c]) }
      else { mode := .literal d false (t ++ [c]) }

lemma read_cons (m : Mode) (c : Char) (rest : List Char) :
    read m (c :: rest) = emit (m.step c).token (read (m.step c).mode rest) := by
  cases m <;> rw [read, Mode.step] <;> split_ifs <;> rfl

/-! ### Blanks -/

lemma ne_of_isBlank (h : isBlank c = true) : c ≠ '{' ∧ c ≠ '"' := by
  constructor <;> rintro rfl <;> exact absurd h (by decide)

lemma read_gap_of_isBlank (h : isBlank c = true) : read .gap (c :: rest) = read .gap rest := by
  obtain ⟨hbrace, hquote⟩ := ne_of_isBlank h
  rw [read, if_neg hbrace, if_neg hquote, if_pos h]

lemma read_gap_append (h : ∀ c ∈ cs, isBlank c = true) :
    read .gap (cs ++ rest) = read .gap rest := by
  induction cs with
  | nil => rfl
  | cons c cs ih =>
    obtain ⟨hc, hcs⟩ := List.forall_mem_cons.mp h
    rw [List.cons_append, read_gap_of_isBlank hc, ih hcs]

/-! ### Words -/

/-- The line ends here, or a blank follows. -/
def Ends (rest : List Char) : Prop := ∀ c ∈ rest.head?, isBlank c = true

lemma read_word_append {w : List Char} (h : ∀ c ∈ cs, isBlank c = false ∧ c ≠ '"') :
    read (.word w) (cs ++ rest) = read (.word (w ++ cs)) rest := by
  induction cs generalizing w with
  | nil => rw [List.nil_append, List.append_nil]
  | cons c cs ih =>
    obtain ⟨⟨hblank, hquote⟩, hcs⟩ := List.forall_mem_cons.mp h
    rw [List.cons_append, read, if_neg hquote, if_neg (by simp [hblank]), ih hcs]
    simp

/-- A word may start in a gap with anything but a brace. -/
lemma read_gap_word (hbrace : c ≠ '{') (h : ∀ d ∈ c :: cs, isBlank d = false ∧ d ≠ '"') :
    read .gap (c :: cs ++ rest) = read (.word (c :: cs)) rest := by
  obtain ⟨⟨hblank, hquote⟩, hcs⟩ := List.forall_mem_cons.mp h
  rw [List.cons_append, read, if_neg hbrace, if_neg hquote, if_neg (by simp [hblank]),
    read_word_append hcs, List.singleton_append]

/-- A word is over at the end of the line and before a blank; what follows is read from a gap. -/
lemma read_word_of_ends (h : Ends rest) (w : List Char) :
    read (.word w) rest = emit w (read .gap rest) := by
  cases rest with
  | nil => rfl
  | cons c rest =>
    have hc : isBlank c = true := h c rfl
    rw [read_gap_of_isBlank hc, read, if_neg (ne_of_isBlank hc).2, if_pos hc]

/-! ### Quotes -/

lemma read_quote_append {q : List Char} (h : '"' ∉ cs) :
    read (.quote q) (cs ++ '"' :: rest) = emit (q ++ cs) (read (.word []) rest) := by
  induction cs generalizing q with
  | nil => rw [List.nil_append, read, if_pos rfl, List.append_nil]
  | cons c cs ih =>
    obtain ⟨hc, hcs⟩ := not_or.mp (mt List.mem_cons.mpr h)
    rw [List.cons_append, read, if_neg (Ne.symm hc), ih hcs]
    simp

lemma read_gap_quote (h : '"' ∉ cs) :
    read .gap ('"' :: (cs ++ '"' :: rest)) = emit cs (read (.word []) rest) := by
  rw [read, if_neg (by decide), if_pos rfl, read_quote_append h, List.nil_append]

/-! ### Literals -/

/-- How deep braces are nested at a place, and whether a backslash hides the next character. -/
structure Nesting where
  depth  : Nat := 0
  hidden : Bool := false
deriving DecidableEq, Repr

namespace Nesting

def step (n : Nesting) (c : Char) : Nesting :=
  if n.hidden then { n with hidden := false }
  else if c = '\\' then { n with hidden := true }
  else if c = '{' then { n with depth := n.depth + 1 }
  else if c = '}' then { n with depth := n.depth - 1 }
  else n

def run (n : Nesting) (cs : List Char) : Nesting := cs.foldl step n

@[simp] lemma run_cons (n : Nesting) (c : Char) (cs : List Char) :
    n.run (c :: cs) = (n.step c).run cs := rfl

lemma run_append_singleton (n : Nesting) (cs : List Char) (c : Char) :
    n.run (cs ++ [c]) = (n.run cs).step c := by
  simp [run]

/-- Reading on from a place, the depth is zero at the end of a text and nowhere before. -/
def Closes (n : Nesting) (cs : List Char) : Prop :=
  ∀ before, before <+: cs → before ≠ [] → ((n.run before).depth = 0 ↔ before = cs)

instance (n : Nesting) (cs : List Char) : Decidable (n.Closes cs) :=
  decidable_of_iff (∀ before ∈ cs.inits, before ≠ [] → ((n.run before).depth = 0 ↔ before = cs)) <|
    by simp only [List.mem_inits, Closes]

lemma Closes.of_cons {n : Nesting} (h : n.Closes (c :: cs)) : (n.step c).Closes cs := by
  intro before hprefix hne
  have := h (c :: before) (List.cons_prefix_cons.mpr ⟨rfl, hprefix⟩) (by simp)
  simpa using this

lemma Closes.cons {n : Nesting} (hopen : (n.step c).depth ≠ 0) (hcs : cs ≠ [])
    (h : (n.step c).Closes cs) : n.Closes (c :: cs) := by
  intro before hprefix hne
  obtain rfl | ⟨before, rfl, hbehind⟩ := List.prefix_cons_iff.mp hprefix
  · exact absurd rfl hne
  rw [run_cons, List.cons.injEq, eq_self, true_and]
  by_cases hbefore : before = []
  · rw [hbefore]
    exact iff_of_false hopen hcs.symm
  · exact h before hbehind hbefore

lemma Closes.depth_step {n : Nesting} (h : n.Closes (c :: cs)) :
    (n.step c).depth = 0 ↔ cs = [] := by
  have := h [c] (List.cons_prefix_cons.mpr ⟨rfl, List.nil_prefix⟩) (by simp)
  simpa [run, eq_comm] using this

end Nesting

/-- In a literal a character changes the nesting, and at depth zero the literal is over. -/
lemma step_literal {n : Nesting} (hopen : n.depth ≠ 0) (t : List Char) (c : Char) :
    (Mode.literal n.depth n.hidden t).step c =
      if (n.step c).depth = 0 then { token := t ++ [c], mode := .word [] }
      else { mode := .literal (n.step c).depth (n.step c).hidden (t ++ [c]) } := by
  obtain ⟨depth, hidden⟩ := n
  rw [Mode.step, Nesting.step]
  cases hidden with
  | true => simp_all
  | false =>
    by_cases hback : c = '\\'
    · simp_all
    by_cases hbrace : c = '{'
    · simp_all
    by_cases hclose : c = '}'
    · by_cases hlast : depth = 1
      · simp_all
      · have : depth - 1 ≠ 0 := by simp only at hopen; omega
        simp_all
    · simp_all

lemma read_literal_cons {n : Nesting} (hopen : n.depth ≠ 0) (t : List Char) :
    read (.literal n.depth n.hidden t) (c :: rest) =
      if (n.step c).depth = 0 then emit (t ++ [c]) (read (.word []) rest)
      else read (.literal (n.step c).depth (n.step c).hidden (t ++ [c])) rest := by
  rw [read_cons, step_literal hopen]
  split <;> rfl

/-- A literal lasts to the brace that closes it, whatever is in it. -/
lemma read_literal_append {n : Nesting} (hopen : n.depth ≠ 0) (h : n.Closes cs) (hcs : cs ≠ [])
    (t : List Char) :
    read (.literal n.depth n.hidden t) (cs ++ rest) = emit (t ++ cs) (read (.word []) rest) := by
  induction cs generalizing n t with
  | nil => contradiction
  | cons c cs ih =>
    rw [List.cons_append, read_literal_cons hopen]
    by_cases hlast : cs = []
    · rw [if_pos (h.depth_step.mpr hlast), hlast, List.nil_append]
    · have hdepth : (n.step c).depth ≠ 0 := mt h.depth_step.mp hlast
      rw [if_neg hdepth, ih hdepth h.of_cons hlast, List.append_assoc, List.singleton_append]

lemma read_gap_literal (h : Nesting.Closes {} ('{' :: cs)) :
    read .gap ('{' :: cs ++ rest) = ('{' :: cs) :: read (.word []) rest := by
  have hopen : (Nesting.step {} '{').depth ≠ 0 := by decide
  have hcs : cs ≠ [] := mt h.depth_step.mpr hopen
  calc read .gap ('{' :: cs ++ rest)
      = read (.literal (Nesting.step {} '{').depth (Nesting.step {} '{').hidden ['{'])
          (cs ++ rest) := by rw [List.cons_append, read, if_pos rfl]; rfl
    _ = emit ('{' :: cs) (read (.word []) rest) := read_literal_append hopen h.of_cons hcs _
    _ = ('{' :: cs) :: read (.word []) rest := emit_of_ne_nil (List.cons_ne_nil _ _) _

end DebugConsole.Grammar
