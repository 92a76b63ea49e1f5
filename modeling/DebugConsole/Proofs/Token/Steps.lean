import DebugConsole.Proofs.Token.Simulation

/-!
# The grammar along a text

Character by character, a text completes tokens and leads to a mode. What it completes and the mode
at its end say what the grammar reads off every line that starts with it, and the flags of the
one-pass reader are at every place those of the mode.
-/

namespace DebugConsole

open Text

namespace Grammar

lemma emit_append (text : List Char) (as bs : List (List Char)) :
    emit text (as ++ bs) = emit text as ++ bs := by
  rw [emit_eq_append, emit_eq_append text as, List.append_assoc]

namespace Mode

/-- The mode after a text. -/
def after (m : Mode) (cs : List Char) : Mode := cs.foldl (fun m c => (m.step c).mode) m

/-- The tokens that a text completes. -/
def done : Mode → List Char → List (List Char)
  | _, []      => []
  | m, c :: cs => emit (m.step c).token (done (m.step c).mode cs)

variable {m : Mode} {c : Char} {as bs cs : List Char}

@[simp] lemma after_nil (m : Mode) : m.after [] = m := rfl

@[simp] lemma after_cons (m : Mode) (c : Char) (cs : List Char) :
    m.after (c :: cs) = (m.step c).mode.after cs := rfl

@[simp] lemma after_append (m : Mode) (as bs : List Char) :
    m.after (as ++ bs) = (m.after as).after bs := by
  simp [after]

lemma done_cons (m : Mode) (c : Char) (cs : List Char) :
    m.done (c :: cs) = emit (m.step c).token ((m.step c).mode.done cs) := rfl

lemma done_append (m : Mode) (as bs : List Char) :
    m.done (as ++ bs) = m.done as ++ (m.after as).done bs := by
  induction as generalizing m with
  | nil => rfl
  | cons a as ih =>
    rw [List.cons_append, done_cons, ih, after_cons, done_cons, emit_append]

end Mode

variable {m : Mode} {c : Char} {as bs cs : List Char}

/-- A line is read as what its first part completes, and then on from the mode at the end of it. -/
lemma read_append (m : Mode) (as bs : List Char) :
    read m (as ++ bs) = m.done as ++ read (m.after as) bs := by
  induction as generalizing m with
  | nil => rfl
  | cons a as ih =>
    rw [List.cons_append, read_cons, ih, Mode.done_cons, Mode.after_cons, emit_append]

/-- At the end of a line the text of the mode is the last token. -/
lemma read_eq_done_append (m : Mode) (cs : List Char) :
    read m cs = m.done cs ++ emit (m.after cs).text [] := by
  rw [← List.append_nil cs, read_append, read_nil, List.append_nil]

end Grammar

open Grammar

namespace Scan

variable {m : Mode} {s : Scan}

lemma Flags.run (h : Flags m s) (cs : List Char) : Flags (m.after cs) (s.run cs) := by
  induction cs generalizing m s with
  | nil => exact h
  | cons c cs ih => exact ih (h.step c)

end Scan

/-! ### Closed lines -/

/-- At the end of the line neither a quote nor a literal is open. -/
def Closed (line : String) : Prop :=
  (Scan.run {} line.toList).quoted = false ∧ (Scan.run {} line.toList).depth = 0

instance (line : String) : Decidable (Closed line) :=
  inferInstanceAs (Decidable (_ ∧ _))

/-- The mode at the end of a line has the flags that the reader has there. -/
lemma flags_after (cs : List Char) : Scan.Flags (Mode.gap.after cs) (Scan.run {} cs) :=
  Scan.agrees_gap.toFlags.run cs

namespace Grammar.Mode

/-- What is being read is a word or a gap. -/
def IsPlain : Mode → Prop
  | .gap           => True
  | .word _        => True
  | .quote _       => False
  | .literal _ _ _ => False

end Grammar.Mode

lemma closed_iff (line : String) : Closed line ↔ (Mode.gap.after line.toList).IsPlain := by
  obtain ⟨hquoted, hdepth, -, -, hopened⟩ := flags_after line.toList
  rw [Closed, hquoted, hdepth]
  cases hm : Mode.gap.after line.toList with
  | gap                => simp [Mode.isQuote, Mode.depth, Mode.IsPlain]
  | word w             => simp [Mode.isQuote, Mode.depth, Mode.IsPlain]
  | quote q            => simp [Mode.isQuote, Mode.IsPlain]
  | literal d hidden t => simp [Mode.depth, Mode.IsPlain, hopened d hidden t hm]

end DebugConsole
