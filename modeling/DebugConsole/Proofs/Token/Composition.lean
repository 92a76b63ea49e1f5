import DebugConsole.Proofs.Token.Steps
import DebugConsole.Proofs.Token.Written

/-!
# Lines put together

Behind a line that leaves no quote and no literal open, blanks and another line may follow, and both
lines are read as if each stood alone. Whatever follows a line, the tokens stay that the line has
completed.
-/

namespace DebugConsole

open Grammar Text

namespace Grammar

variable {m : Mode} {rest : List Char}

/-- A blank ends what is read outside quotes and literals, and what follows is read from a gap. -/
lemma read_of_ends (hplain : m.IsPlain) (h : Ends rest) :
    read m rest = emit m.text (read .gap rest) := by
  cases m with
  | gap             => rfl
  | word w          => exact read_word_of_ends h w
  | quote q         => exact hplain.elim
  | literal d e t   => exact hplain.elim

/-- All tokens but the last one of a line are completed in it. -/
lemma isPrefix_done_of_read (m : Mode) (cs : List Char) : (read m cs).dropLast <+: m.done cs := by
  rw [read_eq_done_append]
  unfold emit
  split
  · rw [List.append_nil]
    exact List.dropLast_prefix _
  · rw [List.dropLast_concat]

end Grammar

lemma tokens_append_gap {line : List Char} (hplain : (Mode.gap.after line).IsPlain) (gap : Gap)
    (later : List Char) :
    tokens (line ++ gap.text.toList ++ later) = tokens line ++ tokens later := by
  calc tokens (line ++ gap.text.toList ++ later)
      = Mode.gap.done line ++ read (Mode.gap.after line) (gap.text.toList ++ later) := by
        rw [tokens, List.append_assoc, read_append]
    _ = Mode.gap.done line ++ emit (Mode.gap.after line).text (tokens later) := by
        rw [read_of_ends hplain (Item.ends_gap gap later), Item.read_margin, tokens]
    _ = tokens line ++ tokens later := by
        rw [emit_eq_append, ← List.append_assoc, ← read_eq_done_append, ← tokens]

/-- A blank behind a closed line parts it from what follows, and nothing that follows a line changes
a token completed in it. -/
theorem tokenize_composes (line later : String) :
    (Closed line → ∀ gap : Gap,
        tokenize (line ++ gap.text ++ later) = tokenize line ++ tokenize later) ∧
      (tokenize line).dropLast <+: tokenize (line ++ later) := by
  constructor
  · intro hclosed gap
    have hplain := (closed_iff line).mp hclosed
    rw [tokenize_eq, String.toList_append, String.toList_append, tokens_append_gap hplain,
      List.map_append, ← tokenize_eq, ← tokenize_eq]
  · have hdone : Mode.gap.done line.toList <+: tokens (line ++ later).toList := by
      rw [tokens, String.toList_append, read_append]
      exact List.prefix_append _ _
    rw [tokenize_eq, tokenize_eq, ← List.map_dropLast]
    exact ((isPrefix_done_of_read .gap line.toList).trans hdone).map _

/-- A brace in a word and a quote that is closed leave nothing open. -/
theorem tokenize_composes_closed :
    Closed "/say x\x7b\"a \x7b\"" ∧
      tokenize ("/say x\x7b\"a \x7b\"" ++ "\t " ++ "\x7bb c\x7d d")
        = tokenize "/say x\x7b\"a \x7b\"" ++ tokenize "\x7bb c\x7d d" ∧
      (tokenize "/say x\x7b\"a \x7b\"").dropLast
        <+: tokenize ("/say x\x7b\"a \x7b\"" ++ "\x7bb c\x7d d") :=
  ⟨by decide, (tokenize_composes _ _).1 (by decide) ⟨⟨"\t ", by decide⟩, by decide⟩,
    (tokenize_composes _ _).2⟩

end DebugConsole
