import DebugConsole.Proofs.Token.Reading
import DebugConsole.Proofs.Token.Simulation

/-!
# Tokens that are kept as written

Words and quotes never hold a double quote, so a token with one in it is a literal. A literal is
kept with its braces and is read from a gap, and read from the gap at the start of a line of its
own it is the same literal again.
-/

namespace DebugConsole.Grammar

variable {m : Mode} {c : Char} {cs t : List Char}

/-- A literal that is the only token of itself. -/
structure Verbatim (t : List Char) : Prop where
  opens : t.head? = some '{'
  alone : tokens t = [t]

/-- What a mode has read so far holds no double quote, or it is the start of a literal, and a line
that starts with it leads to the same mode. -/
def Mode.Unquoted : Mode → Prop
  | .gap                => True
  | .word w             => '"' ∉ w
  | .quote q            => '"' ∉ q
  | .literal d hidden t =>
      d ≠ 0 ∧ t.head? = some '{' ∧ ∀ rest, read .gap (t ++ rest) = read (.literal d hidden t) rest

/-- Reading a character leads to such a mode again, and a token that it ends is verbatim if it
holds a double quote. -/
def Goes (m : Mode) (c : Char) : Prop :=
  ∃ m' out, m'.Unquoted ∧ ('"' ∈ out → Verbatim out) ∧
    ∀ cs, read m (c :: cs) = emit out (read m' cs)

lemma goes_on (m' : Mode) (hm' : m'.Unquoted) (hread : ∀ cs, read m (c :: cs) = read m' cs) :
    Goes m c :=
  ⟨m', [], hm', by simp, hread⟩

lemma goes_gap (c : Char) : Goes .gap c := by
  by_cases hbrace : c = '{'
  · refine goes_on (.literal 1 false ['{']) ⟨by decide, rfl, fun rest => ?_⟩ fun cs => ?_
    · rw [List.singleton_append, read, if_pos rfl]
    · rw [hbrace, read, if_pos rfl]
  by_cases hquote : c = '"'
  · refine goes_on (.quote []) List.not_mem_nil fun cs => ?_
    rw [read, if_neg hbrace, if_pos hquote]
  by_cases hblank : Text.isBlank c = true
  · refine goes_on .gap trivial fun cs => ?_
    rw [read, if_neg hbrace, if_neg hquote, if_pos hblank]
  · refine goes_on (.word [c]) (by simpa [Mode.Unquoted] using Ne.symm hquote) fun cs => ?_
    rw [read, if_neg hbrace, if_neg hquote, if_neg hblank]

lemma goes_word {w : List Char} (hw : '"' ∉ w) (c : Char) : Goes (.word w) c := by
  have hout : '"' ∈ w → Verbatim w := fun h => absurd h hw
  by_cases hquote : c = '"'
  · refine ⟨.quote [], w, List.not_mem_nil, hout, fun cs => ?_⟩
    rw [read, if_pos hquote]
  by_cases hblank : Text.isBlank c = true
  · refine ⟨.gap, w, trivial, hout, fun cs => ?_⟩
    rw [read, if_neg hquote, if_pos hblank]
  · refine goes_on (.word (w ++ [c])) (by simp [Mode.Unquoted, hw, Ne.symm hquote]) fun cs => ?_
    rw [read, if_neg hquote, if_neg hblank]

lemma goes_quote {q : List Char} (hq : '"' ∉ q) (c : Char) : Goes (.quote q) c := by
  by_cases hquote : c = '"'
  · refine ⟨.word [], q, List.not_mem_nil, fun h => absurd h hq, fun cs => ?_⟩
    rw [read, if_pos hquote]
  · refine goes_on (.quote (q ++ [c])) (by simp [Mode.Unquoted, hq, Ne.symm hquote]) fun cs => ?_
    rw [read, if_neg hquote]

/-- A literal that is closed is read from the start of a line as it was read here. -/
lemma goes_literal {d : Nat} {hidden : Bool} (h : (Mode.literal d hidden t).Unquoted) (c : Char) :
    Goes (.literal d hidden t) c := by
  obtain ⟨hd, hopens, hsame⟩ := h
  set n : Nesting := ⟨d, hidden⟩
  have hstep (rest : List Char) :
      read (.literal n.depth n.hidden t) (c :: rest) =
        if (n.step c).depth = 0 then emit (t ++ [c]) (read (.word []) rest)
        else read (.literal (n.step c).depth (n.step c).hidden (t ++ [c])) rest :=
    read_literal_cons hd t
  have hopens' : (t ++ [c]).head? = some '{' := by simp [hopens]
  by_cases hlast : (n.step c).depth = 0
  · refine ⟨.word [], t ++ [c], List.not_mem_nil, fun _ => ⟨hopens', ?_⟩, fun cs => ?_⟩
    · rw [tokens, hsame, hstep, if_pos hlast, emit_of_ne_nil (by simp)]
      rfl
    · rw [hstep, if_pos hlast]
  · refine goes_on (.literal (n.step c).depth (n.step c).hidden (t ++ [c]))
      ⟨hlast, hopens', fun rest => ?_⟩ fun cs => ?_
    · rw [List.append_assoc, List.singleton_append, hsame, hstep, if_neg hlast]
    · rw [hstep, if_neg hlast]

lemma Mode.Unquoted.goes (h : m.Unquoted) (c : Char) : Goes m c := by
  cases m with
  | gap                => exact goes_gap c
  | word w             => exact goes_word h c
  | quote q            => exact goes_quote h c
  | literal d hidden t => exact goes_literal h c

/-- At the end of a line the text of a mode is a token. -/
lemma Mode.Unquoted.verbatim_text (h : m.Unquoted) (hquote : '"' ∈ m.text) : Verbatim m.text := by
  cases m with
  | gap     => cases hquote
  | word w  => exact absurd hquote h
  | quote q => exact absurd hquote h
  | literal d hidden t =>
    obtain ⟨hd, hopens, hsame⟩ := h
    refine ⟨hopens, ?_⟩
    have := hsame []
    rw [List.append_nil] at this
    rw [Mode.text, tokens, this, read, emit_of_ne_nil (by rintro rfl; cases hopens)]

lemma eq_or_mem_of_mem_emit {text : List Char} {rest : List (List Char)}
    (h : t ∈ emit text rest) : t = text ∨ t ∈ rest := by
  unfold emit at h
  split at h
  · exact .inr h
  · exact List.mem_cons.mp h

lemma verbatim_of_mem_read (hm : m.Unquoted) (ht : t ∈ read m cs) (hquote : '"' ∈ t) :
    Verbatim t := by
  induction cs generalizing m with
  | nil =>
    rw [read_nil] at ht
    obtain rfl : t = m.text := (eq_or_mem_of_mem_emit ht).resolve_right List.not_mem_nil
    exact hm.verbatim_text hquote
  | cons c cs ih =>
    obtain ⟨m', out, hm', hout, hread⟩ := hm.goes c
    rw [hread] at ht
    rcases eq_or_mem_of_mem_emit ht with rfl | ht
    · exact hout hquote
    · exact ih hm' ht

/-- A token with a double quote in it is a literal, and the only token of a line that it makes up
by itself. -/
theorem verbatim_of_mem_tokens (ht : t ∈ tokens cs) (hquote : '"' ∈ t) : Verbatim t :=
  verbatim_of_mem_read (m := .gap) trivial ht hquote

end DebugConsole.Grammar
