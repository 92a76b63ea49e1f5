import DebugConsole.Proofs.Token.Reading
import DebugConsole.Token

/-!
# The pass over a command line reads its grammar

The one-pass reader keeps places and flags; the grammar keeps a mode with the text read in it. A
state of the reader agrees with a mode when its flags are those of the mode and the text of the
mode stands between the start of the current token and the place of the next character. Every step
of the reader is a step of the grammar, and what it notes as a token is what the grammar emits.
-/

namespace DebugConsole

open Grammar Text

namespace Grammar

lemma emit_eq_append (text : List Char) (rest : List (List Char)) :
    emit text rest = emit text [] ++ rest := by
  unfold emit
  split <;> simp

namespace Mode

/-- The text read so far in a mode. -/
def text : Mode → List Char
  | .gap           => []
  | .word w        => w
  | .quote q       => q
  | .literal _ _ t => t

def depth : Mode → Nat
  | .literal d _ _ => d
  | _              => 0

def hides : Mode → Bool
  | .literal _ h _ => h
  | _              => false

def isQuote : Mode → Bool
  | .quote _ => true
  | _        => false

end Mode

/-- At the end of a line the text of a mode is a token. -/
lemma read_nil (m : Mode) : read m [] = emit m.text [] := by
  cases m <;> rfl

end Grammar

namespace Scan

/-- The flags of a state that reads in a mode. -/
structure Flags (m : Mode) (s : Scan) : Prop where
  quoted : s.quoted = m.isQuote
  depth  : s.depth = m.depth
  hidden : s.hidden = m.hides
  /-- The flag for blanks is stale neither in a quote nor in a literal nor right after one. -/
  gap    : (s.place = 0 ∨ s.afterBlank = true) ↔ m = .gap
  /-- A literal is left when its last brace closes. -/
  opened : ∀ d h t, m = .literal d h t → d ≠ 0

/-- A state of the reader and a mode of the grammar after the same characters: the flags are those
of the mode, and the text of the mode follows the characters `before`. -/
structure Agrees (before : List Char) (m : Mode) (s : Scan) : Prop extends Flags m s where
  start : s.start = byteLength before
  place : s.place = byteLength before + byteLength m.text

/-- The tokens noted so far, cut out of the line. -/
def pieces (line : List Char) (s : Scan) : List (Option (List Char)) :=
  s.spans.reverse.map (slice? line)

variable {line before after : List Char} {m : Mode} {s : Scan} {c : Char}

/-- Ending a token adds its text, unless it is empty. -/
lemma pieces_cut {piece : List Char} {stop : Nat} (next : Nat)
    (hline : line = before ++ piece ++ after) (hstart : s.start = byteLength before)
    (hstop : stop = byteLength before + byteLength piece) :
    (s.cut stop next).pieces line = s.pieces line ++ (emit piece []).map some := by
  have hslice : slice? line ⟨s.start, stop⟩ = some piece := by
    rw [hline, hstart, hstop]
    exact slice?_append before piece after
  by_cases hp : piece = []
  · simp [pieces, cut, hstart, hstop, hp]
  · have hne : s.start ≠ stop := by
      have := mt byteLength_eq_zero.mp hp
      omega
    simp [pieces, cut, hne, emit, hp, hslice]

/-! ### One step -/

/-- In a literal the reader counts braces as the nesting does, and at depth zero the token ends. -/
lemma step_of_depth (hdepth : s.depth ≠ 0) {n : Nesting}
    (hn : Nesting.step ⟨s.depth, s.hidden⟩ c = n) :
    s.step c = { if n.depth = 0 then s.cut (s.after c) (s.after c) else s with
      depth := n.depth, hidden := n.hidden, place := s.after c } := by
  subst hn
  rw [step, if_neg hdepth, inLiteral, Nesting.step]
  by_cases hhidden : s.hidden = true
  · simp [hhidden, hdepth]
  by_cases hback : c = '\\'
  · simp [hhidden, hback, hdepth]
  by_cases hbrace : c = '{'
  · simp [hhidden, hbrace]
  by_cases hclose : c = '}'
  · by_cases hlast : s.depth = 1
    · simp [hhidden, hclose, hlast, cut]
    · have : s.depth - 1 ≠ 0 := by omega
      simp [hhidden, hclose, hlast, this]
  · simp [hhidden, hback, hbrace, hclose, hdepth]

/-- Every step of the reader leaves its flags those of the mode. -/
lemma Flags.step (h : Flags m s) (c : Char) : Flags (m.step c).mode (s.step c) := by
  have hsize : c.utf8Size ≠ 0 := c.utf8Size_pos.ne'
  obtain ⟨hquoted, hdepth, hhidden, hgap, hopened⟩ := h
  cases m with
  | gap =>
    have hstart : s.place = 0 ∨ s.afterBlank = true := hgap.mpr rfl
    simp only [Mode.isQuote, Mode.depth, Mode.hides] at hquoted hdepth hhidden
    simp only [Scan.step, inText, Mode.step, hquoted, hdepth, hstart, Bool.false_eq_true,
      not_false_eq_true, and_true, if_true]
    split_ifs <;> constructor <;>
      simp [cut, after, Mode.isQuote, Mode.depth, Mode.hides, hquoted, hdepth, hhidden, hsize]
  | word w =>
    have hstart : ¬ (s.place = 0 ∨ s.afterBlank = true) := fun h => Mode.noConfusion (hgap.mp h)
    simp only [Mode.isQuote, Mode.depth, Mode.hides] at hquoted hdepth hhidden
    simp only [Scan.step, inText, Mode.step, hquoted, hdepth, hstart, Bool.false_eq_true,
      not_false_eq_true, and_true, and_false, if_false, if_true]
    split_ifs <;> constructor <;>
      simp [cut, after, Mode.isQuote, Mode.depth, Mode.hides, hquoted, hdepth, hhidden, hsize]
  | quote q =>
    simp only [Mode.isQuote, Mode.depth, Mode.hides] at hquoted hdepth hhidden
    simp only [Scan.step, inText, Mode.step, hquoted, hdepth, not_true_eq_false, false_and,
      and_false, if_false, if_true]
    split_ifs <;> constructor <;>
      simp [cut, after, Mode.isQuote, Mode.depth, Mode.hides, hquoted, hdepth, hhidden, hsize]
  | literal d hidden t =>
    have hd : d ≠ 0 := hopened d hidden t rfl
    have hlower : d ≠ 1 → d - 1 ≠ 0 := by omega
    obtain ⟨hplace, hblank⟩ : s.place ≠ 0 ∧ s.afterBlank ≠ true :=
      not_or.mp fun h => Mode.noConfusion (hgap.mp h)
    simp only [Mode.isQuote, Mode.depth, Mode.hides] at hquoted hdepth hhidden
    simp only [Scan.step, inLiteral, Mode.step, hhidden, hdepth, hd, if_false]
    split_ifs <;> constructor <;> simp [cut, after, Mode.isQuote, Mode.depth, Mode.hides, *]

/-- Reading `c` in a mode leads to a state that agrees with the next mode of the grammar, and notes
the token that the grammar emits. -/
def Advances (line : List Char) (m : Mode) (s : Scan) (c : Char) (after : List Char) : Prop :=
  ∃ before m' out, Agrees before m' (s.step c) ∧ line = before ++ m'.text ++ after ∧
    (s.step c).pieces line = s.pieces line ++ (emit out []).map some ∧
    Grammar.read m (c :: after) = emit out (Grammar.read m' after)

/-- The character belongs to the current token. -/
lemma Agrees.extend (h : Agrees before m s) (hline : line = before ++ m.text ++ c :: after)
    {m' : Mode} (hstep : m.step c = { mode := m' }) (htext : m'.text = m.text ++ [c])
    (hstart : (s.step c).start = s.start) (hspans : (s.step c).spans = s.spans) :
    Advances line m s c after := by
  have hflags := h.toFlags.step c
  rw [hstep] at hflags
  refine ⟨before, m', [], ⟨hflags, ?_, ?_⟩, ?_, ?_, by rw [read_cons, hstep]⟩
  · rw [hstart, h.start]
  · have hplace : (s.step c).place = s.place + c.utf8Size := rfl
    rw [hplace, h.place, htext, byteLength_append, byteLength_cons, byteLength_nil]
    omega
  · rw [hline, htext]
    simp
  · simp [pieces, hspans]

/-- The character ends the current token; `out` is the text of that token. -/
lemma Agrees.cut (h : Agrees before m s) (hline : line = before ++ m.text ++ c :: after)
    {m' : Mode} {out : List Char} (rest : List Char) (stop : Nat)
    (hstep : m.step c = { token := out, mode := m' }) (htext : m'.text = [])
    (hout : out ++ rest = m.text ++ [c]) (hstop : stop = byteLength before + byteLength out)
    (hstart : (s.step c).start = s.after c) (hspans : (s.step c).spans = (s.cut stop 0).spans) :
    Advances line m s c after := by
  have hflags := h.toFlags.step c
  rw [hstep] at hflags
  have hplace : s.after c = byteLength (before ++ m.text ++ [c]) := by
    simp only [Scan.after, h.place, byteLength_append, byteLength_cons, byteLength_nil]
    omega
  have hsplit : line = before ++ out ++ (rest ++ after) := by
    rw [hline, List.append_assoc before out, ← List.append_assoc out, hout]
    simp
  refine ⟨before ++ m.text ++ [c], m', out, ⟨hflags, ?_, ?_⟩, ?_, ?_, by rw [read_cons, hstep]⟩
  · rw [hstart, hplace]
  · rw [htext, byteLength_nil, Nat.add_zero]
    exact hplace
  · rw [hline, htext]
    simp
  · rw [pieces, hspans]
    exact pieces_cut 0 hsplit h.start hstop

/-- Outside quotes and literals, a gap and a word read every character alike that opens no
literal. -/
lemma Agrees.inText (h : Agrees before m s) (hline : line = before ++ m.text ++ c :: after)
    (hquoted : s.quoted = false) (hdepth : s.depth = 0)
    (hopen : ¬ (c = '{' ∧ (s.place = 0 ∨ s.afterBlank = true)))
    (hstep : m.step c = if c = '"' then { token := m.text, mode := .quote [] }
      else if isBlank c then { token := m.text, mode := .gap }
      else { mode := .word (m.text ++ [c]) }) :
    Advances line m s c after := by
  by_cases hquote : c = '"'
  · have hs : s.step c = { s.cut s.place (s.after c) with
        quoted := true, afterBlank := false, place := s.after c } := by
      simp [step, Scan.inText, hdepth, hquoted, hquote]
    rw [if_pos hquote] at hstep
    exact h.cut hline [c] s.place hstep rfl rfl h.place (by rw [hs]; rfl) (by rw [hs]; rfl)
  by_cases hblank : isBlank c
  · have hs : s.step c = { s.cut s.place (s.after c) with
        afterBlank := true, place := s.after c } := by
      simp [step, Scan.inText, hdepth, hquoted, hquote, hblank, hopen]
    rw [if_neg hquote, if_pos hblank] at hstep
    exact h.cut hline [c] s.place hstep rfl rfl h.place (by rw [hs]; rfl) (by rw [hs]; rfl)
  · have hs : s.step c = { s with afterBlank := false, place := s.after c } := by
      simp [step, Scan.inText, hdepth, hquoted, hquote, hblank, hopen]
    rw [if_neg hquote, if_neg hblank] at hstep
    exact h.extend hline hstep rfl (by rw [hs]) (by rw [hs])

lemma advances_gap (h : Agrees before .gap s)
    (hline : line = before ++ Mode.gap.text ++ c :: after) : Advances line .gap s c after := by
  by_cases hbrace : c = '{'
  · have hgap : s.place = 0 ∨ s.afterBlank = true := h.gap.mpr rfl
    have hquoted : s.quoted = false := h.quoted
    have hdepth : s.depth = 0 := h.depth
    have hplace : s.place = s.start := by rw [h.place, h.start]; rfl
    have hs : s.step c = { s with
        depth := 1, start := s.place, afterBlank := false, place := s.after c } := by
      simp [step, Scan.inText, hdepth, hquoted, hgap, hbrace]
    exact h.extend hline (if_pos hbrace) rfl (by rw [hs, hplace]) (by rw [hs])
  · exact h.inText hline h.quoted h.depth (fun hopen => hbrace hopen.1) (if_neg hbrace)

/-- An opening brace is plain text in a word, for it does not follow a blank. -/
lemma advances_word {w : List Char} (h : Agrees before (.word w) s)
    (hline : line = before ++ w ++ c :: after) : Advances line (.word w) s c after :=
  h.inText hline h.quoted h.depth (fun hopen => Mode.noConfusion (h.gap.mp hopen.2)) rfl

lemma advances_quote {q : List Char} (h : Agrees before (.quote q) s)
    (hline : line = before ++ q ++ c :: after) : Advances line (.quote q) s c after := by
  have hquoted : s.quoted = true := h.quoted
  have hdepth : s.depth = 0 := h.depth
  by_cases hquote : c = '"'
  · have hs : s.step c = { s.cut s.place (s.after c) with
        quoted := false, afterBlank := false, place := s.after c } := by
      simp [step, inText, hdepth, hquoted, hquote]
    exact h.cut hline [c] s.place (if_pos hquote) rfl rfl h.place (by rw [hs]; rfl)
      (by rw [hs]; rfl)
  · have hs : s.step c = { s with afterBlank := false, place := s.after c } := by
      simp [step, inText, hdepth, hquoted, hquote]
    exact h.extend hline (if_neg hquote) rfl (by rw [hs]) (by rw [hs])

lemma advances_literal {d : Nat} {hidden : Bool} {t : List Char}
    (h : Agrees before (.literal d hidden t) s) (hline : line = before ++ t ++ c :: after) :
    Advances line (.literal d hidden t) s c after := by
  have hd : d ≠ 0 := h.opened d hidden t rfl
  obtain ⟨-, hdepth, hhidden, -, -⟩ := h.toFlags
  simp only [Mode.depth, Mode.hides] at hdepth hhidden
  obtain ⟨n, hn⟩ : ∃ n, Nesting.step ⟨d, hidden⟩ c = n := ⟨_, rfl⟩
  have hmode := step_literal (n := ⟨d, hidden⟩) hd t c
  have hs := step_of_depth (hdepth ▸ hd) (hdepth ▸ hhidden ▸ hn)
  rw [hn] at hmode
  by_cases hlast : n.depth = 0
  · rw [if_pos hlast] at hmode hs
    refine h.cut hline [] (s.after c) hmode rfl (List.append_nil _) ?_ (by rw [hs]; rfl)
      (by rw [hs]; rfl)
    rw [Scan.after, h.place, byteLength_append, Nat.add_assoc]
    rfl
  · rw [if_neg hlast] at hmode hs
    exact h.extend hline hmode rfl (by rw [hs]) (by rw [hs])

/-- Every step of the reader is a step of the grammar. -/
theorem Agrees.advances (h : Agrees before m s) (hline : line = before ++ m.text ++ c :: after) :
    Advances line m s c after := by
  cases m with
  | gap           => exact advances_gap h hline
  | word w        => exact advances_word h hline
  | quote q       => exact advances_quote h hline
  | literal d e t => exact advances_literal h hline

/-! ### A whole line -/

/-- What the reader has noted at the end of a line is what it noted before, and then what the
grammar reads off the rest of the line. -/
theorem Agrees.close {cs : List Char} (h : Agrees before m s)
    (hline : line = before ++ m.text ++ cs) :
    (s.run cs).close.map (slice? line) = s.pieces line ++ (Grammar.read m cs).map some := by
  induction cs generalizing before m s with
  | nil =>
    have hclose := pieces_cut s.place (hline.trans (by rw [List.append_assoc])) h.start h.place
    rw [run_nil, read_nil, ← hclose]
    rfl
  | cons c cs ih =>
    obtain ⟨before', m', out, hagrees, hline', hpieces, hread⟩ := h.advances hline
    rw [run_cons, ih hagrees hline', hpieces, hread, emit_eq_append out (Grammar.read m' cs),
      List.map_append, List.append_assoc]

/-- A reader that has read nothing stands in a gap. -/
lemma agrees_gap : Agrees [] .gap {} where
  quoted := rfl
  depth  := rfl
  hidden := rfl
  gap    := by simp
  opened := by simp
  start  := rfl
  place  := rfl

end Scan

/-- The places that the reader notes lie between characters, and the grammar emits what they cut
out of the line. -/
lemma map_slice?_tokenSpans (line : List Char) :
    (tokenSpans line).map (slice? line) = (Grammar.tokens line).map some :=
  Scan.agrees_gap.close (show line = [] ++ Mode.gap.text ++ line by simp [Mode.text])

lemma tokens?_eq (line : List Char) : tokens? line = some (Grammar.tokens line) := by
  calc tokens? line
      = ((tokenSpans line).map (slice? line)).mapM id := by rw [List.mapM_map]; rfl
    _ = ((Grammar.tokens line).map some).mapM id := by rw [map_slice?_tokenSpans]
    _ = some (Grammar.tokens line) := by
        rw [List.mapM_map]
        simpa using List.mapM_pure (m := Option) (f := id) (l := Grammar.tokens line)

lemma tokenize_eq (line : String) :
    tokenize line = (Grammar.tokens line.toList).map String.ofList := by
  rw [tokenize, tokens?_eq, Option.getD_some]

lemma mem_tokenize_iff {line t : String} : t ∈ tokenize line ↔ t.toList ∈ tokens line.toList := by
  rw [tokenize_eq, List.mem_map]
  constructor
  · rintro ⟨t, ht, rfl⟩
    rwa [String.toList_ofList]
  · exact fun ht => ⟨t.toList, ht, String.ofList_toList⟩

lemma toList_tokenize (line : String) : (tokenize line).map String.toList = tokens line.toList := by
  rw [tokenize_eq, List.map_map]
  exact (List.map_congr_left fun t _ => String.toList_ofList).trans (List.map_id _)

/-- Cutting the tokens out of a line never fails, and they are those of the grammar. -/
theorem tokenize_reads_grammar (line : String) :
    tokens? line.toList = some (Grammar.tokens line.toList) ∧
      tokenize line = (Grammar.tokens line.toList).map String.ofList :=
  ⟨tokens?_eq line.toList, tokenize_eq line⟩

/-- A brace right after a closing quote is plain text, and a hidden brace closes nothing. -/
example : tokenize "a\"b\"\x7bc \x7b d \\\x7d \x7d é"
    = ["a", "b", "\x7bc", "\x7b d \\\x7d \x7d", "é"] := by decide

end DebugConsole
