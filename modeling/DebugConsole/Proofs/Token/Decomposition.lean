import DebugConsole.Proofs.Token.Steps
import DebugConsole.Proofs.Token.Verbatim

/-!
# What becomes of the characters of a line

The tokens of a line and the gaps around them, laid end to end, are the line again, and in the gaps
there are only blanks and double quotes. Wherever the one-pass reader cuts the line, it cuts between
two characters.
-/

namespace DebugConsole

open Grammar Text

/-- A character that may stand between tokens. -/
def isSeparator (c : Char) : Bool := isBlank c || c == '"'

/-! ### Gaps and tokens -/

namespace Grammar

/-- A line is a gap and then tokens, each with the gap behind it. -/
structure Woven (first : List Char) (parts : List (List Char × List Char)) (line : List Char) :
    Prop where
  first_gap : ∀ c ∈ first, isSeparator c = true
  gaps      : ∀ p ∈ parts, ∀ c ∈ p.2, isSeparator c = true
  line_eq   : line = first ++ parts.flatMap fun p => p.1 ++ p.2

variable {m : Mode} {c : Char} {line gap first token : List Char}
  {parts : List (List Char × List Char)}

/-- What a mode holds and the next character are a token, perhaps none, then a gap, and then what
the next mode holds. -/
lemma exists_gap (m : Mode) (c : Char) :
    ∃ gap, (∀ d ∈ gap, isSeparator d = true) ∧
      m.text ++ [c] = (m.step c).token ++ gap ++ (m.step c).mode.text := by
  have hkept (a : Advance) (htext : m.text ++ [c] = a.token ++ a.mode.text) :
      ∃ gap, (∀ d ∈ gap, isSeparator d = true) ∧ m.text ++ [c] = a.token ++ gap ++ a.mode.text :=
    ⟨[], by simp, by simpa using htext⟩
  have hdropped (a : Advance) (hsep : c = '"' ∨ isBlank c = true) (htoken : a.token = m.text)
      (htext : a.mode.text = []) :
      ∃ gap, (∀ d ∈ gap, isSeparator d = true) ∧ m.text ++ [c] = a.token ++ gap ++ a.mode.text :=
    ⟨[c], by simpa [isSeparator, or_comm] using hsep, by rw [htoken, htext, List.append_nil]⟩
  cases m with
  | gap =>
    rw [Mode.step]
    split_ifs with hbrace hquote hblank
    · exact hkept _ rfl
    · exact hdropped _ (.inl hquote) rfl rfl
    · exact hdropped _ (.inr hblank) rfl rfl
    · exact hkept _ rfl
  | word w =>
    rw [Mode.step]
    split_ifs with hquote hblank
    · exact hdropped _ (.inl hquote) rfl rfl
    · exact hdropped _ (.inr hblank) rfl rfl
    · exact hkept _ rfl
  | quote q =>
    rw [Mode.step]
    split_ifs with hquote
    · exact hdropped _ (.inl hquote) rfl rfl
    · exact hkept _ rfl
  | literal d hidden t =>
    rw [Mode.step]
    split_ifs <;> exact hkept _ (by simp [Mode.text])

/-- An empty text is no token, so its gap joins the one that follows. -/
lemma Woven.emit (h : Woven first parts line) (token : List Char)
    (hgap : ∀ c ∈ gap, isSeparator c = true) :
    ∃ first' parts', Woven first' parts' (token ++ gap ++ line) ∧
      parts'.map Prod.fst = emit token (parts.map Prod.fst) := by
  have hjoined : ∀ c ∈ gap ++ first, isSeparator c = true := by
    simpa [or_imp, forall_and] using ⟨hgap, h.first_gap⟩
  by_cases htoken : token = []
  · refine ⟨gap ++ first, parts, ⟨hjoined, h.gaps, ?_⟩, ?_⟩
    · rw [htoken, h.line_eq]
      simp
    · rw [htoken, emit_nil]
  · refine ⟨[], (token, gap ++ first) :: parts, ⟨by simp, ?_, ?_⟩, ?_⟩
    · exact List.forall_mem_cons.mpr ⟨hjoined, h.gaps⟩
    · rw [h.line_eq]
      simp
    · rw [emit_of_ne_nil htoken, List.map_cons]

/-- What a mode holds and the rest of the line are gaps and the tokens that are read. -/
lemma exists_woven (m : Mode) (cs : List Char) :
    ∃ first parts, Woven first parts (m.text ++ cs) ∧ parts.map Prod.fst = read m cs := by
  have hnil : Woven [] [] [] := ⟨by simp, by simp, rfl⟩
  have hnone : ∀ c ∈ ([] : List Char), isSeparator c = true := by simp
  induction cs generalizing m with
  | nil =>
    obtain ⟨first, parts, hwoven, hparts⟩ := hnil.emit m.text hnone
    exact ⟨first, parts, by simpa using hwoven, hparts.trans (read_nil m).symm⟩
  | cons c cs ih =>
    obtain ⟨first, parts, hwoven, hparts⟩ := ih (m.step c).mode
    obtain ⟨gap, hgap, htext⟩ := exists_gap m c
    obtain ⟨first', parts', hwoven', hparts'⟩ := hwoven.emit (m.step c).token hgap
    refine ⟨first', parts', ?_, ?_⟩
    · have hline : m.text ++ c :: cs =
          (m.step c).token ++ gap ++ ((m.step c).mode.text ++ cs) := by
        rw [← List.append_assoc, ← htext]
        simp
      rwa [hline]
    · rw [hparts', hparts, read_cons]

/-- What is not a separator is in a token. -/
lemma Woven.filter_eq (h : Woven first parts line) :
    line.filter (!isSeparator ·) = (parts.map Prod.fst).flatten.filter (!isSeparator ·) := by
  have hgap (gap : List Char) (hgap : ∀ c ∈ gap, isSeparator c = true) :
      gap.filter (!isSeparator ·) = [] := by
    simpa using hgap
  rw [h.line_eq, List.filter_append, hgap first h.first_gap, List.nil_append]
  have hgaps := h.gaps
  clear h
  induction parts with
  | nil => rfl
  | cons p parts ih =>
    obtain ⟨hp, hparts⟩ := List.forall_mem_cons.mp hgaps
    rw [List.flatMap_cons, List.map_cons, List.flatten_cons, List.filter_append,
      List.filter_append, List.filter_append, hgap p.2 hp, List.append_nil, ih hparts]

lemma nil_not_mem_emit {tokens : List (List Char)} (h : [] ∉ tokens) : [] ∉ emit token tokens := by
  unfold emit
  split
  · exact h
  · exact List.not_mem_cons_of_ne_of_not_mem (Ne.symm ‹_›) h

lemma nil_not_mem_read (m : Mode) (cs : List Char) : [] ∉ read m cs := by
  induction cs generalizing m with
  | nil =>
    rw [read_nil]
    exact nil_not_mem_emit List.not_mem_nil
  | cons c cs ih =>
    rw [read_cons]
    exact nil_not_mem_emit (ih _)

end Grammar

/-! ### Cuts -/

/-- The ends of a span lie between characters of a text, the first one not behind the second. -/
def Span.Fits (cs : List Char) (s : Span) : Prop :=
  ∃ before piece after, cs = before ++ piece ++ after ∧
    s.start = byteLength before ∧ s.stop = byteLength before + byteLength piece

namespace Text

lemma eq_append_of_dropBytes? {n : Nat} {cs rest : List Char} (h : dropBytes? n cs = some rest) :
    ∃ before, cs = before ++ rest ∧ n = byteLength before := by
  fun_induction dropBytes? n cs with
  | case1 cs => exact ⟨[], Option.some.inj h, rfl⟩
  | case2 => cases h
  | case3 n c cs hle ih =>
    obtain ⟨before, rfl, hlength⟩ := ih h
    exact ⟨c :: before, rfl, by rw [byteLength_cons]; omega⟩
  | case4 => cases h

lemma eq_append_of_takeBytes? {n : Nat} {cs piece : List Char} (h : takeBytes? n cs = some piece) :
    ∃ after, cs = piece ++ after ∧ n = byteLength piece := by
  fun_induction takeBytes? n cs generalizing piece with
  | case1 cs =>
    obtain rfl := Option.some.inj h
    exact ⟨cs, rfl, rfl⟩
  | case2 => cases h
  | case3 n c cs hle ih =>
    obtain ⟨piece', hpiece', rfl⟩ := Option.map_eq_some_iff.mp h
    obtain ⟨after, rfl, hlength⟩ := ih hpiece'
    exact ⟨after, rfl, by rw [byteLength_cons]; omega⟩
  | case4 => cases h

/-- Only a span that fits cuts something out. -/
lemma fits_of_slice? {cs piece : List Char} {s : Span} (h : slice? cs s = some piece) :
    s.Fits cs := by
  unfold slice? at h
  split at h
  case isTrue hle =>
    obtain ⟨rest, hrest, hpiece⟩ := Option.bind_eq_some_iff.mp h
    obtain ⟨before, rfl, hstart⟩ := eq_append_of_dropBytes? hrest
    obtain ⟨after, rfl, hlength⟩ := eq_append_of_takeBytes? hpiece
    exact ⟨before, piece, after, by rw [List.append_assoc], hstart, by omega⟩
  case isFalse => cases h

end Text

namespace Scan

variable {line before cs rest : List Char} {m : Mode} {s : Scan}

/-- Wherever the reader stands, the current token is the text of a mode. -/
lemma Agrees.run (h : Agrees before m s) (hline : line = before ++ m.text ++ (cs ++ rest)) :
    ∃ before' m', Agrees before' m' (s.run cs) ∧ line = before' ++ m'.text ++ rest := by
  induction cs generalizing before m s with
  | nil => exact ⟨before, m, h, hline⟩
  | cons c cs ih =>
    obtain ⟨before', m', -, hagrees, hline', -, -⟩ := h.advances hline
    exact ih hagrees hline'

/-- A cut fits that is made in front of the next character. -/
lemma fits_before (read rest : List Char) :
    Span.Fits (read ++ rest) ⟨(run {} read).start, (run {} read).place⟩ := by
  obtain ⟨before, m, hagrees, hline⟩ :=
    agrees_gap.run (show read ++ rest = [] ++ Mode.gap.text ++ (read ++ rest) from rfl)
  exact ⟨before, m.text, rest, hline, hagrees.start, hagrees.place⟩

/-- A cut fits that is made behind the next character. -/
lemma fits_behind (read rest : List Char) (c : Char) :
    Span.Fits (read ++ c :: rest) ⟨(run {} read).start, (run {} read).after c⟩ := by
  obtain ⟨before, m, hagrees, hline⟩ :=
    agrees_gap.run (show read ++ c :: rest = [] ++ Mode.gap.text ++ (read ++ c :: rest) from rfl)
  refine ⟨before, m.text ++ [c], rest, by simp [hline], hagrees.start, ?_⟩
  rw [Scan.after, hagrees.place, byteLength_append, Nat.add_assoc]
  rfl

end Scan

lemma fits_of_mem_tokenSpans {line : List Char} {span : Span} (h : span ∈ tokenSpans line) :
    span.Fits line := by
  have hslice : slice? line span ∈ (tokenSpans line).map (slice? line) := List.mem_map_of_mem h
  rw [map_slice?_tokenSpans, List.mem_map] at hslice
  obtain ⟨t, -, ht⟩ := hslice
  exact fits_of_slice? ht.symm

/-! ### Lines -/

/-- How a line, its tokens and the places where it is cut belong together. -/
structure Decomposed (line : String) : Prop where
  /-- The line is a gap and then its tokens, each with the gap behind it. -/
  woven    : ∃ (first : String) (parts : List (String × String)),
    line = first ++ String.join (parts.map fun p => p.1 ++ p.2) ∧
      parts.map Prod.fst = tokenize line ∧ (∀ c ∈ first.toList, isSeparator c = true) ∧
      ∀ p ∈ parts, ∀ c ∈ p.2.toList, isSeparator c = true
  nonempty : "" ∉ tokenize line
  /-- Only a literal has a double quote in it. -/
  quoted   : ∀ t ∈ tokenize line, '"' ∈ t.toList → t.toList.head? = some '{'
  kept     : line.toList.filter (!isSeparator ·) =
    (String.join (tokenize line)).toList.filter (!isSeparator ·)
  /-- The tokens are cut out at the places noted for them. -/
  noted    : (tokenSpans line.toList).map (slice? line.toList) =
    (tokenize line).map fun t => some t.toList
  fits     : ∀ span ∈ tokenSpans line.toList, span.Fits line.toList
  /-- Words and quotes, the empty ones too, are cut in front of a character or at the end. -/
  before   : ∀ read rest, line.toList = read ++ rest →
    Span.Fits line.toList ⟨(Scan.run {} read).start, (Scan.run {} read).place⟩
  /-- Literals are cut behind a character. -/
  behind   : ∀ read c rest, line.toList = read ++ c :: rest →
    Span.Fits line.toList ⟨(Scan.run {} read).start, (Scan.run {} read).after c⟩

theorem decomposed_tokenize (line : String) : Decomposed line := by
  obtain ⟨first, parts, hwoven, hparts⟩ := exists_woven .gap line.toList
  rw [Mode.text, List.nil_append] at hwoven
  constructor
  case woven =>
    refine ⟨String.ofList first, parts.map fun p => (String.ofList p.1, String.ofList p.2),
      ?_, ?_, ?_, ?_⟩
    · rw [← String.toList_inj, hwoven.line_eq]
      simp [List.flatMap_map]
    · rw [tokenize_eq, tokens, ← hparts, List.map_map, List.map_map]
      rfl
    · simpa using hwoven.first_gap
    · intro p hp
      obtain ⟨q, hq, rfl⟩ := List.mem_map.mp hp
      simpa using hwoven.gaps q hq
  case nonempty =>
    rw [mem_tokenize_iff]
    exact nil_not_mem_read .gap line.toList
  case quoted =>
    exact fun t ht hquote => (verbatim_of_mem_tokens (mem_tokenize_iff.mp ht) hquote).opens
  case kept =>
    rw [hwoven.filter_eq, hparts, String.toList_join, List.flatMap_def, toList_tokenize]
    rfl
  case noted =>
    rw [map_slice?_tokenSpans, ← toList_tokenize, List.map_map]
    rfl
  case fits => exact fun span hspan => fits_of_mem_tokenSpans hspan
  case before =>
    intro read rest hline
    rw [hline]
    exact Scan.fits_before read rest
  case behind =>
    intro read c rest hline
    rw [hline]
    exact Scan.fits_behind read rest c

end DebugConsole
