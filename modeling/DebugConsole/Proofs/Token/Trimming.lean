import DebugConsole.Proofs.Text.Margins
import DebugConsole.Proofs.Token.Composition

/-!
# Tokens of a trimmed line

Blanks around a line belong to no token, unless a quote or a literal is open at its end. What is
read in it then keeps its place among the tokens, and only loses the blanks at its end.
-/

namespace DebugConsole

open Grammar Text

namespace Grammar

variable {m : Mode} {c : Char} {cs bs before : List Char}

/-! ### Blanks at the end -/

/-- A blank completes nothing in a quote or a literal, and becomes part of it. -/
lemma step_of_isBlank (hopen : ¬ m.IsPlain) (hc : isBlank c = true) :
    ∃ m', m.step c = { mode := m' } ∧ ¬ m'.IsPlain ∧ m'.text = m.text ++ [c] := by
  obtain ⟨hbrace, hquote⟩ := ne_of_isBlank hc
  have hclose : c ≠ '}' := by
    rintro rfl
    exact absurd hc (by decide)
  cases m with
  | gap     => exact absurd trivial hopen
  | word w  => exact absurd trivial hopen
  | quote q => exact ⟨.quote (q ++ [c]), by simp [Mode.step, hquote], hopen, rfl⟩
  | literal d hidden t =>
    refine ⟨.literal d (!hidden && c == '\\') (t ++ [c]), ?_, hopen, rfl⟩
    rw [Mode.step]
    split_ifs <;> simp_all

lemma after_of_isBlank (hopen : ¬ m.IsPlain) (hbs : ∀ c ∈ bs, isBlank c = true) :
    ¬ (m.after bs).IsPlain ∧ (m.after bs).text = m.text ++ bs ∧ m.done bs = [] := by
  induction bs generalizing m with
  | nil => exact ⟨hopen, (List.append_nil _).symm, rfl⟩
  | cons c bs ih =>
    obtain ⟨hc, hbs⟩ := List.forall_mem_cons.mp hbs
    obtain ⟨m', hstep, hopen', htext⟩ := step_of_isBlank hopen hc
    obtain ⟨hafter, htext', hdone⟩ := ih hopen' hbs
    rw [Mode.after_cons, Mode.done_cons, hstep]
    exact ⟨hafter, by rw [htext', htext, List.append_assoc]; rfl, hdone⟩

/-- Outside quotes and literals, blanks lead to a gap. -/
lemma isPlain_after_of_isBlank (hplain : m.IsPlain) (hbs : ∀ c ∈ bs, isBlank c = true) :
    (m.after bs).IsPlain := by
  induction bs generalizing m with
  | nil => exact hplain
  | cons c bs ih =>
    obtain ⟨hc, hbs⟩ := List.forall_mem_cons.mp hbs
    obtain ⟨hbrace, hquote⟩ := ne_of_isBlank hc
    refine ih ?_ hbs
    cases m <;> simp_all [Mode.step, Mode.IsPlain]

/-! ### What is open at the end -/

/-- Only a blank, or the start of the line, leads to a gap. -/
lemma isBlank_getLast?_of_gap (h : Mode.gap.after cs = .gap) :
    ∀ c ∈ cs.getLast?, isBlank c = true := by
  induction cs using List.reverseRecOn with
  | nil => simp
  | append_singleton cs c ih =>
    rw [Mode.after_append, Mode.after_cons, Mode.after_nil] at h
    suffices isBlank c = true by simpa using this
    cases hm : Mode.gap.after cs <;> rw [hm, Mode.step] at h <;> split_ifs at h <;> assumption

/-- Behind every character of a literal that is not closed, braces are open. -/
def Unclosed (t : List Char) : Prop :=
  ∀ front, front <+: t → front ≠ [] → (Nesting.run {} front).depth ≠ 0

/-- How a quote or a literal was opened, which has been read since the text `before`. -/
inductive Opening (before : List Char) : Mode → Prop where
  | quote {front q : List Char} (opened : before = front ++ ['"'])
      (plain : (Mode.gap.after front).IsPlain) (unclosed : '"' ∉ q) : Opening before (.quote q)
  | literal {n : Nesting} {t : List Char} (gap : Mode.gap.after before = .gap)
      (brace : t.head? = some '{') (nesting : Nesting.run {} t = n) (unclosed : Unclosed t) :
      Opening before (.literal n.depth n.hidden t)

lemma Unclosed.append_singleton {t : List Char} (h : Unclosed t)
    (hc : (Nesting.run {} (t ++ [c])).depth ≠ 0) : Unclosed (t ++ [c]) := by
  intro front hprefix hne
  rcases List.prefix_concat_iff.mp hprefix with rfl | hprefix
  · exact hc
  · exact h front hprefix hne

/-- The tokens that a text completes are all tokens of a text `before`, and what is open at its end
has been read since. -/
structure OpenSince (before cs : List Char) : Prop where
  text_eq : cs = before ++ (Mode.gap.after cs).text
  done_eq : Mode.gap.done cs = tokens before
  opening : Opening before (Mode.gap.after cs)

/-- A double quote that opens a quote belongs to the text in front of it. -/
lemma openSince_quote (hplain : (Mode.gap.after cs).IsPlain)
    (hstep : ((Mode.gap.after cs).step '"').mode = .quote []) :
    OpenSince (cs ++ ['"']) (cs ++ ['"']) := by
  have hafter : Mode.gap.after (cs ++ ['"']) = .quote [] := by
    rw [Mode.after_append, Mode.after_cons, hstep, Mode.after_nil]
  constructor
  case text_eq => rw [hafter, Mode.text, List.append_nil]
  case done_eq => rw [tokens, read_eq_done_append, hafter, Mode.text, emit_nil, List.append_nil]
  case opening => exact hafter ▸ .quote rfl hplain List.not_mem_nil

/-- A brace that opens a literal belongs to it. -/
lemma openSince_literal (hgap : Mode.gap.after cs = .gap) : OpenSince cs (cs ++ ['{']) := by
  have hafter : Mode.gap.after (cs ++ ['{']) = .literal 1 false ['{'] := by
    rw [Mode.after_append, Mode.after_cons, hgap]
    rfl
  have hunclosed : Unclosed ['{'] :=
    Unclosed.append_singleton (t := []) (fun front h hne => absurd (List.prefix_nil.mp h) hne)
      (by decide)
  constructor
  case text_eq => rw [hafter, Mode.text]
  case done_eq =>
    rw [tokens, read_eq_done_append, Mode.done_append, Mode.done_cons, hgap]
    rfl
  case opening =>
    rw [hafter]
    exact .literal (n := ⟨1, false⟩) hgap rfl rfl hunclosed

/-- A quote and a literal that stay open have been open since the same text. -/
lemma OpenSince.append_singleton (h : OpenSince before cs)
    (hstep : (Mode.gap.after cs).step c = { mode := m })
    (htext : m.text = (Mode.gap.after cs).text ++ [c]) (hopening : Opening before m) :
    OpenSince before (cs ++ [c]) := by
  have hafter : Mode.gap.after (cs ++ [c]) = m := by
    rw [Mode.after_append, Mode.after_cons, hstep, Mode.after_nil]
  constructor
  case text_eq => rw [hafter, htext, ← List.append_assoc, ← h.text_eq]
  case done_eq =>
    rw [Mode.done_append, Mode.done_cons, hstep, h.done_eq]
    exact List.append_nil _
  case opening => exact hafter ▸ hopening

lemma OpenSince.quote {q : List Char} (h : OpenSince before cs)
    (hm : Mode.gap.after cs = .quote q) (hquote : c ≠ '"') : OpenSince before (cs ++ [c]) := by
  have hopening := h.opening
  rw [hm] at hopening
  obtain ⟨opened, plain, unclosed⟩ := hopening
  have hunclosed : '"' ∉ q ++ [c] := by simp [unclosed, Ne.symm hquote]
  refine h.append_singleton (m := .quote (q ++ [c])) ?_ (by rw [hm]; rfl)
    (.quote opened plain hunclosed)
  rw [hm, Mode.step, if_neg hquote]

lemma OpenSince.literal {d : Nat} {hidden : Bool} {t : List Char} (h : OpenSince before cs)
    (hm : Mode.gap.after cs = .literal d hidden t)
    (hopen : ¬ ((Mode.literal d hidden t).step c).mode.IsPlain) : OpenSince before (cs ++ [c]) := by
  have hopening := h.opening
  rw [hm] at hopening
  cases hopening with
  | @literal n t gap brace nesting unclosed =>
    have hdepth : n.depth ≠ 0 := nesting ▸ unclosed t List.prefix_rfl (by rintro rfl; cases brace)
    have hrun : Nesting.run {} (t ++ [c]) = n.step c := by
      rw [Nesting.run_append_singleton, nesting]
    by_cases hlast : (n.step c).depth = 0
    · rw [step_literal hdepth, if_pos hlast] at hopen
      exact absurd trivial hopen
    · have hstep : (Mode.gap.after cs).step c =
          { mode := .literal (n.step c).depth (n.step c).hidden (t ++ [c]) } := by
        rw [hm, step_literal hdepth, if_neg hlast]
      have hbrace : (t ++ [c]).head? = some '{' := by rw [List.head?_append, brace, Option.some_or]
      exact h.append_singleton hstep (by rw [hm]; rfl)
        (.literal gap hbrace hrun (unclosed.append_singleton (hrun ▸ hlast)))

/-- What is open at the end of a text has been open since some text. -/
lemma exists_openSince (cs : List Char) (hopen : ¬ (Mode.gap.after cs).IsPlain) :
    ∃ before, OpenSince before cs := by
  induction cs using List.reverseRecOn with
  | nil => exact absurd trivial hopen
  | append_singleton cs c ih =>
    rw [Mode.after_append, Mode.after_cons, Mode.after_nil] at hopen
    cases hm : Mode.gap.after cs with
    | gap =>
      by_cases hbrace : c = '{'
      · exact ⟨cs, hbrace ▸ openSince_literal hm⟩
      by_cases hquote : c = '"'
      · exact ⟨cs ++ [c], hquote ▸ openSince_quote (by rw [hm]; trivial) (by rw [hm]; rfl)⟩
      · rw [hm, Mode.step, if_neg hbrace, if_neg hquote] at hopen
        split at hopen <;> exact absurd trivial hopen
    | word w =>
      by_cases hquote : c = '"'
      · exact ⟨cs ++ [c], hquote ▸ openSince_quote (by rw [hm]; trivial) (by rw [hm]; rfl)⟩
      · rw [hm, Mode.step, if_neg hquote] at hopen
        split at hopen <;> exact absurd trivial hopen
    | quote q =>
      obtain ⟨before, h⟩ := ih (by rw [hm]; exact not_false)
      refine ⟨before, h.quote hm ?_⟩
      rintro rfl
      rw [hm] at hopen
      exact absurd trivial hopen
    | literal d hidden t =>
      obtain ⟨before, h⟩ := ih (by rw [hm]; exact not_false)
      exact ⟨before, h.literal hm (hm ▸ hopen)⟩

/-! ### Blanks around a line -/

lemma gap_of_isBlank (hbs : ∀ c ∈ bs, isBlank c = true) :
    Mode.gap.after bs = .gap ∧ Mode.gap.done bs = [] := by
  induction bs with
  | nil => exact ⟨rfl, rfl⟩
  | cons c bs ih =>
    obtain ⟨hc, hbs⟩ := List.forall_mem_cons.mp hbs
    obtain ⟨hbrace, hquote⟩ := ne_of_isBlank hc
    rw [Mode.after_cons, Mode.done_cons, Mode.step, if_neg hbrace, if_neg hquote, if_pos hc]
    exact ih hbs

lemma read_gap_of_forall_isBlank (hbs : ∀ c ∈ bs, isBlank c = true) : read .gap bs = [] := by
  rw [read_eq_done_append, (gap_of_isBlank hbs).1, (gap_of_isBlank hbs).2]
  rfl

/-- A stripped line and the blanks around it lead where the stripped line and the blanks behind it
do, and complete the same. -/
lemma exists_trail (line : List Char) :
    ∃ trail, (∀ c ∈ trail, isBlank c = true) ∧
      Mode.gap.after line = (Mode.gap.after (strip line)).after trail ∧
      Mode.gap.done line =
        Mode.gap.done (strip line) ++ (Mode.gap.after (strip line)).done trail := by
  obtain ⟨lead, trail, hlead, htrail, hline⟩ := exists_margins line
  obtain ⟨hafter, hdone⟩ := gap_of_isBlank hlead
  refine ⟨trail, htrail, ?_, ?_⟩
  · rw [hline, Mode.after_append, Mode.after_append, hafter, ← hline]
  · rw [hline, Mode.done_append, Mode.done_append, Mode.after_append, hafter, hdone, ← hline,
      List.nil_append]

lemma tokens_strip_of_isPlain {line : List Char} (hplain : (Mode.gap.after line).IsPlain) :
    tokens (strip line) = tokens line := by
  obtain ⟨trail, htrail, hafter, hdone⟩ := exists_trail line
  have hbody : (Mode.gap.after (strip line)).IsPlain := by
    by_contra hopen
    exact (after_of_isBlank hopen htrail).1 (hafter ▸ hplain)
  have hends : Ends trail := fun c hc => htrail c (List.mem_of_mem_head? hc)
  calc tokens (strip line)
      = Mode.gap.done (strip line) ++ read (Mode.gap.after (strip line)) trail := by
        rw [tokens, read_eq_done_append, read_of_ends hbody hends,
          read_gap_of_forall_isBlank htrail]
    _ = tokens line := by
        rw [tokens, read_eq_done_append _ trail, ← List.append_assoc, ← hdone, ← hafter,
          ← read_eq_done_append]

lemma tokens_strip_of_open {line : List Char} (hopen : ¬ (Mode.gap.after line).IsPlain)
    (hsince : OpenSince before line) :
    tokens line = tokens before ++ emit (Mode.gap.after line).text [] ∧
      tokens (strip line) =
        tokens before ++ emit (dropEndBlanks (Mode.gap.after line).text) [] := by
  obtain ⟨trail, htrail, hafter, hdone⟩ := exists_trail line
  have hbody : ¬ (Mode.gap.after (strip line)).IsPlain := fun hplain =>
    hopen (hafter ▸ isPlain_after_of_isBlank hplain htrail)
  obtain ⟨-, htext, hnone⟩ := after_of_isBlank hbody htrail
  rw [hnone, List.append_nil] at hdone
  -- The text that is open at the end of the stripped line is its end, and has no blank there.
  have hend : dropEndBlanks (Mode.gap.after line).text = (Mode.gap.after (strip line)).text := by
    obtain ⟨before', hstrip⟩ := exists_openSince (strip line) hbody
    rw [hafter, htext, dropEndBlanks_append_of_blank htrail]
    refine dropEndBlanks_eq_self fun c hc => isBlank_getLast?_strip line c ?_
    rw [hstrip.text_eq, List.getLast?_append, Option.mem_def.mp hc]
    rfl
  constructor
  · rw [tokens, read_eq_done_append, hsince.done_eq]
  · rw [hend, tokens, read_eq_done_append, ← hdone, hsince.done_eq]

end Grammar

/-! ### Lines -/

/-- A quote that is open at the end of a line: the text up to the double quote that opens it, and
the text behind that. -/
structure OpenQuote (before pending : String) : Prop where
  opened   : ∃ front, before = front ++ "\"" ∧ Closed front
  unclosed : '"' ∉ pending.toList

/-- A literal that is open at the end of a line: the text in front of the brace that opens it, and
the text from there on. -/
structure OpenLiteral (before pending : String) : Prop where
  closed   : Closed before
  gap      : ∀ c ∈ before.toList.getLast?, isBlank c = true
  brace    : pending.toList.head? = some '{'
  unclosed : Unclosed pending.toList

/-- A text is a token unless it is empty. -/
def asToken (text : String) : List String := if text = "" then [] else [text]

/-- What trimming does to the tokens of a line at whose end a piece is open: the piece loses the
blanks at its end, and all other tokens stay. -/
structure TrimsPending (line before pending : String) : Prop where
  line_eq : line = before ++ pending
  opened  : OpenQuote before pending ∨ OpenLiteral before pending
  kept    : tokenize line = tokenize before ++ asToken pending
  trimmed : tokenize (trim line) = tokenize before ++ asToken (trimEnd pending)

lemma map_emit (text : List Char) :
    (emit text []).map String.ofList = asToken (String.ofList text) := by
  rw [emit, asToken]
  by_cases htext : text = []
  · rw [if_pos htext, if_pos (by simp [htext])]
    rfl
  · rw [if_neg htext, if_neg (by simpa using htext)]
    rfl

lemma closed_ofList_iff (cs : List Char) :
    Closed (String.ofList cs) ↔ (Mode.gap.after cs).IsPlain := by
  rw [closed_iff, String.toList_ofList]

lemma Grammar.OpenSince.opened {line before : List Char} (h : OpenSince before line) :
    OpenQuote (String.ofList before) (String.ofList (Mode.gap.after line).text) ∨
      OpenLiteral (String.ofList before) (String.ofList (Mode.gap.after line).text) := by
  have hopening := h.opening
  generalize Mode.gap.after line = m at hopening ⊢
  cases hopening with
  | @quote front q opened plain unclosed =>
    refine .inl ⟨⟨String.ofList front, ?_, (closed_ofList_iff front).mpr plain⟩, ?_⟩
    · rw [opened, String.ofList_append]
    · rwa [String.toList_ofList]
  | literal gap brace nesting unclosed =>
    refine .inr ⟨(closed_ofList_iff before).mpr (by rw [gap]; trivial), ?_, ?_, ?_⟩
    · rw [String.toList_ofList]
      exact isBlank_getLast?_of_gap gap
    · rwa [String.toList_ofList]
    · rwa [String.toList_ofList]

lemma Grammar.OpenSince.trimsPending {line : String} {before : List Char}
    (hopen : ¬ (Mode.gap.after line.toList).IsPlain) (h : OpenSince before line.toList) :
    TrimsPending line (String.ofList before)
      (String.ofList (Mode.gap.after line.toList).text) := by
  obtain ⟨hline, htrim⟩ := tokens_strip_of_open hopen h
  constructor
  case line_eq => rw [← String.ofList_append, ← h.text_eq, String.ofList_toList]
  case opened => exact h.opened
  case kept =>
    rw [tokenize_eq, hline, List.map_append, map_emit, tokenize_eq, String.toList_ofList]
  case trimmed =>
    rw [tokenize_eq, trim, String.toList_ofList, htrim, List.map_append, map_emit, tokenize_eq,
      String.toList_ofList, trimEnd, String.toList_ofList]

/-- Blanks around a closed line are no part of a token. -/
lemma tokenize_trim_of_closed {line : String} (h : Closed line) :
    tokenize (trim line) = tokenize line := by
  rw [tokenize_eq, trim, String.toList_ofList, tokens_strip_of_isPlain ((closed_iff line).mp h),
    tokenize_eq]

lemma exists_trimsPending {line : String} (h : ¬ Closed line) :
    ∃ before pending, TrimsPending line before pending := by
  have hopen : ¬ (Mode.gap.after line.toList).IsPlain := mt (closed_iff line).mpr h
  obtain ⟨before, hsince⟩ := exists_openSince line.toList hopen
  exact ⟨_, _, hsince.trimsPending hopen⟩

end DebugConsole
