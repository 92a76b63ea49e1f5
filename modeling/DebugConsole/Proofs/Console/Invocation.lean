import DebugConsole.Demo
import DebugConsole.Proofs.Console.Contract
import DebugConsole.Proofs.Registry.Admission
import DebugConsole.Proofs.Token.Trimming
import DebugConsole.Proofs.Token.Verbatim
import DebugConsole.Proofs.Token.Written

/-!
# Commands that can be invoked

A prefix may be registered and yet be no first token of any line. Between double quotes any prefix
without them can be typed. One with a double quote in it is a token only as a literal, and then
typing it as it is will do. What a command is invoked with are the tokens of the trimmed line, which
differ from those of the line only in a quote or a literal that is left open.
-/

namespace DebugConsole

open Grammar

/-! ### Lines of one token -/

lemma trim_of_solid {s : String} (h : ∀ c ∈ s.toList, Text.isBlank c = false) :
    Text.trim s = s := by
  rw [Text.trim, Text.strip_eq_self, String.ofList_toList]
  · exact fun c hc => h c (List.mem_of_mem_head? hc)
  · exact fun c hc => h c (List.mem_of_mem_getLast? hc)

lemma tokenize_between_quotes {text : String} (h : IsQuotable text) :
    tokenize ("\"" ++ text ++ "\"") = [text] := by
  have hread : read .gap (("\"" ++ text ++ "\"").toList ++ []) = text.toList :: read .gap [] :=
    Item.read_quoted h (by simp [Ends])
  rw [List.append_nil] at hread
  rw [tokenize_eq, tokens, hread, Grammar.read, List.map_singleton, String.ofList_toList]

/-- The prefixes that can be the first token of a line. -/
theorem exists_first_iff {p : String} (solid : ∀ c ∈ p.toList, Text.isBlank c = false)
    (nonempty : p ≠ "") :
    (∃ line, (lineTokens line).head? = some p) ↔ '"' ∉ p.toList ∨ tokenize p = [p] := by
  constructor
  · rintro ⟨line, first⟩
    rw [or_iff_not_imp_left, not_not]
    intro hquote
    have hmem : p ∈ tokenize (Text.trim line) := List.mem_of_mem_head? first
    have hverbatim := verbatim_of_mem_tokens (mem_tokenize_iff.mp hmem) hquote
    rw [tokenize_eq, hverbatim.alone, List.map_singleton, String.ofList_toList]
  · rintro (hquote | halone)
    · have hsolid : ∀ c ∈ ("\"" ++ p ++ "\"").toList, Text.isBlank c = false := by
        have : Text.isBlank '"' = false := by decide
        simpa [this, or_imp, forall_and] using solid
      refine ⟨"\"" ++ p ++ "\"", ?_⟩
      rw [lineTokens, trim_of_solid hsolid, tokenize_between_quotes ⟨nonempty, hquote⟩]
      rfl
    · refine ⟨p, ?_⟩
      rw [lineTokens, trim_of_solid solid, halone]
      rfl

/-- A token that holds a double quote starts with a brace. -/
lemma head?_of_tokenize_self {p : String} (halone : tokenize p = [p]) (hquote : '"' ∈ p.toList) :
    p.toList.head? = some '{' := by
  have hmem : p ∈ tokenize p := by simp [halone]
  exact (verbatim_of_mem_tokens (mem_tokenize_iff.mp hmem) hquote).opens

namespace Console

variable {η : Type} [Handler η]

/-! ### Invocation -/

/-- Executing a line calls the command of a prefix. -/
def Invokes (c : Console η) (facade : Facade) (line p : String) : Prop :=
  (c.watched.execute facade line).1.callsOf p ≠ []

lemma invokes_iff_calls (c : Console η) (facade : Facade) (line p : String) :
    c.Invokes facade line p ↔ c.Calls line p := by
  rw [Invokes, callsOf_execute, callsOf_watched, List.nil_append, ← calls_watched_iff c]
  split <;> simp_all

lemma exists_invokes_iff {c : Console η} (facade : Facade) {p : String}
    (registered : p ∈ c.registry.prefixes) :
    (∃ line, c.Invokes facade line p) ↔ '"' ∉ p.toList ∨ tokenize p = [p] := by
  have form := c.registry.admissible registered
  rw [← exists_first_iff form.solid form.nonempty]
  simp only [invokes_iff_calls, Calls, Registry.contains_iff, registered, and_true]

/-- A line is trimmed before a command is called with its tokens, and they are those of the line as
it was typed, unless a piece is open at its end. -/
theorem calls_trimmed (c : Console η) (facade : Facade) (line : String) :
    (∀ p, (c.watched.execute facade line).1.callsOf p =
        if c.Calls line p then [tokenize (Text.trim line)] else []) ∧
      (Closed line → tokenize (Text.trim line) = tokenize line) ∧
      (¬ Closed line → ∃ before pending, TrimsPending line before pending) := by
  refine ⟨fun p => ?_, fun closed => ?_, fun opened => ?_⟩
  · rw [callsOf_execute, callsOf_watched, List.nil_append, lineTokens]
    simp only [calls_watched_iff]
  · exact tokenize_trim_of_closed closed
  · exact exists_trimsPending opened

/-- A blank at the end is in no quote once the quote is closed, and behind a backslash it is in the
literal that is still open. -/
theorem calls_trimmed_backslash :
    Closed " /say \"a \" " ∧ tokenize (Text.trim " /say \"a \" ") = tokenize " /say \"a \" " ∧
      ¬ Closed "/say \x7ba \\ " ∧
      ∃ before pending, TrimsPending "/say \x7ba \\ " before pending :=
  have trimmed := calls_trimmed (ofConfig {} : Console DemoCommand) .silent
  ⟨by decide, (trimmed _).2.1 (by decide), by decide, (trimmed _).2.2 (by decide)⟩

/-! ### Accepted prefixes -/

/-- What accepting a prefix means for the lines that can be typed. -/
structure Typing (c : Console η) (facade : Facade) (p : String) : Prop where
  registered : p ∈ c.registry.prefixes
  /-- This holds in every console where the prefix is registered, this one among them. -/
  invocable  : ∀ d : Console η, p ∈ d.registry.prefixes →
    ((∃ line, d.Invokes facade line p) ↔ '"' ∉ p.toList ∨ tokenize p = [p])
  plain      : p.toList.head? ≠ some '{' → ∀ d : Console η, p ∈ d.registry.prefixes →
    ((∃ line, d.Invokes facade line p) ↔ '"' ∉ p.toList)
  /-- A double quote behind a prefix is no reason to refuse it. -/
  unnoticed  : ∀ handler, p ++ "\"" ∉ c.registry.prefixes →
    ∃ c', c.register facade (p ++ "\"") handler = .ok c'

omit [Handler η] in
lemma registry_of_register {c c' : Console η} {facade : Facade} {p : String} {handler : η}
    (accepted : c.register facade p handler = .ok c') :
    c.registry.register p handler = .ok c'.registry := by
  unfold register at accepted
  cases h : c.registry.register p handler with
  | error e => rw [h] at accepted; cases accepted
  | ok r =>
    rw [h] at accepted
    cases accepted
    rfl

theorem typing_of_register {c c' : Console η} {facade : Facade} {p : String} {handler : η}
    (accepted : c.register facade p handler = .ok c') : c'.Typing facade p := by
  have registered := Registry.mem_prefixes_of_register (registry_of_register accepted)
  constructor
  case registered => exact registered
  case invocable => exact fun d hd => exists_invokes_iff facade hd
  case plain =>
    intro hbrace d hd
    rw [exists_invokes_iff facade hd, or_iff_left_iff_imp]
    intro halone
    exact fun hquote => hbrace (head?_of_tokenize_self halone hquote)
  case unnoticed =>
    intro handler' hfree
    have hsolid : Text.isBlank '"' = false := by decide
    have hadmissible : Admissible c'.registry.sentinel (p ++ "\"") :=
      (c'.registry.admissible registered).append (by simpa using hsolid)
    obtain ⟨r, hr⟩ := (Registry.exists_register_eq_ok_iff handler').mpr ⟨hadmissible, hfree⟩
    rw [register, hr]
    exact ⟨_, rfl⟩

/-- A prefix with a double quote is accepted, and no line invokes its command. -/
theorem typing_of_register_quoted : ∃ c' : Console DemoCommand,
    (ofConfig {}).register .silent "/say\"it" .echo = .ok c' ∧ c'.Typing .silent "/say\"it" ∧
      ¬ ∃ line, c'.Invokes .silent line "/say\"it" := by
  have accepted : (ofConfig {} : Console DemoCommand).register .silent "/say\"it" .echo
      = .ok { (ofConfig {} : Console DemoCommand) with
          registry := (Registry.empty (some '/')).put "/say\"it" .echo (by decide) } := rfl
  have typing := typing_of_register accepted
  refine ⟨_, accepted, typing, ?_⟩
  rw [typing.plain (by decide) _ typing.registered]
  decide

end Console

end DebugConsole
