import DebugConsole.Proofs.Bounded.Window
import DebugConsole.Proofs.HostAction.Spelling
import DebugConsole.Proofs.Registry.Completion

/-!
# Asking for completions

The host shows the commands that start with a text on one line, two spaces between any two of them.
No prefix is empty or has a blank in it, so the line is not blank and the commands can be told
apart again.
-/

namespace DebugConsole

/-! ### Lines of several texts -/

/-- The parts of a text between its double spaces, which are found from the left. -/
def splitDouble : List Char → List (List Char)
  | []               => [[]]
  | ' ' :: ' ' :: cs => [] :: splitDouble cs
  | c :: cs          => (splitDouble cs).modifyHead (c :: ·)

/-- The texts between the double spaces of a text. -/
def columns (text : String) : List String := (splitDouble text.toList).map String.ofList

lemma splitDouble_cons {c : Char} (hc : c ≠ ' ') (cs : List Char) :
    splitDouble (c :: cs) = (splitDouble cs).modifyHead (c :: ·) := by
  rw [splitDouble]
  rintro cs' rfl -
  exact hc rfl

lemma splitDouble_solid_append {part : List Char} (h : ∀ c ∈ part, c ≠ ' ') (cs : List Char) :
    splitDouble (part ++ cs) = (splitDouble cs).modifyHead (part ++ ·) := by
  induction part with
  | nil =>
    rw [List.nil_append]
    cases splitDouble cs <;> rfl
  | cons c part ih =>
    obtain ⟨hc, hpart⟩ := List.forall_mem_cons.mp h
    rw [List.cons_append, splitDouble_cons hc, ih hpart, List.modifyHead_modifyHead]
    rfl

lemma splitDouble_of_solid {part : List Char} (h : ∀ c ∈ part, c ≠ ' ') :
    splitDouble part = [part] := by
  have hsplit := splitDouble_solid_append h []
  rwa [List.append_nil, splitDouble, List.modifyHead_cons, List.append_nil] at hsplit

lemma splitDouble_append {part : List Char} (h : ∀ c ∈ part, c ≠ ' ') (cs : List Char) :
    splitDouble (part ++ ' ' :: ' ' :: cs) = part :: splitDouble cs := by
  rw [splitDouble_solid_append h, splitDouble, List.modifyHead_cons, List.append_nil]

/-- Texts without spaces are told apart on a line of them all. -/
lemma columns_intercalate {texts : List String} (hne : texts ≠ [])
    (h : ∀ text ∈ texts, ∀ c ∈ text.toList, c ≠ ' ') :
    columns ("  ".intercalate texts) = texts := by
  induction texts with
  | nil => exact absurd rfl hne
  | cons text texts ih =>
    obtain ⟨htext, htexts⟩ := List.forall_mem_cons.mp h
    cases texts with
    | nil => simp [columns, splitDouble_of_solid htext]
    | cons next texts =>
      have hline : ("  ".intercalate (text :: next :: texts)).toList
          = text.toList ++ ' ' :: ' ' :: ("  ".intercalate (next :: texts)).toList := by
        simp
      rw [columns, hline, splitDouble_append htext, List.map_cons, String.ofList_toList, ← columns,
        ih (List.cons_ne_nil _ _) htexts]

/-! ### The line of completions -/

namespace Registry

variable {η : Type} {r : Registry η} {start : String}

/-- The completions of a text on one line. -/
def shown (r : Registry η) (start : String) : String := "  ".intercalate (r.completions start)

/-- What the log tells about the completions of a text. -/
structure Announces (r : Registry η) (start text : String) : Prop where
  /-- The commands, if there are any that start with the text. -/
  listed : (∃ p ∈ r.prefixes, StartsWith start p) → columns text = r.completions start
  /-- That there are none otherwise. -/
  absent : (∀ p ∈ r.prefixes, ¬ StartsWith start p) →
    text = "No completions for '" ++ start ++ "'."

lemma completions_eq_nil_iff :
    r.completions start = [] ↔ ∀ p ∈ r.prefixes, ¬ StartsWith start p := by
  simp [completions_eq_filter]

lemma columns_shown (h : r.completions start ≠ []) :
    columns (r.shown start) = r.completions start := by
  refine columns_intercalate h fun p hp c hc => ?_
  rintro rfl
  have hsolid := (r.admissible ((r.mem_completions start).mp hp).1).solid ' ' hc
  exact absurd hsolid (by decide)

/-- The first command on the line is not blank. -/
lemma isBlankText_shown (h : r.completions start ≠ []) :
    Text.isBlankText (r.shown start) = false := by
  obtain ⟨p, others, hp⟩ := List.exists_cons_of_ne_nil h
  have hmem : p ∈ r.completions start := hp ▸ List.mem_cons_self
  have hform := r.admissible ((r.mem_completions start).mp hmem).1
  have hblank : Text.isBlankText p = false :=
    (refusal?_eq_none_iff.mp (refusal?_eq_none_iff_admissible.mpr hform)).1
  rw [shown, hp]
  cases others with
  | nil => rwa [String.intercalate_singleton]
  | cons q others =>
    rw [String.intercalate_cons_cons, String.append_assoc]
    exact Text.isBlankText_append_left hblank _

lemma isEmpty_shown : (r.shown start).isEmpty = true ↔ r.completions start = [] := by
  rw [String.isEmpty_iff]
  constructor
  · intro hshown
    by_contra h
    have hblank := isBlankText_shown h
    rw [hshown] at hblank
    exact absurd hblank (by decide)
  · intro h
    rw [shown, h, String.intercalate_nil]

/-- What the host writes into the log. -/
def announcement (r : Registry η) (start : String) : String :=
  if (r.shown start).isEmpty then "No completions for '" ++ start ++ "'." else r.shown start

lemma announces_announcement (r : Registry η) (start : String) :
    r.Announces start (r.announcement start) := by
  by_cases h : r.completions start = []
  · have hnone := completions_eq_nil_iff.mp h
    rw [announcement, if_pos (isEmpty_shown.mpr h)]
    exact ⟨fun ⟨p, hp, hstarts⟩ => absurd hstarts (hnone p hp), fun _ => rfl⟩
  · rw [announcement, if_neg (mt isEmpty_shown.mp h)]
    exact ⟨fun _ => columns_shown h, fun hnone => absurd (completions_eq_nil_iff.mpr hnone) h⟩

lemma isBlankText_announcement (r : Registry η) (start : String) :
    Text.isBlankText (r.announcement start) = false := by
  by_cases h : r.completions start = []
  · rw [announcement, if_pos (isEmpty_shown.mpr h), String.append_assoc]
    exact Text.isBlankText_append_left (by decide) _
  · rw [announcement, if_neg (mt isEmpty_shown.mp h)]
    exact isBlankText_shown h

end Registry

namespace Console

variable {η : Type}

/-- What is announced is never blank, so it is never dropped. -/
lemma showCompletions_eq (c : Console η) (start : String) :
    c.showCompletions start =
      { c with log := c.log.append ⟨c.registry.announcement start, .verbose, .plain⟩ } := by
  have hshow : c.showCompletions start = c.logText (c.registry.announcement start) := rfl
  rw [hshow, logText, Sink.log, Sink.logStyled, Registry.isBlankText_announcement,
    if_neg Bool.false_ne_true]

variable [Handler η]

/-- What the host does when it is asked for the completions of a text. -/
structure Completing (c : Console η) (facade : Facade) (start : String) : Prop where
  /-- The session goes on. -/
  stays : quits (":complete " ++ start) = false
  /-- One plain line is logged, which moves the view, and nothing else happens. The line is the
  newest of a log that holds any. -/
  line  : ∃ text, c.registry.Announces start text ∧
    let line : LogLine := { text, severity := .verbose, style := .plain }
    c.handleLine facade (":complete " ++ start) = { c with
      log := { c.log with
        lines   := c.log.lines.push line
        signals := { c.log.signals with scroll := true } } } ∧
    (0 < c.log.lines.capacity → (c.log.lines.push line).items
      = keepLast (c.log.lines.capacity - 1) c.log.lines.items ++ [line])

lemma completing (c : Console η) (facade : Facade) {start : String} (h : Text.trim start = start) :
    c.Completing facade start := by
  have hformed : HostAction.WellFormed (.complete start) := h
  have hspells : HostAction.Spells (HostAction.line (.complete start)) "complete" start :=
    HostAction.spells_line rfl
  have hread : HostAction.ofLine? (":complete " ++ start) = some (.complete start) :=
    HostAction.ofLine?_of_spells rfl hformed hspells
  constructor
  case stays =>
    rw [quits, hread]
    exact decide_eq_false (by simp)
  case line =>
    refine ⟨c.registry.announcement start, c.registry.announces_announcement start, ?_, ?_⟩
    · rw [handleLine, hread]
      exact c.showCompletions_eq start
    · intro hroom
      rw [Bounded.items_push, ← keepLast_append_singleton, Nat.sub_add_cancel hroom]

end Console

/-- How completions are picked, in every registry and for every text, and how the host shows those
of a text that has no blanks around it. -/
structure CompletionContract (η : Type) [Handler η] : Prop where
  picked : ∀ (r : Registry η) (start : String), r.CompletionLaws start
  logged : ∀ (c : Console η) (facade : Facade) (start : String), Text.trim start = start →
    c.Completing facade start

theorem completionContract (η : Type) [Handler η] : CompletionContract η where
  picked := fun r start => r.completionLaws start
  logged := fun c facade _ h => c.completing facade h

/-- A third space belongs to the text behind it. -/
example : columns "/exit  /export   /x" = ["/exit", "/export", " /x"] := by decide

end DebugConsole
