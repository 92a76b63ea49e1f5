import DebugConsole.Proofs.Log.Run
import Mathlib.Data.List.Count

/-!
# Lines that are shown and events that are counted

The lines of a log are dropped when there is no room for them, and its counts stop at a limit, each
without regard to the other. Still every line of a warning, an error or an exception that is shown
has been counted, for what drops the counts drops all lines.
-/

namespace DebugConsole

/-- A line that may be shown. It is not blank, and if its severity has a tag, it starts with the tag
and has the style of the severity. -/
structure LogLine.Showable (line : LogLine) : Prop where
  solid  : Text.isBlankText line.text = false
  tagged : line.severity ≠ .verbose → ∃ message, line.text = line.severity.tag ++ message
  styled : line.severity ≠ .verbose → line.style = .ofSeverity line.severity

namespace Sink

/-! ### The line of an operation -/

/-- A tag makes up for a blank message, and a verbose event without a message is not accepted. -/
lemma showable_eventLine {message : String} {severity : Severity}
    (h : accepts message severity = true) (detail : String) :
    (eventLine message detail severity).Showable where
  solid  := by
    have hmessage : Text.isBlankText (severity.tag ++ message) = false := by
      cases severity with
      | verbose => simpa [accepts, Severity.tag] using h
      | warning | error | exception => exact Text.isBlankText_append_left (by decide) message
    exact Text.isBlankText_append_left hmessage _
  tagged := fun _ => ⟨_, String.append_assoc ..⟩
  styled := fun _ => rfl

lemma Op.showable_of_line? {op : Op} {line : LogLine} (h : op.line? = some line) :
    line.Showable := by
  have hplain {text : String} {style : TextStyle}
      (h : (if Text.isBlankText text then none else some ⟨text, .verbose, style⟩) = some line) :
      line.Showable := by
    split at h
    · contradiction
    · next hsolid =>
      obtain rfl := Option.some.inj h
      exact ⟨by simpa using hsolid, fun hne => absurd rfl hne, fun hne => absurd rfl hne⟩
  cases op with
  | log text => exact hplain h
  | logStyled text style => exact hplain h
  | receive message detail severity =>
    simp only [Op.line?] at h
    split at h
    · next haccepts =>
      obtain rfl := Option.some.inj h
      exact showable_eventLine haccepts detail
    · contradiction
  | _ => contradiction

/-- An operation that counts an event appends a line of its severity, and one that counts none
appends at most a plain line. -/
lemma Op.event?_cases (op : Op) :
    (op.event? = none ∧ ∀ line ∈ op.line?, line.severity = .verbose) ∨
      ∃ line, op.line? = some line ∧ op.event? = some line.severity := by
  cases op with
  | receive message detail severity =>
    by_cases h : accepts message severity = true
    · exact .inr ⟨eventLine message detail severity, if_pos h, if_pos h⟩
    · refine .inl ⟨if_neg h, fun line hline => ?_⟩
      simp [Op.line?, h] at hline
  | log text | logStyled text style =>
    refine .inl ⟨rfl, fun line hline => ?_⟩
    simp only [Op.line?] at hline
    split at hline
    · contradiction
    · obtain rfl := Option.some.inj hline
      rfl
  | _ => exact .inl ⟨rfl, fun line hline => by contradiction⟩

/-! ### What one operation keeps -/

variable {s : Sink}

/-- Besides the line of an operation there are only lines that were there before it. -/
lemma items_apply_suffix (s : Sink) (op : Op) :
    (s.apply op).lines.items <:+ s.lines.items ++ op.line?.toList := by
  rcases lines_apply s op with ⟨capacity, rfl, hlines⟩ | ⟨-, hlines⟩ | hlines
  · rw [hlines]
    simpa [Op.line?] using keepLast_suffix ..
  · rw [hlines]
    exact List.nil_suffix
  · rw [hlines]
    cases op.line? with
    | none      => simp
    | some line => exact keepLast_suffix ..

/-- A line and its event are counted together, unless the count stands at the limit. -/
lemma countP_apply_le {severity : Severity} (hne : severity ≠ .verbose)
    (h : min (s.lines.items.countP (·.severity = severity)) Counter.limit ≤ s.counts.get severity)
    (op : Op) :
    min ((s.apply op).lines.items.countP (·.severity = severity)) Counter.limit
      ≤ (s.apply op).counts.get severity := by
  have hlines : (s.apply op).lines.items.countP (·.severity = severity)
      ≤ s.lines.items.countP (·.severity = severity)
        + op.line?.toList.countP (·.severity = severity) := by
    rw [← List.countP_append]
    exact (items_apply_suffix s op).sublist.countP_le
  by_cases hclear : op = .clear
  · subst hclear
    simp [apply, clear]
  have hcounts : (s.apply op).counts = op.event?.elim s.counts s.counts.bump := by
    rw [apply_eq]
    exact if_neg hclear
  rcases op.event?_cases with ⟨hevent, hplain⟩ | ⟨line, hline, hevent⟩
  · have hnone : op.line?.toList.countP (·.severity = severity) = 0 := by
      rw [List.countP_eq_zero]
      intro line hline
      rw [hplain line (by simpa using hline), decide_eq_true_eq]
      exact Ne.symm hne
    rw [hcounts, hevent, Option.elim_none]
    omega
  · simp only [hline, Option.toList_some, List.countP_singleton, decide_eq_true_eq] at hlines
    rw [hcounts, hevent, Option.elim_some, Counts.get_bump, Counts.saturate]
    by_cases hsame : severity = line.severity
    · rw [if_pos hsame.symm] at hlines
      rw [if_pos hsame]
      omega
    · rw [if_neg (Ne.symm hsame)] at hlines
      rw [if_neg hsame]
      omega

/-- A count that stands at the limit is still no less than the lines there is room for. -/
lemma countP_le_of_room (hroom : s.lines.capacity ≤ Counter.limit) {severity : Severity}
    (h : min (s.lines.items.countP (·.severity = severity)) Counter.limit
      ≤ s.counts.get severity) :
    s.lines.items.countP (·.severity = severity) ≤ s.counts.get severity := by
  have hlength : s.lines.items.countP (·.severity = severity) ≤ s.lines.capacity :=
    Nat.le_trans List.countP_le_length s.lines.length_le
  omega

/-- What a log shows agrees with what it counts. -/
structure Consistent (s : Sink) : Prop where
  showable  : ∀ line ∈ s.lines.items, line.Showable
  /-- Of every severity with a tag there are no more lines than events counted, as far as can be
  counted. -/
  saturated : ∀ severity, severity ≠ .verbose →
    min (s.lines.items.countP (·.severity = severity)) Counter.limit ≤ s.counts.get severity
  /-- With no more room than can be counted, there are never more. -/
  counted   : s.lines.capacity ≤ Counter.limit → ∀ severity, severity ≠ .verbose →
    s.lines.items.countP (·.severity = severity) ≤ s.counts.get severity

lemma consistent_empty (capacity : Nat) (autoShow : AutoShow) :
    Consistent (empty capacity autoShow) where
  showable  := by simp [empty]
  saturated := by simp [empty]
  counted   := by simp [empty]

theorem Consistent.apply (h : Consistent s) (op : Op) : Consistent (s.apply op) := by
  have hsaturated (severity : Severity) (hne : severity ≠ .verbose) :=
    countP_apply_le hne (h.saturated severity hne) op
  refine ⟨fun line hline => ?_, hsaturated, fun hroom severity hne =>
    countP_le_of_room hroom (hsaturated severity hne)⟩
  rcases List.mem_append.mp ((items_apply_suffix s op).subset hline) with hold | hnew
  · exact h.showable line hold
  · exact Op.showable_of_line? (by simpa using hnew)

/-! ### Whole runs -/

/-- In every log that operations lead to, no line is blank, the lines of severities with a tag bear
it, and there are no more of them than events counted. -/
theorem consistent_applyAll (capacity : Nat) (autoShow : AutoShow) (ops : List Op) :
    Consistent ((empty capacity autoShow).applyAll ops) := by
  induction ops using List.reverseRecOn with
  | nil => exact consistent_empty capacity autoShow
  | append_singleton ops op ih =>
    rw [applyAll_append, applyAll_cons, applyAll_nil]
    exact ih.apply op

end Sink

end DebugConsole
