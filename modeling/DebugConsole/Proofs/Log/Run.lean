import DebugConsole.Log.Sink
import DebugConsole.Proofs.Bounded.Window
import Mathlib.Data.List.Induction

/-!
# Runs of log operations

What a log holds after any run of operations, told by the run alone: the lines that operations
append, the events that are counted, and a window that says how many of the lines are kept. An
operation extends the run by one, so what a whole run leaves follows from what each operation does.
-/

namespace DebugConsole

universe u

/-- The part of a run after the last occurrence of an operation. -/
def since {α : Type u} [DecidableEq α] (last : α) (ops : List α) : List α :=
  (ops.reverse.takeWhile (· ≠ last)).reverse

section

variable {α : Type u} [DecidableEq α] {last op : α} {ops : List α}

@[simp] lemma since_nil : since last [] = [] := rfl

@[simp] lemma since_append_self : since last (ops ++ [last]) = [] := by simp [since]

lemma since_append_of_ne (h : op ≠ last) : since last (ops ++ [op]) = since last ops ++ [op] := by
  simp [since, h]

end

/-- Something has happened in a run, told by the operations up to it, and no operation has ended it
since. -/
def HappenedSince {α : Type u} (ends : α → Prop) (happens : List α → α → Prop) (ops : List α) :
    Prop :=
  ∃ before op after, ops = before ++ op :: after ∧ (∀ later ∈ after, ¬ ends later) ∧
    happens before op

section

variable {α : Type u} {ends : α → Prop} {happens : List α → α → Prop} {ops : List α} {op : α}

lemma not_happenedSince_nil : ¬ HappenedSince ends happens [] := by
  rintro ⟨before, op, after, hops, -⟩
  simp at hops

/-- What happened, happened at the last operation or is not ended by it. -/
lemma happenedSince_append_singleton :
    HappenedSince ends happens (ops ++ [op]) ↔
      happens ops op ∨ (¬ ends op ∧ HappenedSince ends happens ops) := by
  constructor
  · rintro ⟨before, first, after, hops, hafter, hfirst⟩
    rcases List.eq_nil_or_concat after with rfl | ⟨after, last, rfl⟩
    · obtain ⟨rfl, hop⟩ := List.append_inj' hops rfl
      obtain rfl : op = first := by simpa using hop
      exact .inl hfirst
    · rw [List.concat_eq_append, ← List.cons_append, ← List.append_assoc] at hops
      obtain ⟨rfl, hop⟩ := List.append_inj' hops rfl
      obtain rfl : op = last := by simpa using hop
      simp only [List.concat_eq_append, List.forall_mem_append, List.forall_mem_singleton] at hafter
      exact .inr ⟨hafter.2, before, first, after, rfl, hafter.1, hfirst⟩
  · rintro (hop | ⟨hop, before, first, after, rfl, hafter, hfirst⟩)
    · exact ⟨ops, op, [], rfl, by simp, hop⟩
    · refine ⟨before, first, after ++ [op], by simp, ?_, hfirst⟩
      simpa [or_imp, forall_and] using ⟨hafter, hop⟩

end

namespace Sink

/-! ### What a run tells -/

namespace Op

def line? : Op → Option LogLine
  | .log text                        =>
      if Text.isBlankText text then none else some { text, severity := .verbose, style := .plain }
  | .logStyled text style            =>
      if Text.isBlankText text then none else some { text, severity := .verbose, style }
  | .receive message detail severity =>
      if accepts message severity then some (eventLine message detail severity) else none
  | _                                => none

/-- The severity that an operation counts, if any. -/
def event? : Op → Option Severity
  | .receive message _ severity => if accepts message severity then some severity else none
  | _                           => none

/-- The severities that open the console from an operation on, if it changes them. -/
def autoShow? : Op → Option AutoShow
  | .setAutoShow autoShow => some autoShow
  | _                     => none

end Op

/-- The window over the lines of a log after an operation. -/
def Op.slide (w : Window) : Op → Window
  | .setCapacity capacity => w.setCapacity capacity
  | .clear                => w.clear
  | op                    => if op.line?.isSome then w.push else w

/-- The window over the lines of a log after a run on an empty log. -/
def window (capacity : Nat) (ops : List Op) : Window := ops.foldl Op.slide (.empty capacity)

/-- The severities that open the console after a run. -/
def autoShowAfter (autoShow : AutoShow) (ops : List Op) : AutoShow :=
  ops.foldl (fun a op => op.autoShow?.getD a) autoShow

/-- An event arrived since the signals were taken last, and its severity opened the console by the
setting in force when it arrived. -/
def Revealed (autoShow : AutoShow) (ops : List Op) : Prop :=
  ∃ before message detail severity after,
    ops = before ++ .receive message detail severity :: after ∧ .takeSignals ∉ after ∧
      (autoShowAfter autoShow before).appliesTo severity = true

@[simp] lemma window_append_singleton (capacity : Nat) (ops : List Op) (op : Op) :
    window capacity (ops ++ [op]) = op.slide (window capacity ops) := by
  simp [window]

@[simp] lemma autoShowAfter_append_singleton (autoShow : AutoShow) (ops : List Op) (op : Op) :
    autoShowAfter autoShow (ops ++ [op]) = op.autoShow?.getD (autoShowAfter autoShow ops) := by
  simp [autoShowAfter]

lemma revealed_iff {autoShow : AutoShow} {ops : List Op} :
    Revealed autoShow ops ↔ HappenedSince (· = .takeSignals) (fun before op =>
      ∃ message detail severity, op = .receive message detail severity ∧
        (autoShowAfter autoShow before).appliesTo severity = true) ops := by
  constructor
  · rintro ⟨before, message, detail, severity, after, hops, htake, happlies⟩
    exact ⟨before, _, after, hops, by rintro _ hlater rfl; exact htake hlater,
      message, detail, severity, rfl, happlies⟩
  · rintro ⟨before, _, after, hops, htake, message, detail, severity, rfl, happlies⟩
    exact ⟨before, message, detail, severity, after, hops, fun hlater => htake _ hlater rfl,
      happlies⟩

/-- The last operation raises the request itself, or leaves it standing by not taking it. -/
lemma revealed_append_singleton {autoShow : AutoShow} {ops : List Op} {op : Op} :
    Revealed autoShow (ops ++ [op]) ↔
      (∃ message detail severity, op = .receive message detail severity ∧
        (autoShowAfter autoShow ops).appliesTo severity = true) ∨
      (op ≠ .takeSignals ∧ Revealed autoShow ops) := by
  rw [revealed_iff, revealed_iff, happenedSince_append_singleton]

/-! ### What one operation does -/

/-- What an operation does to each part of a log. -/
lemma apply_eq (s : Sink) (op : Op) :
    s.apply op =
      { lines    := match op with
          | .setCapacity capacity => s.lines.setCapacity capacity
          | .clear                => s.lines.clear
          | op                    => op.line?.elim s.lines s.lines.push
        counts   := if op = .clear then {} else op.event?.elim s.counts s.counts.bump
        autoShow := op.autoShow?.getD s.autoShow
        signals  := if op = .takeSignals then {} else
          { scroll := s.signals.scroll || op.line?.isSome
            reveal := s.signals.reveal || op.event?.any s.autoShow.appliesTo } } := by
  cases op with
  | log text =>
    by_cases h : Text.isBlankText text <;>
      simp [apply, log, logStyled, append, h, Op.line?, Op.event?, Op.autoShow?]
  | logStyled text style =>
    by_cases h : Text.isBlankText text <;>
      simp [apply, logStyled, append, h, Op.line?, Op.event?, Op.autoShow?]
  | receive message detail severity =>
    by_cases h : accepts message severity <;>
      simp [apply, receive, append, h, Op.line?, Op.event?, Op.autoShow?]
  | _ =>
    simp [apply, clear, setCapacity, setAutoShow, takeSignals, Op.line?, Op.event?, Op.autoShow?]

/-- An operation that neither resizes nor clears a log appends its line, if it has one. -/
lemma lines_apply (s : Sink) (op : Op) :
    (∃ capacity, op = .setCapacity capacity ∧ (s.apply op).lines = s.lines.setCapacity capacity) ∨
      (op = .clear ∧ (s.apply op).lines = s.lines.clear) ∨
      (s.apply op).lines = op.line?.elim s.lines s.lines.push := by
  rw [apply_eq]
  cases op with
  | setCapacity capacity => exact .inl ⟨capacity, rfl, rfl⟩
  | clear                => exact .inr (.inl ⟨rfl, rfl⟩)
  | _                    => exact .inr (.inr rfl)

/-- An event that is not accepted is verbose, so it would not open the console. -/
lemma event?_any_appliesTo {autoShow : AutoShow} {op : Op} :
    op.event?.any autoShow.appliesTo = true ↔
      ∃ message detail severity, op = .receive message detail severity ∧
        autoShow.appliesTo severity = true := by
  cases op with
  | receive message detail severity =>
    by_cases h : accepts message severity
    · simp [Op.event?, h]
    · obtain rfl : severity = .verbose := by
        by_contra hne
        simp [accepts, hne] at h
      simp [Op.event?, h, AutoShow.appliesTo]
  | _ => simp [Op.event?]

/-! ### What a run leaves -/

/-- The log after a run on an empty log, told by the run. -/
structure Shows (capacity : Nat) (autoShow : AutoShow) (ops : List Op) (s : Sink) : Prop where
  kept    : s.lines.Keeps (window capacity ops) (ops.filterMap Op.line?)
  counted : ∀ severity, s.counts.get severity
    = min (((since .clear ops).filterMap Op.event?).count severity) Counter.limit
  setting : s.autoShow = autoShowAfter autoShow ops
  scroll  : s.signals.scroll = true ↔ ∃ op ∈ since .takeSignals ops, op.line?.isSome = true
  reveal  : s.signals.reveal = true ↔ Revealed autoShow ops

section

variable {capacity : Nat} {autoShow : AutoShow} {ops : List Op} {s : Sink}

lemma shows_empty (capacity : Nat) (autoShow : AutoShow) :
    Shows capacity autoShow [] (empty capacity autoShow) where
  kept    := .empty capacity
  counted := fun severity => by cases severity <;> rfl
  setting := rfl
  scroll  := by simp [empty]
  reveal  := by simp [empty, Revealed]

/-- A line that is appended is the newest one, also when the window has no room for it. -/
lemma Shows.kept_apply (h : Shows capacity autoShow ops s) (op : Op) :
    (s.apply op).lines.Keeps (window capacity (ops ++ [op]))
      ((ops ++ [op]).filterMap Op.line?) := by
  have happend (line : Option LogLine) : (line.elim s.lines s.lines.push).Keeps
      (if line.isSome then (window capacity ops).push else window capacity ops)
      (ops.filterMap Op.line? ++ line.toList) := by
    cases line with
    | none      => simpa using h.kept
    | some line => simpa using h.kept.push line
  have hlines : (ops ++ [op]).filterMap Op.line? = ops.filterMap Op.line? ++ op.line?.toList := by
    rw [List.filterMap_append]
    cases hline : op.line? <;> simp [hline]
  rw [window_append_singleton, hlines, apply_eq]
  cases op with
  | log text                        => exact happend (Op.log text).line?
  | logStyled text style            => exact happend (Op.logStyled text style).line?
  | receive message detail severity => exact happend (Op.receive message detail severity).line?
  | clear                => simpa [Op.slide, Op.line?] using h.kept.clear
  | setCapacity capacity => simpa [Op.slide, Op.line?] using h.kept.setCapacity capacity
  | setAutoShow autoShow => exact happend none
  | takeSignals          => exact happend none

/-- An event is counted whether or not its line is kept. -/
lemma Shows.counted_apply (h : Shows capacity autoShow ops s) (op : Op) (severity : Severity) :
    (s.apply op).counts.get severity
      = min (((since .clear (ops ++ [op])).filterMap Op.event?).count severity) Counter.limit := by
  rw [apply_eq]
  by_cases hclear : op = .clear
  · subst hclear
    cases severity <;> simp [Counts.get]
  rw [since_append_of_ne hclear, List.filterMap_append, List.count_append]
  cases hevent : op.event? with
  | none => simpa [hclear, hevent] using h.counted severity
  | some event =>
    have hlast : [op].filterMap Op.event? = [event] := by simp [hevent]
    rw [hlast, if_neg hclear, Option.elim_some, Counts.get_bump, h.counted]
    by_cases hsame : severity = event
    · rw [if_pos hsame, hsame, List.count_singleton_self, Counts.saturate]
      omega
    · simp [hsame, Ne.symm hsame]

/-- Nothing but taking the signals withdraws a request to scroll. -/
lemma Shows.scroll_apply (h : Shows capacity autoShow ops s) (op : Op) :
    (s.apply op).signals.scroll = true ↔
      ∃ op' ∈ since .takeSignals (ops ++ [op]), op'.line?.isSome = true := by
  rw [apply_eq]
  by_cases htake : op = .takeSignals
  · simp [htake]
  · simp [htake, since_append_of_ne htake, h.scroll, or_and_right, exists_or]

/-- The setting in force when an event arrives decides on its request, no later one. -/
lemma Shows.reveal_apply (h : Shows capacity autoShow ops s) (op : Op) :
    (s.apply op).signals.reveal = true ↔ Revealed autoShow (ops ++ [op]) := by
  rw [apply_eq, revealed_append_singleton, ← event?_any_appliesTo, ← h.reveal, ← h.setting]
  by_cases htake : op = .takeSignals
  · simp [htake, Op.event?]
  · simp [htake, or_comm]

/-- An operation extends the run by one. -/
theorem Shows.apply (h : Shows capacity autoShow ops s) (op : Op) :
    Shows capacity autoShow (ops ++ [op]) (s.apply op) where
  kept    := h.kept_apply op
  counted := h.counted_apply op
  setting := by rw [autoShowAfter_append_singleton, apply_eq, h.setting]
  scroll  := h.scroll_apply op
  reveal  := h.reveal_apply op

/-- A run on an empty log leaves what the run tells. -/
theorem shows_applyAll (capacity : Nat) (autoShow : AutoShow) (ops : List Op) :
    Shows capacity autoShow ops ((empty capacity autoShow).applyAll ops) := by
  induction ops using List.reverseRecOn with
  | nil => exact shows_empty capacity autoShow
  | append_singleton ops op ih =>
    rw [applyAll_append, applyAll_cons, applyAll_nil]
    exact ih.apply op

end

end Sink

end DebugConsole
