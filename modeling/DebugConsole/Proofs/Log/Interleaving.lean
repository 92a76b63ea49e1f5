import DebugConsole.Proofs.Log.Run

/-!
# A log shared by several producers

Every producer has a handle of the same log, and an operation takes effect as a whole. What the
producers do together is therefore a run of operations, each with the producer it comes from, in
the order in which they took effect; a statement about every such run is a statement about every
number of producers and every interleaving of what they do.
-/

namespace DebugConsole.Sink

universe u

variable {ι : Type u}

/-- The operations of all producers, in the order in which they took effect. -/
def allOps (run : List (ι × Op)) : List Op := run.map (·.2)

/-- The lines that the operations append, each with its producer. -/
def appended (run : List (ι × Op)) : List (ι × LogLine) :=
  run.filterMap fun e => e.2.line?.map (e.1, ·)

lemma map_snd_appended (run : List (ι × Op)) :
    (appended run).map (·.2) = (allOps run).filterMap Op.line? := by
  rw [appended, allOps, List.map_filterMap, List.filterMap_map]
  congr 1
  funext e
  simp [Option.map_map, Function.comp_def]

variable [DecidableEq ι]

/-- The operations of one producer, in its own order. -/
def ownOps (i : ι) (run : List (ι × Op)) : List Op := (run.filter (·.1 = i)).map (·.2)

/-- The part of one producer in a list of lines with their producers. -/
def ownLines (i : ι) (lines : List (ι × LogLine)) : List LogLine :=
  (lines.filter (·.1 = i)).map (·.2)

lemma ownLines_appended (i : ι) (run : List (ι × Op)) :
    ownLines i (appended run) = (ownOps i run).filterMap Op.line? := by
  induction run with
  | nil => rfl
  | cons e run ih =>
    obtain ⟨j, op⟩ := e
    simp only [ownLines, appended, ownOps] at ih ⊢
    by_cases hj : j = i <;> cases hline : op.line? <;> simp [hj, hline, ih]

/-- What remains of the lines of several producers at the end keeps, of each of them, its newest
lines in its own order. -/
lemma ownLines_suffix (i : ι) {kept lines : List (ι × LogLine)} (h : kept <:+ lines) :
    ownLines i kept <:+ ownLines i lines :=
  (h.filter _).map _

/-- A log that several producers write to, after any interleaving of their operations on an empty
log. The run may be followed by anything, so this tells also what every request for the signals on
the way reports. -/
structure SharedLog (capacity : Nat) (autoShow : AutoShow) (run : List (ι × Op)) (s : Sink) :
    Prop where
  /-- The retained lines are the last ones appended by anyone, as many as the window tells. -/
  lines   : s.lines.items
    = keepLast (window capacity (allOps run)).size ((allOps run).filterMap Op.line?)
  size    : s.lines.items.length = (window capacity (allOps run)).size
  /-- Of each producer the newest lines are retained, in its own order. -/
  own     : ∃ kept : List (ι × LogLine), kept.map (·.2) = s.lines.items ∧ kept <:+ appended run ∧
    ∀ i, ownLines i kept <:+ (ownOps i run).filterMap Op.line?
  /-- A count is the number of events accepted since the last clear, up to the limit. -/
  counts  : ∀ severity, s.counts.get severity
    = min (((since .clear (allOps run)).filterMap Op.event?).count severity) Counter.limit
  /-- The same events in another order leave the same counts, whatever else is done in between and
  however many lines are kept. -/
  order   : ∀ (capacity' : Nat) (autoShow' : AutoShow) (run' : List (ι × Op)),
    ((since .clear (allOps run')).filterMap Op.event?).Perm
        ((since .clear (allOps run)).filterMap Op.event?) →
      ((empty capacity' autoShow').applyAll (allOps run')).counts = s.counts
  /-- Plain lines are not counted. -/
  plain   : ∀ text style,
    (s.apply (.log text)).counts = s.counts ∧ (s.apply (.logStyled text style)).counts = s.counts
  scroll  : s.takeSignals.2.scroll = true ↔
    ∃ op ∈ since .takeSignals (allOps run), op.line?.isSome = true
  reveal  : s.takeSignals.2.reveal = true ↔ Revealed autoShow (allOps run)

lemma counts_ext {m n : Counts} (h : ∀ severity, m.get severity = n.get severity) : m = n := by
  cases m
  cases n
  rw [Counts.mk.injEq]
  exact ⟨h .verbose, h .warning, h .error, h .exception⟩

/-- What a shared log holds, counts and signals is told by the order in which the operations took
effect, for any producers and any interleaving. -/
theorem sharedLog_applyAll (capacity : Nat) (autoShow : AutoShow) (run : List (ι × Op)) :
    SharedLog capacity autoShow run ((empty capacity autoShow).applyAll (allOps run)) := by
  have h := shows_applyAll capacity autoShow (allOps run)
  constructor
  case lines => exact h.kept.items
  case size => exact h.kept.size
  case own =>
    set n := (window capacity (allOps run)).size
    have hkept : keepLast n (appended run) <:+ appended run := keepLast_suffix n (appended run)
    refine ⟨keepLast n (appended run), ?_, hkept, fun i => ?_⟩
    · rw [h.kept.items, ← map_snd_appended, map_keepLast]
    · rw [← ownLines_appended]
      exact ownLines_suffix i hkept
  case counts => exact h.counted
  case order =>
    intro capacity' autoShow' run' hperm
    refine counts_ext fun severity => ?_
    rw [(shows_applyAll capacity' autoShow' (allOps run')).counted, h.counted,
      hperm.count_eq severity]
  case plain =>
    intro text style
    rw [apply_eq, apply_eq]
    exact ⟨rfl, rfl⟩
  case scroll => exact h.scroll
  case reveal => exact h.reveal

end DebugConsole.Sink
