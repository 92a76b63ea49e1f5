import DebugConsole.Proofs.Log.Routing

/-!
# Targets of records

The console reports under its name and under the paths of modules below it, and its own records are
not copied. Which targets are its own is told by their first characters, so the records of a part of
the program whose name goes on where that of the console ends are lost as well.
-/

namespace DebugConsole

/-- A target of the console itself: its name, or the path of a module below it. -/
def IsOwnTarget (target : String) : Prop :=
  target = consoleTarget ∨ (consoleTarget ++ "::").toList <+: target.toList

instance : DecidablePred IsOwnTarget := fun _ => inferInstanceAs (Decidable (_ ∨ _))

namespace Logger

variable {l : Logger} {r : Record}

/-- A log shows the line of a record and counts it, or the record is a verbose one without a
message. -/
structure Delivers (l : Logger) (r : Record) (s : Sink) : Prop where
  shown   : (l.copy r s).lines = r.line?.elim s.lines s.lines.push
  counted : (l.copy r s).counts = r.line?.elim s.counts fun line => s.counts.bump line.severity

lemma delivers_of_copies (h : l.Copies r) (s : Sink) : l.Delivers r s := by
  have hcopy : l.copy r s = s.apply r.event := if_pos (forwards_iff.mpr h)
  constructor
  case shown => rw [hcopy, Record.lines_apply_event]
  case counted => rw [hcopy, Record.counts_apply_event]

lemma copy_of_not_copies (h : ¬ l.Copies r) (s : Sink) : l.copy r s = s :=
  if_neg (mt forwards_iff.mp h)

/-- A line that is missing is missed where there is room for it. -/
lemma line?_eq_none_of_delivers (h : ¬ l.Copies r) (hdelivers : l.Delivers r (.empty 1 {})) :
    r.line? = none := by
  have hshown := hdelivers.shown
  rw [copy_of_not_copies h] at hshown
  cases hline : r.line? with
  | none => rfl
  | some line =>
    rw [hline] at hshown
    exact absurd (congrArg Bounded.items hshown) (by simp [Sink.empty, keepLast])

/-- A foreign target is taken for one of the console's own if it goes on behind the console's name,
and not with a path. -/
lemma prefix_iff_of_foreign {target : String} (hforeign : ¬ IsOwnTarget target) :
    consoleTarget.toList <+: target.toList ↔
      ∃ c rest, target.toList = consoleTarget.toList ++ c :: rest ∧ ¬ [':', ':'] <+: c :: rest := by
  rw [IsOwnTarget, not_or, String.toList_append] at hforeign
  obtain ⟨hname, hpath⟩ := hforeign
  constructor
  · rintro ⟨rest, hrest⟩
    cases rest with
    | nil =>
      rw [List.append_nil] at hrest
      exact absurd (String.toList_inj.mp hrest.symm) hname
    | cons c rest =>
      refine ⟨c, rest, hrest.symm, fun hbelow => hpath ?_⟩
      rw [← hrest]
      exact (List.prefix_append_right_inj _).mpr hbelow
  · rintro ⟨c, rest, hrest, -⟩
    exact ⟨c :: rest, hrest.symm⟩

/-- What becomes of the records of a foreign part of the program at a level that is copied. -/
structure ForeignRecord (l : Logger) (r : Record) : Prop where
  /-- Every log gets them, but for those whose target starts with the name of the console. -/
  delivered : (∀ s, l.Delivers r s) ↔
    r.line? = none ∨ ¬ consoleTarget.toList <+: r.target.toList
  /-- Those are lost. -/
  lost      : consoleTarget.toList <+: r.target.toList → ∀ s, l.copy r s = s
  misnamed  : consoleTarget.toList <+: r.target.toList ↔
    ∃ c rest, r.target.toList = consoleTarget.toList ++ c :: rest ∧ ¬ [':', ':'] <+: c :: rest

theorem foreignRecord (l : Logger) (r : Record) (hlevel : l.level.admits r.level = true)
    (hforeign : ¬ IsOwnTarget r.target) : l.ForeignRecord r := by
  have hcopies : l.Copies r ↔ ¬ consoleTarget.toList <+: r.target.toList :=
    and_iff_right hlevel
  constructor
  case delivered =>
    rw [← hcopies]
    constructor
    · intro hdelivers
      by_cases h : l.Copies r
      · exact .inr h
      · exact .inl (line?_eq_none_of_delivers h (hdelivers _))
    · rintro (hline | h) s
      · by_cases h : l.Copies r
        · exact delivers_of_copies h s
        · constructor <;> rw [copy_of_not_copies h, hline, Option.elim_none]
      · exact delivers_of_copies h s
  case lost => exact fun hprefix => copy_of_not_copies fun h => hcopies.mp h hprefix
  case misnamed => exact prefix_iff_of_foreign hforeign

/-- A warning of the game is delivered, blank as it is. -/
theorem foreignRecord_game :
    let l : Logger := {}
    let r : Record := ⟨⟨.warn, "game"⟩, " "⟩
    l.level.admits r.level = true ∧ ¬ IsOwnTarget r.target ∧ l.ForeignRecord r ∧
      ∀ s, l.Delivers r s :=
  have foreign := foreignRecord {} ⟨⟨.warn, "game"⟩, " "⟩ (by decide) (by decide)
  ⟨by decide, by decide, foreign, foreign.delivered.mpr (.inr (by decide))⟩

/-- A warning of a part whose name only starts like the console's is lost. -/
theorem similarTarget_lost :
    ¬ ∀ (l : Logger) (r : Record) (s : Sink),
      l.level.admits r.level = true → ¬ IsOwnTarget r.target → l.Delivers r s := by
  intro h
  have hshown := (h {} ⟨⟨.warn, "devcon_consoles"⟩, "disk full"⟩ (.empty 4 {})
    (by decide) (by decide)).shown
  exact absurd (congrArg Bounded.items hshown) (by decide)

end Logger

end DebugConsole
