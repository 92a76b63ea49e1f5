import DebugConsole.Proofs.HostAction.Reading

/-!
# Spelling actions

The plainest line of an action asks for that action, if any line does. An argument is read back as
it is when it has no blanks around it, however many blanks stand around it in the line. Groups are
named by such texts, so there is a line for every group.
-/

namespace DebugConsole.HostAction

open Text (isBlank isBlankText strip)

/-! ### Lines with a colon -/

lemma ofLine?_of_strip {line : String} {rest : List Char} (h : strip line.toList = ':' :: rest) :
    ofLine? line = some (ofKey (rest.takeWhile (!isBlank ·))
      (strip (rest.dropWhile (!isBlank ·))) rest) := by
  rw [ofLine?, h]
  rfl

/-- Only a line that starts with a colon, behind blanks, asks for anything. -/
lemma ofLine?_eq_none_iff {line : String} :
    ofLine? line = none ↔ (Text.trim line).toList.head? ≠ some ':' := by
  rw [Text.trim, String.toList_ofList]
  constructor
  · intro hnone hcolon
    obtain ⟨rest, hrest⟩ := List.head?_eq_some_iff.mp hcolon
    rw [ofLine?_of_strip hrest] at hnone
    exact Option.some_ne_none _ hnone
  · intro hcolon
    unfold ofLine?
    split
    case h_1 rest hrest => exact absurd (by rw [hrest, List.head?_cons]) hcolon
    case h_2 => rfl

lemma exists_rest {line : String} {action : HostAction} (h : ofLine? line = some action) :
    ∃ rest, strip line.toList = ':' :: rest := by
  have hcolon : (strip line.toList).head? = some ':' := by
    by_contra hcolon
    rw [← String.toList_ofList (l := strip line.toList), ← Text.trim, ← ne_eq,
      ← ofLine?_eq_none_iff, h] at hcolon
    cases hcolon
  exact List.head?_eq_some_iff.mp hcolon

/-! ### Arguments -/

/-- The key of an action and its argument, if the action has one. -/
def keyed? : HostAction → Option (String × String)
  | .preset index   => some ("preset", toString index)
  | .group name     => some ("group", name)
  | .complete start => some ("complete", start)
  | .flash text     => some ("flash", text)
  | _               => none

/-- An action that can be asked for: positions are machine words, and there are no blanks around a
text. -/
def WellFormed : HostAction → Prop
  | .preset index   => index < UInt64.size
  | .group name     => Text.trim name = name
  | .complete start => Text.trim start = start
  | .flash text     => Text.trim text = text
  | _               => True

/-- A line of a key and an argument. Blanks may stand around it, and some stand between the two. -/
def Spells (line key arg : String) : Prop :=
  ∃ before gap after, line = before ++ ":" ++ key ++ gap ++ arg ++ after ∧ gap ≠ "" ∧
    isBlankText before = true ∧ isBlankText gap = true ∧ isBlankText after = true

/-- What an action tells about the argument it was read from, and about everything behind the
colon. -/
def ReadFrom (arg rest : List Char) : HostAction → Prop
  | .preset index   => index? arg = some index
  | .group name     => name = String.ofList arg
  | .complete start => start = String.ofList arg
  | .flash text     => text = String.ofList arg
  | .unknown key    => key = String.ofList rest
  | _               => True

lemma readFrom_ofKey (key arg rest : List Char) : (ofKey key arg rest).ReadFrom arg rest := by
  unfold ofKey
  split
  case h_10 =>
    cases hindex : index? arg with
    | none => rfl
    | some index => exact hindex
  all_goals trivial

/-- An action is well-formed if it was read from a stripped argument. -/
lemma ReadFrom.wellFormed {arg rest : List Char} {action : HostAction}
    (h : action.ReadFrom (strip arg) rest) : action.WellFormed := by
  have htrim : Text.trim (String.ofList (strip arg)) = String.ofList (strip arg) := by
    rw [Text.trim, String.toList_ofList, Text.strip_strip]
  cases action with
  | preset index => exact (index?_eq_some_iff.mp h).lt
  | group name => exact (congrArg Text.trim h).trans (htrim.trans h.symm)
  | complete start => exact (congrArg Text.trim h).trans (htrim.trans h.symm)
  | flash text => exact (congrArg Text.trim h).trans (htrim.trans h.symm)
  | _ => trivial

lemma wellFormed_of_ofLine? {line : String} {action : HostAction}
    (h : ofLine? line = some action) : action.WellFormed := by
  obtain ⟨rest, hrest⟩ := exists_rest h
  rw [ofLine?_of_strip hrest] at h
  obtain rfl := Option.some.inj h
  exact (readFrom_ofKey ..).wellFormed

/-! ### Reading what was spelled -/

section

variable {action : HostAction} {key arg : String}

lemma solid_key (h : action.keyed? = some (key, arg)) :
    key.toList ≠ [] ∧ ∀ c ∈ key.toList, isBlank c = false := by
  cases action <;> cases h <;> simp [isBlank]

lemma ofKey_of_keyed (h : action.keyed? = some (key, arg)) (hformed : action.WellFormed)
    (rest : List Char) : ofKey key.toList (strip arg.toList) rest = action := by
  cases action with
  | preset index =>
    cases h
    have hindex : index? (strip (toString index).toList) = some index :=
      index?_eq_some_iff.mpr (namesIndex_toString hformed)
    rw [ofKey, String.ofList_toList]
    simp only [hindex]
  | group name => cases h; exact congrArg group hformed
  | complete start => cases h; exact congrArg complete hformed
  | flash text => cases h; exact congrArg flash hformed
  | _ => cases h

/-- However it is spelled, an action with an argument is read from its line. -/
theorem ofLine?_of_spells (h : action.keyed? = some (key, arg)) (hformed : action.WellFormed)
    {line : String} (hline : Spells line key arg) : ofLine? line = some action := by
  obtain ⟨before, gap, after, rfl, hgap, hbefore, hblank, hafter⟩ := hline
  rw [isBlankText, List.all_eq_true] at hbefore hblank hafter
  obtain ⟨b, bs, hbs⟩ := List.exists_cons_of_ne_nil (mt String.toList_eq_nil_iff.mp hgap)
  rw [hbs, List.forall_mem_cons] at hblank
  have hstrip : strip (before ++ ":" ++ key ++ gap ++ arg ++ after).toList
      = strip (':' :: (key.toList ++ b :: (bs ++ arg.toList ++ after.toList))) := by
    simp only [String.toList_append, hbs, List.append_assoc]
    rw [Text.strip_append_of_blank hbefore]
    rfl
  have harg : strip (bs ++ arg.toList ++ after.toList) = strip arg.toList := by
    rw [Text.strip_append_of_blank_right hafter, Text.strip_append_of_blank hblank.2]
  obtain ⟨hne, hkey⟩ := solid_key h
  rw [ofLine?_key hstrip hblank.1 hne hkey, harg, ofKey_of_keyed h hformed]

/-- The plainest line spells its action, with one space behind the key. -/
lemma spells_line (h : action.keyed? = some (key, arg)) : Spells action.line key arg := by
  refine ⟨"", " ", "", ?_, by decide, by decide, by decide, by decide⟩
  rw [String.empty_append, String.append_empty]
  cases action <;> cases h <;> rfl

end

/-- The plainest line of an action asks for it, if there is a line that does. -/
theorem ofLine?_line {text : String} {action : HostAction} (h : ofLine? text = some action) :
    ofLine? action.line = some action := by
  have hformed := wellFormed_of_ofLine? h
  cases action with
  | preset index   => exact ofLine?_of_spells rfl hformed (spells_line rfl)
  | group name     => exact ofLine?_of_spells rfl hformed (spells_line rfl)
  | complete start => exact ofLine?_of_spells rfl hformed (spells_line rfl)
  | flash text     => exact ofLine?_of_spells rfl hformed (spells_line rfl)
  | unknown key    =>
    -- The key is everything behind the colon, so the plainest line is the given one, stripped.
    obtain ⟨rest, hrest⟩ := exists_rest h
    have hread := (ofLine?_of_strip hrest).symm.trans h
    have hkey : key = String.ofList rest := by
      have hfrom := readFrom_ofKey (rest.takeWhile (!isBlank ·))
        (strip (rest.dropWhile (!isBlank ·))) rest
      rwa [Option.some.inj hread] at hfrom
    have hstrip : strip (line (.unknown key)).toList = ':' :: rest := by
      have hline : (line (.unknown key)).toList = strip text.toList := by
        rw [line, hkey, String.toList_append, String.toList_ofList (l := rest), hrest]
        rfl
      rw [hline, Text.strip_strip, hrest]
    exact (ofLine?_of_strip hstrip).trans hread
  | _ => decide

/-! ### The laws -/

/-- How lines and actions go together. -/
structure LineLaws : Prop where
  /-- A line asks for something if and only if it starts with a colon. -/
  silent   : ∀ line, ofLine? line = none ↔ (Text.trim line).toList.head? ≠ some ':'
  /-- What a line asks for, the plainest line of that action asks for too. -/
  plainest : ∀ (line : String) (action : HostAction), ofLine? line = some action →
    ofLine? action.line = some action
  /-- The plainest line is one of those that spell an action. -/
  spelled  : ∀ (action : HostAction) (key arg : String), action.keyed? = some (key, arg) →
    Spells action.line key arg
  /-- Any line that spells an action with an argument asks for it, if its position is a machine word
  or its text has no blanks around it. -/
  read     : ∀ (action : HostAction) (key arg : String), action.keyed? = some (key, arg) →
    action.WellFormed → ∀ line, Spells line key arg → ofLine? line = some action
  /-- There is a line for every group of presets, whatever it is called, and the line expands that
  group or collapses it, and does nothing else. -/
  groups   : ∀ (presets : Catalog), ∀ e ∈ presets.entries, ∀ name ∈ e.group, ∃ line,
    ∀ (η : Type) [Handler η] (c : Console η) (facade : Facade), c.handleLine facade line
      = { c with expandedGroup := if c.expandedGroup = some name then none else some name }

theorem lineLaws : LineLaws := by
  constructor
  case silent => exact fun line => ofLine?_eq_none_iff
  case plainest => exact fun line action h => ofLine?_line h
  case spelled => exact fun action key arg h => spells_line h
  case read => exact fun action key arg h hformed line hline => ofLine?_of_spells h hformed hline
  case groups =>
    intro presets e he name hname
    have hformed : WellFormed (.group name) := ((presets.normal e he).group name hname).1
    have hread : ofLine? (line (.group name)) = some (.group name) :=
      ofLine?_of_spells rfl hformed (spells_line rfl)
    refine ⟨line (.group name), fun η _ c facade => ?_⟩
    rw [Console.handleLine, hread]
    rfl

/-- The blanks inside a text are part of it, those around it are not. -/
example : ofLine? " :group\u2003 Spawn  points\t" = some (.group "Spawn  points") := by decide

end DebugConsole.HostAction
