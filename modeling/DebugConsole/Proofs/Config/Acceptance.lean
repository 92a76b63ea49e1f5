import DebugConsole.Console
import DebugConsole.Proofs.Log.Writes
import DebugConsole.Proofs.Registry.Admission
import DebugConsole.Proofs.Toml.Fields
import DebugConsole.Proofs.Toml.Reading

/-!
# Acceptance of configurations

A configuration is accepted if and only if each key that is known and present has a value of its
kind, there is room for a line in the log, and the sentinel is not blank. Each setting is then what
its key gives, or the default, wherever the key stands and whatever other keys there are. A log of
accepted settings shows the line that came last, and there are prefixes that start with a sentinel
that is accepted.
-/

namespace DebugConsole.Config

open Toml (RecordField IsNatural IsBoolean IsCharacter IsStyle Holds Fits WellTyped)

/-! ### Settings and their keys -/

def capacityField : RecordField Config :=
  ⟨"log_capacity", IsNatural, 64, logCapacity, IsNatural.unique⟩

def sentinelField : RecordField Config :=
  ⟨"prefix_sentinel", IsCharacter, defaultSentinel, prefixSentinel, IsCharacter.unique⟩

/-- The settings with their keys, the kinds of their values, and their defaults. -/
def settings : List (RecordField Config) :=
  [capacityField,
    ⟨"history_capacity", IsNatural, 16, historyCapacity, IsNatural.unique⟩,
    ⟨"echo_commands", IsBoolean, false, echoCommands, IsBoolean.unique⟩,
    ⟨"auto_show_warning", IsBoolean, false, autoShowWarning, IsBoolean.unique⟩,
    ⟨"auto_show_error", IsBoolean, false, autoShowError, IsBoolean.unique⟩,
    ⟨"auto_show_exception", IsBoolean, false, autoShowException, IsBoolean.unique⟩,
    sentinelField,
    ⟨"require_sentinel", IsBoolean, true, requireSentinel, IsBoolean.unique⟩,
    ⟨"show_screen_messages", IsBoolean, true, showScreenMessages, IsBoolean.unique⟩,
    ⟨"screen_style", IsStyle, .plain, screenStyle, IsStyle.unique⟩]

variable {t : Toml.Table} {c c' : Config} {key : String} {v : Toml.Value}

lemma eq_of_settings (h : ∀ f ∈ settings, f.get c = f.get c') : c = c' := by
  simp only [settings, List.forall_mem_cons] at h
  obtain ⟨h₀, h₁, h₂, h₃, h₄, h₅, h₆, h₇, h₈, h₉, -⟩ := h
  cases c
  cases c'
  exact mk.injEq .. ▸ ⟨h₀, h₁, h₂, h₃, h₄, h₅, h₆, h₇, h₈, h₉⟩

/-- An entry sets the setting of its key and leaves the others. -/
lemma settings_after (hv : v.Distinct) (h : c.set key v = .ok c') :
    ∀ f ∈ settings, f.After key v c c' := by
  simp only [settings, List.forall_mem_cons]
  unfold set at h
  -- One key after the other is tried.
  repeat
    obtain ⟨rfl, x, hx, rfl⟩ | ⟨hne, h⟩ := Toml.eq_ok_of_ite_map h
    · and_intros
      all_goals first
        | exact .miss (by decide) rfl
        | exact .hit (Toml.natural_eq_ok_iff.mp hx)
        | exact .hit (Toml.asBoolean_eq_ok_iff.mp hx)
        | exact .hit (Toml.asCharacter_eq_ok_iff.mp hx)
        | exact .hit ((Toml.asStyle_eq_ok_iff hv).mp hx)
        | simp
  cases h
  and_intros
  all_goals first
    | exact .miss ‹_› rfl
    | simp

lemma exists_set_iff (hv : v.Distinct) : (∃ c', c.set key v = .ok c') ↔ Fits settings key v := by
  unfold set settings
  repeat
    refine Toml.exists_ite_map_iff rfl (by decide) ?_ ?_
    · first
        | exact exists_congr fun _ => Toml.natural_eq_ok_iff
        | exact exists_congr fun _ => Toml.asBoolean_eq_ok_iff
        | exact exists_congr fun _ => Toml.asCharacter_eq_ok_iff
        | exact exists_congr fun _ => Toml.asStyle_eq_ok_iff hv
  exact ⟨fun _ => Toml.fits_nil, fun _ => ⟨c, rfl⟩⟩

lemma sets_set : Toml.Sets settings Toml.Value.Distinct set where
  after := settings_after
  total := fun _ _ _ hv => exists_set_iff hv
  whole := eq_of_settings

lemma default_settings : ∀ f ∈ settings, f.get ({} : Config) = f.default := by
  simp [settings, capacityField, sentinelField, TextStyle.plain]

lemma ofEntries_eq_ok_iff (ht : t.Distinct) : ofEntries t = .ok c ↔ Holds settings t c :=
  sets_set.eq_ok_iff ht default_settings

lemma exists_ofEntries_iff (ht : t.Distinct) :
    (∃ c, ofEntries t = .ok c) ↔ WellTyped settings t :=
  sets_set.exists_iff ht

lemma exists_holds (ht : t.Distinct) (h : WellTyped settings t) : ∃ c, Holds settings t c := by
  obtain ⟨c, hc⟩ := (exists_ofEntries_iff ht).mpr h
  exact ⟨c, (ofEntries_eq_ok_iff ht).mp hc⟩

/-! ### What no console can work with -/

/-- The log has room for a line, if its capacity is given at all. -/
def HasRoom (t : Toml.Table) : Prop :=
  ∀ v n, t.lookup "log_capacity" = some v → IsNatural v n → 1 ≤ n

/-- The sentinel is not blank, if it is given at all. -/
def HasSolidSentinel (t : Toml.Table) : Prop :=
  ∀ v x, t.lookup "prefix_sentinel" = some v → IsCharacter v x → Text.isBlank x = false

lemma hasRoom_iff (h : Holds settings t c) : HasRoom t ↔ 1 ≤ c.logCapacity := by
  have hmem : capacityField ∈ settings := by simp [settings]
  exact (h.forall_iff hmem (Q := fun n : Nat => 1 ≤ n) (Nat.le_add_left 1 63)).symm

lemma hasSolidSentinel_iff (h : Holds settings t c) :
    HasSolidSentinel t ↔ Text.isBlank c.prefixSentinel = false := by
  have hmem : sentinelField ∈ settings := by simp [settings]
  exact (h.forall_iff hmem (Q := fun x : Char => Text.isBlank x = false) (by decide)).symm

/-- What checking the settings comes to. That there is no room is said first. -/
inductive Validation (c : Config) : Except ConsoleError Config → Prop where
  | cramped (hroom : ¬ 1 ≤ c.logCapacity) :
      Validation c (.error (.config "log_capacity must be at least 1"))
  | blank (hroom : 1 ≤ c.logCapacity) (hblank : ¬ Text.isBlank c.prefixSentinel = false) :
      Validation c (.error (.config "prefix_sentinel cannot be whitespace"))
  | passed (hroom : 1 ≤ c.logCapacity) (hsolid : Text.isBlank c.prefixSentinel = false) :
      Validation c (.ok c)

lemma validation (c : Config) : c.Validation c.validate := by
  unfold validate
  split
  case isTrue h => exact .cramped (by simp [h])
  case isFalse h =>
    have hroom : 1 ≤ c.logCapacity := Nat.one_le_iff_ne_zero.mpr h
    split
    case isTrue hblank => exact .blank hroom (by simp [hblank])
    case isFalse hsolid => exact .passed hroom (by simpa using hsolid)

lemma validate_eq_ok_iff :
    c.validate = .ok c' ↔
      c = c' ∧ 1 ≤ c.logCapacity ∧ Text.isBlank c.prefixSentinel = false := by
  have hvalidation := c.validation
  generalize c.validate = result at hvalidation
  cases hvalidation with
  | cramped hroom => simp [hroom]
  | blank hroom hblank => simp [hblank]
  | passed hroom hsolid => simp [hroom, hsolid]

lemma validate_eq_error_iff {e : ConsoleError} :
    c.validate = .error e ↔
      (¬ 1 ≤ c.logCapacity ∧ .config "log_capacity must be at least 1" = e) ∨
      (1 ≤ c.logCapacity ∧ ¬ Text.isBlank c.prefixSentinel = false ∧
        .config "prefix_sentinel cannot be whitespace" = e) := by
  have hvalidation := c.validation
  generalize c.validate = result at hvalidation
  cases hvalidation with
  | cramped hroom => simp [hroom]
  | blank hroom hblank => simp [hroom, hblank]
  | passed hroom hsolid => simp [hroom, hsolid]

/-! ### What is accepted -/

/-- What reading a table comes to. -/
inductive Reading (t : Toml.Table) : Except ConsoleError Config → Prop where
  | mistyped (m : Mismatch) (h : ¬ WellTyped settings t) :
      Reading t (.error (.toml (.mismatch m)))
  | refused (c : Config) (e : ConsoleError) (h : Holds settings t c) (h' : c.validate = .error e) :
      Reading t (.error e)
  | accepted (c : Config) (h : Holds settings t c) (h' : c.validate = .ok c) : Reading t (.ok c)

lemma reading (ht : t.Distinct) : Reading t (ofTable t) := by
  unfold ofTable
  cases hread : ofEntries t with
  | error m =>
    refine .mistyped m fun hwell => ?_
    obtain ⟨c, hc⟩ := (exists_ofEntries_iff ht).mpr hwell
    rw [hread] at hc
    cases hc
  | ok c =>
    have hholds := (ofEntries_eq_ok_iff ht).mp hread
    cases hvalidate : c.validate with
    | error e =>
      show Reading t c.validate
      exact hvalidate ▸ .refused c e hholds hvalidate
    | ok c' =>
      obtain ⟨rfl, -⟩ := validate_eq_ok_iff.mp hvalidate
      show Reading t c.validate
      exact hvalidate ▸ .accepted c hholds hvalidate

lemma ofTable_eq_ok_iff (ht : t.Distinct) :
    ofTable t = .ok c ↔
      Holds settings t c ∧ 1 ≤ c.logCapacity ∧ Text.isBlank c.prefixSentinel = false := by
  have hreading := reading ht
  constructor
  · intro h
    rw [h] at hreading
    cases hreading with
    | accepted _ hholds hvalidate => exact ⟨hholds, (validate_eq_ok_iff.mp hvalidate).2⟩
  · rintro ⟨hholds, hvalid⟩
    rw [ofTable, (ofEntries_eq_ok_iff ht).mpr hholds]
    exact validate_eq_ok_iff.mpr ⟨rfl, hvalid⟩

lemma ofTable_eq_config_iff (ht : t.Distinct) {text : String} :
    ofTable t = .error (.config text) ↔
      ∃ c, Holds settings t c ∧ c.validate = .error (.config text) := by
  have hreading := reading ht
  constructor
  · intro h
    rw [h] at hreading
    cases hreading with
    | refused c _ hholds hvalidate => exact ⟨c, hholds, hvalidate⟩
  · rintro ⟨c, hholds, hvalidate⟩
    rw [ofTable, (ofEntries_eq_ok_iff ht).mpr hholds]
    exact hvalidate

lemma exists_mismatch_iff (ht : t.Distinct) :
    (∃ m, ofTable t = .error (.toml (.mismatch m))) ↔ ¬ WellTyped settings t := by
  have hreading := reading ht
  generalize ofTable t = result at hreading
  cases hreading with
  | mistyped m h => exact ⟨fun _ => h, fun _ => ⟨m, rfl⟩⟩
  | refused c e h h' =>
    refine ⟨?_, fun hwell => absurd h.wellTyped hwell⟩
    rintro ⟨m, ⟨⟩⟩
    simp [validate_eq_error_iff] at h'
  | accepted c h h' => exact ⟨fun ⟨m, hm⟩ => (nomatch hm), fun hwell => absurd h.wellTyped hwell⟩

/-- A table is accepted exactly if its values fit and the settings pass the check. -/
lemma exists_ofTable_iff (ht : t.Distinct) :
    (∃ c, ofTable t = .ok c) ↔ WellTyped settings t ∧ HasRoom t ∧ HasSolidSentinel t := by
  constructor
  · rintro ⟨c, hc⟩
    obtain ⟨hholds, hroom, hsolid⟩ := (ofTable_eq_ok_iff ht).mp hc
    exact ⟨hholds.wellTyped, (hasRoom_iff hholds).mpr hroom,
      (hasSolidSentinel_iff hholds).mpr hsolid⟩
  · rintro ⟨hwell, hroom, hsolid⟩
    obtain ⟨c, hholds⟩ := exists_holds ht hwell
    exact ⟨c, (ofTable_eq_ok_iff ht).mpr ⟨hholds, (hasRoom_iff hholds).mp hroom,
      (hasSolidSentinel_iff hholds).mp hsolid⟩⟩

/-- Of two reasons to refuse a table, the first to be checked is told. -/
lemma ofTable_eq_refusal_iff (ht : t.Distinct) {text : String} :
    ofTable t = .error (.config text) ↔ WellTyped settings t ∧
      ((¬ HasRoom t ∧ text = "log_capacity must be at least 1") ∨
        (HasRoom t ∧ ¬ HasSolidSentinel t ∧ text = "prefix_sentinel cannot be whitespace")) := by
  rw [ofTable_eq_config_iff ht]
  constructor
  · rintro ⟨c, hholds, hvalidate⟩
    rw [validate_eq_error_iff, ← hasRoom_iff hholds, ← hasSolidSentinel_iff hholds] at hvalidate
    refine ⟨hholds.wellTyped, ?_⟩
    rcases hvalidate with ⟨hroom, ⟨⟩⟩ | ⟨hroom, hsolid, ⟨⟩⟩
    · exact .inl ⟨hroom, rfl⟩
    · exact .inr ⟨hroom, hsolid, rfl⟩
  · rintro ⟨hwell, hrefused⟩
    obtain ⟨c, hholds⟩ := exists_holds ht hwell
    refine ⟨c, hholds, ?_⟩
    rw [validate_eq_error_iff, ← hasRoom_iff hholds, ← hasSolidSentinel_iff hholds]
    rcases hrefused with ⟨hroom, rfl⟩ | ⟨hroom, hsolid, rfl⟩
    · exact .inl ⟨hroom, rfl⟩
    · exact .inr ⟨hroom, hsolid, rfl⟩

lemma cause_of_error (ht : t.Distinct) {e : ConsoleError} (he : ofTable t = .error e) :
    (∃ m, e = .toml (.mismatch m)) ∨ ∃ text, e = .config text := by
  have hreading := reading ht
  rw [he] at hreading
  cases hreading with
  | mistyped m h => exact .inl ⟨m, rfl⟩
  | refused c _ h h' =>
    rcases validate_eq_error_iff.mp h' with ⟨-, rfl⟩ | ⟨-, -, rfl⟩
    · exact .inr ⟨_, rfl⟩
    · exact .inr ⟨_, rfl⟩

/-! ### Accepted settings -/

/-- A console can work with the settings. -/
structure Workable (c : Config) : Prop where
  /-- Whatever is written to the log, the line that came last is shown. -/
  newest   : ∀ (η : Type) (ws : List Sink.Write) (w : Sink.Write), ∀ line ∈ w.op.line?,
    (((Console.ofConfig c : Console η).log.writeAll ws).apply w.op).lines.newest? = some line
  /-- What follows a sentinel that is required need only have no blanks. -/
  admitted : ∀ x ∈ c.sentinel, ∀ text : String, (∀ y ∈ text.toList, Text.isBlank y = false) →
    Admissible c.sentinel (String.singleton x ++ text)
  /-- Some command can be registered. -/
  register : ∀ (η : Type) (handler : η), ∃ p r,
    (Console.ofConfig c : Console η).registry.register p handler = .ok r

lemma admissible_sentinel (hsolid : Text.isBlank c.prefixSentinel = false) {x : Char}
    (hx : x ∈ c.sentinel) : Admissible c.sentinel (String.singleton x) := by
  obtain rfl : c.prefixSentinel = x := by
    unfold sentinel at hx
    split at hx
    · exact Option.some.inj hx
    · cases hx
  constructor
  case nonempty => exact mt (congrArg String.toList) (by simp)
  case solid => simpa using hsolid
  case starts =>
    intro y hy
    rw [String.toList_singleton, List.head?_cons, ← hx, ← hy]

lemma workable (hroom : 1 ≤ c.logCapacity) (hsolid : Text.isBlank c.prefixSentinel = false) :
    c.Workable := by
  constructor
  case newest =>
    intro η ws w line hline
    set s := (Console.ofConfig c : Console η).log.writeAll ws with hs
    have hcapacity : 0 < s.lines.capacity := by
      rw [hs, Sink.capacity_writeAll]
      exact hroom
    have hlines : (s.apply w.op).lines = s.lines.push line := by
      rcases s.lines_apply w.op with ⟨_, hop, -⟩ | ⟨hop, -⟩ | hlines
      · cases w <;> cases hop
      · rw [hop] at hline
        cases hline
      · rw [hlines, hline, Option.elim_some]
    rw [hlines, Bounded.newest?_push hcapacity]
  case admitted => exact fun x hx text htext => (admissible_sentinel hsolid hx).append htext
  case register =>
    intro η handler
    have hadmitted : ∃ p, Admissible c.sentinel p := by
      cases hsentinel : c.sentinel with
      | none => exact ⟨"/", by simp, by simp [Text.isBlank], by simp⟩
      | some x => exact ⟨String.singleton x, hsentinel ▸ admissible_sentinel hsolid hsentinel⟩
    obtain ⟨p, hp⟩ := hadmitted
    exact ⟨p, (Registry.exists_register_eq_ok_iff handler).mpr ⟨hp, List.not_mem_nil⟩⟩

/-! ### The contract -/

/-- Two readings come to the same, but for which of several values that do not fit is reported. -/
structure SameOutcome (r r' : Except ConsoleError Config) : Prop where
  accepted : ∀ c, r = .ok c ↔ r' = .ok c
  refused  : ∀ text, r = .error (.config text) ↔ r' = .error (.config text)
  mistyped : (∃ m, r = .error (.toml (.mismatch m))) ↔ ∃ m, r' = .error (.toml (.mismatch m))

/-- Other keys and the order of keys do not matter. -/
lemma sameOutcome {t' : Toml.Table} (ht : t.Distinct) (ht' : t'.Distinct)
    (h : ∀ f ∈ settings, t'.lookup f.key = t.lookup f.key) :
    SameOutcome (ofTable t') (ofTable t) := by
  constructor
  case accepted =>
    intro c
    rw [ofTable_eq_ok_iff ht', ofTable_eq_ok_iff ht, Toml.holds_congr h]
  case refused =>
    intro text
    simp only [ofTable_eq_config_iff ht', ofTable_eq_config_iff ht, Toml.holds_congr h]
  case mistyped => rw [exists_mismatch_iff ht', exists_mismatch_iff ht, Toml.wellTyped_congr h]

/-- How the configuration in a table is read. -/
structure Acceptance (t : Toml.Table) (result : Except ConsoleError Config) : Prop where
  /-- It is accepted exactly if the values fit and a console can work with them. -/
  accepted : (∃ c, result = .ok c) ↔ WellTyped settings t ∧ HasRoom t ∧ HasSolidSentinel t
  /-- Each setting is then what its key gives, or the default. -/
  given    : ∀ c, result = .ok c → Holds settings t c
  /-- It is a mismatch exactly if a value does not fit. -/
  mistyped : (∃ m, result = .error (.toml (.mismatch m))) ↔ ¬ WellTyped settings t
  /-- It is refused only if all values fit; that there is no room is said first. -/
  refused  : ∀ text, result = .error (.config text) ↔ WellTyped settings t ∧
    ((¬ HasRoom t ∧ text = "log_capacity must be at least 1") ∨
      (HasRoom t ∧ ¬ HasSolidSentinel t ∧ text = "prefix_sentinel cannot be whitespace"))
  /-- There are no other errors. -/
  errors   : ∀ e, result = .error e →
    (∃ m, e = .toml (.mismatch m)) ∨ ∃ text, e = .config text
  /-- The order of the keys does not matter. -/
  order    : ∀ t' : Toml.Table, t'.Perm t → SameOutcome (ofTable t') result
  /-- Nor do keys that are not known. -/
  others   : ∀ t' : Toml.Table, t'.Distinct →
    (∀ f ∈ settings, t'.lookup f.key = t.lookup f.key) → SameOutcome (ofTable t') result
  workable : ∀ c, result = .ok c → c.Workable

lemma acceptance_ofTable (ht : t.Distinct) : Acceptance t (ofTable t) := by
  constructor
  case accepted => exact exists_ofTable_iff ht
  case given => exact fun c hc => ((ofTable_eq_ok_iff ht).mp hc).1
  case mistyped => exact exists_mismatch_iff ht
  case refused => exact fun text => ofTable_eq_refusal_iff ht
  case errors => exact fun e he => cause_of_error ht he
  case order =>
    exact fun t' hperm => sameOutcome ht (ht.perm hperm) fun f _ => ht.lookup_perm hperm f.key
  case others => exact fun t' ht' h => sameOutcome ht ht' h
  case workable =>
    intro c hc
    obtain ⟨-, hroom, hsolid⟩ := (ofTable_eq_ok_iff ht).mp hc
    exact workable hroom hsolid

/-- However a document is written, its table is read in this way. -/
theorem acceptance {text : String} (h : Toml.read text = .ok t) : Acceptance t (ofToml text) := by
  rw [ofToml, h]
  exact acceptance_ofTable (Toml.distinct_of_read h)

/-- A key that is not known, and a style under a header of its own. -/
theorem acceptance_styleHeader :
    Toml.read "other = 1\n[screen_style]\ncolor = \"#ffcc00\""
      = .ok [("other", .integer 1), ("screen_style", .table [("color", .string "#ffcc00")])] ∧
    Acceptance [("other", .integer 1), ("screen_style", .table [("color", .string "#ffcc00")])]
      (ofToml "other = 1\n[screen_style]\ncolor = \"#ffcc00\"") := by
  have hread : Toml.read "other = 1\n[screen_style]\ncolor = \"#ffcc00\""
      = .ok [("other", .integer 1), ("screen_style", .table [("color", .string "#ffcc00")])] := by
    decide +kernel
  exact ⟨hread, acceptance hread⟩

/-- A time has no field of a style, so it passes for a style with none, although it is neither a
table nor a list. -/
theorem time_accepted_as_style :
    ∃ t, Toml.read "screen_style = 07:32:00" = .ok t ∧
      ¬ ((∃ c, ofToml "screen_style = 07:32:00" = .ok c) ↔
        WellTyped settings t ∧
        (∀ v, t.lookup "screen_style" = some v →
          (∃ entries, v = .table entries) ∨ ∃ items, v = .array items) ∧
        HasRoom t ∧ HasSolidSentinel t) := by
  have hread : Toml.read "screen_style = 07:32:00" = .ok [("screen_style", .datetime)] := by
    decide +kernel
  have haccepted : ofToml "screen_style = 07:32:00" = .ok {} := by
    rw [ofToml, hread]
    rfl
  refine ⟨_, hread, fun h => ?_⟩
  obtain ⟨-, hstyle, -⟩ := h.mp ⟨_, haccepted⟩
  obtain ⟨_, ⟨⟩⟩ | ⟨_, ⟨⟩⟩ := hstyle .datetime rfl

end DebugConsole.Config
