import DebugConsole.Proofs.Console.Operations
import DebugConsole.Proofs.Preset.Run
import DebugConsole.Proofs.Registry.Admission
import DebugConsole.Session
import Mathlib.Data.List.Nodup

/-!
# The opening of a session

A session opens when its demo commands and presets are accepted. The commands start with a slash,
so they are accepted unless the configuration requires another sentinel, and the presets always
are.
-/

namespace DebugConsole

variable {η : Type}

namespace Registry

variable {r r' : Registry η} {p : String} {handler : η}

lemma mem_prefixes_of_register_iff (h : r.register p handler = .ok r') {q : String} :
    q ∈ r'.prefixes ↔ q = p ∨ q ∈ r.prefixes := by
  rw [← contains_iff, ← contains_iff, contains, contains, lookup_of_register h]
  by_cases hq : q = p <;> simp [hq]

lemma lookup_of_register_self (h : r.register p handler = .ok r') :
    r'.lookup p = some handler := by
  rw [lookup_of_register h, if_pos rfl]

/-- Nothing is registered under a prefix that is taken. -/
lemma lookup_of_register_kept (h : r.register p handler = .ok r') {q : String} {kept : η}
    (hq : r.lookup q = some kept) : r'.lookup q = some kept := by
  have hfree : r.lookup p = none := lookup_eq_none_iff.mpr (eq_put_of_register h).1
  have hne : q ≠ p := by
    rintro rfl
    rw [hfree] at hq
    cases hq
  rw [lookup_of_register h, if_neg hne, hq]

end Registry

namespace Console

/-! ### Lists of commands and presets -/

/-- A list of commands is accepted if its prefixes are admissible, distinct and not taken. -/
theorem registerAll_eq_none_iff (facade : Facade) (commands : List (String × η)) (c : Console η) :
    (c.registerAll facade commands).2 = none ↔ (commands.map Prod.fst).Nodup ∧
      ∀ p ∈ commands.map Prod.fst, Admissible c.registry.sentinel p ∧ p ∉ c.registry.prefixes := by
  induction commands generalizing c with
  | nil => simp [registerAll]
  | cons command commands ih =>
    obtain ⟨p, handler⟩ := command
    have hok := Registry.exists_register_eq_ok_iff (r := c.registry) (p := p) handler
    simp only [registerAll, register_eq, List.map_cons, List.nodup_cons, List.forall_mem_cons]
    cases hregister : c.registry.register p handler with
    | error e =>
      rw [hregister] at hok
      simp only [Except.map, reduceCtorEq, exists_false, false_iff] at hok ⊢
      exact fun h => hok h.2.1
    | ok r =>
      have hfirst : Admissible c.registry.sentinel p ∧ p ∉ c.registry.prefixes :=
        hok.mp ⟨r, hregister⟩
      simp only [Except.map, ih, Registry.sentinel_of_register hregister,
        Registry.mem_prefixes_of_register_iff hregister, not_or]
      constructor
      · rintro ⟨hnodup, hrest⟩
        exact ⟨⟨fun hp => (hrest p hp).2.1 rfl, hnodup⟩, hfirst,
          fun q hq => ⟨(hrest q hq).1, (hrest q hq).2.2⟩⟩
      · rintro ⟨⟨hp, hnodup⟩, -, hrest⟩
        refine ⟨hnodup, fun q hq => ⟨(hrest q hq).1, ?_, (hrest q hq).2⟩⟩
        rintro rfl
        exact hp hq

/-- Commands that are all accepted are found afterwards, and so are those that were there. -/
lemma lookup_registerAll {facade : Facade} {commands : List (String × η)} {c d : Console η}
    (h : c.registerAll facade commands = (d, none)) {p : String} {handler : η}
    (hp : c.registry.lookup p = some handler ∨ (p, handler) ∈ commands) :
    d.registry.lookup p = some handler := by
  induction commands generalizing c with
  | nil =>
    cases h
    simpa using hp
  | cons command commands ih =>
    obtain ⟨q, first⟩ := command
    rw [registerAll, register_eq] at h
    cases hregister : c.registry.register q first with
    | error e =>
      rw [hregister] at h
      cases h
    | ok r =>
      rw [hregister] at h
      refine ih h ?_
      rcases hp with hp | hp
      · exact .inl (Registry.lookup_of_register_kept hregister hp)
      · rcases List.mem_cons.mp hp with hfirst | hrest
        · cases hfirst
          exact .inl (Registry.lookup_of_register_self hregister)
        · exact .inr hrest

/-- Presets with a text and a name are accepted, whatever presets there are. -/
lemma addPresets_eq_none {presets : List Preset}
    (h : ∀ e ∈ presets, Text.isBlankText e.text = false ∧ Text.isBlankText e.name = false)
    (c : Console η) : (c.addPresets presets).2 = none := by
  induction presets generalizing c with
  | nil => rfl
  | cons e presets ih =>
    obtain ⟨⟨htext, hname⟩, hrest⟩ := List.forall_mem_cons.mp h
    obtain ⟨catalog, hadd⟩ : ∃ catalog,
        c.presets.add e.text e.name e.description e.group e.immediate = .ok catalog := by
      rw [Catalog.exists_add_eq_ok_iff]
      simp [Catalog.Op.added?, htext, hname]
    simp only [addPresets, addPreset, hadd, Except.map]
    exact ih hrest { c with presets := catalog }

/-! ### The demo commands and presets -/

/-- The prefixes of the demo commands. -/
def demoPrefixes : List String := DemoCommand.all.map Prod.fst

/-- The demo commands start with a slash, so no other sentinel admits them. -/
lemma demoPrefixes_admissible_iff {sentinel : Option Char} :
    (∀ p ∈ demoPrefixes, Admissible sentinel p) ↔ sentinel = none ∨ sentinel = some '/' := by
  constructor
  · intro h
    have hecho : Admissible sentinel "/echo" := h "/echo" (by decide)
    cases sentinel with
    | none => exact .inl rfl
    | some c =>
      have hslash : "/echo".toList.head? = some c := hecho.starts c rfl
      exact .inr hslash.symm
  · intro h p hp
    rw [← refusal?_eq_none_iff_admissible]
    revert p
    rcases h with rfl | rfl <;> decide

theorem registerDemoCommands_eq_none_iff {c : Console η} (facade : Facade)
    (handler : DemoCommand → η) (hnew : c.registry.prefixes = []) :
    (c.registerDemoCommands facade handler).2 = none ↔
      c.registry.sentinel = none ∨ c.registry.sentinel = some '/' := by
  unfold registerDemoCommands
  generalize hcommands : DemoCommand.all.map _ = commands
  have hprefixes : commands.map Prod.fst = demoPrefixes := hcommands ▸ rfl
  have hall := registerAll_eq_none_iff facade commands c
  have hnodup : demoPrefixes.Nodup := by decide
  rw [hprefixes, hnew] at hall
  simp only [hnodup, List.not_mem_nil, not_false_eq_true, and_true, true_and,
    demoPrefixes_admissible_iff] at hall
  rw [← hall]
  generalize c.registerAll facade commands = result
  obtain ⟨d, _ | e⟩ := result <;> simp

/-- Demo commands that are registered are found under their prefixes. -/
lemma lookup_registerDemoCommands {c d : Console η} {facade : Facade} {handler : DemoCommand → η}
    (h : c.registerDemoCommands facade handler = (d, none)) {p : String} {command : DemoCommand}
    (hcommand : (p, command) ∈ DemoCommand.all) :
    d.registry.lookup p = some (handler command) := by
  unfold registerDemoCommands at h
  split at h
  case h_1 => cases h
  case h_2 c' hall =>
    cases h
    exact lookup_registerAll hall (.inr (List.mem_map.mpr ⟨(p, command), hcommand, rfl⟩))

lemma addDemoPresets_eq_none (c : Console η) : c.addDemoPresets.2 = none :=
  addPresets_eq_none (by decide) c

end Console

/-! ### Sessions -/

namespace Session

/-- A session whose configuration is accepted opens if the sentinel is a slash or none. -/
theorem exists_prepare_iff (source : ConfigSource) (config : Config) :
    (∃ c, prepare source config = .ok c) ↔
      config.sentinel = none ∨ config.sentinel = some '/' := by
  set c : Console DemoCommand :=
    (Console.ofConfig config).record facade (hostRecord .session .info (greeting source)) with hc
  have hregister := Console.registerDemoCommands_eq_none_iff (c := c) facade id rfl
  have hsentinel : c.registry.sentinel = config.sentinel := rfl
  rw [hsentinel] at hregister
  rw [← hregister, prepare, ← hc]
  generalize c.registerDemoCommands facade id = result
  obtain ⟨d, _ | e⟩ := result
  case some => simp
  case none =>
    obtain ⟨d', hd'⟩ : ∃ d', d.addDemoPresets = (d', none) :=
      ⟨_, Prod.ext rfl d.addDemoPresets_eq_none⟩
    simp [hd']

end Session

end DebugConsole
