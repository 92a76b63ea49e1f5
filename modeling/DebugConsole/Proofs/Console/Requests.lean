import DebugConsole.Proofs.Console.Activation
import DebugConsole.Proofs.Preset.Removal

/-!
# Requests

A console may be asked to add, remove or activate a command or a preset, and it may refuse. Each
request is told once more as a program that changes the console in place, check by check and change
by change, so that it shows what a console is like where a request fails: its checks come before
its first change, and a change replaces no more than the part that the request is about.
-/

namespace DebugConsole

/-! ### Parts without what is to be removed -/

namespace Registry

variable {η : Type} {r : Registry η} {p : String}

lemma unregister_of_not_contains (h : r.contains p = false) : r.unregister p = (r, false) := by
  have habsent : ∀ e ∈ r.entries, e.1 ≠ p := by
    rintro e he rfl
    have hmem : e.1 ∈ r.prefixes := List.mem_map_of_mem he
    rw [contains_iff.mpr hmem] at h
    contradiction
  refine Prod.ext (ext rfl (List.filter_eq_self.mpr fun e he => ?_)) h
  exact bne_iff_ne.mpr (habsent e he)

end Registry

namespace Catalog

variable {c : Catalog} {index : Nat} {name : String}

lemma removeAt_of_le (h : c.entries.length ≤ index) : c.removeAt index = (c, false) :=
  Prod.ext (eq_of_entries (List.eraseIdx_of_length_le h)) (decide_eq_false (Nat.not_lt.mpr h))

lemma removeByName_of_none (h : c.entries.findIdx? (·.name == name) = none) :
    c.removeByName name = (c, false) := by
  refine removeByName_of_absent fun hname => ?_
  obtain ⟨e, he, rfl⟩ := mem_names_iff.mp hname
  simpa using List.findIdx?_eq_none_iff.mp h e he

lemma removeByName_of_some (h : c.entries.findIdx? (·.name == name) = some index) :
    c.removeByName name = ((c.removeAt index).1, true) := by
  refine Prod.ext (eq_of_entries ?_) ?_
  · rw [entries_removeByName, entries_removeAt, List.eraseP_eq_eraseIdx, h]
  · obtain ⟨hlt, hname, -⟩ := List.findIdx?_eq_some_iff_getElem.mp h
    exact List.any_eq_true.mpr ⟨c.entries[index], List.getElem_mem hlt, hname⟩

end Catalog

/-! ### Requests and answers -/

/-- What a console may be asked for. -/
inductive Request (η : Type) where
  | register       (p : String) (handler : η)
  | unregister     (p : String)
  | addPreset      (text name : String) (description group : Option String) (immediate : Bool)
  | removePreset   (name : String)
  | removePresetAt (index : Nat)
  | activatePreset (index : Nat)

/-- Whether a request is about commands. -/
def Request.ofCommands {η : Type} : Request η → Bool
  | .register .. | .unregister .. => true
  | _                             => false

/-- Whether a request is about the presets there are. -/
def Request.ofPresets {η : Type} : Request η → Bool
  | .addPreset .. | .removePreset .. | .removePresetAt .. => true
  | _                                                     => false

/-- How a request is answered. -/
inductive Answer where
  | done
  | refused   (e : ConsoleError)
  /-- Whether there was something to remove. -/
  | removed   (found : Bool)
  /-- What the activation has done, if there was a preset. -/
  | activated (a : Option Activation)

/-- Whether an answer tells that the request came to nothing. -/
def Answer.failed : Answer → Bool
  | .done        => false
  | .refused _   => true
  | .removed b   => !b
  | .activated a => a.isNone

namespace Console

variable {η : Type}

/-- An operation that may be refused, as the answer to a request. -/
def answerOf (c : Console η) : Except ConsoleError (Console η) → Console η × Answer
  | .ok d    => (d, .done)
  | .error e => (c, .refused e)

/-- The console after a request, and the answer. -/
def request [Handler η] (c : Console η) (facade : Facade) : Request η → Console η × Answer
  | .register p handler => c.answerOf (c.register facade p handler)
  | .unregister p => ((c.unregister p).1, .removed (c.unregister p).2)
  | .addPreset text name description group immediate =>
      c.answerOf (c.addPreset text name description group immediate)
  | .removePreset name => ((c.removePreset name).1, .removed (c.removePreset name).2)
  | .removePresetAt index => ((c.removePresetAt index).1, .removed (c.removePresetAt index).2)
  | .activatePreset index =>
      ((c.activateAt facade index).1, .activated (c.activateAt facade index).2)

lemma eq_of_answerOf_failed {c : Console η} {result : Except ConsoleError (Console η)}
    (hfailed : (c.answerOf result).2.failed = true) : (c.answerOf result).1 = c := by
  cases result with
  | error e => rfl
  | ok d => contradiction

/-- A request comes to nothing where it is refused, or where what it names is not there. -/
lemma request_of_failed [Handler η] {c : Console η} {facade : Facade} {q : Request η}
    (hfailed : (c.request facade q).2.failed = true) : (c.request facade q).1 = c := by
  cases q with
  | register p handler => exact eq_of_answerOf_failed hfailed
  | unregister p =>
    have habsent : c.registry.contains p = false := by
      simpa [request, Answer.failed, unregister, Registry.unregister] using hfailed
    rw [request, unregister, Registry.unregister_of_not_contains habsent]
  | addPreset text name description group immediate => exact eq_of_answerOf_failed hfailed
  | removePreset name =>
    cases hfind : c.presets.entries.findIdx? (·.name == name) with
    | none => rw [request, removePreset, Catalog.removeByName_of_none hfind]
    | some index =>
      rw [request, removePreset, Catalog.removeByName_of_some hfind] at hfailed
      contradiction
  | removePresetAt index =>
    have hle : c.presets.entries.length ≤ index := by
      simpa [request, Answer.failed, removePresetAt, Catalog.removeAt] using hfailed
    rw [request, removePresetAt, Catalog.removeAt_of_le hle]
  | activatePreset index =>
    cases hget : c.presets.get? index with
    | none => rw [request, activateAt_of_none facade hget]
    | some e =>
      rw [request, activateAt, hget] at hfailed
      contradiction

end Console

/-! ### Programs -/

namespace Catalog

variable {c : Catalog} {name : String}

/-- A catalog with a preset behind all others, sorted by groups in a stable way. -/
def push (c : Catalog) (e : Preset) (he : e.Normal) : Catalog where
  entries := Preset.sortByGroup (c.entries ++ [e])
  ordered := Preset.ordered_sortByGroup _
  normal  := by
    intro d hd
    rw [Preset.sortByGroup, List.mem_mergeSort, List.mem_append, List.mem_singleton] at hd
    rcases hd with hd | rfl
    · exact c.normal d hd
    · exact he

lemma add_of_blank_text {text : String} (h : Text.isBlankText text = true) (name : String)
    (description group : Option String) (immediate : Bool) :
    c.add text name description group immediate
      = .error (.invalidArgument "preset text cannot be empty") := by
  rw [add, dif_pos h]

lemma add_of_blank_name {text : String} (htext : ¬ Text.isBlankText text)
    (hname : Text.isBlankText name = true) (description group : Option String)
    (immediate : Bool) :
    c.add text name description group immediate
      = .error (.invalidArgument "preset name cannot be empty") := by
  rw [add, dif_neg htext, dif_pos hname]

/-- Adding is putting behind all others and sorting. -/
lemma add_eq_push {text : String} (htext : ¬ Text.isBlankText text)
    (hname : ¬ Text.isBlankText name) (description group : Option String) (immediate : Bool) :
    c.add text name description group immediate
      = .ok (c.push (preset text name description group immediate)
          (normal_preset description group immediate htext hname)) := by
  rw [add, dif_neg htext, dif_neg hname]
  exact congrArg Except.ok (eq_of_entries (c.ordered.insert_eq_sortByGroup _))

end Catalog

namespace Console

variable {η : Type}

/-- Programs that change a console in place. One that fails leaves what it has changed so far. -/
abbrev InPlace (η α : Type) : Type := EStateM ConsoleError (Console η) α

namespace InPlace

def register (facade : Facade) (p : String) (handler : η) : InPlace η Unit := do
  let c ← get
  match h : refusal? c.registry.sentinel p with
  | some e => throw e
  | none   =>
      if c.registry.contains p then throw (.duplicatePrefix p)
      -- The record is made before the command is there.
      let c := c.note facade .debug "registry" ("registered command " ++ p)
      set { c with registry := c.registry.put p handler h }

def unregister (p : String) : InPlace η Bool := do
  let c ← get
  if c.registry.contains p then
    set { c with registry := (c.registry.unregister p).1 }
    return true
  return false

def addPreset (text name : String) (description group : Option String) (immediate : Bool) :
    InPlace η Unit := do
  if ht : Text.isBlankText text then throw (.invalidArgument "preset text cannot be empty")
  else if hn : Text.isBlankText name then throw (.invalidArgument "preset name cannot be empty")
  else
    let e := Catalog.preset text name description group immediate
    have he : e.Normal := Catalog.normal_preset description group immediate ht hn
    modify fun c => { c with presets := c.presets.push e he }

def removePreset (name : String) : InPlace η Bool := do
  match (← get).presets.entries.findIdx? (·.name == name) with
  | some index =>
      modify fun c => { c with presets := (c.presets.removeAt index).1 }
      return true
  | none => return false

def removePresetAt (index : Nat) : InPlace η Bool := do
  if (← get).presets.entries.length ≤ index then return false
  modify fun c => { c with presets := (c.presets.removeAt index).1 }
  return true

def activatePreset [Handler η] (facade : Facade) (index : Nat) :
    InPlace η (Option Activation) := do
  let some e := (← get).presets.get? index | return none
  modify fun c => { c with helpText := e.description.getD "" }
  if e.immediate then
    let (c, found) := (← get).execute facade e.text
    set c
    return some (.executed found)
  else
    modify (·.setInput e.text)
    return some .filled

variable (c : Console η)

/-- What a program has read is the console at that point. -/
lemma run_get_bind {α : Type} (rest : Console η → InPlace η α) :
    (get >>= rest).run c = (rest c).run c := rfl

lemma run_register (facade : Facade) (p : String) (handler : η) :
    (register facade p handler).run c =
      match c.register facade p handler with
      | .ok d    => .ok () d
      | .error e => .error e c := by
  rw [register, run_get_bind]
  split
  case h_1 e h =>
    rw [Console.register, Registry.register_of_refusal h]
    rfl
  case h_2 h =>
    rw [Console.register, Registry.register_of_admitted h]
    by_cases hp : c.registry.contains p
    · rw [if_pos hp, if_pos hp]
      rfl
    · rw [if_neg hp, if_neg hp]
      rfl

lemma run_unregister (p : String) :
    (unregister p).run c = .ok (c.unregister p).2 (c.unregister p).1 := by
  rw [unregister, run_get_bind]
  by_cases h : c.registry.contains p = true
  · have hfound : (c.unregister p).2 = true := h
    rw [if_pos h, hfound]
    rfl
  · rw [if_neg h, Console.unregister, Registry.unregister_of_not_contains (by simpa using h)]
    rfl

lemma run_addPreset (text name : String) (description group : Option String) (immediate : Bool) :
    (addPreset text name description group immediate).run c =
      match c.addPreset text name description group immediate with
      | .ok d    => .ok () d
      | .error e => .error e c := by
  by_cases htext : Text.isBlankText text
  · rw [addPreset, dif_pos htext, Console.addPreset, Catalog.add_of_blank_text htext]
    rfl
  · by_cases hname : Text.isBlankText name
    · rw [addPreset, dif_neg htext, dif_pos hname, Console.addPreset,
        Catalog.add_of_blank_name htext hname]
      rfl
    · rw [addPreset, dif_neg htext, dif_neg hname, Console.addPreset,
        Catalog.add_eq_push htext hname]
      rfl

lemma run_removePreset (name : String) :
    (removePreset name).run c = .ok (c.removePreset name).2 (c.removePreset name).1 := by
  rw [removePreset, run_get_bind]
  cases h : c.presets.entries.findIdx? (·.name == name) with
  | none =>
    rw [Console.removePreset, Catalog.removeByName_of_none h]
    rfl
  | some index =>
    rw [Console.removePreset, Catalog.removeByName_of_some h]
    rfl

lemma run_removePresetAt (index : Nat) :
    (removePresetAt index).run c = .ok (c.removePresetAt index).2 (c.removePresetAt index).1 := by
  rw [removePresetAt, run_get_bind]
  by_cases h : c.presets.entries.length ≤ index
  · rw [if_pos h, Console.removePresetAt, Catalog.removeAt_of_le h]
    rfl
  · have hfound : (c.removePresetAt index).2 = true := decide_eq_true (Nat.lt_of_not_le h)
    rw [if_neg h, hfound]
    rfl

lemma run_activatePreset [Handler η] (facade : Facade) (index : Nat) :
    (activatePreset facade index).run c =
      .ok (c.activateAt facade index).2 (c.activateAt facade index).1 := by
  rw [activatePreset, run_get_bind, activateAt]
  cases c.presets.get? index with
  | none => rfl
  | some e =>
    simp only [activate, EStateM.run_bind, EStateM.run_modify]
    cases e.immediate with
    | false => rfl
    | true =>
      simp only [if_true, EStateM.run_bind, EStateM.run_get, EStateM.run_set, EStateM.run_pure]

end InPlace

variable [Handler η] (c : Console η) (facade : Facade)

/-- The program of a request. -/
def program : Request η → InPlace η Answer
  | .register p handler => do
      InPlace.register facade p handler
      return .done
  | .unregister p => return .removed (← InPlace.unregister p)
  | .addPreset text name description group immediate => do
      InPlace.addPreset text name description group immediate
      return .done
  | .removePreset name => return .removed (← InPlace.removePreset name)
  | .removePresetAt index => return .removed (← InPlace.removePresetAt index)
  | .activatePreset index => return .activated (← InPlace.activatePreset facade index)

/-- The console as the program of a request leaves it, and the answer. -/
def requestInPlace (q : Request η) : Console η × Answer :=
  match (program facade q).run c with
  | .ok answer d => (d, answer)
  | .error e d   => (d, .refused e)

lemma requestInPlace_eq (q : Request η) : c.requestInPlace facade q = c.request facade q := by
  cases q with
  | register p handler =>
    simp only [requestInPlace, program, request, EStateM.run_bind, InPlace.run_register]
    cases c.register facade p handler <;> rfl
  | addPreset text name description group immediate =>
    simp only [requestInPlace, program, request, EStateM.run_bind, InPlace.run_addPreset]
    cases c.addPreset text name description group immediate <;> rfl
  | unregister p =>
    simp only [requestInPlace, program, request, EStateM.run_bind, InPlace.run_unregister,
      EStateM.run_pure]
  | removePreset name =>
    simp only [requestInPlace, program, request, EStateM.run_bind, InPlace.run_removePreset,
      EStateM.run_pure]
  | removePresetAt index =>
    simp only [requestInPlace, program, request, EStateM.run_bind, InPlace.run_removePresetAt,
      EStateM.run_pure]
  | activatePreset index =>
    simp only [requestInPlace, program, request, EStateM.run_bind, InPlace.run_activatePreset,
      EStateM.run_pure]

/-! ### The contract -/

/-- What a console does with requests. -/
structure RequestContract (c : Console η) (facade : Facade) : Prop where
  /-- Carried out in place, a request leaves the same console and is answered alike. -/
  inPlace   : ∀ q, c.requestInPlace facade q = c.request facade q
  /-- A request that fails leaves the whole console as it was. -/
  failed    : ∀ q, (c.request facade q).2.failed = true → (c.request facade q).1 = c
  commands  : ∀ q : Request η, q.ofCommands = true →
    (c.request facade q).1 = { c with registry := (c.request facade q).1.registry }
  presets   : ∀ q : Request η, q.ofPresets = true →
    (c.request facade q).1 = { c with presets := (c.request facade q).1.presets }
  /-- A preset that is executed at once changes the help text and what its text changes. -/
  executed  : ∀ index e, c.presets.get? index = some e → e.immediate = true →
    c.request facade (.activatePreset index) =
      ({ (c.execute facade e.text).1 with helpText := e.description.getD "" },
        .activated (some (.executed (c.execute facade e.text).2)))
  /-- Any other preset changes the help text and the input line. -/
  filled    : ∀ index e, c.presets.get? index = some e → e.immediate = false →
    c.request facade (.activatePreset index) =
      ({ c with helpText := e.description.getD "", input := e.text }, .activated (some .filled))
  /-- What executing a line changes. -/
  execution : ∀ line, (c.execute facade line).1 =
    { c with
        registry := (c.execute facade line).1.registry
        log      := (c.execute facade line).1.log
        history  := (c.execute facade line).1.history }

/-- Every console keeps the contract, wherever the records about it go. -/
theorem request_contract : c.RequestContract facade := by
  constructor
  case inPlace => exact c.requestInPlace_eq facade
  case failed => exact fun q => request_of_failed
  case commands =>
    intro q hq
    cases q with
    | register p handler =>
      rw [request, register_eq]
      cases c.registry.register p handler <;> rfl
    | unregister p => rfl
    | _ => contradiction
  case presets =>
    intro q hq
    cases q with
    | addPreset text name description group immediate =>
      rw [request, addPreset]
      cases c.presets.add text name description group immediate <;> rfl
    | removePreset | removePresetAt => rfl
    | _ => contradiction
  case executed =>
    intro index e h himmediate
    rw [request, activateAt_of_immediate facade h himmediate]
  case filled =>
    intro index e h hfilled
    rw [request, activateAt_of_filled facade h hfilled]
  case execution => exact fun line => (frame_execute facade line c).2

end Console

end DebugConsole
