import DebugConsole.Proofs.Preset.Order
import DebugConsole.Proofs.Preset.Run

/-!
# Removing presets

Several presets may bear one name, and the first of them is the one that is removed. A preset of a
new name is the first of its name wherever the order of groups has put it, so removing it takes back
what adding it has done.
-/

namespace DebugConsole

/-! ### The first preset of a name -/

namespace Preset

variable {name : String} {before after l : List Preset} {d e : Preset}

/-- A preset of a list, with those in front of it and behind it, that is the first of its name. -/
structure FirstNamed (name : String) (l before : List Preset) (e : Preset) (after : List Preset) :
    Prop where
  split : l = before ++ e :: after
  named : e.name = name
  first : ∀ d ∈ before, d.name ≠ name

lemma FirstNamed.eraseP (h : FirstNamed name l before e after) :
    l.eraseP (·.name == name) = before ++ after := by
  have hfirst : ∀ d ∈ before, ¬ (d.name == name) = true := by simpa using h.first
  rw [h.split, List.eraseP_append_right _ hfirst, List.eraseP_cons_of_pos (by simpa using h.named)]

lemma exists_firstNamed (h : ∃ d ∈ l, d.name = name) :
    ∃ before e after, FirstNamed name l before e after := by
  obtain ⟨d, hd, hname⟩ := h
  obtain ⟨e, before, after, hfirst, hnamed, hsplit, -⟩ :=
    List.exists_of_eraseP (p := fun d : Preset => d.name == name) hd (by simpa using hname)
  exact ⟨before, e, after, hsplit, by simpa using hnamed, by simpa using hfirst⟩

/-- A preset of a new name is the first of its name in any place. -/
lemma firstNamed_of_new (hnew : ∀ d ∈ before ++ after, d.name ≠ e.name) :
    FirstNamed e.name (before ++ e :: after) before e after where
  split := rfl
  named := rfl
  first := fun d hd => hnew d (List.mem_append_left after hd)

end Preset

/-! ### Catalogs -/

namespace Catalog

open Preset (FirstNamed)

variable {c c' d : Catalog} {text name : String} {description group : Option String}
variable {immediate : Bool} {before after : List Preset} {e : Preset}

lemma eq_of_entries (h : c.entries = d.entries) : c = d := by
  cases c; cases d; simp_all

lemma mem_names_iff : name ∈ c.names ↔ ∃ e ∈ c.entries, e.name = name := List.mem_map

lemma removeByName_of_absent (h : name ∉ c.names) : c.removeByName name = (c, false) := by
  have habsent : ∀ e ∈ c.entries, e.name ≠ name := fun e he hname =>
    h (mem_names_iff.mpr ⟨e, he, hname⟩)
  refine Prod.ext (eq_of_entries (List.eraseP_of_forall_not ?_)) ?_
  · simpa using habsent
  · simpa [removeByName] using habsent

lemma entries_removeByName_of_first (h : FirstNamed name c.entries before e after) :
    (c.removeByName name).1.entries = before ++ after ∧ (c.removeByName name).2 = true := by
  refine ⟨h.eraseP, List.any_eq_true.mpr ⟨e, ?_, by simpa using h.named⟩⟩
  rw [h.split]
  exact List.mem_append_right before (List.mem_cons_self ..)

/-- The preset that was added is the first of its name, and the others stand as they did before. -/
lemma removeByName_of_add (hadd : c.add text name description group immediate = .ok c')
    (hnew : Text.trim name ∉ c.names) : c'.removeByName (Text.trim name) = (c, true) := by
  set e := preset text name description group immediate
  obtain ⟨before, after, hentries, hinsert, -, -⟩ := c.ordered.insert_split e
  rw [← entries_of_add hadd] at hinsert
  have hothers : ∀ d ∈ before ++ after, d.name ≠ e.name := fun d hd hname =>
    hnew (mem_names_iff.mpr ⟨d, hentries ▸ hd, hname⟩)
  have hfirst : FirstNamed (Text.trim name) c'.entries before e after := by
    rw [hinsert]
    exact Preset.firstNamed_of_new hothers
  obtain ⟨hremoved, hfound⟩ := entries_removeByName_of_first hfirst
  exact Prod.ext (eq_of_entries (hremoved.trans hentries.symm)) hfound

/-! ### Additions and removals -/

/-- What additions to a catalog and removals from it do to each other. -/
structure Removals (c : Catalog) : Prop where
  /-- Nothing but a blank text or name keeps a preset from being added. -/
  accepted : ∀ {text name description group immediate},
    (∃ c', c.add text name description group immediate = .ok c') ↔
      Text.isBlankText text = false ∧ Text.isBlankText name = false
  /-- All presets are sorted again on an addition, and still none but the new one moves. -/
  moved    : ∀ {text name description group immediate c'},
    c.add text name description group immediate = .ok c' →
      let e := preset text name description group immediate
      c'.entries = Preset.sortByGroup (c.entries ++ [e]) ∧
        ∃ before after, c.entries = before ++ after ∧ c'.entries = before ++ e :: after
  /-- A preset of a new name is removed by its name, and then the catalog is the one before. -/
  undone   : ∀ {text name description group immediate c'},
    c.add text name description group immediate = .ok c' → Text.trim name ∉ c.names →
      c'.removeByName (Text.trim name) = (c, true)
  /-- The first preset of a name is removed, and all others keep their order. -/
  first    : ∀ name ∈ c.names, ∃ before e after, FirstNamed name c.entries before e after ∧
    (c.removeByName name).1.entries = before ++ after ∧ (c.removeByName name).2 = true
  absent   : ∀ name, name ∉ c.names → c.removeByName name = (c, false)

/-- In every catalog that operations lead to, removals take back additions of new names. -/
theorem removals_applyAll (ops : List Op) : Removals (empty.applyAll ops) := by
  set c := empty.applyAll ops
  constructor
  case accepted =>
    intro text name description group immediate
    rw [exists_add_eq_ok_iff, Op.added?]
    cases Text.isBlankText text <;> cases Text.isBlankText name <;> simp
  case moved =>
    intro text name description group immediate c' hadd e
    obtain ⟨before, after, hentries, hinsert, -, -⟩ := c.ordered.insert_split e
    rw [entries_of_add hadd]
    exact ⟨c.ordered.insert_eq_sortByGroup e, before, after, hentries, hinsert⟩
  case undone => exact removeByName_of_add
  case first =>
    intro name hname
    obtain ⟨before, e, after, hfirst⟩ := Preset.exists_firstNamed (mem_names_iff.mp hname)
    exact ⟨before, e, after, hfirst, entries_removeByName_of_first hfirst⟩
  case absent => exact fun name hname => removeByName_of_absent hname

end Catalog

end DebugConsole
