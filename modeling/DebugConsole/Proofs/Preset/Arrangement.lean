import DebugConsole.Proofs.Preset.Order
import DebugConsole.Proofs.Preset.Run

/-!
# The arrangement of a catalog

How the presets stand in a catalog after any operations on the empty one. That groups ascend and
texts are trimmed is part of every catalog; together they keep every group in one piece and the
ungrouped presets in front. The order within a group is told by the stamps of the run.
-/

namespace DebugConsole

/-! ### Groups and their keys -/

namespace Preset

variable {d e : Preset}

/-- No named group has the key of the ungrouped presets. -/
lemma Normal.groupKey_eq_empty_iff (h : e.Normal) : e.groupKey = "" ↔ e.group = none := by
  cases hgroup : e.group with
  | none => simp [groupKey, hgroup]
  | some name =>
    have hname : name ≠ "" := (h.group name hgroup).2
    simp [groupKey, hgroup, hname]

/-- Groups are told apart by their keys. -/
lemma Normal.groupKey_eq_iff (hd : d.Normal) (he : e.Normal) :
    d.groupKey = e.groupKey ↔ d.group = e.group := by
  constructor
  · intro hkey
    cases hgroup : e.group with
    | none => exact hd.groupKey_eq_empty_iff.mp (hkey.trans (he.groupKey_eq_empty_iff.mpr hgroup))
    | some name =>
      cases hgroup' : d.group with
      | none =>
        have := he.groupKey_eq_empty_iff.mp (hkey ▸ hd.groupKey_eq_empty_iff.mpr hgroup')
        exact absurd (this.symm.trans hgroup) (by simp)
      | some name' => simpa [groupKey, hgroup, hgroup'] using hkey
  · intro hgroup
    rw [groupKey, groupKey, hgroup]

end Preset

namespace Catalog

/-! ### Places -/

variable {c : Catalog} {i j k : Nat} {d e f : Preset}

lemma get?_mem (h : c.get? i = some e) : e ∈ c.entries := List.mem_of_getElem? h

lemma groupKey_le (hij : i ≤ j) (hd : c.get? i = some d) (he : c.get? j = some e) :
    d.groupKey ≤ e.groupKey := by
  obtain ⟨hi, rfl⟩ := List.getElem?_eq_some_iff.mp hd
  obtain ⟨hj, rfl⟩ := List.getElem?_eq_some_iff.mp he
  rcases Nat.eq_or_lt_of_le hij with rfl | hij
  · exact Std.le_refl _
  · exact List.pairwise_iff_getElem.mp c.ordered i j hi hj hij

/-- Between two presets of a group there is no other group. -/
lemma group_eq_of_between (hij : i ≤ j) (hjk : j ≤ k) (hd : c.get? i = some d)
    (he : c.get? j = some e) (hf : c.get? k = some f) (hgroup : d.group = f.group) :
    e.group = d.group := by
  have hd' := c.normal d (get?_mem hd)
  have he' := c.normal e (get?_mem he)
  have hf' := c.normal f (get?_mem hf)
  rw [← he'.groupKey_eq_iff hd']
  refine Std.le_antisymm ?_ (groupKey_le hij hd he)
  rw [(hd'.groupKey_eq_iff hf').mpr hgroup]
  exact groupKey_le hjk he hf

/-- In front of an ungrouped preset there are none but ungrouped ones. -/
lemma group_eq_none_of_le (hij : i ≤ j) (hd : c.get? i = some d) (he : c.get? j = some e)
    (hgroup : e.group = none) : d.group = none := by
  have hkey := groupKey_le hij hd he
  rw [(c.normal e (get?_mem he)).groupKey_eq_empty_iff.mpr hgroup] at hkey
  rw [← (c.normal d (get?_mem hd)).groupKey_eq_empty_iff]
  exact Std.le_antisymm hkey (String.not_lt.mp (List.not_lt_nil d.groupKey.toList))

/-! ### The whole catalog -/

/-- How the presets stand in a catalog after a run of operations on the empty one. -/
structure Arranged (ops : List Op) (c : Catalog) : Prop where
  /-- The keys of groups do not descend; no group counts as the empty text. -/
  ascending   : (c.entries.map Preset.groupKey).Pairwise (· ≤ ·)
  contiguous  : ∀ {i j k d e f}, i ≤ j → j ≤ k → c.get? i = some d → c.get? j = some e →
    c.get? k = some f → d.group = f.group → e.group = d.group
  ungrouped   : ∀ {i j d e}, i ≤ j → c.get? i = some d → c.get? j = some e →
    e.group = none → d.group = none
  survivors   : (stamped ops).map (·.preset) = c.entries
  /-- A stamp is the number of the operation that added the preset. -/
  origin      : ∀ t ∈ stamped ops, ops[t.stamp]?.bind Op.added? = some t.preset
  /-- What is left of a group stands in the order of addition. -/
  insertion   : (stamped ops).Pairwise fun t u =>
    t.preset.group = u.preset.group → t.stamp < u.stamp
  accepted    : ∀ {text name description group immediate},
    (∃ c', c.add text name description group immediate = .ok c') ↔
      (Op.add text name description group immediate).added?
        = some (preset text name description group immediate)
  /-- A preset that is added comes behind all whose keys are not greater, in front of all others,
  and these keep their order. -/
  place       : ∀ {text name description group immediate c'},
    c.add text name description group immediate = .ok c' →
      let e := preset text name description group immediate
      ∃ before after, c.entries = before ++ after ∧ c'.entries = before ++ e :: after ∧
        (∀ d ∈ before, d.groupKey ≤ e.groupKey) ∧ ∀ d ∈ after, e.groupKey < d.groupKey
  /-- It is appended, and then the catalog is sorted by groups in a stable way. -/
  sorted      : ∀ {text name description group immediate c'},
    c.add text name description group immediate = .ok c' →
      c'.entries = Preset.sortByGroup (c.entries ++ [preset text name description group immediate])
  normal      : ∀ e ∈ c.entries, e.Normal
  /-- No named group has the key of the ungrouped presets. -/
  keys        : ∀ e ∈ c.entries, e.groupKey = "" ↔ e.group = none

/-- Every run of operations on the empty catalog keeps this arrangement. -/
theorem arranged_applyAll (ops : List Op) : Arranged ops (empty.applyAll ops) := by
  set c := empty.applyAll ops
  constructor
  case ascending => exact List.pairwise_map.mpr c.ordered
  case contiguous => exact group_eq_of_between
  case ungrouped => exact group_eq_none_of_le
  case survivors => exact map_preset_stamped ops
  case origin => exact fun t ht => added?_of_mem_stamped ht
  case insertion =>
    refine (pairwise_stamped ops).imp ?_
    rintro t u (hkey | ⟨-, hstamp⟩) hgroup
    · rw [Preset.groupKey, hgroup] at hkey
      exact absurd hkey (Std.lt_irrefl)
    · exact hstamp
  case accepted => exact exists_add_eq_ok_iff
  case place =>
    intro text name description group immediate c' h e
    rw [entries_of_add h]
    exact c.ordered.insert_split e
  case sorted =>
    intro text name description group immediate c' h
    rw [entries_of_add h]
    exact c.ordered.insert_eq_sortByGroup _
  case normal => exact c.normal
  case keys => exact fun e he => (c.normal e he).groupKey_eq_empty_iff

end Catalog

end DebugConsole
