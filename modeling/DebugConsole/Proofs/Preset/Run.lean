import DebugConsole.Preset.Catalog
import Mathlib.Data.List.Induction
import Mathlib.Data.List.InsertIdx
import Mathlib.Tactic.Common

/-!
# Runs of catalog operations

What may be done to a catalog, as data. Presets with the same texts cannot be told apart in a
catalog, so a run is followed a second time with every preset bearing the number of the operation
that added it. The numbers change nothing, and they tell which presets are left of those added.
-/

namespace DebugConsole

/-! ### Stamps -/

/-- A preset with the number of the operation that added it. -/
structure Stamped where
  preset : Preset
  stamp  : Nat
deriving DecidableEq, Repr

namespace Stamped

variable {t u v : Stamped} {l : List Stamped}

/-- The order of groups, and within a group the order of addition. -/
def Before (t u : Stamped) : Prop :=
  t.preset.groupKey < u.preset.groupKey ∨
    (t.preset.groupKey = u.preset.groupKey ∧ t.stamp < u.stamp)

lemma Before.of_lt (h : t.preset.groupKey < u.preset.groupKey) (huv : Before u v) : Before t v := by
  rcases huv with huv | ⟨huv, -⟩
  · exact .inl (Std.lt_trans h huv)
  · exact .inl (huv ▸ h)

/-- What is added later is not in front, unless its group is. -/
lemma before_of_stamp_lt (hstamp : t.stamp < u.stamp)
    (h : ¬ u.preset.groupKey < t.preset.groupKey) : Before t u := by
  by_cases heq : t.preset.groupKey = u.preset.groupKey
  · exact .inr ⟨heq, hstamp⟩
  · exact .inl (Std.lt_of_le_of_ne (String.not_lt.mp h) heq)

/-- Put a preset into its place, which does not depend on numbers. -/
def insert (t : Stamped) : List Stamped → List Stamped
  | []     => [t]
  | u :: l => if t.preset.groupKey < u.preset.groupKey then t :: u :: l else u :: insert t l

lemma map_preset_insert (t : Stamped) (l : List Stamped) :
    (insert t l).map preset = Preset.insert t.preset (l.map preset) := by
  induction l with
  | nil => rfl
  | cons u l ih =>
    rw [insert, List.map_cons, Preset.insert]
    split
    · rfl
    · rw [List.map_cons, ih]

lemma mem_insert : u ∈ insert t l ↔ u = t ∨ u ∈ l := by
  induction l with
  | nil => simp [insert]
  | cons v l ih =>
    unfold insert
    split
    · rw [List.mem_cons]
    · rw [List.mem_cons, ih, List.mem_cons]
      exact or_left_comm

lemma pairwise_insert (h : l.Pairwise Before) (hl : ∀ u ∈ l, u.stamp < t.stamp) :
    (insert t l).Pairwise Before := by
  induction l with
  | nil => exact List.pairwise_singleton ..
  | cons u l ih =>
    obtain ⟨hu, hl'⟩ := List.pairwise_cons.mp h
    obtain ⟨hstamp, hstamps⟩ := List.forall_mem_cons.mp hl
    unfold insert
    split
    · next hlt =>
      refine List.pairwise_cons.mpr ⟨?_, h⟩
      intro v hv
      rcases List.mem_cons.mp hv with rfl | hv
      · exact .inl hlt
      · exact .of_lt hlt (hu v hv)
    · next hlt =>
      refine List.pairwise_cons.mpr ⟨?_, ih hl' hstamps⟩
      intro v hv
      rcases mem_insert.mp hv with rfl | hv
      · exact before_of_stamp_lt hstamp hlt
      · exact hu v hv

end Stamped

namespace Catalog

/-! ### Operations as data -/

/-- What may be done to a catalog. -/
inductive Op where
  | add          (text name : String) (description group : Option String) (immediate : Bool)
  | removeByName (name : String)
  | removeAt     (index : Nat)
  | clear
deriving DecidableEq, Repr

/-- The catalog after an operation; a preset that is refused changes nothing. -/
def apply (c : Catalog) : Op → Catalog
  | .add text name description group immediate =>
      match c.add text name description group immediate with
      | .ok c    => c
      | .error _ => c
  | .removeByName name => (c.removeByName name).1
  | .removeAt index    => (c.removeAt index).1
  | .clear             => c.clear

def applyAll (c : Catalog) (ops : List Op) : Catalog := ops.foldl apply c

lemma applyAll_append_singleton (c : Catalog) (ops : List Op) (op : Op) :
    c.applyAll (ops ++ [op]) = (c.applyAll ops).apply op := by
  simp [applyAll]

/-- The preset that an operation adds, unless it is refused or adds none. -/
def Op.added? : Op → Option Preset
  | .add text name description group immediate =>
      if Text.isBlankText text ∨ Text.isBlankText name then none
      else some (preset text name description group immediate)
  | _ => none

section

variable {c c' : Catalog} {text name : String} {description group : Option String}
variable {immediate : Bool}

/-- Whether a preset is refused depends on its texts alone. -/
lemma exists_add_eq_ok_iff : (∃ c', c.add text name description group immediate = .ok c') ↔
    (Op.add text name description group immediate).added?
      = some (preset text name description group immediate) := by
  unfold add Op.added?
  by_cases ht : Text.isBlankText text
  · simp [ht]
  · by_cases hn : Text.isBlankText name <;> simp [ht, hn]

lemma entries_of_add (h : c.add text name description group immediate = .ok c') :
    c'.entries = Preset.insert (preset text name description group immediate) c.entries := by
  unfold add at h
  split at h
  · contradiction
  · split at h
    · contradiction
    · exact (Except.ok.inj h) ▸ rfl

lemma entries_apply_add : (c.apply (.add text name description group immediate)).entries =
    (Op.add text name description group immediate).added?.elim c.entries
      fun e => Preset.insert e c.entries := by
  unfold apply Op.added?
  by_cases ht : Text.isBlankText text
  · simp [add, ht]
  · by_cases hn : Text.isBlankText name <;> simp [add, ht, hn]

end

/-! ### Following a run with stamps -/

/-- Stamped presets after an operation that bears a number. -/
def applyStamped (stamp : Nat) (l : List Stamped) : Op → List Stamped
  | .removeByName name => l.eraseP (·.preset.name == name)
  | .removeAt index    => l.eraseIdx index
  | .clear             => []
  | op@(.add ..)       => op.added?.elim l fun e => Stamped.insert ⟨e, stamp⟩ l

/-- The presets after operations that are numbered from zero on. -/
def stamped (ops : List Op) : List Stamped :=
  ops.zipIdx.foldl (fun l p => applyStamped p.2 l p.1) []

lemma stamped_append_singleton (ops : List Op) (op : Op) :
    stamped (ops ++ [op]) = applyStamped ops.length (stamped ops) op := by
  simp [stamped, List.zipIdx_append]

/-- An operation puts one preset into its place, or leaves a part of the presets as they stand. -/
lemma applyStamped_cases (stamp : Nat) (l : List Stamped) (op : Op) :
    (∃ e, op.added? = some e ∧ applyStamped stamp l op = Stamped.insert ⟨e, stamp⟩ l) ∨
      (applyStamped stamp l op).Sublist l := by
  cases op with
  | add text name description group immediate =>
    rw [applyStamped]
    cases hadded : (Op.add text name description group immediate).added? with
    | none => exact .inr (List.Sublist.refl _)
    | some e => exact .inl ⟨e, rfl, rfl⟩
  | removeByName name => exact .inr List.eraseP_sublist
  | removeAt index => exact .inr (List.eraseIdx_sublist ..)
  | clear => exact .inr (List.nil_sublist _)

/-- Stamps have no part in what an operation does. -/
lemma map_preset_applyStamped {c : Catalog} {l : List Stamped}
    (h : l.map (·.preset) = c.entries) (stamp : Nat) (op : Op) :
    (applyStamped stamp l op).map (·.preset) = (c.apply op).entries := by
  cases op with
  | add text name description group immediate =>
    rw [applyStamped, entries_apply_add, ← h]
    cases (Op.add text name description group immediate).added? with
    | none => rfl
    | some e => exact Stamped.map_preset_insert _ l
  | removeByName name =>
    rw [apply, entries_removeByName, ← h, List.eraseP_map]
    rfl
  | removeAt index =>
    rw [apply, entries_removeAt, ← h, List.eraseIdx_map]
    rfl
  | clear => rfl

theorem map_preset_stamped (ops : List Op) :
    (stamped ops).map (·.preset) = (empty.applyAll ops).entries := by
  induction ops using List.reverseRecOn with
  | nil => rfl
  | append_singleton ops op ih =>
    rw [stamped_append_singleton, applyAll_append_singleton]
    exact map_preset_applyStamped ih ops.length op

/-- The operation that a stamp tells has added the preset. -/
theorem added?_of_mem_stamped {ops : List Op} {t : Stamped} (ht : t ∈ stamped ops) :
    ops[t.stamp]?.bind Op.added? = some t.preset := by
  induction ops using List.reverseRecOn with
  | nil => contradiction
  | append_singleton ops op ih =>
    rw [stamped_append_singleton] at ht
    -- A preset that was there before this operation keeps its stamp.
    have hold (ht : t ∈ stamped ops) : (ops ++ [op])[t.stamp]?.bind Op.added? = some t.preset := by
      obtain ⟨op', hop', hadded⟩ := Option.bind_eq_some_iff.mp (ih ht)
      rw [List.getElem?_append_left (List.getElem?_eq_some_iff.mp hop').1, ih ht]
    rcases applyStamped_cases ops.length (stamped ops) op with ⟨e, hadded, happly⟩ | hsub
    · rw [happly] at ht
      rcases Stamped.mem_insert.mp ht with rfl | ht
      · rw [List.getElem?_concat_length, Option.bind_some, hadded]
      · exact hold ht
    · exact hold (hsub.mem ht)

lemma stamp_lt_of_mem_stamped {ops : List Op} {t : Stamped} (ht : t ∈ stamped ops) :
    t.stamp < ops.length := by
  obtain ⟨op, hop, -⟩ := Option.bind_eq_some_iff.mp (added?_of_mem_stamped ht)
  exact (List.getElem?_eq_some_iff.mp hop).1

/-- Every operation keeps the order of groups and of addition. -/
theorem pairwise_stamped (ops : List Op) : (stamped ops).Pairwise Stamped.Before := by
  induction ops using List.reverseRecOn with
  | nil => exact List.Pairwise.nil
  | append_singleton ops op ih =>
    rw [stamped_append_singleton]
    rcases applyStamped_cases ops.length (stamped ops) op with ⟨e, -, happly⟩ | hsub
    · rw [happly]
      exact Stamped.pairwise_insert ih fun u hu => stamp_lt_of_mem_stamped hu
    · exact ih.sublist hsub

end Catalog

end DebugConsole
