import DebugConsole.Preset.Catalog
import Mathlib.Tactic.Common

/-!
# The order of presets

A list of presets in the order of their groups is told by its groups alone, each with its presets
in their order. Putting a preset into such a list leaves all other groups as they are and adds the
preset at the end of its own, so it is the same as appending the preset and sorting the list by
groups in a stable way.
-/

namespace DebugConsole.Preset

variable {d e : Preset} {l m : List Preset} {key : String}

/-! ### Presets of one key -/

/-- The presets whose groups have a key, in the order of the list. -/
def withKey (key : String) (l : List Preset) : List Preset := l.filter (·.groupKey = key)

@[simp] lemma withKey_nil : withKey key [] = [] := rfl

@[simp] lemma withKey_append (l m : List Preset) :
    withKey key (l ++ m) = withKey key l ++ withKey key m :=
  List.filter_append ..

lemma withKey_cons_of_eq (h : e.groupKey = key) : withKey key (e :: l) = e :: withKey key l :=
  List.filter_cons_of_pos (by simpa using h)

lemma withKey_cons_of_ne (h : e.groupKey ≠ key) : withKey key (e :: l) = withKey key l :=
  List.filter_cons_of_neg (by simpa using h)

lemma mem_withKey : e ∈ withKey key l ↔ e ∈ l ∧ e.groupKey = key := by simp [withKey]

lemma withKey_eq_nil (h : ∀ e ∈ l, e.groupKey ≠ key) : withKey key l = [] :=
  List.filter_eq_nil_iff.mpr fun e he => by simpa using h e he

/-! ### Putting a preset into its place -/

/-- A preset comes behind all those whose keys are not greater than its own, and in front of all
others. -/
lemma Ordered.insert_split (h : Ordered l) (e : Preset) :
    ∃ before after, l = before ++ after ∧ Preset.insert e l = before ++ e :: after ∧
      (∀ d ∈ before, d.groupKey ≤ e.groupKey) ∧ ∀ d ∈ after, e.groupKey < d.groupKey := by
  induction l with
  | nil => exact ⟨[], [], rfl, rfl, by simp, by simp⟩
  | cons c l ih =>
    obtain ⟨hc, hl⟩ := List.pairwise_cons.mp h
    by_cases hlt : e.groupKey < c.groupKey
    · refine ⟨[], c :: l, rfl, by rw [Preset.insert, if_pos hlt, List.nil_append], by simp, ?_⟩
      intro d hd
      rcases List.mem_cons.mp hd with rfl | hd
      · exact hlt
      · exact Std.lt_of_lt_of_le hlt (hc d hd)
    · obtain ⟨before, after, rfl, hinsert, hbefore, hafter⟩ := ih hl
      refine ⟨c :: before, after, rfl, ?_, ?_, hafter⟩
      · rw [Preset.insert, if_neg hlt, hinsert, List.cons_append]
      · intro d hd
        rcases List.mem_cons.mp hd with rfl | hd
        · exact String.not_lt.mp hlt
        · exact hbefore d hd

lemma Ordered.withKey_insert (h : Ordered l) (e : Preset) (key : String) :
    withKey key (Preset.insert e l) = withKey key l ++ withKey key [e] := by
  obtain ⟨before, after, rfl, hinsert, -, hafter⟩ := h.insert_split e
  rw [hinsert, withKey_append, withKey_append, List.append_assoc]
  congr 1
  -- No preset behind the new one has its key, so the new one is the last of its group.
  by_cases he : e.groupKey = key
  · have hnone : withKey key after = [] :=
      withKey_eq_nil fun d hd hkey => Std.lt_irrefl (he.trans hkey.symm ▸ hafter d hd)
    rw [withKey_cons_of_eq he, withKey_cons_of_eq he, hnone, withKey_nil, List.nil_append]
  · rw [withKey_cons_of_ne he, withKey_cons_of_ne he, withKey_nil, List.append_nil]

/-! ### Stable sorting -/

lemma Ordered.head_le (h : Ordered (e :: l)) (hd : d ∈ e :: l) : e.groupKey ≤ d.groupKey := by
  rcases List.mem_cons.mp hd with rfl | hd
  · exact Std.le_refl _
  · exact (List.pairwise_cons.mp h).1 d hd

lemma mem_iff_of_withKey (h : ∀ key, withKey key l = withKey key m) (e : Preset) :
    e ∈ l ↔ e ∈ m := by
  simpa [mem_withKey] using congrArg (e ∈ ·) (h e.groupKey)

/-- Ordered lists with the same presets of every key are the same. -/
theorem Ordered.eq_of_withKey (hl : Ordered l) (hm : Ordered m)
    (h : ∀ key, withKey key l = withKey key m) : l = m := by
  induction l generalizing m with
  | nil =>
    cases m with
    | nil => rfl
    | cons e m => simpa using mem_iff_of_withKey h e
  | cons d l ih =>
    cases m with
    | nil => simpa using mem_iff_of_withKey h d
    | cons e m =>
      have hkey : d.groupKey = e.groupKey := Std.le_antisymm
        (hl.head_le ((mem_iff_of_withKey h e).mpr (List.mem_cons_self ..)))
        (hm.head_le ((mem_iff_of_withKey h d).mp (List.mem_cons_self ..)))
      have hhead := h e.groupKey
      rw [withKey_cons_of_eq hkey, withKey_cons_of_eq rfl] at hhead
      obtain rfl : d = e := (List.cons.inj hhead).1
      have htail (key : String) : withKey key l = withKey key m := by
        have := h key
        by_cases hd : d.groupKey = key
        · rw [withKey_cons_of_eq hd, withKey_cons_of_eq hd] at this
          exact (List.cons.inj this).2
        · rwa [withKey_cons_of_ne hd, withKey_cons_of_ne hd] at this
      rw [ih (List.pairwise_cons.mp hl).2 (List.pairwise_cons.mp hm).2 htail]

/-- Whether a preset need not come behind another one. -/
def keyLe (d e : Preset) : Bool := decide (d.groupKey ≤ e.groupKey)

/-- The stable sort of a list by the keys of groups. -/
def sortByGroup (l : List Preset) : List Preset := l.mergeSort keyLe

lemma keyLe_iff : keyLe d e = true ↔ d.groupKey ≤ e.groupKey := decide_eq_true_iff

lemma keyLe_trans (c d e : Preset) (hcd : keyLe c d = true) (hde : keyLe d e = true) :
    keyLe c e = true :=
  keyLe_iff.mpr (Std.le_trans (keyLe_iff.mp hcd) (keyLe_iff.mp hde))

lemma keyLe_total (d e : Preset) : (keyLe d e || keyLe e d) = true := by
  simpa [keyLe_iff] using Std.le_total (a := d.groupKey) (b := e.groupKey)

lemma ordered_sortByGroup (l : List Preset) : Ordered (sortByGroup l) :=
  (List.pairwise_mergeSort keyLe_trans keyLe_total l).imp keyLe_iff.mp

/-- Presets of one key are in order wherever they stand, so a stable sort leaves them so. -/
lemma withKey_sortByGroup (key : String) (l : List Preset) :
    withKey key (sortByGroup l) = withKey key l := by
  have hsame : (withKey key l).Pairwise (keyLe · ·) := by
    refine List.pairwise_of_forall_mem_list fun d hd e he => keyLe_iff.mpr ?_
    have hkey : d.groupKey = e.groupKey := (mem_withKey.mp hd).2.trans (mem_withKey.mp he).2.symm
    exact hkey ▸ Std.le_refl _
  have hsub : (withKey key l).Sublist (sortByGroup l) :=
    List.sublist_mergeSort keyLe_trans keyLe_total hsame List.filter_sublist
  have hsub' : (withKey key l).Sublist (withKey key (sortByGroup l)) := by
    simpa [withKey] using hsub.filter (·.groupKey = key)
  have hlength : (withKey key l).length = (withKey key (sortByGroup l)).length :=
    ((List.mergeSort_perm l keyLe).filter _).length_eq.symm
  exact (hsub'.eq_of_length hlength).symm

/-- Putting a preset into its place is appending it and sorting by groups. -/
theorem Ordered.insert_eq_sortByGroup (h : Ordered l) (e : Preset) :
    Preset.insert e l = sortByGroup (l ++ [e]) := by
  refine (h.insert e).eq_of_withKey (ordered_sortByGroup _) fun key => ?_
  rw [h.withKey_insert, withKey_sortByGroup, withKey_append]

end DebugConsole.Preset
