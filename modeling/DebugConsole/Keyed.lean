/-!
# Keyed lists

Lists of keys with values, in strictly ascending order of the keys. Keys are compared by code
points, which is also the order of their bytes.
-/

namespace DebugConsole.Keyed

universe u

variable {α : Type u}

def Ascending (l : List (String × α)) : Prop := l.Pairwise (·.1 < ·.1)

/-- Put a value under a key, in place of the one that is there. -/
def insert (k : String) (v : α) : List (String × α) → List (String × α)
  | []     => [(k, v)]
  | e :: l =>
      if k < e.1 then (k, v) :: e :: l
      else if k = e.1 then (k, v) :: l
      else e :: insert k v l

def erase (k : String) (l : List (String × α)) : List (String × α) := l.filter (·.1 != k)

def keys (l : List (String × α)) : List String := l.map (·.1)

theorem eq_or_mem_of_mem_insert {k : String} {v : α} {l : List (String × α)} {e : String × α}
    (h : e ∈ insert k v l) : e = (k, v) ∨ e ∈ l := by
  induction l with
  | nil => simpa [insert] using h
  | cons d l ih =>
    unfold insert at h
    split at h
    · simpa using h
    · split at h
      · rcases List.mem_cons.mp h with rfl | h
        · exact .inl rfl
        · exact .inr (List.mem_cons_of_mem _ h)
      · rcases List.mem_cons.mp h with rfl | h
        · exact .inr (List.mem_cons_self ..)
        · exact (ih h).imp id (List.mem_cons_of_mem _)

theorem Ascending.insert {l : List (String × α)} (h : Ascending l) (k : String) (v : α) :
    Ascending (insert k v l) := by
  induction l with
  | nil => exact List.pairwise_singleton ..
  | cons e l ih =>
    obtain ⟨he, hl⟩ := List.pairwise_cons.mp h
    unfold Keyed.insert
    split
    · next hk =>
      refine List.pairwise_cons.mpr ⟨fun d hd => ?_, h⟩
      rcases List.mem_cons.mp hd with rfl | hd
      · exact hk
      · exact String.lt_trans hk (he d hd)
    · next hk =>
      split
      · next heq => exact List.pairwise_cons.mpr ⟨fun d hd => heq ▸ he d hd, hl⟩
      · next hne =>
        refine List.pairwise_cons.mpr ⟨fun d hd => ?_, ih hl⟩
        rcases eq_or_mem_of_mem_insert hd with rfl | hd
        · exact Std.lt_of_le_of_ne (String.not_lt.mp hk) (Ne.symm hne)
        · exact he d hd

theorem lookup_cons (k : String) (v : α) (l : List (String × α)) (q : String) :
    ((k, v) :: l).lookup q = if q = k then some v else l.lookup q := by
  by_cases hq : q = k
  · rw [hq, List.lookup_cons_self, if_pos rfl]
  · rw [List.lookup_cons, beq_eq_false_iff_ne.mpr hq, if_neg hq]

theorem lookup_insert (k : String) (v : α) (l : List (String × α)) (q : String) :
    (insert k v l).lookup q = if q = k then some v else l.lookup q := by
  induction l with
  | nil => exact lookup_cons k v [] q
  | cons e l ih =>
    obtain ⟨d, w⟩ := e
    unfold insert
    split
    · exact lookup_cons ..
    · split
      · next heq =>
        obtain rfl : k = d := heq
        rw [lookup_cons, lookup_cons]
        split <;> rfl
      · next hne =>
        have hd : d ≠ k := fun h => hne h.symm
        rw [lookup_cons, lookup_cons, ih]
        by_cases hq : q = d
        · rw [if_pos hq, if_neg (hq ▸ hd), if_pos hq]
        · rw [if_neg hq, if_neg hq]

theorem lookup_erase (k : String) (l : List (String × α)) (q : String) :
    (erase k l).lookup q = if q = k then none else l.lookup q := by
  induction l with
  | nil => simp [erase]
  | cons e l ih =>
    obtain ⟨d, w⟩ := e
    rw [erase] at ih ⊢
    rw [List.filter_cons, lookup_cons]
    by_cases hd : d = k
    · rw [if_neg (by simp [hd]), ih]
      by_cases hq : q = k
      · rw [if_pos hq, if_pos hq]
      · rw [if_neg hq, if_neg hq, if_neg (hd ▸ hq)]
    · rw [if_pos (by simp [hd]), lookup_cons, ih]
      by_cases hq : q = d
      · rw [if_pos hq, if_neg (hq ▸ hd), if_pos hq]
      · rw [if_neg hq, if_neg hq]

theorem keys_insert_of_mem {k : String} {l : List (String × α)} (h : Ascending l)
    (hk : k ∈ keys l) (v : α) : keys (insert k v l) = keys l := by
  induction l with
  | nil => simp [keys] at hk
  | cons e l ih =>
    obtain ⟨he, hl⟩ := List.pairwise_cons.mp h
    unfold insert
    split
    · next hlt =>
      rcases List.mem_cons.mp hk with rfl | hk
      · exact absurd hlt (String.lt_irrefl _)
      · obtain ⟨d, hd, rfl⟩ := List.mem_map.mp hk
        exact absurd hlt (String.lt_asymm (he d hd))
    · split
      · next heq => simp [keys, heq]
      · next hne =>
        have hk : k ∈ keys l := (List.mem_cons.mp hk).resolve_left hne
        have := ih hl hk
        simp only [keys, List.map_cons] at this ⊢
        rw [this]

theorem mem_keys_of_lookup {k : String} {v : α} {l : List (String × α)}
    (h : l.lookup k = some v) : k ∈ keys l := by
  obtain ⟨before, after, rfl, -⟩ := List.lookup_eq_some_iff.mp h
  simp [keys]

theorem mem_keys_iff {k : String} {l : List (String × α)} :
    k ∈ keys l ↔ (l.lookup k).isSome = true := by
  constructor
  · intro hk
    obtain ⟨e, he, rfl⟩ := List.mem_map.mp hk
    rw [Option.isSome_iff_ne_none]
    intro hnone
    have hne := List.lookup_eq_none_iff.mp hnone e he
    simp at hne
  · intro hk
    obtain ⟨v, hv⟩ := Option.isSome_iff_exists.mp hk
    exact mem_keys_of_lookup hv

theorem Ascending.erase {l : List (String × α)} (h : Ascending l) (k : String) :
    Ascending (erase k l) := h.filter _

end DebugConsole.Keyed
