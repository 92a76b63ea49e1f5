import DebugConsole.Proofs.Registry.Admission
import Mathlib.Data.List.Sort

/-!
# Completions

The prefixes that start with a text stand together in the order of prefixes, for a text between two
of them starts like both. A longer text picks its completions from those of a shorter one. It does
not matter in which order the commands are looked through if the completions are sorted afterwards.
-/

namespace DebugConsole

/-! ### Texts that start alike -/

/-- A text starts with another one. -/
def StartsWith (start p : String) : Prop := start.toList <+: p.toList

instance (start p : String) : Decidable (StartsWith start p) :=
  inferInstanceAs (Decidable (_ <+: _))

/-- What lies between two lists that start alike starts like them. -/
lemma prefix_of_between {start as bs cs : List Char} (ha : start <+: as) (hc : start <+: cs)
    (hab : as < bs) (hbc : bs < cs) : start <+: bs := by
  induction start generalizing as bs cs with
  | nil => exact List.nil_prefix
  | cons x start ih =>
    obtain ⟨as, rfl, has⟩ := List.cons_prefix_iff.mp ha
    obtain ⟨cs, rfl, hcs⟩ := List.cons_prefix_iff.mp hc
    cases bs with
    | nil => exact absurd hab (List.not_lt_nil _)
    | cons y bs =>
      rw [List.cons_lt_cons_iff] at hab hbc
      -- The first character is neither greater nor less than the one that both others have.
      obtain rfl : x = y := by
        rcases hab with hxy | ⟨hxy, -⟩
        · rcases hbc with hyx | ⟨hyx, -⟩
          · exact absurd hyx (Char.lt_asymm hxy)
          · exact hyx.symm
        · exact hxy
      have hab : as < bs := (hab.resolve_left (Char.lt_irrefl _)).2
      have hbc : bs < cs := (hbc.resolve_left (Char.lt_irrefl _)).2
      exact List.cons_prefix_cons.mpr ⟨rfl, ih has hcs hab hbc⟩

lemma StartsWith.of_between {start p q r : String} (hp : StartsWith start p)
    (hr : StartsWith start r) (hpq : p < q) (hqr : q < r) : StartsWith start q :=
  prefix_of_between hp hr hpq hqr

lemma StartsWith.of_append {start more p : String} (h : StartsWith (start ++ more) p) :
    StartsWith start p := by
  rw [StartsWith, String.toList_append] at h
  exact (List.prefix_append _ _).trans h

/-! ### Classes without gaps -/

section

variable {α : Type} [LT α] {P : α → Prop} [DecidablePred P] {l : List α} {a : α}

/-- Behind an item of the class, the others of the class come first. -/
lemma filter_prefix (ha : P a) (hal : ∀ b ∈ l, a < b) (hl : l.Pairwise (· < ·))
    (hgap : ∀ {a b c}, P a → P c → a < b → b < c → P b) : l.filter P <+: l := by
  induction l with
  | nil => exact List.prefix_rfl
  | cons b l ih =>
    obtain ⟨hab, hal⟩ := List.forall_mem_cons.mp hal
    obtain ⟨hbl, hl⟩ := List.pairwise_cons.mp hl
    by_cases hb : P b
    · rw [List.filter_cons_of_pos (by simpa using hb)]
      exact List.cons_prefix_cons.mpr ⟨rfl, ih hal hl⟩
    · have hnone : l.filter P = [] := by
        refine List.filter_eq_nil_iff.mpr fun c hc hcP => hb ?_
        exact hgap ha (by simpa using hcP) hab (hbl c hc)
      rw [List.filter_cons_of_neg (by simpa using hb), hnone]
      exact List.nil_prefix

/-- In an ascending list, the items of a class stand together if what lies between two of them is
of the class. -/
lemma filter_infix (hl : l.Pairwise (· < ·))
    (hgap : ∀ {a b c}, P a → P c → a < b → b < c → P b) : l.filter P <:+: l := by
  induction l with
  | nil => exact List.infix_rfl
  | cons a l ih =>
    obtain ⟨hal, hl⟩ := List.pairwise_cons.mp hl
    by_cases ha : P a
    · rw [List.filter_cons_of_pos (by simpa using ha)]
      exact (List.cons_prefix_cons.mpr ⟨rfl, filter_prefix ha hal hl hgap⟩).isInfix
    · rw [List.filter_cons_of_neg (by simpa using ha)]
      exact (ih hl).trans (List.suffix_cons a l).isInfix

end

/-! ### Sorting -/

/-- A list of texts in their order. -/
def sorted (l : List String) : List String := l.mergeSort (· ≤ ·)

/-- However its items are mixed, an ascending list is what sorting them gives. -/
lemma sorted_of_perm {keys l : List String} (hl : l.Pairwise (· < ·)) (h : keys.Perm l) :
    sorted keys = l := by
  have htrans (a b c : String) (hab : decide (a ≤ b) = true) (hbc : decide (b ≤ c) = true) :
      decide (a ≤ c) = true := by
    rw [decide_eq_true_iff] at *
    exact Std.le_trans hab hbc
  have htotal (a b : String) : (decide (a ≤ b) || decide (b ≤ a)) = true := by
    simpa using Std.le_total (a := a) (b := b)
  have hle : (sorted keys).Pairwise (· ≤ ·) := by
    simpa [sorted] using List.pairwise_mergeSort htrans htotal keys
  exact ((List.mergeSort_perm keys _).trans h).eq_of_pairwise
    (fun _ _ _ _ hab hba => Std.le_antisymm hab hba) hle (hl.imp Std.le_of_lt)

/-! ### The completions of a registry -/

namespace Registry

variable {η : Type} (r : Registry η) (start : String)

lemma prefixes_ascending : r.prefixes.Pairwise (· < ·) := List.pairwise_map.mpr r.ascending

lemma completions_eq_filter : r.completions start = r.prefixes.filter (StartsWith start) := by
  refine List.filter_congr fun p _ => ?_
  rw [Bool.eq_iff_iff, List.isPrefixOf_iff_prefix, decide_eq_true_iff, StartsWith]

lemma mem_completions {p : String} :
    p ∈ r.completions start ↔ p ∈ r.prefixes ∧ StartsWith start p := by
  simp [completions_eq_filter]

/-- Which commands complete a text, and in which order. -/
structure CompletionLaws : Prop where
  /-- The completions are the prefixes that start with the text. -/
  filter     : r.completions start = r.prefixes.filter (StartsWith start)
  /-- They stand together in the order of prefixes. -/
  contiguous : r.completions start <:+: r.prefixes
  /-- A longer text picks from the completions of a shorter one. -/
  refine     : ∀ more, r.completions (start ++ more)
    = (r.completions start).filter (StartsWith (start ++ more))
  /-- In whatever order the prefixes are kept, sorting them lists them. -/
  listing    : ∀ keys : List String, keys.Perm r.prefixes → sorted keys = r.prefixes
  /-- In whatever order the prefixes are kept, picking those that start with the text and sorting
  them gives the completions. -/
  unordered  : ∀ keys : List String, keys.Perm r.prefixes →
    sorted (keys.filter (StartsWith start)) = r.completions start

lemma completionLaws : r.CompletionLaws start := by
  have hascending := r.prefixes_ascending
  constructor
  case filter => exact r.completions_eq_filter start
  case contiguous =>
    rw [completions_eq_filter]
    exact filter_infix hascending fun hp hq => hp.of_between hq
  case refine =>
    intro more
    rw [completions_eq_filter, completions_eq_filter, List.filter_filter]
    refine List.filter_congr fun p _ => ?_
    rw [Bool.eq_iff_iff, Bool.and_eq_true, decide_eq_true_iff, decide_eq_true_iff]
    exact (and_iff_left_of_imp StartsWith.of_append).symm
  case listing => exact fun keys h => sorted_of_perm hascending h
  case unordered =>
    intro keys h
    rw [completions_eq_filter]
    exact sorted_of_perm (hascending.filter _) (h.filter _)

end Registry

end DebugConsole
