import DebugConsole.Registry
import Mathlib.Tactic.Common

/-!
# Admission of prefixes

What a prefix has to be like to be registered, and which of several objections to it is the one
that is reported: that it is blank comes first, then its form, then that it is taken.
-/

namespace DebugConsole

variable {sentinel : Option Char} {p : String}

/-- A prefix that lacks the sentinel or has a blank in it. -/
def Malformed (sentinel : Option Char) (p : String) : Prop :=
  (∃ c ∈ sentinel, p.toList.head? ≠ some c) ∨ ∃ c ∈ p.toList, Text.isBlank c = true

/-- The objection to a prefix, whatever is registered already. -/
inductive Verdict (sentinel : Option Char) (p : String) : Option ConsoleError → Prop where
  | blank (text : String) (h : Text.isBlankText p = true) :
      Verdict sentinel p (some (.invalidArgument text))
  | malformed (text : String) (h : Text.isBlankText p = false) (h' : Malformed sentinel p) :
      Verdict sentinel p (some (.invalidFormat text))
  | admitted (h : Text.isBlankText p = false) (h' : ¬ Malformed sentinel p) :
      Verdict sentinel p none

lemma verdict (sentinel : Option Char) (p : String) :
    Verdict sentinel p (refusal? sentinel p) := by
  unfold refusal?
  split
  case isTrue hblank => exact .blank _ hblank
  case isFalse hblank =>
    have hblank : Text.isBlankText p = false := by simpa using hblank
    split
    case h_1 c hfilter =>
      obtain ⟨hc, hhead⟩ := Option.filter_eq_some_iff.mp hfilter
      exact .malformed _ hblank (.inl ⟨c, hc, by simpa using hhead⟩)
    case h_2 hfilter =>
      have hsentinel : ∀ c ∈ sentinel, p.toList.head? = some c := by
        simpa [Option.filter_eq_none_iff] using hfilter
      split
      case isTrue hany => exact .malformed _ hblank (.inr (by simpa using hany))
      case isFalse hany =>
        refine .admitted hblank ?_
        rintro (⟨c, hc, hhead⟩ | hchars)
        · exact hhead (hsentinel c hc)
        · exact hany (by simpa using hchars)

lemma refusal?_eq_none_iff :
    refusal? sentinel p = none ↔ Text.isBlankText p = false ∧ ¬ Malformed sentinel p := by
  have h := verdict sentinel p
  generalize refusal? sentinel p = objection at h ⊢
  cases h <;> simp_all

/-- What an admitted prefix looks like. -/
structure Admissible (sentinel : Option Char) (p : String) : Prop where
  nonempty : p ≠ ""
  solid    : ∀ c ∈ p.toList, Text.isBlank c = false
  starts   : ∀ c ∈ sentinel, p.toList.head? = some c

lemma refusal?_eq_none_iff_admissible : refusal? sentinel p = none ↔ Admissible sentinel p := by
  rw [refusal?_eq_none_iff, Malformed, not_or]
  constructor
  · rintro ⟨hblank, hstarts, hsolid⟩
    refine ⟨?_, by simpa using hsolid, by simpa using hstarts⟩
    rintro rfl
    exact absurd hblank (by decide)
  · rintro ⟨nonempty, solid, starts⟩
    refine ⟨?_, by simpa using starts, by simpa using solid⟩
    obtain ⟨c, cs, hp⟩ := List.exists_cons_of_ne_nil (mt String.toList_eq_nil_iff.mp nonempty)
    rw [hp] at solid
    simp [Text.isBlankText, hp, solid c List.mem_cons_self]

lemma Admissible.append {text : String} (h : Admissible sentinel p)
    (htext : ∀ c ∈ text.toList, Text.isBlank c = false) : Admissible sentinel (p ++ text) := by
  have hp : p.toList ≠ [] := mt String.toList_eq_nil_iff.mp h.nonempty
  constructor
  case nonempty =>
    intro hempty
    have := congrArg String.toList hempty
    simp [hp] at this
  case solid =>
    simp only [String.toList_append, List.mem_append]
    rintro c (hc | hc)
    · exact h.solid c hc
    · exact htext c hc
  case starts =>
    intro c hc
    rw [String.toList_append, List.head?_append, h.starts c hc]
    rfl

namespace Registry

variable {η : Type} {r : Registry η} {handler : η}

lemma admissible (r : Registry η) {p : String} (hp : p ∈ r.prefixes) :
    Admissible r.sentinel p := by
  obtain ⟨e, he, rfl⟩ := List.mem_map.mp hp
  exact refusal?_eq_none_iff_admissible.mp (r.admitted e he)

/-- What registering a command comes to. -/
inductive Admission (r : Registry η) (p : String) (handler : η) :
    Except ConsoleError (Registry η) → Prop where
  | blank (text : String) (h : Text.isBlankText p = true) :
      Admission r p handler (.error (.invalidArgument text))
  | malformed (text : String) (h : Text.isBlankText p = false) (h' : Malformed r.sentinel p) :
      Admission r p handler (.error (.invalidFormat text))
  | taken (h : refusal? r.sentinel p = none) (h' : p ∈ r.prefixes) :
      Admission r p handler (.error (.duplicatePrefix p))
  | accepted (h : refusal? r.sentinel p = none) (h' : p ∉ r.prefixes) :
      Admission r p handler (.ok (r.put p handler h))

lemma admission (r : Registry η) (p : String) (handler : η) :
    Admission r p handler (r.register p handler) := by
  cases h : refusal? r.sentinel p with
  | some e =>
    rw [register_of_refusal h]
    have hverdict := verdict r.sentinel p
    rw [h] at hverdict
    cases hverdict with
    | blank text hblank => exact .blank text hblank
    | malformed text hblank hform => exact .malformed text hblank hform
  | none =>
    rw [register_of_admitted h]
    by_cases hp : p ∈ r.prefixes
    · rw [if_pos (contains_iff.mpr hp)]
      exact .taken h hp
    · rw [if_neg (mt contains_iff.mp hp)]
      exact .accepted h hp

lemma lookup_eq_none_iff : r.lookup p = none ↔ p ∉ r.prefixes := by
  rw [← contains_iff, contains]
  simp

/-- A registration that is accepted has put the handler under a prefix that was free. -/
lemma eq_put_of_register {r' : Registry η} (h : r.register p handler = .ok r') :
    p ∉ r.prefixes ∧ ∃ admitted, r' = r.put p handler admitted := by
  have hadmission := r.admission p handler
  rw [h] at hadmission
  cases hadmission with
  | accepted admitted free => exact ⟨free, admitted, rfl⟩

lemma lookup_of_register {r' : Registry η} (h : r.register p handler = .ok r') (q : String) :
    r'.lookup q = if q = p then some handler else r.lookup q := by
  obtain ⟨-, admitted, rfl⟩ := eq_put_of_register h
  exact lookup_put ..

lemma mem_prefixes_of_register {r' : Registry η} (h : r.register p handler = .ok r') :
    p ∈ r'.prefixes := by
  rw [← contains_iff, contains, lookup_of_register h, if_pos rfl, Option.isSome_some]

lemma sentinel_of_register {r' : Registry η} (h : r.register p handler = .ok r') :
    r'.sentinel = r.sentinel := by
  obtain ⟨-, admitted, rfl⟩ := eq_put_of_register h
  rfl

lemma exists_register_eq_ok_iff (handler : η) :
    (∃ r', r.register p handler = .ok r') ↔ Admissible r.sentinel p ∧ p ∉ r.prefixes := by
  have hadmission := r.admission p handler
  rw [← refusal?_eq_none_iff_admissible, refusal?_eq_none_iff]
  generalize r.register p handler = result at hadmission ⊢
  cases hadmission with
  | blank text h | malformed text h h' => simp_all
  | taken h h' | accepted h h' => simp [← refusal?_eq_none_iff, h, h']

/-- How a registration ends, by what the prefix is like. -/
structure AdmissionRule (r : Registry η) (p : String) (handler : η) : Prop where
  invalidArgument : (∃ text, r.register p handler = .error (.invalidArgument text)) ↔
    Text.isBlankText p = true
  invalidFormat   : (∃ text, r.register p handler = .error (.invalidFormat text)) ↔
    Text.isBlankText p = false ∧ Malformed r.sentinel p
  duplicatePrefix : r.register p handler = .error (.duplicatePrefix p) ↔
    Text.isBlankText p = false ∧ ¬ Malformed r.sentinel p ∧ p ∈ r.prefixes
  success         : (∃ r', r.register p handler = .ok r') ↔
    Text.isBlankText p = false ∧ ¬ Malformed r.sentinel p ∧ p ∉ r.prefixes

theorem admissionRule (r : Registry η) (p : String) (handler : η) :
    r.AdmissionRule p handler := by
  have h := r.admission p handler
  constructor
  all_goals
    generalize r.register p handler = result at h ⊢
    cases h with
    | blank text h | malformed text h h' => simp_all
    | taken h h' | accepted h h' =>
      obtain ⟨hblank, hform⟩ := refusal?_eq_none_iff.mp h
      simp [hblank, hform, h']

end Registry

end DebugConsole
