import DebugConsole.Proofs.Toml.Distinct
import DebugConsole.Toml.Reader
import Mathlib.Tactic.Common

/-!
# What documents hold

Whatever a value or a line is read from, no table in it has a key twice. So the table of a document
that is read has every key once, and so have the tables inside it.
-/

namespace DebugConsole.Toml

open Text (Rest Scanned)

/-- Whatever is read has a property. -/
def Reading.All {α : Type} {s : List Char} (P : α → Prop) (r : Reading α s) : Prop :=
  ∀ x ∈ r, P x.value

section

variable {α β : Type} {s t : List Char} {P : α → Prop} {Q : β → Prop} {r : Reading α s}

lemma Reading.all_none : Reading.All P (none : Reading α s) := fun _ hx => nomatch hx

lemma Reading.all_some {x : Scanned α s} (h : P x.value) : Reading.All P (some x) := by
  rintro _ ⟨⟩
  exact h

lemma Reading.All.map (h : Reading.All P r) {f : Scanned α s → Scanned β t}
    (hf : ∀ x, P x.value → Q (f x).value) : Reading.All Q (r.map f) := by
  intro y hy
  obtain ⟨x, hx, rfl⟩ := Option.map_eq_some_iff.mp hy
  exact hf x (h x hx)

end

/-! ### Scalars -/

variable {s : List Char}

lemma distinct_integer {n : Int} {v : Value} (h : integer? n = some v) : v.Distinct := by
  unfold integer? at h
  split at h
  case isTrue => cases h; exact .integer n
  case isFalse => cases h

lemma distinct_float {negative : Bool} {ds : List Char} {e : Int} {v : Value}
    (h : float? negative ds e = some v) : v.Distinct := by
  dsimp only [float?] at h
  split at h
  case isTrue => cases h; exact .float _
  case isFalse =>
    split at h
    case isTrue => cases h
    case isFalse => cases h; exact .float _

lemma inBase_distinct (base : Nat) (s : List Char) :
    Reading.All Value.Distinct (inBase base s) := by
  dsimp only [inBase]
  split
  case h_1 => exact Reading.all_none
  case h_2 ds _ =>
    intro x hx
    obtain ⟨v, hv, rfl⟩ := Option.map_eq_some_iff.mp hx
    exact distinct_integer hv

lemma decimal_distinct (negative : Bool) (s : List Char) :
    Reading.All Value.Distinct (decimal negative s) := by
  intro x hx
  unfold decimal at hx
  split at hx
  case h_1 => cases hx
  case h_2 whole _ =>
    split at hx
    case h_1 => cases hx
    case h_2 ds? t _ =>
      split at hx
      case h_1 => cases hx
      case h_2 e? u _ =>
        obtain ⟨v, hv, rfl⟩ := Option.map_eq_some_iff.mp hx
        split at hv
        case isTrue => exact distinct_integer hv
        case isFalse => exact distinct_float hv

lemma afterSign_distinct (negative : Bool) (s : List Char) :
    Reading.All Value.Distinct (afterSign negative s) := by
  unfold afterSign
  split
  case h_1 => exact Reading.all_some (.float _)
  case h_2 => exact Reading.all_some (.float _)
  case h_3 => exact decimal_distinct negative s

lemma number_distinct (s : List Char) : Reading.All Value.Distinct (number s) := by
  unfold number
  split
  case h_1 => exact (afterSign_distinct _ _).map fun _ h => h
  case h_2 => exact (afterSign_distinct _ _).map fun _ h => h
  case h_3 => exact (inBase_distinct _ _).map fun _ h => h
  case h_4 => exact (inBase_distinct _ _).map fun _ h => h
  case h_5 => exact (inBase_distinct _ _).map fun _ h => h
  case h_6 => exact afterSign_distinct false s

lemma numeric_distinct (s : List Char) : Reading.All Value.Distinct (numeric s) := by
  have hdate {r : Reading Unit s} : Reading.All Value.Distinct (r.map (·.map fun _ => .datetime)) :=
    Reading.All.map (P := fun _ => True) (fun _ _ => trivial) fun _ _ => .datetime
  unfold numeric
  split
  case isTrue => exact hdate
  case isFalse =>
    split
    case isTrue => exact hdate
    case isFalse => exact number_distinct s

/-! ### Lists and tables -/

section

variable {item : (s : List Char) → Reading Value s}

lemma itemsFrom_distinct (hitem : ∀ s, Reading.All Value.Distinct (item s)) {read : List Value}
    (hread : ∀ v ∈ read, v.Distinct) (s : List Char) :
    Reading.All (∀ v ∈ ·, v.Distinct) (itemsFrom item read s) := by
  fun_induction itemsFrom item read s with
  | case1 => exact Reading.all_some fun v hv => hread v (List.mem_reverse.mp hv)
  | case2 => exact Reading.all_none
  | case3 read s t _ v hv =>
    refine Reading.all_some fun w hw => ?_
    rcases List.mem_cons.mp (List.mem_reverse.mp hw) with rfl | hw
    · exact hitem _ v hv
    · exact hread w hw
  | case4 read s t _ v hv _ m _ _ ih =>
    have hmore := ih (List.forall_mem_cons.mpr ⟨hitem _ v hv, hread⟩)
    exact hmore.map fun _ h => h
  | case5 => exact Reading.all_none

lemma pair_distinct (hitem : ∀ s, Reading.All Value.Distinct (item s)) (s : List Char) :
    Reading.All (·.2.Distinct) (pair item s) := by
  unfold pair
  split
  case h_1 => exact Reading.all_none
  case h_2 =>
    split
    case h_1 => exact Reading.all_none
    case h_2 => exact (hitem _).map fun _ h => h

lemma pairsFrom_distinct (hitem : ∀ s, Reading.All Value.Distinct (item s)) {read : Entries}
    (hread : read.Distinct) (s : List Char) :
    Reading.All Entries.Distinct (pairsFrom item read s) := by
  fun_induction pairsFrom item read s with
  | case4 read s p hp path name _ entries hadded =>
    exact Reading.all_some (hread.addPair (pair_distinct hitem s p hp) hadded)
  | case5 read s p hp path name _ entries hadded _ m _ _ ih =>
    exact (ih (hread.addPair (pair_distinct hitem s p hp) hadded)).map fun _ h => h
  | _ => exact Reading.all_none

lemma inlineTable_distinct (hitem : ∀ s, Reading.All Value.Distinct (item s)) (s : List Char) :
    Reading.All Value.Distinct (inlineTable item s) := by
  unfold inlineTable
  split
  case h_1 => exact Reading.all_some (Value.distinct_table.mpr unrepeated_nil)
  case h_2 =>
    exact (pairsFrom_distinct hitem unrepeated_nil s).map
      fun _ h => Value.distinct_table.mpr h.finish

/-! ### Values -/

lemma wordAfter_distinct {v : Value} (hv : v.Distinct) (ws : List Char) (c : Char)
    (s : List Char) : Reading.All Value.Distinct (wordAfter v ws c s) := by
  intro x hx
  obtain ⟨r, -, rfl⟩ := Option.map_eq_some_iff.mp hx
  exact hv

lemma valueWith_distinct {item? : Option ((s : List Char) → Reading Value s)}
    (hitem? : ∀ item ∈ item?, ∀ s, Reading.All Value.Distinct (item s)) (s : List Char) :
    Reading.All Value.Distinct (valueWith item? s) := by
  cases s with
  | nil => exact Reading.all_none
  | cons c r =>
    rw [valueWith]
    split_ifs
    case pos =>
      exact Reading.All.map (P := fun _ => True) (fun _ _ => trivial) fun _ _ => .string _
    case pos =>
      cases item? with
      | none => exact Reading.all_none
      | some item =>
        exact (itemsFrom_distinct (hitem? item rfl) (by simp) r).map fun _ h => .array h
    case pos =>
      cases item? with
      | none => exact Reading.all_none
      | some item => exact (inlineTable_distinct (hitem? item rfl) r).map fun _ h => h
    case pos => exact wordAfter_distinct (.boolean true) _ c r
    case pos => exact wordAfter_distinct (.boolean false) _ c r
    case neg => exact numeric_distinct (c :: r)

end

/-- The deeper a value may be, the more readers are put into each other. -/
lemma value_distinct (depth : Nat) (s : List Char) :
    Reading.All Value.Distinct (value depth s) := by
  induction depth generalizing s with
  | zero => exact valueWith_distinct (by simp) s
  | succ depth ih =>
    refine valueWith_distinct (fun item hitem => ?_) s
    cases hitem
    exact ih

/-! ### Lines -/

variable {d : Draft}

lemma header_distinct (h : d.Distinct) (s : List Char) :
    Reading.All Draft.Distinct (header d s) := by
  intro x hx
  dsimp only [header] at hx
  split at hx
  case h_1 => cases hx
  case h_2 ks _ =>
    split at hx
    case h_2 => cases hx
    case h_1 path name u _ _ =>
      split at hx
      case h_2 => cases hx
      case h_1 e r he _ =>
        cases hx
        show e.Distinct
        split_ifs at he
        case pos => exact h.openItem he
        case neg => exact h.openTable he

lemma pairLine_distinct (h : d.Distinct) (s : List Char) :
    Reading.All Draft.Distinct (pairLine d s) := by
  unfold pairLine
  split
  case h_1 => exact Reading.all_none
  case h_2 p hp =>
    split
    case h_1 path name r _ _ =>
      intro x hx
      obtain ⟨e, he, rfl⟩ := Option.map_eq_some_iff.mp hx
      exact h.add (pair_distinct (value_distinct _) s p hp) he
    case h_2 => exact Reading.all_none

lemma linesFrom_distinct (h : d.Distinct) (s : List Char) {e : Draft}
    (he : linesFrom d s = some e) : e.Distinct := by
  fun_induction linesFrom d s with
  | case1 => exact Option.some.inj he ▸ h
  | case3 d s r u _ _ _ ih => exact ih h he
  | case5 d s c r _ _ _ _ u _ ih => exact ih h he
  | case7 d s c r _ _ _ _ line? u hu ih =>
    have hline : Reading.All Draft.Distinct line? := by
      dsimp only [line?]
      split
      case isTrue => exact (header_distinct h r).map fun _ h => h
      case isFalse => exact pairLine_distinct h (c :: r)
    exact ih (hline u hu) he
  | _ => cases he

/-- The table of a document has every key once, and so have the tables inside it. -/
theorem distinct_of_read {text : String} {t : Table} (h : read text = .ok t) : t.Distinct := by
  unfold read at h
  split at h
  case h_1 t' ht =>
    cases h
    obtain ⟨d, hd, hfinish⟩ := Option.bind_eq_some_iff.mp ht
    have hempty : Draft.Distinct {} := ⟨unrepeated_nil, unrepeated_nil⟩
    exact (linesFrom_distinct hempty _ hd).finish hfinish
  case h_2 => cases h

end DebugConsole.Toml
