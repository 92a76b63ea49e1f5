import DebugConsole.Proofs.Text.Margins
import DebugConsole.Text.Lines

/-!
# Texts of rows

A text that is cut into lines loses a newline at its end and the carriage returns in front of its
newlines, and whoever passes blank lines over loses those. None of this happens to a text of rows,
whose lines all show something and have no carriage return, so its lines can be joined again.
-/

namespace DebugConsole.Text

variable {as bs cs row rest : List Char}

/-! ### Rows -/

/-- A text without a line break. -/
def IsInline (cs : List Char) : Prop := ∀ c ∈ cs, c ≠ '\n' ∧ c ≠ '\r'

lemma IsInline.append (has : IsInline as) (hbs : IsInline bs) : IsInline (as ++ bs) :=
  List.forall_mem_append.mpr ⟨has, hbs⟩

/-- A line that shows something. -/
structure IsRow (row : List Char) : Prop where
  inline : IsInline row
  solid  : row.all isBlank = false

lemma IsRow.append_inline (h : IsRow row) (hcs : IsInline cs) : IsRow (row ++ cs) where
  inline := h.inline.append hcs
  solid  := by rw [List.all_append, h.solid, Bool.false_and]

lemma IsRow.inline_append (hcs : IsInline cs) (h : IsRow row) : IsRow (cs ++ row) where
  inline := hcs.append h.inline
  solid  := by rw [List.all_append, h.solid, Bool.and_false]

/-- A text without any blank is a row. -/
lemma isRow_of_solid (hne : row ≠ []) (h : row.any isBlank = false) : IsRow row := by
  have hsolid : ∀ c ∈ row, isBlank c = false := by simpa using h
  constructor
  case inline =>
    intro c hc
    constructor
    · rintro rfl
      exact absurd (hsolid _ hc) (by decide)
    · rintro rfl
      exact absurd (hsolid _ hc) (by decide)
  case solid =>
    obtain ⟨c, hc⟩ := List.exists_mem_of_ne_nil row hne
    exact List.all_eq_false.mpr ⟨c, hc, by simp [hsolid c hc]⟩

/-- One row or several with a newline between any two of them. -/
inductive Rows : List Char → Prop
  | single {row : List Char} (hrow : IsRow row) : Rows row
  | cons {row rest : List Char} (hrow : IsRow row) (hrest : Rows rest) : Rows (row ++ '\n' :: rest)

lemma Rows.append_inline (h : Rows as) (hcs : IsInline cs) : Rows (as ++ cs) := by
  induction h with
  | single hrow => exact .single (hrow.append_inline hcs)
  | cons hrow _ ih =>
    rw [List.append_assoc, List.cons_append]
    exact .cons hrow ih

lemma Rows.inline_append (hcs : IsInline cs) (h : Rows as) : Rows (cs ++ as) := by
  cases h with
  | single hrow => exact .single (.inline_append hcs hrow)
  | cons hrow hrest =>
    rw [← List.append_assoc]
    exact .cons (.inline_append hcs hrow) hrest

lemma Rows.append_newline (has : Rows as) (hbs : Rows bs) : Rows (as ++ '\n' :: bs) := by
  induction has with
  | single hrow => exact .cons hrow hbs
  | cons hrow _ ih =>
    rw [List.append_assoc, List.cons_append]
    exact .cons hrow ih

/-! ### Cutting -/

lemma linesFrom_append (hrow : IsInline row) (line rest : List Char) :
    linesFrom '\n' '\r' line (row ++ rest) = linesFrom '\n' '\r' (row.reverse ++ line) rest := by
  induction row generalizing line with
  | nil => rfl
  | cons c row ih =>
    obtain ⟨⟨hnewline, -⟩, hrow⟩ := List.forall_mem_cons.mp hrow
    rw [List.cons_append, linesFrom, if_neg hnewline, ih hrow, List.reverse_cons, List.append_assoc,
      List.singleton_append]

lemma endLine_reverse (hrow : IsInline row) : endLine '\r' row.reverse = row := by
  cases h : row.reverse with
  | nil => rw [endLine, ← List.reverse_eq_nil_iff.mp h]
  | cons c line =>
    have hc : c ∈ row := List.mem_reverse.mp (h ▸ List.mem_cons_self ..)
    rw [endLine, if_neg (hrow c hc).2, ← h, List.reverse_reverse]

/-- A text of rows is cut into its rows, and none of them is lost. -/
lemma Rows.cut (h : Rows cs) :
    ['\n'].intercalate (linesFrom '\n' '\r' [] cs) = cs ∧ linesFrom '\n' '\r' [] cs ≠ [] ∧
      ∀ line ∈ linesFrom '\n' '\r' [] cs, IsRow line := by
  induction h with
  | @single row hrow =>
    have hlines : linesFrom '\n' '\r' [] row = [row] := by
      have hne : row ≠ [] := by rintro rfl; exact absurd hrow.solid (by simp)
      have happend := linesFrom_append hrow.inline [] []
      rw [List.append_nil, List.append_nil, linesFrom] at happend
      simpa [hne] using happend
    rw [hlines]
    exact ⟨by simp, by simp, by simpa using hrow⟩
  | @cons row rest hrow _ ih =>
    obtain ⟨hjoin, hne, hrows⟩ := ih
    have hlines : linesFrom '\n' '\r' [] (row ++ '\n' :: rest)
        = row :: linesFrom '\n' '\r' [] rest := by
      rw [linesFrom_append hrow.inline, List.append_nil, linesFrom, if_pos rfl,
        endLine_reverse hrow.inline]
    rw [hlines]
    refine ⟨?_, List.cons_ne_nil _ _, List.forall_mem_cons.mpr ⟨hrow, hrows⟩⟩
    rw [List.intercalate_cons_of_ne_nil hne, hjoin]
    simp

/-- The lines of a text of rows make up the text, and all of them are rows. -/
theorem lines_of_rows {s : String} (h : Rows s.toList) :
    "\n".intercalate (lines s) = s ∧ lines s ≠ [] ∧ ∀ line ∈ lines s, IsRow line.toList := by
  obtain ⟨hjoin, hne, hrows⟩ := h.cut
  refine ⟨?_, by simpa [lines] using hne, by simpa [lines] using hrows⟩
  rw [← String.toList_inj, String.toList_intercalate, lines, List.map_map]
  simpa [Function.comp_def] using hjoin

end DebugConsole.Text
