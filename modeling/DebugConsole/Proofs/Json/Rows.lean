import DebugConsole.Proofs.Json.Layout
import DebugConsole.Proofs.Json.Strings

/-!
# Printed values line by line

A value that is printed over several lines shows something on each of them. Its line breaks are
those between its parts, for a string is printed on one line whatever characters it has.
-/

namespace DebugConsole.Json

open Text (IsInline IsRow Rows)

variable {as cs : List Char}

/-! ### Parts of a line -/

lemma isInline_hexLower {n : Nat} (h : n < 16) : IsInline [Text.hexLower n] := by
  have : ∀ m : Fin 16, Text.hexLower m ≠ '\n' ∧ Text.hexLower m ≠ '\r' := by decide
  simpa [IsInline] using this ⟨n, h⟩

lemma Printed.isInline {c : Char} {e : List Char} (h : Printed c e) : IsInline e := by
  cases h with
  | @escaped e h =>
    have hnewline : e ≠ '\n' := by rintro rfl; simp [simpleEscape?] at h
    have hreturn : e ≠ '\r' := by rintro rfl; simp [simpleEscape?] at h
    simp [IsInline, hnewline, hreturn]
  | numbered h =>
    have hcode : c.toNat < 32 := h
    have hhigh : IsInline [Text.hexLower (c.toNat / 16)] := isInline_hexLower (by omega)
    have hlow : IsInline [Text.hexLower (c.toNat % 16)] := isInline_hexLower (by omega)
    have hnumber : IsInline ['\\', 'u', '0', '0'] := by simp [IsInline]
    exact hnumber.append (hhigh.append hlow)
  | plain _ _ h =>
    have hnewline : c ≠ '\n' := by rintro rfl; exact h (by decide)
    have hreturn : c ≠ '\r' := by rintro rfl; exact h (by decide)
    simp [IsInline, hnewline, hreturn]

lemma isInline_flatMap_escape (cs : List Char) : IsInline (cs.flatMap escape) := by
  induction cs with
  | nil => simp [IsInline]
  | cons c cs ih => exact (printed_escape c).isInline.append ih

/-- A string shows at least its quotes, and they are on one line. -/
lemma isRow_stringText (s : String) : IsRow (stringText s) := by
  have hquote : IsRow ['"'] := Text.isRow_of_solid (by simp) (by decide)
  exact hquote.append_inline ((isInline_flatMap_escape s.toList).append hquote.inline)

lemma isRow_text (n : Number) : IsRow n.text := by
  rcases n.text_cases with hnull | ⟨hmarks, hne⟩
  · rw [hnull]
    exact Text.isRow_of_solid (by simp) (by decide)
  · exact hmarks.isRow hne

/-! ### Values -/

lemma rows_newLine (has : Rows as) (level : Nat) (hcs : Rows cs) :
    Rows (as ++ newLine level ++ cs) := by
  have hindent : IsInline (List.replicate (2 * level) ' ') := fun c hc => by
    rw [List.eq_of_mem_replicate hc]
    decide
  rw [List.append_assoc, newLine, List.cons_append]
  exact has.append_newline (.inline_append hindent hcs)

/-- A mark of JSON on a line. -/
lemma rows_mark {c : Char} (hc : Text.isBlank c = false) : Rows [c] :=
  .single (Text.isRow_of_solid (by simp) (by simpa using hc))

lemma rows_field {value : List Char} (k : String) (h : Rows value) :
    Rows (stringText k ++ ':' :: ' ' :: value) := by
  have hcolon : IsInline [':', ' '] := by simp [IsInline]
  have hname : IsInline (stringText k ++ [':', ' ']) := (isRow_stringText k).inline.append hcolon
  have hfield := h.inline_append hname
  rwa [List.append_assoc] at hfield

lemma rows_comma (has : Rows as) : Rows (as ++ [',']) :=
  has.append_inline (by simp [IsInline])

mutual

lemma rows_prettyAt (level : Nat) (v : Value) : Rows (prettyAt level v) := by
  match v with
  | .null | .boolean true | .boolean false | .array [] | .object [] =>
    rw [prettyAt]
    exact .single (Text.isRow_of_solid (by simp) (by decide))
  | .number n =>
    rw [prettyAt]
    exact .single (isRow_text n)
  | .string s =>
    rw [prettyAt]
    exact .single (isRow_stringText s)
  | .array (v :: vs) =>
    have hitem := rows_newLine (rows_mark (c := '[') (by decide)) (level + 1)
      (rows_prettyAt (level + 1) v)
    have hitems := rows_append_prettyItems hitem (level + 1) vs
    have harray := rows_newLine hitems level (rows_mark (c := ']') (by decide))
    rw [prettyAt]
    simpa using harray
  | .object ((k, v) :: fs) =>
    have hfield := rows_newLine (rows_mark (c := '{') (by decide)) (level + 1)
      (rows_field k (rows_prettyAt (level + 1) v))
    have hfields := rows_append_prettyFields hfield (level + 1) fs
    have hobject := rows_newLine hfields level (rows_mark (c := '}') (by decide))
    rw [prettyAt]
    simpa using hobject

lemma rows_append_prettyItems {printed : List Char} (h : Rows printed) (level : Nat)
    (vs : List Value) : Rows (printed ++ prettyItems level vs) := by
  match vs with
  | [] => rwa [prettyItems, List.append_nil]
  | v :: vs =>
    have hitem := rows_newLine (rows_comma h) level (rows_prettyAt level v)
    have hitems := rows_append_prettyItems hitem level vs
    rw [prettyItems]
    simpa using hitems

lemma rows_append_prettyFields {printed : List Char} (h : Rows printed) (level : Nat)
    (fs : List (String × Value)) : Rows (printed ++ prettyFields level fs) := by
  match fs with
  | [] => rwa [prettyFields, List.append_nil]
  | (k, v) :: fs =>
    have hfield := rows_newLine (rows_comma h) level (rows_field k (rows_prettyAt level v))
    have hfields := rows_append_prettyFields hfield level fs
    rw [prettyFields]
    simpa using hfields

end

/-- The lines of a printed value make up its text, and each of them shows something. -/
theorem lines_pretty (v : Value) :
    "\n".intercalate (Text.lines v.pretty) = v.pretty ∧ Text.lines v.pretty ≠ [] ∧
      ∀ line ∈ Text.lines v.pretty, IsRow line.toList := by
  refine Text.lines_of_rows ?_
  rw [Value.pretty, String.toList_ofList]
  exact rows_prettyAt 0 v

/-- The lines of several values make up their texts one below the other. -/
lemma intercalate_lines_pretty (values : List Value) :
    "\n".intercalate (values.flatMap fun v => Text.lines v.pretty)
      = "\n".intercalate (values.map Value.pretty) := by
  induction values with
  | nil => rfl
  | cons v values ih =>
    obtain ⟨hjoin, hne, -⟩ := lines_pretty v
    cases values with
    | nil => simpa using hjoin
    | cons next values =>
      have hrest : ((next :: values).flatMap fun v => Text.lines v.pretty) ≠ [] := by
        simp [(lines_pretty next).2.1]
      rw [List.flatMap_cons, String.intercalate_append_of_ne_nil hne hrest, hjoin, ih]
      exact (String.intercalate_cons_of_ne_nil (List.cons_ne_nil _ _)).symm

end DebugConsole.Json
