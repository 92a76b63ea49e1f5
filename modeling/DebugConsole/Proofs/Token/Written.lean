import DebugConsole.Proofs.Token.Reading
import DebugConsole.Proofs.Token.Simulation

/-!
# Written items

What has to be typed so that a given text becomes a token: a word as it is, any text without double
quotes between two of them, a literal as it is. Items that are written so, with blanks between
them, are read back as their texts.
-/

namespace DebugConsole

open Grammar Text

/-! ### Items -/

/-- A text that is a token as it stands. -/
structure IsWord (text : String) : Prop where
  nonempty : text ≠ ""
  blank    : ∀ c ∈ text.toList, isBlank c = false
  quote    : '"' ∉ text.toList
  brace    : text.toList.head? ≠ some '{'

/-- A text that may stand between double quotes. -/
structure IsQuotable (text : String) : Prop where
  nonempty : text ≠ ""
  quote    : '"' ∉ text.toList

/-- A text in braces: the first of them opens it, and it is over where they are closed for the
first time. -/
structure IsLiteral (text : String) : Prop where
  opens  : text.toList.head? = some '{'
  closes : Nesting.Closes {} text.toList

instance (text : String) : Decidable (IsLiteral text) :=
  decidable_of_iff (text.toList.head? = some '{' ∧ Nesting.Closes {} text.toList)
    ⟨fun h => ⟨h.1, h.2⟩, fun h => ⟨h.opens, h.closes⟩⟩

/-- Hidden braces do not count, nor do quotes and blanks. -/
example : IsLiteral "\x7ba \x7bb\x7d \\\x7d \" \x7d" := by decide

/-- A token that is to be written. -/
inductive Item where
  | word    (text : String) (h : IsWord text)
  | quoted  (text : String) (h : IsQuotable text)
  | literal (text : String) (h : IsLiteral text)

namespace Item

def text : Item → String
  | word text _    => text
  | quoted text _  => text
  | literal text _ => text

/-- What is typed for an item. -/
def source : Item → String
  | word text _    => text
  | quoted text _  => "\"" ++ text ++ "\""
  | literal text _ => text

end Item

/-! ### Lines -/

/-- Blanks, or nothing. -/
structure Margin where
  text  : String
  blank : isBlankText text = true

/-- Blanks, one at least. -/
structure Gap extends Margin where
  nonempty : text ≠ ""

namespace Item

/-- Items one after the other, parted by gaps; `gap n` is the gap behind the item at `n`. -/
def spaced (gap : Nat → Gap) : List Item → String
  | []         => ""
  | [i]        => i.source
  | i :: items => i.source ++ (gap 0).text ++ spaced (fun n => gap (n + 1)) items

variable {rest : List Char}

lemma read_word {text : String} (h : IsWord text) (hrest : Ends rest) :
    read .gap (text.toList ++ rest) = text.toList :: read .gap rest := by
  obtain ⟨hne, hblank, hquote, hbrace⟩ := h
  have hne : text.toList ≠ [] := mt String.toList_eq_nil_iff.mp hne
  obtain ⟨c, cs, htext⟩ := List.exists_cons_of_ne_nil hne
  rw [htext] at hne hblank hquote hbrace ⊢
  have hchars : ∀ d ∈ c :: cs, isBlank d = false ∧ d ≠ '"' :=
    fun d hd => ⟨hblank d hd, fun h => hquote (h ▸ hd)⟩
  rw [read_gap_word (fun h => hbrace (congrArg some h)) hchars, read_word_of_ends hrest,
    emit_of_ne_nil hne]

lemma read_quoted {text : String} (h : IsQuotable text) (hrest : Ends rest) :
    read .gap (("\"" ++ text ++ "\"").toList ++ rest) = text.toList :: read .gap rest := by
  have hsource : ("\"" ++ text ++ "\"").toList ++ rest = '"' :: (text.toList ++ '"' :: rest) := by
    simp
  have hne : text.toList ≠ [] := mt String.toList_eq_nil_iff.mp h.nonempty
  rw [hsource, read_gap_quote h.quote, emit_of_ne_nil hne, read_word_of_ends hrest, emit_nil]

lemma read_literal {text : String} (h : IsLiteral text) (hrest : Ends rest) :
    read .gap (text.toList ++ rest) = text.toList :: read .gap rest := by
  obtain ⟨cs, htext⟩ := List.head?_eq_some_iff.mp h.opens
  have hcloses := h.closes
  rw [htext] at hcloses ⊢
  rw [read_gap_literal hcloses, read_word_of_ends hrest, emit_nil]

/-- An item that a blank or the end of the line follows is read as its text. -/
lemma read_source (i : Item) (hrest : Ends rest) :
    read .gap (i.source.toList ++ rest) = i.text.toList :: read .gap rest := by
  cases i with
  | word text h    => exact read_word h hrest
  | quoted text h  => exact read_quoted h hrest
  | literal text h => exact read_literal h hrest

lemma ends_margin (margin : Margin) : Ends margin.text.toList := by
  intro c hc
  exact List.all_eq_true.mp margin.blank c (List.mem_of_mem_head? hc)

lemma ends_gap (gap : Gap) (rest : List Char) : Ends (gap.text.toList ++ rest) := by
  have hne : gap.text.toList ≠ [] := mt String.toList_eq_nil_iff.mp gap.nonempty
  obtain ⟨d, cs, htext⟩ := List.exists_cons_of_ne_nil hne
  intro c hc
  refine ends_margin gap.toMargin c ?_
  rw [htext] at hc ⊢
  exact hc

lemma read_margin (margin : Margin) (rest : List Char) :
    read .gap (margin.text.toList ++ rest) = read .gap rest :=
  read_gap_append (List.all_eq_true.mp margin.blank)

lemma read_spaced (gap : Nat → Gap) (items : List Item) (after : Margin) :
    read .gap ((spaced gap items).toList ++ after.text.toList) = items.map (·.text.toList) := by
  have hafter : read .gap after.text.toList = [] := by
    simpa [Grammar.read] using read_margin after []
  induction items generalizing gap with
  | nil => simpa [spaced] using hafter
  | cons i items ih =>
    cases items with
    -- The last item ends with the margin, any other with the gap behind it.
    | nil =>
      rw [spaced, read_source i (ends_margin after), hafter]
      rfl
    | cons j items =>
      have hspaced : spaced gap (i :: j :: items) =
          i.source ++ (gap 0).text ++ spaced (fun n => gap (n + 1)) (j :: items) := rfl
      rw [hspaced, String.toList_append, String.toList_append, List.append_assoc,
        List.append_assoc, read_source i (ends_gap _ _), read_margin, ih]
      rfl

end Item

/-- Items with blanks between them, and perhaps around them, are read back as their texts. -/
theorem tokenize_spaced (before after : Margin) (gap : Nat → Gap) (items : List Item) :
    tokenize (before.text ++ Item.spaced gap items ++ after.text) = items.map Item.text := by
  have hread : Grammar.tokens (before.text ++ Item.spaced gap items ++ after.text).toList
      = items.map (·.text.toList) := by
    rw [String.toList_append, String.toList_append, List.append_assoc, Grammar.tokens,
      Item.read_margin, Item.read_spaced]
  rw [tokenize_eq, hread, List.map_map]
  exact List.map_congr_left fun i _ => String.ofList_toList

end DebugConsole
