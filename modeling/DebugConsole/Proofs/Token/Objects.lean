import DebugConsole.Proofs.Json.Layout
import DebugConsole.Proofs.Token.Written

/-!
# JSON objects as literals

The tokenizer knows nothing of JSON: it counts braces, and a backslash hides whatever comes behind
it. If no string of an object has a brace in it, the braces of its text are those of the objects in
it, and every backslash is one that JSON puts in front of a character it escapes. So the object is
one literal, however it is laid out.
-/

namespace DebugConsole

open Grammar Text

namespace Grammar

/-! ### Balanced texts -/

/-- A character that does nothing in a literal but belong to it. -/
def isInert (c : Char) : Bool := c != '\\' && c != '{' && c != '}'

/-- A text in which braces are balanced, where those behind a backslash do not count. -/
inductive Balanced : List Char → Prop
  | nil : Balanced []
  | char {c : Char} (hc : isInert c = true) : Balanced [c]
  | hidden (c : Char) : Balanced ['\\', c]
  | append {as cs : List Char} (has : Balanced as) (hcs : Balanced cs) : Balanced (as ++ cs)
  | braces {cs : List Char} (hcs : Balanced cs) : Balanced ('{' :: cs ++ ['}'])

variable {c : Char} {cs rest : List Char}

lemma Balanced.cons (hc : isInert c = true) (hcs : Balanced cs) : Balanced (c :: cs) :=
  .append (.char hc) hcs

lemma Balanced.of_all (h : cs.all isInert = true) : Balanced cs := by
  induction cs with
  | nil => exact .nil
  | cons c cs ih =>
    rw [List.all_cons, Bool.and_eq_true] at h
    exact .cons h.1 (ih h.2)

/-- A class of characters without the backslash and the braces. -/
lemma Balanced.of_class {p : Char → Bool} (hback : p '\\' = false) (hopen : p '{' = false)
    (hclose : p '}' = false) (h : ∀ c ∈ cs, p c = true) : Balanced cs := by
  refine .of_all (List.all_eq_true.mpr fun c hc => ?_)
  have hne {d : Char} (hd : p d = false) : c ≠ d := by
    rintro rfl
    exact Bool.false_ne_true (hd.symm.trans (h c hc))
  simp [isInert, hne hback, hne hopen, hne hclose]

/-- In front of what closes a literal there may be a balanced text. -/
lemma Balanced.closes_append (h : Balanced cs) {d : Nat} (hd : d ≠ 0) (hrest : rest ≠ [])
    (hcloses : Nesting.Closes ⟨d, false⟩ rest) : Nesting.Closes ⟨d, false⟩ (cs ++ rest) := by
  induction h generalizing d rest with
  | nil => exact hcloses
  | @char c hc =>
    have hstep : Nesting.step ⟨d, false⟩ c = ⟨d, false⟩ := by
      simp_all [isInert, Nesting.step]
    exact .cons (by rwa [hstep]) hrest (by rwa [hstep])
  | hidden c =>
    -- The backslash leaves the depth as it is, and so does the character that it hides.
    exact .cons hd (List.cons_ne_nil _ _) (.cons hd hrest hcloses)
  | append _ _ ihas ihcs =>
    rw [List.append_assoc]
    exact ihas hd (List.append_ne_nil_of_right_ne_nil _ hrest) (ihcs hd hrest hcloses)
  | @braces cs _ ih =>
    rw [List.append_assoc]
    refine .cons (Nat.succ_ne_zero d) (by simp) (ih (Nat.succ_ne_zero d) (by simp) ?_)
    exact .cons hd hrest hcloses

lemma Balanced.isLiteral (h : Balanced cs) :
    IsLiteral (String.ofList ('{' :: cs ++ ['}'])) where
  opens  := by rw [String.toList_ofList]; rfl
  closes := by
    rw [String.toList_ofList]
    have hbrace : Nesting.Closes ⟨1, false⟩ ['}'] := by decide
    exact .cons (n := {}) (by decide) (by simp)
      (h.closes_append (by decide) (List.cons_ne_nil _ _) hbrace)

end Grammar

/-! ### The parts of a JSON text -/

namespace Json

lemma isInert_hexLower {n : Nat} (h : n < 16) : isInert (hexLower n) = true := by
  have : ∀ m : Fin 16, isInert (hexLower m) = true := by decide
  exact this ⟨n, h⟩

/-- A text without braces. -/
def IsBraceless (s : String) : Prop := '{' ∉ s.toList ∧ '}' ∉ s.toList

instance (s : String) : Decidable (IsBraceless s) := inferInstanceAs (Decidable (_ ∧ _))

lemma balanced_escape {c : Char} (hopen : c ≠ '{') (hclose : c ≠ '}') : Balanced (escape c) := by
  fun_cases escape c
  case case7 =>
    -- A control character: behind the backslash come a letter and four digits.
    have hcode : c.toNat < 32 := ‹c < ' '›
    have hhigh : isInert (hexLower (c.toNat / 16)) = true := isInert_hexLower (by omega)
    have hlow : isInert (hexLower (c.toNat % 16)) = true := isInert_hexLower (by omega)
    refine .append (.hidden 'u') (.cons (by decide) (.cons (by decide) ?_))
    exact .cons hhigh (.char hlow)
  case case8 =>
    have hback : c ≠ '\\' := fun h => ‹¬ (c = '"' ∨ c = '\\')› (.inr h)
    exact .char (by simp [isInert, hback, hopen, hclose])
  all_goals exact .hidden _

lemma balanced_flatMap_escape {cs : List Char} (hopen : '{' ∉ cs) (hclose : '}' ∉ cs) :
    Balanced (cs.flatMap escape) := by
  induction cs with
  | nil => exact .nil
  | cons c cs ih =>
    obtain ⟨hopen, hopens⟩ := not_or.mp (mt List.mem_cons.mpr hopen)
    obtain ⟨hclose, hcloses⟩ := not_or.mp (mt List.mem_cons.mpr hclose)
    rw [List.flatMap_cons]
    exact (balanced_escape (Ne.symm hopen) (Ne.symm hclose)).append (ih hopens hcloses)

lemma balanced_stringText {s : String} (h : IsBraceless s) : Balanced (stringText s) :=
  .cons (by decide) (.append (balanced_flatMap_escape h.1 h.2) (.char (by decide)))

lemma balanced_of_marks {text : List Char} (h : Decimal.Marks text) : Balanced text :=
  .of_class rfl rfl rfl (Decimal.marks_iff.mp h)

lemma balanced_text (n : Number) : Balanced n.text := by
  rcases n.text_cases with hnull | ⟨hmarks, -⟩
  · rw [hnull]
    exact .of_all (by decide)
  · exact balanced_of_marks hmarks

/-! ### Values -/

namespace Layout

variable (l : Layout)

lemma balanced_newLine (level : Nat) : Balanced (l.newLine level) :=
  .of_class rfl rfl rfl (l.newLine_all level)

lemma balanced_colon : Balanced l.colon :=
  .of_class rfl rfl rfl l.colon_all

lemma balanced_field {k : String} {value : List Char} (hk : IsBraceless k)
    (hvalue : Balanced value) : Balanced (l.field k value) :=
  (balanced_stringText hk).append (.cons (by decide) (l.balanced_colon.append hvalue))

mutual

lemma balanced_print (level : Nat) (v : Value) (h : ∀ s ∈ v.strings, IsBraceless s) :
    Balanced (l.print level v) := by
  match v with
  | .null | .boolean true | .boolean false | .array [] =>
    rw [print]
    exact .of_all (by decide)
  | .number n =>
    rw [print]
    exact balanced_text n
  | .string s =>
    rw [print]
    exact balanced_stringText (h s (by simp [Value.strings]))
  | .array (v :: vs) =>
    obtain ⟨hv, hvs⟩ := List.forall_mem_append.mp h
    have hitem := balanced_print (level + 1) v hv
    have hitems := ((l.balanced_newLine (level + 1)).append hitem).append
      (balanced_printItems (level + 1) vs hvs)
    rw [print]
    exact .append (.cons (by decide) (hitems.append (l.balanced_newLine level))) (.char (by decide))
  | .object fields =>
    obtain ⟨body, hprint, hbody⟩ := balanced_print_object level fields h
    rw [hprint]
    exact .braces hbody

lemma balanced_print_object (level : Nat) (fields : List (String × Value))
    (h : ∀ s ∈ fieldStrings fields, IsBraceless s) :
    ∃ body, l.print level (.object fields) = '{' :: body ++ ['}'] ∧ Balanced body := by
  match fields with
  | [] => exact ⟨[], by rw [print]; rfl, .nil⟩
  | (k, v) :: fs =>
    obtain ⟨hkv, hfs⟩ := List.forall_mem_append.mp h
    obtain ⟨hk, hv⟩ := List.forall_mem_cons.mp hkv
    have hfield := l.balanced_field hk (balanced_print (level + 1) v hv)
    have hfields := ((l.balanced_newLine (level + 1)).append hfield).append
      (balanced_printFields (level + 1) fs hfs)
    exact ⟨_, by rw [print], hfields.append (l.balanced_newLine level)⟩

lemma balanced_printItems (level : Nat) (vs : List Value)
    (h : ∀ s ∈ itemStrings vs, IsBraceless s) : Balanced (l.printItems level vs) := by
  match vs with
  | [] =>
    rw [printItems]
    exact .nil
  | v :: vs =>
    obtain ⟨hv, hvs⟩ := List.forall_mem_append.mp h
    have hitem := balanced_print level v hv
    rw [printItems]
    exact .cons (by decide) (((l.balanced_newLine level).append hitem).append
      (balanced_printItems level vs hvs))

lemma balanced_printFields (level : Nat) (fs : List (String × Value))
    (h : ∀ s ∈ fieldStrings fs, IsBraceless s) : Balanced (l.printFields level fs) := by
  match fs with
  | [] =>
    rw [printFields]
    exact .nil
  | (k, v) :: fs =>
    obtain ⟨hkv, hfs⟩ := List.forall_mem_append.mp h
    obtain ⟨hk, hv⟩ := List.forall_mem_cons.mp hkv
    have hfield := l.balanced_field hk (balanced_print level v hv)
    rw [printFields]
    exact .cons (by decide) (((l.balanced_newLine level).append hfield).append
      (balanced_printFields level fs hfs))

end

lemma isLiteral_print_object (level : Nat) (fields : List (String × Value))
    (h : ∀ s ∈ (Value.object fields).strings, IsBraceless s) :
    IsLiteral (String.ofList (l.print level (.object fields))) := by
  obtain ⟨body, hprint, hbody⟩ := l.balanced_print_object level fields h
  rw [hprint]
  exact hbody.isLiteral

end Layout

end Json

open Json

/-- Behind a command, the text of an object is one token, and the rest of the line is read as if it
stood alone. -/
theorem tokenize_object {command text : String} (hcommand : IsWord command)
    (fields : List (String × Value))
    (hstrings : ∀ s ∈ (Value.object fields).strings, IsBraceless s)
    (htext : text = (Value.object fields).compact ∨ text = (Value.object fields).pretty)
    (rest : String) :
    tokenize (command ++ " " ++ text ++ " " ++ rest) = [command, text] ++ tokenize rest := by
  have hliteral : IsLiteral text := by
    rcases htext with rfl | rfl
    · exact Layout.compact.isLiteral_print_object 0 fields hstrings
    · rw [Value.pretty_eq]
      exact Layout.lines.isLiteral_print_object 0 fields hstrings
  have hblank : isBlank ' ' = true := by decide
  have hends (cs : List Char) : Ends (' ' :: cs) := by simpa [Ends] using hblank
  have hline : (command ++ " " ++ text ++ " " ++ rest).toList
      = command.toList ++ ' ' :: (text.toList ++ ' ' :: rest.toList) := by simp
  have hread : tokens (command ++ " " ++ text ++ " " ++ rest).toList
      = command.toList :: text.toList :: tokens rest.toList := by
    rw [hline, tokens, Item.read_word hcommand (hends _), read_gap_of_isBlank hblank,
      Item.read_literal hliteral (hends _), read_gap_of_isBlank hblank, tokens]
  rw [tokenize_eq, hread, tokenize_eq]
  simp

/-- Quotes, backslashes, lines and objects in an object do not part it. -/
theorem tokenize_object_escapes :
    let object := Value.object
      [("say \"x y\"", .string "C:\\dir\n\t"), ("in\x01", .object [("list", .array [.object []])])]
    (∀ s ∈ object.strings, IsBraceless s) ∧
      tokenize ("/load" ++ " " ++ object.pretty ++ " " ++ "a b")
        = ["/load", object.pretty] ++ tokenize "a b" :=
  have hcommand : IsWord "/load" :=
    ⟨by decide, List.forall_iff_forall_mem.mp (by decide), by decide, by decide⟩
  ⟨by decide, tokenize_object hcommand _ (by decide) (.inr rfl) "a b"⟩

end DebugConsole
