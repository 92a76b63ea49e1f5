import DebugConsole.Demo
import DebugConsole.Frame
import DebugConsole.Proofs.Decimal.Characters
import DebugConsole.Proofs.Frame.ControlSequence

/-!
# Frames with and without codes

A frame with ANSI codes is the frame without them once its control sequences are deleted. Both are
written in the same parts, so it is enough that every part strips to its counterpart; what a part
shows must not have an escape character of its own for that.
-/

namespace DebugConsole

open Ansi

variable {η : Type}

/-! ### Texts that are drawn -/

def MenuRow.texts : MenuRow → List String
  | .group name _ => [name]
  | .ungrouped    => []
  | .preset _ e   => [e.name]

/-- The texts that the panels of a console show, those of hidden panels left out. -/
def Console.drawnTexts (c : Console η) : List String :=
  (if c.view.screenMessages then c.screen.messages.map (·.text) else [])
    ++ if c.view.console then
        c.log.lines.items.map (·.text) ++ c.menu.flatMap MenuRow.texts ++ [c.helpText, c.input]
      else []

/-! ### Numbers -/

namespace Decimal

lemma escape_not_mem_of_marks {text : List Char} (h : Marks text) : escape ∉ text :=
  fun hmem => absurd (marks_iff.mp h _ hmem) (by decide)

lemma free_fixedText (places : Nat) (x : Float32) : Free (fixedText places x) := by
  rw [Free, fixedText, String.toList_ofList]
  split
  case _ => decide
  case _ negative _ => cases negative <;> decide
  case _ =>
    refine escape_not_mem_of_marks (.signed _ ?_)
    rw [fixed]
    split
    · exact marks_digitsOf _
    · exact marks_positional _ _

end Decimal

namespace Renderer

lemma free_padLeft (width : Nat) {text : String} (h : Free text) : Free (padLeft width text) := by
  refine Free.append ?_ h
  rw [Free, String.toList_ofList]
  intro hmem
  exact absurd (List.eq_of_mem_replicate hmem) (by decide)

/-! ### Styles -/

lemma parameters_colorCode (c : Color) : Parameters (colorCode c) := by
  have hchannel (n : UInt8) : Parameters (toString n) := parameters_toString n.toNat
  have hsep : Parameters ";" := by decide
  have hstart : Parameters "38;2;" := by decide
  exact ((((hstart.append (hchannel _)).append hsep).append (hchannel _)).append hsep).append
    (hchannel _)

lemma parameters_codes (s : TextStyle) : ∀ code ∈ codes s, Parameters code := by
  intro code h
  rw [codes, List.mem_append, List.mem_append] at h
  rcases h with (h | h) | h
  · split at h
    · obtain rfl := List.mem_singleton.mp h
      decide
    · contradiction
  · split at h
    · obtain rfl := List.mem_singleton.mp h
      decide
    · contradiction
  · obtain ⟨c, -, rfl⟩ := List.mem_map.mp h
    exact parameters_colorCode c

/-- A text in a style is closed, so nothing of its codes is left. -/
lemma strips_styled {text : String} (h : Free text) (s : TextStyle) :
    Strips (styled ⟨true⟩ text s) (styled ⟨false⟩ text s) := by
  have hplain : styled ⟨false⟩ text s = text := if_pos (.inl Bool.false_ne_true)
  rw [hplain, styled]
  split
  · exact .of_free h
  · have hparams : Parameters (";".intercalate (codes s)) :=
      .intercalate (by decide) (parameters_codes s)
    have hopen : Strips ("\x1b[" ++ ";".intercalate (codes s) ++ "m") "" := by
      refine .sequence hparams 'm' (by decide) ?_
      simp only [String.toList_append]
      rfl
    have hzero : Parameters "0" := by decide
    have hclose : Strips "\x1b[0m" "" := .sequence hzero 'm' (by decide) (by decide)
    simpa using (hopen.append (.of_free h)).append hclose

/-! ### Parts -/

lemma strips_prelude : Strips (prelude ⟨true⟩) (prelude ⟨false⟩) := by
  have htwo : Parameters "2" := by decide
  have hnone : Parameters "" := by decide
  have hclear : Strips "\x1b[2J" "" := .sequence htwo 'J' (by decide) (by decide)
  have hhome : Strips "\x1b[H" "" := .sequence hnone 'H' (by decide) (by decide)
  have hparts : prelude ⟨true⟩ = "\x1b[2J" ++ "\x1b[H" := by decide
  rw [hparts]
  exact hclear.append hhome

lemma strips_withNewline {s t : String} (h : Strips s t) :
    Strips (withNewline s) (withNewline t) := h.append (.of_free (by decide))

/-- The seconds left are a number, so they have no escape character. -/
lemma strips_messageLine {m : ScreenMessage} (h : Free m.text) :
    Strips (messageLine ⟨true⟩ m) (messageLine ⟨false⟩ m) := by
  have htime : Free (padLeft 4 (Decimal.fixedText 1 (shownSeconds m.remaining))) :=
    free_padLeft 4 (Decimal.free_fixedText 1 _)
  have hstart : Free "  [" := by decide
  have hend : Free "s] " := by decide
  exact .append (.of_free ((hstart.append htime).append hend)) (strips_styled h m.style)

lemma strips_previewLine (n : Counts) : Strips (previewLine ⟨true⟩ n) (previewLine ⟨false⟩ n) := by
  refine .intercalate (by decide) (Strips.map fun s _ => ?_)
  have hlabel : Free (s.label ++ ": ") := by cases s <;> decide
  exact strips_styled (hlabel.append (parameters_toString _).free) _

lemma free_rowLine {row : MenuRow} (h : ∀ text ∈ row.texts, Free text) : Free (rowLine row) := by
  cases row with
  | group name expanded =>
    have hstart : Free ("[" ++ (if expanded then "-" else "+") ++ "] ") := by
      cases expanded <;> decide
    exact hstart.append (h name (List.mem_singleton_self name))
  | ungrouped => decide
  | preset index e =>
    have hindex : Free (padLeft 2 (toString index)) := free_padLeft 2 (parameters_toString _).free
    have hstart : Free "    " := by decide
    have hcolon : Free ": " := by decide
    exact ((hstart.append hindex).append hcolon).append (h e.name (List.mem_singleton_self _))

lemma strips_consoleLines {log : List LogLine} {menu : List MenuRow} {help : String}
    (hlog : ∀ line ∈ log, Free line.text) (hmenu : ∀ row ∈ menu, ∀ text ∈ row.texts, Free text)
    (hhelp : Free help) :
    List.Forall₂ Strips (consoleLines ⟨true⟩ log menu help)
      (consoleLines ⟨false⟩ log menu help) := by
  have hlines : List.Forall₂ Strips (log.map fun line => styled ⟨true⟩ line.text line.style)
      (log.map fun line => styled ⟨false⟩ line.text line.style) :=
    Strips.map fun line hline => strips_styled (hlog line hline) line.style
  have hrows : List.Forall₂ Strips (menu.map rowLine) (menu.map rowLine) :=
    Strips.map fun row hrow => .of_free (free_rowLine (hmenu row hrow))
  refine List.rel_append (List.rel_append (.cons (.of_free (by decide)) hlines) ?_) ?_
  · split
    · exact .nil
    · exact .cons (.of_free (by decide)) hrows
  · split
    · exact .nil
    · exact .cons (strips_styled hhelp _) .nil

/-- Every part of a frame strips to the part without codes. -/
lemma strips_parts {c : Console η} (h : ∀ text ∈ c.drawnTexts, Free text) :
    List.Forall₂ Strips (parts ⟨true⟩ c) (parts ⟨false⟩ c) := by
  rw [Console.drawnTexts, List.forall_mem_append] at h
  obtain ⟨hscreen, hpanel⟩ := h
  refine List.rel_append (List.rel_append (List.rel_append (.cons strips_prelude .nil) ?_) ?_) ?_
  · split
    · next hshown =>
      rw [if_pos hshown, List.forall_mem_map] at hscreen
      exact Strips.map fun m hm => strips_withNewline (strips_messageLine (hscreen m hm))
    · exact .nil
  · split
    · exact .cons (strips_withNewline (strips_previewLine _)) .nil
    · exact .nil
  · split
    · next hshown =>
      rw [if_pos hshown, List.forall_mem_append, List.forall_mem_append, List.forall_mem_map,
        List.forall_mem_flatMap, List.forall_mem_cons, List.forall_mem_singleton] at hpanel
      obtain ⟨⟨hlog, hmenu⟩, hhelp, hinput⟩ := hpanel
      have hprompt : Free "> " := by decide
      refine List.rel_append ?_ (.cons (.of_free (hprompt.append hinput)) .nil)
      rw [List.forall₂_map_left_iff, List.forall₂_map_right_iff]
      exact (strips_consoleLines hlog hmenu hhelp).imp fun _ _ => strips_withNewline
    · exact .nil

/-- A frame with codes is, once they are deleted, the frame without codes. -/
theorem strip_frame (c : Console η) (h : ∀ text ∈ c.drawnTexts, Free text) :
    String.ofList (strip (({ ansi := true } : Renderer).frame c).toList)
      = ({ ansi := false } : Renderer).frame c := by
  rw [frame, frame, (Strips.join (strips_parts h)).strip_eq, String.ofList_toList]

/-- A console with something to draw in every panel. -/
def filledConsole : Console DemoCommand :=
  let c : Console DemoCommand := (Console.ofConfig {}).addDemoPresets.1
  let c := (c.logStyled ">/sum 1" .command).receive "no such file" "" .exception
  let c := (c.logScreenStyled "saved" 2 (.colored .yellow)).toggleGroup "Data"
  { c with input := "/sum 1", helpText := "Echo a greeting" }.toggleConsole.togglePreview

theorem strip_frame_filledConsole :
    (∀ text ∈ filledConsole.drawnTexts, Free text) ∧
    String.ofList (strip (({ ansi := true } : Renderer).frame filledConsole).toList)
      = ({ ansi := false } : Renderer).frame filledConsole := by
  have h : ∀ text ∈ filledConsole.drawnTexts, Free text := by decide
  exact ⟨h, strip_frame filledConsole h⟩

end Renderer

end DebugConsole
