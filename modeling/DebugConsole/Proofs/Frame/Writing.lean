import DebugConsole.Frame
import Mathlib.Tactic.Common

/-!
# Drawing to a writer

A drawing writes the parts of a frame one after the other, and nothing that a writer does decides
on what is written next but a failure, which ends the drawing. So a writer with a limit is left with
the front of the frame, and the drawing fails if that is not all of it.
-/

namespace DebugConsole

variable {η : Type}

namespace Renderer

/-- The texts that a drawing writes: the parts of a frame, the first of them only if it clears the
screen. -/
def written (r : Renderer) (c : Console η) : List String :=
  (if r.ansi then [r.prelude] else []) ++ (r.parts c).tail

lemma join_written (r : Renderer) (c : Console η) : String.join (r.written c) = r.frame c := by
  have hparts : r.parts c = r.prelude :: (r.parts c).tail := rfl
  rw [written, frame, hparts, List.tail_cons]
  by_cases h : r.ansi = true
  · rw [if_pos h, List.singleton_append]
  · have hnone : r.prelude = "" := if_neg h
    rw [if_neg h, List.nil_append, hnone, String.join_cons, String.empty_append]

/-! ### Panels -/

section

variable {m : Type → Type} [Monad m]

lemma onlyIf_forM (condition : Bool) (texts : List String) (out : Output m) :
    onlyIf condition (forM texts out.write)
      = forM (if condition then texts else []) out.write := by
  cases condition <;> rfl

variable [LawfulMonad m]

lemma writeLine_eq (out : Output m) (line : String) :
    out.writeLine line = forM [withNewline line] out.write := by
  rw [List.forM_cons, List.forM_nil, bind_pure_unit]
  rfl

lemma forIn_writeLine {α : Type} (out : Output m) (line : α → String) (xs : List α) :
    (forIn xs PUnit.unit fun x _ => do
        out.writeLine (line x)
        pure (ForInStep.yield PUnit.unit))
      = forM (xs.map (withNewline ∘ line)) out.write := by
  induction xs with
  | nil => rfl
  | cons x xs ih =>
    rw [List.forIn_cons, List.map_cons, List.forM_cons, ← ih, bind_assoc]
    simp only [pure_bind]
    rfl

lemma drawMessages_eq (r : Renderer) (messages : List ScreenMessage) (out : Output m) :
    r.drawMessages messages out
      = forM (messages.map (withNewline ∘ r.messageLine)) out.write := by
  rw [drawMessages, forIn_writeLine, bind_pure_unit]

lemma drawMenu_eq (menu : List MenuRow) (out : Output m) :
    drawMenu menu out
      = forM (("---- presets ----" :: menu.map rowLine).map withNewline) out.write := by
  rw [drawMenu, forIn_writeLine, bind_pure_unit, writeLine_eq, ← List.forM_append, List.map_cons,
    List.map_map, List.singleton_append]

/-- Nothing is written of a menu or of a help text that is empty. -/
lemma drawConsole_eq (r : Renderer) (log : List LogLine) (menu : List MenuRow)
    (help input : String) (out : Output m) :
    r.drawConsole log menu help input out
      = forM ((r.consoleLines log menu help).map withNewline ++ ["> " ++ input]) out.write := by
  have hinput : out.write ("> " ++ input) = forM ["> " ++ input] out.write := by
    rw [List.forM_cons, List.forM_nil, bind_pure_unit]
  have hmenu : (if (!menu.isEmpty) = true then
        ("---- presets ----" :: menu.map rowLine).map withNewline else [])
      = (if menu.isEmpty then [] else "---- presets ----" :: menu.map rowLine).map withNewline := by
    cases menu.isEmpty <;> rfl
  have hhelp : (if (!help.isEmpty) = true then
        [withNewline (r.styled help TextStyle.plain.italicized)] else [])
      = (if help.isEmpty then [] else [r.styled help TextStyle.plain.italicized]).map
          withNewline := by
    cases help.isEmpty <;> rfl
  rw [drawConsole, forIn_writeLine]
  simp only [writeLine_eq, drawMenu_eq, onlyIf_forM, hinput, hmenu, hhelp, ← List.forM_append]
  simp only [consoleLines, List.map_append, List.map_cons, List.map_map, List.append_assoc,
    List.cons_append, List.nil_append]

/-- A drawing writes its texts in order, and then it flushes. -/
theorem draw_eq (r : Renderer) (c : Console η) (out : Output m) :
    r.draw c out = forM (r.written c) out.write >>= fun _ => out.flush := by
  have hprelude : out.write r.prelude = forM [r.prelude] out.write := by
    rw [List.forM_cons, List.forM_nil, bind_pure_unit]
  have hpanels : (r.parts c).tail =
      (if c.view.screenMessages then c.screen.messages.map (withNewline ∘ r.messageLine) else [])
        ++ (if c.view.preview then [withNewline (r.previewLine c.log.counts)] else [])
        ++ (if c.view.console then
              (r.consoleLines c.log.lines.items c.menu c.helpText).map withNewline
                ++ ["> " ++ c.input]
            else []) := rfl
  simp only [draw, hprelude, drawMessages_eq, drawPreview, writeLine_eq, drawConsole_eq,
    onlyIf_forM]
  simp only [written, hpanels, List.forM_append, bind_assoc]

end

/-! ### An output that takes everything -/

lemma run_collecting (texts : List String) (s : String) :
    (forM texts Output.collecting.write).run s = pure ((), s ++ String.join texts) := by
  induction texts generalizing s with
  | nil =>
    rw [String.join_nil, String.append_empty]
    rfl
  | cons text texts ih =>
    rw [List.forM_cons, String.join_cons, ← String.append_assoc, ← ih]
    rfl

lemma run_draw_collecting (r : Renderer) (c : Console η) :
    (r.draw c .collecting).run "" = pure ((), r.frame c) := by
  rw [draw_eq, StateT.run_bind, run_collecting, join_written, String.empty_append, pure_bind]
  rfl

end Renderer

/-! ### The first failure -/

section

variable {ε σ : Type} {out : Output (EStateM ε σ)} {texts : List String} {s t : σ} {e : ε}

/-- Writing texts fails where the first of them fails, with what the writes before it left. -/
lemma exists_of_forM_write_error (h : (forM texts out.write).run s = .error e t) :
    ∃ before text after u, texts = before ++ text :: after ∧
      (forM before out.write).run s = .ok () u ∧ (out.write text).run u = .error e t := by
  induction texts generalizing s with
  | nil => contradiction
  | cons text texts ih =>
    rw [List.forM_cons, EStateM.run_bind] at h
    cases hwrite : (out.write text).run s with
    | error e' t' =>
      rw [hwrite] at h
      exact ⟨[], text, texts, s, rfl, rfl, hwrite.trans h⟩
    | ok a u =>
      rw [hwrite] at h
      obtain ⟨before, text', after, u', rfl, hbefore, herror⟩ := ih h
      refine ⟨text :: before, text', after, u', rfl, ?_, herror⟩
      rw [List.forM_cons, EStateM.run_bind, hwrite]
      exact hbefore

end

namespace LimitedWriter

lemma run_offer (bytes : List UInt8) (w : LimitedWriter) :
    (offer bytes).run w =
      if w.limit < w.accepted.length + bytes.length then .error .full (w.accept bytes)
      else .ok () (w.accept bytes) := by
  simp only [offer, EStateM.run_bind, EStateM.run_get, EStateM.run_set]
  split <;> rfl

lemma accept_append (first second : List UInt8) (w : LimitedWriter) :
    (w.accept first).accept second = w.accept (first ++ second) := by
  have hroom : w.limit - (w.accepted ++ first.take (w.limit - w.accepted.length)).length
      = w.limit - w.accepted.length - first.length := by
    rw [List.length_append, List.length_take]
    omega
  simp only [accept, hroom, List.take_append, List.append_assoc]

lemma accept_of_full {w : LimitedWriter} (h : w.limit ≤ w.accepted.length) (bytes : List UInt8) :
    w.accept bytes = w := by
  rw [accept, Nat.sub_eq_zero_of_le h, List.take_zero, List.append_nil]

lemma length_accept (bytes : List UInt8) (w : LimitedWriter) :
    (w.accept bytes).accepted.length
      = w.accepted.length + min (w.limit - w.accepted.length) bytes.length := by
  rw [accept, List.length_append, List.length_take]

/-- What fits of two offers in a row is what fits of both together. -/
lemma offer_append (first second : List UInt8) (w : LimitedWriter) :
    (offer first >>= fun _ => offer second).run w = (offer (first ++ second)).run w := by
  have haccept := length_accept first w
  rw [EStateM.run_bind, run_offer, run_offer, List.length_append, ← accept_append]
  by_cases hfull : w.limit < w.accepted.length + first.length
  · have hnone : (w.accept first).limit ≤ (w.accept first).accepted.length := by
      show w.limit ≤ _
      omega
    rw [if_pos hfull, if_pos (by omega), accept_of_full hnone]
  · rw [if_neg hfull]
    show (offer second).run (w.accept first) = _
    have hlength : (w.accept first).accepted.length = w.accepted.length + first.length := by
      omega
    rw [run_offer, hlength, Nat.add_assoc]
    rfl

/-- Offering texts one after the other is offering what they make up together. -/
lemma run_forM_write {w : LimitedWriter} (hroom : w.accepted.length ≤ w.limit)
    (texts : List String) :
    (forM texts output.write).run w = (offer (Text.bytes (String.join texts))).run w := by
  rw [Text.bytes_join]
  induction texts generalizing w with
  | nil =>
    have hempty : w.accept [] = w := by rw [accept, List.take_nil, List.append_nil]
    rw [List.flatMap_nil, run_offer, List.length_nil, if_neg (by omega), hempty]
    rfl
  | cons text texts ih =>
    have hwrite : output.write text = offer (Text.bytes text) := rfl
    rw [List.forM_cons, List.flatMap_cons, ← offer_append, EStateM.run_bind, EStateM.run_bind,
      hwrite, run_offer]
    by_cases hfull : w.limit < w.accepted.length + (Text.bytes text).length
    · rw [if_pos hfull]
    · rw [if_neg hfull]
      refine ih ?_
      show _ ≤ w.limit
      rw [length_accept]
      omega

end LimitedWriter

namespace Renderer

/-! ### Cut-off frames -/

lemma run_draw_output (r : Renderer) (c : Console η) (limit : Nat) :
    (r.draw c LimitedWriter.output).run { limit }
      = (LimitedWriter.offer (Text.bytes (r.frame c))).run { limit } := by
  rw [draw_eq, EStateM.run_bind, LimitedWriter.run_forM_write (Nat.zero_le _), join_written,
    LimitedWriter.run_offer]
  by_cases hfull : limit < ([] : List UInt8).length + (Text.bytes (r.frame c)).length
  · rw [if_pos hfull]
  · rw [if_neg hfull]
    rfl

lemma drawTo_eq (r : Renderer) (c : Console η) (limit : Nat) :
    r.drawTo c { limit } =
      { accepted := (Text.bytes (r.frame c)).take limit
        failed   := decide (limit < (Text.bytes (r.frame c)).length) } := by
  rw [drawTo, run_draw_output, LimitedWriter.run_offer, List.length_nil, Nat.zero_add]
  by_cases hfull : limit < (Text.bytes (r.frame c)).length
  · rw [if_pos hfull, decide_eq_true hfull]
    rfl
  · rw [if_neg hfull, decide_eq_false hfull]
    rfl

/-- How a drawing ends. -/
structure DrawnInOrder (r : Renderer) (c : Console η) : Prop where
  /-- An output that takes everything receives the frame. -/
  whole     : (r.draw c .collecting).run "" = pure ((), r.frame c)
  /-- A writer with a limit receives the first bytes of the frame, as many as fit. -/
  delivered : ∀ limit, (r.drawTo c { limit }).accepted
    = (Text.bytes (r.frame c)).take (min limit (Text.bytes (r.frame c)).length)
  failed    : ∀ limit, (r.drawTo c { limit }).failed = true ↔
    limit < (Text.bytes (r.frame c)).length
  /-- Writes of other pieces that make up the frame end with the same. -/
  pieces    : ∀ limit texts, String.join texts = r.frame c →
    (forM texts LimitedWriter.output.write).run { limit }
      = (r.draw c LimitedWriter.output).run { limit }
  /-- What is written makes up the frame. -/
  written   : String.join (r.written c) = r.frame c
  /-- Whatever the writer is, a drawing that fails leaves it as the first write that fails does, or
  else as the flush does that fails after all writes. -/
  ended     : ∀ {ε σ : Type} (out : Output (EStateM ε σ)) (s t : σ) (e : ε),
    (r.draw c out).run s = .error e t →
      (∃ before text after u, r.written c = before ++ text :: after ∧
        (forM before out.write).run s = .ok () u ∧ (out.write text).run u = .error e t) ∨
      ∃ u, (forM (r.written c) out.write).run s = .ok () u ∧ out.flush.run u = .error e t

theorem drawnInOrder (r : Renderer) (c : Console η) : r.DrawnInOrder c := by
  constructor
  case whole => exact run_draw_collecting r c
  case delivered =>
    intro limit
    rw [drawTo_eq, List.take_eq_take_min]
  case failed =>
    intro limit
    rw [drawTo_eq, decide_eq_true_eq]
  case pieces =>
    intro limit texts hframe
    rw [run_draw_output, LimitedWriter.run_forM_write (Nat.zero_le _), hframe]
  case written => exact join_written r c
  case ended =>
    intro ε σ out s t e h
    rw [draw_eq, EStateM.run_bind] at h
    cases hwrites : (forM (r.written c) out.write).run s with
    | error e' t' =>
      rw [hwrites] at h
      exact .inl (exists_of_forM_write_error (hwrites.trans h))
    | ok a u =>
      rw [hwrites] at h
      exact .inr ⟨u, rfl, h⟩

end Renderer

end DebugConsole
