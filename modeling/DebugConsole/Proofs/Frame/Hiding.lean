import DebugConsole.Demo
import DebugConsole.Proofs.Frame.Writing
import DebugConsole.Proofs.Preset.MenuRows

/-!
# What a frame does not show

A panel is drawn from its own data only, and a panel that is hidden is not drawn at all. So two
consoles that agree on the data of the panels they show are drawn alike, by the same writes to the
same output, whatever else is in them.

The menu in turn is made from its groups and the presets that are listed. A preset of a collapsed
group takes part in it with its group and its place, and with nothing else.
-/

namespace DebugConsole

/-! ### Collapsed groups -/

namespace MenuRow

/-- What the menu makes of a preset: the header of its group, and the preset if it is listed. -/
def outline (expanded : Option String) (e : Preset) : MenuRow × Option Preset :=
  (header expanded e.group, if isOpen expanded e.group then some e else none)

variable {expanded expanded' : Option String} {e e' : Preset}

lemma group_eq_of_outline (h : outline expanded e = outline expanded' e') :
    e.group = e'.group := by
  have hheads := congrArg (heads? ∘ Prod.fst) h
  exact Option.some.inj (by simpa [outline] using hheads)

lemma headerBelow_of_outline (h : outline expanded e = outline expanded' e')
    (above : Option (Option String)) :
    headerBelow expanded above e = headerBelow expanded' above e' := by
  have hheader : header expanded e.group = header expanded' e'.group := congrArg Prod.fst h
  rw [headerBelow, headerBelow, hheader, group_eq_of_outline h]

lemma buttonOf_eq (expanded : Option String) (i : Nat) (e : Preset) :
    buttonOf expanded i e = (outline expanded e).2.toList.map (.preset i) := by
  unfold buttonOf outline
  split <;> rfl

/-- Presets with the same outlines have the same rows. -/
lemma rowsFrom_of_outline {l l' : List Preset}
    (h : l.map (outline expanded) = l'.map (outline expanded'))
    (above : Option (Option String)) (i : Nat) :
    rowsFrom expanded above i l = rowsFrom expanded' above i l' := by
  induction l generalizing l' above i with
  | nil =>
    obtain rfl : l' = [] := List.map_eq_nil_iff.mp h.symm
    rfl
  | cons e l ih =>
    cases l' with
    | nil => contradiction
    | cons e' l' =>
      obtain ⟨houtline, htail⟩ := List.cons.inj h
      rw [rowsFrom_cons, rowsFrom_cons, headerBelow_of_outline houtline, buttonOf_eq, buttonOf_eq,
        houtline, group_eq_of_outline houtline, ih htail]

end MenuRow

/-- The outlines of the presets of a catalog. -/
def Catalog.outline (c : Catalog) (expanded : Option String) : List (MenuRow × Option Preset) :=
  c.entries.map (MenuRow.outline expanded)

lemma Catalog.menu_of_outline {c d : Catalog} {expanded expanded' : Option String}
    (h : c.outline expanded = d.outline expanded') : c.menu expanded = d.menu expanded' :=
  MenuRow.rowsFrom_of_outline h none 0

/-! ### Hidden panels -/

variable {η θ : Type}

/-- Two consoles show the same panels, and they agree on what these panels show. -/
structure Console.ShownAlike (c : Console η) (d : Console θ) : Prop where
  view     : c.view = d.view
  messages : c.view.screenMessages = true → c.screen.messages = d.screen.messages
  counts   : c.view.preview = true → c.log.counts = d.log.counts
  lines    : c.view.console = true → c.log.lines.items = d.log.lines.items
  menu     : c.view.console = true → c.menu = d.menu
  helpText : c.view.console = true → c.helpText = d.helpText
  input    : c.view.console = true → c.input = d.input

/-- A console still shows the same with presets of the same outlines. -/
lemma Console.ShownAlike.withPresets {c : Console η} {d : Console θ} (h : c.ShownAlike d)
    {presets : Catalog} {expanded : Option String}
    (houtline : d.presets.outline d.expandedGroup = presets.outline expanded) :
    c.ShownAlike { d with presets, expandedGroup := expanded } :=
  { h with menu := fun hshown => (h.menu hshown).trans (Catalog.menu_of_outline houtline) }

namespace Renderer

variable {c : Console η} {d : Console θ}

lemma onlyIf_congr {m : Type → Type} [Monad m] {condition : Bool} {part part' : m Unit}
    (h : condition = true → part = part') : onlyIf condition part = onlyIf condition part' := by
  cases condition with
  | false => rfl
  | true  => exact h rfl

/-- Consoles that show the same are drawn by the same program. -/
lemma draw_of_shownAlike (h : c.ShownAlike d) (r : Renderer) {m : Type → Type} [Monad m]
    (out : Output m) : r.draw c out = r.draw d out := by
  have hmessages : onlyIf c.view.screenMessages (r.drawMessages c.screen.messages out)
      = onlyIf c.view.screenMessages (r.drawMessages d.screen.messages out) :=
    onlyIf_congr fun hshown => by rw [h.messages hshown]
  have hpreview : onlyIf c.view.preview (r.drawPreview c.log.counts out)
      = onlyIf c.view.preview (r.drawPreview d.log.counts out) :=
    onlyIf_congr fun hshown => by rw [h.counts hshown]
  have hconsole :
      onlyIf c.view.console (r.drawConsole c.log.lines.items c.menu c.helpText c.input out)
        = onlyIf c.view.console (r.drawConsole d.log.lines.items d.menu d.helpText d.input out) :=
    onlyIf_congr fun hshown => by
      rw [h.lines hshown, h.menu hshown, h.helpText hshown, h.input hshown]
  rw [draw, draw, hmessages, hpreview, hconsole, h.view]

/-- What an output that takes everything receives is the frame, so the same program makes the same
frame. -/
lemma frame_of_shownAlike (h : c.ShownAlike d) (r : Renderer) : r.frame c = r.frame d := by
  have hrun := congrArg (fun program => (program.run "").2) (draw_of_shownAlike h r .collecting)
  simp only [run_draw_collecting] at hrun
  exact hrun

/-- Two consoles cannot be told apart by what is drawn of them. -/
structure DrawnAlike (c : Console η) (d : Console θ) : Prop where
  frame     : ∀ r : Renderer, r.frame c = r.frame d
  /-- Any output receives the same writes, and so they fail at the same place. -/
  draw      : ∀ (r : Renderer) {m : Type → Type} [Monad m] (out : Output m),
    r.draw c out = r.draw d out
  /-- Of a preset in a collapsed group nothing but its group can be told. -/
  collapsed : ∀ (r : Renderer) (presets : Catalog) (expanded : Option String),
    d.presets.outline d.expandedGroup = presets.outline expanded →
      r.frame c = r.frame { d with presets, expandedGroup := expanded }

theorem drawnAlike (h : c.ShownAlike d) : DrawnAlike c d := by
  constructor
  case frame => exact frame_of_shownAlike h
  case draw =>
    intro r m _ out
    exact draw_of_shownAlike h r out
  case collapsed =>
    intro r presets expanded houtline
    exact frame_of_shownAlike (h.withPresets houtline) r

/-- A console with a collapsed group that shows its log. -/
def quietConsole : Console DemoCommand :=
  let fail : Preset :=
    { text := "/fail", name := "Fail", description := none, group := "Diagnostics",
      immediate := true }
  let c : Console DemoCommand := (Console.ofConfig { showScreenMessages := false }).addPresets
    [fail] |>.1
  (c.logText "ready").toggleConsole

/-- A console with handlers of another type that shows the same. Its configuration, its counts, its
history, its screen and the preset of its group are others. -/
def busyConsole : Console Unit :=
  let warn : Preset :=
    { text := "/warn low memory", name := "Warn", description := "Reports a warning",
      group := "Diagnostics", immediate := false }
  let c : Console Unit := (Console.ofConfig { showScreenMessages := false, logCapacity := 1 })
    |>.addPresets [warn] |>.1
  let c := ((c.receive "low memory" "" .warning).logText "ready").logScreen "saved" 2
  { c with history := c.history.push "/warn low memory" }.toggleConsole

theorem drawnAlike_quietConsole :
    quietConsole.ShownAlike busyConsole ∧ DrawnAlike quietConsole busyConsole := by
  have h : quietConsole.ShownAlike busyConsole := by
    constructor
    case view => decide
    case messages => exact fun hshown => absurd hshown (by decide)
    case counts => exact fun hshown => absurd hshown (by decide)
    case lines => exact fun _ => by decide
    case menu => exact fun _ => by decide
    case helpText => exact fun _ => by decide
    case input => exact fun _ => by decide
  exact ⟨h, drawnAlike h⟩

end Renderer

end DebugConsole
