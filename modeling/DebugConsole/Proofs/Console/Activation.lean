import DebugConsole.Frame
import DebugConsole.Proofs.Console.Operations
import DebugConsole.Proofs.HostAction.Reading
import DebugConsole.Proofs.Preset.MenuRows

/-!
# Activation of presets

A row of the menu shows the number of its preset. Whatever group is expanded, this is the number
that activates the preset; other numbers and other texts are only reported.
-/

namespace DebugConsole

namespace Renderer

/-- A text that is padded on the left loses nothing but the padding when it is trimmed. -/
lemma strip_padLeft (width : Nat) (text : String) :
    Text.strip (padLeft width text).toList = Text.strip text.toList := by
  have hblank : ∀ c ∈ List.replicate (width - text.length) ' ', Text.isBlank c = true := by
    intro c hc
    rw [List.eq_of_mem_replicate hc]
    decide
  rw [padLeft, String.toList_append, String.toList_ofList, Text.strip_append_of_blank hblank]

end Renderer

namespace Console

variable {η : Type} [Handler η] {c : Console η} (facade : Facade) {index : Nat} {e : Preset}

/-! ### Activating and reporting -/

/-- What a host reports of a preset that it has executed. -/
def executedRecord (index : Nat) (found : Bool) : Record :=
  hostRecord .input .debug
    ("preset " ++ toString index ++ " executed (handler found: " ++ toString found ++ ")")

/-- What a host reports of a position without a preset. -/
def missingRecord (index : Nat) : Record :=
  hostRecord .input .warn ("no preset at index " ++ toString index)

/-- What a host reports of a key that it does not have. -/
def unknownRecord (key : String) : Record :=
  hostRecord .input .warn ("unknown host key ':" ++ key ++ "'")

lemma activatePreset_of_immediate (h : c.presets.get? index = some e)
    (himmediate : e.immediate = true) :
    c.activatePreset facade index =
      ({ (c.execute facade e.text).1 with helpText := e.description.getD "" } : Console η).record
        facade (executedRecord index (c.execute facade e.text).2) := by
  simp only [activatePreset, activateAt_of_immediate facade h himmediate, executedRecord]

lemma activatePreset_of_filled (h : c.presets.get? index = some e) (hfilled : e.immediate = false) :
    c.activatePreset facade index
      = { c with helpText := e.description.getD "", input := e.text } := by
  simp only [activatePreset, activateAt_of_filled facade h hfilled]

lemma activatePreset_of_le (h : c.presets.entries.length ≤ index) :
    c.activatePreset facade index = c.record facade (missingRecord index) := by
  have hnone : c.presets.get? index = none := List.getElem?_eq_none h
  simp only [activatePreset, activateAt_of_none facade hnone, missingRecord]

omit [Handler η] in
@[simp] lemma input_record (r : Record) : (c.record facade r).input = c.input := rfl

/-! ### Lines with a number -/

omit [Handler η] in
/-- The row of a preset has its position in the catalog, whatever rows there are. -/
lemma get?_of_mem_menu (h : .preset index e ∈ c.menu) : c.presets.get? index = some e := by
  rw [← MenuRow.mem_buttons, menu, Catalog.menu, MenuRow.buttons_rowsFrom, List.mem_filter,
    List.mem_zipIdx_iff_getElem?] at h
  exact h.1

lemma handleLine_of_names {arg : String}
    (h : HostAction.NamesIndex (Text.strip arg.toList) index) :
    c.handleLine facade (":preset " ++ arg) = c.activatePreset facade index := by
  simp only [handleLine, HostAction.ofLine?_preset_of_names h, perform]

lemma handleLine_of_not_names {arg : String}
    (h : ∀ index, ¬ HostAction.NamesIndex (Text.strip arg.toList) index) :
    c.handleLine facade (":preset " ++ arg)
      = c.record facade (unknownRecord (Text.trim ("preset " ++ arg))) := by
  have hindex := HostAction.index?_eq_none_iff.mpr h
  simp only [handleLine, HostAction.ofLine?_preset, hindex, perform, unknownRecord]

/-! ### The contract -/

/-- What the numbers of a menu stand for. -/
structure MenuNumbers (c : Console η) (facade : Facade) : Prop where
  /-- A row shows the preset at its position, and typing its number as shown is as good as typing
  it in plain decimal digits. -/
  shown      : ∀ i e, .preset i e ∈ c.menu → c.presets.get? i = some e ∧
    ∃ number, Renderer.rowLine (.preset i e) = "    " ++ number ++ ": " ++ e.name ∧
      c.handleLine facade (":preset " ++ number) = c.handleLine facade (":preset " ++ toString i)
  /-- A preset that is executed at once changes what its text changes, and the help text. -/
  immediate  : ∀ i e, .preset i e ∈ c.menu → e.immediate = true →
    c.handleLine facade (":preset " ++ toString i) =
        ({ (c.execute facade e.text).1 with helpText := e.description.getD "" } : Console η).record
          facade (executedRecord i (c.execute facade e.text).2)
      ∧ (c.handleLine facade (":preset " ++ toString i)).input = c.input
  /-- Any other preset is put into the input line. -/
  filled     : ∀ i e, .preset i e ∈ c.menu → e.immediate = false →
    c.handleLine facade (":preset " ++ toString i)
      = { c with helpText := e.description.getD "", input := e.text }
  /-- A number beyond the presets is reported, and that is all; it is reported as a position if it
  is a machine word. -/
  beyond     : ∀ i, c.presets.entries.length ≤ i →
    c.handleLine facade (":preset " ++ toString i) = c.record facade
      (if i < UInt64.size then missingRecord i
        else unknownRecord (Text.trim ("preset " ++ toString i)))
  /-- An argument names a position, and then it is as good as the number of the position, or it is
  reported, and that is all. -/
  named      : ∀ arg i, HostAction.NamesIndex (Text.strip arg.toList) i →
    c.handleLine facade (":preset " ++ arg) = c.handleLine facade (":preset " ++ toString i)
  unreadable : ∀ arg, (∀ i, ¬ HostAction.NamesIndex (Text.strip arg.toList) i) →
    c.handleLine facade (":preset " ++ arg)
      = c.record facade (unknownRecord (Text.trim ("preset " ++ arg)))

/-- The numbers are right in every console whose presets can be numbered by machine words. -/
theorem menuNumbers (c : Console η) (facade : Facade)
    (hsize : c.presets.entries.length ≤ UInt64.size) : c.MenuNumbers facade := by
  have hline : ∀ {i}, i < UInt64.size →
      c.handleLine facade (":preset " ++ toString i) = c.activatePreset facade i :=
    fun hword => handleLine_of_names facade (HostAction.namesIndex_toString hword)
  have hword : ∀ {i e}, .preset i e ∈ c.menu → i < UInt64.size := by
    intro i e hrow
    obtain ⟨hlt, -⟩ := List.getElem?_eq_some_iff.mp (get?_of_mem_menu hrow)
    omega
  have hnamed : ∀ {arg i}, HostAction.NamesIndex (Text.strip arg.toList) i →
      c.handleLine facade (":preset " ++ arg) = c.handleLine facade (":preset " ++ toString i) := by
    intro arg i harg
    have hlt : i < UInt64.size := harg.lt
    rw [handleLine_of_names facade harg, hline hlt]
  constructor
  case shown =>
    intro i e hrow
    refine ⟨get?_of_mem_menu hrow, Renderer.padLeft 2 (toString i), rfl, hnamed ?_⟩
    rw [Renderer.strip_padLeft]
    exact HostAction.namesIndex_toString (hword hrow)
  case immediate =>
    intro i e hrow himmediate
    have hactivate := activatePreset_of_immediate facade (get?_of_mem_menu hrow) himmediate
    rw [hline (hword hrow), hactivate]
    exact ⟨rfl, by simp only [input_record, input_execute]⟩
  case filled =>
    intro i e hrow hfilled
    rw [hline (hword hrow), activatePreset_of_filled facade (get?_of_mem_menu hrow) hfilled]
  case beyond =>
    intro i hle
    split
    case isTrue hlt => rw [hline hlt, activatePreset_of_le facade hle]
    case isFalse hlt =>
      rw [handleLine_of_not_names facade (HostAction.not_namesIndex_toString hlt)]
  case named => exact fun arg i harg => hnamed harg
  case unreadable => exact fun arg harg => handleLine_of_not_names facade harg

/-- A console with the demo presets, those of one group among them expanded. -/
def dataMenu : Console DemoCommand :=
  ((ofConfig {} : Console DemoCommand).addDemoPresets.1).toggleGroup "Data"

/-- The second preset of its group is activated by its number in the whole catalog. -/
theorem menuNumbers_dataMenu :
    dataMenu.presets.entries.length ≤ UInt64.size ∧ dataMenu.MenuNumbers .silent ∧
      "     3: Sum" ∈ dataMenu.menu.map Renderer.rowLine ∧
      (dataMenu.handleLine .silent ":preset 3").input = "/sum 1 2 3" := by
  have hsize : dataMenu.presets.entries.length ≤ UInt64.size := by decide
  exact ⟨hsize, menuNumbers dataMenu .silent hsize, by decide, by rfl⟩

end Console

end DebugConsole
