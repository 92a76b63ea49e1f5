import DebugConsole.Preset.Menu
import DebugConsole.Proofs.Preset.Arrangement
import Mathlib.Data.List.Nodup

/-!
# The rows of the preset menu

The menu is made in one pass over the catalog that remembers only the group of the preset before.
Every group gets its header whatever the order is; that it gets no second one rests on the groups
standing in ascending order.
-/

namespace DebugConsole

namespace MenuRow

/-! ### Headers and buttons -/

/-- The group that a row is the header of. -/
def heads? : MenuRow → Option (Option String)
  | .group name _ => some (some name)
  | .ungrouped    => some none
  | .preset ..    => none

/-- The preset of a row and its position. -/
def button? : MenuRow → Option (Preset × Nat)
  | .preset index e => some (e, index)
  | _               => none

/-- The groups of the headers, from the top. -/
def headers (rows : List MenuRow) : List (Option String) := rows.filterMap heads?

/-- The presets of the buttons with their positions, from the top. -/
def buttons (rows : List MenuRow) : List (Preset × Nat) := rows.filterMap button?

@[simp] lemma headers_nil : headers [] = [] := rfl

@[simp] lemma headers_append (rows more : List MenuRow) :
    headers (rows ++ more) = headers rows ++ headers more :=
  List.filterMap_append

@[simp] lemma headers_cons_preset (i : Nat) (e : Preset) (rows : List MenuRow) :
    headers (.preset i e :: rows) = headers rows := rfl

@[simp] lemma buttons_append (rows more : List MenuRow) :
    buttons (rows ++ more) = buttons rows ++ buttons more :=
  List.filterMap_append

@[simp] lemma heads?_header (expanded group : Option String) :
    (header expanded group).heads? = some group := by
  cases group <;> rfl

@[simp] lemma button?_header (expanded group : Option String) :
    (header expanded group).button? = none := by
  cases group <;> rfl

lemma mem_buttons {rows : List MenuRow} {i : Nat} {e : Preset} :
    (e, i) ∈ buttons rows ↔ .preset i e ∈ rows := by
  constructor
  · intro h
    obtain ⟨row, hrow, hbutton⟩ := List.mem_filterMap.mp h
    cases row <;> simp_all [button?]
  · intro h
    exact List.mem_filterMap.mpr ⟨.preset i e, h, rfl⟩

lemma none_mem_headers {rows : List MenuRow} : none ∈ headers rows ↔ .ungrouped ∈ rows := by
  constructor
  · intro h
    obtain ⟨row, hrow, hheads⟩ := List.mem_filterMap.mp h
    cases row <;> simp_all [heads?]
  · intro h
    exact List.mem_filterMap.mpr ⟨.ungrouped, h, rfl⟩

/-! ### One preset -/

variable {expanded : Option String} {above : Option (Option String)} {i : Nat} {l : List Preset}
variable {e : Preset} {g : Option String}

/-- The header of a preset, unless the preset above has the same group. -/
def headerBelow (expanded : Option String) (above : Option (Option String)) (e : Preset) :
    List MenuRow :=
  if above = some e.group then [] else [header expanded e.group]

/-- The button of a preset, if it is shown. -/
def buttonOf (expanded : Option String) (i : Nat) (e : Preset) : List MenuRow :=
  if isOpen expanded e.group then [.preset i e] else []

lemma rowsFrom_cons : rowsFrom expanded above i (e :: l) =
    headerBelow expanded above e ++ buttonOf expanded i e
      ++ rowsFrom expanded (some e.group) (i + 1) l := rfl

@[simp] lemma headers_headerBelow : headers (headerBelow expanded above e) =
    if above = some e.group then [] else [e.group] := by
  unfold headerBelow headers
  split <;> simp

@[simp] lemma headers_buttonOf : headers (buttonOf expanded i e) = [] := by
  unfold buttonOf headers
  split <;> simp [heads?]

@[simp] lemma buttons_headerBelow : buttons (headerBelow expanded above e) = [] := by
  unfold headerBelow buttons
  split <;> simp

@[simp] lemma buttons_buttonOf : buttons (buttonOf expanded i e) =
    if isOpen expanded e.group then [(e, i)] else [] := by
  unfold buttonOf buttons
  split <;> simp [button?]

lemma headers_rowsFrom_cons : headers (rowsFrom expanded above i (e :: l)) =
    (if above = some e.group then [] else [e.group])
      ++ headers (rowsFrom expanded (some e.group) (i + 1) l) := by
  rw [rowsFrom_cons, headers_append, headers_append, headers_headerBelow, headers_buttonOf,
    List.append_nil]

/-! ### Which headers there are -/

lemma exists_of_mem_headers (h : g ∈ headers (rowsFrom expanded above i l)) :
    ∃ e ∈ l, e.group = g := by
  induction l generalizing above i with
  | nil => simp [rowsFrom] at h
  | cons d l ih =>
    rw [headers_rowsFrom_cons, List.mem_append] at h
    rcases h with h | h
    · have : g = d.group := by
        split at h
        · contradiction
        · exact List.mem_singleton.mp h
      exact ⟨d, List.mem_cons_self .., this.symm⟩
    · obtain ⟨e, he, hgroup⟩ := ih h
      exact ⟨e, List.mem_cons_of_mem _ he, hgroup⟩

/-- A group has a header unless it goes on from above. -/
lemma mem_headers (he : e ∈ l) (habove : above ≠ some e.group) :
    e.group ∈ headers (rowsFrom expanded above i l) := by
  induction l generalizing above i with
  | nil => contradiction
  | cons d l ih =>
    rw [headers_rowsFrom_cons, List.mem_append]
    by_cases hgroup : d.group = e.group
    · rw [hgroup, if_neg habove]
      exact .inl (List.mem_singleton_self _)
    · have hne : e ≠ d := fun h => hgroup (h ▸ rfl)
      have he : e ∈ l := (List.mem_cons.mp he).resolve_left hne
      exact .inr (ih he (by simpa using hgroup))

/-- Below a preset only groups with greater keys get a header. -/
lemma lt_of_mem_headers (hl : Preset.Ordered (e :: l)) (hn : ∀ d ∈ e :: l, d.Normal)
    (h : g ∈ headers (rowsFrom expanded (some e.group) i l)) : e.groupKey < g.getD "" := by
  induction l generalizing e i with
  | nil => simp [rowsFrom] at h
  | cons d l ih =>
    obtain ⟨he, hl⟩ := List.pairwise_cons.mp hl
    obtain ⟨hne, hn⟩ := List.forall_mem_cons.mp hn
    have hle : e.groupKey ≤ d.groupKey := he d (List.mem_cons_self ..)
    rw [headers_rowsFrom_cons, List.mem_append] at h
    rcases h with h | h
    · split at h
      · contradiction
      · next hgroup =>
        obtain rfl : g = d.group := List.mem_singleton.mp h
        refine Std.lt_of_le_of_ne hle fun hkey => hgroup ?_
        rw [(hne.groupKey_eq_iff (hn d (List.mem_cons_self ..))).mp hkey]
    · exact Std.lt_of_le_of_lt hle (ih hl hn h)

lemma pairwise_headers (hl : Preset.Ordered l) (hn : ∀ d ∈ l, d.Normal) :
    (headers (rowsFrom expanded above i l)).Pairwise (·.getD "" < ·.getD "") := by
  induction l generalizing above i with
  | nil => exact List.Pairwise.nil
  | cons e l ih =>
    obtain ⟨-, hl'⟩ := List.pairwise_cons.mp hl
    obtain ⟨-, hn'⟩ := List.forall_mem_cons.mp hn
    rw [headers_rowsFrom_cons]
    split
    · exact ih hl' hn'
    · exact List.pairwise_cons.mpr ⟨fun g hg => lt_of_mem_headers hl hn hg, ih hl' hn'⟩

lemma eq_header_of_mem {row : MenuRow} (h : row ∈ rowsFrom expanded above i l)
    (hheads : row.heads? = some g) : row = header expanded g := by
  induction l generalizing above i with
  | nil => simp [rowsFrom] at h
  | cons e l ih =>
    rw [rowsFrom_cons, List.mem_append, List.mem_append] at h
    rcases h with (h | h) | h
    · unfold headerBelow at h
      split at h
      · contradiction
      · obtain rfl := List.mem_singleton.mp h
        rw [heads?_header] at hheads
        rw [Option.some.inj hheads]
    · unfold buttonOf at h
      split at h
      · obtain rfl := List.mem_singleton.mp h
        simp [heads?] at hheads
      · contradiction
    · exact ih h

/-! ### Which buttons there are -/

lemma buttons_rowsFrom : buttons (rowsFrom expanded above i l) =
    (l.zipIdx i).filter fun p => isOpen expanded p.1.group := by
  induction l generalizing above i with
  | nil => rfl
  | cons e l ih =>
    rw [rowsFrom_cons, buttons_append, buttons_append, buttons_headerBelow, buttons_buttonOf, ih,
      List.nil_append, List.zipIdx_cons, List.filter_cons]
    split <;> rfl

lemma pairwise_buttons :
    (buttons (rowsFrom expanded above i l)).Pairwise (·.2 < ·.2) := by
  have h : ((l.zipIdx i).map Prod.snd).Pairwise (· < ·) := by
    rw [List.zipIdx_map_snd]
    exact List.pairwise_lt_range'
  rw [buttons_rowsFrom]
  exact (List.pairwise_map.mp h).filter _

lemma isOpen_iff : isOpen expanded g = true ↔ g = none ∨ g = expanded := by
  simp [isOpen]

/-! ### Buttons below headers -/

lemma split_of_buttons_eq_nil {rows more before after : List MenuRow} {j : Nat}
    (hrows : buttons rows = []) (h : rows ++ more = before ++ .preset j e :: after) :
    ∃ below, before = rows ++ below ∧ more = below ++ .preset j e :: after := by
  rcases List.append_eq_append_iff.mp h with ⟨below, rfl, hmore⟩ | ⟨rest, rfl, hrest⟩
  · exact ⟨below, rfl, hmore⟩
  · cases rest with
    | nil => exact ⟨[], by simp, hrest.symm⟩
    | cons row rest =>
      obtain ⟨rfl, -⟩ := List.cons.inj hrest
      simp [buttons, button?] at hrows

/-- The last header above a button, or what is above all rows, is that of the button's group. -/
lemma getLast?_headers {before after : List MenuRow} {j : Nat}
    (h : rowsFrom expanded above i l = before ++ .preset j e :: after) :
    (headers before).getLast?.or above = some e.group := by
  induction l generalizing above i before with
  | nil => simp [rowsFrom] at h
  | cons d l ih =>
    rw [rowsFrom_cons, List.append_assoc] at h
    -- The button lies below the header of `d`: it is that of `d`, or one further down.
    obtain ⟨below, rfl, hbelow⟩ := split_of_buttons_eq_nil buttons_headerBelow h
    have hlast : (headers (headerBelow expanded above d)).getLast?.or above = some d.group := by
      rw [headers_headerBelow]
      split
      · assumption
      · rfl
    rw [headers_append, List.getLast?_append, Option.or_assoc, hlast]
    unfold buttonOf at hbelow
    split at hbelow
    · rcases List.cons_eq_append_iff.mp hbelow with ⟨rfl, hrow⟩ | ⟨below, rfl, hrow⟩
      · obtain ⟨-, rfl⟩ := MenuRow.preset.inj (List.cons.inj hrow).1
        rfl
      · rw [headers_cons_preset]
        exact ih hrow
    · exact ih hbelow

end MenuRow

namespace Catalog

open MenuRow

/-! ### The whole menu -/

variable {c : Catalog} {expanded : Option String}

lemma mem_headers_menu {g : Option String} :
    g ∈ headers (c.menu expanded) ↔ ∃ e ∈ c.entries, e.group = g := by
  constructor
  · exact exists_of_mem_headers
  · rintro ⟨e, he, rfl⟩
    exact mem_headers he (by simp)

lemma pairwise_headers_menu :
    (headers (c.menu expanded)).Pairwise (·.getD "" < ·.getD "") :=
  pairwise_headers c.ordered c.normal

lemma nodup_headers_menu : (headers (c.menu expanded)).Nodup := by
  have h : (headers (c.menu expanded)).Pairwise (·.getD "" < ·.getD "") := pairwise_headers_menu
  refine h.imp ?_
  rintro g _ hlt rfl
  exact Std.lt_irrefl hlt

/-- If there is an ungrouped preset, the first one is ungrouped. -/
lemma head?_menu (h : ∃ e ∈ c.entries, e.group = none) :
    (c.menu expanded).head? = some .ungrouped := by
  obtain ⟨e, he, hgroup⟩ := h
  obtain ⟨j, hj⟩ := List.mem_iff_getElem?.mp he
  cases hentries : c.entries with
  | nil => simp [hentries] at he
  | cons d l =>
    have hd : c.get? 0 = some d := by simp [get?, hentries]
    have hnone : d.group = none := group_eq_none_of_le (Nat.zero_le j) hd hj hgroup
    simp [menu, hentries, rowsFrom, hnone, header]

/-- What the menu of a catalog shows. -/
structure MenuOf (c : Catalog) (expanded : Option String) (rows : List MenuRow) : Prop where
  /-- Every group there is has one header, and no other group has any. -/
  count      : ∀ g, (headers rows).count g = if ∃ e ∈ c.entries, e.group = g then 1 else 0
  ungrouped  : .ungrouped ∈ rows ↔ ∃ e ∈ c.entries, e.group = none
  first      : .ungrouped ∈ rows → rows.head? = some .ungrouped
  /-- The names of groups ascend. -/
  names      : ((headers rows).filterMap id).Pairwise (· < ·)
  flag       : ∀ name flag, .group name flag ∈ rows → (flag = true ↔ expanded = some name)
  /-- The positions of the buttons ascend. -/
  positions  : (buttons rows).Pairwise (·.2 < ·.2)
  /-- The buttons are those of the presets that are ungrouped or in the expanded group, each with
  the preset at its position. -/
  shown      : ∀ i e, .preset i e ∈ rows ↔
    c.get? i = some e ∧ (e.group = none ∨ e.group = expanded)
  /-- The last header above a button is that of its group. -/
  below      : ∀ before i e after, rows = before ++ .preset i e :: after →
    (headers before).getLast? = some e.group

/-- The menu is so for every catalog that a run of operations leads to. -/
theorem menu_applyAll (ops : List Op) (expanded : Option String) :
    MenuOf (empty.applyAll ops) expanded ((empty.applyAll ops).menu expanded) := by
  set c := empty.applyAll ops
  constructor
  case count =>
    intro g
    split
    · next h => exact List.count_eq_one_of_mem nodup_headers_menu (mem_headers_menu.mpr h)
    · next h => exact List.count_eq_zero.mpr (mt mem_headers_menu.mp h)
  case ungrouped => rw [← none_mem_headers, mem_headers_menu]
  case first =>
    intro h
    exact head?_menu (mem_headers_menu.mp (none_mem_headers.mpr h))
  case names =>
    refine List.pairwise_filterMap.mpr (pairwise_headers_menu.imp ?_)
    rintro _ _ hlt name rfl name' rfl
    exact hlt
  case flag =>
    intro name flag h
    have hflag := (MenuRow.group.inj (eq_header_of_mem h rfl)).2
    rw [hflag, beq_iff_eq]
  case positions => exact pairwise_buttons
  case shown =>
    intro i e
    rw [← mem_buttons, menu, buttons_rowsFrom, List.mem_filter, List.mem_zipIdx_iff_getElem?,
      isOpen_iff]
    rfl
  case below =>
    intro before i e after h
    simpa using getLast?_headers h

end Catalog

end DebugConsole
