import DebugConsole.Keyed
import DebugConsole.Toml.Node
import Mathlib.Data.List.Nodup

/-!
# Keys that come up once

A table under construction never has a key twice, however deep inside it one looks: a key that comes
up again changes the entry that is there or is refused. So the tables of a finished document have
every key once.
-/

namespace DebugConsole.Toml

/-- A list of entries in which no key comes up twice and every value has a property. -/
structure Unrepeated {α : Type} (P : α → Prop) (entries : List (String × α)) : Prop where
  keys   : (Keyed.keys entries).Nodup
  values : ∀ e ∈ entries, P e.2

/-- No table in the value has a key twice. -/
inductive Value.Distinct : Value → Prop where
  | string  (s : String) : Distinct (.string s)
  | integer (n : Int) : Distinct (.integer n)
  | float   (x : Float) : Distinct (.float x)
  | boolean (b : Bool) : Distinct (.boolean b)
  | datetime : Distinct .datetime
  | array {items : List Value} (h : ∀ v ∈ items, v.Distinct) : Distinct (.array items)
  | table {entries : Table} (hkeys : (Keyed.keys entries).Nodup)
      (h : ∀ e ∈ entries, e.2.Distinct) : Distinct (.table entries)

/-- No table in the node has a key twice. -/
inductive Node.Distinct : Node → Prop where
  | value {v : Value} (h : v.Distinct) : Distinct (.value v)
  | table (implicit dotted : Bool) {entries : Entries} (hkeys : (Keyed.keys entries).Nodup)
      (h : ∀ e ∈ entries, e.2.Distinct) : Distinct (.table implicit dotted entries)
  | tables {items : List Entries} (hkeys : ∀ entries ∈ items, (Keyed.keys entries).Nodup)
      (h : ∀ entries ∈ items, ∀ e ∈ entries, e.2.Distinct) : Distinct (.tables items)

/-- No table among the entries has a key twice. -/
abbrev Entries.Distinct (entries : Entries) : Prop := Unrepeated Node.Distinct entries

/-- No table in the table has a key twice, nor has itself. -/
abbrev Table.Distinct (t : Table) : Prop := Unrepeated Value.Distinct t

lemma Value.distinct_table {t : Table} : (Value.table t).Distinct ↔ t.Distinct :=
  ⟨fun | .table hkeys h => ⟨hkeys, h⟩, fun h => .table h.keys h.values⟩

lemma Node.distinct_table {implicit dotted : Bool} {entries : Entries} :
    (Node.table implicit dotted entries).Distinct ↔ entries.Distinct :=
  ⟨fun | .table _ _ hkeys h => ⟨hkeys, h⟩, fun h => .table _ _ h.keys h.values⟩

lemma Node.distinct_tables {items : List Entries} :
    (Node.tables items).Distinct ↔ ∀ entries ∈ items, entries.Distinct :=
  ⟨fun | .tables hkeys h => fun entries hmem => ⟨hkeys entries hmem, h entries hmem⟩,
    fun h => .tables (fun entries hmem => (h entries hmem).keys)
      fun entries hmem => (h entries hmem).values⟩

section

variable {α : Type} {P : α → Prop} {entries : List (String × α)} {k : String} {v : α}

lemma unrepeated_nil : Unrepeated P ([] : List (String × α)) := ⟨List.nodup_nil, by simp⟩

lemma unrepeated_cons {e : String × α} :
    Unrepeated P (e :: entries) ↔ e.1 ∉ Keyed.keys entries ∧ P e.2 ∧ Unrepeated P entries := by
  constructor
  · rintro ⟨hkeys, hvalues⟩
    obtain ⟨hk, hkeys⟩ := List.nodup_cons.mp hkeys
    obtain ⟨hv, hvalues⟩ := List.forall_mem_cons.mp hvalues
    exact ⟨hk, hv, hkeys, hvalues⟩
  · rintro ⟨hk, hv, hkeys, hvalues⟩
    exact ⟨List.nodup_cons.mpr ⟨hk, hkeys⟩, List.forall_mem_cons.mpr ⟨hv, hvalues⟩⟩

lemma Unrepeated.filter (h : Unrepeated P entries) (p : String × α → Bool) :
    Unrepeated P (entries.filter p) :=
  ⟨h.keys.sublist (List.filter_sublist.map _),
    fun e he => h.values e (List.mem_filter.mp he).1⟩

lemma Unrepeated.of_lookup (h : Unrepeated P entries) (hk : entries.lookup k = some v) : P v := by
  obtain ⟨before, after, rfl, -⟩ := List.lookup_eq_some_iff.mp hk
  exact h.values (k, v) (by simp)

lemma Unrepeated.lookup_eq_some_iff (h : Unrepeated P entries) :
    entries.lookup k = some v ↔ (k, v) ∈ entries := by
  induction entries with
  | nil => simp
  | cons e entries ih =>
    obtain ⟨own, w⟩ := e
    obtain ⟨hown, -, hentries⟩ := unrepeated_cons.mp h
    rw [Keyed.lookup_cons, List.mem_cons, Prod.mk.injEq]
    split
    case isTrue hk =>
      subst hk
      have hnot : (k, v) ∉ entries := fun hmem => hown (List.mem_map.mpr ⟨(k, v), hmem, rfl⟩)
      simp [hnot, eq_comm]
    case isFalse hk => simp [hk, ih hentries]

lemma Unrepeated.perm (h : Unrepeated P entries) {other : List (String × α)}
    (hperm : other.Perm entries) : Unrepeated P other :=
  ⟨(hperm.map _).nodup_iff.mpr h.keys, fun e he => h.values e (hperm.mem_iff.mp he)⟩

/-- The order of the entries does not matter to a key. -/
lemma Unrepeated.lookup_perm (h : Unrepeated P entries) {other : List (String × α)}
    (hperm : other.Perm entries) (k : String) : other.lookup k = entries.lookup k := by
  refine Option.ext fun v => ?_
  rw [h.lookup_eq_some_iff, (h.perm hperm).lookup_eq_some_iff, hperm.mem_iff]

end

/-! ### Changing one entry -/

section

variable {k : String} {f : Option Node → Option Node} {entries changed : Entries}

lemma mem_keys_changeAt (h : changeAt k f entries = some changed) {q : String}
    (hq : q ∈ Keyed.keys changed) : q = k ∨ q ∈ Keyed.keys entries := by
  induction entries generalizing changed with
  | nil =>
    obtain ⟨n, -, rfl⟩ := Option.map_eq_some_iff.mp h
    exact .inl (by simpa [Keyed.keys] using hq)
  | cons e entries ih =>
    unfold changeAt at h
    split at h
    case isTrue he =>
      obtain ⟨n, -, rfl⟩ := Option.map_eq_some_iff.mp h
      subst he
      exact .inr hq
    case isFalse he =>
      obtain ⟨es, hes, rfl⟩ := Option.map_eq_some_iff.mp h
      rcases List.mem_cons.mp hq with rfl | hq
      · exact .inr List.mem_cons_self
      · exact (ih hes hq).imp_right (List.mem_cons_of_mem _)

/-- A change of one entry that keeps nodes distinct keeps the whole table so. -/
lemma Entries.Distinct.changeAt (h : entries.Distinct)
    (hf : ∀ n?, (∀ n ∈ n?, Node.Distinct n) → ∀ n ∈ f n?, n.Distinct)
    (hchanged : changeAt k f entries = some changed) : changed.Distinct := by
  induction entries generalizing changed with
  | nil =>
    obtain ⟨n, hn, rfl⟩ := Option.map_eq_some_iff.mp hchanged
    have hdistinct : n.Distinct := hf none (fun _ h => nomatch h) n hn
    exact unrepeated_cons.mpr ⟨by simp [Keyed.keys], hdistinct, unrepeated_nil⟩
  | cons e entries ih =>
    obtain ⟨hkey, hnode, hentries⟩ := unrepeated_cons.mp h
    unfold Toml.changeAt at hchanged
    split at hchanged
    case isTrue he =>
      obtain ⟨n, hn, rfl⟩ := Option.map_eq_some_iff.mp hchanged
      exact unrepeated_cons.mpr ⟨he ▸ hkey, hf (some e.2) (by simpa using hnode) n hn, hentries⟩
    case isFalse he =>
      obtain ⟨es, hes, rfl⟩ := Option.map_eq_some_iff.mp hchanged
      refine unrepeated_cons.mpr ⟨fun hmem => ?_, hnode, ih hentries hes⟩
      rcases mem_keys_changeAt hes hmem with hk | hk
      · exact he hk
      · exact hkey hk

end

/-- A change of the last item that keeps a property of items keeps it of them all. -/
lemma forall_mem_changeLast {α : Type} {P : α → Prop} {f : α → Option α} {items changed : List α}
    (h : ∀ a ∈ items, P a) (hf : ∀ a, P a → ∀ b ∈ f a, P b)
    (hchanged : changeLast f items = some changed) : ∀ a ∈ changed, P a := by
  induction items generalizing changed with
  | nil => cases hchanged
  | cons a items ih =>
    obtain ⟨ha, hitems⟩ := List.forall_mem_cons.mp h
    cases items with
    | nil =>
      obtain ⟨b, hb, rfl⟩ := Option.map_eq_some_iff.mp hchanged
      simpa using hf a ha b hb
    | cons b items =>
      obtain ⟨rest, hrest, rfl⟩ := Option.map_eq_some_iff.mp hchanged
      exact List.forall_mem_cons.mpr ⟨ha, ih hitems hrest⟩

lemma Node.distinct_of_map_table {result : Option Entries} {implicit dotted : Bool}
    (h : ∀ es ∈ result, Entries.Distinct es) :
    ∀ n ∈ result.map (Node.table implicit dotted), n.Distinct := by
  intro n hn
  obtain ⟨es, hes, rfl⟩ := Option.map_eq_some_iff.mp hn
  exact Node.distinct_table.mpr (h es hes)

lemma Node.distinct_of_map_tables {f : Entries → Option Entries} {items : List Entries}
    (hf : ∀ es, Entries.Distinct es → ∀ es' ∈ f es, es'.Distinct)
    (h : (Node.tables items).Distinct) :
    ∀ n ∈ (changeLast f items).map Node.tables, n.Distinct := by
  intro n hn
  obtain ⟨items', hitems', rfl⟩ := Option.map_eq_some_iff.mp hn
  exact Node.distinct_tables.mpr (forall_mem_changeLast (Node.distinct_tables.mp h) hf hitems')

/-! ### Keys with values -/

lemma Entries.Distinct.addPair {k : String} {v : Value} (hv : v.Distinct) {path : List String}
    {entries added : Entries} (h : entries.Distinct)
    (hadded : addPair k v path entries = some added) : added.Distinct := by
  induction path generalizing entries added with
  | nil =>
    refine h.changeAt (fun n? _ n hn => ?_) hadded
    split at hn
    case isTrue => cases hn; exact .value hv
    case isFalse => cases hn
  | cons p path ih =>
    refine h.changeAt (fun n? hn? n hn => ?_) hadded
    split at hn
    case h_1 => exact Node.distinct_of_map_table (fun _ => ih unrepeated_nil) n hn
    case h_2 => cases hn
    case h_3 implicit dotted es =>
      split at hn
      case isTrue =>
        have hes := Node.distinct_table.mp (hn? _ rfl)
        exact Node.distinct_of_map_table (fun _ => ih hes) n hn
      case isFalse => cases hn
    case h_4 items =>
      split at hn
      case isTrue => cases hn
      case isFalse => exact Node.distinct_of_map_tables (fun _ hes _ => ih hes) (hn? _ rfl) n hn

/-! ### Headers -/

lemma Entries.Distinct.changeTable {f : Entries → Option Entries}
    (hf : ∀ es, Entries.Distinct es → ∀ es' ∈ f es, es'.Distinct) {path : List String}
    {entries changed : Entries} (h : entries.Distinct)
    (hchanged : changeTable f path entries = some changed) : changed.Distinct := by
  induction path generalizing entries changed with
  | nil => exact hf entries h changed hchanged
  | cons p path ih =>
    refine h.changeAt (fun n? hn? n hn => ?_) hchanged
    split at hn
    case h_1 => exact Node.distinct_of_map_table (fun _ => ih unrepeated_nil) n hn
    case h_2 => cases hn
    case h_3 implicit dotted es =>
      have hes := Node.distinct_table.mp (hn? _ rfl)
      exact Node.distinct_of_map_table (fun _ => ih hes) n hn
    case h_4 items =>
      exact Node.distinct_of_map_tables (fun _ hes _ => ih hes) (hn? _ rfl) n hn

lemma Entries.Distinct.openable {entries opened : Entries} (h : entries.Distinct) {name : String}
    (hopened : openable entries name = some opened) : opened.Distinct := by
  unfold Toml.openable at hopened
  split at hopened
  case h_1 => cases hopened; exact unrepeated_nil
  case h_2 es hlookup => cases hopened; exact Node.distinct_table.mp (h.of_lookup hlookup)
  case h_3 => cases hopened

lemma Entries.Distinct.tableAt {path : List String} {entries found : Entries}
    (h : entries.Distinct) (hfound : tableAt path entries = some found) : found.Distinct := by
  induction path generalizing entries with
  | nil => cases hfound; exact h
  | cons p path ih =>
    unfold Toml.tableAt at hfound
    split at hfound
    case h_1 => cases hfound; exact unrepeated_nil
    case h_2 => cases hfound
    case h_3 es hlookup => exact ih (Node.distinct_table.mp (h.of_lookup hlookup)) hfound
    case h_4 items hlookup =>
      obtain ⟨es, hes, hfound⟩ := Option.bind_eq_some_iff.mp hfound
      exact ih (Node.distinct_tables.mp (h.of_lookup hlookup) es (List.mem_of_getLast? hes)) hfound

/-! ### Documents -/

namespace Draft

/-- No table in the part that was read has a key twice. -/
structure Distinct (d : Draft) : Prop where
  finished : d.finished.Distinct
  current  : d.current.Distinct

variable {d e : Draft} {path : List String} {name : String}

lemma Distinct.close (h : d.Distinct) {closed : Entries} (hclosed : d.close = some closed) :
    closed.Distinct := by
  unfold Draft.close at hclosed
  split at hclosed
  case h_1 => cases hclosed; exact h.current
  case h_2 path name _ =>
    refine h.finished.changeTable (fun es hes es' hes' => ?_) hclosed
    refine hes.changeAt (fun n? _ n hn => ?_) hes'
    cases hn
    exact Node.distinct_table.mpr h.current
  case h_3 path name _ =>
    refine h.finished.changeTable (fun es hes es' hes' => ?_) hclosed
    refine hes.changeAt (fun n? hn? n hn => ?_) hes'
    split at hn
    case h_1 =>
      cases hn
      exact Node.distinct_tables.mpr (by simpa using h.current)
    case h_2 items =>
      cases hn
      have hitems := Node.distinct_tables.mp (hn? _ rfl)
      exact Node.distinct_tables.mpr
        (List.forall_mem_append.mpr ⟨hitems, by simpa using h.current⟩)
    case h_3 => cases hn

lemma Distinct.openTable (h : d.Distinct) (hopened : d.openTable path name = some e) :
    e.Distinct := by
  simp only [Draft.openTable, Option.bind_eq_bind, Option.bind_eq_some_iff] at hopened
  obtain ⟨closed, hclosed, parent, hparent, current, hcurrent, finished, hfinished, he⟩ := hopened
  cases he
  have hclosed := h.close hclosed
  constructor
  case finished =>
    refine hclosed.changeTable (fun es hes es' hes' => ?_) hfinished
    cases hes'
    exact hes.filter _
  case current => exact (hclosed.tableAt hparent).openable hcurrent

lemma Distinct.openItem (h : d.Distinct) (hopened : d.openItem path name = some e) :
    e.Distinct := by
  simp only [Draft.openItem, Option.bind_eq_bind, Option.bind_eq_some_iff] at hopened
  obtain ⟨closed, hclosed, he⟩ := hopened
  cases he
  exact ⟨h.close hclosed, unrepeated_nil⟩

lemma Distinct.add (h : d.Distinct) {v : Value} (hv : v.Distinct)
    (hadded : d.add path name v = some e) : e.Distinct := by
  obtain ⟨current, hcurrent, rfl⟩ := Option.map_eq_some_iff.mp hadded
  exact ⟨h.finished, h.current.addPair hv hcurrent⟩

end Draft

/-! ### Finishing -/

lemma keys_finishEntries (entries : Entries) :
    Keyed.keys (finishEntries entries) = Keyed.keys entries := by
  induction entries with
  | nil => rfl
  | cons e entries ih =>
    rw [Keyed.keys, finishEntries, List.map_cons, ← Keyed.keys, ih]
    rfl

mutual

/-- Finishing a node does not touch the keys of tables. -/
lemma Node.Distinct.finish {n : Node} (h : n.Distinct) : n.finish.Distinct := by
  match n with
  | .value v =>
    cases h with
    | value hv => exact hv
  | .table implicit dotted entries =>
    have hentries := Node.distinct_table.mp h
    exact Value.distinct_table.mpr hentries.finish
  | .tables items => exact .array (Entries.forall_mem_finish (Node.distinct_tables.mp h))

lemma Entries.Distinct.finish {entries : Entries} (h : entries.Distinct) :
    (finishEntries entries).Distinct := by
  match entries with
  | [] => exact unrepeated_nil
  | (k, n) :: entries =>
    obtain ⟨hk, hn, hentries⟩ := unrepeated_cons.mp h
    exact unrepeated_cons.mpr
      ⟨keys_finishEntries entries ▸ hk, hn.finish, Entries.Distinct.finish hentries⟩

lemma Entries.forall_mem_finish {items : List Entries} (h : ∀ es ∈ items, Entries.Distinct es) :
    ∀ v ∈ finishTables items, v.Distinct := by
  match items with
  | [] => exact fun _ hv => nomatch hv
  | es :: items =>
    obtain ⟨hes, hitems⟩ := List.forall_mem_cons.mp h
    exact List.forall_mem_cons.mpr
      ⟨Value.distinct_table.mpr hes.finish, Entries.forall_mem_finish hitems⟩

end

lemma Draft.Distinct.finish {d : Draft} (h : d.Distinct) {t : Table} (ht : d.finish = some t) :
    t.Distinct := by
  obtain ⟨closed, hclosed, rfl⟩ := Option.map_eq_some_iff.mp ht
  exact (h.close hclosed).finish

end DebugConsole.Toml
