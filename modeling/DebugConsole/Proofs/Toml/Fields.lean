import DebugConsole.Proofs.Toml.Distinct
import DebugConsole.Toml.Typed
import Mathlib.Tactic.Common

/-!
# Records from tables

A record is read from a table entry by entry, and an entry sets one field or none. When no key comes
up twice, a field is therefore what its key gives, wherever the key stands, and the default if the
key is missing; and a record is read if and only if the values of its keys stand for something.
-/

namespace DebugConsole.Toml

/-! ### Fields -/

/-- What a key gives: what its value stands for if there is one, the default otherwise. -/
def Given {α : Type} (v? : Option Value) (Means : Value → α → Prop) (default x : α) : Prop :=
  match v? with
  | none   => x = default
  | some v => Means v x

/-- A field of a record that is read from a table. A value stands for one thing at most. -/
structure RecordField (σ : Type) where
  {Carrier : Type}
  key     : String
  Means   : Value → Carrier → Prop
  default : Carrier
  get     : σ → Carrier
  unique  : ∀ {v x y}, Means v x → Means v y → x = y

section

variable {σ τ : Type} {f : RecordField σ} {fields : List (RecordField σ)} {key : String} {v : Value}
  {t : Table} {s s' : σ}

/-- Each field of a record is what its key gives. -/
def Holds (fields : List (RecordField σ)) (t : Table) (s : σ) : Prop :=
  ∀ f ∈ fields, Given (t.lookup f.key) f.Means f.default (f.get s)

/-- The value of a key stands for something if the key is that of a field. -/
def Fits (fields : List (RecordField σ)) (key : String) (v : Value) : Prop :=
  ∀ f ∈ fields, f.key = key → ∃ x, f.Means v x

/-- Every key of a field that is present has a value that stands for something. -/
def WellTyped (fields : List (RecordField σ)) (t : Table) : Prop :=
  ∀ f ∈ fields, ∀ v, t.lookup f.key = some v → ∃ x, f.Means v x

lemma Holds.wellTyped (h : Holds fields t s) : WellTyped fields t := by
  intro f hf v hv
  have hgiven := h f hf
  rw [hv] at hgiven
  exact ⟨f.get s, hgiven⟩

/-- The keys determine each field. -/
lemma Holds.get_eq (h : Holds fields t s) (h' : Holds fields t s') (hf : f ∈ fields) :
    f.get s = f.get s' := by
  have hgiven := h f hf
  have hgiven' := h' f hf
  cases hv : t.lookup f.key with
  | none =>
    rw [hv] at hgiven hgiven'
    exact hgiven.trans hgiven'.symm
  | some v =>
    rw [hv] at hgiven hgiven'
    exact f.unique hgiven hgiven'

/-- Only the keys of the fields matter. -/
lemma holds_congr {t' : Table} (h : ∀ f ∈ fields, t'.lookup f.key = t.lookup f.key) :
    Holds fields t' s ↔ Holds fields t s :=
  forall₂_congr fun f hf => by rw [h f hf]

lemma wellTyped_congr {t' : Table} (h : ∀ f ∈ fields, t'.lookup f.key = t.lookup f.key) :
    WellTyped fields t' ↔ WellTyped fields t :=
  forall₂_congr fun f hf => by rw [h f hf]

/-- A field has a property that its default has if and only if what is given has it. -/
lemma Holds.forall_iff (h : Holds fields t s) (hf : f ∈ fields) {Q : f.Carrier → Prop}
    (hdefault : Q f.default) :
    Q (f.get s) ↔ ∀ v x, t.lookup f.key = some v → f.Means v x → Q x := by
  have hgiven := h f hf
  cases hv : t.lookup f.key with
  | none =>
    rw [hv] at hgiven
    exact ⟨fun _ _ _ hsome => (nomatch hsome), fun _ => Eq.symm hgiven ▸ hdefault⟩
  | some v =>
    rw [hv] at hgiven
    constructor
    · rintro hQ _ x ⟨⟩ hx
      exact f.unique hgiven hx ▸ hQ
    · exact fun hall => hall v _ rfl hgiven

/-! ### Reading an entry -/

/-- A field after an entry: what the value stands for if the entry has the key of the field, and
what it was before otherwise. -/
def RecordField.After (f : RecordField σ) (key : String) (v : Value) (s s' : σ) : Prop :=
  if key = f.key then f.Means v (f.get s') else f.get s' = f.get s

lemma RecordField.After.hit (h : f.Means v (f.get s')) : f.After f.key v s s' := by
  rwa [After, if_pos rfl]

lemma RecordField.After.miss (hkey : key ≠ f.key) (h : f.get s' = f.get s) :
    f.After key v s s' := by
  rwa [After, if_neg hkey]

lemma exists_of_map {r : Except Mismatch σ} {put : σ → τ} {y : τ} (h : r.map put = .ok y) :
    ∃ x, r = .ok x ∧ put x = y := by
  cases r with
  | error m => cases h
  | ok x => exact ⟨x, rfl, Except.ok.inj h⟩

/-- An entry sets the field of the key that is tried, or those that are tried later. -/
lemma eq_ok_of_ite_map {own : String} {read : Except Mismatch τ} {put : τ → σ}
    {rest : Except Mismatch σ} (h : (if key = own then read.map put else rest) = .ok s) :
    (key = own ∧ ∃ x, read = .ok x ∧ put x = s) ∨ (key ≠ own ∧ rest = .ok s) := by
  split at h
  case isTrue hkey => exact .inl ⟨hkey, exists_of_map h⟩
  case isFalse hkey => exact .inr ⟨hkey, h⟩

lemma fits_nil : Fits ([] : List (RecordField σ)) key v := fun _ hf => nomatch hf

/-- An entry can be set if its value stands for something where its key is tried. -/
lemma exists_ite_map_iff {own : String} {read : Except Mismatch τ} {put : τ → σ}
    {rest : Except Mismatch σ} (hown : f.key = own) (hnew : own ∉ fields.map RecordField.key)
    (hread : (∃ x, read = .ok x) ↔ ∃ x, f.Means v x)
    (hrest : (∃ s, rest = .ok s) ↔ Fits fields key v) :
    (∃ s, (if key = own then read.map put else rest) = .ok s) ↔ Fits (f :: fields) key v := by
  subst hown
  rw [Fits, List.forall_mem_cons, ← Fits]
  split
  case isTrue hkey =>
    have hlater : Fits fields key v := fun g hg hgkey =>
      absurd (List.mem_map.mpr ⟨g, hg, hgkey.trans hkey⟩) hnew
    have hmap : (∃ s, read.map put = .ok s) ↔ ∃ x, read = .ok x := by
      cases read <;> simp [Except.map]
    rw [hmap, hread, and_iff_left hlater]
    exact ⟨fun hx _ => hx, fun h => h hkey.symm⟩
  case isFalse hkey =>
    rw [hrest]
    exact ⟨fun h => ⟨fun hown => absurd hown.symm hkey, h⟩, fun h => h.2⟩

end

/-! ### Reading a table -/

/-- An operation puts the value of an entry into the field with the entry's key and leaves the other
fields as they are. Values need to have a property for that. -/
structure Sets {σ : Type} (fields : List (RecordField σ)) (P : Value → Prop)
    (set : σ → String → Value → Except Mismatch σ) : Prop where
  after : ∀ {s key v s'}, P v → set s key v = .ok s' → ∀ f ∈ fields, f.After key v s s'
  total : ∀ s key {v}, P v → ((∃ s', set s key v = .ok s') ↔ Fits fields key v)
  whole : ∀ {s s'}, (∀ f ∈ fields, f.get s = f.get s') → s = s'

section

variable {σ : Type} {fields : List (RecordField σ)} {P : Value → Prop} {t : Table} {s s' : σ}
  {set : σ → String → Value → Except Mismatch σ}

lemma exists_of_bind {r : Except Mismatch σ} {next : σ → Except Mismatch σ}
    (h : r >>= next = .ok s) : ∃ x, r = .ok x ∧ next x = .ok s := by
  cases r with
  | error m => cases h
  | ok x => exact ⟨x, rfl, h⟩

/-- What an entry does to a field, a table does once, if it has the key of the field. -/
lemma Sets.given (hset : Sets fields P set) (ht : Unrepeated P t)
    (h : t.foldlM (fun s (key, v) => set s key v) s = .ok s') {f : RecordField σ}
    (hf : f ∈ fields) : Given (t.lookup f.key) f.Means (f.get s) (f.get s') := by
  induction t generalizing s with
  | nil => cases h; rfl
  | cons e t ih =>
    obtain ⟨key, v⟩ := e
    obtain ⟨hkey, hv, ht⟩ := unrepeated_cons.mp ht
    rw [List.foldlM_cons] at h
    obtain ⟨s₁, hs₁, h⟩ := exists_of_bind h
    have hafter := hset.after hv hs₁ f hf
    have hrest := ih ht h
    rw [Keyed.lookup_cons]
    by_cases hown : key = f.key
    · have hnone : t.lookup f.key = none := by
        rw [← Option.not_isSome_iff_eq_none, ← Keyed.mem_keys_iff]
        exact hown ▸ hkey
      rw [RecordField.After, if_pos hown] at hafter
      rw [hnone] at hrest
      rw [if_pos hown.symm, Given, hrest]
      exact hafter
    · rw [RecordField.After, if_neg hown] at hafter
      rwa [if_neg (Ne.symm hown), ← hafter]

/-- A table can be read if and only if each of its entries can be. -/
lemma Sets.exists_iff (hset : Sets fields P set) (ht : Unrepeated P t) :
    (∃ s', t.foldlM (fun s (key, v) => set s key v) s = .ok s') ↔ WellTyped fields t := by
  induction t generalizing s with
  | nil => exact ⟨fun _ _ _ _ hv => (nomatch hv), fun _ => ⟨s, rfl⟩⟩
  | cons e t ih =>
    obtain ⟨own, w⟩ := e
    obtain ⟨hown, hw, ht⟩ := unrepeated_cons.mp ht
    simp only [WellTyped, Keyed.lookup_cons]
    constructor
    · rintro ⟨s', h⟩ f hf v hv
      obtain ⟨s₁, hs₁, h⟩ := exists_of_bind h
      split at hv
      case isTrue hkey =>
        cases hv
        exact (hset.total s own hw).mp ⟨s₁, hs₁⟩ f hf hkey
      case isFalse => exact (ih ht).mp ⟨s', h⟩ f hf v hv
    · intro hfits
      have hfirst : Fits fields own w := fun f hf hkey => hfits f hf w (if_pos hkey)
      obtain ⟨s₁, hs₁⟩ := (hset.total s own hw).mpr hfirst
      have hrest : WellTyped fields t := by
        intro f hf v hv
        refine hfits f hf v ?_
        rw [if_neg, hv]
        intro hkey
        exact hown (hkey ▸ Keyed.mem_keys_of_lookup hv)
      obtain ⟨s', hs'⟩ := (ih (s := s₁) ht).mpr hrest
      exact ⟨s', by rw [List.foldlM_cons, hs₁]; exact hs'⟩

/-- Read into the defaults, a record is what holds of the table. -/
lemma Sets.eq_ok_iff (hset : Sets fields P set) (ht : Unrepeated P t)
    (hdefault : ∀ f ∈ fields, f.get s = f.default) :
    t.foldlM (fun s (key, v) => set s key v) s = .ok s' ↔ Holds fields t s' := by
  have sound {s' : σ} (h : t.foldlM (fun s (key, v) => set s key v) s = .ok s') :
      Holds fields t s' := fun f hf => hdefault f hf ▸ hset.given ht h hf
  refine ⟨sound, fun h => ?_⟩
  obtain ⟨s'', hs''⟩ := (hset.exists_iff (s := s) ht).mpr h.wellTyped
  rw [hs'', hset.whole fun f hf => (sound hs'').get_eq h hf]

end

/-! ### What values stand for -/

section

variable {v : Value}

def IsNatural (v : Value) (n : Nat) : Prop := v = .integer n

def IsBoolean (v : Value) (b : Bool) : Prop := v = .boolean b

/-- A string of exactly one character. -/
def IsCharacter (v : Value) (c : Char) : Prop := v = .string (String.singleton c)

/-- A string with the hexadecimal form of a color, which is then there. -/
def IsColor (v : Value) (c? : Option Color) : Prop :=
  ∃ text c, v = .string text ∧ Color.ofHex? text = some c ∧ c? = some c

lemma IsNatural.unique {m n : Nat} (hm : IsNatural v m) (hn : IsNatural v n) : m = n :=
  Int.ofNat_inj.mp (Value.integer.inj (hm.symm.trans hn))

lemma IsBoolean.unique {a b : Bool} (ha : IsBoolean v a) (hb : IsBoolean v b) : a = b := by
  simpa using ha.symm.trans hb

lemma IsCharacter.unique {c d : Char} (hc : IsCharacter v c) (hd : IsCharacter v d) : c = d := by
  simpa using hc.symm.trans hd

lemma IsColor.unique {c? d? : Option Color} (hc : IsColor v c?) (hd : IsColor v d?) :
    c? = d? := by
  obtain ⟨text, c, rfl, hc, rfl⟩ := hc
  obtain ⟨_, d, ⟨⟩, hd, rfl⟩ := hd
  exact hc.symm.trans hd

lemma natural_eq_ok_iff {n : Nat} : v.natural = .ok n ↔ IsNatural v n := by
  cases v with
  | integer m =>
    cases m with
    | ofNat m =>
      simp only [Value.natural, IsNatural, Except.ok.injEq, Value.integer.injEq]
      exact Int.ofNat_inj.symm
    | negSucc m => simp [Value.natural, IsNatural]
  | _ => simp [Value.natural, IsNatural]

lemma asBoolean_eq_ok_iff {b : Bool} : v.asBoolean = .ok b ↔ IsBoolean v b := by
  cases v <;> simp [Value.asBoolean, IsBoolean]

lemma asCharacter_eq_ok_iff {c : Char} : v.asCharacter = .ok c ↔ IsCharacter v c := by
  cases v with
  | string s =>
    have hsingle (x : Char) : s = String.singleton x ↔ s.toList = [x] := by
      rw [← String.toList_inj, String.toList_singleton]
    simp only [Value.asCharacter, IsCharacter, Value.string.injEq, hsingle]
    split
    case h_1 x hx => simp [hx]
    case h_2 hs => simpa using hs c
  | _ => simp [Value.asCharacter, IsCharacter]

lemma asColor_eq_ok_iff {c : Color} : v.asColor = .ok c ↔ IsColor v (some c) := by
  cases v with
  | string s => cases h : Color.ofHex? s <;> simp [Value.asColor, IsColor, h]
  | _ => simp [Value.asColor, IsColor]

/-- A color that is read is there, so it does not matter that a style may have none. -/
lemma exists_asColor_iff : (∃ c, v.asColor = .ok c) ↔ ∃ c?, IsColor v c? := by
  constructor
  · rintro ⟨c, hc⟩
    exact ⟨some c, asColor_eq_ok_iff.mp hc⟩
  · rintro ⟨_, text, c, hv, hc, rfl⟩
    exact ⟨c, asColor_eq_ok_iff.mpr ⟨text, c, hv, hc, rfl⟩⟩

end

/-! ### Styles -/

/-- The fields of a style. -/
def styleFields : List (RecordField TextStyle) :=
  [⟨"color", IsColor, none, TextStyle.color, IsColor.unique⟩,
    ⟨"bold", IsBoolean, false, TextStyle.bold, IsBoolean.unique⟩,
    ⟨"italic", IsBoolean, false, TextStyle.italic, IsBoolean.unique⟩]

/-- A table with the fields of a style, or a list of them in their order that may end early. A date
or a time gives no field. -/
def IsStyle (v : Value) (s : TextStyle) : Prop :=
  match v with
  | .table t     => Holds styleFields t s
  | .array items => Holds styleFields ((styleFields.map RecordField.key).zip items) s
  | .datetime    => s = .plain
  | _            => False

lemma eq_of_styleFields {r s : TextStyle} (h : ∀ f ∈ styleFields, f.get r = f.get s) : r = s := by
  simp only [styleFields, List.forall_mem_cons] at h
  obtain ⟨hcolor, hbold, hitalic, -⟩ := h
  cases r
  cases s
  exact TextStyle.mk.injEq .. ▸ ⟨hcolor, hbold, hitalic⟩

lemma IsStyle.unique {v : Value} {r s : TextStyle} (hr : IsStyle v r) (hs : IsStyle v s) :
    r = s := by
  cases v with
  | table t => exact eq_of_styleFields fun f hf => Holds.get_eq hr hs hf
  | array items => exact eq_of_styleFields fun f hf => Holds.get_eq hr hs hf
  | datetime => exact Eq.trans hr (Eq.symm hs)
  | _ => exact hr.elim

lemma styleFields_after {s s' : TextStyle} {key : String} {v : Value}
    (h : setStyleField s key v = .ok s') : ∀ f ∈ styleFields, f.After key v s s' := by
  simp only [styleFields, List.forall_mem_cons]
  unfold setStyleField at h
  obtain ⟨rfl, c, hc, rfl⟩ | ⟨hcolor, h⟩ := eq_ok_of_ite_map h
  · exact ⟨.hit (asColor_eq_ok_iff.mp hc), .miss (by decide) rfl, .miss (by decide) rfl, by simp⟩
  obtain ⟨rfl, b, hb, rfl⟩ | ⟨hbold, h⟩ := eq_ok_of_ite_map h
  · exact ⟨.miss (by decide) rfl, .hit (asBoolean_eq_ok_iff.mp hb), .miss (by decide) rfl, by simp⟩
  obtain ⟨rfl, b, hb, rfl⟩ | ⟨hitalic, h⟩ := eq_ok_of_ite_map h
  · exact ⟨.miss (by decide) rfl, .miss (by decide) rfl, .hit (asBoolean_eq_ok_iff.mp hb), by simp⟩
  cases h
  exact ⟨.miss hcolor rfl, .miss hbold rfl, .miss hitalic rfl, by simp⟩

lemma exists_setStyleField_iff {s : TextStyle} {key : String} {v : Value} :
    (∃ s', setStyleField s key v = .ok s') ↔ Fits styleFields key v := by
  unfold setStyleField styleFields
  refine exists_ite_map_iff rfl (by decide) exists_asColor_iff ?_
  refine exists_ite_map_iff rfl (by decide) (exists_congr fun _ => asBoolean_eq_ok_iff) ?_
  refine exists_ite_map_iff rfl (by decide) (exists_congr fun _ => asBoolean_eq_ok_iff) ?_
  exact ⟨fun _ => fits_nil, fun _ => ⟨s, rfl⟩⟩

lemma sets_setStyleField (P : Value → Prop) : Sets styleFields P setStyleField where
  after := fun _ h => styleFields_after h
  total := fun _ _ _ _ => exists_setStyleField_iff
  whole := eq_of_styleFields

/-- The values of a list belong to the fields in their order. -/
lemma unrepeated_zip (items : List Value) :
    Unrepeated (fun _ => True) ((styleFields.map RecordField.key).zip items) := by
  refine ⟨?_, fun _ _ => trivial⟩
  rcases items with _ | ⟨a, _ | ⟨b, _ | ⟨c, items⟩⟩⟩ <;> simp [styleFields, Keyed.keys]

lemma asStyle_eq_ok_iff {v : Value} (hv : v.Distinct) {s : TextStyle} :
    v.asStyle = .ok s ↔ IsStyle v s := by
  have hdefault : ∀ f ∈ styleFields, f.get {} = f.default := by simp [styleFields]
  cases v with
  | table t => exact (sets_setStyleField _).eq_ok_iff (Value.distinct_table.mp hv) hdefault
  | array items => exact (sets_setStyleField _).eq_ok_iff (unrepeated_zip items) hdefault
  | datetime => simp [Value.asStyle, IsStyle, TextStyle.plain, eq_comm]
  | _ => simp [Value.asStyle, IsStyle]

end DebugConsole.Toml
