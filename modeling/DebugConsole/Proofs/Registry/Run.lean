import DebugConsole.Proofs.Registry.Admission
import DebugConsole.Proofs.Text.ByteOrder
import Mathlib.Data.List.Induction

/-!
# Runs of registry operations

A registry is a table of slots, one for every prefix, and an operation acts on each slot by itself.
So the handler of a prefix is told by the part of a run that bears on that prefix: by the
registration that filled the slot, and by the calls since.
-/

namespace DebugConsole.Registry

variable {η : Type}

/-! ### Operations as data -/

/-- What may be done to a registry. A call may change the state of the handler that it finds. -/
inductive Op (η : Type) where
  | register   (p : String) (handler : η)
  | unregister (p : String)
  | clear
  | call       (p : String) (facade : Facade) (args : List String) (log : Sink)

/-- Whether there is no command of a prefix after an operation, whatever was there before. -/
def Op.frees (p : String) : Op η → Bool
  | .unregister q => q = p
  | .clear        => true
  | _             => false

variable [Handler η]

/-- The registry after an operation; a registration that is refused changes nothing. -/
def apply (r : Registry η) : Op η → Registry η
  | .register p handler =>
      match r.register p handler with
      | .ok r    => r
      | .error _ => r
  | .unregister p           => (r.unregister p).1
  | .clear                  => r.clear
  | .call p facade args log =>
      match r.dispatch facade p args log with
      | some (r, _) => r
      | none        => r

def applyAll (r : Registry η) (ops : List (Op η)) : Registry η := ops.foldl apply r

lemma applyAll_append (r : Registry η) (ops more : List (Op η)) :
    r.applyAll (ops ++ more) = (r.applyAll ops).applyAll more := by
  simp [applyAll]

/-! ### Slots -/

/-- The slot of a prefix after an operation. -/
def Op.fill (sentinel : Option Char) (p : String) (slot : Option η) : Op η → Option η
  | .register q handler =>
      if q = p ∧ refusal? sentinel p = none then slot.or (some handler) else slot
  | .unregister q           => if q = p then none else slot
  | .clear                  => none
  | .call q facade args log =>
      if q = p then slot.map fun handler => (Handler.invoke handler facade args log).handler
      else slot

lemma apply_register_of_admitted {r : Registry η} {q : String} (h : refusal? r.sentinel q = none)
    (handler : η) :
    r.apply (.register q handler) = if r.contains q then r else r.put q handler h := by
  rw [apply, register_of_admitted h]
  by_cases hq : r.contains q <;> simp only [hq, if_true, if_false, Bool.false_eq_true]

lemma lookup_apply_register (r : Registry η) (q : String) (handler : η) (p : String) :
    (r.apply (.register q handler)).lookup p =
      if q = p ∧ refusal? r.sentinel p = none then (r.lookup p).or (some handler)
      else r.lookup p := by
  cases h : refusal? r.sentinel q with
  | some e =>
    have hp : ¬ (q = p ∧ refusal? r.sentinel p = none) := by
      rintro ⟨rfl, hp⟩
      simp [h] at hp
    rw [apply, register_of_refusal h, if_neg hp]
  | none =>
    rw [apply_register_of_admitted h]
    by_cases hq : q = p
    · subst hq
      cases hslot : r.lookup q <;> simp [contains, hslot, h, lookup_put]
    · cases hslot : r.contains q <;> simp [hq, Ne.symm hq, lookup_put]

/-- An operation acts on each slot by itself. -/
theorem lookup_apply (r : Registry η) (op : Op η) (p : String) :
    (r.apply op).lookup p = op.fill r.sentinel p (r.lookup p) := by
  cases op with
  | register q handler => exact lookup_apply_register r q handler p
  | unregister q => simp only [apply, lookup_unregister, Op.fill, eq_comm (a := q)]
  | clear => rfl
  | call q facade args log =>
    cases h : r.lookup q with
    | none =>
      rw [apply, dispatch_of_lookup_eq_none h, Op.fill]
      by_cases hq : q = p
      · simp [← hq, h]
      · simp [hq]
    | some handler =>
      rw [apply, dispatch_of_lookup_eq_some h, Op.fill]
      by_cases hq : q = p
      · simp [← hq, h, lookup_put]
      · simp [hq, Ne.symm hq, lookup_put]

lemma sentinel_apply (r : Registry η) (op : Op η) : (r.apply op).sentinel = r.sentinel := by
  cases op with
  | register p handler =>
    rw [apply]
    split
    case h_1 hregister => exact sentinel_of_register hregister
    case h_2 => rfl
  | unregister p => rfl
  | clear => rfl
  | call p facade args log =>
    cases h : r.lookup p with
    | none => rw [apply, dispatch_of_lookup_eq_none h]
    | some handler =>
      rw [apply, dispatch_of_lookup_eq_some h]
      rfl

lemma sentinel_applyAll (r : Registry η) (ops : List (Op η)) :
    (r.applyAll ops).sentinel = r.sentinel := by
  induction ops generalizing r with
  | nil => rfl
  | cons op ops ih => exact (ih (r.apply op)).trans (sentinel_apply r op)

/-- What a run leaves in a slot. -/
theorem lookup_applyAll (r : Registry η) (ops : List (Op η)) (p : String) :
    (r.applyAll ops).lookup p
      = ops.foldl (Op.fill r.sentinel p) (r.lookup p) := by
  induction ops generalizing r with
  | nil => rfl
  | cons op ops ih =>
    rw [List.foldl_cons, ← lookup_apply, ← sentinel_apply r op]
    exact ih (r.apply op)

/-! ### Where a handler comes from -/

/-- A handler after an operation that leaves it in its slot. -/
def Op.run (p : String) (handler : η) : Op η → η
  | .call q facade args log =>
      if q = p then (Handler.invoke handler facade args log).handler else handler
  | _ => handler

/-- A registration that finds the slot of its prefix taken leaves it as it is. -/
lemma Op.fill_some {op : Op η} {p : String} (h : op.frees p = false) (sentinel : Option Char)
    (handler : η) : op.fill sentinel p (some handler) = some (op.run p handler) := by
  cases op with
  | register q other => simp [fill, run]
  | unregister q =>
    have hq : q ≠ p := by simpa [frees] using h
    simp [fill, run, hq]
  | clear => simp [frees] at h
  | call q facade args log => by_cases hq : q = p <;> simp [fill, run, hq]

lemma Op.fill_eq_none {op : Op η} {p : String} (h : op.frees p = true) (sentinel : Option Char)
    (slot : Option η) : op.fill sentinel p slot = none := by
  cases op with
  | unregister q =>
    obtain rfl : q = p := by simpa [frees] using h
    simp [fill]
  | clear => rfl
  | _ => simp [frees] at h

lemma Op.eq_register_of_fill_none {sentinel : Option Char} {p : String} {op : Op η} {handler : η}
    (h : op.fill sentinel p none = some handler) :
    op = .register p handler ∧ refusal? sentinel p = none := by
  cases op with
  | register q other =>
    by_cases hq : q = p ∧ refusal? sentinel p = none
    · obtain ⟨rfl, admitted⟩ := hq
      simpa [fill, admitted] using h
    · simp [fill, hq] at h
  | _ => simp [fill] at h

lemma foldl_fill_some {p : String} {ops : List (Op η)} (h : ∀ op ∈ ops, op.frees p = false)
    (sentinel : Option Char) (handler : η) :
    ops.foldl (Op.fill sentinel p) (some handler) = some (ops.foldl (Op.run p) handler) := by
  induction ops generalizing handler with
  | nil => rfl
  | cons op ops ih =>
    obtain ⟨hop, hops⟩ := List.forall_mem_cons.mp h
    rw [List.foldl_cons, Op.fill_some hop, ih hops, List.foldl_cons]

/-- The handler of a prefix after a run, told by the registration that put it there. The slot was
free then, nothing has freed it since, and the calls since have left the handler in its state. -/
inductive Origin (sentinel : Option Char) (p : String) : List (Op η) → η → Prop where
  | intro (before after : List (Op η)) (first : η) (admitted : refusal? sentinel p = none)
      (free : p ∉ ((empty sentinel).applyAll before).prefixes)
      (kept : ∀ op ∈ after, op.frees p = false) :
      Origin sentinel p (before ++ .register p first :: after) (after.foldl (Op.run p) first)

lemma Origin.lookup {sentinel : Option Char} {p : String} {ops : List (Op η)} {handler : η}
    (h : Origin sentinel p ops handler) :
    ((empty sentinel).applyAll ops).lookup p = some handler := by
  obtain ⟨before, after, first, admitted, free, kept⟩ := h
  have hfree := lookup_eq_none_iff.mpr free
  rw [lookup_applyAll] at hfree ⊢
  rw [List.foldl_append, List.foldl_cons, hfree]
  have hfirst : (Op.register p first).fill sentinel p none = some first := by
    simp [Op.fill, admitted]
  exact hfirst ▸ foldl_fill_some kept sentinel first

lemma Origin.append_singleton {sentinel : Option Char} {p : String} {ops : List (Op η)}
    {handler : η} {op : Op η} (h : Origin sentinel p ops handler) (hop : op.frees p = false) :
    Origin sentinel p (ops ++ [op]) (op.run p handler) := by
  obtain ⟨before, after, first, admitted, free, kept⟩ := h
  have kept' : ∀ op' ∈ after ++ [op], op'.frees p = false := by
    simpa [or_imp, forall_and, hop] using kept
  simpa using Origin.intro before (after ++ [op]) first admitted free kept'

/-- A handler that an operation does not bring has been there before it. -/
lemma origin_of_lookup {sentinel : Option Char} {p : String} {ops : List (Op η)} {handler : η}
    (h : ((empty sentinel).applyAll ops).lookup p = some handler) :
    Origin sentinel p ops handler := by
  induction ops using List.reverseRecOn generalizing handler with
  | nil => cases h
  | append_singleton ops op ih =>
    set r := (empty sentinel : Registry η).applyAll ops
    have hfill : op.fill sentinel p (r.lookup p) = some handler := by
      rwa [applyAll_append, applyAll, List.foldl_cons, List.foldl_nil, lookup_apply,
        sentinel_applyAll] at h
    cases hslot : r.lookup p with
    | none =>
      rw [hslot] at hfill
      obtain ⟨rfl, admitted⟩ := Op.eq_register_of_fill_none hfill
      exact .intro ops [] handler admitted (lookup_eq_none_iff.mp hslot) (by simp)
    | some old =>
      rw [hslot] at hfill
      cases hfrees : op.frees p with
      | true => rw [Op.fill_eq_none hfrees] at hfill; cases hfill
      | false =>
        rw [Op.fill_some hfrees] at hfill
        exact Option.some.inj hfill ▸ (ih hslot).append_singleton hfrees

lemma lookup_iff_origin {sentinel : Option Char} {p : String} {ops : List (Op η)} {handler : η} :
    ((empty sentinel).applyAll ops).lookup p = some handler ↔ Origin sentinel p ops handler :=
  ⟨origin_of_lookup, Origin.lookup⟩

/-- A prefix is registered from its registration on until an operation frees it. -/
lemma mem_prefixes_of_kept {sentinel : Option Char} {p : String}
    (admitted : refusal? sentinel p = none) (before : List (Op η)) (first : η) {after : List (Op η)}
    (kept : ∀ op ∈ after, op.frees p = false) :
    p ∈ ((empty sentinel).applyAll (before ++ .register p first :: after)).prefixes := by
  rw [← contains_iff, contains, lookup_applyAll, List.foldl_append, List.foldl_cons]
  generalize before.foldl _ _ = slot
  have hslot : (Op.register p first).fill sentinel p slot = some (slot.getD first) := by
    cases slot <;> simp [Op.fill, admitted]
  rw [sentinel_empty, hslot, foldl_fill_some kept]
  rfl

/-! ### The contract -/

/-- What a registry is after a run of operations on an empty one. -/
structure RegistryContract (sentinel : Option Char) (ops : List (Op η)) (r : Registry η) :
    Prop where
  /-- Prefixes stand in the order of their bytes. -/
  ascending : r.prefixes.Pairwise fun p q => Text.bytes p < Text.bytes q
  /-- What is registered was admitted and registered, and nothing has freed it since. -/
  listed    : ∀ p, p ∈ r.prefixes ↔ refusal? sentinel p = none ∧ ∃ before first after,
    ops = before ++ .register p first :: after ∧ ∀ op ∈ after, op.frees p = false
  length    : r.length = r.prefixes.length
  isEmpty   : r.isEmpty = true ↔ r.prefixes = []
  contains  : ∀ p, r.contains p = true ↔ p ∈ r.prefixes
  lookup    : ∀ p, (∃ handler, r.lookup p = some handler) ↔ p ∈ r.prefixes
  enforced  : r.sentinel = sentinel
  form      : ∀ p ∈ r.prefixes, Admissible sentinel p
  admission : ∀ p handler, r.AdmissionRule p handler
  /-- A handler is the one of the registration that filled its slot, and has the state that the
  calls since have left it in. -/
  origin    : ∀ p handler, r.lookup p = some handler ↔ Origin sentinel p ops handler
  /-- What is refused changes nothing, neither the handler that is there nor its state. -/
  refused   : ∀ p handler e, r.register p handler = .error e →
    r.apply (.register p handler) = r

theorem registry_contract (sentinel : Option Char) (ops : List (Op η)) :
    RegistryContract sentinel ops ((empty sentinel).applyAll ops) := by
  set r := (empty sentinel : Registry η).applyAll ops
  have hsentinel : r.sentinel = sentinel := sentinel_applyAll _ ops
  constructor
  case ascending => exact (List.pairwise_map.mpr r.ascending).imp Text.bytes_lt_bytes
  case listed =>
    intro p
    constructor
    · intro hp
      obtain ⟨handler, hlookup⟩ := Option.isSome_iff_exists.mp (contains_iff.mpr hp)
      obtain ⟨before, after, first, admitted, -, kept⟩ := origin_of_lookup hlookup
      exact ⟨admitted, before, first, after, rfl, kept⟩
    · rintro ⟨admitted, before, first, after, rfl, kept⟩
      exact mem_prefixes_of_kept admitted before first kept
  case length => exact (List.length_map ..).symm
  case isEmpty => simp [Registry.isEmpty, prefixes, Keyed.keys]
  case contains => exact fun p => contains_iff
  case lookup => exact fun p => Option.isSome_iff_exists.symm.trans contains_iff
  case enforced => exact hsentinel
  case form => exact fun p hp => hsentinel ▸ r.admissible hp
  case admission => exact r.admissionRule
  case origin => exact fun p handler => lookup_iff_origin
  case refused =>
    intro p handler e he
    rw [apply, he]

end DebugConsole.Registry
