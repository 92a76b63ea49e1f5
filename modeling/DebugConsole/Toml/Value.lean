/-!
# TOML values

The values a TOML document may hold. Of a date or a time only its presence is kept. The keys of a
table stand in the order in which the document brings them up.
-/

namespace DebugConsole.Toml

/-- A value. -/
inductive Value where
  | string  (s : String)
  | integer (n : Int)
  | float   (x : Float)
  | boolean (b : Bool)
  | datetime
  | array   (items : List Value)
  | table   (entries : List (String × Value))

/-- A table: keys with values. -/
abbrev Table := List (String × Value)

/-! ### Equality -/

mutual

/-- Decidable equality of values, given by hand since it is not derived for nested types. -/
def Value.decEq : (v w : Value) → Decidable (v = w)
  | .string s  => fun
      | .string t => decidable_of_iff (s = t) (by simp)
      | .integer _ | .float _ | .boolean _ | .datetime | .array _ | .table _ => isFalse nofun
  | .integer m => fun
      | .integer n => decidable_of_iff (m = n) (by simp)
      | .string _ | .float _ | .boolean _ | .datetime | .array _ | .table _ => isFalse nofun
  | .float x   => fun
      | .float y => decidable_of_iff (x = y) (by simp)
      | .string _ | .integer _ | .boolean _ | .datetime | .array _ | .table _ => isFalse nofun
  | .boolean a => fun
      | .boolean b => decidable_of_iff (a = b) (by simp)
      | .string _ | .integer _ | .float _ | .datetime | .array _ | .table _ => isFalse nofun
  | .datetime  => fun
      | .datetime => isTrue rfl
      | .string _ | .integer _ | .float _ | .boolean _ | .array _ | .table _ => isFalse nofun
  | .array vs  => fun
      | .array ws =>
          have := Value.decEqItems vs ws
          decidable_of_iff (vs = ws) (by simp)
      | .string _ | .integer _ | .float _ | .boolean _ | .datetime | .table _ => isFalse nofun
  | .table es  => fun
      | .table fs =>
          have := Value.decEqEntries es fs
          decidable_of_iff (es = fs) (by simp)
      | .string _ | .integer _ | .float _ | .boolean _ | .datetime | .array _ => isFalse nofun

def Value.decEqItems : (vs ws : List Value) → Decidable (vs = ws)
  | [], []           => isTrue rfl
  | [], _ :: _       => isFalse nofun
  | _ :: _, []       => isFalse nofun
  | v :: vs, w :: ws =>
      have := v.decEq w
      have := Value.decEqItems vs ws
      decidable_of_iff (v = w ∧ vs = ws) (by simp)

def Value.decEqEntries : (es fs : List (String × Value)) → Decidable (es = fs)
  | [], []                     => isTrue rfl
  | [], _ :: _                 => isFalse nofun
  | _ :: _, []                 => isFalse nofun
  | (k, v) :: es, (l, w) :: fs =>
      have := v.decEq w
      have := Value.decEqEntries es fs
      decidable_of_iff ((k = l ∧ v = w) ∧ es = fs) (by simp)

end

instance : DecidableEq Value := Value.decEq

end DebugConsole.Toml
