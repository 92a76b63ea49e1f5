/-!
# JSON values

Whole numbers that fit in 64 bits are kept exactly; all other numbers are doubles. The fields of an
object stand in ascending order of their names.
-/

namespace DebugConsole.Json

/-- A number. -/
inductive Number where
  | whole (n : Int)
  | float (x : Float)

/-- A value. -/
inductive Value where
  | null
  | boolean (b : Bool)
  | number  (n : Number)
  | string  (s : String)
  | array   (items : List Value)
  | object  (fields : List (String × Value))

instance : Inhabited Value := ⟨.null⟩

end DebugConsole.Json
