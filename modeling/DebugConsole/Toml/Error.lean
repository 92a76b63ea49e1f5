import DebugConsole.Mismatch

/-!
# Errors of TOML texts
-/

namespace DebugConsole.Toml

/-- Why a TOML text was not read. -/
inductive Error where
  /-- It is no TOML document. -/
  | malformed
  /-- It is a document that does not hold what is asked for. -/
  | mismatch (m : Mismatch)
deriving DecidableEq, Repr

/-- The error in words, less its place in the text. The reader does not tell why a text is no
document: "malformed document" is a wording of its own, in place of a parser's explanation. -/
def Error.message : Error → String
  | .malformed  => "malformed document"
  | .mismatch m => m.message

end DebugConsole.Toml
