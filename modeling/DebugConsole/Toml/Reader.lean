import DebugConsole.Toml.Error
import DebugConsole.Toml.Node
import DebugConsole.Toml.Scalar

/-!
# Reading TOML documents

A document is a sequence of lines with keys and values and of headers of tables. Lists may span
several lines; inline tables may not.
-/

namespace DebugConsole.Toml

open Text (Rest Scanned dropRun)

/-! ### Lists and inline tables -/

/-- Read the items of a list after its opening bracket and the items read so far, reversed. A comma
may follow the last item. -/
def itemsFrom (item : (s : List Char) → Reading Value s) (read : List Value) (s : List Char) :
    Reading (List Value) s :=
  let t := skipLines s
  match mark ']' t.text with
  | some m => some (.after t (m.map fun _ => read.reverse))
  | none   =>
      match item t.text with
      | none   => none
      | some v =>
          let v := v.upTo (skipLines v.rest)
          match mark ']' v.rest, mark ',' v.rest with
          | some m, _    =>
              some (.after t (v.andThen (m.map fun _ => (v.value :: read).reverse)))
          | none, some m =>
              (itemsFrom item (v.value :: read) m.rest).map fun items =>
                .after t (v.andThen (m.andThen items))
          | none, none   => none
termination_by s.length
decreasing_by exact Nat.lt_of_lt_of_le (Nat.lt_trans m.shorter v.shorter) t.le

/-- Split a key into the path to a table and the last part. -/
def splitKey : List String → Option (List String × String)
  | []      => none
  | k :: ks => some ((k :: ks).dropLast, (k :: ks).getLast (by simp))

/-- Read a key, an equals sign and a value. -/
def pair (item : (s : List Char) → Reading Value s) (s : List Char) :
    Reading (List String × Value) s :=
  match key s with
  | none    => none
  | some ks =>
      match mark '=' ks.rest with
      | none   => none
      | some m =>
          (item (skip m.rest).text).map fun v =>
            ks.andThen (m.andThen (.after (skip m.rest) (v.map (ks.value, ·))))

/-- Read the pairs of an inline table that is not empty and the brace that closes it. -/
def pairsFrom (item : (s : List Char) → Reading Value s) (read : Entries) (s : List Char) :
    Reading Entries s :=
  match pair item s with
  | none   => none
  | some p =>
      match splitKey p.value.1 with
      | none              => none
      | some (path, name) =>
          match addPair name p.value.2 path read with
          | none         => none
          | some entries =>
              let p := p.upTo (skip p.rest)
              match mark '}' p.rest, mark ',' p.rest with
              | some m, _    => some (p.andThen (m.map fun _ => entries))
              | none, some m =>
                  (pairsFrom item entries m.rest).map fun more => p.andThen (m.andThen more)
              | none, none   => none
termination_by s.length
decreasing_by exact Nat.lt_trans m.shorter p.shorter

/-- Read an inline table after its opening brace. -/
def inlineTable (item : (s : List Char) → Reading Value s) (s : List Char) : Reading Value s :=
  match mark '}' (skip s).text with
  | some m => some (.after (skip s) (m.map fun _ => .table []))
  | none   => (pairsFrom item [] s).map (·.map fun entries => .table (finishEntries entries))

/-! ### Values -/

def word : List Char → (s : List Char) → Option (Rest s)
  | [], s           => some (.whole s)
  | _ :: _, []      => none
  | w :: ws, c :: s =>
      if c = w then (word ws s).map .cons else none

/-- Read the characters of a word after its first one. -/
def wordAfter (v : Value) (ws : List Char) (c : Char) (s : List Char) : Reading Value (c :: s) :=
  (word ws s).map (.ofRest v)

/-- Read a value; without a reader for the values inside it, lists and tables are too deep. -/
def valueWith (item? : Option ((s : List Char) → Reading Value s)) : (s : List Char) →
    Reading Value s
  | []     => none
  | c :: r =>
      if c = '"' ∨ c = '\'' then (string (c :: r)).map (·.map .string)
      else if c = '[' then
        item?.bind fun item => (itemsFrom item [] r).map (·.map .array |>.cons)
      else if c = '{' then item?.bind fun item => (inlineTable item r).map .cons
      else if c = 't' then wordAfter (.boolean true) ['r', 'u', 'e'] c r
      else if c = 'f' then wordAfter (.boolean false) ['a', 'l', 's', 'e'] c r
      else numeric (c :: r)

/-- Read a value that may hold values down to a depth. -/
def value : Nat → (s : List Char) → Reading Value s
  | 0         => valueWith none
  | depth + 1 => valueWith (some (value depth))

def anyValue (s : List Char) : Reading Value s := value (nestingLimit - 1) s

/-! ### Lines -/

/-- Read the header of a table or of an item after its opening bracket. -/
def header (d : Draft) (s : List Char) : Reading Draft s :=
  let (isItem, t) : Bool × Rest s := match s with
    | '[' :: _ => (true, .tail)
    | s        => (false, .whole s)
  match key t.text with
  | none    => none
  | some ks =>
      match splitKey ks.value, word (if isItem then [']', ']'] else [']']) ks.rest with
      | some (path, name), some u =>
          match if isItem then d.openItem path name else d.openTable path name, lineRest u.text with
          | some d, some r => some (.after t (ks.map (fun _ => d) |>.upTo (u.trans r)))
          | _, _           => none
      | _, _                      => none

/-- Read a line with a key and a value. -/
def pairLine (d : Draft) (s : List Char) : Reading Draft s :=
  match pair anyValue s with
  | none   => none
  | some p =>
      match splitKey p.value.1, lineRest p.rest with
      | some (path, name), some r =>
          (d.add path name p.value.2).map fun d => p.map (fun _ => d) |>.upTo r
      | _, _                      => none

/-- Read the lines of a document. -/
def linesFrom (d : Draft) (s : List Char) : Option Draft :=
  match skip s with
  | ⟨[], _⟩     => some d
  | ⟨c :: r, _h⟩ =>
      if c = '#' then
        match lineEnd (dropRun isText r).text with
        | none   => none
        | some u => linesFrom d u.text
      else if c = '\n' ∨ c = '\r' then
        match newline (c :: r) with
        | none   => none
        | some u => linesFrom d u.rest
      else
        let line? :=
          if c = '[' then (header d r).map .cons else pairLine d (c :: r)
        match line? with
        | none   => none
        | some u => linesFrom u.value u.rest
termination_by s.length
decreasing_by
  · have := u.le
    have := (dropRun isText r).le
    simp only [List.length_cons] at _h; omega
  · exact Nat.lt_of_lt_of_le u.shorter _h
  · exact Nat.lt_of_lt_of_le u.shorter _h

/-- The text without a byte order mark in front. -/
def dropMark : List Char → List Char
  | '\ufeff' :: s => s
  | s             => s

def read (text : String) : Except Error Table :=
  match (linesFrom {} (dropMark text.toList)).bind Draft.finish with
  | some t => .ok t
  | none   => .error .malformed

end DebugConsole.Toml
