import DebugConsole.Toml.Value

/-!
# Tables under construction

A document and an inline table bring up their keys one at a time, and may come back to a table that
an earlier key or header brought up. A node remembers how it came up, since that decides what may
still be added to it.
-/

namespace DebugConsole.Toml

/-- What a key of a table under construction holds. -/
inductive Node where
  /-- A finished value. -/
  | value  (v : Value)
  /-- A table; `implicit` until its own header is met, `dotted` if it came up inside a key. -/
  | table  (implicit dotted : Bool) (entries : List (String × Node))
  /-- The tables of a list of tables. -/
  | tables (items : List (List (String × Node)))

/-- The entries of a table under construction. -/
abbrev Entries := List (String × Node)

/-! ### Finishing -/

mutual

def Node.finish : Node → Value
  | .value v           => v
  | .table _ _ entries => .table (finishEntries entries)
  | .tables items      => .array (finishTables items)

def finishEntries : List (String × Node) → Table
  | []           => []
  | (k, n) :: es => (k, n.finish) :: finishEntries es

def finishTables : List (List (String × Node)) → List Value
  | []      => []
  | t :: ts => .table (finishEntries t) :: finishTables ts

end

/-! ### Changing one entry -/

/-- Change the node of a key, which is missing at first; a new key goes to the end. -/
def changeAt (k : String) (f : Option Node → Option Node) : Entries → Option Entries
  | []      => (f none).map fun n => [(k, n)]
  | e :: es =>
      if e.1 = k then (f (some e.2)).map fun n => (k, n) :: es
      else (changeAt k f es).map (e :: ·)

/-- Change the last item of a list. -/
def changeLast {α : Type} (f : α → Option α) : List α → Option (List α)
  | []          => none
  | [a]         => (f a).map ([·])
  | a :: b :: l => (changeLast f (b :: l)).map (a :: ·)

/-! ### Keys with values -/

/-- Add a key with its value, after descending along the other parts of the key. A table is only
extended in this way if such a key brought it up. -/
def addPair (k : String) (v : Value) : List String → Entries → Option Entries
  | [], entries      => changeAt k (fun n? => if n?.isNone then some (.value v) else none) entries
  | p :: ps, entries =>
      changeAt p (fun
        | none                           => (addPair k v ps []).map (.table true true)
        | some (.value _)                => none
        | some (.table implicit dotted es) =>
            if implicit ∧ (ps ≠ [] ∨ dotted) then
              (addPair k v ps es).map (.table implicit dotted)
            else none
        | some (.tables items)           =>
            if ps = [] then none else (changeLast (addPair k v ps) items).map .tables) entries

/-! ### Headers -/

/-- Change the table at the end of a path of a header, bringing up tables on the way. -/
def changeTable (f : Entries → Option Entries) : List String → Entries → Option Entries
  | [], entries      => f entries
  | p :: ps, entries =>
      changeAt p (fun
        | none                             => (changeTable f ps []).map (.table true false)
        | some (.value _)                  => none
        | some (.table implicit dotted es) =>
            (changeTable f ps es).map (.table implicit dotted)
        | some (.tables items)             => (changeLast (changeTable f ps) items).map .tables)
        entries

/-- What a header opens. -/
inductive Header where
  /-- The table that everything else lies in. -/
  | root
  /-- A table, by the path to it and its name in there. -/
  | table  (path : List String) (name : String)
  /-- A new item of a list of tables, by the path to the list and its name in there. -/
  | item   (path : List String) (name : String)

/-- The entries that a table has when its header is met: those of tables inside it that came up
before. A table that came up in any other way cannot be opened. -/
def openable (entries : Entries) (name : String) : Option Entries :=
  match entries.lookup name with
  | none                        => some []
  | some (.table true false es) => some es
  | some _                      => none

/-- Follow a path of a header to a table; a table that is missing is empty. -/
def tableAt : List String → Entries → Option Entries
  | [], entries      => some entries
  | p :: ps, entries =>
      match entries.lookup p with
      | none                 => some []
      | some (.value _)      => none
      | some (.table _ _ es) => tableAt ps es
      | some (.tables items) => items.getLast?.bind (tableAt ps)

/-- A document of which a part was read: the tables that are finished and the one that is not. -/
structure Draft where
  finished : Entries := []
  header   : Header := .root
  current  : Entries := []

namespace Draft

/-- Put the current table where its header says. -/
def close (d : Draft) : Option Entries :=
  match d.header with
  | .root            => some d.current
  | .table path name =>
      changeTable (changeAt name fun _ => some (.table false false d.current)) path d.finished
  | .item path name  =>
      changeTable (changeAt name fun
        | none                 => some (.tables [d.current])
        | some (.tables items) => some (.tables (items ++ [d.current]))
        | some _               => none) path d.finished

/-- Meet a header of a table. The table moves to the end of its parent if it came up before. -/
def openTable (d : Draft) (path : List String) (name : String) : Option Draft := do
  let finished ← d.close
  let parent   ← tableAt path finished
  let current  ← openable parent name
  let finished ← changeTable (fun es => some (es.filter (·.1 != name))) path finished
  return { finished, header := .table path name, current }

/-- Meet a header of an item of a list of tables. -/
def openItem (d : Draft) (path : List String) (name : String) : Option Draft := do
  let finished ← d.close
  return { finished, header := .item path name, current := [] }

/-- Meet a key with its value. -/
def add (d : Draft) (path : List String) (name : String) (v : Value) : Option Draft :=
  (addPair name v path d.current).map fun current => { d with current }

/-- The table of a document that was read. -/
def finish (d : Draft) : Option Table := d.close.map finishEntries

end Draft

end DebugConsole.Toml
