import HomeVoice.Json.Basic

/-!
# TOML documents

What the lines of a TOML document build up: a table that a line can open a part of, and set keys
in. A key is set only once and a table is opened only once; `Table.openTable?` and
`Table.setValue?` give none for a line that does so again.
-/

namespace HomeVoice.Toml

/-- How a table came to be. -/
inductive TableOrigin where
  /-- Only named in the header of a table inside it. -/
  | implied
  /-- Named by a header of its own. -/
  | header
  /-- Named by a key with dots. -/
  | dotted
  deriving DecidableEq

/-- A part of a document. The tables of an array are kept in reverse, the open one first. -/
inductive Node where
  | value (json : Json)
  | table (origin : TableOrigin) (entries : List (String × Node))
  | tables (last : List (String × Node)) (earlier : List (List (String × Node)))

/-- A table. -/
abbrev Table := Dict Node

mutual

/-- A part of a document as JSON. -/
def Node.toJson : Node → Json
  | .value json => json
  | .table _ entries => .obj (entriesToJson entries)
  | .tables last earlier => .arr ((tablesToJson earlier).reverse ++ [.obj (entriesToJson last)])

/-- The entries of a table as JSON. -/
def entriesToJson : List (String × Node) → List (String × Json)
  | [] => []
  | (key, node) :: rest => (key, node.toJson) :: entriesToJson rest

/-- Tables as JSON. -/
def tablesToJson : List (List (String × Node)) → List Json
  | [] => []
  | entries :: rest => .obj (entriesToJson entries) :: tablesToJson rest

end

namespace Table

/-- The table with the table of one key changed. A table that is not there yet is implied; of an
array of tables the last one is changed. -/
def descend? (key : String) (change : Table → Option Table) (t : Table) : Option Table :=
  match t.get? key with
  | none => (change []).map fun inner => t.insert key (.table .implied inner)
  | some (.table origin inner) => (change inner).map fun inner => t.insert key (.table origin inner)
  | some (.tables last earlier) => (change last).map fun last => t.insert key (.tables last earlier)
  | some (.value _) => none

/-- The table with the table at a path changed. -/
def within? (change : Table → Option Table) : (path : List String) → Table → Option Table
  | [], t => change t
  | key :: path, t => t.descend? key (within? change path)

/-- The table with a new table for a key, which may only have been implied so far. -/
def openTable? (key : String) (t : Table) : Option Table :=
  match t.get? key with
  | none => some (t.insert key (.table .header []))
  | some (.table .implied inner) => some (t.insert key (.table .header inner))
  | some _ => none

/-- The table with one more table in the array of a key. -/
def openItem? (key : String) (t : Table) : Option Table :=
  match t.get? key with
  | none => some (t.insert key (.tables [] []))
  | some (.tables last earlier) => some (t.insert key (.tables [] (last :: earlier)))
  | some _ => none

/-- The table with a value for a key with dots, of which `key` is the first part. -/
def setValue? (value : Json) (key : String) : (path : List String) → Table → Option Table
  | [], t => if t.contains key then none else some (t.insert key (.value value))
  | key' :: path, t =>
    match t.get? key with
    | none => (setValue? value key' path []).map fun inner => t.insert key (.table .dotted inner)
    | some (.table .dotted inner) =>
      (setValue? value key' path inner).map fun inner => t.insert key (.table .dotted inner)
    | some _ => none

end Table

end HomeVoice.Toml
