/-!
# TOML tables

A table grows in three ways: by a header of its own, by dotted keys, and by standing between braces.
Which way it came about decides what may still be added to it. A table that a header has defined is
closed to dotted keys from elsewhere, one that dotted keys have made is closed to a header of its
own, one between braces is closed to everything. A table that was only passed through on the way to
a longer header is open until its own header comes.
-/

namespace PagedStorage.Toml

/-- How a table came about. -/
inductive Origin where
  /-- By its own header. -/
  | defined
  /-- By the header of a table below it. -/
  | implied
  /-- By dotted keys. -/
  | dotted
  /-- Between braces. -/
  | inline
deriving DecidableEq

/-- A value as far as a configuration looks at it. -/
inductive Node where
  | text (text : String)
  | integer (n : Int)
  /-- A boolean, float, date or time. -/
  | scalar
  | array
  | table (origin : Origin) (entries : List (String × Node))
  /-- The tables under one header in double brackets, the last one first. -/
  | rows (rows : List (List (String × Node)))

abbrev Entries : Type := List (String × Node)

namespace Entries

/-- Replaces what stands under a key, or adds it. -/
def alter (key : String) (change : Option Node → Option Node) : Entries → Option Entries
  | [] => do return [(key, ← change none)]
  | (k, node) :: rest =>
    if k = key then do return (k, ← change (some node)) :: rest
    else do return (k, node) :: (← alter key change rest)

/-- Changes the table at the end of a path. Missing tables are made on the way. Of the tables under
one header the last is entered. Dotted keys do not enter a table that a header has defined. -/
def descend (dotted : Bool) (change : Origin → Entries → Option Entries) :
    List String → Origin → Entries → Option Entries
  | [], origin, entries => change origin entries
  | key :: path, _, entries =>
    alter key
      (fun
        | none =>
          let origin := if dotted then Origin.dotted else .implied
          (descend dotted change path origin []).map (.table origin)
        | some (.table origin inner) =>
          if origin = .inline ∨ (dotted ∧ origin = .defined) then none
          else (descend dotted change path origin inner).map (.table origin)
        | some (.rows (row :: rows)) =>
          (descend dotted change path .defined row).map fun row => .rows (row :: rows)
        | some _ => none)
      entries

/-- Adds a value under a dotted key. A table takes values either from dotted keys or from plain
ones, and a key only once. -/
def insert (path : List String) (key : String) (node : Node) (origin : Origin)
    (entries : Entries) : Option Entries :=
  descend true
    (fun origin entries =>
      if origin = .dotted ↔ path = [] then none
      else alter key (fun | none => some node | some _ => none) entries)
    path origin entries

end Entries

/-- A key with the tables in front of it, and its value. -/
structure Entry where
  path : List String
  key : String
  node : Node

/-- Adds entries one by one. -/
def Entries.insertAll (origin : Origin) (entries : Entries) (new : List Entry) : Option Entries :=
  new.foldlM (fun entries e => entries.insert e.path e.key e.node origin) entries

/-- A header with the entries below it. -/
structure Section where
  /-- The header stands in double brackets. -/
  isRow : Bool
  path : List String
  key : String
  entries : List Entry

/-- Adds the table of a section. A header defines its table once; a header in double brackets adds
another table to those it has. -/
def Entries.insertSection (root : Entries) (s : Section) : Option Entries :=
  let place : Option Node → Option Node :=
    if s.isRow then fun
      | none => do return .rows [← Entries.insertAll .defined [] s.entries]
      | some (.rows rows) => do return .rows ((← Entries.insertAll .defined [] s.entries) :: rows)
      | some _ => none
    else fun
      | none => do return .table .defined (← Entries.insertAll .defined [] s.entries)
      | some (.table .implied inner) =>
        do return .table .defined (← Entries.insertAll .defined inner s.entries)
      | some _ => none
  descend false (fun _ entries => alter s.key place entries) s.path .defined root

end PagedStorage.Toml
