import FontPreferences.Toml.Value

/-
The tables of a TOML document, built from its statements.

A document is a list of statements: table headers, headers of table arrays, and assignments below
them.  `Document.build?` makes the top-level table of them, and refuses a document that defines a
key twice, or a table in two ways.

* A table has been made by its own header, as a parent in the path of a header, or by a dotted key;
* a header may take over a table made as a parent, and nothing else;
* a dotted key may go through a table made by dotted keys, but through no table with a header;
* a path through a table array means its last table.
-/
namespace FontPreferences
namespace Toml

/-- How a table came about. -/
inductive Making where
  | byHeader
  | asParent
  | byDottedKey
deriving DecidableEq, Repr

/-- What a key of a table under construction stands for. -/
inductive Node where
  | value (v : Value)
  | table (making : Making) (entries : List (String × Node))
  /-- A table array, the last table first. -/
  | tables (rest : List (List (String × Node)))

/-- The entries of a table under construction. -/
abbrev Entries := List (String × Node)

namespace Entries

/-- What a key stands for. -/
def find? (entries : Entries) (key : String) : Option Node :=
  entries.lookup key

/-- Lets a key stand for something else, in its place or at the end. -/
def put (entries : Entries) (key : String) (node : Node) : Entries :=
  match entries with
  | [] => [(key, node)]
  | (k, n) :: rest => if k = key then (key, node) :: rest else (k, n) :: put rest key node

/-- Changes the table at the end of a path.  Tables missing on the path are made; the change sees
how its table came about. -/
def update? (dotted : Bool) (change : Making → Entries → Option Entries) :
    List String → Making → Entries → Option Entries
  | [], making, entries => change making entries
  | key :: path, _, entries =>
    let enter (making : Making) (inner : Entries) := update? dotted change path making inner
    match find? entries key with
    | none =>
      let making := if dotted then Making.byDottedKey else .asParent
      (enter making []).map fun inner => put entries key (.table making inner)
    | some (.table making inner) =>
      if dotted && making = .byHeader then none
      else (enter making inner).map fun inner => put entries key (.table making inner)
    | some (.tables (last :: before)) =>
      (enter .byHeader last).map fun last => put entries key (.tables (last :: before))
    | some _ => none

/-- Assigns a value to a new key of a table.  The end of a dotted path must be a table made by
dotted keys, and the end of no path must not. -/
def assignLast? (key : String) (v : Value) (viaPath : Bool) (making : Making) (entries : Entries) :
    Option Entries :=
  if (making == .byDottedKey) != viaPath then none
  else
    match find? entries key with
    | none => some (put entries key (.value v))
    | some _ => none

/-- Assigns a value to a dotted key of a table. -/
def assign? (path : List String) (key : String) (v : Value) (making : Making) (entries : Entries) :
    Option Entries :=
  update? true (assignLast? key v (!path.isEmpty)) path making entries

/-- Opens the table of a header in its parent. -/
def openTable? (key : String) (_ : Making) (entries : Entries) : Option Entries :=
  match find? entries key with
  | none => some (put entries key (.table .byHeader []))
  | some (.table .asParent inner) => some (put entries key (.table .byHeader inner))
  | some _ => none

/-- Adds a table to the table array of a header in its parent. -/
def openArray? (key : String) (_ : Making) (entries : Entries) : Option Entries :=
  match find? entries key with
  | none => some (put entries key (.tables [[]]))
  | some (.tables before) => some (put entries key (.tables ([] :: before)))
  | some _ => none

end Entries

mutual

/-- A table under construction as a value. -/
def Node.toValue : Node → Value
  | .value v => v
  | .table _ entries => .table (Node.entryValues entries)
  | .tables rest => .array (Node.tableValues rest).reverse

/-- The entries of a table under construction as values. -/
def Node.entryValues : List (String × Node) → List (String × Value)
  | [] => []
  | (key, node) :: rest => (key, node.toValue) :: Node.entryValues rest

/-- The tables of a table array under construction as values. -/
def Node.tableValues : List (List (String × Node)) → List Value
  | [] => []
  | entries :: rest => .table (Node.entryValues entries) :: Node.tableValues rest

end

/-- The entries of an inline table, from the assignments between its braces. -/
def inlineTable? (pairs : List ((List String × String) × Value)) : Option Value :=
  (pairs.foldlM (fun entries p => Entries.assign? p.1.1 p.1.2 p.2 .byHeader entries) []).map
    fun entries => .table (Node.entryValues entries)

/-- A statement of a document.  A path is split into its parents and its last key. -/
inductive Statement where
  | header (parents : List String) (key : String)
  | arrayHeader (parents : List String) (key : String)
  | assignment (parents : List String) (key : String) (v : Value)

namespace Document

/-- A document under construction: its entries and the path of the current table. -/
structure State where
  entries : Entries
  current : List String

/-- Takes a statement. -/
def step? (s : State) : Statement → Option State
  | .header parents key =>
    (Entries.update? false (Entries.openTable? key) parents .byHeader s.entries).map fun entries =>
      ⟨entries, parents ++ [key]⟩
  | .arrayHeader parents key =>
    (Entries.update? false (Entries.openArray? key) parents .byHeader s.entries).map fun entries =>
      ⟨entries, parents ++ [key]⟩
  | .assignment parents key v =>
    (Entries.update? false (Entries.assign? parents key v) s.current .byHeader s.entries).map
      fun entries => { s with entries := entries }

/-- The top-level table of a document. -/
def build? (statements : List Statement) : Option (List (String × Value)) :=
  (statements.foldlM step? ⟨[], []⟩).map fun s => Node.entryValues s.entries

end Document
end Toml
end FontPreferences
