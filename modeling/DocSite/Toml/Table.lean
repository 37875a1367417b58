/-
  DocSite.Toml.Table

  Tables of TOML while a document is read. A table is defined once: by a header,
  by dotted keys, or both ways for its sub-tables. Tables and lists that are
  values of a key are closed.
-/
import DocSite.Data.Value

namespace DocSite.Toml

/-- How a table came to be. -/
inductive Origin where
  /-- A header names it. -/
  | header
  /-- A header names a table below it. -/
  | path
  /-- A dotted key leads through it. -/
  | dotted
  deriving Repr, DecidableEq

/-- What a key of a table holds. -/
inductive Item where
  | value (v : Value)
  | table (origin : Origin) (entries : List (String × Item))
  /-- Tables of one name, each begun by a header of its own; the last first. -/
  | tables (elements : List (List (String × Item)))

/-- The entries of a table in order. -/
abbrev Entries := List (String × Item)

/-- A table that is being filled. -/
structure Table where
  origin : Origin
  entries : Entries

/-- A name with the names of the tables that lead to it. -/
structure Key where
  path : List String
  name : String

/-- Sets what a name holds, in its place or at the end. -/
def setEntry (name : String) (item : Item) : Entries → Entries
  | [] => [(name, item)]
  | (other, old) :: rest =>
    if other = name then (other, item) :: rest else (other, old) :: setEntry name item rest

/-! ## Walking -/

/-- Changes the table that a path leads to. Missing tables on the way are
    created; of tables of one name the last one is entered. A dotted key does not
    enter a table that has a header. -/
def changeAt (isDotted : Bool) (change : Table → Option Entries) :
    List String → Table → Option Entries
  | [], table => change table
  | name :: rest, table =>
    match table.entries.lookup name with
    | none =>
      let origin := if isDotted then .dotted else .path
      (changeAt isDotted change rest ⟨origin, []⟩).map fun entries =>
        setEntry name (.table origin entries) table.entries
    | some (.table origin entries) =>
      if isDotted && origin = .header then none
      else
        (changeAt isDotted change rest ⟨origin, entries⟩).map fun entries =>
          setEntry name (.table origin entries) table.entries
    | some (.tables (last :: others)) =>
      (changeAt isDotted change rest ⟨.header, last⟩).map fun entries =>
        setEntry name (.tables (entries :: others)) table.entries
    | some _ => none

/-! ## Definitions -/

/-- Defines a name in a table that a key leads to. A table that a dotted key
    leads to comes from dotted keys only. -/
def define (name : String) (value : Value) (underDots : Bool) (table : Table) :
    Option Entries :=
  -- Every key is defined once.
  if (underDots && table.origin != .dotted) || (table.entries.lookup name).isSome then none
  else some (table.entries ++ [(name, .value value)])

/-- Gives a key of a table a value. -/
def assign (key : Key) (value : Value) (table : Table) : Option Entries :=
  changeAt true (define key.name value !key.path.isEmpty) key.path table

/-- Begins the table of a header. -/
def beginTable (name : String) (table : Table) : Option Entries :=
  match table.entries.lookup name with
  | none => some (table.entries ++ [(name, .table .header [])])
  | some (.table .path entries) => some (setEntry name (.table .header entries) table.entries)
  | some _ => none

/-- Begins one more table of a name. -/
def beginElement (name : String) (table : Table) : Option Entries :=
  match table.entries.lookup name with
  | none => some (table.entries ++ [(name, .tables [[]])])
  | some (.tables elements) => some (setEntry name (.tables ([] :: elements)) table.entries)
  | some _ => none

/-! ## Documents -/

/-- A statement of a document. -/
inductive Statement where
  | assign (key : Key) (value : Value)
  /-- The header of a table. -/
  | table (key : Key)
  /-- The header of one more table of a name. -/
  | element (key : Key)

/-- A document that is being read: its tables and the path of the current one. -/
structure Document where
  entries : Entries
  current : List String

namespace Document

/-- An empty document. -/
def empty : Document := ⟨[], []⟩

/-- Adds a statement. -/
def add (d : Document) : Statement → Option Document
  | .assign key value =>
    (changeAt false (assign key value) d.current ⟨.header, d.entries⟩).map fun entries =>
      { d with entries }
  | .table key =>
    (changeAt false (beginTable key.name) key.path ⟨.header, d.entries⟩).map fun entries =>
      ⟨entries, key.path ++ [key.name]⟩
  | .element key =>
    (changeAt false (beginElement key.name) key.path ⟨.header, d.entries⟩).map fun entries =>
      ⟨entries, key.path ++ [key.name]⟩

end Document

/-! ## Values -/

mutual

/-- What a name holds as a value. -/
def Item.toValue : Item → Value
  | .value v => v
  | .table _ entries => .record (entryValues entries)
  | .tables elements => .list (elementValues [] elements)

/-- The entries of a table as members of a record. -/
def entryValues : List (String × Item) → List (String × Value)
  | [] => []
  | (name, item) :: rest => (name, item.toValue) :: entryValues rest

/-- Tables of one name in order, before those that follow them. -/
def elementValues (after : List Value) : List (List (String × Item)) → List Value
  | [] => after
  | entries :: rest => elementValues (.record (entryValues entries) :: after) rest

end

end DocSite.Toml
