import KeyCustody.Document

/-!
# Building tables

Where the lines of a TOML document add to: keys with dots and headers walk from table to table, making
those that are missing. A table that was opened by a header or written as a whole cannot be extended by
keys with dots, no table can be opened twice, and no key can be set twice.
-/

namespace KeyCustody.Toml

/-- The entries of a table. -/
abbrev Entries := List (String × Document)

namespace Entries

/-- The entries with the value of a key changed, or with the key added. -/
def set (entries : Entries) (key : String) (value : Document) : Entries :=
  match entries with
  | [] => [(key, value)]
  | entry :: rest => if entry.1 = key then (key, value) :: rest else entry :: set rest key value

/-- Changes the table at the end of a path. Tables that are missing on the way are made in the form
`making`, and only tables whose form is among the `open` ones are entered; of a list of tables, the last
is entered whatever the form. -/
def change (making : TableForm) (enters : TableForm → Bool)
    (edit : TableForm → Entries → Option Entries) :
    List String → TableForm → Entries → Option Entries
  | [], form, entries => edit form entries
  | key :: path, _, entries =>
    match entries.lookup key with
    | none => (change making enters edit path making []).map fun child =>
        set entries key (.table making child)
    | some (.table form child) =>
      if enters form then
        (change making enters edit path form child).map fun child =>
          set entries key (.table form child)
      else none
    | some (.tables items) =>
      (change making enters edit path .headed (items.getLast?.getD [])).map fun child =>
        set entries key (.tables (items.dropLast ++ [child]))
    | some _ => none

/-- Adds a value under a key with dots. -/
def insert (path : List String) (key : String) (value : Document) (form : TableForm)
    (entries : Entries) : Option Entries :=
  change .dotted (fun form => form == .implied || form == .dotted)
    (fun reached entries =>
      if (reached == .dotted) == path.isEmpty then none
      else if (entries.lookup key).isSome then none
      else some (set entries key value))
    path form entries

/-- Changes the table that a header names in a document. -/
def changeAt (path : List String) (edit : TableForm → Entries → Option Entries)
    (entries : Entries) : Option Entries :=
  change .implied (· != .closed) edit path .headed entries

/-- Opens a table by its header. It may have been named on the way to another one before. -/
def openTable (path : List String) (key : String) (entries : Entries) : Option Entries :=
  changeAt path (fun _ entries =>
    match entries.lookup key with
    | none => some (set entries key (.table .headed []))
    | some (.table .implied child) => some (set entries key (.table .headed child))
    | some _ => none) entries

/-- Opens the next table of a list of tables by its header. -/
def openListTable (path : List String) (key : String) (entries : Entries) : Option Entries :=
  changeAt path (fun _ entries =>
    match entries.lookup key with
    | none => some (set entries key (.tables [[]]))
    | some (.tables items) => some (set entries key (.tables (items ++ [[]])))
    | some _ => none) entries

end Entries

end KeyCustody.Toml
