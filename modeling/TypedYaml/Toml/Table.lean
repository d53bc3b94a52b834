/-!
# Tables

A table is built up by keys with several parts and by headers. A table that was written once may
not be written again, but one that came into being only as the parent of another may be.

* `Item`: what a key stands for.
* `Item.change?`: the table at the end of a path, changed.
* `put?`: a new entry; `openTable?`, `openElement?`: headers.
-/

namespace TypedYaml.Toml

/-- How a table came into being: as the parent of one with a header, as the parent of a key, or by
a header of its own. -/
inductive Origin where
  | parent
  | dotted
  | written
deriving DecidableEq

/-- Numbers with a fraction, dates, lists and tables in braces are all the same here. -/
inductive Item where
  | string (value : String)
  | int (value : Int64)
  | bool (value : Bool)
  | other
  | table (origin : Origin) (entries : List (String × Item))
  | tables (elements : List (List (String × Item)))
deriving Inhabited

/-- A table. No key occurs twice. -/
abbrev Entries := List (String × Item)

/-- Replaces the item of a key that is there. -/
def replace (key : String) (item : Item) (entries : Entries) : Entries :=
  entries.map fun (k, old) => if k = key then (k, item) else (k, old)

/-- Changes the table at the end of a path, making the tables on the way that are not there. A path
through a list of tables goes on in the last one. Parts of a key do not lead into tables with a
header. -/
def change? (viaKey : Bool) (f : Origin → Entries → Option Entries) :
    List String → Origin → Entries → Option Entries
  | [], origin, entries => f origin entries
  | key :: path, _, entries =>
    match entries.lookup key with
    | none =>
      let origin := if viaKey then .dotted else .parent
      (change? viaKey f path origin []).map fun inner => entries ++ [(key, .table origin inner)]
    | some (.table origin inner) =>
      if viaKey && origin == .written then none
      else (change? viaKey f path origin inner).map fun inner =>
        replace key (.table origin inner) entries
    | some (.tables elements) =>
      (change? viaKey f path .written (elements.getLast?.getD [])).map fun inner =>
        replace key (.tables (elements.dropLast ++ [inner])) entries
    | some _ => none

/-- Adds an entry under a key with several parts. -/
def put? (path : List String) (key : String) (item : Item) (entries : Entries) :
    Option Entries :=
  change? true
    (fun origin inner =>
      if (origin == .dotted) == path.isEmpty then none
      else if (inner.lookup key).isSome then none
      else some (inner ++ [(key, item)]))
    path .written entries

/-- A header with one pair of brackets. Of the tables that are there, only one that is a mere parent
may be opened. -/
def openTable? (path : List String) (key : String) (root : Entries) : Option Entries :=
  change? false
    (fun _ inner =>
      match inner.lookup key with
      | none => some (inner ++ [(key, .table .written [])])
      | some (.table .parent entries) => some (replace key (.table .written entries) inner)
      | some _ => none)
    path .written root

/-- Adds an element to a list of tables. -/
def openElement? (path : List String) (key : String) (root : Entries) : Option Entries :=
  change? false
    (fun _ inner =>
      match inner.lookup key with
      | none => some (inner ++ [(key, .tables [[]])])
      | some (.tables elements) => some (replace key (.tables (elements ++ [[]])) inner)
      | some _ => none)
    path .written root

/-- Adds an entry to the table that was opened last. -/
def putInto? (opened path : List String) (key : String) (item : Item) (root : Entries) :
    Option Entries :=
  change? false (fun _ inner => put? path key item inner) opened .written root

end TypedYaml.Toml
