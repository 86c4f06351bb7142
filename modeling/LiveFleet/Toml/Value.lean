/-
This file holds what a TOML document can contain, and the rules for building
tables. A table remembers how it came into being, because that decides what may
still be added to it: a table that a dotted key has made can be extended by
further dotted keys, a table that a header has only passed through can be given
a header of its own later, and a table with a header, or in braces, is complete.
-/

namespace LiveFleet.Toml

/-- How a table came into being. -/
inductive TableKind where
  /-- By a header of its own, or as the document itself. -/
  | headed
  /-- As a part of the path of another header. -/
  | passed
  /-- As a part of a dotted key. -/
  | dotted
  /-- In braces. -/
  | braced
  deriving DecidableEq, Repr

/-- A value of a TOML document. -/
inductive Value where
  | text (content : String)
  | integer (number : Int)
  | float (token : String)
  | boolean (truth : Bool)
  | dateTime (token : String)
  | array (items : List Value)
  | table (kind : TableKind) (entries : List (String × Value))
  /-- An array of tables; the table that was begun last comes first. -/
  | tables (latest : List (String × Value)) (earlier : List (List (String × Value)))

/-- The entries of a table. Keys are distinct. -/
abbrev Entries := List (String × Value)

namespace Entries

/-- Replace the value of a key, or add the key. -/
def set (entries : Entries) (key : String) (value : Value) : Entries :=
  if entries.any fun entry => entry.1 = key then
    entries.map fun entry => if entry.1 = key then (key, value) else entry
  else entries ++ [(key, value)]

/-- Add a key that is not there yet. -/
def add? (entries : Entries) (key : String) (value : Value) : Option Entries :=
  match entries.lookup key with
  | some _ => none
  | none => some (entries ++ [(key, value)])

/-- Change the table at the end of a path. Tables on the way that are not there are made of the
given kind. A dotted key may not pass through a table that is complete; a header may pass through
any table, but neither passes through a plain value or a table in braces. -/
def changeAt (making : TableKind) (change : TableKind → Entries → Option Entries) :
    List String → TableKind → Entries → Option Entries
  | [], kind, entries => change kind entries
  | key :: path, _, entries => do
    match entries.lookup key with
    | none =>
      let inner ← changeAt making change path making []
      return entries ++ [(key, .table making inner)]
    | some (.table kind inner) =>
      if kind = .braced || (making = .dotted && kind = .headed) then none
      else
        let inner ← changeAt making change path kind inner
        return entries.set key (.table kind inner)
    | some (.tables latest earlier) =>
      let latest ← changeAt making change path .headed latest
      return entries.set key (.tables latest earlier)
    | some _ => none

/-- Give a value to a dotted key, whose last part comes separately. Only a table that dotted keys
have made can be extended by a longer key. -/
def assign? (entries : Entries) (path : List String) (key : String) (value : Value) :
    Option Entries :=
  changeAt .dotted
    (fun kind inner => if path.isEmpty || kind = .dotted then inner.add? key value else none)
    path .headed entries

/-- Begin the table of a header whose last part comes separately. A table that was only passed
through so far is kept and completed. -/
def begin? (entries : Entries) (path : List String) (key : String) : Option Entries :=
  changeAt .passed
    (fun _ inner =>
      match inner.lookup key with
      | none => some (inner ++ [(key, .table .headed [])])
      | some (.table .passed kept) => some (inner.set key (.table .headed kept))
      | some _ => none)
    path .headed entries

/-- Begin the next table of an array of tables. -/
def beginNext? (entries : Entries) (path : List String) (key : String) : Option Entries :=
  changeAt .passed
    (fun _ inner =>
      match inner.lookup key with
      | none => some (inner ++ [(key, .tables [] [])])
      | some (.tables latest earlier) => some (inner.set key (.tables [] (latest :: earlier)))
      | some _ => none)
    path .headed entries

/-- Give a value to a dotted key inside the table of a header. -/
def assignIn? (entries : Entries) (header : List String) (path : List String) (key : String)
    (value : Value) : Option Entries :=
  changeAt .passed (fun _ inner => inner.assign? path key value) header .headed entries

end Entries

end LiveFleet.Toml
