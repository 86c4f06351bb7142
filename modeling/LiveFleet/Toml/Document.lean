/-
This file holds the reading of a whole TOML document. Its statements are carried
out one after another: a header decides where the assignments behind it go.
-/
import LiveFleet.Toml.Statement

namespace LiveFleet.Toml

/-- A document of which some statements have been carried out. -/
structure Draft where
  /-- The whole path of the header that came last. -/
  header : List String
  entries : Entries

/-- Carry out one statement, unless it defines what is already defined. -/
def Draft.carryOut? (draft : Draft) : Statement → Option Draft
  | .assign path key value => do
    return { draft with entries := ← draft.entries.assignIn? draft.header path key value }
  | .begin path key => do
    return { header := path ++ [key], entries := ← draft.entries.begin? path key }
  | .beginNext path key => do
    return { header := path ++ [key], entries := ← draft.entries.beginNext? path key }

/-- The text behind a byte order mark, if there is one. -/
def skipByteOrderMark : List Char → List Char
  | '\ufeff' :: text => text
  | text => text

/-- The entries of a document, or nothing if the document is not well formed. -/
def read? (document : String) : Option Entries := do
  let text := skipByteOrderMark document.toList
  let statements ← statements? (text.length + 1) text
  let draft ← statements.foldlM Draft.carryOut? { header := [], entries := [] }
  return draft.entries

end LiveFleet.Toml
