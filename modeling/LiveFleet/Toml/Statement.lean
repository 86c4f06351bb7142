/-
This file holds the values of TOML and the statements that a document consists
of. Arrays may span lines and end with a comma; tables in braces stay on one
line and do not. Both may be nested, and so may the parts of a dotted key, to a
depth that is bounded.
-/
import LiveFleet.Toml.Token

namespace LiveFleet.Toml

/-! ### Keys -/

/-- One part of a key: in quotes of either kind, or bare. -/
def keyPart? : List Char → Read String
  | '"' :: rest => (quoted rest).map fun (content, rest) => (.ofList content, rest)
  | '\'' :: rest => (literal rest).map fun (content, rest) => (.ofList content, rest)
  | text =>
    let name := text.takeWhile isBareKey
    if name.isEmpty then none else some (.ofList name, text.dropWhile isBareKey)

/-- A key of at most the given number of parts with dots between them. The last part comes
separately. Blanks may stand around every part. -/
def key? : Nat → List Char → Option ((List String × String) × List Char)
  | 0, _ => none
  | parts + 1, text => do
    let (part, rest) ← keyPart? (skipBlanks text)
    match skipBlanks rest with
    | '.' :: rest =>
      let ((path, key), rest) ← key? parts rest
      return ((part :: path, key), rest)
    | rest => return (([], part), rest)

/-- The greatest number of parts of a key, and the greatest depth of a value. -/
def deepest : Nat := 79

/-! ### Values -/

/-- A value that contains no other values. -/
def plainValue? (text : List Char) : Read Value :=
  match string? text with
  | some (content, rest) => some (.text content, rest)
  | none => scalar? text

/-- The rest of an array behind its opening bracket or a comma. The number bounds the items. -/
def items? (item? : List Char → Read Value) : Nat → List Char → Option (List Value × List Char)
  | 0, _ => none
  | bound + 1, text => do
    match ← skipLines text.length text with
    | ']' :: rest => return ([], rest)
    | text =>
      let (item, rest) ← item? text
      match ← skipLines rest.length rest with
      | ',' :: rest =>
        let (items, rest) ← items? item? bound rest
        return (item :: items, rest)
      | ']' :: rest => return ([item], rest)
      | _ => none

/-- The rest of a table in braces that is not empty, given the entries so far. The number bounds the
entries. -/
def bracedEntries? (value? : List Char → Read Value) :
    Nat → Entries → List Char → Option (Entries × List Char)
  | 0, _, _ => none
  | bound + 1, entries, text => do
    let ((path, key), rest) ← key? deepest text
    match rest with
    | '=' :: rest =>
      let (value, rest) ← value? (skipBlanks rest)
      let entries ← entries.assign? path key value
      match skipBlanks rest with
      | ',' :: rest => bracedEntries? value? bound entries rest
      | '\x7d' :: rest => return (entries, rest)
      | _ => none
    | _ => none

/-- A value in which arrays and tables are nested to at most the given depth. -/
def value? : Nat → List Char → Option (Value × List Char)
  | depth + 1, '[' :: rest => do
    let (items, rest) ← items? (value? depth) (rest.length + 1) rest
    return (.array items, rest)
  | depth + 1, '\x7b' :: rest =>
    match skipBlanks rest with
    | '\x7d' :: rest => some (.table .braced [], rest)
    | rest => do
      let (entries, rest) ← bracedEntries? (value? depth) (rest.length + 1) [] rest
      return (.table .braced entries, rest)
  | _, text => plainValue? text

/-! ### Statements -/

/-- A statement of a document. Keys are split into the path and the last part. -/
inductive Statement where
  | assign (path : List String) (key : String) (value : Value)
  | begin (path : List String) (key : String)
  | beginNext (path : List String) (key : String)

/-- A statement, and the text behind its line. -/
def statement? : List Char → Option (Statement × List Char)
  | '[' :: '[' :: text => do
    let ((path, key), rest) ← key? deepest text
    match rest with
    | ']' :: ']' :: rest => return (.beginNext path key, ← lineEnd? rest)
    | _ => none
  | '[' :: text => do
    let ((path, key), rest) ← key? deepest text
    match rest with
    | ']' :: rest => return (.begin path key, ← lineEnd? rest)
    | _ => none
  | text => do
    let ((path, key), rest) ← key? deepest text
    match rest with
    | '=' :: rest =>
      let (value, rest) ← value? deepest (skipBlanks rest)
      return (.assign path key value, ← lineEnd? rest)
    | _ => none

/-- All statements of a text. Lines without a statement are skipped. The number bounds the lines. -/
def statements? : Nat → List Char → Option (List Statement)
  | 0, _ => none
  | bound + 1, text =>
    match skipBlanks text with
    | [] => some []
    | text =>
      match lineEnd? text with
      | some rest => statements? bound rest
      | none => do
        let (statement, rest) ← statement? text
        return statement :: (← statements? bound rest)

end LiveFleet.Toml
