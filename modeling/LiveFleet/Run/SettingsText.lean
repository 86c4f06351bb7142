/-
This file holds the text of settings, which is a TOML document. Every key may be
left out and then has its standard value; keys that mean nothing here are
ignored. What is written always names all four keys.
-/
import LiveFleet.Run.Settings
import LiveFleet.Toml.Document

namespace LiveFleet

namespace Settings

/-! ### Reading -/

/-- The name of a pace in a document. -/
def paceName : Pace → String
  | .simulated => "simulated"
  | .realTime => "real_time"

/-- The pace of a name. -/
def paceOfName? (name : String) : Option Pace :=
  if name = paceName .simulated then some .simulated
  else if name = paceName .realTime then some .realTime
  else none

/-- A count, which is an integer that is not negative. -/
def count? : Toml.Value → Option Nat
  | .integer (.ofNat count) => some count
  | _ => none

/-- A pace: its name, or a table with the name as its only key and nothing behind it. -/
def pace? : Toml.Value → Option Pace
  | .text name => paceOfName? name
  | .table _ [(name, .array [])] => paceOfName? name
  | .table _ [(name, .table _ [])] => paceOfName? name
  | _ => none

/-- What a document says about a key, or the standard value if it says nothing. -/
def field? {Field : Type} (entries : Toml.Entries) (key : String)
    (field : Toml.Value → Option Field) (standard : Field) : Option Field :=
  match entries.lookup key with
  | none => some standard
  | some value => field value

/-- The settings that the entries of a document describe. -/
def ofEntries? (entries : Toml.Entries) : Option Settings := do
  let tickLength ← field? entries "tick_length_ms" count? standard.tickLength
  let initialPace ← field? entries "initial_mode" pace? standard.initialPace
  let seed ← field? entries "seed" count? standard.seed
  let timeOut ← field? entries "time_out_ms" count? standard.timeOut
  return { tickLength, initialPace, seed, timeOut }

/-- Read settings, which must also be valid. -/
def ofText (document : String) : Except SettingsError Settings :=
  match (Toml.read? document).bind ofEntries? with
  | none => .error .malformed
  | some settings => do
    settings.validate
    return settings

/-- Read settings from the bytes of a file, or from a file that is not there. -/
def ofFile (bytes : Option ByteArray) : Except SettingsError Settings :=
  match bytes.bind String.fromUTF8? with
  | none => .error .unreadable
  | some document => ofText document

/-! ### Writing -/

/-- The document that describes settings, whether they are valid or not. -/
def text (settings : Settings) : Except SettingsError String :=
  if settings.tickLength ≤ Toml.largestInteger && settings.seed ≤ Toml.largestInteger &&
      settings.timeOut ≤ Toml.largestInteger then
    .ok <|
      "tick_length_ms = " ++ toString settings.tickLength ++ "\n" ++
      "initial_mode = \"" ++ paceName settings.initialPace ++ "\"\n" ++
      "seed = " ++ toString settings.seed ++ "\n" ++
      "time_out_ms = " ++ toString settings.timeOut ++ "\n"
  else .error .unwritable

theorem paceOfName?_paceName (pace : Pace) : paceOfName? (paceName pace) = some pace := by
  cases pace <;> decide

theorem ofText_valid {document : String} {settings : Settings}
    (read : ofText document = .ok settings) : settings.validate = .ok () := by
  unfold ofText at read
  split at read
  · contradiction
  · rename_i described _
    cases valid : described.validate with
    | error problem => simp [valid, bind, Except.bind] at read
    | ok =>
      simp only [valid, bind, Except.bind, pure, Except.pure, Except.ok.injEq] at read
      rw [← read, valid]

end Settings

end LiveFleet
