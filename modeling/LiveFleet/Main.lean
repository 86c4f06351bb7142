/-
This file holds the command line. Its only argument is the path of a settings
file, and may be left out. The report of the day goes to the standard output,
and what went wrong to the standard error.
-/
import LiveFleet.Demo

namespace LiveFleet.Demo

/-- The bytes of a file, if it can be read. -/
def readBytes (path : String) : IO (Option ByteArray) :=
  try
    return some (← IO.FS.readBinFile path)
  catch _ => return none

/-- The settings of the file that the arguments name, or those of the day itself. -/
def settingsOf : List String → IO (Except SettingsError Settings)
  | [] => return .ok settings
  | path :: _ => return Settings.ofFile (← readBytes path)

end LiveFleet.Demo

open LiveFleet

/-- Play the day, and say what it has brought. -/
def main (arguments : List String) : IO UInt32 := do
  let ending := Demo.ending (← Demo.settingsOf arguments)
  ending.output.forM IO.println
  ending.complaint.forM fun complaint => IO.eprintln s!"Error: {complaint}"
  return ending.exitCode
