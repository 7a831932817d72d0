import Geolocation.CommandLine.Run

/-!
# Command line

Runs the program on the file system. The store is looked for in the home directory if none is named.
There is no network here: no call to the external service gets a response, and there is no way to a
statsd server either.
-/

namespace Geolocation.CommandLine

/-- Is there anything at a path of the file system? -/
def isPresent (path : String) : IO Bool := do
  try
    (← IO.FS.realPath path).pathExists
  catch _ => return false

/-- What is found at a path of the file system. -/
def readFile (path : String) : IO FileState := do
  try
    return .content (← IO.FS.readBinFile path)
  catch _ => return if ← isPresent path then .unreadable else .missing

/-- The file system, with the default store in the home directory. -/
def systemSurroundings : IO (Surroundings IO) := do
  let home := (← IO.getEnv "HOME").getD "."
  return {
    read := readFile
    defaultStore := home ++ "/.locus/networks.json"
    network := fun _ => (.missing, 0)
  }

end Geolocation.CommandLine

open Geolocation CommandLine in
/-- Locates what the words ask for. -/
def main (words : List String) : IO UInt32 := do
  let report ← run (← systemSurroundings) words
  IO.print report.output
  if let some message := report.message then IO.eprintln message
  return report.code.toUInt32
