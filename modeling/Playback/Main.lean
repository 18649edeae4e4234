import Playback.CommandLine.Run
import Playback.Text.Uuid
import Std.Time.Format

/-! The program: reads the files that its arguments name, and prints what the command line
answers. -/

namespace Playback.CommandLine

/-- The text of a file, or why it cannot be read. -/
def readText (path : String) : IO (Except String String) := do
  try return .ok (← IO.FS.readFile path)
  catch
    | .noFileOrDirectory _ _ _ => return .error "No such file or directory (os error 2)"
    | e => return .error (toString e)

/-- A random number below `2 ^ 122`. -/
def randomNumber : IO Nat := do
  let bytes ← IO.getRandomBytes 16
  return bytes.toList.foldl (fun n b => n * 256 + b.toNat) 0 % (1 <<< 122)

/-- The present time. -/
def timestamp : IO String := do
  let now := Std.Time.DateTime.ofTimestamp (← Std.Time.Timestamp.now) .UTC
  return now.format "uuuu-MM-dd'T'HH:mm:ss.SSSSSSSSS'Z'"

/-- What is outside the program as far as its arguments need it. The ids of the events follow from
one random number, so no two are the same. -/
def surroundings (args : List String) : IO Surroundings := do
  let files ← (parse args).files.mapM fun path => do return (path, ← readText path)
  let session ← randomNumber
  let first ← randomNumber
  let time ← timestamp
  return {
    contents := fun path => (files.lookup path).getD (.error "not read")
    sessionId := Text.uuid session
    stamp := fun n => ⟨Text.uuid (first + n), time⟩ }

end Playback.CommandLine

open Playback.CommandLine in
def main (args : List String) : IO UInt32 := do
  let response := respond (← surroundings args) args
  for line in response.output do IO.println line
  unless response.complaint.isEmpty do
    IO.eprintln ("error: " ++ String.intercalate "\n  " response.complaint)
  return UInt32.ofNat response.exit
