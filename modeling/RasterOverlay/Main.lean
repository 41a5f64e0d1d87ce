import RasterOverlay.Command.Run
import RasterOverlay.Transport

/-!
The program. It reads and writes files, but it has no network: a request that could not be sent
over one fails in the same words, and any other fails for want of a connection.
-/

namespace RasterOverlay

/-- A system error in words, with its number. -/
def describeError : IO.Error → String
  | .noFileOrDirectory _ code words | .inappropriateType _ code words
  | .permissionDenied _ code words | .invalidArgument _ code words =>
    s!"{words} (os error {code})"
  | e => toString e

/-- The content of a file, or why it cannot be read. A file that is there cannot be read for two
reasons: it is a directory, or it is not the user's. -/
def readContent (path : String) : IO FileContent :=
  try
    return .bytes (← IO.FS.readBinFile path)
  catch
    | e@(.inappropriateType _ 21 _) | e@(.permissionDenied ..) =>
      return .unreadable (describeError e)
    | _ => return .missing

def writeContent (path : String) (bytes : ByteArray) : IO (Except String Unit) :=
  try
    IO.FS.writeBinFile path bytes
    return .ok ()
  catch e => return .error (describeError e)

end RasterOverlay

open RasterOverlay in
def main (arguments : List String) : IO UInt32 := do
  let outcome ← Command.run {
    fileAt := readContent
    saveFile := writeContent
    send := fun r => return .error (.transport (Transport.offline r))
    clock := IO.monoMsNow
    home := (← IO.getEnv "HOME").getD "." } arguments
  outcome.output.forM IO.println
  outcome.errors.forM IO.eprintln
  return outcome.exitCode
