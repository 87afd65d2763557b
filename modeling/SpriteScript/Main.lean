import SpriteScript.CommandLine.Session

/-!
# The command

The outer layer: it passes the command line, the log level, the source and the result between the
operating system and `SpriteScript.CommandLine`, and decides nothing itself.
-/

namespace SpriteScript.CommandLine

/-- The reason why a file could not be opened. -/
def pathErrorOf : IO.Error → PathError
  | .noFileOrDirectory .. => .notFound
  | .inappropriateType .. => .isFolder
  | _ => .notFolder

/-- Ends the command at a fault that is not handled. -/
def fail {α : Type} : Crash → IO α
  | .undecodable => throw (IO.userError "the source is not valid UTF-8")
  | .path error => throw (IO.userError error.text)
  | .noTarget => throw (IO.userError "the output names no file")
  | .badLevel _ => throw (IO.userError "the log level names no level")

/-- All bytes of a stream after those that were read. -/
partial def drain (stream : IO.FS.Stream) (bytes : ByteArray) : IO ByteArray := do
  let more ← stream.read 65536
  if more.isEmpty then return bytes else drain stream (bytes ++ more)

/-- The bytes of the source. -/
def fetch (file : Option String) : IO (Except PathError ByteArray) := do
  match file with
  | none => return .ok (← drain (← IO.getStdin) ByteArray.empty)
  | some path =>
    try return .ok (← IO.FS.readBinFile path)
    catch error => return .error (pathErrorOf error)

/-- Writes what a command made. -/
def hand (target : Target) (product : Product) : IO UInt32 := do
  IO.eprint (Text.plain product.notes)
  match product.result, target with
  | none, _ => pure ()
  | some result, .standard => IO.print (Text.plain result)
  | some result, .file path => IO.FS.writeFile path (Text.plain result)
  | some _, .nowhere => fail .noTarget
  return product.exit.toUInt32

end SpriteScript.CommandLine

open SpriteScript.CommandLine in
/-- The command `blockc`. -/
def main (words : List String) : IO UInt32 := do
  match start words (← IO.getEnv "BLOCKC_LOG_LEVEL") with
  | .over exit output notes =>
    IO.print (SpriteScript.Text.plain output)
    IO.eprint (SpriteScript.Text.plain notes)
    return exit.toUInt32
  | .crashed crash => fail crash
  | .ready options rank =>
    match ← fetch options.file with
    | .error error => hand options.output (unreadable (options.file.getD "") error)
    | .ok bytes =>
      match decodeSource bytes with
      | .error crash => fail crash
      | .ok source => hand options.output (process options.mode rank source)
