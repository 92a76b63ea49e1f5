import DebugConsole.Session

/-!
# The program

A session at the terminal. The configuration file is named by the first argument or else by the
environment.
-/

namespace DebugConsole

/-- The bytes of a file, if it can be read. -/
def readFile? (path : String) : IO (Option ByteArray) := do
  try
    return some (← IO.FS.readBinFile path)
  catch _ =>
    return none

/-- Where the configuration comes from. -/
def configSource (args : List String) : IO ConfigSource := do
  let path? ← match args with
    | path :: _ => pure (some path)
    | []        => IO.getEnv "DEVCON_CONFIG"
  match path? with
  | some path => return .file path (← readFile? path)
  | none      => return .default

/-- Draw to a stream. -/
def Output.ofStream (stream : IO.FS.Stream) : Output IO where
  write := stream.putStr
  flush := stream.flush

/-- The bytes up to the end of the next line, after those read so far. Bytes are taken one at a time,
so a line is answered as soon as it ends. -/
partial def lineBytes (input : IO.FS.Stream) (read : ByteArray) : IO ByteArray := do
  let byte ← input.read 1
  if byte.isEmpty then return read
  else if byte.data == #[10] then return read ++ byte
  else lineBytes input (read ++ byte)

/-- The next line of the input: nothing at the end, and no text if it is not text. -/
def nextLine? : IO (Option (Option String)) := do
  let bytes ← lineBytes (← IO.getStdin) .empty
  return (Session.linesOf bytes.toList).head?

/-- Handle the lines of the input, one after the other; tells whether all of them were text. -/
partial def loop (r : Renderer) (out : Output IO) (c : Console DemoCommand) (last : Nat) :
    IO Bool := do
  match ← nextLine? with
  | none             => return true
  | some none        => return false
  | some (some line) =>
      if Console.quits line then return true
      let now ← IO.monoMsNow
      let c := Session.step c line (Float.ofNat (now - last) / 1000).toFloat32
      r.draw c out
      loop r out c now

end DebugConsole

open DebugConsole in
/-- Run a session; the exit code tells whether it came to an error. -/
def main (args : List String) : IO UInt32 := do
  match Session.start (← configSource args) with
  | .error e =>
      IO.eprintln e.message
      return 1
  | .ok c    =>
      let stdout ← IO.getStdout
      let r : Renderer := { ansi := ← stdout.isTty }
      let out : Output IO := .ofStream stdout
      r.draw c out
      if ← loop r out c (← IO.monoMsNow) then
        out.writeLine ""
        out.flush
        return 0
      else return 1
