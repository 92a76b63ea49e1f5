import DebugConsole.Frame
import DebugConsole.HostAction

/-!
# Sessions

A console at a terminal: it offers the demo commands, draws a frame at the start, and then handles
one line of input after the other, drawing a frame after each. Time passes once a line.
-/

namespace DebugConsole

/-- Where the configuration comes from. -/
inductive ConfigSource where
  | default
  /-- A file by its path, with its bytes if it exists. -/
  | file (path : String) (bytes : Option ByteArray)

namespace Session

def config : ConfigSource → Except ConsoleError Config
  | .default      => .ok {}
  | .file _ bytes => Config.ofFile bytes

/-- How a session tells where its configuration comes from. -/
def greeting : ConfigSource → String
  | .default     => "Starting devcon with default config"
  | .file path _ => "Starting devcon with config " ++ path

/-- The records of a session that reach the log. -/
def facade : Facade := .upTo (.upTo .info)

/-- The line that tells what can be typed. -/
def hint : String := "Type /echo, /parse, /sum, /warn, /fail or /clear. :q quits."

/-- The console of a session before its first frame. -/
def prepare (source : ConfigSource) (config : Config) :
    Except ConsoleError (Console DemoCommand) :=
  let c : Console DemoCommand := .ofConfig config
  let c := c.record facade (hostRecord .session .info (greeting source))
  match c.registerDemoCommands facade id with
  | (_, some e) => .error e
  | (c, none)   =>
      match c.addDemoPresets with
      | (_, some e) => .error e
      | (c, none)   => .ok ((c.toggleConsole.logText hint).tick facade 0).1

/-- The console of a session before its first frame, if it can be set up. -/
def start (source : ConfigSource) : Except ConsoleError (Console DemoCommand) :=
  match config source with
  | .error e => .error e
  | .ok c    => prepare source c

/-- The console after a line of input and the seconds since the last frame. -/
def step (c : Console DemoCommand) (line : String) (dt : Float32) : Console DemoCommand :=
  ((c.handleLine facade line).tick facade dt).1

/-- A session that is over. -/
structure Transcript where
  output : String
  failed : Bool
deriving DecidableEq, Repr

/-- The frames after the first one, and whether the input came to an error. A line that is not text
is given as nothing. -/
def rest (r : Renderer) (c : Console DemoCommand) :
    List (Option String × Float32) → List String × Bool
  | []                      => ([], false)
  | (none, _) :: _          => ([], true)
  | (some line, dt) :: rest =>
      if Console.quits line then ([], false)
      else
        let c := step c line dt
        let (frames, failed) := Session.rest r c rest
        (r.frame c :: frames, failed)

/-- The frames of a session whose console is set up. -/
def frames (r : Renderer) (c : Console DemoCommand) (lines : List (Option String × Float32)) :
    List String × Bool :=
  let (frames, failed) := rest r c lines
  (r.frame c :: frames, failed)

/-- A whole session. A session that comes to an error ends without the last newline. -/
def run (r : Renderer) (source : ConfigSource) (lines : List (Option String × Float32)) :
    Transcript :=
  match start source with
  | .error _ => { output := "", failed := true }
  | .ok c    =>
      let (frames, failed) := frames r c lines
      { output := String.join frames ++ if failed then "" else "\n", failed }

/-- The lines of the bytes of an input; a line that is not UTF-8 is nothing. -/
def linesOf (bytes : List UInt8) : List (Option String) :=
  (Text.linesFrom 10 13 [] bytes).map fun line => String.fromUTF8? (ByteArray.mk line.toArray)

end Session

end DebugConsole
