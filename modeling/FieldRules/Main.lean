import FieldRules.Host.Path
import FieldRules.Rpc.Arguments
import FieldRules.Rpc.Server
import Std.Time.DateTime

/-!
# The program

Serves requests on the standard streams: one request a line comes in, one response a line goes out,
and notes go to the stream of errors if they are asked for. Remote documents are out of reach: only
their copies are read. The workers of a pool are in the program itself, so that there can be as many
as are asked for.
-/

namespace FieldRules.Program

/-- A file or a folder that cannot be used. -/
def fileFault (path : String) : IO.Error → FileFault
  | .noFileOrDirectory .. => ⟨.missing, path⟩
  | .alreadyExists .. => ⟨.taken, path⟩
  | .inappropriateType .. => ⟨.isFolder, path⟩
  | e => ⟨.refused e.toString, path⟩

/-- Does something with a path. -/
def onPath {α : Type} (path : String) (action : IO α) : IO (Except FileFault α) := do
  match ← action.toBaseIO with
  | .ok result => return .ok result
  | .error e => return .error (fileFault path e)

/-- The seconds on the clock. -/
def readClock : IO Binary64 := do
  let t ← Std.Time.Timestamp.now
  let milliseconds := t.toMillisecondsSinceUnixEpoch.val
  return .ofQuotient (milliseconds < 0) milliseconds.natAbs 1000

/-- The date in universal time. -/
def readDate : IO Calendar.Today := do
  let t ← Std.Time.Timestamp.now
  let d := Std.Time.PlainDate.ofEpochDay t.toDaysSinceUnixEpoch
  return ⟨d.year, d.month.val, d.day.val⟩

/-- A path with no name that leads nowhere, seen from the folder of the program. -/
def fullPath (path : String) : IO String := do
  let here ← IO.currentDir
  return (Path.normal (Path.names (Path.seenFrom here.toString path))).text

/-- Whether something is at a path. -/
def isThere (path : String) : IO Bool := do
  match ← (IO.FS.realPath path).toBaseIO with
  | .ok found => found.pathExists
  | .error _ => return false

/-- The host that the program runs on; copies of remote documents are kept in a folder. -/
def host (cacheFolder : String) : Host IO where
  cacheFolder := cacheFolder
  resolve := fullPath
  readFile path := onPath path (IO.FS.readFile path)
  isThere := isThere
  makeFolder path := onPath path (IO.FS.createDirAll path)
  writeFile path text := onPath path (IO.FS.writeFile path text)
  removeFolder path := onPath path (IO.FS.removeDirAll path)
  fetch _ _ := return .error "unreachable"
  makePool _ := return .ok ()
  now := readClock
  today := readDate

/-- Puts something out. -/
def emit (isDebug : Bool) : Rpc.Output → IO Unit
  | .response line => do
    let stdout ← IO.getStdout
    stdout.putStrLn line
    stdout.flush
  | .note text => if isDebug then IO.eprintln (Rpc.noteText text) else return ()

/-- What comes in next. -/
def nextEvent : IO Rpc.Event := do
  let stdin ← IO.getStdin
  match ← stdin.getLine.toBaseIO with
  | .ok "" => return .inputEnd
  | .ok line => return .line line
  | .error e => return .failure e.toString

/-- Serves until the server has ended. -/
partial def serve (h : Host IO) (isDebug : Bool) (server : Rpc.Server) : IO Unit := do
  if server.isOver then return ()
  let (server, outputs) ← server.feed h (← nextEvent)
  outputs.forM (emit isDebug)
  serve h isDebug server

/-- How the program is called. -/
def usage : String := "usage: fieldrules [-h] [--debug] [--config CONFIG]"

/-- Runs the program. -/
def run (arguments : Rpc.Arguments) : IO UInt32 := do
  let home := (← IO.getEnv "HOME").getD "/"
  let h := host (Path.seenFrom home ".cache/field-validation")
  match ← (Service.start h arguments.config).run with
  | .error fault =>
    IO.eprintln fault.message
    return 1
  | .ok service =>
    let (server, outputs) := Rpc.Server.start service
    outputs.forM (emit arguments.isDebug)
    serve h arguments.isDebug server
    return 0

end FieldRules.Program

/-- The program. -/
def main (arguments : List String) : IO UInt32 := do
  match FieldRules.Rpc.Arguments.read arguments with
  | .ok told => FieldRules.Program.run told
  | .error .help =>
    IO.println FieldRules.Program.usage
    return 0
  | .error exit =>
    IO.eprintln FieldRules.Program.usage
    return exit.code.toUInt32
