import SiteGateway.Server.Process
import Std.Time

/-!
# The command line

Starts the gateway with the arguments and the files they name, writes its records to standard output
and its complaints to standard error, and ends with its exit code. The network is not part of this
program: it gets ready to serve, takes the end of standard input for the signal to stop, and stops.
-/

namespace SiteGateway

/-- Where a path leads if no link is on the way. -/
def placeOf (base : Place) (path : Text) : Place :=
  let start := if path.head? = some '/' then [] else base
  (FileTree.names (Utf8.encode path)).foldl (fun place name =>
    if name.isEmpty || name == [0x2E] then place
    else if name == [0x2E, 0x2E] then place.dropLast
    else place ++ [name]) start

/-- The error code of a directory that is read like a file. -/
def directoryCode : UInt32 := 21

/-- Looks at what a path leads to and puts it into the tree. -/
def look (base : Place) (t : FileTree) (path : Text) : IO FileTree := do
  match ← (IO.FS.readBinFile (String.ofList path)).toBaseIO with
  | .ok content => return t.put (placeOf base path) (.file content.toList ⟨0, 0⟩)
  | .error (.inappropriateType _ code _) =>
    return if code = directoryCode then t.put (placeOf base path) .directory else t
  | .error _ => return t

def Settings.paths (s : Settings) : List Text :=
  s.directory :: [s.givenInitialFile, s.tlsCert, s.tlsKey].reduceOption

/-- Looks at the settings file and at everything that the settings name. -/
def Launch.look (l : Launch) (base : Place) : IO FileTree := do
  let t : FileTree := FileTree.put ⟨[]⟩ base .directory
  let config? := (CommandLine.parse l.arguments l.disableListing).toOption.bind (·.config)
  let t ← config?.toList.foldlM (SiteGateway.look base) t
  match l.settings t base with
  | .error _ => return t
  | .ok s => s.paths.foldlM (SiteGateway.look base) t

def now : IO Instant := do
  let nanos := (← Std.Time.Timestamp.now).toNanosecondsSinceUnixEpoch.val
  return ⟨Int.fdiv nanos 1000000000, (Int.fmod nanos 1000000000).toNat⟩

def writeRecords (format : LogFormat) (records : List LogRecord) : IO Unit :=
  records.forM fun r => do IO.println (String.ofList (r.written (← now) format))

/-- Waits for the end of the input. -/
partial def awaitEnd (input : IO.FS.Stream) : IO Unit := do
  if (← input.getLine).isEmpty then return else awaitEnd input

end SiteGateway

open SiteGateway

def main (args : List String) : IO UInt32 := do
  let environment (name : String) : IO (Option Text) := do
    return (← IO.getEnv name).map String.toList
  let launch : Launch :=
    ⟨args.map String.toList, ← environment "STATICGATE_DISABLE_DIR_INDEX", ← environment "RUST_LOG"⟩
  let base := placeOf [] ((← environment "PWD").getD ['/'])
  let run := launch.run (← launch.look base) base (fun _ port => .ok port) .terminate
  IO.eprint (String.ofList run.complaint)
  writeRecords run.format run.starting
  if run.serves then awaitEnd (← IO.getStdin)
  writeRecords run.format run.stopping
  return UInt32.ofNat run.exitCode
