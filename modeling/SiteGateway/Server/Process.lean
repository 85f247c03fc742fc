import SiteGateway.Access.Filter
import SiteGateway.Access.Line
import SiteGateway.Server.Startup
import SiteGateway.Settings.CommandLine
import SiteGateway.Settings.Resolve

/-!
# The gateway as a process

Arguments and settings file give the settings, the settings are checked, and the server runs until a
signal comes. Faults before the records have a format are complained about in plain words.
-/

namespace SiteGateway

/-- What the gateway is started with. -/
structure Launch where
  arguments : List Text
  /-- What the environment says about listings. -/
  disableListing : Option Text
  /-- The filter that the environment gives. -/
  filter : Option Text
deriving DecidableEq, Repr

/-- Why the gateway ends before it knows how to write records. -/
inductive LaunchError
  | usage (fault : UsageFault)
  | settings (error : ConfigError)
deriving DecidableEq, Repr

namespace LaunchError

/-- Asking for help is no failure. -/
def exitCode : LaunchError → Nat
  | usage .displayHelp => 0
  | usage _ => 2
  | settings _ => 1

def complaint : LaunchError → Text
  | usage _ => []
  | settings error => "staticgate: ".toList ++ error.message ++ ['\n']

end LaunchError

/-- The name that the gateway speaks by before it serves. -/
def Launch.speaker : String := "staticgate"

/-- The settings of a launch: the command line over the settings file. -/
def Launch.settings (l : Launch) (t : FileTree) (base : Place) : Except LaunchError Settings :=
  match CommandLine.parse l.arguments l.disableListing with
  | .error fault => .error (.usage fault)
  | .ok line =>
    match line.config.elim (.ok Settings.default) (Settings.load t base) with
    | .error e => .error (.settings e)
    | .ok s => .ok (line.apply s)

/-- The name of a signal that ends the gateway. -/
inductive StopSignal
  | interrupt
  | terminate
deriving DecidableEq, Repr

def StopSignal.name : StopSignal → String
  | interrupt => "SIGINT"
  | terminate => "SIGTERM"

namespace LogRecord

def invalidConfiguration (e : ConfigError) : LogRecord :=
  ⟨.error, Launch.speaker, "Invalid configuration".toList, [("error", .shown e.message)]⟩

def configurationLoaded (d : Dispatch) : LogRecord :=
  ⟨.info, Launch.speaker, "Configuration loaded".toList,
    [("directory", .shown (Utf8.decodeLossy d.directory)),
      ("proxy_routes", .number d.routes.routes.length), ("markdown", .flag d.markdown),
      ("browse", .flag d.browse)]⟩

def serverFailed (e : ServerError) : LogRecord :=
  ⟨.error, Launch.speaker, "Server failed".toList, [("error", .shown e.message)]⟩

def receivedSignal (s : StopSignal) : LogRecord :=
  ⟨.info, "staticgate::lifecycle::signals", "received signal".toList,
    [("signal", .quoted s.name.toList)]⟩

end LogRecord

/-- What becomes of a process. -/
structure ProcessRun where
  exitCode : Nat
  /-- Whether the server gets to serve, and so waits for a signal. -/
  serves : Bool
  format : LogFormat
  /-- The records up to the moment when the server waits for a signal, or fails. -/
  starting : List LogRecord
  /-- The records from the signal on. -/
  stopping : List LogRecord
  complaint : Text
deriving DecidableEq, Repr

namespace ProcessRun

def records (r : ProcessRun) : List LogRecord := r.starting ++ r.stopping

def filtered (r : ProcessRun) (f : LogFilter) : ProcessRun :=
  { r with starting := r.starting.filter f.shows, stopping := r.stopping.filter f.shows }

end ProcessRun

namespace Launch

def runSettings (s : Settings) (t : FileTree) (base : Place)
    (bind : Text → Nat → Except Text Nat) (signal : StopSignal) : ProcessRun :=
  match s.resolve t base with
  | .error e => ⟨1, false, s.logFormat, [.invalidConfiguration e], [], []⟩
  | .ok c =>
    let loaded := [LogRecord.configurationLoaded c.dispatch, c.pipelineRecord]
    match c.prepare t base bind with
    | .error e => ⟨1, false, s.logFormat, loaded ++ [.serverFailed e], [], []⟩
    | .ok port =>
      ⟨0, true, s.logFormat, loaded ++ [c.startRecord port],
        .receivedSignal signal :: ServerConfiguration.stopRecords, []⟩

def run (l : Launch) (t : FileTree) (base : Place) (bind : Text → Nat → Except Text Nat)
    (signal : StopSignal) : ProcessRun :=
  match l.settings t base with
  | .error e => ⟨e.exitCode, false, .console, [], [], e.complaint⟩
  | .ok s => (runSettings s t base bind signal).filtered (LogFilter.ofEnvironment l.filter)

end Launch

end SiteGateway
