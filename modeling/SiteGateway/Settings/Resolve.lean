import SiteGateway.Files.Name
import SiteGateway.Server.Configuration
import SiteGateway.Settings.Basic
import SiteGateway.Site.Root

/-!
# Resolving settings

The settings are checked against the files, in a fixed order in which the first failure wins:
initial file, directory, protocol, port, number of connections, certificate, routes.
-/

namespace SiteGateway

namespace Settings

/-- A path made absolute without looking at any file: `.` and doubled slashes vanish, `..` stays. -/
def absolutePath (base : Place) (path : Text) : Bytes :=
  let names := (Text.split '/' path).filter fun n => n ≠ [] ∧ n ≠ ['.']
  -- Two slashes in front are kept apart from one; three or more are not.
  let start := match path with
    | '/' :: '/' :: '/' :: _ => [0x2F]
    | '/' :: '/' :: _ => [0x2F, 0x2F]
    | '/' :: _ => [0x2F]
    | _ => FileTree.pathOf base
  let whole := SiteRoot.joinAll start (names.map Utf8.encode)
  if path.getLast? = some '/' ∧ whole.getLast? ≠ some 0x2F then whole ++ [0x2F] else whole

/-- The directory part of an absolute path and its last name. -/
def cutLast (path : Bytes) : Bytes × FileName :=
  let back := path.reverse
  let name := back.takeWhile (· ≠ 0x2F)
  let rest := (back.drop name.length).dropWhile (· = 0x2F)
  (if rest.isEmpty then [0x2F] else rest.reverse, name.reverse)

def initialExtensions : List Text := ["html", "htm", "md"].map String.toList

/-- Splits an initial file into its directory and its name. -/
def resolveInitialFile (t : FileTree) (base : Place) (file : Text) :
    Except ConfigError (Bytes × Text) :=
  let path := absolutePath base file
  match t.kind base path with
  | .error fault => .error (.io (Utf8.decodeLossy path) fault)
  | .ok .directory =>
    .error (.invalid ("initial file is a directory: ".toList ++ Utf8.decodeLossy path))
  | .ok _ =>
    let extension := ((FileName.ofPath? path).bind FileName.extension?).getD []
    let shown := Text.lower (Utf8.decodeLossy extension)
    if initialExtensions.contains shown then
      let (directory, name) := cutLast path
      .ok (directory, Utf8.decodeLossy name)
    else .error (.invalid ("unsupported initial file extension .".toList ++ shown))

def resolveDirectory (t : FileTree) (base : Place) (path : Bytes) : Except ConfigError Bytes :=
  match t.locate base path with
  | .error fault => .error (.io (Utf8.decodeLossy path) fault)
  | .ok place =>
    let canonical := FileTree.pathOf place
    if t.entry? place = some .directory then .ok canonical
    else .error (.invalid ("path is not a directory: ".toList ++ Utf8.decodeLossy canonical))

/-- Certificate and key are given together and exist. -/
def resolveTls (t : FileTree) (base : Place) (cert key : Option Text) :
    Except ConfigError (Option TlsPaths) :=
  match cert, key with
  | none, none => .ok none
  | some cert, some key => do
    for path in [cert, key] do
      match t.kind base (Utf8.encode path) with
      | .error fault => throw (.io path fault)
      | .ok _ => pure ()
    return some ⟨cert, key⟩
  | _, _ => .error (.invalid "tls certificate and key must be provided together".toList)

/-- The routes of the mappings, or of the single pair of prefix and backend. -/
def resolveRoutes (mappings : List Text) (pathPrefix backend : Text) :
    Except ConfigError RouteTable :=
  let mappings := RouteTable.mappings mappings
  let pathPrefix := Text.trim pathPrefix
  let backend := Text.trim backend
  if !mappings.isEmpty then
    if !pathPrefix.isEmpty || !backend.isEmpty then
      .error (.invalid "proxy mappings cannot be combined with proxy-path/proxy-backend".toList)
    else (RouteTable.build mappings).mapError .route
  else if pathPrefix.isEmpty != backend.isEmpty then
    .error (.invalid "both proxy-backend and proxy-path must be set".toList)
  else (RouteTable.ofPair pathPrefix backend).mapError .route

/-- The initial file, if one is set and not blank. -/
def givenInitialFile (s : Settings) : Option Text :=
  (s.initialFile.map Text.trim).filter (!·.isEmpty)

/-- The path of the directory to serve and the name of the initial file, if there is one. -/
def resolveSource (t : FileTree) (base : Place) (s : Settings) :
    Except ConfigError (Bytes × Option Text) :=
  match s.givenInitialFile with
  | some file =>
    (resolveInitialFile t base file).map fun (directory, name) => (directory, some name)
  | none => .ok (Utf8.encode s.directory, none)

/-- Checks the settings and makes them the configuration of a server. -/
def resolve (t : FileTree) (base : Place) (s : Settings) :
    Except ConfigError ServerConfiguration := do
  let (directory, initialFile) ← resolveSource t base s
  let directory ← resolveDirectory t base directory
  let protocol ← (Protocol.parse s.protocol).mapError fun up =>
    ConfigError.invalid (Protocol.unknownMessage up)
  if s.port = 0 then throw (.invalid "invalid port 0".toList)
  if s.maxConnections = 0 then throw (.invalid "max_connections must be at least 1".toList)
  let tls ← resolveTls t base s.tlsCert s.tlsKey
  let routes ← resolveRoutes s.proxy s.proxyPath s.proxyBackend
  return { bindAddress := Text.trim s.bindAddress, port := s.port,
           maxConnections := s.maxConnections, logFormat := s.logFormat, protocol, tls,
           dispatch := { directory, markdown := s.markdown, browse := s.browse,
                         disableListing := s.disableListing && !s.browse, initialFile, routes } }

end Settings

end SiteGateway
