import SiteGateway.Server.Admission
import SiteGateway.Server.Shutdown
import SiteGateway.Tls.Material

/-!
# Serving until told to stop

A server listens to the shutdown signal from the start. It reads its certificate, binds its address,
says where it serves, and stops when the signal comes.
-/

namespace SiteGateway

inductive ServerError
  | tls (error : TlsError)
  | listen (error : ListenError)
deriving DecidableEq, Repr

def ServerError.message : ServerError → Text
  | tls error => "tls: ".toList ++ error.message
  | listen error => error.message

/-- What serving comes to. -/
structure ServeRun where
  records : List LogRecord
  result : Except ServerError Unit
  /-- How many receivers the shutdown signal had while requests were served. -/
  listening : Nat

namespace ServerConfiguration

/-- The part of the gateway that speaks of the server. -/
def speaker : String := "staticgate::http::server"

/-- The names of the stages as a list in brackets. -/
def stageList (c : ServerConfiguration) : Text :=
  '[' :: Text.join ", ".toList (c.dispatch.stages.map fun s => Text.quoted s.name.toList) ++ [']']

def pipelineRecord (c : ServerConfiguration) : LogRecord :=
  ⟨.debug, speaker, "Dispatch pipeline built".toList, [("stages", .shown c.stageList)]⟩

/-- Where the server serves, once its port is bound. -/
def startRecord (c : ServerConfiguration) (port : Nat) : LogRecord :=
  match c.logFormat with
  | .console =>
    ⟨.info, speaker,
      "Serving ".toList ++ Text.upper c.scheme ++ " on ".toList ++ c.listenHost ++
        " port ".toList ++ Text.ofNat port ++ " (".toList ++ c.displayUrl port ++
        ") ...".toList, []⟩
  | .json =>
    ⟨.info, speaker, "serving ".toList ++ c.scheme,
      [("directory", .shown (Utf8.decodeLossy c.dispatch.directory)),
        ("protocol", .shown c.protocol.text.toList), ("url", .shown (c.displayUrl port))]⟩

def stopRecords : List LogRecord :=
  ["shutdown initiated", "shutdown completed"].map fun m => ⟨.info, speaker, m.toList, []⟩

/-- The address that is bound, as failures report it. -/
def listenAddress (c : ServerConfiguration) : Text := c.listenHost ++ ':' :: Text.ofNat c.port

/-- Gets everything ready: the certificate, and then the port; `bind` says which port was bound or
why none was. -/
def prepare (c : ServerConfiguration) (t : FileTree) (base : Place)
    (bind : Text → Nat → Except Text Nat) : Except ServerError Nat := do
  if let some paths := c.tls then
    discard <| (TlsIdentity.load t base paths).mapError .tls
  (bind c.listenHost c.port).mapError fun cause => .listen (.bind c.listenAddress cause)

def serve (c : ServerConfiguration) (t : FileTree) (base : Place)
    (bind : Text → Nat → Except Text Nat) : ServeRun :=
  let signals := ShutdownState.initial.subscribe 0
  match c.prepare t base bind with
  | .error e => ⟨[c.pipelineRecord], .error e, (signals.drop 0).receiverCount 0⟩
  | .ok port =>
    ⟨c.pipelineRecord :: c.startRecord port :: stopRecords, .ok (), signals.receiverCount 0⟩

end ServerConfiguration

end SiteGateway
