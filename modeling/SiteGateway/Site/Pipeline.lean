import SiteGateway.Proxy.Forward
import SiteGateway.Proxy.Tunnel
import SiteGateway.Route.Table
import SiteGateway.Site.Document
import SiteGateway.Site.InitialFile

/-!
# The pipeline

A request runs through a list of stages that the configuration calls for. Each stage answers it or
passes it on, perhaps with another target; what no stage answers is served as a static file.
-/

namespace SiteGateway

/-- What decides how requests are answered. -/
structure Dispatch where
  directory : Bytes
  markdown : Bool
  browse : Bool
  disableListing : Bool
  initialFile : Option Text
  routes : RouteTable
deriving DecidableEq, Repr

inductive Stage
  | initialFile (target : Text)
  | browse
  | markdown (disableListing directoryDocuments : Bool)
  | directoryGuard
  | proxy (routes : RouteTable)
deriving DecidableEq, Repr

def Stage.name : Stage → String
  | initialFile _ => "initial-file"
  | browse => "browse"
  | markdown .. => "markdown"
  | directoryGuard => "directory-guard"
  | proxy _ => "proxy"

def Dispatch.stages (d : Dispatch) : List Stage :=
  (if d.browse then [.browse]
    else match d.initialFile with
      | some file => [.initialFile (InitialFile.target file)]
      | none => []) ++
  (if d.markdown then [.markdown d.disableListing !d.browse]
    else if d.disableListing && !d.browse then [.directoryGuard] else []) ++
  (if d.routes.isEmpty then [] else [.proxy d.routes])

/-- An answer and the states of the tunnel it came from, if any. -/
structure Answer where
  response : Response
  states : List TunnelState
deriving DecidableEq, Repr

inductive Outcome
  | handled (answer : Answer)
  | passed (request : Request)
deriving DecidableEq, Repr

/-- What the stages work with. -/
structure World where
  site : Site
  network : Network
  /-- Whether a client's connection can be taken over. -/
  takeover : Bool

namespace Outcome

def answer (r : Response) : Outcome := .handled ⟨r, []⟩

/-- The answer if there is one, else the request goes on. -/
def orPass (request : Request) : Option Response → Outcome
  | some r => answer r
  | none => .passed request

end Outcome

namespace Stage

def listingDisabled : Response := .plain 403 "Directory listing disabled".toList

/-- Browsing serves every file but Markdown as it is and lists every directory. -/
def runBrowse (s : Site) (r : Request) : Outcome :=
  if r.path.isEmpty then .passed r
  else
    match s.resolve? r.path with
    | none => .passed r
    | some path =>
      if Site.asksDirectory r.path then
        if s.isDirectory path then .orPass r (s.list path r.path).toOption else .passed r
      else if s.isFile path && !isMarkdownPath path then .answer (StaticFile.serve s path r)
      else .passed r

def runMarkdown (s : Site) (disableListing directoryDocuments : Bool) (r : Request) : Outcome :=
  match s.resolve? r.path with
  | none => .passed r
  | some path =>
    if s.isDirectory path then
      if !Site.asksDirectory r.path || !directoryDocuments || s.hasIndex path then .passed r
      else
        match s.directoryDocument? path with
        | some n => .orPass r (s.document? r.headers (Site.child path n))
        | none => if disableListing then .answer listingDisabled else .passed r
    else if s.isFile path && !Site.asksDirectory r.path && isMarkdownPath path then
      .orPass r (s.document? r.headers path)
    else .passed r

/-- Sends the requests that a route covers to its backend. -/
def runProxy (w : World) (routes : RouteTable) (r : Request) : Outcome :=
  match routes.find? (Utf8.decodeLossy r.target.decodedPath) with
  | none => .passed r
  | some route =>
    if r.headers.asksForWebSocket then
      let run := Tunnel.run w.network route w.takeover r
      .handled ⟨run.response, run.states⟩
    else .answer (Forward.respond w.network route r)

def run (w : World) (stage : Stage) (r : Request) : Outcome :=
  match stage with
  | .initialFile target => .passed { r with target := InitialFile.retarget target r.target }
  | .browse => runBrowse w.site r
  | .markdown disableListing directoryDocuments =>
    runMarkdown w.site disableListing directoryDocuments r
  | .directoryGuard =>
    if Site.asksDirectory r.path then .answer listingDisabled else .passed r
  | .proxy routes => runProxy w routes r

end Stage

namespace Pipeline

def run (w : World) : List Stage → Request → Answer
  | [], r => ⟨w.site.serveStatic r, []⟩
  | stage :: stages, r =>
    match stage.run w r with
    | .handled answer => answer
    | .passed r => run w stages r

end Pipeline

def Dispatch.answer (d : Dispatch) (w : World) (r : Request) : Answer := Pipeline.run w d.stages r

end SiteGateway
