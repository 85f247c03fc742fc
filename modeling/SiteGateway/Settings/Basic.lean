import SiteGateway.Access.Record
import SiteGateway.Settings.Error
import SiteGateway.Toml.Document

/-!
# Settings

What the settings file and the command line say, before anything is checked against the files. Every
setting has a default, so an empty file is a valid one.
-/

namespace SiteGateway

/-- The settings. Paths are texts here, as a settings file has them; an operating system takes
others as well. -/
structure Settings where
  bindAddress : Text
  port : Nat
  directory : Text
  protocol : Text
  tlsCert : Option Text
  tlsKey : Option Text
  markdown : Bool
  browse : Bool
  disableListing : Bool
  logFormat : LogFormat
  initialFile : Option Text
  proxy : List Text
  proxyPath : Text
  proxyBackend : Text
  maxConnections : Nat
deriving DecidableEq, Repr

namespace Settings

def default : Settings where
  bindAddress := []
  port := 8000
  directory := ['.']
  protocol := "HTTP/1.1".toList
  tlsCert := none
  tlsKey := none
  markdown := true
  browse := false
  disableListing := false
  logFormat := .console
  initialFile := none
  proxy := []
  proxyPath := []
  proxyBackend := []
  maxConnections := 1024

/-! ## Reading a value as a setting -/

open Toml (Value)

def text? : Value → Option Text
  | .string t => some t
  | _ => none

def flag? : Value → Option Bool
  | .boolean b => some b
  | _ => none

def number? (bound : Nat) : Value → Option Nat
  | .integer (.ofNat n) => if n < bound then some n else none
  | _ => none

def texts? : Value → Option (List Text)
  | .array vs => vs.mapM text?
  | .tables [] => some []
  | _ => none

/-- A value without content, which may stand after the name of a format. -/
def isVoid : Value → Bool
  | .table _ [] => true
  | .array [] => true
  | _ => false

def formatNamed? (t : Text) : Option LogFormat :=
  if t = "console".toList then some .console
  else if t = "json".toList then some .json
  else none

/-- A log format: its name, or a table with the name as its one key and nothing under it. -/
def format? : Value → Option LogFormat
  | .string t => formatNamed? t
  | .table _ [(k, v)] => if isVoid v then formatNamed? k else none
  | _ => none

/-- Changes the setting of a name to a value. Unknown names change nothing. -/
def set? (s : Settings) (name : Text) (v : Value) : Option Settings :=
  match String.ofList name with
  | "bind_address" => (text? v).map fun x => { s with bindAddress := x }
  | "port" => (number? 65536 v).map fun x => { s with port := x }
  | "directory" => (text? v).map fun x => { s with directory := x }
  | "protocol" => (text? v).map fun x => { s with protocol := x }
  | "tls_cert" => (text? v).map fun x => { s with tlsCert := some x }
  | "tls_key" => (text? v).map fun x => { s with tlsKey := some x }
  | "markdown" => (flag? v).map fun x => { s with markdown := x }
  | "browse" => (flag? v).map fun x => { s with browse := x }
  | "disable_directory_listing" => (flag? v).map fun x => { s with disableListing := x }
  | "logging_type" => (format? v).map fun x => { s with logFormat := x }
  | "initial_file" => (text? v).map fun x => { s with initialFile := some x }
  | "proxy" => (texts? v).map fun x => { s with proxy := x }
  | "proxy_path" => (text? v).map fun x => { s with proxyPath := x }
  | "proxy_backend" => (text? v).map fun x => { s with proxyBackend := x }
  | "max_connections" => (number? 0x8000000000000000 v).map fun x => { s with maxConnections := x }
  | _ => some s

/-- The names of the settings in the order in which a list gives them. -/
def names : List Text :=
  ["bind_address", "port", "directory", "protocol", "tls_cert", "tls_key", "markdown", "browse",
    "disable_directory_listing", "logging_type", "initial_file", "proxy", "proxy_path",
    "proxy_backend", "max_connections"].map String.toList

/-- The settings of a table by name, or of a list by position. -/
def ofValue? : Value → Option Settings
  | .table _ entries => entries.foldlM (fun s (k, v) => s.set? k v) default
  | .array vs => (names.zip vs).foldlM (fun s (k, v) => s.set? k v) default
  | .tables ts =>
    (names.zip (ts.map (Value.table .opened))).foldlM (fun s (k, v) => s.set? k v) default
  | _ => none

/-- The settings of a document, under the key `serve`. -/
def ofDocument? (entries : Toml.Entries) : Option Settings :=
  match Toml.Entries.get? entries "serve".toList with
  | none => some default
  | some v => ofValue? v

def load (t : FileTree) (base : Place) (path : Text) : Except ConfigError Settings :=
  match t.readText base (Utf8.encode path) with
  | .error fault => .error (.io path fault)
  | .ok text =>
    match (Toml.parse? text).bind ofDocument? with
    | some s => .ok s
    | none => .error (.parse path)

end Settings

end SiteGateway
