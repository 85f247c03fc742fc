import SiteGateway.Settings.Basic

/-!
# The command line

Options have a long name and some a short one; a value follows as the next argument, after `=`, or
directly after a short name. One argument without a hyphen is the port or the initial file. What is
given on the command line replaces what the settings file says.
-/

namespace SiteGateway

/-- Why the arguments are not understood, or that help is asked for. -/
inductive UsageFault
  | unknownArgument
  | invalidValue
  | valueValidation
  | argumentConflict
  | tooManyValues
  | displayHelp
deriving DecidableEq, Repr

/-- Values from the command line. Its arguments are texts; a path that is none cannot be given. -/
structure CommandLine where
  target : Option Text
  config : Option Text
  bind : Option Text
  port : Option Nat
  directory : Option Text
  protocol : Option Text
  tlsCert : Option Text
  tlsKey : Option Text
  noMarkdown : Bool
  browse : Bool
  disableListing : Bool
  logFormat : Option LogFormat
  proxy : List Text
  proxyBackend : Option Text
  proxyPath : Option Text
deriving DecidableEq, Repr

namespace CommandLine

def empty : CommandLine :=
  ⟨none, none, none, none, none, none, none, none, false, false, false, none, [], none, none⟩

/-- The options. -/
inductive Opt
  | config | bind | port | directory | protocol | tlsCert | tlsKey | noMarkdown | browse
  | disableListing | loggingType | proxy | proxyBackend | proxyPath | help
deriving DecidableEq, Repr

def Opt.ofLong? (name : Text) : Option Opt :=
  match String.ofList name with
  | "config" => some .config
  | "bind" => some .bind
  | "port" => some .port
  | "directory" => some .directory
  | "protocol" => some .protocol
  | "tls-cert" => some .tlsCert
  | "tls-key" => some .tlsKey
  | "no-md" => some .noMarkdown
  | "browse" => some .browse
  | "disable-dir-index" => some .disableListing
  | "logging-type" => some .loggingType
  | "proxy" => some .proxy
  | "proxy-backend" => some .proxyBackend
  | "proxy-path" => some .proxyPath
  | "help" => some .help
  | _ => none

def Opt.ofShort? : Char → Option Opt
  | 'c' => some .config
  | 'p' => some .port
  | 'd' => some .directory
  | 'h' => some .help
  | _ => none

def Opt.takesValue : Opt → Bool
  | .noMarkdown | .browse | .disableListing | .help => false
  | _ => true

/-- A port: an integer of 64 bits below 65536. -/
def port? (t : Text) : Option Nat :=
  let (negative, digits) := Toml.signed t
  (Text.nat? digits).bind fun n => if n < 65536 ∧ (!negative ∨ n = 0) then some n else none

/-- A path has at least one character. -/
def path (t : Text) : Except UsageFault Text := if t.isEmpty then .error .invalidValue else .ok t

/-- Sets a value that may be given once. -/
def once (seen : Option α) (value : Except UsageFault α) : Except UsageFault (Option α) :=
  if seen.isSome then .error .argumentConflict else value.map some

def setValue (c : CommandLine) (o : Opt) (v : Text) : Except UsageFault CommandLine :=
  match o with
  | .config => (once c.config (path v)).map fun x => { c with config := x }
  | .bind => (once c.bind (.ok v)).map fun x => { c with bind := x }
  | .port =>
    let value := match port? v with
      | some n => .ok n
      | none => .error .valueValidation
    (once c.port value).map fun x => { c with port := x }
  | .directory => (once c.directory (path v)).map fun x => { c with directory := x }
  | .protocol => (once c.protocol (.ok v)).map fun x => { c with protocol := x }
  | .tlsCert => (once c.tlsCert (path v)).map fun x => { c with tlsCert := x }
  | .tlsKey => (once c.tlsKey (path v)).map fun x => { c with tlsKey := x }
  | .loggingType =>
    let value := match Settings.formatNamed? v with
      | some f => .ok f
      | none => .error .invalidValue
    (once c.logFormat value).map fun x => { c with logFormat := x }
  | .proxy => .ok { c with proxy := c.proxy ++ [v] }
  | .proxyBackend => (once c.proxyBackend (.ok v)).map fun x => { c with proxyBackend := x }
  | .proxyPath => (once c.proxyPath (.ok v)).map fun x => { c with proxyPath := x }
  | _ => .ok c

def setFlag (c : CommandLine) (o : Opt) : Except UsageFault CommandLine :=
  match o with
  | .noMarkdown =>
    if c.noMarkdown then .error .argumentConflict else .ok { c with noMarkdown := true }
  | .browse => if c.browse then .error .argumentConflict else .ok { c with browse := true }
  | .disableListing =>
    if c.disableListing then .error .argumentConflict else .ok { c with disableListing := true }
  | .help => .error .displayHelp
  | _ => .ok c

/-- An option or the positional argument whose value is complete or still to come, not yet
checked. -/
inductive Pending
  | none
  | awaiting (o : Opt)
  | option (o : Opt) (value : Text)
  | positional (value : Text)

/-- Checks and stores what is pending. -/
def settle (c : CommandLine) : Pending → Except UsageFault CommandLine
  | .none => .ok c
  | .awaiting _ => .error .invalidValue
  | .option o v => setValue c o v
  | .positional v => .ok { c with target := some v }

/-- What one argument is. -/
inductive Argument
  | escape
  | long (name : Text) (value : Option Text)
  | short (name : Char) (rest : Text)
  | plain (text : Text)

def Argument.ofText (t : Text) : Argument :=
  match t with
  | ['-', '-'] => .escape
  | '-' :: '-' :: r =>
    match Text.cut? '=' r with
    | some (name, value) => .long name (some value)
    | none => .long r none
  | '-' :: c :: r => .short c r
  | r => .plain r

/-- Reads a group of short names; a name that takes a value takes what follows it. -/
def readShort (c : CommandLine) (p : Pending) (name : Char) (rest : Text) :
    Except UsageFault (CommandLine × Pending) :=
  match Opt.ofShort? name with
  | none => .error .unknownArgument
  | some o => do
    let c ← settle c p
    if o.takesValue then
      match rest with
      | [] => return (c, .awaiting o)
      | '=' :: v => return (← setValue c o v, .none)
      | v => return (← setValue c o v, .none)
    else return (← setFlag c o, .none)

/-- Reads the arguments one after another; after `--` all are positional. -/
def read (c : CommandLine) (p : Pending) (positionals : Nat) (escaped : Bool) :
    List Text → Except UsageFault CommandLine
  | [] => settle c p
  | t :: ts =>
    let plain (v : Text) : Except UsageFault CommandLine :=
      -- Behind `--` an option that waits for its value gets none.
      match p, escaped with
      | .awaiting o, false => read c (.option o v) positionals escaped ts
      | _, _ =>
        if positionals = 0 then do read (← settle c p) (.positional v) 1 escaped ts
        else .error .unknownArgument
    if escaped then plain t
    else
      match Argument.ofText t with
      | .escape => read c p positionals true ts
      | .long name value =>
        match Opt.ofLong? name, value with
        | none, _ => .error .unknownArgument
        | some o, some v =>
          if o.takesValue then do
            let c ← settle c p
            read (← setValue c o v) .none positionals escaped ts
          else .error .tooManyValues
        | some o, none => do
          let c ← settle c p
          if o.takesValue then read c (.awaiting o) positionals escaped ts
          else read (← setFlag c o) .none positionals escaped ts
      | .short name rest => do
        let (c, p) ← readShort c p name rest
        read c p positionals escaped ts
      | .plain v => plain v

/-- Reads the arguments. The variable `environment` stands in for the flag that disables listings
when that is not given; it is `true` or `false`. -/
def parse (args : List Text) (environment : Option Text) : Except UsageFault CommandLine := do
  let c ← read empty .none 0 false args
  match environment with
  | none => return c
  | some v =>
    if c.disableListing then return c
    else if v = "true".toList then return { c with disableListing := true }
    else if v = "false".toList then return c
    else throw .invalidValue

/-- What the positional argument means: a port other than zero, or an initial file; a blank one
means nothing. -/
def applyTarget (s : Settings) (target : Text) : Settings :=
  let t := Text.trim target
  match Text.boundedNat? 65536 t with
  | some (n + 1) => { s with port := n + 1 }
  | _ => if t.isEmpty then s else { s with initialFile := some t }

/-- Settings with those of the command line on top. -/
def apply (c : CommandLine) (s : Settings) : Settings :=
  let s := { s with
    bindAddress := c.bind.getD s.bindAddress
    port := c.port.getD s.port
    directory := c.directory.getD s.directory
    protocol := c.protocol.getD s.protocol
    tlsCert := c.tlsCert.or s.tlsCert
    tlsKey := c.tlsKey.or s.tlsKey
    markdown := s.markdown && !c.noMarkdown
    browse := s.browse || c.browse
    disableListing := s.disableListing || c.disableListing
    logFormat := c.logFormat.getD s.logFormat
    proxy := if c.proxy.isEmpty then s.proxy else c.proxy
    proxyBackend := c.proxyBackend.getD s.proxyBackend
    proxyPath := c.proxyPath.getD s.proxyPath }
  match c.target with
  | some t => applyTarget s t
  | none => s

end CommandLine

end SiteGateway
