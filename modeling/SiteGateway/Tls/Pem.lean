import SiteGateway.Text.Base64
import SiteGateway.Text.Quoted
import SiteGateway.Text.Utf8

/-!
# Sections of encoded keys and certificates

A file holds sections in Base64 between a line that begins one and a line that ends it; what stands
outside sections is of no concern, and neither are sections with an unknown label.
-/

namespace SiteGateway

/-- What is in a section. -/
inductive PemKind
  | certificate
  | publicKey
  | rsaPrivateKey
  | privateKey
  | ecPrivateKey
  | revocationList
  | certificateRequest
deriving DecidableEq, Repr

def PemKind.isPrivateKey : PemKind → Bool
  | rsaPrivateKey | privateKey | ecPrivateKey => true
  | _ => false

/-- The labels and what they stand for. -/
def PemKind.labels : List (Bytes × PemKind) :=
  [("CERTIFICATE", certificate), ("PUBLIC KEY", publicKey), ("RSA PRIVATE KEY", rsaPrivateKey),
    ("PRIVATE KEY", privateKey), ("EC PRIVATE KEY", ecPrivateKey), ("X509 CRL", revocationList),
    ("CERTIFICATE REQUEST", certificateRequest)].map fun (label, kind) =>
    (Utf8.encode label.toList, kind)

structure PemSection where
  kind : PemKind
  content : Bytes
deriving DecidableEq, Repr

/-- Why a file cannot be read. -/
inductive PemError
  /-- A line begins a section and has no label. -/
  | illegalStart (line : Bytes)
  /-- The file ends within a section. -/
  | missingEnd (label : Bytes)
  | content (error : Base64Error)
deriving DecidableEq, Repr

def PemError.message : PemError → Text
  | illegalStart line => "illegal section start: ".toList ++ (Utf8.decodeLossy line).quoted
  | missingEnd label =>
    "section end ".toList ++ (Utf8.decodeLossy label).quoted ++ " missing".toList
  | content error => error.text

namespace Pem

def dashes : Bytes := List.replicate 5 0x2D
def beginMark : Bytes := dashes ++ Utf8.encode "BEGIN ".toList
def endMark (label : Bytes) : Bytes := dashes ++ Utf8.encode "END ".toList ++ label ++ dashes

def isLineEnd (b : UInt8) : Bool := b == 10 || b == 13

/-- The lines of a file, each with the line feed or carriage return that ends it. -/
def lines : Bytes → List Bytes
  | [] => []
  | b :: bs =>
    match isLineEnd b, lines bs with
    | true, ls => [b] :: ls
    | false, [] => [[b]]
    | false, l :: ls => (b :: l) :: ls

/-- The label on a line that begins a section: what stands before exactly five dashes. Blanks and
line ends among the dashes are passed over. -/
def label? (line : Bytes) : Option Bytes :=
  let isTrailing (b : UInt8) := b == 0x2D || isLineEnd b || b == 0x20
  let trailer := (line.reverse.takeWhile isTrailing).reverse.dropWhile (· != 0x2D)
  if trailer.count 0x2D = 5 then
    some ((line.take (line.length - trailer.length)).drop beginMark.length)
  else none

/-- A section that has begun. -/
structure Begun where
  label : Bytes
  /-- The lines so far, the latest first. -/
  body : List Bytes
deriving DecidableEq, Repr

/-- The section that a line ends, unless its label is unknown. -/
def ended (s : Begun) : Except PemError (List PemSection) :=
  match PemKind.labels.lookup s.label with
  | none => .ok []
  | some kind =>
    match Base64.decode s.body.reverse.flatten with
    | .ok content => .ok [⟨kind, content⟩]
    | .error e => .error (.content e)

/-- The sections of some lines, each when it ends, and the error that is met after them, if any. A
section that begins within another goes on with the lines of that one. -/
def read : Option Begun → List Bytes → List PemSection × Option PemError
  | none, [] => ([], none)
  | some s, [] => ([], some (.missingEnd s.label))
  | begun, line :: rest =>
    if beginMark.isPrefixOf line then
      match label? line with
      | none => ([], some (.illegalStart line))
      | some label => read (some ⟨label, (begun.map (·.body)).getD []⟩) rest
    else
      match begun with
      | none => read none rest
      | some s =>
        if (endMark s.label).isPrefixOf line then
          match ended s with
          | .error e => ([], some e)
          | .ok found => ((read none rest).map (found ++ ·) id)
        else read (some { s with body := line :: s.body }) rest

/-- All sections of a file, and the error behind them. -/
def sections (file : Bytes) : List PemSection × Option PemError := read none (lines file)

def certificates (file : Bytes) : Except PemError (List Bytes) :=
  match sections file with
  | (_, some e) => .error e
  | (found, none) => .ok ((found.filter (·.kind == .certificate)).map (·.content))

/-- The first private key of a file; what comes after it is not looked at. -/
def privateKey? (file : Bytes) : Except PemError (Option PemSection) :=
  match sections file with
  | (found, e?) =>
    match found.find? (·.kind.isPrivateKey), e? with
    | some key, _ => .ok (some key)
    | none, some e => .error e
    | none, none => .ok none

end Pem

end SiteGateway
