import SiteGateway.Files.Tree
import SiteGateway.Server.Configuration
import SiteGateway.Tls.Der
import SiteGateway.Tls.Pem

/-!
# Certificates and keys

The certificate chain is read before the key, and the first failure is reported: a file that cannot
be read, a file without what is looked for, and at last a chain and a key that are none.
-/

namespace SiteGateway

inductive TlsError
  | io (path cause : Text)
  | noCertificates (path : Text)
  | noPrivateKey (path : Text)
  /-- The chain or the key is not what its label says. -/
  | malformed
deriving DecidableEq, Repr

/-- The message; of malformed material it tells only the kind. -/
def TlsError.message : TlsError → Text
  | io path cause => "failed to read ".toList ++ path ++ ": ".toList ++ cause
  | noCertificates path => "no certificates found in ".toList ++ path
  | noPrivateKey path => "no private key found in ".toList ++ path
  | malformed => "invalid TLS configuration: ".toList

/-- Where a server has its chain and its key from. -/
inductive TlsMaterial
  | files (paths : TlsPaths)
  /-- Read before. -/
  | preloaded
deriving DecidableEq, Repr

/-- How material is shown: keys never are. -/
def TlsMaterial.text : TlsMaterial → Text
  | files paths =>
    "Pem \x7b cert_path: ".toList ++ paths.cert.quoted ++ ", key_path: ".toList ++
      paths.key.quoted ++ " \x7d".toList
  | preloaded => "Preloaded".toList

/-- A chain with its key. -/
structure TlsIdentity where
  chain : List Bytes
  key : PemSection
deriving DecidableEq, Repr

namespace TlsIdentity

/-- The protocols offered to clients, the preferred one first. -/
def applicationProtocols : List String := ["h2", "http/1.1"]

/-- A certificate is what is signed, how it is signed, and the signature. -/
def isCertificate (bs : Bytes) : Bool :=
  match Der.sequence? bs with
  | some members => members.map (·.tag) = [Der.sequence, Der.sequence, Der.bitString]
  | none => false

/-- A key begins with a version; then come its kind and content, its content alone, or numbers. -/
def isKey (k : PemSection) : Bool :=
  match Der.sequence? k.content with
  | none => false
  | some members =>
    match k.kind with
    | .privateKey => Der.beginsWith [Der.integer, Der.sequence, Der.octetString] members
    | .ecPrivateKey => Der.beginsWith [Der.integer, Der.octetString] members
    | .rsaPrivateKey => members.map (·.tag) = List.replicate 9 Der.integer
    | _ => false

def readFile (t : FileTree) (base : Place) (path : Text) : Except TlsError Bytes :=
  match t.read base (Utf8.encode path) with
  | .ok (content, _) => .ok content
  | .error fault => .error (.io path fault.message.toList)

def loadChain (t : FileTree) (base : Place) (path : Text) : Except TlsError (List Bytes) := do
  match Pem.certificates (← readFile t base path) with
  | .error e => .error (.io path e.message)
  | .ok [] => .error (.noCertificates path)
  | .ok chain => .ok chain

def loadKey (t : FileTree) (base : Place) (path : Text) : Except TlsError PemSection := do
  match Pem.privateKey? (← readFile t base path) with
  | .error e => .error (.io path e.message)
  | .ok none => .error (.noPrivateKey path)
  | .ok (some key) => .ok key

def load (t : FileTree) (base : Place) (paths : TlsPaths) : Except TlsError TlsIdentity := do
  let chain ← loadChain t base paths.cert
  let key ← loadKey t base paths.key
  if isKey key ∧ chain.head?.any isCertificate then return ⟨chain, key⟩ else .error .malformed

end TlsIdentity

end SiteGateway
