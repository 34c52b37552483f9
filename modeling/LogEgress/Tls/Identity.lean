import LogEgress.Tls.Files
import LogEgress.Tls.Pem
import LogEgress.Tls.TrustAnchor

set_option autoImplicit false

/-! # Loading certificates and keys

What a program takes out of the files of its TLS identity.
-/

namespace LogEgress.Tls

/-- Why certificates or a key cannot be loaded. -/
inductive LoadError where
  /-- The file cannot be opened. -/
  | unreadable (path : String)
  /-- The file is not well-formed. -/
  | pem (fault : Pem.Fault)
  /-- The file holds no certificate. -/
  | noCertificates (path : String)
  /-- The file holds no private key. -/
  | noKey (path : String)
  /-- No certificate of the file can serve as a trust anchor. -/
  | noAnchors (path : String)
  /-- A server needs a certificate and its key. -/
  | noIdentity
  deriving DecidableEq, Repr

/-- The wording of an error that is not another component's. -/
def LoadError.message? : LoadError → Option String
  | .unreadable _ => none
  | .pem _ => none
  | .noCertificates path => some ("no certificates found in " ++ path)
  | .noKey path => some ("no private key found in " ++ path)
  | .noAnchors path => some ("no usable CA certificates in " ++ path)
  | .noIdentity => some "server TLS requires both a certificate and a key"

/-- The contents of the files that can be opened. -/
abbrev FileStore := String → Option Octets

/-- The content of a file. -/
def readFile (store : FileStore) (path : String) : Except LoadError Octets :=
  match store path with
  | some o => .ok o
  | none => .error (.unreadable path)

/-- The certificates of a file; there has to be one. -/
def loadCertificates (store : FileStore) (path : String) : Except LoadError (List Octets) := do
  match Pem.certificates (← readFile store path) with
  | .error f => throw (.pem f)
  | .ok [] => throw (.noCertificates path)
  | .ok cs => return cs

/-- The first private key of a file. -/
def loadKey (store : FileStore) (path : String) : Except LoadError Pem.Section := do
  match Pem.privateKey (← readFile store path) with
  | .error f => throw (.pem f)
  | .ok none => throw (.noKey path)
  | .ok (some k) => return k

/-- The certificates of a file that can serve as trust anchors; there has to be one. -/
def loadAnchors (store : FileStore) (path : String) : Except LoadError (List Octets) := do
  let cs ← loadCertificates store path
  match cs.filter TrustAnchor.isUsable with
  | [] => throw (.noAnchors path)
  | as => return as

/-- What a server shows to its clients, and whom it trusts. -/
structure ServerIdentity where
  certificates : List Octets
  key : Pem.Section
  anchors : Option (List Octets)

/-- Loads the identity of a server: the anchors first, then the certificates, then the key. -/
def loadServerIdentity (store : FileStore) (f : Files) : Except LoadError ServerIdentity := do
  match f.cert, f.key with
  | some cert, some key =>
    let anchors ← f.ca.mapM (loadAnchors store)
    let certificates ← loadCertificates store cert
    let key ← loadKey store key
    return ⟨certificates, key, anchors⟩
  | _, _ => throw .noIdentity

end LogEgress.Tls
