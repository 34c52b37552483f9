set_option autoImplicit false

/-! # Files of a TLS identity -/

namespace LogEgress.Tls

/-- Where the certificates and the key of one side are. -/
structure Files where
  ca : Option String
  cert : Option String
  key : Option String
  deriving DecidableEq, Repr

/-- Whether there is an identity to show: a certificate and its key. -/
def Files.hasIdentity (f : Files) : Bool := f.cert.isSome && f.key.isSome

end LogEgress.Tls
