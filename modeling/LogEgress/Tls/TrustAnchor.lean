import LogEgress.Tls.Der

set_option autoImplicit false

/-! # Trust anchors

A certificate can serve as a trust anchor if it is well-formed: a certificate of version 3, or one
of version 1, which has no extensions. It is trusted already, so its signature, its purpose and
extensions that are not understood do not matter.
-/

namespace LogEgress.Tls.TrustAnchor

open Der

/-- The parts of a signed certificate: what is signed, and by which algorithm. -/
def readSigned? (cert : Octets) : Option (Octets × Octets) := do
  let o ← readOnly? .sequence cert
  let (signed, o) ← read? .sequence o
  let (algorithm, o) ← read? .sequence o
  match ← readOnly? .bitString o with
  | 0 :: _ => return (signed, algorithm)
  | _ => none

/-- Reads the body of a certificate from its serial number up to its public key: the algorithm
that it names, and what follows. -/
def readBody? (o : Octets) : Option (Octets × Octets) := do
  -- The serial number.
  let (_, o) ← read? .integer o
  let (algorithm, o) ← read? .sequence o
  -- The issuer, the validity, the subject, and the public key.
  let (_, o) ← read? .sequence o
  let (_, o) ← read? .sequence o
  let (_, o) ← read? .sequence o
  let (_, o) ← read? .sequence o
  return (algorithm, o)

/-! ## Extensions -/

/-- The common beginning of the identifiers of standard extensions. -/
def standardArc : Octets := [0x55, 0x1d]

/-- The last part of the identifier of the extension for the usage of the key. -/
def keyUsage : UInt8 := 15

/-- The extensions that are understood: key usage, alternative names, basic constraints, name
constraints, distribution points, extended key usage. -/
def understood : List UInt8 := [keyUsage, 17, 19, 30, 31, 37]

/-- The extension that is understood and has an identifier. -/
def understood? (id : Octets) : Option UInt8 :=
  match id with
  | [a, b, c] => if [a, b] = standardArc ∧ c ∈ understood then some c else none
  | _ => none

/-- Reads an extension after those seen before. One that is understood may come once; one that is
not is passed over, also if it is critical. -/
def readExtension? (seen : List UInt8) (extension : Octets) : Option (List UInt8) := do
  let (id, o) ← read? .objectId extension
  -- Whether it is critical.
  let (_, o) ← readSwitch? o
  let value ← readOnly? .octetString o
  match understood? id with
  | none => return seen
  | some e =>
    -- The usage of the key is not looked into.
    if e ∈ seen then none
    if e ≠ keyUsage then
      let _ ← readOnly? .sequence value
    return e :: seen

/-- Whether the extensions that follow the body of a certificate are well-formed. -/
def hasGoodExtensions (o : Octets) : Bool :=
  match o with
  | [] => true
  | o =>
    (do
      let o ← readOnly? .context3 o
      let o ← readOnly? .sequence o
      let es ← readAll? .sequence o.length o
      es.foldlM readExtension? []).isSome

/-- Whether a certificate can serve as a trust anchor. -/
def isUsable (cert : Octets) : Bool :=
  match readSigned? cert with
  | none => false
  | some (o, algorithm) => match read? .context0 o with
    | some (version, o) =>
      -- Versions are counted from zero.
      readOnly? .integer version = some [2] &&
        match readBody? o with
        | some (inner, rest) => inner = algorithm && hasGoodExtensions rest
        | none => false
    -- In version 1 the two algorithms are not compared.
    | none => (readBody? o).any fun (_, rest) => rest = []

end LogEgress.Tls.TrustAnchor
