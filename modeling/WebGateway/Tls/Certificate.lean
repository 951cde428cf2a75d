import WebGateway.Tls.Der

/-!
# Certificates

The parts of a certificate are read as far as its form goes; of its content only the public key is
kept. Extensions that are critical have to be known, and none may occur twice. As the certificate of
an authority the first version of the format is accepted as well, which has no extensions.
-/

set_option autoImplicit false
set_option relaxedAutoImplicit false

namespace WebGateway.Tls

open Der (Octets)

inductive CertificateError where
  | badEncoding
  | badVersion
  | algorithmMismatch
  | unknownCriticalExtension
  | badExtension
deriving DecidableEq, Repr

def CertificateError.message : CertificateError → String
  | badEncoding => "invalid peer certificate: BadEncoding"
  | badVersion => "invalid peer certificate: Other(OtherError(UnsupportedCertVersion))"
  | algorithmMismatch => "invalid peer certificate: Other(OtherError(SignatureAlgorithmMismatch))"
  | unknownCriticalExtension =>
    "invalid peer certificate: Other(OtherError(UnsupportedCriticalExtension))"
  | badExtension => "invalid peer certificate: Other(OtherError(ExtensionValueInvalid))"

namespace Certificate

/-- An element has to be there. -/
def need {α : Type} : Option α → Except CertificateError α
  | some value => .ok value
  | none => .error .badEncoding

/-- The certified part, the signature algorithm, and the end of the outer sequence. -/
def signedParts (octets : Octets) : Except CertificateError (Octets × Octets) := do
  let outer ← need (Der.whole? Der.sequenceTag octets)
  let (certified, rest) ← need (Der.expect? Der.sequenceTag outer)
  let (algorithm, rest) ← need (Der.expect? Der.sequenceTag rest)
  let signature ← need (Der.whole? Der.bitStringTag rest)
  let _ ← need (Der.bits? signature)
  return (certified, algorithm)

/-- The object identifier of the standard extensions, before the number of each. -/
def standardExtension : Octets :=
  [0x55, 0x1D]

/-- The extensions that are known: key usage, alternative names, basic constraints, name
constraints, revocation lists, and extended key usage. -/
def knownExtensions : List UInt8 :=
  [15, 17, 19, 30, 31, 37]

/-- The number of a known extension. -/
def knownExtension? (identifier : Octets) : Option UInt8 :=
  match identifier with
  | [first, second, number] =>
    if [first, second] = standardExtension ∧ number ∈ knownExtensions then some number else none
  | _ => none

/-- The truth value of an optional element, false when it is left out. -/
def optionalTruth (input : Octets) : Except CertificateError (Bool × Octets) :=
  match Der.optional Der.booleanTag input with
  | (none, rest) => .ok (false, rest)
  | (some content, rest) =>
    if content = [0xFF] then .ok (true, rest)
    else if content = [0] then .ok (false, rest)
    else .error .badEncoding

/-- Reads one extension; `seen` are the numbers of those before it. -/
def readExtension (seen : List UInt8) (content : Octets) :
    Except CertificateError (List UInt8) := do
  let (identifier, rest) ← need (Der.expect? Der.objectTag content)
  let (critical, rest) ← optionalTruth rest
  let value ← need (Der.whole? Der.octetStringTag rest)
  match knownExtension? identifier with
  | none => if critical then .error .unknownCriticalExtension else return seen
  | some number =>
    if seen.contains number then .error .badExtension
    else if number = 15 then return number :: seen
    else
      let _ ← need (Der.whole? Der.sequenceTag value)
      return number :: seen

/-- Reads the extensions one after the other; at most `count` of them. -/
def readExtensions (seen : List UInt8) : Nat → Octets → Except CertificateError Unit
  | 0, rest => if rest = [] then .ok () else .error .badEncoding
  | count + 1, rest => do
    if rest = [] then return ()
    else
      let (content, rest) ← need (Der.expect? Der.sequenceTag rest)
      readExtensions (← readExtension seen content) count rest

/-- The public key behind the version: serial number, algorithm, issuer, validity and subject come
before it. -/
def keyBehindVersion (rest : Octets) : Except CertificateError (Octets × Octets × Octets) := do
  let (_, rest) ← need (Der.expect? Der.integerTag rest)
  let (algorithm, rest) ← need (Der.expect? Der.sequenceTag rest)
  let (_, rest) ← need (Der.expect? Der.sequenceTag rest)
  let (_, rest) ← need (Der.expect? Der.sequenceTag rest)
  let (_, rest) ← need (Der.expect? Der.sequenceTag rest)
  let (key, rest) ← need (Der.expect? Der.sequenceTag rest)
  return (algorithm, key, rest)

/-- The public key of a certificate, as an element. -/
def publicKey (octets : Octets) : Except CertificateError Octets := do
  let (certified, outerAlgorithm) ← signedParts octets
  match Der.expect? (Der.fieldTag 0) certified with
  | none => .error .badVersion
  | some (version, rest) =>
    if version ≠ [Der.integerTag, 1, 2] then .error .badVersion
    else
      let (algorithm, key, rest) ← keyBehindVersion rest
      if algorithm ≠ outerAlgorithm then .error .algorithmMismatch
      else if rest = [] then return Der.write Der.sequenceTag key
      else
        let field ← need (Der.whole? (Der.fieldTag 3) rest)
        let extensions ← need (Der.whole? Der.sequenceTag field)
        readExtensions [] extensions.length extensions
        return Der.write Der.sequenceTag key

/-- A certificate of the first version of the format. -/
def isFirstVersion (octets : Octets) : Bool :=
  match signedParts octets with
  | .error _ => false
  | .ok (certified, _) =>
    match keyBehindVersion certified with
    | .ok (_, _, rest) => rest = []
    | .error _ => false

/-- Checks the certificate of an authority. -/
def checkAuthority (octets : Octets) : Except CertificateError Unit :=
  match publicKey octets with
  | .ok _ => .ok ()
  | .error .badVersion => if isFirstVersion octets then .ok () else .error .badEncoding
  | .error error => .error error

end Certificate

end WebGateway.Tls
