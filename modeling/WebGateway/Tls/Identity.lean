import WebGateway.Disk.Basic
import WebGateway.Tls.Certificate
import WebGateway.Tls.PrivateKey

/-!
# Certificates of the gateway and of authorities

The gateway proves who it is with a certificate and the private key that belongs to it. The files
are read in this order, the certificates first, and both completely before the pair is compared. An
API server is trusted if an authority in a given file vouches for it.
-/

set_option autoImplicit false
set_option relaxedAutoImplicit false

namespace WebGateway.Tls

/-- Why a file cannot be read. -/
inductive ReadError where
  | system (cause : SystemError)
  | pem (cause : PemError)
deriving DecidableEq, Repr

def ReadError.message : ReadError → String
  | system cause => cause.message
  | pem cause => cause.message

/-- Why a certificate and a key are not accepted together. -/
inductive PairError where
  | badKey
  | badCertificate (cause : CertificateError)
  | mismatch
deriving DecidableEq, Repr

def PairError.message : PairError → String
  | badKey => "unexpected error: failed to parse private key as RSA, ECDSA, or EdDSA"
  | badCertificate cause => cause.message
  | mismatch => "keys may not be consistent: KeyMismatch"

inductive IdentityError where
  | unreadable (path : String) (cause : ReadError)
  | noCertificates (path : String)
  | noPrivateKey (path : String)
  | rejected (cause : PairError)
deriving DecidableEq, Repr

def IdentityError.message : IdentityError → String
  | unreadable path cause => "failed to read " ++ path ++ ": " ++ cause.message
  | noCertificates path => "no certificates found in " ++ path
  | noPrivateKey path => "no private key found in " ++ path
  | rejected cause => "certificate/key pair rejected: " ++ cause.message

/-- The certificate chain of the gateway, its own certificate first, with the private key. -/
structure Identity where
  certificate : List UInt8
  chain : List (List UInt8)
  key : PemSection
deriving DecidableEq, Repr

/-- The certificates of a file. -/
def readCertificates (disk : Disk.Node) (path : String) :
    Except ReadError (List (List UInt8)) := do
  let file ← (Disk.readFile disk path).mapError .system
  (Pem.certificates file).mapError .pem

/-- The first private key of a file. -/
def readPrivateKey (disk : Disk.Node) (path : String) : Except ReadError (Option PemSection) := do
  let file ← (Disk.readFile disk path).mapError .system
  (Pem.privateKey? file).mapError .pem

/-- Checks that a certificate is made for a key. -/
def checkPair (certificate : List UInt8) (key : PemSection) : Except PairError Unit := do
  match PrivateKey.publicKey? key with
  | none => .error .badKey
  | some expected =>
    let found ← (Certificate.publicKey certificate).mapError .badCertificate
    if found = expected then return () else .error .mismatch

/-- Loads the certificate chain and the key of the gateway. -/
def Identity.load (disk : Disk.Node) (certificatePath keyPath : String) :
    Except IdentityError Identity := do
  match ← (readCertificates disk certificatePath).mapError (.unreadable certificatePath) with
  | [] => .error (.noCertificates certificatePath)
  | certificate :: chain =>
    match ← (readPrivateKey disk keyPath).mapError (.unreadable keyPath) with
    | none => .error (.noPrivateKey keyPath)
    | some key =>
      (checkPair certificate key).mapError .rejected
      return ⟨certificate, chain, key⟩

/-- The protocols that an encrypted listener offers. -/
def offeredProtocols : List String :=
  ["h2", "http/1.1"]

/-- Why a file of authorities cannot be used. -/
inductive AuthorityError where
  | unreadable (path : String) (cause : ReadError)
  | empty (path : String)
  | rejected (cause : CertificateError)
deriving DecidableEq, Repr

def AuthorityError.message : AuthorityError → String
  | unreadable path cause =>
    "failed to read upstream CA bundle " ++ path ++ ": " ++ cause.message
  | empty path => "upstream CA bundle " ++ path ++ " contains no certificates"
  | rejected cause => "invalid TLS client configuration: " ++ cause.message

/-- The certificates of the authorities in a file. -/
def readAuthorities (disk : Disk.Node) (path : String) :
    Except AuthorityError (List (List UInt8)) := do
  let certificates ← (readCertificates disk path).mapError (.unreadable path)
  if certificates = [] then .error (.empty path)
  else
    (certificates.forM Certificate.checkAuthority).mapError .rejected
    return certificates

end WebGateway.Tls
