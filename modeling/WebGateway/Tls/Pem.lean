import WebGateway.Text.Quoted
import WebGateway.Text.Utf8
import WebGateway.Tls.Base64

/-!
# PEM files

A PEM file holds sections between a line that begins one and a line that ends it; what lies outside
of them is passed over. Sections are read in order up to the first fault. A line that begins a
section inside another one changes only what the section is called.
-/

set_option autoImplicit false
set_option relaxedAutoImplicit false

namespace WebGateway.Tls

/-- The sections that are decoded; those of other names are passed over. -/
inductive SectionKind where
  | certificate
  | publicKey
  | rsaKey
  | pkcs8Key
  | ecKey
  | revocations
  | request
  | echConfig
deriving DecidableEq, Repr

namespace SectionKind

def all : List SectionKind :=
  [certificate, publicKey, rsaKey, pkcs8Key, ecKey, revocations, request, echConfig]

def label : SectionKind → String
  | certificate => "CERTIFICATE"
  | publicKey => "PUBLIC KEY"
  | rsaKey => "RSA PRIVATE KEY"
  | pkcs8Key => "PRIVATE KEY"
  | ecKey => "EC PRIVATE KEY"
  | revocations => "X509 CRL"
  | request => "CERTIFICATE REQUEST"
  | echConfig => "ECHCONFIG"

def ofLabel? (label : List UInt8) : Option SectionKind :=
  all.find? fun kind ↦ Text.utf8 kind.label.toList = label

def isPrivateKey : SectionKind → Bool
  | rsaKey => true
  | pkcs8Key => true
  | ecKey => true
  | _ => false

end SectionKind

/-- A decoded section. -/
structure PemSection where
  kind : SectionKind
  content : List UInt8
deriving DecidableEq, Repr

inductive PemError where
  | badStart (line : List UInt8)
  | noEnd (label : List UInt8)
  | badContent (cause : Base64.Base64Error)
deriving DecidableEq, Repr

def PemError.message : PemError → String
  | badStart line => "illegal section start: " ++ Text.quoted (Text.ofUtf8Lossy line)
  | noEnd label => "section end " ++ Text.quoted (Text.ofUtf8Lossy label) ++ " missing"
  | badContent cause => cause.message

namespace Pem

def isLineEnd (octet : UInt8) : Bool :=
  octet == 10 || octet == 13

/-- The lines of a file, each with the line feed or carriage return that ends it. -/
def lines : List UInt8 → List (List UInt8)
  | [] => []
  | octet :: rest =>
    if isLineEnd octet then [octet] :: lines rest
    else
      match lines rest with
      | [] => [[octet]]
      | line :: others => (octet :: line) :: others

def beginMark : List UInt8 :=
  Text.utf8 "-----BEGIN ".toList

/-- The line that ends the sections of a label begins with this. -/
def endMark (label : List UInt8) : List UInt8 :=
  Text.utf8 "-----END ".toList ++ label ++ Text.utf8 "-----".toList

/-- The hyphens at the end of a reversed line, line ends and spaces between them passed over: their
number, and what is left of the line before the first of them. -/
def trailingHyphens (count : Nat) (before : List UInt8) : List UInt8 → Nat × List UInt8
  | [] => (count, before)
  | octet :: rest =>
    if octet = 0x2D then trailingHyphens (count + 1) rest rest
    else if isLineEnd octet || octet == 32 then trailingHyphens count before rest
    else (count, before)

/-- The label of a line that begins a section. -/
def beginLabel? (line : List UInt8) : Option (List UInt8) :=
  let (count, before) := trailingHyphens 0 line.reverse line.reverse
  if count = 5 then some (before.reverse.drop beginMark.length) else none

/-- Reads the sections of the lines that are left. The result holds the sections before the first
fault, and the fault. -/
def readFrom (label : Option (List UInt8)) (content : List UInt8) :
    List (List UInt8) → List PemSection × Option PemError
  | [] =>
    match label with
    | some label => ([], some (.noEnd label))
    | none => ([], none)
  | line :: rest =>
    if beginMark.isPrefixOf line then
      match beginLabel? line with
      | some label => readFrom (some label) content rest
      | none => ([], some (.badStart line))
    else
      match label with
      | none => readFrom none content rest
      | some label =>
        if (endMark label).isPrefixOf line then
          match SectionKind.ofLabel? label with
          | none => readFrom none [] rest
          | some kind =>
            match Base64.decode content with
            | .error cause => ([], some (.badContent cause))
            | .ok octets =>
              let (sections, fault) := readFrom none [] rest
              (⟨kind, octets⟩ :: sections, fault)
        else readFrom (some label) (content ++ line) rest

/-- The sections of a file before its first fault, and the fault. -/
def read (file : ByteArray) : List PemSection × Option PemError :=
  readFrom none [] (lines file.toList)

/-- All certificates of a file. -/
def certificates (file : ByteArray) : Except PemError (List (List UInt8)) :=
  match read file with
  | (_, some fault) => .error fault
  | (sections, none) =>
    .ok ((sections.filter fun entry ↦ entry.kind = .certificate).map PemSection.content)

/-- The first private key of a file; nothing behind it is looked at. -/
def privateKey? (file : ByteArray) : Except PemError (Option PemSection) :=
  let (sections, fault) := read file
  match sections.find? fun entry ↦ entry.kind.isPrivateKey, fault with
  | some key, _ => .ok (some key)
  | none, some fault => .error fault
  | none, none => .ok none

end Pem

end WebGateway.Tls
