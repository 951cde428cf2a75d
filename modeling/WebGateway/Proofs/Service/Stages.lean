import WebGateway.Proofs.Assets.Sightings
import WebGateway.Proofs.Config.TlsFlags
import WebGateway.Service.Start

/-!
# The stages of a start

What can keep the gateway from starting is found in stages that follow each other in a fixed order
(`Stage.all`). A stage looks at one part of the situation (`Stage.reading`): at a flag, at the
content of a file, at what lies below a directory, or at the answer of the network. What it finds
wrong depends on that part alone (`Stage.fault?`), so each stage passes or fails by itself, whatever
the others find. It fails first when all stages before it pass (`Situation.FailsFirst`), and then it
fails first in every situation that looks the same up to it (`FailsFirst.of_agreeUpTo`).
-/

set_option autoImplicit false
set_option relaxedAutoImplicit false

namespace WebGateway.Service

open Assets (Sighting)
open Config (Flags)
open Disk (FileContent)
open Net (BindError Network SocketAddress)

/-- What a start finds: files, flags, and sockets. -/
structure Situation where
  disk : Disk.Node
  flags : Flags
  network : Network

/-- How a start from flags ends, and what was done. -/
def Situation.outcome (situation : Situation) : Except StartError Running × Progress :=
  (startFromFlags situation.disk situation.flags).run situation.network

/-- What has to be in order before the gateway listens: first the flags and the files that they
declare, then what is read from files, and a free socket last. -/
inductive Stage where
  | domain
  | certs
  | certificateFile
  | keyFile
  | target
  | beginnings
  | duplicates
  | certificate
  | key
  | pair
  | webRoot
  | assets
  | index
  | authorities
  | listener
deriving DecidableEq, Repr

/-! ### What a stage looks at -/

namespace Situation

/-- The files that are declared for an encrypted listener. -/
def declared? (situation : Situation) : Option (String × String) :=
  if situation.flags.tls then Config.declaredPair? situation.flags.certs else none

/-- What is taken in of all that lies below the directory of the assets: a start stops at the first
fault, and does not read a file that has no key. -/
def seen (situation : Situation) : List Sighting :=
  let below := (Assets.seenBelow? situation.disk situation.flags.webRoot).getD []
  (below.take (below.findIdx Sighting.isFault + 1)).map Sighting.asRead

end Situation

/-! ### What is wrong with a file -/

/-- A file that is to hold certificates cannot be read or holds none. -/
def certificateFault? (path : String) : FileContent → Option Tls.IdentityError
  | .error cause => some (.unreadable path (.system cause))
  | .ok file =>
    match Tls.Pem.certificates file with
    | .error cause => some (.unreadable path (.pem cause))
    | .ok [] => some (.noCertificates path)
    | .ok _ => none

/-- A file that is to hold a private key cannot be read or holds none. -/
def keyFault? (path : String) : FileContent → Option Tls.IdentityError
  | .error cause => some (.unreadable path (.system cause))
  | .ok file =>
    match Tls.Pem.privateKey? file with
    | .error cause => some (.unreadable path (.pem cause))
    | .ok none => some (.noPrivateKey path)
    | .ok (some _) => none

/-- The first certificate of one file is not made for the first key of another. -/
def pairFault? : FileContent → FileContent → Option Tls.IdentityError
  | .ok certified, .ok secret =>
    match Tls.Pem.certificates certified, Tls.Pem.privateKey? secret with
    | .ok (certificate :: _), .ok (some key) =>
      (errorOf? (Tls.checkPair certificate key)).map .rejected
    | _, _ => none
  | _, _ => none

/-- A file of authorities cannot be read, holds none, or holds one that is refused. -/
def authoritiesFault? (path : String) : FileContent → Option Tls.AuthorityError
  | .error cause => some (.unreadable path (.system cause))
  | .ok file =>
    match Tls.Pem.certificates file with
    | .error cause => some (.unreadable path (.pem cause))
    | .ok [] => some (.empty path)
    | .ok certificates => certificates.findSome? fun certificate ↦
      (errorOf? (Tls.Certificate.checkAuthority certificate)).map .rejected

/-! ### Stages by themselves -/

namespace Stage

/-- What a stage looks at; the stages of an encrypted listener look at nothing without one. -/
abbrev Reading : Stage → Type
  | domain => Option String
  | certs => Option String
  | certificateFile => Option (String × Bool)
  | keyFile => Option (String × Bool)
  | target => String
  | beginnings => List String
  | duplicates => List String
  | certificate => Option (String × FileContent)
  | key => Option (String × FileContent)
  | pair => Option (FileContent × FileContent)
  | webRoot => String × Bool
  | assets => String × List Sighting
  | index => List Sighting
  | authorities => Option (String × FileContent)
  | listener => String × UInt16 × Except BindError SocketAddress

def reading (situation : Situation) : (stage : Stage) → stage.Reading
  | domain => if situation.flags.tls then some situation.flags.domain else none
  | certs => if situation.flags.tls then some situation.flags.certs else none
  | certificateFile => situation.declared?.map fun files ↦
    (files.1, Disk.isFile situation.disk files.1)
  | keyFile => situation.declared?.map fun files ↦ (files.2, Disk.isFile situation.disk files.2)
  | target => situation.flags.api
  | beginnings => situation.flags.beginnings
  | duplicates => situation.flags.beginnings
  | certificate => situation.declared?.map fun files ↦
    (files.1, Disk.readFile situation.disk files.1)
  | key => situation.declared?.map fun files ↦ (files.2, Disk.readFile situation.disk files.2)
  | pair => situation.declared?.map fun files ↦
    (Disk.readFile situation.disk files.1, Disk.readFile situation.disk files.2)
  | webRoot => (situation.flags.webRoot,
    (Assets.seenBelow? situation.disk situation.flags.webRoot).isSome)
  | assets => (situation.flags.webRoot, situation.seen)
  | index => situation.seen
  | authorities => situation.flags.authorities.map fun file ↦
    (file, Disk.readFile situation.disk file)
  | listener => (situation.flags.host, situation.flags.port,
    situation.network.bind situation.flags.host situation.flags.port)

/-- The error with which a stage ends a start, if it fails on what it looks at. -/
def fault? : (stage : Stage) → stage.Reading → Option StartError
  | domain, reading => reading.bind fun domain ↦
    if domain.toList.all Text.isBlank then some (.settings .noDomain) else none
  | certs, reading => reading.bind fun certs ↦
    if (Config.declaredPair? certs).isNone then some (.settings (.badCerts certs)) else none
  | certificateFile, reading => reading.bind fun (path, isFile) ↦
    if isFile then none else some (.settings (.noCertificateFile path))
  | keyFile, reading => reading.bind fun (path, isFile) ↦
    if isFile then none else some (.settings (.noKeyFile path))
  | target, api => (errorOf? (Backend.Target.parse api)).map fun cause ↦
    .settings (.badTarget cause)
  | beginnings, literals =>
    (literals.find? fun literal ↦ !Routing.startsWithSlash literal).map fun literal ↦
      .settings (.badTable (.withoutSlash literal))
  | duplicates, literals =>
    (Routing.firstRepeated [] ((Routing.Table.rulesFor literals).map fun rule ↦
      rule.pattern.literal)).map fun literal ↦ .settings (.badTable (.claimedTwice literal))
  | certificate, reading => reading.bind fun (path, content) ↦
    (certificateFault? path content).map .identity
  | key, reading => reading.bind fun (path, content) ↦ (keyFault? path content).map .identity
  | pair, reading => reading.bind fun (certified, secret) ↦
    (pairFault? certified secret).map .identity
  | webRoot, (path, isDirectory) =>
    if isDirectory then none else some (.bundle (.notADirectory path))
  | assets, (path, seen) =>
    (seen.findSome? (Sighting.fault? (Disk.pathOf path))).map .bundle
  | index, seen =>
    if ∃ sighting ∈ seen, sighting.key? = some Assets.indexName then none
    else some (.bundle .noIndex)
  | authorities, reading => reading.bind fun (path, content) ↦
    (authoritiesFault? path content).map .authorities
  | listener, (host, port, answer) =>
    (errorOf? answer).map fun cause ↦ .listener host port cause

/-- The name under which the failure of a stage is reported. -/
def action : Stage → String
  | target => "urlparse"
  | certificate | key | pair => "tls"
  | webRoot | assets | index => "assets"
  | authorities => "transport"
  | listener => "listen"
  | _ => "config"

/-! ### The order of the stages -/

def all : List Stage :=
  [domain, certs, certificateFile, keyFile, target, beginnings, duplicates, certificate, key, pair,
    webRoot, assets, index, authorities, listener]

/-- The stages before a stage. -/
def before (stage : Stage) : List Stage :=
  all.takeWhile (· ≠ stage)

theorem mem_all (stage : Stage) : stage ∈ all := by
  cases stage <;> decide

theorem nodup_all : all.Nodup := by
  decide

theorem before_eq_of_all_eq {stage : Stage} {earlier later : List Stage}
    (h : all = earlier ++ stage :: later) : stage.before = earlier := by
  have hnodup := nodup_all
  rw [h, List.nodup_append] at hnodup
  rw [before, h, List.takeWhile_append_of_pos]
  · simp
  · intro other hother
    simpa using hnodup.2.2 other hother stage (by simp)

theorem exists_all_eq (stage : Stage) : ∃ later, all = stage.before ++ stage :: later := by
  obtain ⟨earlier, later, h⟩ := List.append_of_mem stage.mem_all
  exact ⟨later, before_eq_of_all_eq h ▸ h⟩

end Stage

namespace Situation

variable {situation : Situation} {stage : Stage} {error : StartError}

/-- What a stage finds wrong in a situation. -/
def fault? (situation : Situation) (stage : Stage) : Option StartError :=
  stage.fault? (stage.reading situation)

/-- A stage fails with an error, and all stages before it pass. -/
structure FailsFirst (situation : Situation) (stage : Stage) (error : StartError) : Prop where
  fault : situation.fault? stage = some error
  passed : ∀ earlier ∈ stage.before, situation.fault? earlier = none

/-- The first error in the order of the stages is the error of the stage that fails first. -/
theorem findSome?_fault?_eq_some_iff :
    Stage.all.findSome? situation.fault? = some error ↔
      ∃ stage, situation.FailsFirst stage error := by
  rw [List.findSome?_eq_some_iff]
  constructor
  · rintro ⟨earlier, stage, later, hall, hfault, hpassed⟩
    exact ⟨stage, hfault, fun other hother ↦
      hpassed other (Stage.before_eq_of_all_eq hall ▸ hother)⟩
  · rintro ⟨stage, hfault, hpassed⟩
    obtain ⟨later, hall⟩ := stage.exists_all_eq
    exact ⟨stage.before, stage, later, hall, hfault, hpassed⟩

theorem findSome?_fault?_eq_none_iff :
    Stage.all.findSome? situation.fault? = none ↔ ∀ stage, situation.fault? stage = none := by
  rw [List.findSome?_eq_none_iff]
  exact ⟨fun h stage ↦ h stage stage.mem_all, fun h stage _ ↦ h stage⟩

/-- An error tells which stage it comes from, as far as the name of the stage goes. -/
theorem action_of_fault? (h : situation.fault? stage = some error) :
    error.action = stage.action := by
  cases stage with
  | domain | certs =>
    obtain ⟨text, -, htext⟩ := Option.bind_eq_some_iff.mp h
    split at htext <;> cases htext
    rfl
  | certificateFile | keyFile =>
    obtain ⟨⟨path, isFile⟩, -, hfile⟩ := Option.bind_eq_some_iff.mp h
    cases isFile <;> cases hfile
    rfl
  | target | beginnings | duplicates | assets | listener =>
    obtain ⟨cause, -, rfl⟩ := Option.map_eq_some_iff.mp h
    rfl
  | webRoot | index =>
    simp only [fault?, Stage.fault?] at h
    split at h <;> cases h
    rfl
  | certificate | key | pair | authorities =>
    obtain ⟨reading, -, hreading⟩ := Option.bind_eq_some_iff.mp h
    obtain ⟨cause, -, rfl⟩ := Option.map_eq_some_iff.mp hreading
    rfl

/-- Two situations look alike to a stage and to all stages before it. -/
def AgreeUpTo (stage : Stage) (first second : Situation) : Prop :=
  ∀ other ∈ stage.before ++ [stage], other.reading first = other.reading second

theorem FailsFirst.of_agreeUpTo {other : Situation} (h : situation.FailsFirst stage error)
    (hagree : AgreeUpTo stage situation other) : other.FailsFirst stage error := by
  have hfault : ∀ earlier ∈ stage.before ++ [stage],
      other.fault? earlier = situation.fault? earlier := by
    intro earlier hmem
    rw [fault?, fault?, hagree earlier hmem]
  exact ⟨hfault stage (by simp) ▸ h.fault,
    fun earlier hmem ↦ hfault earlier (by simp [hmem]) ▸ h.passed earlier hmem⟩

end Situation

end WebGateway.Service
