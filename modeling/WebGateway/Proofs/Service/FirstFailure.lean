import WebGateway.Proofs.Disk.Trees
import WebGateway.Proofs.Results
import WebGateway.Proofs.Routing.Decision
import WebGateway.Proofs.Service.Stages
import WebGateway.Proofs.Service.Steps

/-!
# The first failure ends a start

Each part of a start fails with the error of the first of its stages that fails (`FailsLike`): the
settings, the identity, the bundle, the authorities and the socket, one lemma for each. Parts that
follow each other fail like their stages in a row, so the whole start fails like all of them
(`failsLike_outcome`). With what a failed start leaves of the network this settles how every start
ends (`outcome_of_stages`).
-/

set_option autoImplicit false
set_option relaxedAutoImplicit false

namespace WebGateway.Service

open Assets (Sighting)
open Config (Settings TlsFiles Trust)
open Net (Network SocketAddress)

/-! ### Errors of results -/

section Errors

variable {α β ε : Type} {situation : Situation} {first second : List Stage} {stage : Stage}

theorem mapError_ok {δ : Type} (wrap : ε → δ) (value : α) :
    (Except.ok value : Except ε α).mapError wrap = .ok value :=
  rfl

theorem ok_bind (value : α) (next : α → Except ε β) : (.ok value >>= next) = next value :=
  rfl

/-- A result is an error exactly when one of the stages fails, and then it is the error of the
first of them that does. -/
def FailsLike (situation : Situation) (stages : List Stage) (result : Except StartError α) : Prop :=
  errorOf? result = stages.findSome? situation.fault?

theorem failsLike_singleton {result : Except StartError α} :
    FailsLike situation [stage] result ↔ errorOf? result = situation.fault? stage := by
  rw [FailsLike, List.findSome?_singleton]

theorem FailsLike.bind {result : Except StartError α} {next : α → Except StartError β}
    (h : FailsLike situation first result)
    (hnext : ∀ value, result = .ok value → FailsLike situation second (next value)) :
    FailsLike situation (first ++ second) (result >>= next) := by
  rw [FailsLike, List.findSome?_append, ← h]
  cases result with
  | error error => rfl
  | ok value => exact hnext value rfl

theorem failsLike_nil {result : Except StartError α} :
    FailsLike situation [] result ↔ errorOf? result = none :=
  Iff.rfl

/-- A value comes from a value of the steps before. -/
theorem eq_ok_of_mapError_eq_ok {δ : Type} {wrap : ε → δ} {result : Except ε α} {value : α}
    (h : result.mapError wrap = .ok value) : result = .ok value := by
  cases result <;> cases h
  rfl

/-- An error keeps its wrapping through the steps that follow. -/
theorem mapError_bind {δ : Type} (wrap : ε → δ) (result : Except ε α) (next : α → Except ε β) :
    (result >>= next).mapError wrap =
      result.mapError wrap >>= fun value ↦ (next value).mapError wrap := by
  cases result <;> rfl

theorem endAfter_fst (result : Except StartError α)
    (after : α → Network → Except StartError β × Network) (network : Network) :
    (endAfter result after network).1 = result >>= fun value ↦ (after value network).1 := by
  cases result <;> rfl

end Errors

/-! ### Settings -/

section Settings

variable (situation : Situation)

theorem failsLike_tlsFiles :
    FailsLike situation [.domain, .certs, .certificateFile, .keyFile]
      ((Config.tlsFiles situation.disk situation.flags).mapError .settings) := by
  simp only [FailsLike, List.findSome?_cons, Situation.fault?, Stage.fault?, Stage.reading,
    Situation.declared?, Config.tlsFiles]
  cases htls : situation.flags.tls with
  | false => simp
  | true =>
    simp only [if_true, Config.checkTls, Config.trimBlanks_eq_empty_iff, Config.declaredPair_eq,
      errorOf?_mapError, errorOf?_map, Option.bind_some]
    cases hblank : situation.flags.domain.toList.all Text.isBlank with
    | true => rfl
    | false =>
      cases hpair : Config.declaredPair? situation.flags.certs with
      | none => rfl
      | some pair =>
        obtain ⟨certificate, key⟩ := pair
        cases hcertificate : Disk.isFile situation.disk certificate with
        | false => simp [hcertificate]
        | true =>
          cases hkey : Disk.isFile situation.disk key <;> simp [hcertificate, hkey]

theorem failsLike_target :
    FailsLike situation [.target]
      (((Backend.Target.parse situation.flags.api).mapError .badTarget).mapError .settings) := by
  rw [failsLike_singleton, errorOf?_mapError, errorOf?_mapError, Option.map_map]
  rfl

theorem failsLike_table :
    FailsLike situation [.beginnings, .duplicates]
      (((Routing.Table.ofBeginnings situation.flags.beginnings).mapError .badTable).mapError
        .settings) := by
  simp only [FailsLike, List.findSome?_cons, Situation.fault?, Stage.fault?, Stage.reading,
    Routing.Table.ofBeginnings, errorOf?_mapError]
  cases situation.flags.beginnings.find? fun literal ↦ !Routing.startsWithSlash literal with
  | some literal => rfl
  | none =>
    cases Routing.firstRepeated [] ((Routing.Table.rulesFor situation.flags.beginnings).map fun
      rule ↦ rule.pattern.literal) <;> rfl

theorem failsLike_settings :
    FailsLike situation
      [.domain, .certs, .certificateFile, .keyFile, .target, .beginnings, .duplicates]
      ((Settings.ofFlags situation.disk situation.flags).mapError .settings) := by
  rw [Settings.ofFlags, mapError_bind]
  refine (failsLike_tlsFiles situation).bind fun tls _ ↦ ?_
  rw [mapError_bind]
  refine (failsLike_target situation).bind fun target _ ↦ ?_
  rw [mapError_bind, ← List.append_nil [Stage.beginnings, Stage.duplicates]]
  exact (failsLike_table situation).bind fun routes _ ↦ failsLike_nil.mpr rfl

variable {situation} {settings : Settings}

/-- The declared files are the files of the settings. -/
theorem declared?_of_tlsFiles {tls : Option TlsFiles}
    (h : Config.tlsFiles situation.disk situation.flags = .ok tls) :
    situation.declared? = tls.map fun files ↦ (files.certificate, files.key) := by
  rw [Config.tlsFiles] at h
  rw [Situation.declared?]
  cases htls : situation.flags.tls with
  | false =>
    simp only [htls] at h
    cases h
    rfl
  | true =>
    simp only [htls, if_true] at h ⊢
    obtain ⟨files, hfiles, rfl⟩ : ∃ files,
        Config.checkTls situation.disk situation.flags.domain situation.flags.certs = .ok files ∧
          tls = some files := by
      cases hfiles : Config.checkTls situation.disk situation.flags.domain situation.flags.certs <;>
        rw [hfiles] at h <;> cases h
      exact ⟨_, rfl, rfl⟩
    exact Config.declaredPair?_of_checkTls hfiles

/-- Settings take over what the flags say of everything that the later stages look at. -/
structure TakesOver (situation : Situation) (settings : Settings) : Prop where
  host : settings.host = situation.flags.host
  port : settings.port = situation.flags.port
  webRoot : settings.webRoot = situation.flags.webRoot
  authorities : settings.trust.file? = situation.flags.authorities
  files : situation.declared? = settings.tls.map fun files ↦ (files.certificate, files.key)

theorem takesOver_of_ofFlags
    (h : Settings.ofFlags situation.disk situation.flags = .ok settings) :
    TakesOver situation settings := by
  obtain ⟨tls, htls, h⟩ := exists_of_bind_eq_ok h
  obtain ⟨target, -, h⟩ := exists_of_bind_eq_ok h
  obtain ⟨routes, -, h⟩ := exists_of_bind_eq_ok h
  cases h
  refine ⟨rfl, rfl, rfl, ?_, declared?_of_tlsFiles htls⟩
  cases situation.flags.authorities <;> rfl

end Settings

/-! ### Files and directories -/

section Loading

variable {α β : Type} (situation : Situation) {settings : Settings}

theorem failsLike_identity (files : Option TlsFiles)
    (hfiles : situation.declared? = files.map fun files ↦ (files.certificate, files.key)) :
    FailsLike situation [.certificate, .key, .pair] (identityFor situation.disk files) := by
  simp only [FailsLike, List.findSome?_cons, Situation.fault?, Stage.fault?, Stage.reading, hfiles]
  cases files with
  | none => rfl
  | some files =>
    obtain ⟨certificatePath, keyPath, domain⟩ := files
    simp only [identityFor, errorOf?_map, errorOf?_mapError, Tls.Identity.load,
      Tls.readCertificates, Tls.readPrivateKey, Option.map_some, Option.bind_some]
    cases Disk.readFile situation.disk certificatePath with
    | error cause => rfl
    | ok certified =>
      simp only [certificateFault?, mapError_ok, ok_bind]
      cases hcertificates : Tls.Pem.certificates certified with
      | error cause => rfl
      | ok certificates =>
        cases certificates with
        | nil => rfl
        | cons certificate chain =>
          cases Disk.readFile situation.disk keyPath with
          | error cause => rfl
          | ok secret =>
            simp only [keyFault?, mapError_ok, ok_bind]
            cases hkey : Tls.Pem.privateKey? secret with
            | error cause => rfl
            | ok found =>
              cases found with
              | none => rfl
              | some key =>
                simp only [pairFault?, hcertificates, hkey, mapError_ok, ok_bind]
                cases Tls.checkPair certificate key <;> rfl

/-- A list up to its first hit has the same first hit. -/
theorem findSome?_take_findIdx {hit : α → Option β} {isHit : α → Bool}
    (h : ∀ x, (hit x).isSome = isHit x) (list : List α) :
    (list.take (list.findIdx isHit + 1)).findSome? hit = list.findSome? hit := by
  induction list with
  | nil => rfl
  | cons x rest ih =>
    rw [List.findIdx_cons, List.take_succ_cons, List.findSome?_cons, List.findSome?_cons]
    cases hx : hit x with
    | some value => rfl
    | none =>
      have hmiss : isHit x = false := by rw [← h, hx, Option.isSome_none]
      simpa [hmiss] using ih

/-- What was seen has the same first failure as all that lies below. -/
theorem findSome?_seen {base : List UInt8} {below : List Sighting}
    (hbelow : Assets.seenBelow? situation.disk situation.flags.webRoot = some below) :
    situation.seen.findSome? (Sighting.fault? base) = below.findSome? (Sighting.fault? base) := by
  simp only [Situation.seen, hbelow, Option.getD_some, List.findSome?_map]
  rw [show Sighting.fault? base ∘ Sighting.asRead = Sighting.fault? base from
    funext (Sighting.fault?_asRead base)]
  exact findSome?_take_findIdx (Sighting.isSome_fault?_eq_isFault base) below

/-- Where nothing fails, all that lies below is seen. -/
theorem seen_eq {base : List UInt8} {below : List Sighting}
    (hbelow : Assets.seenBelow? situation.disk situation.flags.webRoot = some below)
    (hpassed : below.findSome? (Sighting.fault? base) = none) :
    situation.seen = below.map Sighting.asRead := by
  have hmiss : ∀ sighting ∈ below, sighting.isFault = false := by
    intro sighting hmem
    rw [← Sighting.isSome_fault?_eq_isFault base,
      List.findSome?_eq_none_iff.mp hpassed sighting hmem, Option.isSome_none]
  simp only [Situation.seen, hbelow, Option.getD_some]
  rw [List.findIdx_eq_length_of_false hmiss, List.take_of_length_le (Nat.le_succ _)]

theorem failsLike_reach :
    FailsLike situation [.webRoot, .assets]
      ((Assets.reach situation.disk situation.flags.webRoot).mapError .bundle) := by
  simp only [FailsLike, List.findSome?_cons, Situation.fault?, Stage.fault?, Stage.reading,
    Assets.reach_eq]
  obtain hbelow | ⟨below, hbelow⟩ :=
    (Assets.seenBelow? situation.disk situation.flags.webRoot).eq_none_or_eq_some
  · simp only [hbelow]
    rfl
  · simp only [hbelow, Assets.digest, Option.isSome_some, if_true, findSome?_seen situation hbelow]
    cases below.findSome? (Sighting.fault? (Disk.pathOf situation.flags.webRoot)) <;> rfl

/-- The files that were seen make a bundle unless the index document is missing. -/
theorem errorOf?_bundle_ofSightings {base : List UInt8} {below : List Sighting}
    (hpassed : below.findSome? (Sighting.fault? base) = none) :
    errorOf? (Assets.Reached.ofSightings base below).bundle =
      if ∃ sighting ∈ below, sighting.key? = some Assets.indexName then none
      else some .noIndex := by
  by_cases hindex : ∃ sighting ∈ below, sighting.key? = some Assets.indexName
  · rw [if_pos hindex]
    cases hbundle : (Assets.Reached.ofSightings base below).bundle with
    | error error =>
      exact absurd hindex ((Assets.Reached.bundle_ofSightings_eq_error_iff hpassed).mp hbundle).2
    | ok bundle => rfl
  · rw [if_neg hindex,
      (Assets.Reached.bundle_ofSightings_eq_error_iff hpassed).mpr ⟨rfl, hindex⟩, errorOf?_error]

theorem failsLike_index {reached : Assets.Reached}
    (h : Assets.reach situation.disk situation.flags.webRoot = .ok reached) :
    FailsLike situation [.index] (reached.bundle.mapError .bundle) := by
  obtain ⟨below, hbelow, hpassed, rfl⟩ := Assets.exists_seenBelow?_of_reach h
  rw [failsLike_singleton, errorOf?_mapError, errorOf?_bundle_ofSightings hpassed,
    Situation.fault?, Stage.fault?, Stage.reading, seen_eq situation hbelow hpassed]
  simp only [List.mem_map, exists_exists_and_eq_and, Sighting.key?_asRead]
  split <;> rfl

theorem failsLike_bundle :
    FailsLike situation [.webRoot, .assets, .index]
      ((Assets.reach situation.disk situation.flags.webRoot).mapError .bundle >>= fun reached ↦
        reached.bundle.mapError .bundle) := by
  refine (failsLike_reach situation).bind fun reached hreached ↦ ?_
  exact failsLike_index situation (eq_ok_of_mapError_eq_ok hreached)

/-- A check of several values fails with the first of them that does not pass it. -/
theorem errorOf?_forM {ε : Type} (check : α → Except ε Unit) (list : List α) :
    errorOf? (list.forM check) = list.findSome? fun x ↦ errorOf? (check x) := by
  induction list with
  | nil => rfl
  | cons x rest ih =>
    change errorOf? (check x >>= fun _ ↦ rest.forM check) = _
    rw [List.findSome?_cons]
    cases check x with
    | error error => rfl
    | ok value => exact ih

theorem failsLike_authorities {trust : Trust}
    (htrust : trust.file? = situation.flags.authorities) :
    FailsLike situation [.authorities] (authoritiesFor situation.disk trust) := by
  rw [failsLike_singleton]
  simp only [Situation.fault?, Stage.fault?, Stage.reading, ← htrust]
  cases trust with
  | anyone => rfl
  | authoritiesIn file =>
    simp only [authoritiesFor, Tls.readAuthorities, Tls.readCertificates, Trust.file?,
      Option.map_some, Option.bind_some]
    cases Disk.readFile situation.disk file with
    | error cause => rfl
    | ok content =>
      simp only [authoritiesFault?, mapError_ok, ok_bind]
      cases hcertificates : Tls.Pem.certificates content with
      | error cause => rfl
      | ok certificates =>
        cases certificates with
        | nil => rfl
        | cons certificate others =>
          simp only [mapError_ok, ok_bind, if_neg (List.cons_ne_nil certificate others),
            errorOf?_mapError, errorOf?_bind_pure, errorOf?_forM, List.map_findSome?,
            Function.comp_def]

theorem failsLike_listener :
    FailsLike situation [.listener]
      (listenAt situation.flags.host situation.flags.port situation.network).1 := by
  rw [failsLike_singleton, listenAt]
  simp only [Situation.fault?, Stage.fault?, Stage.reading]
  cases situation.network.bind situation.flags.host situation.flags.port <;> rfl

end Loading

/-! ### The start as a whole -/

section Whole

variable {situation : Situation} {settings : Settings}

theorem failsLike_start (h : TakesOver situation settings) :
    FailsLike situation
      [.certificate, .key, .pair, .webRoot, .assets, .index, .authorities, .listener]
      (startEnding situation.disk settings situation.network).1 := by
  simp only [startEnding, endAfter_fst, h.webRoot, h.host, h.port]
  refine (failsLike_identity situation settings.tls h.files).bind fun identity _ ↦ ?_
  refine (failsLike_bundle situation).bind fun bundle _ ↦ ?_
  refine (failsLike_authorities situation h.authorities).bind fun authorities _ ↦ ?_
  rw [FailsLike, errorOf?_map]
  exact failsLike_listener situation

/-- How a start ends, with the reports on the way left open. -/
def Situation.ending (situation : Situation) : Except StartError Running × Network :=
  endAfter ((Settings.ofFlags situation.disk situation.flags).mapError .settings)
    (startEnding situation.disk) situation.network

theorem outcome_eq_ending (situation : Situation) :
    ∃ events, situation.outcome = (situation.ending.1, ⟨events, situation.ending.2⟩) := by
  obtain ⟨events, h⟩ := comesTo_startFromFlags situation.disk situation.flags
    ⟨[], situation.network⟩
  exact ⟨events, h⟩

/-- A start ends with the error of the first stage that fails, if one does. -/
theorem failsLike_outcome (situation : Situation) :
    FailsLike situation Stage.all situation.outcome.1 := by
  obtain ⟨events, h⟩ := outcome_eq_ending situation
  rw [h, Situation.ending, endAfter_fst]
  refine (failsLike_settings situation).bind fun settings hsettings ↦ ?_
  exact failsLike_start (takesOver_of_ofFlags (eq_ok_of_mapError_eq_ok hsettings))

/-- A network is left as it was, unless a socket was given for a host and a port; then it listens,
and it is the socket of what runs. -/
def LeavesSocket (network : Network) (host : String) (port : UInt16) :
    Except StartError Running × Network → Prop
  | (.error _, left) => left = network
  | (.ok running, left) =>
    network.bind host port = .ok running.socket ∧ left = network.listen running.socket

theorem leavesSocket_endAfter {α : Type} {network : Network} {host : String} {port : UInt16}
    {result : Except StartError α} {after : α → Network → Except StartError Running × Network}
    (h : ∀ value, result = .ok value → LeavesSocket network host port (after value network)) :
    LeavesSocket network host port (endAfter result after network) := by
  cases result with
  | error error => rfl
  | ok value => exact h value rfl

theorem leavesSocket_ending (situation : Situation) :
    LeavesSocket situation.network situation.flags.host situation.flags.port
      situation.ending := by
  refine leavesSocket_endAfter fun settings hsettings ↦ ?_
  refine leavesSocket_endAfter fun identity _ ↦ ?_
  refine leavesSocket_endAfter fun bundle _ ↦ ?_
  refine leavesSocket_endAfter fun authorities _ ↦ ?_
  have htaken := takesOver_of_ofFlags (eq_ok_of_mapError_eq_ok hsettings)
  rw [htaken.host, htaken.port, listenAt]
  cases hbind : situation.network.bind situation.flags.host situation.flags.port with
  | error cause => rfl
  | ok socket => exact ⟨hbind, rfl⟩

/-- Without encryption nothing is done with the domain and the certificates that the flags name. -/
theorem startFromFlags_of_plain {disk : Disk.Node} {flags : Config.Flags}
    (h : flags.tls = false) (domain certs : String) :
    startFromFlags disk { flags with domain := domain, certs := certs } =
      startFromFlags disk flags := by
  have hsettings : Settings.ofFlags disk { flags with domain := domain, certs := certs } =
      Settings.ofFlags disk flags := by
    simp only [Settings.ofFlags, Config.tlsFiles, h, Bool.false_eq_true, if_false]
  rw [startFromFlags, startFromFlags, readSettings, readSettings, hsettings]

theorem outcome_eq_error_iff {error : StartError} :
    situation.outcome.1 = .error error ↔ ∃ stage, situation.FailsFirst stage error := by
  rw [← Situation.findSome?_fault?_eq_some_iff, ← failsLike_outcome situation]
  cases situation.outcome.1 <;> simp

theorem exists_outcome_eq_ok_iff :
    (∃ running, situation.outcome.1 = .ok running) ↔ ∀ stage, situation.fault? stage = none := by
  rw [← Situation.findSome?_fault?_eq_none_iff, ← failsLike_outcome situation]
  cases situation.outcome.1 <;> simp

theorem leavesSocket_outcome (situation : Situation) :
    LeavesSocket situation.network situation.flags.host situation.flags.port
      (situation.outcome.1, situation.outcome.2.network) := by
  obtain ⟨events, h⟩ := outcome_eq_ending situation
  rw [h]
  exact leavesSocket_ending situation

theorem network_of_outcome_eq_error {error : StartError}
    (h : situation.outcome.1 = .error error) :
    situation.outcome.2.network = situation.network := by
  have hleft := leavesSocket_outcome situation
  rw [h] at hleft
  exact hleft

/-- Only the last stage looks at the network. -/
theorem agreeUpTo_of_network {stage : Stage} (h : stage ≠ .listener) (network : Network) :
    Situation.AgreeUpTo stage situation { situation with network := network } := by
  have hearlier : Stage.listener ∉ stage.before ++ [stage] := by
    cases stage <;> first | contradiction | decide
  intro earlier hmem
  cases earlier with
  | listener => exact absurd hmem hearlier
  | _ => rfl

/-- A start is a row of stages. It ends with the error of the stage that fails first, whatever the
stages after it would find, and with a listening gateway exactly when every stage passes. Only the
last stage asks the network for a socket: a start that fails leaves the network as it was, and one
that fails before that stage ends the same on every network. The error of a first failure, and the
name under which it is reported, depend only on what that stage and the stages before it look at;
without encryption the domain and the certificates of the flags are not among it. -/
theorem outcome_of_stages (situation : Situation) :
    (∀ error, situation.outcome.1 = .error error ↔ ∃ stage, situation.FailsFirst stage error) ∧
    (∀ stage error, situation.FailsFirst stage error →
      error.action = stage.action ∧
      situation.outcome.2.network = situation.network ∧
      (∀ other, Situation.AgreeUpTo stage situation other → other.outcome.1 = .error error) ∧
      (stage ≠ .listener → ∀ network,
        let elsewhere := { situation with network := network }
        elsewhere.outcome.1 = .error error ∧ elsewhere.outcome.2.network = network)) ∧
    ((∃ running, situation.outcome.1 = .ok running) ↔ ∀ stage, situation.fault? stage = none) ∧
    (∀ running, situation.outcome.1 = .ok running →
      situation.network.bind situation.flags.host situation.flags.port = .ok running.socket ∧
      situation.outcome.2.network = { situation.network with
        listening := running.socket :: situation.network.listening }) ∧
    (situation.flags.tls = false → ∀ domain certs,
      { situation with flags :=
        { situation.flags with domain := domain, certs := certs } }.outcome =
          situation.outcome) := by
  refine ⟨?errors, ?failures, ?success, ?socket, ?plain⟩
  case errors => exact fun error ↦ outcome_eq_error_iff
  case failures =>
    intro stage error hfirst
    have hagree : ∀ other, Situation.AgreeUpTo stage situation other →
        other.outcome.1 = .error error := fun other h ↦
      outcome_eq_error_iff.mpr ⟨stage, hfirst.of_agreeUpTo h⟩
    refine ⟨Situation.action_of_fault? hfirst.fault, ?_, hagree, fun hstage network ↦ ?_⟩
    · exact network_of_outcome_eq_error (outcome_eq_error_iff.mpr ⟨stage, hfirst⟩)
    · have herror := hagree _ (agreeUpTo_of_network hstage network)
      exact ⟨herror, network_of_outcome_eq_error herror⟩
  case success => exact exists_outcome_eq_ok_iff
  case socket =>
    intro running h
    have hleft := leavesSocket_outcome situation
    rw [h] at hleft
    exact hleft
  case plain =>
    intro h domain certs
    simp only [Situation.outcome, startFromFlags_of_plain h]

end Whole

/-! ### Starts with and without faults -/

/-- The beginning without a slash is not the only fault: another one is claimed twice, there are no
assets and no authorities, and the port is taken. -/
def crowded : Situation where
  disk := .directory []
  flags := {
    certs := "nonsense"
    beginnings := ["/api", "api", "/api"]
    authorities := some "ca.pem" }
  network := { names := [], listening := [⟨.v4 ⟨0, 0, 0, 0⟩, 8088⟩] }

/-- There is no fault. -/
def ready : Situation where
  disk := .directory
    [(Disk.pathOf "webui", .directory [(Disk.pathOf "index.html", .file (.ok .empty))])]
  flags := { webRoot := "webui" }
  network := { names := [], listening := [] }

/-- A file that holds a certificate. -/
def certificateFile : ByteArray :=
  ⟨(Disk.pathOf "-----BEGIN CERTIFICATE-----\nAA==\n-----END CERTIFICATE-----").toArray⟩

/-- An encrypted listener whose key must not be read, beside other files and on any network. -/
def sealedAway (others : List (Disk.EntryName × Disk.Node)) (network : Network) : Situation where
  disk := .directory ((Disk.pathOf "cert.pem", .file (.ok certificateFile)) ::
    (Disk.pathOf "key.pem", .file (.error .permissionDenied)) :: others)
  flags := { tls := true, domain := "example.com", certs := "cert.pem:key.pem" }
  network := network

theorem seenBelow?_ready :
    Assets.seenBelow? ready.disk ready.flags.webRoot =
      some [⟨[Disk.pathOf "index.html"], .ok (.ok .empty)⟩] := by
  have hname : Disk.IsEntryName (Disk.pathOf "webui") := by decide
  have hlookup : [(Disk.pathOf "webui",
      Disk.Node.directory [(Disk.pathOf "index.html", .file (.ok .empty))])].lookup
        (Disk.pathOf "webui") =
      some (.directory [(Disk.pathOf "index.html", .file (.ok .empty))]) := rfl
  have hresolve := Disk.resolve_entry hname hlookup (by simp)
  simp [Assets.seenBelow?, ready, hresolve, Assets.sightings]

/-- The sort behind the table does not reduce; that the default table is accepted says the same. -/
theorem fault?_duplicates_of_nil {situation : Situation} (h : situation.flags.beginnings = []) :
    situation.fault? .duplicates = none := by
  have htable := failsLike_table situation
  rw [h, Routing.ofBeginnings_nil] at htable
  exact List.findSome?_eq_none_iff.mp htable.symm Stage.duplicates (by simp)

theorem fault?_ready (stage : Stage) : ready.fault? stage = none := by
  have hname : Assets.keyOfNames? [Disk.pathOf "index.html"] = some "index.html" := by
    decide +kernel
  have hseen : ready.seen = [⟨[Disk.pathOf "index.html"], .ok (.ok .empty)⟩] := by
    simp [Situation.seen, seenBelow?_ready, Sighting.asRead, hname]
  cases stage
  case webRoot => simp [Situation.fault?, Stage.fault?, Stage.reading, seenBelow?_ready]
  case assets =>
    simp [Situation.fault?, Stage.fault?, Stage.reading, hseen, Sighting.fault?_ok, hname]
  case index =>
    have hkey : Assets.Files.trimKey "index.html" = Assets.indexName := by decide +kernel
    simp [Situation.fault?, Stage.fault?, Stage.reading, hseen, Sighting.key?, hname, hkey]
  case duplicates => exact fault?_duplicates_of_nil rfl
  all_goals decide +kernel

section SealedAway

variable (others : List (Disk.EntryName × Disk.Node)) (network : Network)

theorem declared?_sealedAway :
    (sealedAway others network).declared? = some ("cert.pem", "key.pem") := by
  simp only [Situation.declared?, sealedAway, if_true]
  decide +kernel

theorem certificate_sealedAway :
    Disk.isFile (sealedAway others network).disk "cert.pem" = true ∧
      Disk.readFile (sealedAway others network).disk "cert.pem" = .ok certificateFile :=
  Disk.file_of_lookup (by decide) rfl

theorem key_sealedAway :
    Disk.isFile (sealedAway others network).disk "key.pem" = true ∧
      Disk.readFile (sealedAway others network).disk "key.pem" = .error .permissionDenied :=
  Disk.file_of_lookup (by decide) rfl

/-- Up to the key nothing else is looked at. -/
theorem agreeUpTo_sealedAway (first second : List (Disk.EntryName × Disk.Node))
    (near far : Network) :
    Situation.AgreeUpTo .key (sealedAway first near) (sealedAway second far) := by
  intro stage hstage
  cases stage with
  | certificateFile | certificate =>
    simp only [Stage.reading, declared?_sealedAway, certificate_sealedAway, Option.map_some]
  | keyFile | key =>
    simp only [Stage.reading, declared?_sealedAway, key_sealedAway, Option.map_some]
  | domain | certs | target | beginnings | duplicates => rfl
  | _ => exact absurd hstage (by decide)

theorem failsFirst_sealedAway : (sealedAway others network).FailsFirst .key
    (.identity (.unreadable "key.pem" (.system .permissionDenied))) := by
  constructor
  · simp only [Situation.fault?, Stage.fault?, Stage.reading, declared?_sealedAway,
      key_sealedAway, Option.map_some]
    rfl
  · intro stage hstage
    cases stage with
    | certificateFile | keyFile | certificate =>
      simp only [Situation.fault?, Stage.fault?, Stage.reading, declared?_sealedAway,
        certificate_sealedAway, key_sealedAway, Option.map_some]
      decide +kernel
    | domain | certs | target | beginnings =>
      simp only [Situation.fault?, Stage.reading, sealedAway]
      decide +kernel
    | duplicates => exact fault?_duplicates_of_nil rfl
    | _ => exact absurd hstage (by decide)

end SealedAway

theorem outcome_crowded_ready :
    crowded.FailsFirst .beginnings (.settings (.badTable (.withoutSlash "api"))) ∧
    crowded.outcome.1 = .error (.settings (.badTable (.withoutSlash "api"))) ∧
    crowded.outcome.2.network = crowded.network ∧
    (∀ domain certs, { crowded with flags :=
      { crowded.flags with domain := domain, certs := certs } }.outcome = crowded.outcome) ∧
    (∃ running, ready.outcome.1 = .ok running ∧
      ready.network.bind "0.0.0.0" 8088 = .ok running.socket ∧
      ready.outcome.2.network.listening = [running.socket]) ∧
    (sealedAway [] ready.network).FailsFirst .key
      (.identity (.unreadable "key.pem" (.system .permissionDenied))) ∧
    ∀ others network,
      Situation.AgreeUpTo .key (sealedAway [] ready.network) (sealedAway others network) ∧
      (sealedAway others network).outcome.1 =
        .error (.identity (.unreadable "key.pem" (.system .permissionDenied))) := by
  have hfirst : crowded.FailsFirst .beginnings (.settings (.badTable (.withoutSlash "api"))) :=
    ⟨by decide +kernel, by decide +kernel⟩
  have hsealed := failsFirst_sealedAway [] ready.network
  obtain ⟨herrors, hfailures, -, -, hplain⟩ := outcome_of_stages crowded
  obtain ⟨-, -, hsuccess, hsocket, -⟩ := outcome_of_stages ready
  obtain ⟨-, hunread, -⟩ := outcome_of_stages (sealedAway [] ready.network)
  obtain ⟨running, hrunning⟩ := hsuccess.mpr fault?_ready
  obtain ⟨hbind, hleft⟩ := hsocket running hrunning
  refine ⟨hfirst, (herrors _).mpr ⟨_, hfirst⟩, (hfailures _ _ hfirst).2.1, hplain rfl,
    ⟨running, hrunning, hbind, ?_⟩, hsealed, fun others network ↦ ?_⟩
  · rw [hleft]
    rfl
  · have hagree := agreeUpTo_sealedAway [] others ready.network network
    exact ⟨hagree, (hunread _ _ hsealed).2.2.1 _ hagree⟩

end WebGateway.Service
