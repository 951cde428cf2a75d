import WebGateway.Proofs.Config.TlsFlags
import WebGateway.Proofs.Disk.Trees

/-!
# Faults of an encrypted listener

The domain and the files of an encrypted listener can be wrong in four ways (`IsTlsFault`), and
several of them may apply at once. They are looked for in a fixed order, and the first that applies
is reported (`checkTls_cases`). Where none applies the flags are taken over: the two files as they
are declared, around the only colon of the declaration, and the domain without the blanks around it
(`checkTls_eq_iff`).
-/

set_option autoImplicit false
set_option relaxedAutoImplicit false

namespace WebGateway.Config

open Disk (Node observe)
open Text (IsTrimmed isBlank)

variable {disk : Node} {domain certs certificate key otherCertificate otherKey path : String}
variable {error other : SettingsError}

/-- The two texts stand around the only colon of a declaration, and neither is empty. -/
structure IsDeclared (certs certificate key : String) : Prop where
  eq : certs = certificate ++ ":" ++ key
  count_colon : certs.toList.count ':' = 1
  certificate_ne : certificate ≠ ""
  key_ne : key ≠ ""

/-- The path leads to a regular file, through links as well. -/
def LeadsToFile (disk : Node) (path : String) : Prop :=
  ∃ content, observe disk (Disk.pathOf path) = .file content

/-- The error is about something that is wrong with the flags, whatever else may be. -/
def IsTlsFault (disk : Node) (domain certs : String) : SettingsError → Prop
  | .noDomain => ∀ c ∈ domain.toList, isBlank c = true
  | .badCerts text => text = certs ∧ ¬∃ certificate key, IsDeclared certs certificate key
  | .noCertificateFile path => ∃ key, IsDeclared certs path key ∧ ¬LeadsToFile disk path
  | .noKeyFile path => ∃ certificate, IsDeclared certs certificate path ∧ ¬LeadsToFile disk path
  | .badTarget _ | .badTable _ => False

/-- The place of an error in the order in which settings are checked. -/
def SettingsError.rank : SettingsError → Nat
  | noDomain => 0
  | badCerts _ => 1
  | noCertificateFile _ => 2
  | noKeyFile _ => 3
  | badTarget _ => 4
  | badTable _ => 5

/-- The fault applies, and none that is looked for earlier does. -/
def IsFirstTlsFault (disk : Node) (domain certs : String) (error : SettingsError) : Prop :=
  IsTlsFault disk domain certs error ∧
    ∀ other, IsTlsFault disk domain certs other → error.rank ≤ other.rank

/-! ### Declarations and files -/

theorem isDeclared_iff :
    IsDeclared certs certificate key ↔ declaredPair? certs = some (certificate, key) := by
  have hcount : (certificate ++ ":" ++ key).toList.count ':' =
      certificate.toList.count ':' + 1 + key.toList.count ':' := by
    simp only [String.toList_append, List.count_append]
    rfl
  rw [declaredPair?_eq_some_iff]
  constructor
  · rintro ⟨rfl, hcolon, hcertificate, hkey⟩
    rw [hcount] at hcolon
    refine ⟨rfl, hcertificate, hkey, ?_, ?_⟩
    · exact List.count_eq_zero.mp (by omega)
    · exact List.count_eq_zero.mp (by omega)
  · rintro ⟨rfl, hcertificate, hkey, hbefore, hafter⟩
    refine ⟨rfl, ?_, hcertificate, hkey⟩
    rw [hcount, List.count_eq_zero.mpr hbefore, List.count_eq_zero.mpr hafter]

/-- A text declares one pair of files at most. -/
theorem IsDeclared.unique (h : IsDeclared certs certificate key)
    (hother : IsDeclared certs otherCertificate otherKey) :
    certificate = otherCertificate ∧ key = otherKey := by
  rw [isDeclared_iff] at h hother
  exact Prod.mk.inj (Option.some.inj (h.symm.trans hother))

theorem isFile_eq_true_iff : Disk.isFile disk path = true ↔ LeadsToFile disk path := by
  rw [Disk.isFile, LeadsToFile, observe]
  cases hpath : Disk.resolve disk (Disk.pathOf path) with
  | error cause => simp [Disk.Observation.ofResult]
  | ok result =>
    obtain ⟨⟨node, above⟩, left⟩ := result
    cases node <;> simp [Disk.Observation.ofResult]

theorem isFile_eq_false_iff : Disk.isFile disk path = false ↔ ¬LeadsToFile disk path := by
  rw [← isFile_eq_true_iff, Bool.not_eq_true]

theorem trimBlanks_ne_empty_iff :
    Text.trimBlanks domain ≠ "" ↔ ∃ c ∈ domain.toList, isBlank c = false := by
  rw [ne_eq, trimBlanks_eq_empty_iff, List.all_eq_true]
  simp

/-! ### The checks -/

theorem checkTls_of_blank (h : ∀ c ∈ domain.toList, isBlank c = true) :
    checkTls disk domain certs = .error .noDomain := by
  have hempty : Text.trimBlanks domain = "" :=
    trimBlanks_eq_empty_iff.mpr (List.all_eq_true.mpr h)
  rw [checkTls, if_pos hempty]

theorem checkTls_of_not_declared (hdomain : Text.trimBlanks domain ≠ "")
    (h : ¬∃ certificate key, IsDeclared certs certificate key) :
    checkTls disk domain certs = .error (.badCerts certs) := by
  have hnone : declaredPair? certs = none := by
    cases hpair : declaredPair? certs with
    | none => rfl
    | some pair => exact absurd ⟨pair.1, pair.2, isDeclared_iff.mpr hpair⟩ h
  rw [checkTls, if_neg hdomain, declaredPair_eq, hnone]
  rfl

theorem checkTls_of_declared (hdomain : Text.trimBlanks domain ≠ "")
    (h : IsDeclared certs certificate key) :
    checkTls disk domain certs =
      if !Disk.isFile disk certificate then .error (.noCertificateFile certificate)
      else if !Disk.isFile disk key then .error (.noKeyFile key)
      else .ok ⟨certificate, key, Text.trimBlanks domain⟩ := by
  rw [checkTls, if_neg hdomain, declaredPair_eq, isDeclared_iff.mp h]
  rfl

/-! ### The first fault -/

namespace IsTlsFault

theorem rank_lt (h : IsTlsFault disk domain certs error) : error.rank < 4 := by
  cases error with
  | badTarget cause | badTable cause => exact absurd h id
  | _ => simp [SettingsError.rank]

theorem rank_ne_zero (h : IsTlsFault disk domain certs error)
    (hdomain : ∃ c ∈ domain.toList, isBlank c = false) : error.rank ≠ 0 := by
  cases error with
  | noDomain =>
    obtain ⟨c, hc, hblank⟩ := hdomain
    exact absurd (h c hc) (by simp [hblank])
  | _ => simp [SettingsError.rank]

theorem rank_ne_one (h : IsTlsFault disk domain certs error)
    (hdeclared : IsDeclared certs certificate key) : error.rank ≠ 1 := by
  cases error with
  | badCerts text => exact absurd ⟨certificate, key, hdeclared⟩ h.2
  | _ => simp [SettingsError.rank]

theorem rank_ne_two (h : IsTlsFault disk domain certs error)
    (hdeclared : IsDeclared certs certificate key) (hfile : LeadsToFile disk certificate) :
    error.rank ≠ 2 := by
  cases error with
  | noCertificateFile path =>
    obtain ⟨otherKey, hother, hmissing⟩ := h
    rw [← (hdeclared.unique hother).1] at hmissing
    exact absurd hfile hmissing
  | _ => simp [SettingsError.rank]

theorem rank_ne_three (h : IsTlsFault disk domain certs error)
    (hdeclared : IsDeclared certs certificate key) (hfile : LeadsToFile disk key) :
    error.rank ≠ 3 := by
  cases error with
  | noKeyFile path =>
    obtain ⟨otherCertificate, hother, hmissing⟩ := h
    rw [← (hdeclared.unique hother).2] at hmissing
    exact absurd hfile hmissing
  | _ => simp [SettingsError.rank]

/-- Two faults with one place in the order are the same. -/
theorem eq_of_rank_eq (h : IsTlsFault disk domain certs error)
    (hother : IsTlsFault disk domain certs other) (hrank : error.rank = other.rank) :
    error = other := by
  cases error with
  | noDomain =>
    cases other with
    | noDomain => rfl
    | _ => cases hrank
  | badCerts text =>
    cases other with
    | badCerts otherText => rw [h.1, hother.1]
    | _ => cases hrank
  | noCertificateFile path =>
    cases other with
    | noCertificateFile otherPath =>
      obtain ⟨key, hdeclared, -⟩ := h
      obtain ⟨otherKey, hotherDeclared, -⟩ := hother
      rw [(hdeclared.unique hotherDeclared).1]
    | _ => cases hrank
  | noKeyFile path =>
    cases other with
    | noKeyFile otherPath =>
      obtain ⟨certificate, hdeclared, -⟩ := h
      obtain ⟨otherCertificate, hotherDeclared, -⟩ := hother
      rw [(hdeclared.unique hotherDeclared).2]
    | _ => cases hrank
  | badTarget cause | badTable cause => exact absurd h id

end IsTlsFault

theorem not_isTlsFault (hdomain : ∃ c ∈ domain.toList, isBlank c = false)
    (hdeclared : IsDeclared certs certificate key) (hcertificate : LeadsToFile disk certificate)
    (hkey : LeadsToFile disk key) : ¬IsTlsFault disk domain certs error := by
  intro h
  have h0 := h.rank_ne_zero hdomain
  have h1 := h.rank_ne_one hdeclared
  have h2 := h.rank_ne_two hdeclared hcertificate
  have h3 := h.rank_ne_three hdeclared hkey
  have hrank := h.rank_lt
  omega

theorem IsFirstTlsFault.unique (h : IsFirstTlsFault disk domain certs error)
    (hother : IsFirstTlsFault disk domain certs other) : error = other :=
  h.1.eq_of_rank_eq hother.1 (Nat.le_antisymm (h.2 other hother.1) (hother.2 error h.1))

/-- The first fault is reported, or there is none and the flags are taken over. -/
theorem checkTls_cases (disk : Node) (domain certs : String) :
    (∃ error, checkTls disk domain certs = .error error ∧
      IsFirstTlsFault disk domain certs error) ∨
    ∃ certificate key,
      checkTls disk domain certs = .ok ⟨certificate, key, Text.trimBlanks domain⟩ ∧
        (∃ c ∈ domain.toList, isBlank c = false) ∧ IsDeclared certs certificate key ∧
        LeadsToFile disk certificate ∧ LeadsToFile disk key := by
  -- One case for each fault, in their order; what passed before rules out the lower ranks.
  by_cases hblank : ∀ c ∈ domain.toList, isBlank c = true
  · exact Or.inl ⟨.noDomain, checkTls_of_blank hblank, hblank, fun _ _ ↦ Nat.zero_le _⟩
  have hdomain : ∃ c ∈ domain.toList, isBlank c = false := by simpa using hblank
  have hkept : Text.trimBlanks domain ≠ "" := trimBlanks_ne_empty_iff.mpr hdomain
  by_cases hdeclared : ∃ certificate key, IsDeclared certs certificate key
  · obtain ⟨certificate, key, hdeclared⟩ := hdeclared
    rw [checkTls_of_declared hkept hdeclared]
    by_cases hcertificate : LeadsToFile disk certificate
    · rw [isFile_eq_true_iff.mpr hcertificate]
      by_cases hkey : LeadsToFile disk key
      · rw [isFile_eq_true_iff.mpr hkey]
        exact Or.inr ⟨certificate, key, rfl, hdomain, hdeclared, hcertificate, hkey⟩
      · rw [isFile_eq_false_iff.mpr hkey]
        refine Or.inl ⟨.noKeyFile key, rfl, ⟨certificate, hdeclared, hkey⟩, fun other hother ↦ ?_⟩
        have h0 := hother.rank_ne_zero hdomain
        have h1 := hother.rank_ne_one hdeclared
        have h2 := hother.rank_ne_two hdeclared hcertificate
        change 3 ≤ other.rank
        omega
    · rw [isFile_eq_false_iff.mpr hcertificate]
      refine Or.inl ⟨.noCertificateFile certificate, rfl, ⟨key, hdeclared, hcertificate⟩,
        fun other hother ↦ ?_⟩
      have h0 := hother.rank_ne_zero hdomain
      have h1 := hother.rank_ne_one hdeclared
      change 2 ≤ other.rank
      omega
  · exact Or.inl ⟨.badCerts certs, checkTls_of_not_declared hkept hdeclared, ⟨rfl, hdeclared⟩,
      fun other hother ↦ Nat.pos_of_ne_zero (hother.rank_ne_zero hdomain)⟩

theorem checkTls_eq_error_iff :
    checkTls disk domain certs = .error error ↔ IsFirstTlsFault disk domain certs error := by
  constructor
  · intro h
    rcases checkTls_cases disk domain certs with
      ⟨first, hfirst, hfault⟩ | ⟨certificate, key, hok, -⟩
    · cases h.symm.trans hfirst
      exact hfault
    · cases h.symm.trans hok
  · intro h
    rcases checkTls_cases disk domain certs with
      ⟨first, hfirst, hfault⟩ | ⟨certificate, key, -, hdomain, hdeclared, hcertificate, hkey⟩
    · rw [hfirst, h.unique hfault]
    · exact absurd h.1 (not_isTlsFault hdomain hdeclared hcertificate hkey)

theorem checkTls_eq_ok_iff {files : TlsFiles} :
    checkTls disk domain certs = .ok files ↔
      (∃ c ∈ domain.toList, isBlank c = false) ∧ IsDeclared certs files.certificate files.key ∧
        LeadsToFile disk files.certificate ∧ LeadsToFile disk files.key ∧
        IsTrimmed domain files.domain := by
  constructor
  · intro h
    rcases checkTls_cases disk domain certs with
      ⟨first, hfirst, -⟩ | ⟨certificate, key, hok, hdomain, hdeclared, hcertificate, hkey⟩
    · cases h.symm.trans hfirst
    · cases h.symm.trans hok
      exact ⟨hdomain, hdeclared, hcertificate, hkey, Text.trimBlanks_eq_iff.mp rfl⟩
  · rintro ⟨hdomain, hdeclared, hcertificate, hkey, htrimmed⟩
    rcases checkTls_cases disk domain certs with
      ⟨first, -, hfault⟩ | ⟨certificate, key, hok, -, hother, -, -⟩
    · exact absurd hfault.1 (not_isTlsFault hdomain hdeclared hcertificate hkey)
    · obtain ⟨hsameCertificate, hsameKey⟩ := hother.unique hdeclared
      rw [hok, hsameCertificate, hsameKey, Text.trimBlanks_eq_iff.mpr htrimmed]

/-- The flags of an encrypted listener are accepted exactly when the domain is not blank and the
declaration names two regular files around its only colon. They then give these two files and the
domain without the blanks around it. Otherwise the error is the first fault that applies: of the
domain, of the declaration, of the certificate file, or of the key file. -/
theorem checkTls_eq_iff (disk : Node) (domain certs : String) :
    ((∃ files, checkTls disk domain certs = .ok files) ↔
      (∃ c ∈ domain.toList, isBlank c = false) ∧ ∃ certificate key,
        IsDeclared certs certificate key ∧ LeadsToFile disk certificate ∧
          LeadsToFile disk key) ∧
    (∀ files, checkTls disk domain certs = .ok files ↔
      (∃ c ∈ domain.toList, isBlank c = false) ∧ IsDeclared certs files.certificate files.key ∧
        LeadsToFile disk files.certificate ∧ LeadsToFile disk files.key ∧
        IsTrimmed domain files.domain) ∧
    ∀ error, checkTls disk domain certs = .error error ↔
      IsFirstTlsFault disk domain certs error := by
  refine ⟨?_, fun files ↦ checkTls_eq_ok_iff, fun error ↦ checkTls_eq_error_iff⟩
  constructor
  · rintro ⟨files, hfiles⟩
    obtain ⟨hdomain, hdeclared, hcertificate, hkey, -⟩ := checkTls_eq_ok_iff.mp hfiles
    exact ⟨hdomain, _, _, hdeclared, hcertificate, hkey⟩
  · rintro ⟨hdomain, certificate, key, hdeclared, hcertificate, hkey⟩
    exact ⟨⟨certificate, key, Text.trimBlanks domain⟩, checkTls_eq_ok_iff.mpr
      ⟨hdomain, hdeclared, hcertificate, hkey, Text.trimBlanks_eq_iff.mp rfl⟩⟩

end WebGateway.Config
