import WebGateway.Config.OfFlags
import WebGateway.Proofs.Text.Trim

/-!
# The flags of an encrypted listener

The files of an encrypted listener are declared as one text, the certificate before a colon and the
key behind it. A declaration has exactly one colon and a text on either side of it
(`declaredPair?_eq_some_iff`); nothing else is accepted as one (`declaredPair_eq`).
-/

set_option autoImplicit false
set_option relaxedAutoImplicit false

namespace WebGateway.Config

variable {certs certificate key : String}

/-- The two texts around the colon of a text that has one colon, if neither is empty. -/
def declaredPair? (certs : String) : Option (String × String) :=
  let certificate := certs.toList.takeWhile (· ≠ ':')
  let key := certs.toList.drop (certificate.length + 1)
  if certs.toList.count ':' = 1 ∧ certificate ≠ [] ∧ key ≠ [] then
    some (String.ofList certificate, String.ofList key)
  else none

/-- What stands before the first colon. -/
theorem takeWhile_ne_colon {before : List Char} (hbefore : ':' ∉ before) (after : List Char) :
    (before ++ ':' :: after).takeWhile (· ≠ ':') = before := by
  rw [List.takeWhile_append_of_pos]
  · simp
  · intro c hc
    simpa using fun heq : c = ':' ↦ hbefore (heq ▸ hc)

theorem declaredPair?_of_colon {before after : List Char} (hbefore : ':' ∉ before)
    (hcerts : certs.toList = before ++ ':' :: after) :
    declaredPair? certs =
      if ':' ∉ after ∧ before ≠ [] ∧ after ≠ [] then
        some (String.ofList before, String.ofList after)
      else none := by
  have hkey : (before ++ ':' :: after).drop (before.length + 1) = after := by simp
  simp only [declaredPair?, hcerts, takeWhile_ne_colon hbefore, hkey]
  simp [List.count_append, List.count_eq_zero.mpr hbefore, List.count_eq_zero]

theorem declaredPair?_of_no_colon (hcerts : ':' ∉ certs.toList) : declaredPair? certs = none := by
  simp [declaredPair?, List.count_eq_zero.mpr hcerts]

/-- A declaration is made of a certificate, a colon and a key, and there is no other colon. -/
theorem declaredPair?_eq_some_iff :
    declaredPair? certs = some (certificate, key) ↔
      certs = certificate ++ ":" ++ key ∧ certificate ≠ "" ∧ key ≠ "" ∧
        ':' ∉ certificate.toList ∧ ':' ∉ key.toList := by
  constructor
  · intro h
    have hmem : ':' ∈ certs.toList := Decidable.byContradiction fun hmem ↦ by
      rw [declaredPair?_of_no_colon hmem] at h
      cases h
    obtain ⟨before, after, hcerts, hbefore⟩ := List.eq_append_cons_of_mem hmem
    rw [declaredPair?_of_colon hbefore hcerts] at h
    split at h
    · next hparts =>
      obtain ⟨rfl, rfl⟩ : String.ofList before = certificate ∧ String.ofList after = key := by
        simpa using h
      refine ⟨String.toList_injective ?_, ?_, ?_, ?_, ?_⟩ <;> simp_all
    · cases h
  · rintro ⟨rfl, hcertificate, hkey, hbefore, hafter⟩
    have hcerts : (certificate ++ ":" ++ key).toList = certificate.toList ++ ':' :: key.toList := by
      simp
    rw [declaredPair?_of_colon hbefore hcerts]
    simp [hcertificate, hkey, hafter]

/-- Of all texts the declarations are accepted, and each other text is refused. -/
theorem declaredPair_eq (certs : String) :
    declaredPair certs =
      match declaredPair? certs with
      | some pair => .ok pair
      | none => .error (.badCerts certs) := by
  by_cases hmem : ':' ∈ certs.toList
  · obtain ⟨before, after, hcerts, hbefore⟩ := List.eq_append_cons_of_mem hmem
    rw [declaredPair, declaredPair?_of_colon hbefore hcerts, hcerts,
      List.splitOn_append_cons_self_of_not_mem hbefore]
    by_cases hafter : ':' ∈ after
    · obtain ⟨first, second, rfl, hfirst⟩ := List.eq_append_cons_of_mem hafter
      rw [List.splitOn_append_cons_self_of_not_mem hfirst]
      cases hrest : second.splitOn ':' with
      | nil => exact absurd hrest (List.splitOn_ne_nil ':' second)
      | cons third rest => simp
    · rw [List.splitOn_eq_singleton hafter]
      by_cases hempty : before = [] ∨ after = []
      · rcases hempty with rfl | rfl <;> simp
      · simp_all
  · rw [declaredPair, declaredPair?_of_no_colon hmem, List.splitOn_eq_singleton hmem]

/-- Nothing is left of a text when all its characters are blank. -/
theorem trimBlanks_eq_empty_iff {text : String} :
    Text.trimBlanks text = "" ↔ text.toList.all Text.isBlank = true := by
  rw [List.all_eq_true, ← Text.trimEnds_eq_nil_iff, ← Text.toList_trimBlanks,
    String.toList_eq_nil_iff]

/-- The files of an encrypted listener are the declared ones. -/
theorem declaredPair?_of_checkTls {disk : Disk.Node} {domain : String} {files : TlsFiles}
    (h : checkTls disk domain certs = .ok files) :
    declaredPair? certs = some (files.certificate, files.key) := by
  rw [checkTls] at h
  split at h
  · cases h
  · rw [declaredPair_eq] at h
    cases hpair : declaredPair? certs with
    | none => rw [hpair] at h; cases h
    | some pair =>
      rw [hpair] at h
      change (if _ then _ else if _ then _ else _) = Except.ok files at h
      split at h
      · cases h
      · split at h <;> cases h
        rfl

end WebGateway.Config
