import WebGateway.Proofs.Http.UriReading

/-!
# Authorities of a host and a port

The reader of an authority passes the characters of a name without learning anything, and it counts
the colons (`foldlM_step_of_isNameChar`). So it takes a name or a bracketed text with a port behind
it (`parseAuthority_of_name`, `parseAuthority_of_bracketed`). It stops at the first character that
stands in no authority (`parseAuthority_of_isForeign`).
-/

set_option autoImplicit false
set_option relaxedAutoImplicit false

namespace WebGateway.Http.Uri

/-- The character stands in an authority and means nothing there. -/
def isNameChar (c : Char) : Bool :=
  isAuthorityChar c && !":[]@".toList.contains c

/-- The character stands in no authority and does not end one. -/
def isForeign (c : Char) : Bool :=
  !isAuthorityChar c && c != '%' && !endsAuthority c

/-! ### Steps -/

theorem isNameChar_iff {c : Char} :
    isNameChar c = true ↔ isAuthorityChar c = true ∧ c ≠ ':' ∧ c ≠ '[' ∧ c ≠ ']' ∧ c ≠ '@' := by
  simp [isNameChar]

theorem step_of_isNameChar {c : Char} (hc : isNameChar c = true) {scan : AuthorityScan}
    (hat : scan.afterAt = false) : scan.step c = .ok scan := by
  obtain ⟨haccepted, hcolon, hopen, hclose, hnotAt⟩ := isNameChar_iff.mp hc
  have hpercent : c ≠ '%' := by
    rintro rfl
    exact absurd haccepted (by decide)
  have hsame : { scan with afterAt := c == '@' } = scan := by
    rw [beq_false_of_ne hnotAt, ← hat]
  simp [AuthorityScan.step, haccepted, hcolon, hopen, hclose, hnotAt, hpercent, hsame]

theorem step_colon {scan : AuthorityScan} (hcolons : scan.colons < 8)
    (hat : scan.afterAt = false) :
    scan.step ':' = .ok { scan with colons := scan.colons + 1 } := by
  simp [AuthorityScan.step, Nat.not_le.mpr hcolons, hat]

theorem step_of_isForeign {c : Char} (hc : isForeign c = true) (scan : AuthorityScan) :
    scan.step c = .error .badCharacter := by
  simp only [isForeign, Bool.and_eq_true, Bool.not_eq_true', bne_iff_ne] at hc
  exact step_of_not_isAuthorityChar hc.1.2 hc.1.1 scan

/-! ### Texts -/

/-- Behind a name with a few colons only their number has changed. -/
theorem foldlM_step_of_isNameChar {text : List Char}
    (h : ∀ c ∈ text, isNameChar c = true ∨ c = ':') (scan : AuthorityScan)
    (hcolons : scan.colons + text.count ':' ≤ 8) (hat : scan.afterAt = false) :
    text.foldlM AuthorityScan.step scan =
      .ok { scan with colons := scan.colons + text.count ':' } := by
  induction text generalizing scan with
  | nil => rfl
  | cons c rest ih =>
    have hrest : ∀ d ∈ rest, isNameChar d = true ∨ d = ':' :=
      fun d hd ↦ h d (List.mem_cons_of_mem c hd)
    rw [List.foldlM_cons]
    rcases h c List.mem_cons_self with hname | rfl
    · have hcolon : c ≠ ':' := (isNameChar_iff.mp hname).2.1
      rw [List.count_cons_of_ne hcolon] at hcolons ⊢
      rw [step_of_isNameChar hname hat]
      exact ih hrest scan hcolons hat
    · rw [List.count_cons_self] at hcolons ⊢
      have hsum : scan.colons + (rest.count ':' + 1) = scan.colons + 1 + rest.count ':' := by omega
      rw [hsum] at hcolons ⊢
      rw [step_colon (by omega) hat]
      exact ih hrest { scan with colons := scan.colons + 1 } hcolons hat

/-- A text whose characters can all be passed is an authority when the whole is accepted. -/
theorem parseAuthority_of_foldlM {text : List Char} {scan : AuthorityScan} (hne : text ≠ [])
    (hends : ∀ c ∈ text, endsAuthority c = false)
    (hscan : text.foldlM AuthorityScan.step .start = .ok scan) (haccepts : scan.accepts = true) :
    parseAuthority (String.ofList text) = .ok (String.ofList text) := by
  have hall : ∀ c ∈ text, (!endsAuthority c) = true := by
    intro c hc
    rw [hends c hc]
    rfl
  have hsplit : splitAuthority text = .ok (text, []) :=
    splitAuthority_eq_ok_iff.mpr ⟨(List.takeWhile_eq_self_iff.mpr hall).symm,
      (List.dropWhile_eq_nil_iff.mpr hall).symm, scan, hscan, haccepts⟩
  exact parseAuthority_of_splitAuthority hsplit hne

theorem endsAuthority_of_isNameChar {c : Char} (hc : isNameChar c = true) :
    endsAuthority c = false := by
  have haccepted := (isNameChar_iff.mp hc).1
  rw [Bool.eq_false_iff]
  intro hends
  simp only [endsAuthority, Bool.or_eq_true, beq_iff_eq] at hends
  rcases hends with (rfl | rfl) | rfl <;> revert haccepted <;> decide

theorem count_colon_of_isNameChar {text : List Char} (h : ∀ c ∈ text, isNameChar c = true) :
    text.count ':' = 0 := by
  rw [List.count_eq_zero]
  intro hcolon
  exact (isNameChar_iff.mp (h ':' hcolon)).2.1 rfl

/-! ### Hosts with ports -/

section Hosts

variable {name inner port : List Char} (hport : ∀ c ∈ port, isNameChar c = true)

include hport

theorem isNameChar_or_eq_colon_of_mem {c : Char} (hc : c ∈ ':' :: port) :
    isNameChar c = true ∨ c = ':' := by
  rcases List.mem_cons.mp hc with rfl | hc
  · exact Or.inr rfl
  · exact Or.inl (hport c hc)

theorem count_colon_port : (':' :: port).count ':' = 1 := by
  rw [List.count_cons_self, count_colon_of_isNameChar hport]

/-- A name with a port behind it is an authority. -/
theorem parseAuthority_of_name (hname : ∀ c ∈ name, isNameChar c = true) :
    parseAuthority (String.ofList (name ++ ':' :: port)) =
      .ok (String.ofList (name ++ ':' :: port)) := by
  have hchars : ∀ c ∈ name ++ ':' :: port, isNameChar c = true ∨ c = ':' := by
    intro c hc
    rcases List.mem_append.mp hc with hc | hc
    · exact Or.inl (hname c hc)
    · exact isNameChar_or_eq_colon_of_mem hport hc
  have hcount : (name ++ ':' :: port).count ':' = 1 := by
    rw [List.count_append, count_colon_of_isNameChar hname, count_colon_port hport]
  have hscan := foldlM_step_of_isNameChar hchars .start (by rw [hcount]; decide) rfl
  rw [hcount] at hscan
  refine parseAuthority_of_foldlM (by simp) ?_ hscan rfl
  intro c hc
  rcases hchars c hc with hc | rfl
  · exact endsAuthority_of_isNameChar hc
  · rfl

/-- A text in brackets with a port behind it is an authority, if it has at most eight colons. -/
theorem parseAuthority_of_bracketed (hinner : ∀ c ∈ inner, isNameChar c = true ∨ c = ':')
    (hcolons : inner.count ':' ≤ 8) :
    parseAuthority (String.ofList ('[' :: inner ++ ']' :: ':' :: port)) =
      .ok (String.ofList ('[' :: inner ++ ']' :: ':' :: port)) := by
  have hinside := foldlM_step_of_isNameChar hinner ⟨0, true, false, false, false⟩
    (by rwa [Nat.zero_add]) rfl
  have hbehind := foldlM_step_of_isNameChar
    (fun c hc ↦ isNameChar_or_eq_colon_of_mem hport hc) ⟨0, true, true, false, false⟩
    (by rw [count_colon_port hport]; decide) rfl
  rw [count_colon_port hport] at hbehind
  have hscan : ('[' :: inner ++ ']' :: ':' :: port).foldlM AuthorityScan.step .start =
      .ok ⟨1, true, true, false, false⟩ := by
    rw [List.foldlM_append, List.foldlM_cons]
    show ((inner.foldlM AuthorityScan.step ⟨0, true, false, false, false⟩) >>= _) = _
    rw [hinside]
    exact hbehind
  refine parseAuthority_of_foldlM (by simp) ?_ hscan rfl
  intro c hc
  simp only [List.cons_append, List.mem_cons, List.mem_append] at hc
  rcases hc with rfl | hc | rfl | rfl | hc
  · rfl
  · rcases hinner c hc with hc | rfl
    · exact endsAuthority_of_isNameChar hc
    · rfl
  · rfl
  · rfl
  · exact endsAuthority_of_isNameChar (hport c hc)

end Hosts

/-! ### Foreign characters -/

section Foreign

variable {text : List Char} (hall : ∀ c ∈ text, isNameChar c = true ∨ isForeign c = true)
  (hforeign : ∃ c ∈ text, isForeign c = true) (rest : List Char)

include hall hforeign

theorem foldlM_step_of_isForeign (scan : AuthorityScan) (hat : scan.afterAt = false) :
    (text ++ rest).foldlM AuthorityScan.step scan = .error .badCharacter := by
  induction text with
  | nil =>
    obtain ⟨c, hc, -⟩ := hforeign
    exact absurd hc List.not_mem_nil
  | cons c text ih =>
    rw [List.cons_append, List.foldlM_cons]
    by_cases hc : isForeign c = true
    · rw [step_of_isForeign hc]
      rfl
    · have hname : isNameChar c = true := (hall c List.mem_cons_self).resolve_right hc
      have hlater : ∃ d ∈ text, isForeign d = true := by
        obtain ⟨d, hd, hdforeign⟩ := hforeign
        rcases List.mem_cons.mp hd with rfl | hd
        · exact absurd hdforeign hc
        · exact ⟨d, hd, hdforeign⟩
      rw [step_of_isNameChar hname hat]
      exact ih (fun d hd ↦ hall d (List.mem_cons_of_mem c hd)) hlater

/-- A name with a foreign character is no authority, whatever follows it. -/
theorem parseAuthority_of_isForeign :
    parseAuthority (String.ofList (text ++ rest)) = .error .badCharacter := by
  have hends : ∀ c ∈ text, (!endsAuthority c) = true := by
    intro c hc
    rcases hall c hc with hc | hc
    · rw [endsAuthority_of_isNameChar hc]
      rfl
    · exact (Bool.and_eq_true_iff.mp hc).2
  have hne : String.ofList (text ++ rest) ≠ "" := by
    obtain ⟨c, hc, -⟩ := hforeign
    intro hempty
    rw [← String.toList_inj, String.toList_ofList] at hempty
    have hnil : text = [] := (List.append_eq_nil_iff.mp hempty).1
    rw [hnil] at hc
    exact List.not_mem_nil hc
  rw [parseAuthority, if_neg hne, String.toList_ofList, splitAuthority,
    List.takeWhile_append_of_pos hends, foldlM_step_of_isForeign hall hforeign _ _ rfl]
  rfl

end Foreign

end WebGateway.Http.Uri
