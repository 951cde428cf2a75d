import WebGateway.Assets.Bundle
import WebGateway.Http.Uri
import WebGateway.Proofs.Routing.Decision

/-!
# Where a redirect leads

A directory that is named without its trailing slash is redirected to the path as it was asked for,
with the slash behind it (`exists_location_of_status_respond`). The key under which the directory is
found has no empty segments, but the path may begin with one: two slashes in front of a reference
name a host, and a client that follows such a redirect leaves the server. It stays exactly when the
path begins with a single slash (`isAbsolutePath_location_iff`).
-/

set_option autoImplicit false
set_option relaxedAutoImplicit false

namespace WebGateway.Assets

open Http (HeaderValue Headers Method Uri)

variable {bundle : Bundle} {method : Method} {path : String}

/-- The reference begins with a slash and not with two, so that it names no host. -/
def IsAbsolutePath (reference : List Char) : Prop :=
  ['/'] <+: reference ∧ ¬['/', '/'] <+: reference

instance (reference : List Char) : Decidable (IsAbsolutePath reference) :=
  inferInstanceAs (Decidable (_ ∧ _))

/-- The host that a reference names, if it names one, and the path there. -/
structure Destination where
  host : Option (List Char)
  path : List Char
deriving DecidableEq, Repr

/-- Where a client goes that follows a reference without query and fragment. -/
def Destination.ofReference : List Char → Destination
  | '/' :: '/' :: rest =>
    ⟨some (rest.takeWhile fun c ↦ !Uri.endsAuthority c),
      rest.dropWhile fun c ↦ !Uri.endsAuthority c⟩
  | path => ⟨none, path⟩

theorem Destination.ofReference_eq_iff {reference : List Char} :
    Destination.ofReference reference = ⟨none, reference⟩ ↔ ¬['/', '/'] <+: reference := by
  unfold Destination.ofReference
  split
  · simp
  · next hreference =>
    refine ⟨fun _ ↦ ?_, fun _ ↦ rfl⟩
    rintro ⟨rest, rfl⟩
    exact hreference rest rfl

/-! ### Redirects of a bundle -/

namespace Bundle

/-- Only a path without a slash at its end is redirected, to itself with the slash. -/
theorem eq_append_of_redirect? {location : String} (h : bundle.redirect? path = some location) :
    namesDirectory path = false ∧ location = path ++ "/" := by
  rw [redirect?] at h
  split at h
  · cases h
  · next hname =>
    cases hkey : key? path with
    | none => simp [hkey] at h
    | some key =>
      simp only [hkey] at h
      split at h
      · exact ⟨by simpa using hname, (Option.some.inj h).symm⟩
      · cases h

theorem status_serve (method : Method) (resolution : Resolution) :
    (serve method resolution).status = 200 :=
  rfl

theorem exists_location_of_status_respond (h : (bundle.respond method path).status = 301) :
    ∃ location, (bundle.respond method path).headers.values .location = [location] ∧
      Text.ofUtf8? location.octets = some (path ++ "/").toList ∧ namesDirectory path = false := by
  rw [respond] at h ⊢
  cases hlocation : bundle.location? path with
  | none =>
    rw [hlocation, status_serve] at h
    cases h
  | some location =>
    obtain ⟨text, htext, hvalue⟩ := Option.bind_eq_some_iff.mp hlocation
    obtain ⟨hname, rfl⟩ := eq_append_of_redirect? htext
    refine ⟨location, by simp [Headers.values_add], ?_, hname⟩
    rw [HeaderValue.ofText?, HeaderValue.ofOctets?] at hvalue
    split at hvalue
    · rw [← Option.some.inj hvalue]
      exact Text.ofUtf8?_utf8 _
    · cases hvalue

end Bundle

/-- The slash behind a path makes no second slash in front of it. -/
theorem prefix_append_slash_iff (hname : namesDirectory path = false) :
    ['/', '/'] <+: path.toList ++ ['/'] ↔ ['/', '/'] <+: path.toList := by
  rw [namesDirectory] at hname
  match hpath : path.toList with
  | [] => simp
  | [c] =>
    have hne : c ≠ '/' := by
      rintro rfl
      simp [hpath] at hname
    simp [List.cons_prefix_cons, Ne.symm hne]
  | first :: second :: rest => simp [List.cons_prefix_cons]

/-- A bundle with a directory that has an index document. -/
def docsBundle : Bundle :=
  ⟨[(indexName, .empty), ("docs/index.html", .empty)], .empty, by decide +kernel, rfl⟩

/-- A redirect is written as the path with a slash behind it. It is an absolute path, and leads a
client to that path on the host that it asked, exactly when the path does not begin with two
slashes. -/
theorem isAbsolutePath_location_iff (hslash : Routing.startsWithSlash path = true)
    (hstatus : (bundle.respond method path).status = 301) :
    ∃ location, (bundle.respond method path).headers.values .location = [location] ∧
      Text.ofUtf8? location.octets = some (path.toList ++ ['/']) ∧
      (IsAbsolutePath (path.toList ++ ['/']) ↔ ¬['/', '/'] <+: path.toList) ∧
      (Destination.ofReference (path.toList ++ ['/']) = ⟨none, path.toList ++ ['/']⟩ ↔
        ¬['/', '/'] <+: path.toList) := by
  obtain ⟨location, hvalues, htext, hname⟩ := Bundle.exists_location_of_status_respond hstatus
  have hreference : (path ++ "/").toList = path.toList ++ ['/'] := String.toList_append
  have hfront : ['/'] <+: path.toList ++ ['/'] := by
    rw [Routing.startsWithSlash, beq_iff_eq, List.head?_eq_some_iff] at hslash
    obtain ⟨rest, hrest⟩ := hslash
    exact ⟨rest ++ ['/'], by rw [hrest]; rfl⟩
  rw [hreference] at htext
  refine ⟨location, hvalues, htext, ?_, ?_⟩
  · rw [IsAbsolutePath, prefix_append_slash_iff hname]
    exact and_iff_right hfront
  · rw [Destination.ofReference_eq_iff, prefix_append_slash_iff hname]

/-- With a single slash in front the client stays. -/
theorem isAbsolutePath_location_docs :
    ∃ location, (docsBundle.respond .get "/docs").headers.values .location = [location] ∧
      Text.ofUtf8? location.octets = some "/docs/".toList ∧ IsAbsolutePath "/docs/".toList := by
  have hslash : Routing.startsWithSlash "/docs" = true := by decide +kernel
  have hstatus : (docsBundle.respond .get "/docs").status = 301 := by decide +kernel
  obtain ⟨location, hvalues, htext, habsolute, -⟩ := isAbsolutePath_location_iff hslash hstatus
  have hdocs : "/docs".toList ++ ['/'] = "/docs/".toList := by decide +kernel
  rw [hdocs] at htext habsolute
  exact ⟨location, hvalues, htext, habsolute.mpr (by decide +kernel)⟩

/-- With two slashes in front, which a request may have, the client is sent to another host. -/
theorem location_of_doubled_slash :
    Uri.parse "//docs" = .ok ⟨none, none, "//docs", none⟩ ∧
      Routing.Table.default.resolve .get "//docs" = .handled .static ∧
      (docsBundle.respond .get "//docs").status = 301 ∧
      (docsBundle.respond .get "//docs").headers.values .location = [.ofAscii "//docs/"] ∧
      ¬IsAbsolutePath "//docs/".toList ∧
      Destination.ofReference "//docs/".toList = ⟨some "docs".toList, ['/']⟩ := by
  refine ⟨rfl, ?_, by decide +kernel, by decide +kernel, by decide +kernel, by decide +kernel⟩
  rw [Routing.Table.default, Routing.resolve_rulesFor]
  decide +kernel

end WebGateway.Assets
