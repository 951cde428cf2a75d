import WebGateway.Proofs.Assets.Redirection
import WebGateway.Proofs.Assets.Spelling

/-!
# Directories named without their slash

A slash behind a path adds an empty segment, which says nothing about where to go: it leaves the
steps of the path as they are and only asks for the index document behind them
(`key?_append_slash`). So the path to which a directory is redirected leads to the index document of
that directory, under every spelling of it, and is not redirected again
(`redirect?_leads_to_index`).
-/

set_option autoImplicit false
set_option relaxedAutoImplicit false

namespace WebGateway.Assets

variable {path key : String}

/-- The key of the index document of a directory. -/
def indexKey (directory : String) : String :=
  directory ++ "/" ++ indexName

theorem intercalate_append_singleton {α : Type} (separator last : List α) {lists : List (List α)}
    (h : lists ≠ []) : separator.intercalate (lists ++ [last]) =
      separator.intercalate lists ++ separator ++ last := by
  induction lists with
  | nil => exact absurd rfl h
  | cons first rest ih =>
    by_cases hrest : rest = []
    · subst hrest
      simp
    · have hmore : rest ++ [last] ≠ [] := List.append_ne_nil_of_left_ne_nil hrest [last]
      rw [List.cons_append, List.intercalate_cons_of_ne_nil hmore,
        List.intercalate_cons_of_ne_nil hrest, ih hrest]
      simp only [List.append_assoc]

/-! ### A slash behind a path -/

theorem namesDirectory_append_slash (path : String) : namesDirectory (path ++ "/") = true := by
  have hslash : (path ++ "/").toList = path.toList ++ ['/'] := String.toList_append
  rw [namesDirectory, hslash, List.getLast?_concat]
  rfl

/-- The empty segment behind the slash says nothing about where to go. -/
theorem steps?_append_slash (path : String) : steps? (path ++ "/") = steps? path := by
  have hslash : (path ++ "/").toList = path.toList ++ '/' :: [] := String.toList_append
  have hempty : segment? [] = some [] := by decide
  rw [steps?, steps?, hslash, List.splitOn_append_cons_self, List.splitOn_nil, List.mapM_append]
  cases (path.toList.splitOn '/').mapM segment? with
  | none => rfl
  | some segments => simp [hempty, isStep]

/-- The slash behind a path asks for the index document below the key of the path. Only a path
without any step is asked for that document itself. -/
theorem key?_append_slash (hname : namesDirectory path = false) (hkey : key? path = some key)
    (hindex : key ≠ indexName) : key? (path ++ "/") = some (indexKey key) := by
  rw [key?, Option.map_eq_some_iff] at hkey
  obtain ⟨steps, hsteps, hjoined⟩ := hkey
  simp only [hname, Bool.false_eq_true, or_false] at hjoined
  have hne : steps ≠ [] := by
    rintro rfl
    refine hindex ?_
    rw [← hjoined]
    simp
  rw [if_neg hne] at hjoined
  rw [key?, steps?_append_slash, hsteps, Option.map_some, namesDirectory_append_slash]
  simp only [or_true, if_true]
  rw [intercalate_append_singleton _ _ hne, indexKey, ← hjoined, Option.some.injEq,
    String.ofList_append, String.ofList_append, String.ofList_toList]

/-! ### Redirects -/

namespace Bundle

variable {bundle : Bundle} {location : String}

theorem has_eq_true_iff : bundle.has key = true ↔ ∃ body, bundle.files.lookup key = some body := by
  rw [has, Option.isSome_iff_exists]

theorem has_eq_false_iff : bundle.has key = false ↔ bundle.files.lookup key = none := by
  rw [has, Option.isSome_eq_false_iff, Option.isNone_iff_eq_none]

/-- A path is redirected exactly when it has no slash at its end and leads to no file, but to a
directory with an index document. -/
theorem redirect?_eq_some_iff : bundle.redirect? path = some location ↔
    location = path ++ "/" ∧ namesDirectory path = false ∧ ∃ key body, key? path = some key ∧
      bundle.files.lookup key = none ∧ bundle.files.lookup (indexKey key) = some body := by
  rw [redirect?]
  cases hname : namesDirectory path with
  | true => simp
  | false =>
    cases hkey : key? path with
    | none => simp
    | some key =>
      have hdirectory : (!bundle.has key && bundle.has (key ++ "/" ++ indexName)) = true ↔
          bundle.files.lookup key = none ∧
            ∃ body, bundle.files.lookup (indexKey key) = some body := by
        rw [Bool.and_eq_true, Bool.not_eq_true', has_eq_false_iff, has_eq_true_iff]
        rfl
      simp only [hdirectory, Bool.false_eq_true, if_false, Option.ite_none_right_eq_some,
        Option.some.injEq, true_and]
      constructor
      · rintro ⟨⟨hmissing, body, hindex⟩, rfl⟩
        exact ⟨rfl, key, body, rfl, hmissing, hindex⟩
      · rintro ⟨rfl, other, body, rfl, hmissing, hindex⟩
        exact ⟨⟨hmissing, body, hindex⟩, rfl⟩

/-- A path that names a directory is never redirected. -/
theorem redirect?_of_namesDirectory (h : namesDirectory path = true) :
    bundle.redirect? path = none := by
  rw [redirect?, if_pos h]

end Bundle

/-- A path is redirected exactly when it does not end with a slash and its key is that of no file
but of a directory with an index document, and then to itself with a slash behind it. Until it is
followed the path is answered with the index document at the top; the location is not redirected
again, and is answered with the index document of the directory. -/
theorem redirect?_leads_to_index (bundle : Bundle) (path : String) :
    (∀ location, bundle.redirect? path = some location ↔
      location = path ++ "/" ∧ path.toList.getLast? ≠ some '/' ∧ ∃ key body,
        key? path = some key ∧ bundle.files.lookup key = none ∧
          bundle.files.lookup (indexKey key) = some body) ∧
    (∀ location, bundle.redirect? path = some location →
      bundle.resolve path = .fallback bundle.indexAsset ∧
      bundle.redirect? location = none ∧
      ∃ key body asset, key? path = some key ∧ bundle.files.lookup (indexKey key) = some body ∧
        asset.body = body ∧ asset.contentType = (MediaType.ofKey (indexKey key)).headerValue ∧
        bundle.resolve location = .exact asset ∧
        ∀ method, bundle.respond method location = Bundle.serve method (.exact asset)) := by
  constructor
  · intro location
    have hname : namesDirectory path = false ↔ path.toList.getLast? ≠ some '/' := by
      rw [namesDirectory, beq_eq_false_iff_ne]
    rw [Bundle.redirect?_eq_some_iff, hname]
  · intro location hlocation
    obtain ⟨rfl, hname, key, body, hkey, hmissing, hfile⟩ :=
      Bundle.redirect?_eq_some_iff.mp hlocation
    have hnotIndex : key ≠ indexName := by
      rintro rfl
      rw [bundle.lookup_index] at hmissing
      cases hmissing
    have hleads : bundle.resolve (path ++ "/") = .exact (.ofFile (indexKey key) body) :=
      Bundle.resolve_of_key? (key?_append_slash hname hkey hnotIndex) hfile
    have hagain : bundle.redirect? (path ++ "/") = none :=
      Bundle.redirect?_of_namesDirectory (namesDirectory_append_slash path)
    refine ⟨?_, hagain, key, body, .ofFile (indexKey key) body, hkey, hfile,
      Asset.body_ofFile _ _, Asset.contentType_ofFile _ _, hleads, fun method ↦ ?_⟩
    · rw [Bundle.resolve, hkey, Option.bind_some, Bundle.get?, hmissing, Option.map_none]
    · rw [Bundle.respond, Bundle.location?, hagain, hleads]
      rfl

/-- Segments that go nowhere may stand behind the name of the directory. -/
theorem redirect?_docs_leads_to_index :
    docsBundle.redirect? "/.//d%6Fcs/." = some "/.//d%6Fcs/./" ∧
      ∃ asset, docsBundle.resolve "/.//d%6Fcs/./" = .exact asset ∧ asset.body = .empty ∧
        asset.contentType = (MediaType.ofKey "docs/index.html").headerValue := by
  have hlocation : docsBundle.redirect? "/.//d%6Fcs/." = some "/.//d%6Fcs/./" := by
    decide
  obtain ⟨-, -, key, body, asset, hkey, hfile, hbody, htype, hleads, -⟩ :=
    (redirect?_leads_to_index docsBundle "/.//d%6Fcs/.").2 _ hlocation
  have hdocs : key? "/.//d%6Fcs/." = some "docs" := by decide
  obtain rfl : "docs" = key := Option.some.inj (hdocs.symm.trans hkey)
  obtain rfl : ByteArray.empty = body := Option.some.inj hfile
  exact ⟨hlocation, asset, hleads, hbody, htype⟩

end WebGateway.Assets
