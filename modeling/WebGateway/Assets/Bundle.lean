import WebGateway.Assets.Key
import WebGateway.Assets.MediaType
import WebGateway.Http.Response

/-!
# Asset bundles

A bundle is a set of files under distinct keys, one of which is the index document at its top.
Every path resolves: to the file under its key, or else to that index document. A directory that is
named without its trailing slash is redirected to its name with the slash, so that relative links
in its own index document are resolved inside the directory.
-/

set_option autoImplicit false
set_option relaxedAutoImplicit false

namespace WebGateway.Assets

open Http (HeaderValue Headers Method Response)

/-- Files under their keys, each key once. -/
abbrev Files :=
  List (String × ByteArray)

namespace Files

/-- Puts a file under a key, in the place of the one that was there. -/
def store (files : Files) (key : String) (body : ByteArray) : Files :=
  (key, body) :: files.filter fun file ↦ file.1 ≠ key

/-- The key without the slashes in front. -/
def trimKey (key : String) : String :=
  String.ofList (key.toList.dropWhile (· == '/'))

/-- Exactly the slashes in front go. -/
theorem trimKey_eq_iff {key trimmed : String} : trimKey key = trimmed ↔
    trimmed.toList.head? ≠ some '/' ∧
      ∃ count, key.toList = List.replicate count '/' ++ trimmed.toList := by
  constructor
  · rintro rfl
    rw [trimKey, String.toList_ofList]
    constructor
    · intro hslash
      have hnot := List.head?_dropWhile_not (· == '/') key.toList
      rw [hslash] at hnot
      exact absurd hnot (by decide)
    · have hslashes : ∀ c ∈ key.toList.takeWhile (· == '/'), c = '/' := fun c hc ↦
        beq_iff_eq.mp (List.all_eq_true.mp List.all_takeWhile c hc)
      refine ⟨(key.toList.takeWhile (· == '/')).length, ?_⟩
      rw [← List.eq_replicate_of_mem hslashes, List.takeWhile_append_dropWhile]
  · rintro ⟨hhead, count, hkey⟩
    have hrest : trimmed.toList.dropWhile (· == '/') = trimmed.toList := by
      cases htrimmed : trimmed.toList with
      | nil => rfl
      | cons first rest =>
        rw [htrimmed, List.head?_cons] at hhead
        exact List.dropWhile_cons_of_neg fun hslash ↦ hhead (congrArg some (beq_iff_eq.mp hslash))
    rw [trimKey, hkey, List.dropWhile_append_of_pos, hrest, String.ofList_toList]
    intro c hc
    exact beq_iff_eq.mpr (List.eq_of_mem_replicate hc)

/-- The files that a list of entries leaves, where later entries replace earlier ones. -/
def ofEntries (entries : List (String × ByteArray)) : Files :=
  entries.foldl (fun files entry ↦ files.store (trimKey entry.1) entry.2) []

theorem nodup_keys_store {files : Files} (h : (files.map Prod.fst).Nodup) (key : String)
    (body : ByteArray) : ((files.store key body).map Prod.fst).Nodup := by
  rw [store, List.map_cons, List.nodup_cons]
  constructor
  · simp
  · exact h.sublist (List.filter_sublist.map Prod.fst)

theorem nodup_keys_ofEntries (entries : List (String × ByteArray)) :
    ((ofEntries entries).map Prod.fst).Nodup := by
  have hgeneral : ∀ (rest : List (String × ByteArray)) (files : Files),
      (files.map Prod.fst).Nodup →
      ((rest.foldl (fun files entry ↦ files.store (trimKey entry.1) entry.2) files).map
        Prod.fst).Nodup := by
    intro rest
    induction rest with
    | nil => exact fun _ h ↦ h
    | cons entry rest ih => exact fun files h ↦ ih _ (nodup_keys_store h _ _)
  exact hgeneral entries [] List.nodup_nil

end Files

/-- A file as it is served. -/
structure Asset where
  body : ByteArray
  contentType : HeaderValue

/-- The asset that a file under a key is. -/
def Asset.ofFile (key : String) (body : ByteArray) : Asset :=
  ⟨body, (MediaType.ofKey key).headerValue⟩

@[simp]
theorem Asset.body_ofFile (key : String) (body : ByteArray) : (ofFile key body).body = body := by
  rw [ofFile]

@[simp]
theorem Asset.contentType_ofFile (key : String) (body : ByteArray) :
    (ofFile key body).contentType = (MediaType.ofKey key).headerValue := by
  rw [ofFile]

theorem Asset.eq_ofFile_iff {asset : Asset} {key : String} {body : ByteArray} :
    asset = ofFile key body ↔
      asset.body = body ∧ asset.contentType = (MediaType.ofKey key).headerValue := by
  obtain ⟨held, declared⟩ := asset
  rw [ofFile, mk.injEq]

/-- A path names a file of the bundle, or it is answered with the index document. -/
inductive Resolution where
  | exact (asset : Asset)
  | fallback (asset : Asset)

namespace Resolution

def asset : Resolution → Asset
  | exact asset => asset
  | fallback asset => asset

def isFallback : Resolution → Bool
  | exact _ => false
  | fallback _ => true

end Resolution

structure Bundle where
  files : Files
  index : ByteArray
  nodup_keys : (files.map Prod.fst).Nodup
  lookup_index : files.lookup indexName = some index

namespace Bundle

/-- The bundle of a list of entries, if one of them is the index document at the top. -/
def ofEntries? (entries : List (String × ByteArray)) : Option Bundle :=
  match h : (Files.ofEntries entries).lookup indexName with
  | some index => some ⟨.ofEntries entries, index, Files.nodup_keys_ofEntries entries, h⟩
  | none => none

def size (bundle : Bundle) : Nat :=
  bundle.files.length

def isEmpty (bundle : Bundle) : Bool :=
  bundle.files.isEmpty

/-- The asset stored under a key. -/
def get? (bundle : Bundle) (key : String) : Option Asset :=
  (bundle.files.lookup key).map (Asset.ofFile key)

def has (bundle : Bundle) (key : String) : Bool :=
  (bundle.files.lookup key).isSome

/-- The asset that every path without a file of its own is answered with. -/
def indexAsset (bundle : Bundle) : Asset :=
  .ofFile indexName bundle.index

def resolve (bundle : Bundle) (path : String) : Resolution :=
  match (key? path).bind bundle.get? with
  | some asset => .exact asset
  | none => .fallback bundle.indexAsset

/-- The path with a slash after it, when it names a directory that has an index document. -/
def redirect? (bundle : Bundle) (path : String) : Option String :=
  if namesDirectory path then none
  else
    match key? path with
    | some key =>
      if !bundle.has key && bundle.has (key ++ "/" ++ indexName) then some (path ++ "/")
      else none
    | none => none

/-- The value of the `Location` field that sends a path to its directory, where there is one that
can be written in a field. -/
def location? (bundle : Bundle) (path : String) : Option HeaderValue :=
  (bundle.redirect? path).bind HeaderValue.ofText?

/-- Sends the asset; only the body is left out for `HEAD`. -/
def serve (method : Method) (resolution : Resolution) : Response :=
  let asset := resolution.asset
  let described := (Headers.empty.add .contentType asset.contentType).add .contentLength
    (.ofNat asset.body.size)
  { status := 200
    headers :=
      if resolution.isFallback then described.add .cacheControl (.ofAscii "no-cache")
      else described
    body := if method = .head then .empty else .sized asset.body }

/-- Answers a `GET` or `HEAD` request. -/
def respond (bundle : Bundle) (method : Method) (path : String) : Response :=
  match bundle.location? path with
  | some location => { Response.bare 301 with headers := Headers.empty.add .location location }
  | none => serve method (bundle.resolve path)

end Bundle

end WebGateway.Assets
