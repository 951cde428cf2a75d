import WebGateway.Proofs.Assets.Containment
import WebGateway.Proofs.Text.Escapes

/-!
# Every key can be asked for

A path may write each character of a key as it stands or as the escapes of its octets, in either
case, and may put segments that go nowhere in front of any name. All of these spellings lead to the
key (`key?_of_spells`), and so every file under a contained key is served to each of them. A file
under any other key is served to nobody: the bundle answers every path as if the file were not there
(`spells_leads_to_key`).
-/

set_option autoImplicit false
set_option relaxedAutoImplicit false

namespace WebGateway.Assets

/-- The text writes the character: as it stands, unless it is a percent sign, or as the escapes of
its octets with digits in any case. -/
inductive WritesChar (c : Char) : List Char → Prop
  | raw (h : c ≠ '%') : WritesChar c [c]
  | escaped {text : List Char}
      (h : text.map Char.toUpper = (String.utf8EncodeChar c).flatMap Text.Percent.escape) :
      WritesChar c text

/-- The segment writes the characters of the name one after the other. -/
inductive WritesName : List Char → List Char → Prop
  | nil : WritesName [] []
  | cons {c : Char} {name text rest : List Char} :
      WritesChar c text → WritesName name rest → WritesName (c :: name) (text ++ rest)

/-- The segments that go nowhere. -/
def idleSegments : List (List Char) :=
  [[], ['.'], ['%', '2', 'e'], ['%', '2', 'E']]

/-- The segments write the names in their order, with idle segments anywhere before the last. -/
inductive WritesNames : List (List Char) → List (List Char) → Prop
  | last {name segment : List Char} :
      WritesName name segment → WritesNames [name] [segment]
  | name {name segment : List Char} {names segments : List (List Char)} :
      WritesName name segment → WritesNames names segments →
        WritesNames (name :: names) (segment :: segments)
  | idle {segment : List Char} {names segments : List (List Char)} :
      segment ∈ idleSegments → WritesNames names segments → WritesNames names (segment :: segments)

/-- The path is a spelling of the key. -/
def Spells (path key : String) : Prop :=
  ∃ segments, WritesNames (key.toList.splitOn '/') segments ∧
    path.toList = ['/'].intercalate segments

/-! ### One segment -/

theorem WritesChar.decode_append {c : Char} {text : List Char} (h : WritesChar c text)
    (rest : List Char) : Text.Percent.decode (text ++ rest) =
      String.utf8EncodeChar c ++ Text.Percent.decode rest := by
  cases h with
  | raw hc => exact Text.Percent.decode_cons_of_ne hc rest
  | escaped htext => exact Text.Percent.decode_append_of_toUpper htext rest

theorem WritesName.decode_eq {name segment : List Char} (h : WritesName name segment) :
    Text.Percent.decode segment = Text.utf8 name := by
  induction h with
  | nil => rfl
  | cons hchar _ ih => rw [hchar.decode_append, ih, Text.utf8_cons]

theorem WritesChar.slash_notMem {c : Char} {text : List Char} (h : WritesChar c text)
    (hc : c ≠ '/') : '/' ∉ text := by
  cases h with
  | raw => simpa using hc.symm
  | escaped htext =>
    intro hslash
    have hupper : '/'.toUpper ∈ text.map Char.toUpper := List.mem_map_of_mem hslash
    rw [htext] at hupper
    obtain ⟨octet, -, hmem⟩ := List.mem_flatMap.mp hupper
    exact absurd (Text.Percent.mem_escapeChars_of_mem_escape hmem) (by decide)

theorem WritesName.slash_notMem {name segment : List Char} (h : WritesName name segment)
    (hname : '/' ∉ name) : '/' ∉ segment := by
  induction h with
  | nil => exact List.not_mem_nil
  | cons hchar _ ih =>
    rw [List.mem_cons, not_or] at hname
    rw [List.mem_append, not_or]
    exact ⟨hchar.slash_notMem (Ne.symm hname.1), ih hname.2⟩

theorem WritesName.ne_nil {name segment : List Char} (h : WritesName name segment)
    (hname : name ≠ []) : segment ≠ [] := by
  rintro rfl
  have hoctets := h.decode_eq
  cases name with
  | nil => exact hname rfl
  | cons c rest =>
    have hsize : (String.utf8EncodeChar c).length ≠ 0 := by
      rw [String.length_utf8EncodeChar]
      exact Nat.ne_of_gt c.utf8Size_pos
    have hlength := congrArg List.length hoctets
    simp only [Text.Percent.decode_nil, List.length_nil, Text.utf8_cons,
      List.length_append] at hlength
    omega

/-- An escaped name is one of the segments that write it. -/
theorem writesName_encode (escaped : Char → Bool) (hpercent : escaped '%' = true)
    (name : List Char) : WritesName name (Text.Percent.encode escaped name) := by
  induction name with
  | nil => exact .nil
  | cons c rest ih =>
    refine .cons ?_ ih
    show WritesChar c (if escaped c then _ else _)
    by_cases hc : escaped c = true
    · rw [if_pos hc]
      refine .escaped ?_
      rw [List.map_flatMap]
      exact List.flatMap_congr fun octet _ ↦ Text.Percent.map_toUpper_escape octet
    · rw [if_neg hc]
      refine .raw ?_
      rintro rfl
      exact hc hpercent

/-- A segment that writes a plain name is read as that name. -/
theorem WritesName.segment?_eq {name segment : List Char} (h : WritesName name segment)
    (hname : IsPlainName name) : segment? segment = some name := by
  rw [segment?_eq_some_iff, h.decode_eq, Text.ofUtf8?_utf8]
  refine ⟨rfl, ?_⟩
  rintro (hparent | hslash | hbackslash)
  · exact hname.ne_parent hparent
  · exact hname.no_slash hslash
  · exact hname.no_backslash hbackslash

theorem isStep_of_isPlainName {name : List Char} (h : IsPlainName name) : isStep name = true := by
  simp [isStep, h.ne_nil, h.ne_here]

/-- An idle segment is read, but says nothing about where to go. -/
theorem exists_segment?_of_mem_idleSegments {segment : List Char} (h : segment ∈ idleSegments) :
    ∃ read, segment? segment = some read ∧ isStep read = false ∧ '/' ∉ segment := by
  simp only [idleSegments, List.mem_cons, List.not_mem_nil, or_false] at h
  rcases h with rfl | rfl | rfl | rfl
  · exact ⟨[], by decide, by decide, by decide⟩
  · exact ⟨['.'], by decide, by decide, by decide⟩
  · exact ⟨['.'], by decide, by decide, by decide⟩
  · exact ⟨['.'], by decide, by decide, by decide⟩

/-! ### All segments -/

namespace WritesNames

variable {names segments : List (List Char)}

theorem ne_nil (h : WritesNames names segments) : segments ≠ [] := by
  cases h <;> exact List.cons_ne_nil _ _

theorem slash_notMem (h : WritesNames names segments) (hplain : ∀ name ∈ names, IsPlainName name) :
    ∀ segment ∈ segments, '/' ∉ segment := by
  induction h with
  | last hname =>
    intro segment hsegment
    rw [List.mem_singleton.mp hsegment]
    exact hname.slash_notMem (hplain _ List.mem_cons_self).no_slash
  | name hname _ ih =>
    intro segment hsegment
    rcases List.mem_cons.mp hsegment with rfl | hsegment
    · exact hname.slash_notMem (hplain _ List.mem_cons_self).no_slash
    · exact ih (fun name hmem ↦ hplain name (List.mem_cons_of_mem _ hmem)) segment hsegment
  | idle hidle _ ih =>
    intro segment hsegment
    rcases List.mem_cons.mp hsegment with rfl | hsegment
    · obtain ⟨-, -, -, hslash⟩ := exists_segment?_of_mem_idleSegments hidle
      exact hslash
    · exact ih hplain segment hsegment

/-- The segments are read as the names, with what goes nowhere between them. -/
theorem exists_mapM_segment? (h : WritesNames names segments)
    (hplain : ∀ name ∈ names, IsPlainName name) :
    ∃ read, segments.mapM segment? = some read ∧ read.filter isStep = names := by
  induction h with
  | @last name segment hname =>
    have hkept := hplain name List.mem_cons_self
    refine ⟨[name], ?_, ?_⟩
    · simp [hname.segment?_eq hkept]
    · simp [isStep_of_isPlainName hkept]
  | @name name segment names segments hname _ ih =>
    have hkept := hplain name List.mem_cons_self
    obtain ⟨read, hread, hsteps⟩ := ih fun other hmem ↦ hplain other (List.mem_cons_of_mem _ hmem)
    refine ⟨name :: read, ?_, ?_⟩
    · simp [List.mapM_cons, hname.segment?_eq hkept, hread]
    · rw [List.filter_cons_of_pos (isStep_of_isPlainName hkept), hsteps]
  | @idle segment names segments hidle _ ih =>
    obtain ⟨skipped, hskipped, hstep, -⟩ := exists_segment?_of_mem_idleSegments hidle
    obtain ⟨read, hread, hsteps⟩ := ih hplain
    refine ⟨skipped :: read, ?_, ?_⟩
    · simp [List.mapM_cons, hskipped, hread]
    · rw [List.filter_cons_of_neg (by simp [hstep]), hsteps]

/-- The last segment writes a name, and no name is empty. -/
theorem getLast?_ne_nil (h : WritesNames names segments)
    (hplain : ∀ name ∈ names, IsPlainName name) : segments.getLast? ≠ some [] := by
  induction h with
  | @last name segment hname =>
    have hne := hname.ne_nil (hplain name List.mem_cons_self).ne_nil
    simpa using hne
  | name _ hrest ih =>
    rw [List.getLast?_cons_of_ne_nil hrest.ne_nil]
    exact ih fun other hmem ↦ hplain other (List.mem_cons_of_mem _ hmem)
  | idle _ hrest ih =>
    rw [List.getLast?_cons_of_ne_nil hrest.ne_nil]
    exact ih hplain

end WritesNames

/-! ### Spelled keys -/

variable {path key : String}

/-- A path whose last segment is not empty does not name a directory. -/
theorem namesDirectory_eq_false (h : (path.toList.splitOn '/').getLast? ≠ some []) :
    namesDirectory path = false := by
  rw [namesDirectory, beq_eq_false_iff_ne, ne_eq]
  intro hlast
  obtain ⟨before, hbefore⟩ := List.getLast?_eq_some_iff.mp hlast
  refine h ?_
  rw [hbefore, List.splitOn_append_cons_self, List.splitOn_nil, List.getLast?_concat]

theorem key?_of_spells (hkey : IsContained key) (h : Spells path key) : key? path = some key := by
  obtain ⟨segments, hwrites, hpath⟩ := h
  have hsplit : path.toList.splitOn '/' = segments := by
    rw [hpath]
    exact List.splitOn_intercalate '/' (hwrites.slash_notMem hkey) hwrites.ne_nil
  obtain ⟨read, hread, hsteps⟩ := hwrites.exists_mapM_segment? hkey
  have hfile : namesDirectory path = false := by
    refine namesDirectory_eq_false ?_
    rw [hsplit]
    exact hwrites.getLast?_ne_nil hkey
  have hne : key.toList.splitOn '/' ≠ [] := List.splitOn_ne_nil '/' _
  rw [key?, steps?, hsplit, hread, Option.map_some, Option.map_some, hsteps, hfile]
  simp only [hne, Bool.false_eq_true, or_self, if_false, List.intercalate_splitOn,
    String.ofList_toList]

theorem ne_of_key? {other : String} (hkey : ¬IsContained key) (h : key? path = some other) :
    other ≠ key := by
  rintro rfl
  obtain ⟨-, -, -, -, hcontained⟩ := splitOn_of_key? h
  exact hkey hcontained

theorem isContained_indexName : IsContained indexName := by
  have hsplit : indexName.toList.splitOn '/' = [indexName.toList] :=
    List.splitOn_eq_singleton isPlainName_indexName.no_slash
  intro segment hsegment
  rw [hsplit, List.mem_singleton] at hsegment
  rw [hsegment]
  exact isPlainName_indexName

namespace Bundle

/-- The file under a key answers every path that leads to the key. -/
theorem resolve_of_key? {bundle : Bundle} {body : ByteArray} (hkey : key? path = some key)
    (hfile : bundle.files.lookup key = some body) :
    bundle.resolve path = .exact (.ofFile key body) := by
  rw [resolve, hkey, Option.bind_some, get?, hfile, Option.map_some]

theorem index_congr {bundle other : Bundle}
    (h : other.files.lookup indexName = bundle.files.lookup indexName) :
    other.index = bundle.index := by
  rw [other.lookup_index, bundle.lookup_index] at h
  exact Option.some.inj h

/-- Two bundles whose files differ under a key that is not contained answer alike. -/
theorem resolve_congr {bundle other : Bundle} (hkey : ¬IsContained key)
    (hfiles : ∀ name ≠ key, other.files.lookup name = bundle.files.lookup name) (path : String) :
    other.resolve path = bundle.resolve path := by
  have hindexName : indexName ≠ key := fun heq ↦ hkey (heq ▸ isContained_indexName)
  have hindex : other.index = bundle.index := index_congr (hfiles indexName hindexName)
  rw [resolve, resolve, indexAsset, indexAsset, hindex]
  cases hpath : key? path with
  | none => rfl
  | some name =>
    have hsame : other.get? name = bundle.get? name := by
      rw [get?, get?, hfiles name (ne_of_key? hkey hpath)]
    rw [Option.bind_some, Option.bind_some, hsame]

end Bundle

/-- Every spelling of a contained key leads to it, and is answered with the file under it in every
bundle that has one, declared as the key says. A file under any other key is the answer to no path:
what is answered is another file, and the bundle answers as if the file were not there. -/
theorem spells_leads_to_key (key : String) :
    (IsContained key → ∀ path, Spells path key →
      key? path = some key ∧
        ∀ (bundle : Bundle) body, bundle.files.lookup key = some body →
          bundle.resolve path =
            .exact { body, contentType := (MediaType.ofKey key).headerValue }) ∧
    (¬IsContained key → ∀ (bundle : Bundle) path,
      (∀ asset, bundle.resolve path = .exact asset → ∃ name body, name ≠ key ∧
        bundle.files.lookup name = some body ∧
        asset = { body, contentType := (MediaType.ofKey name).headerValue }) ∧
      ∀ other : Bundle, (∀ name ≠ key, other.files.lookup name = bundle.files.lookup name) →
        other.resolve path = bundle.resolve path) := by
  constructor
  · intro hkey path hspells
    have hpath := key?_of_spells hkey hspells
    exact ⟨hpath, fun bundle body hfile ↦ Bundle.resolve_of_key? hpath hfile⟩
  · intro hkey bundle path
    refine ⟨fun asset hexact ↦ ?_, fun other hfiles ↦ Bundle.resolve_congr hkey hfiles path⟩
    obtain ⟨name, body, hname, hfile, hasset⟩ := Bundle.exists_file_of_resolve_eq_exact hexact
    exact ⟨name, body, ne_of_key? hkey hname, hfile, hasset⟩

/-- The octets of a name may be escaped in either case, and idle segments may stand in front. -/
theorem spells_leads_to_cafe :
    Spells "//%2E/d%6fcs/./caf%C3%A9%25" "docs/café%" ∧
      key? "//%2E/d%6fcs/./caf%C3%A9%25" = some "docs/café%" ∧
      ∀ (bundle : Bundle) body, bundle.files.lookup "docs/café%" = some body →
        bundle.resolve "//%2E/d%6fcs/./caf%C3%A9%25" =
          .exact { body, contentType := (MediaType.ofKey "docs/café%").headerValue } := by
  have hnames : "docs/café%".toList.splitOn '/' = ["docs".toList, "café%".toList] := by
    decide +kernel
  have hcontained : IsContained "docs/café%" := by
    rw [IsContained, hnames]
    intro name hname
    rcases List.mem_cons.mp hname with rfl | hname
    · constructor <;> decide +kernel
    · rw [List.mem_singleton.mp hname]
      constructor <;> decide +kernel
  have hdocs : WritesName "docs".toList "d%6fcs".toList := by
    have hrest : WritesName ['c', 's'] ['c', 's'] :=
      .cons (.raw (by decide)) (.cons (.raw (by decide)) .nil)
    have ho : WritesChar 'o' ['%', '6', 'f'] := .escaped (by decide +kernel)
    exact .cons (.raw (by decide)) (.cons ho hrest)
  have hcafe : WritesName "café%".toList "caf%C3%A9%25".toList := by
    have hwritten := writesName_encode (fun c ↦ c == '%' || 128 ≤ c.toNat) rfl "café%".toList
    have htext : Text.Percent.encode (fun c ↦ c == '%' || 128 ≤ c.toNat) "café%".toList =
        "caf%C3%A9%25".toList := by decide +kernel
    rwa [htext] at hwritten
  have hspells : Spells "//%2E/d%6fcs/./caf%C3%A9%25" "docs/café%" := by
    refine ⟨[[], [], ['%', '2', 'E'], "d%6fcs".toList, ['.'], "caf%C3%A9%25".toList], ?_,
      by decide +kernel⟩
    rw [hnames]
    exact .idle (by decide) (.idle (by decide) (.idle (by decide)
      (.name hdocs (.idle (by decide) (.last hcafe)))))
  exact ⟨hspells, (spells_leads_to_key "docs/café%").1 hcontained _ hspells⟩

end WebGateway.Assets
