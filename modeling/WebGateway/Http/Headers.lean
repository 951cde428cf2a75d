import WebGateway.Http.Token
import WebGateway.Text.Utf8

/-!
# Header fields

A header section is the list of its fields in the order in which they were added. Only two things
about that order are ever observed: which names occur, and the values of one name in their order,
`Headers.values`. Each operation says what it does to that view.

A name is a token in lower case. A value is a sequence of octets without control characters other
than the tab; it is *readable* when all of them are ASCII.
-/

set_option autoImplicit false
set_option relaxedAutoImplicit false

namespace WebGateway.Http

/-- A field name: a token in lower case. -/
structure HeaderName where
  text : String
  isToken : Http.isToken text = true := by decide
  isLower : text.toList.all (fun c ↦ !c.isUpper) = true := by decide
deriving Repr

instance : DecidableEq HeaderName := fun first second ↦
  decidable_of_iff (first.text = second.text) (by cases first; cases second; simp)

/-- The name that a text stands for, in any case. -/
def HeaderName.parse? (text : String) : Option HeaderName :=
  let lower := String.ofList (text.toList.map Char.toLower)
  if hToken : Http.isToken lower = true then
    if hLower : lower.toList.all (fun c ↦ !c.isUpper) = true then some ⟨lower, hToken, hLower⟩
    else none
  else none

namespace HeaderName

def allow : HeaderName := { text := "allow" }

def cacheControl : HeaderName := { text := "cache-control" }

def connection : HeaderName := { text := "connection" }

def contentLength : HeaderName := { text := "content-length" }

def contentType : HeaderName := { text := "content-type" }

def host : HeaderName := { text := "host" }

def keepAlive : HeaderName := { text := "keep-alive" }

def location : HeaderName := { text := "location" }

def proxyAuthenticate : HeaderName := { text := "proxy-authenticate" }

def proxyAuthorization : HeaderName := { text := "proxy-authorization" }

def proxyConnection : HeaderName := { text := "proxy-connection" }

def te : HeaderName := { text := "te" }

def trailer : HeaderName := { text := "trailer" }

def transferEncoding : HeaderName := { text := "transfer-encoding" }

def upgrade : HeaderName := { text := "upgrade" }

def xForwardedFor : HeaderName := { text := "x-forwarded-for" }

def xForwardedHost : HeaderName := { text := "x-forwarded-host" }

def xForwardedProto : HeaderName := { text := "x-forwarded-proto" }

def xRequestId : HeaderName := { text := "x-request-id" }

end HeaderName

/-- The octet may stand in a field value: no control character other than the tab. -/
def isValueOctet (octet : UInt8) : Bool :=
  octet == 9 || (32 ≤ octet && octet != 127)

/-- The octet is visible ASCII, a space or a tab. -/
def isReadableOctet (octet : UInt8) : Bool :=
  octet == 9 || (32 ≤ octet && octet < 127)

theorem isValueOctet_of_isReadableOctet {octet : UInt8} (h : isReadableOctet octet = true) :
    isValueOctet octet = true := by
  simp only [isReadableOctet, isValueOctet, Bool.or_eq_true, Bool.and_eq_true, beq_iff_eq,
    decide_eq_true_eq, bne_iff_ne] at h ⊢
  rcases h with h | ⟨hlow, hhigh⟩
  · exact Or.inl h
  · exact Or.inr ⟨hlow, fun heq ↦ absurd hhigh (by rw [heq]; decide)⟩

/-- A field value. -/
structure HeaderValue where
  octets : List UInt8
  isValue : octets.all isValueOctet = true
deriving DecidableEq, Repr

namespace HeaderValue

/-- The value of the given octets. -/
def ofOctets? (octets : List UInt8) : Option HeaderValue :=
  if h : octets.all isValueOctet = true then some ⟨octets, h⟩ else none

/-- The value that a text writes; outside ASCII its UTF-8 octets are taken as they are. -/
def ofText? (text : String) : Option HeaderValue :=
  ofOctets? (Text.utf8 text.toList)

/-- The text of a value whose octets are all readable. -/
def text? (value : HeaderValue) : Option String :=
  if value.octets.all isReadableOctet then
    some (String.ofList (value.octets.map fun octet ↦ Char.ofNat octet.toNat))
  else none

/-- The octets of a literal are checked on its characters, which are at hand without reading it. -/
theorem all_isValueOctet_of_eq {text : String} {chars : List Char}
    (htext : text = String.ofList chars) (hchars : (Text.utf8 chars).all isValueOctet = true) :
    (Text.utf8 text.toList).all isValueOctet = true := by
  rw [htext, String.toList_ofList]
  exact hchars

/-- The value that a text of visible ASCII writes. -/
def ofAscii (text : String)
    (h : (Text.utf8 text.toList).all isValueOctet = true := by
      exact WebGateway.Http.HeaderValue.all_isValueOctet_of_eq rfl rfl) : HeaderValue :=
  ⟨Text.utf8 text.toList, h⟩

/-- The media type of plain text. -/
def plainText : HeaderValue :=
  ofAscii "text/plain; charset=utf-8"

/-- The value that writes a number in decimal. -/
def ofNat (number : Nat) : HeaderValue :=
  ⟨(Nat.toDigits 10 number).map fun c ↦ UInt8.ofNat c.toNat, by
    refine List.all_eq_true.mpr fun octet hoctet ↦ ?_
    obtain ⟨c, hc, rfl⟩ := List.mem_map.mp hoctet
    have hdigit : c.isDigit = true := Nat.isDigit_of_mem_toDigits (by decide) (by decide) hc
    simp only [Char.isDigit, Bool.and_eq_true, decide_eq_true_eq] at hdigit
    have hlow : 48 ≤ c.toNat := hdigit.1
    have hhigh : c.toNat ≤ 57 := hdigit.2
    simp only [isValueOctet, Bool.or_eq_true, Bool.and_eq_true, beq_iff_eq, decide_eq_true_eq,
      bne_iff_ne]
    refine Or.inr ⟨?_, ?_⟩
    · rw [UInt8.le_iff_toNat_le, UInt8.toNat_ofNat']
      have : c.toNat % 2 ^ 8 = c.toNat := Nat.mod_eq_of_lt (by omega)
      rw [this]
      exact Nat.le_trans (by decide) hlow
    · intro heq
      have hnat := congrArg UInt8.toNat heq
      rw [UInt8.toNat_ofNat'] at hnat
      have : c.toNat % 2 ^ 8 = c.toNat := Nat.mod_eq_of_lt (by omega)
      rw [this] at hnat
      have : c.toNat = 127 := hnat
      omega⟩

end HeaderValue

/-- A header section: its fields in the order in which they were added. -/
structure Headers where
  fields : List (HeaderName × HeaderValue)
deriving DecidableEq, Repr

namespace Headers

def empty : Headers :=
  ⟨[]⟩

/-- The values of a name, in order. -/
def values (headers : Headers) (name : HeaderName) : List HeaderValue :=
  (headers.fields.filter fun field ↦ field.1 = name).map Prod.snd

/-- The first value of a name. -/
def get? (headers : Headers) (name : HeaderName) : Option HeaderValue :=
  (headers.values name).head?

/-- The name has a value. -/
def has (headers : Headers) (name : HeaderName) : Bool :=
  headers.fields.any fun field ↦ field.1 = name

/-- Adds a value after those that the name already has. -/
def add (headers : Headers) (name : HeaderName) (value : HeaderValue) : Headers :=
  ⟨headers.fields ++ [(name, value)]⟩

/-- Keeps the fields whose names pass the test. -/
def keep (headers : Headers) (test : HeaderName → Bool) : Headers :=
  ⟨headers.fields.filter fun field ↦ test field.1⟩

/-- Removes all values of a name. -/
def erase (headers : Headers) (name : HeaderName) : Headers :=
  headers.keep fun other ↦ other ≠ name

/-- Gives a name this one value in place of all that it had. -/
def set (headers : Headers) (name : HeaderName) (value : HeaderValue) : Headers :=
  (headers.erase name).add name value

/-- Gives a name a value if it has none. -/
def setIfAbsent (headers : Headers) (name : HeaderName) (value : HeaderValue) : Headers :=
  if headers.has name then headers else headers.add name value

/-- Applies a function to every value. -/
def mapValues (headers : Headers) (f : HeaderValue → HeaderValue) : Headers :=
  ⟨headers.fields.map fun field ↦ (field.1, f field.2)⟩

@[simp]
theorem values_empty (name : HeaderName) : empty.values name = [] :=
  rfl

theorem values_add (headers : Headers) (name other : HeaderName) (value : HeaderValue) :
    (headers.add name value).values other =
      headers.values other ++ if name = other then [value] else [] := by
  by_cases h : name = other <;> simp [add, values, h]

theorem values_keep (headers : Headers) (test : HeaderName → Bool) (name : HeaderName) :
    (headers.keep test).values name = if test name then headers.values name else [] := by
  by_cases h : test name = true
  · simp only [keep, values, List.filter_filter, h, if_true]
    congr 1
    refine List.filter_congr fun field _ ↦ ?_
    by_cases heq : field.1 = name <;> simp [heq, h]
  · simp only [keep, values, List.filter_filter, h]
    simp only [Bool.false_eq_true, if_false, List.map_eq_nil_iff, List.filter_eq_nil_iff]
    intro field _ hfield
    simp only [Bool.and_eq_true, decide_eq_true_eq] at hfield
    exact h (hfield.1 ▸ hfield.2)

theorem values_erase (headers : Headers) (name other : HeaderName) :
    (headers.erase name).values other = if other = name then [] else headers.values other := by
  rw [erase, values_keep]
  by_cases h : other = name <;> simp [h]

theorem values_set (headers : Headers) (name other : HeaderName) (value : HeaderValue) :
    (headers.set name value).values other =
      if name = other then [value] else headers.values other := by
  rw [set, values_add, values_erase]
  by_cases h : name = other
  · simp [h]
  · have h' : ¬other = name := fun heq ↦ h heq.symm
    simp [h, h']

theorem has_iff_values_ne_nil (headers : Headers) (name : HeaderName) :
    headers.has name = true ↔ headers.values name ≠ [] := by
  simp [has, values, List.filter_eq_nil_iff]

theorem values_setIfAbsent (headers : Headers) (name other : HeaderName) (value : HeaderValue) :
    (headers.setIfAbsent name value).values other =
      if name = other ∧ headers.values name = [] then [value] else headers.values other := by
  by_cases hhas : headers.has name = true
  · have hvalues := (has_iff_values_ne_nil headers name).mp hhas
    simp [setIfAbsent, hhas, hvalues]
  · have hvalues : headers.values name = [] := Decidable.byContradiction fun hne ↦
      hhas ((has_iff_values_ne_nil headers name).mpr hne)
    rw [setIfAbsent, if_neg hhas, values_add]
    by_cases heq : name = other
    · subst heq
      simp [hvalues]
    · simp [heq]

theorem values_setIfAbsent_of_ne (headers : Headers) {name other : HeaderName}
    (value : HeaderValue) (h : other ≠ name) :
    (headers.setIfAbsent name value).values other = headers.values other := by
  rw [values_setIfAbsent, if_neg fun heq ↦ h heq.1.symm]

theorem values_mapValues (headers : Headers) (f : HeaderValue → HeaderValue)
    (name : HeaderName) : (headers.mapValues f).values name = (headers.values name).map f := by
  simp only [mapValues, values, List.filter_map, List.map_map]
  congr 1

end Headers

end WebGateway.Http
