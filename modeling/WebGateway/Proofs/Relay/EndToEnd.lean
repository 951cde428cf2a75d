import WebGateway.Proofs.Http.FieldText
import WebGateway.Proofs.Text.Trim
import WebGateway.Relay.Exchange
import WebGateway.Relay.Forwarded

/-!
# What stripping and recording leave of a header section

Stripping keeps a name with all its values or removes it altogether (`values_endToEnd`), and which
names it removes depends only on the `Connection` values, so that a header section can be changed
elsewhere, or sent over a connection, without naming other fields (`connectionNames_congr`,
`connectionNames_mapValues_overWire`). Recording the client touches the three forwarding fields and
no other (`values_recordForwarded`), and reads no other (`values_recordForwarded_congr`).
-/

set_option autoImplicit false
set_option relaxedAutoImplicit false

namespace WebGateway.Relay

open Http (HeaderName HeaderValue Headers)

/-- The fields that record a client. -/
def forwardingNames : List HeaderName :=
  [.xForwardedFor, .xForwardedProto, .xForwardedHost]

theorem values_endToEnd (headers : Headers) (name : HeaderName) :
    (endToEnd headers).values name =
      if name ∈ hopByHop ∨ name ∈ connectionNames headers then [] else headers.values name := by
  rw [endToEnd, Headers.values_keep]
  by_cases hhop : name ∈ hopByHop
  · simp [hhop]
  · by_cases hnamed : name ∈ connectionNames headers <;> simp [hhop, hnamed]

/-- The `Connection` values alone say which names are listed. -/
theorem connectionNames_congr {first second : Headers}
    (h : first.values .connection = second.values .connection) :
    connectionNames first = connectionNames second := by
  rw [connectionNames, h, connectionNames]

/-! ### Values over a connection -/

theorem isReadableOctet_of_isWireBlank {octet : UInt8} (h : isWireBlank octet = true) :
    Http.isReadableOctet octet = true := by
  rw [isWireBlank, Bool.or_eq_true, beq_iff_eq, beq_iff_eq] at h
  rcases h with rfl | rfl <;> decide

/-- The character that a readable octet writes is blank where the octet is. -/
theorem isWireBlank_eq (octet : UInt8) :
    isWireBlank octet = [' ', '\t'].contains (Char.ofNat octet.toNat) := by
  have hall : ∀ number < 256,
      isWireBlank (UInt8.ofNat number) = [' ', '\t'].contains (Char.ofNat number) := by
    decide +kernel
  have hoctet := hall octet.toNat (UInt8.toNat_lt octet)
  rwa [UInt8.ofNat_toNat] at hoctet

theorem text?_overWire (value : HeaderValue) :
    (overWire value).text? = value.text?.map fun text ↦
      String.ofList (Text.trimEnds (fun c ↦ [' ', '\t'].contains c) text.toList) := by
  have hreadable : (overWire value).octets.all Http.isReadableOctet =
      value.octets.all Http.isReadableOctet := by
    obtain ⟨before, after, hvalue, hbefore, hafter⟩ :=
      Text.exists_append_trimEnds_append isWireBlank value.octets
    have hfront : before.all Http.isReadableOctet = true := List.all_eq_true.mpr fun octet hmem ↦
      isReadableOctet_of_isWireBlank (hbefore octet hmem)
    have hback : after.all Http.isReadableOctet = true := List.all_eq_true.mpr fun octet hmem ↦
      isReadableOctet_of_isWireBlank (hafter octet hmem)
    rw [hvalue, List.all_append, List.all_append, hfront, hback, Bool.true_and, Bool.and_true]
    rfl
  rw [HeaderValue.text?, HeaderValue.text?, hreadable]
  split
  · have hblank : isWireBlank =
        (fun c ↦ [' ', '\t'].contains c) ∘ fun octet : UInt8 ↦ Char.ofNat octet.toNat :=
      funext isWireBlank_eq
    rw [Option.map_some, String.toList_ofList, Text.trimEnds_map, ← hblank]
    rfl
  · rfl

theorem listElements_trimEnds (text : String) :
    listElements (String.ofList (Text.trimEnds (fun c ↦ [' ', '\t'].contains c) text.toList)) =
      listElements text := by
  have hblank : ∀ c : Char, [' ', '\t'].contains c = true → Text.isBlank c = true := by
    intro c hc
    have hblanks : [' ', '\t'].all Text.isBlank = true := by decide
    exact List.all_eq_true.mp hblanks c (List.contains_iff_mem.mp hc)
  have hparts := Text.map_trimEnds_splitOn_trimEnds hblank
    (show ¬[' ', '\t'].contains ',' = true by decide) text.toList
  rw [listElements, listElements, String.toList_ofList]
  have htexts := congrArg (List.map String.ofList) hparts
  rwa [List.map_map, List.map_map] at htexts

/-- A connection changes none of the names that `Connection` values list. -/
theorem connectionNames_mapValues_overWire (headers : Headers) :
    connectionNames (headers.mapValues overWire) = connectionNames headers := by
  rw [connectionNames, Headers.values_mapValues, List.flatMap_map, connectionNames]
  congr 1
  funext value
  rw [text?_overWire]
  cases value.text? with
  | none => rfl
  | some text =>
    rw [Option.map_some]
    exact congrArg (List.filterMap HeaderName.parse?) (listElements_trimEnds text)

/-! ### Recording the client -/

theorem values_recordClient (client : Net.IpAddress) (headers : Headers) {name : HeaderName}
    (h : name ≠ .xForwardedFor) : (recordClient client headers).values name =
      headers.values name := by
  rw [recordClient]
  split
  · rw [Headers.values_set, if_neg (Ne.symm h)]
  · rfl

/-- Recording the client changes only the fields that record clients. -/
theorem values_recordForwarded (client : Option Net.IpAddress) (scheme : InboundScheme)
    (host : Option HeaderValue) (headers : Headers) {name : HeaderName}
    (h : name ∉ forwardingNames) :
    (recordForwarded client scheme host headers).values name = headers.values name := by
  simp only [forwardingNames, List.mem_cons, List.not_mem_nil, or_false, not_or] at h
  obtain ⟨hfor, hproto, hhost⟩ := h
  unfold recordForwarded
  cases client with
  | none =>
    cases host with
    | none => exact Headers.values_setIfAbsent_of_ne _ _ hproto
    | some value =>
      exact (Headers.values_setIfAbsent_of_ne _ _ hhost).trans
        (Headers.values_setIfAbsent_of_ne _ _ hproto)
  | some address =>
    have hclient := values_recordClient address headers hfor
    cases host with
    | none => exact (Headers.values_setIfAbsent_of_ne _ _ hproto).trans hclient
    | some value =>
      exact (Headers.values_setIfAbsent_of_ne _ _ hhost).trans
        ((Headers.values_setIfAbsent_of_ne _ _ hproto).trans hclient)

/-- What is recorded depends on the forwarding fields alone. -/
theorem values_recordForwarded_congr (client : Option Net.IpAddress) (scheme : InboundScheme)
    (host : Option HeaderValue) {first second : Headers}
    (h : ∀ name ∈ forwardingNames, first.values name = second.values name) {name : HeaderName}
    (hname : name ∈ forwardingNames) :
    (recordForwarded client scheme host first).values name =
      (recordForwarded client scheme host second).values name := by
  have hprior : priorChain? first = priorChain? second := by
    rw [priorChain?, Headers.get?, h .xForwardedFor (by decide), priorChain?, Headers.get?]
  have hclient : ∀ address, ∀ name ∈ forwardingNames,
      (recordClient address first).values name = (recordClient address second).values name := by
    intro address name hname
    rw [recordClient, hprior, recordClient]
    split
    · rw [Headers.values_set, Headers.values_set, h name hname]
    · exact h name hname
  have hproto : HeaderName.xForwardedProto ∈ forwardingNames := by decide
  have hhost : HeaderName.xForwardedHost ∈ forwardingNames := by decide
  unfold recordForwarded
  cases client <;> cases host <;>
    simp only [Headers.values_setIfAbsent, h _ hname, h _ hproto, h _ hhost, hclient _ _ hname,
      hclient _ _ hproto, hclient _ _ hhost]

end WebGateway.Relay
