import WebGateway.Relay.Failure

/-!
# Errors that wrap errors

An error lies in a chain in front or below others, unless the operating system numbers one of these
(`LiesUnder`). The walk along the sources meets all of them but those that lie directly under an
error of input or output, because the source of such an error is the source of what it wraps
(`holdsUnwrapped_cons_iff`). So the answer is 504 exactly when one of the errors that are met has
timed out (`status_of_holdsUnwrapped`): a timeout that an error of input or output wraps is answered
like any other failure.
-/

set_option autoImplicit false
set_option relaxedAutoImplicit false

namespace WebGateway.Relay.ErrorChain

variable {chain rest : ErrorChain} {above : List ErrorLayer} {layer error : ErrorLayer}

/-- The error lies in a chain under the errors above it, of which the outermost comes first. -/
inductive LiesUnder : ErrorChain → List ErrorLayer → ErrorLayer → Prop
  | outermost (error : ErrorLayer) (rest : ErrorChain) : LiesUnder (error :: rest) [] error
  | inner {layer : ErrorLayer} {rest : ErrorChain} {above : List ErrorLayer} {error : ErrorLayer}
      (hlayer : ∀ number, layer ≠ .system number) (h : LiesUnder rest above error) :
      LiesUnder (layer :: rest) (layer :: above) error

/-- What lies directly under these errors is wrapped by an error of input or output. -/
def Wraps (above : List ErrorLayer) : Prop :=
  ∃ kind, above.getLast? = some (.io kind)

/-- Some error of the chain has timed out, at whatever depth. -/
def HoldsTimeout (chain : ErrorChain) : Prop :=
  ∃ above error, LiesUnder chain above error ∧ error.isTimeout = true

/-- The error lies in the chain, and no error of input or output wraps it. -/
def HoldsUnwrapped (chain : ErrorChain) (error : ErrorLayer) : Prop :=
  ∃ above, LiesUnder chain above error ∧ ¬Wraps above

/-- The error lies below the outermost one, and no error of input or output wraps it. -/
def HoldsUnwrappedBelow (chain : ErrorChain) (error : ErrorLayer) : Prop :=
  ∃ above, above ≠ [] ∧ LiesUnder chain above error ∧ ¬Wraps above

theorem not_liesUnder_nil : ¬LiesUnder [] above error := by
  rintro ⟨⟩

theorem LiesUnder.plain (text : String) (h : LiesUnder rest above error) :
    LiesUnder (.plain text :: rest) (.plain text :: above) error :=
  .inner (by simp) h

theorem LiesUnder.io (kind : IoKind) (h : LiesUnder rest above error) :
    LiesUnder (.io kind :: rest) (.io kind :: above) error :=
  .inner (by simp) h

theorem exists_liesUnder_of_cons (h : LiesUnder (layer :: rest) above error) (hne : above ≠ []) :
    ∃ inner, above = layer :: inner ∧ (∀ number, layer ≠ .system number) ∧
      LiesUnder rest inner error := by
  cases h with
  | outermost => exact absurd rfl hne
  | inner hlayer h => exact ⟨_, rfl, hlayer, h⟩

theorem not_wraps_nil : ¬Wraps [] := by
  rintro ⟨kind, hlast⟩
  cases hlast

theorem wraps_io (kind : IoKind) : Wraps [.io kind] :=
  ⟨kind, rfl⟩

theorem wraps_cons_of_ne_nil (hne : above ≠ []) : Wraps (layer :: above) ↔ Wraps above := by
  rw [Wraps, Wraps, List.getLast?_cons_of_ne_nil hne]

theorem wraps_plain_cons_iff {text : String} : Wraps (.plain text :: above) ↔ Wraps above := by
  by_cases hne : above = []
  · subst hne
    refine iff_of_false ?_ not_wraps_nil
    rintro ⟨kind, hlast⟩
    cases hlast
  · exact wraps_cons_of_ne_nil hne

/-! ### What the walk meets -/

theorem not_holdsUnwrapped_nil : ¬HoldsUnwrapped [] error := by
  rintro ⟨above, hunder, -⟩
  exact not_liesUnder_nil hunder

theorem holdsUnwrappedBelow_plain_iff {text : String} :
    HoldsUnwrappedBelow (.plain text :: rest) error ↔ rest.HoldsUnwrapped error := by
  constructor
  · rintro ⟨above, hne, hunder, hbare⟩
    obtain ⟨inner, rfl, -, hinner⟩ := exists_liesUnder_of_cons hunder hne
    exact ⟨inner, hinner, fun hwraps ↦ hbare (wraps_plain_cons_iff.mpr hwraps)⟩
  · rintro ⟨inner, hunder, hbare⟩
    exact ⟨.plain text :: inner, List.cons_ne_nil _ _, hunder.plain text,
      fun hwraps ↦ hbare (wraps_plain_cons_iff.mp hwraps)⟩

/-- What lies directly below an error of input or output is wrapped by it. -/
theorem holdsUnwrappedBelow_io_iff {kind : IoKind} :
    HoldsUnwrappedBelow (.io kind :: rest) error ↔ rest.HoldsUnwrappedBelow error := by
  constructor
  · rintro ⟨above, hne, hunder, hbare⟩
    obtain ⟨inner, rfl, -, hinner⟩ := exists_liesUnder_of_cons hunder hne
    have hdeeper : inner ≠ [] := by
      rintro rfl
      exact hbare (wraps_io kind)
    exact ⟨inner, hdeeper, hinner,
      fun hwraps ↦ hbare ((wraps_cons_of_ne_nil hdeeper).mpr hwraps)⟩
  · rintro ⟨inner, hne, hunder, hbare⟩
    exact ⟨.io kind :: inner, List.cons_ne_nil _ _, hunder.io kind,
      fun hwraps ↦ hbare ((wraps_cons_of_ne_nil hne).mp hwraps)⟩

theorem not_holdsUnwrappedBelow_system {number : Int} :
    ¬HoldsUnwrappedBelow (.system number :: rest) error := by
  rintro ⟨above, hne, hunder, -⟩
  obtain ⟨-, -, hlayer, -⟩ := exists_liesUnder_of_cons hunder hne
  exact hlayer number rfl

/-- The source of an error of input or output is that of the error that it wraps, which is therefore
passed over with whatever it wraps in turn. -/
theorem holdsUnwrapped_source_iff :
    chain.source.HoldsUnwrapped error ↔ chain.HoldsUnwrappedBelow error := by
  -- The walk goes from wrapper to wrapper until an error has a source of its own, one layer for each.
  induction chain with
  | nil =>
    refine iff_of_false not_holdsUnwrapped_nil ?_
    rintro ⟨above, -, hunder, -⟩
    exact not_liesUnder_nil hunder
  | cons layer rest ih =>
    cases layer with
    | plain text => exact holdsUnwrappedBelow_plain_iff.symm
    | io kind => exact ih.trans holdsUnwrappedBelow_io_iff.symm
    | system number => exact iff_of_false not_holdsUnwrapped_nil not_holdsUnwrappedBelow_system

/-- One step of the walk: the outermost error is met, and then what is met from its source on. -/
theorem holdsUnwrapped_cons_iff : HoldsUnwrapped (layer :: rest) error ↔
    error = layer ∨ HoldsUnwrapped (source (layer :: rest)) error := by
  rw [holdsUnwrapped_source_iff]
  constructor
  · rintro ⟨above, hunder, hbare⟩
    by_cases hne : above = []
    · subst hne
      cases hunder
      exact Or.inl rfl
    · exact Or.inr ⟨above, hne, hunder, hbare⟩
  · rintro (rfl | ⟨above, -, hunder, hbare⟩)
    · exact ⟨[], .outermost error rest, not_wraps_nil⟩
    · exact ⟨above, hunder, hbare⟩

/-- The whole walk: it ends with a timeout exactly when one of the errors that it meets is one. -/
theorem timesOut_iff :
    chain.timesOut = true ↔ ∃ error, chain.HoldsUnwrapped error ∧ error.isTimeout = true := by
  induction chain using timesOut.induct with
  | case1 =>
    rw [timesOut]
    refine iff_of_false Bool.false_ne_true ?_
    rintro ⟨error, hholds, -⟩
    exact not_holdsUnwrapped_nil hholds
  | case2 layer rest ih =>
    rw [timesOut, Bool.or_eq_true, ih]
    constructor
    · rintro (htimeout | ⟨error, hbelow, htimeout⟩)
      · exact ⟨layer, holdsUnwrapped_cons_iff.mpr (Or.inl rfl), htimeout⟩
      · exact ⟨error, holdsUnwrapped_cons_iff.mpr (Or.inr hbelow), htimeout⟩
    · rintro ⟨error, hholds, htimeout⟩
      rcases holdsUnwrapped_cons_iff.mp hholds with rfl | hbelow
      · exact Or.inl htimeout
      · exact Or.inr ⟨error, hbelow, htimeout⟩

/-! ### Answers -/

/-- Where no timeout is wrapped, the walk meets all of them. -/
theorem timesOut_iff_holdsTimeout
    (h : ∀ above error, LiesUnder chain above error → error.isTimeout = true → ¬Wraps above) :
    chain.timesOut = true ↔ chain.HoldsTimeout := by
  rw [timesOut_iff]
  constructor
  · rintro ⟨error, ⟨above, hunder, -⟩, htimeout⟩
    exact ⟨above, error, hunder, htimeout⟩
  · rintro ⟨above, error, hunder, htimeout⟩
    exact ⟨error, ⟨above, hunder, h above error hunder htimeout⟩, htimeout⟩

/-- The answer has status 504 when a timeout in the chain is not wrapped by an error of input or
output, and 502 when there is none such. So as long as no timeout is wrapped, the answer is 504 just
when there is a timeout at any depth. -/
theorem status_of_holdsUnwrapped (chain : ErrorChain) :
    ((∃ error, chain.HoldsUnwrapped error ∧ error.isTimeout = true) →
      chain.status = 504 ∧ chain.response = .ofText 504 "Upstream request timed out") ∧
    ((¬∃ error, chain.HoldsUnwrapped error ∧ error.isTimeout = true) →
      chain.status = 502 ∧ chain.response = .ofText 502 "Upstream request failed") ∧
    ((∀ above error, LiesUnder chain above error → error.isTimeout = true → ¬Wraps above) →
      (chain.status = 504 ↔ chain.HoldsTimeout) ∧ (chain.status = 502 ↔ ¬chain.HoldsTimeout)) ∧
    chain.response.status = chain.status := by
  rw [← timesOut_iff]
  refine ⟨status_of_timesOut, status_of_not_timesOut, fun hbare ↦ ?_, rfl⟩
  rw [← timesOut_iff_holdsTimeout hbare]
  by_cases htimesOut : chain.timesOut = true
  · rw [(status_of_timesOut htimesOut).1]
    simp [htimesOut]
  · rw [(status_of_not_timesOut htimesOut).1]
    simp [htimesOut]

/-- A connection timed out during a handshake, and the error of the handshake is wrapped. -/
def handshakeTimeout : ErrorChain :=
  [.plain "client error (Connect)", .io .other, .plain "handshake", .system timedOutNumber]

/-- A connection timed out, and the error that says so is wrapped itself. -/
def wrappedTimeout : ErrorChain :=
  [.plain "client error (Connect)", .io .other, .io .timedOut]

/-- The error with a text between the two lets the timeout be met. -/
theorem status_of_handshakeTimeout :
    handshakeTimeout.HoldsUnwrapped (.system timedOutNumber) ∧
      (∀ above error, LiesUnder handshakeTimeout above error → error.isTimeout = true →
        ¬Wraps above) ∧
      handshakeTimeout.status = 504 ∧
      handshakeTimeout.response = .ofText 504 "Upstream request timed out" ∧
      (¬∃ error, wrappedTimeout.HoldsUnwrapped error ∧ error.isTimeout = true) ∧
      wrappedTimeout.response = .ofText 502 "Upstream request failed" := by
  have hunwrapped : handshakeTimeout.HoldsUnwrapped (.system timedOutNumber) := by
    refine ⟨_, .plain _ (.io _ (.plain _ (.outermost _ []))), ?_⟩
    rintro ⟨kind, hlast⟩
    cases hlast
  have hbare : ∀ above error, LiesUnder handshakeTimeout above error → error.isTimeout = true →
      ¬Wraps above := by
    intro above error hunder htimeout
    rcases hunder with _ | ⟨-, _ | ⟨-, _ | ⟨-, _ | ⟨-, ⟨⟩⟩⟩⟩⟩
    case outermost => cases htimeout
    case inner.outermost => cases htimeout
    case inner.inner.outermost => cases htimeout
    case inner.inner.inner.outermost =>
      rintro ⟨kind, hlast⟩
      cases hlast
  have hmissed : ¬∃ error, wrappedTimeout.HoldsUnwrapped error ∧ error.isTimeout = true := by
    rw [← timesOut_iff]
    simp [wrappedTimeout, timesOut, source, ErrorLayer.isTimeout]
  obtain ⟨hmet, -, hall, -⟩ := status_of_holdsUnwrapped handshakeTimeout
  obtain ⟨-, hfailed, -, -⟩ := status_of_holdsUnwrapped wrappedTimeout
  exact ⟨hunwrapped, hbare, (hall hbare).1.mpr ⟨_, _, hunwrapped.choose_spec.1, rfl⟩,
    (hmet ⟨_, hunwrapped, rfl⟩).2, hmissed, (hfailed hmissed).2⟩

/-- The timeout lies in the chain, and the answer says that the request failed. -/
theorem status_of_wrappedTimeout :
    wrappedTimeout.HoldsTimeout ∧ wrappedTimeout.status = 502 ∧
      wrappedTimeout.response.status = 502 := by
  have hmissed : ¬wrappedTimeout.timesOut = true := by
    simp [wrappedTimeout, timesOut, source, ErrorLayer.isTimeout]
  have hstatus : wrappedTimeout.status = 502 := if_neg hmissed
  exact ⟨⟨_, _, .plain _ (.io _ (.outermost (.io .timedOut) [])), rfl⟩, hstatus, hstatus⟩

end WebGateway.Relay.ErrorChain
