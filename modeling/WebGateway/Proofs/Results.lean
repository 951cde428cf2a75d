/-!
# Results that may be missing

A computation in steps gives a result only if each of its steps gives one, and otherwise it ends
with the error of the first that does not (`errorOf?`). When every element of a list has to be read,
the whole fails exactly when one element fails, and otherwise gives what the elements give, in their
order.
-/

set_option autoImplicit false
set_option relaxedAutoImplicit false

namespace WebGateway

/-! ### Errors of results -/

/-- The error with which a computation ends, if it does. -/
def errorOf? {ε α : Type} : Except ε α → Option ε
  | .error error => some error
  | .ok _ => none

section Errors

variable {α β ε : Type}

@[simp]
theorem errorOf?_ok (value : α) : errorOf? (.ok value : Except ε α) = none :=
  rfl

@[simp]
theorem errorOf?_error (error : ε) : errorOf? (.error error : Except ε α) = some error :=
  rfl

@[simp]
theorem errorOf?_mapError {δ : Type} (wrap : ε → δ) (result : Except ε α) :
    errorOf? (result.mapError wrap) = (errorOf? result).map wrap := by
  cases result <;> rfl

@[simp]
theorem errorOf?_map (f : α → β) (result : Except ε α) :
    errorOf? (result.map f) = errorOf? result := by
  cases result <;> rfl

@[simp]
theorem errorOf?_pure (value : α) : errorOf? (pure value : Except ε α) = none :=
  rfl

@[simp]
theorem errorOf?_ok_bind (value : α) (next : α → Except ε β) :
    errorOf? (.ok value >>= next) = errorOf? (next value) :=
  rfl

@[simp]
theorem errorOf?_bind_pure (result : Except ε α) (f : α → β) :
    errorOf? (result >>= fun value ↦ pure (f value)) = errorOf? result := by
  cases result <;> rfl

theorem errorOf?_eq_none_iff {result : Except ε α} :
    errorOf? result = none ↔ ∃ value, result = .ok value := by
  cases result <;> simp

end Errors

/-! ### Computations that may fail -/

section Results

variable {α β ε : Type} {result : Except ε α} {value : β}

theorem exists_of_bind_eq_ok {next : α → Except ε β} (h : (result >>= next) = .ok value) :
    ∃ before, result = .ok before ∧ next before = .ok value := by
  cases result with
  | error error => cases h
  | ok before => exact ⟨before, rfl, h⟩

theorem exists_of_map_eq_ok {f : α → β} (h : result.map f = .ok value) :
    ∃ before, result = .ok before ∧ f before = value := by
  cases result with
  | error error => cases h
  | ok before => exact ⟨before, rfl, Except.ok.inj h⟩

theorem toOption_eq_some_iff {found : α} : result.toOption = some found ↔ result = .ok found := by
  cases result <;> simp [Except.toOption]

/-- Every element of a list was passed by a step, if the last one was. -/
theorem exists_eq_ok_of_foldlM_eq_ok {step : β → α → Except ε β} {list : List α}
    {start result : β} (h : list.foldlM step start = .ok result) {x : α} (hx : x ∈ list) :
    ∃ before after, step before x = .ok after := by
  induction list generalizing start with
  | nil => simp at hx
  | cons y rest ih =>
    rw [List.foldlM_cons] at h
    cases hstep : step start y with
    | error cause => simp [hstep, bind, Except.bind] at h
    | ok next =>
      rcases List.mem_cons.mp hx with rfl | hx
      · exact ⟨start, next, hstep⟩
      · rw [hstep] at h
        exact ih h hx

end Results

/-! ### Readings of every element -/

section Elements

variable {α β : Type} {f : α → Option β} {list : List α}

theorem mapM_eq_none_iff : list.mapM f = none ↔ ∃ x ∈ list, f x = none := by
  induction list with
  | nil => simp
  | cons x rest ih =>
    rw [List.mapM_cons]
    cases hx : f x with
    | none => simp [hx]
    | some y =>
      cases hrest : rest.mapM f with
      | none => simpa [hx, hrest] using ih.mp hrest
      | some ys =>
        have hall : ¬∃ z ∈ rest, f z = none := by
          rw [← ih, hrest]
          exact Option.some_ne_none ys
        simpa [hx] using hall

theorem map_eq_of_mapM_eq_some {results : List β} (h : list.mapM f = some results) :
    list.map f = results.map some := by
  induction list generalizing results with
  | nil =>
    obtain rfl : results = [] := by simpa using h.symm
    rfl
  | cons x rest ih =>
    rw [List.mapM_cons] at h
    cases hx : f x with
    | none => simp [hx] at h
    | some y =>
      cases hrest : rest.mapM f with
      | none => simp [hx, hrest] at h
      | some ys =>
        obtain rfl : results = y :: ys := by simpa [hx, hrest] using h.symm
        rw [List.map_cons, List.map_cons, hx, ih hrest]

/-- Each result comes from an element. -/
theorem exists_mem_of_mapM_eq_some {results : List β} (h : list.mapM f = some results) {y : β}
    (hy : y ∈ results) : ∃ x ∈ list, f x = some y := by
  have hmem : some y ∈ list.map f := map_eq_of_mapM_eq_some h ▸ List.mem_map_of_mem hy
  exact List.mem_map.mp hmem

end Elements

end WebGateway
