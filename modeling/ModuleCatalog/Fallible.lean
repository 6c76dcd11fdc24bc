/-! # Results that may be faults

    What becomes of a computation in steps, each of which may end it with a
    fault or without any result. -/

namespace ModuleCatalog

variable {ε : Type u} {α β : Type v} {x : Except ε α} {f : α → Except ε β} {g : α → β} {b : β}
  {fault : ε}

/-- Two steps succeed when the first does and the second does with its
    result. -/
theorem bind_eq_ok : (x >>= f) = .ok b ↔ ∃ a, x = .ok a ∧ f a = .ok b := by
  cases x with
  | error e => simp [bind, Except.bind]
  | ok a => simp [bind, Except.bind]

/-- Two steps fail when the first does, or the second after it. -/
theorem bind_eq_error :
    (x >>= f) = .error fault ↔ x = .error fault ∨ ∃ a, x = .ok a ∧ f a = .error fault := by
  cases x with
  | error e => simp [bind, Except.bind]
  | ok a => simp [bind, Except.bind]

theorem map_eq_ok : g <$> x = .ok b ↔ ∃ a, x = .ok a ∧ g a = b := by
  cases x with
  | error e => simp [Functor.map, Except.map]
  | ok a => simp [Functor.map, Except.map]

theorem map_eq_error : g <$> x = .error fault ↔ x = .error fault := by
  cases x with
  | error e => simp [Functor.map, Except.map]
  | ok a => simp [Functor.map, Except.map]

theorem mapError_eq_ok {ε' : Type u} {h : ε → ε'} {a : α} :
    x.mapError h = .ok a ↔ x = .ok a := by
  cases x with
  | error e =>
    show Except.error (h e) = .ok a ↔ _
    simp
  | ok b =>
    show Except.ok b = .ok a ↔ _
    simp

theorem mapError_eq_error {ε' : Type u} {h : ε → ε'} {fault : ε'} :
    x.mapError h = .error fault ↔ ∃ e, x = .error e ∧ h e = fault := by
  cases x with
  | error e =>
    show Except.error (h e) = .error fault ↔ _
    simp
  | ok a =>
    show Except.ok a = .error fault ↔ _
    simp

theorem pure_eq_ok {a a' : α} : (pure a : Except ε α) = .ok a' ↔ a = a' := by
  simp [pure, Except.pure]

theorem exists_eq_ok_of_isOk {x : Except ε α} (h : x.isOk = true) : ∃ a, x = .ok a := by
  cases x with
  | error e => cases h
  | ok a => exact ⟨a, rfl⟩

theorem pure_ne_error {a : α} : (pure a : Except ε α) ≠ .error fault := by
  simp [pure, Except.pure]

/-- What each step keeps up about all that was read so far, a run over a list
    keeps up. -/
theorem keeps_foldlM {σ : Type u} {ν : Type v} {step : σ → ν → Option σ}
    (holds : σ → List ν → Prop)
    (hstep : ∀ {s s' : σ} {read : List ν} {item : ν}, holds s read → step s item = some s' →
      holds s' (read ++ [item]))
    {s s' : σ} {read items : List ν} (h : holds s read) (hrun : items.foldlM step s = some s') :
    holds s' (read ++ items) := by
  induction items generalizing s read with
  | nil =>
    cases hrun
    rwa [List.append_nil]
  | cons item items ih =>
    rw [List.foldlM_cons] at hrun
    obtain ⟨next, hnext, hrun⟩ := Option.bind_eq_some_iff.mp hrun
    have h' := ih (hstep h hnext) hrun
    rwa [List.append_assoc] at h'

end ModuleCatalog
