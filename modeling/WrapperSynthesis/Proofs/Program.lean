/-! Programs that change a state and may fail: what they leave behind, when a failure changes
nothing, and when two programs on different states go side by side. -/

namespace WrapperSynthesis

variable {ε σ τ α β : Type}

/-- The state that a program leaves, whether it succeeds or fails. -/
def stateAfter (program : EStateM ε σ α) (state : σ) : σ :=
  match program.run state with
  | .ok _ final | .error _ final => final

theorem stateAfter_map (f : α → β) (program : EStateM ε σ α) (state : σ) :
    stateAfter (f <$> program) state = stateAfter program state := by
  simp only [stateAfter, map_eq_pure_bind, EStateM.run_bind]
  cases program.run state <;> rfl

/-- The result of a program with another state. -/
def mapState (f : σ → τ) : EStateM.Result ε σ α → EStateM.Result ε τ α
  | .ok a state => .ok a (f state)
  | .error e state => .error e (f state)

/-! ### Failures -/

section Failures

variable {program : EStateM ε σ α} {next : α → EStateM ε σ β}

/-- The program leaves the state as it was, whether it succeeds or fails. -/
def Inspects (program : EStateM ε σ α) : Prop := ∀ state, stateAfter program state = state

def NeverFails (program : EStateM ε σ α) : Prop :=
  ∀ state, ∃ a final, program.run state = .ok a final

/-- A failure of the program leaves the state as it was. -/
def FailsClean (program : EStateM ε σ α) : Prop :=
  ∀ state e final, program.run state = .error e final → final = state

theorem inspects_get : Inspects (get : EStateM ε σ σ) := fun _ => rfl

theorem inspects_pure (a : α) : Inspects (pure a : EStateM ε σ α) := fun _ => rfl

theorem inspects_throw (e : ε) : Inspects (throw e : EStateM ε σ α) := fun _ => rfl

theorem neverFails_pure (a : α) : NeverFails (pure a : EStateM ε σ α) := fun s => ⟨a, s, rfl⟩

theorem NeverFails.bind (first : NeverFails program) (later : ∀ a, NeverFails (next a)) :
    NeverFails (program >>= next) := by
  intro state
  obtain ⟨a, middle, ran⟩ := first state
  obtain ⟨b, final, ran'⟩ := later a middle
  exact ⟨b, final, by rw [EStateM.run_bind, ran, ← ran']⟩

theorem NeverFails.failsClean (h : NeverFails program) : FailsClean program := by
  intro state e final failed
  obtain ⟨a, final', ran⟩ := h state
  rw [ran] at failed
  cases failed

theorem Inspects.failsClean (h : Inspects program) : FailsClean program := by
  intro state e final failed
  have same := h state
  rw [stateAfter, failed] at same
  exact same

/-- What only inspects may come before a program that fails clean. -/
theorem Inspects.bind_failsClean (first : Inspects program) (later : ∀ a, FailsClean (next a)) :
    FailsClean (program >>= next) := by
  intro state e final failed
  have same := first state
  rw [stateAfter] at same
  rw [EStateM.run_bind] at failed
  cases ran : program.run state with
  | ok a middle =>
    rw [ran] at same failed
    obtain rfl : middle = state := same
    exact later a middle e final failed
  | error e' middle =>
    rw [ran] at same failed
    cases failed
    exact same

theorem FailsClean.map (f : α → β) (h : FailsClean program) : FailsClean (f <$> program) := by
  intro state e final failed
  rw [map_eq_pure_bind, EStateM.run_bind] at failed
  cases ran : program.run state with
  | ok a middle => rw [ran] at failed; cases failed
  | error e' middle =>
    rw [ran] at failed
    obtain ⟨rfl, rfl⟩ : e' = e ∧ middle = final := by simpa using failed
    exact h state e' middle ran

end Failures

/-! ### Two programs side by side -/

section Follows

variable {view : σ → τ} {inv : σ → Prop}

/-- As long as the state has `inv`, the program keeps it and does what `other` does to the view of
the state. -/
def Follows (view : σ → τ) (inv : σ → Prop) (program : EStateM ε σ α) (other : EStateM ε τ α) :
    Prop :=
  ∀ state, inv state →
    other.run (view state) = mapState view (program.run state) ∧ inv (stateAfter program state)

theorem follows_pure (a : α) :
    Follows view inv (pure a : EStateM ε σ α) (pure a : EStateM ε τ α) :=
  fun _ kept => ⟨rfl, kept⟩

theorem follows_throw (e : ε) :
    Follows view inv (throw e : EStateM ε σ α) (throw e : EStateM ε τ α) :=
  fun _ kept => ⟨rfl, kept⟩

variable {program : EStateM ε σ α} {other : EStateM ε τ α}

/-- Two programs that look at the state first, and go on by what they see of it. -/
theorem follows_get_bind {next : σ → EStateM ε σ β} {next' : τ → EStateM ε τ β}
    (later : ∀ state, inv state → Follows view inv (next state) (next' (view state))) :
    Follows view inv (get >>= next) (get >>= next') :=
  fun state kept => later state kept state kept

theorem Follows.run_ok (h : Follows view inv program other) {state final : σ} {a : α}
    (kept : inv state) (ran : program.run state = .ok a final) :
    other.run (view state) = .ok a (view final) ∧ inv final := by
  obtain ⟨same, kept⟩ := h state kept
  rw [stateAfter, ran] at kept
  rw [ran] at same
  exact ⟨same, kept⟩

theorem Follows.run_error (h : Follows view inv program other) {state final : σ} {e : ε}
    (kept : inv state) (ran : program.run state = .error e final) :
    other.run (view state) = .error e (view final) ∧ inv final := by
  obtain ⟨same, kept⟩ := h state kept
  rw [stateAfter, ran] at kept
  rw [ran] at same
  exact ⟨same, kept⟩

theorem Follows.bind {next : α → EStateM ε σ β} {next' : α → EStateM ε τ β}
    (first : Follows view inv program other) (later : ∀ a, Follows view inv (next a) (next' a)) :
    Follows view inv (program >>= next) (other >>= next') := by
  intro state kept
  rw [stateAfter, EStateM.run_bind, EStateM.run_bind]
  cases ran : program.run state with
  | error e final =>
    obtain ⟨same, kept⟩ := first.run_error kept ran
    rw [same]
    exact ⟨rfl, kept⟩
  | ok a middle =>
    obtain ⟨same, kept⟩ := first.run_ok kept ran
    rw [same]
    exact later a middle kept

theorem Follows.map (f : α → β) (h : Follows view inv program other) :
    Follows view inv (f <$> program) (f <$> other) := by
  rw [map_eq_pure_bind, map_eq_pure_bind]
  exact h.bind fun a => follows_pure (f a)

theorem Follows.ite {c : Prop} [Decidable c] {program' : EStateM ε σ α} {other' : EStateM ε τ α}
    (h : Follows view inv program other) (h' : Follows view inv program' other') :
    Follows view inv (if c then program else program') (if c then other else other') := by
  split
  · exact h
  · exact h'

end Follows

end WrapperSynthesis
