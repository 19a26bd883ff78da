/-!
# Runs of a machine with partial steps

A machine is a function `step : σ → ε → Option σ`: in state `s` the event `e` is either not
possible (`none`) or leads to one next state. `run step s es` takes the events in order. An
interleaving of several parties is one such list of events.

* `run_invariant`: what every step preserves, every run preserves.
* `run_relation`: the same for a preorder between the first and the last state.
* `run_simulation`: a machine whose steps another one matches runs as the other does.
* `run_split`: the states around one event of a run.
* `AlongRun`: a condition on the state before each step of a run. `run_invariant_of` is the
  invariant rule for runs whose steps all meet one, and `alongRun_of_split` shows the condition
  from the states around each event (`alongRun_of_forall`: from the events alone).
-/

namespace Run

variable {σ ε : Type}

/-- The state after the events `es`, when each of them is possible in its turn. -/
def run (step : σ → ε → Option σ) : σ → List ε → Option σ
  | s, [] => some s
  | s, e :: es => (step s e).bind fun s' => run step s' es

variable {step : σ → ε → Option σ}

theorem run_cons {s s' : σ} {e : ε} {es : List ε} (h : run step s (e :: es) = some s') :
    ∃ s₁, step s e = some s₁ ∧ run step s₁ es = some s' :=
  Option.bind_eq_some_iff.mp h

theorem run_one {s s' : σ} {e : ε} (h : step s e = some s') : run step s [e] = some s' := by
  simp only [run, h, Option.bind_some]

theorem run_append (s : σ) : ∀ es₁ es₂ : List ε,
    run step s (es₁ ++ es₂) = (run step s es₁).bind fun s' => run step s' es₂ := by
  intro es₁ es₂
  induction es₁ generalizing s with
  | nil => rfl
  | cons e es ih =>
    simp only [List.cons_append, run]
    cases step s e with
    | none => rfl
    | some s' => exact ih s'

/-- The states around one event of a run. -/
theorem run_split {s s' : σ} {es₁ es₂ : List ε} {e : ε}
    (h : run step s (es₁ ++ e :: es₂) = some s') :
    ∃ s₁ s₂, run step s es₁ = some s₁ ∧ step s₁ e = some s₂ ∧ run step s₂ es₂ = some s' := by
  rw [run_append] at h
  obtain ⟨s₁, h₁, h⟩ := Option.bind_eq_some_iff.mp h
  obtain ⟨s₂, h₂, h₃⟩ := run_cons h
  exact ⟨s₁, s₂, h₁, h₂, h₃⟩

/-- **Invariant rule.** What every step preserves, every run preserves. -/
theorem run_invariant {P : σ → Prop} (hstep : ∀ s e s', P s → step s e = some s' → P s') :
    ∀ {s s' : σ} {es : List ε}, P s → run step s es = some s' → P s'
  | s, s', [], h, hr => Option.some.inj hr ▸ h
  | s, s', e :: es, h, hr => by
    obtain ⟨s₁, h₁, h₂⟩ := run_cons hr
    exact run_invariant hstep (hstep s e s₁ h h₁) h₂

/-- **Relation rule.** A preorder that every step from an invariant state respects relates the
first state of a run to its last. -/
theorem run_relation {P : σ → Prop} {R : σ → σ → Prop} (hrefl : ∀ s, R s s)
    (htrans : ∀ a b c, R a b → R b c → R a c)
    (hstep : ∀ s e s', P s → step s e = some s' → P s' ∧ R s s') :
    ∀ {s s' : σ} {es : List ε}, P s → run step s es = some s' → R s s'
  | s, s', [], _, hr => Option.some.inj hr ▸ hrefl s
  | s, s', e :: es, h, hr => by
    obtain ⟨s₁, h₁, h₂⟩ := run_cons hr
    obtain ⟨hP, hR⟩ := hstep s e s₁ h h₁
    exact htrans _ _ _ hR (run_relation hrefl htrans hstep hP h₂)

/-- **Simulation rule.** When every step is matched by a run of another machine, so is every
run. -/
theorem run_simulation {σ' ε' : Type} {step' : σ' → ε' → Option σ'} {Sim : σ → σ' → Prop}
    (hstep : ∀ s e s' a, Sim s a → step s e = some s' →
      ∃ es a', run step' a es = some a' ∧ Sim s' a') :
    ∀ {s s' : σ} {a : σ'} {es : List ε}, Sim s a → run step s es = some s' →
      ∃ es' a', run step' a es' = some a' ∧ Sim s' a'
  | s, s', a, [], hs, hr => ⟨[], a, rfl, Option.some.inj hr ▸ hs⟩
  | s, s', a, e :: es, hs, hr => by
    obtain ⟨s₁, h₁, h₂⟩ := run_cons hr
    obtain ⟨es₁, a₁, ha₁, hs₁⟩ := hstep s e s₁ a hs h₁
    obtain ⟨es₂, a₂, ha₂, hs₂⟩ := run_simulation hstep hs₁ h₂
    refine ⟨es₁ ++ es₂, a₂, ?_, hs₂⟩
    rw [run_append, ha₁]
    exact ha₂

/-! ## Conditions along a run -/

/-- Every step of the run from `s` is taken in a state where `C` allows it. -/
def AlongRun (step : σ → ε → Option σ) (C : σ → ε → Prop) : σ → List ε → Prop
  | _, [] => True
  | s, e :: es => C s e ∧ ∀ s', step s e = some s' → AlongRun step C s' es

/-- **Invariant rule for runs that meet a condition.** -/
theorem run_invariant_of {P : σ → Prop} {C : σ → ε → Prop}
    (hstep : ∀ s e s', P s → C s e → step s e = some s' → P s') :
    ∀ {s s' : σ} {es : List ε}, P s → AlongRun step C s es → run step s es = some s' → P s'
  | s, s', [], h, _, hr => Option.some.inj hr ▸ h
  | s, s', e :: es, h, hc, hr => by
    obtain ⟨s₁, h₁, h₂⟩ := run_cons hr
    exact run_invariant_of hstep (hstep s e s₁ h hc.1 h₁) (hc.2 s₁ h₁) h₂

/-- A condition that every event of a run meets in any state holds along it. -/
theorem alongRun_of_forall {C : σ → ε → Prop} : ∀ {s : σ} {es : List ε},
    (∀ s', ∀ e ∈ es, C s' e) → AlongRun step C s es
  | _, [], _ => trivial
  | s, e :: _, h =>
    ⟨h s e List.mem_cons_self, fun _ _ =>
      alongRun_of_forall fun s' e' he' => h s' e' (List.mem_cons_of_mem e he')⟩

/-- A condition that holds at every split of a run holds along it. -/
theorem alongRun_of_split {C : σ → ε → Prop} : ∀ {s s' : σ} {es : List ε},
    run step s es = some s' →
    (∀ es₁ e es₂ s₁ s₂, es = es₁ ++ e :: es₂ → run step s es₁ = some s₁ →
      step s₁ e = some s₂ → run step s₂ es₂ = some s' → C s₁ e) → AlongRun step C s es
  | s, s', [], _, _ => trivial
  | s, s', e :: es, hr, h => by
    obtain ⟨s₁, h₁, h₂⟩ := run_cons hr
    refine ⟨h [] e es s s₁ rfl rfl h₁ h₂, fun s₂ hs₂ => ?_⟩
    obtain rfl : s₁ = s₂ := Option.some.inj (h₁.symm.trans hs₂)
    refine alongRun_of_split h₂ fun es₁ e' es₂ t₁ t₂ hes ht₁ ht₂ ht => ?_
    refine h (e :: es₁) e' es₂ t₁ t₂ (by rw [hes]; rfl) ?_ ht₂ ht
    simp only [run, h₁, Option.bind_some, ht₁]

/-- A condition along a run holds at each of its events. -/
theorem AlongRun.at_split {C : σ → ε → Prop} : ∀ {s s₁ : σ} {es₁ es₂ : List ε} {e : ε},
    AlongRun step C s (es₁ ++ e :: es₂) → run step s es₁ = some s₁ → C s₁ e
  | s, s₁, [], es₂, e, h, hr => Option.some.inj hr ▸ h.1
  | s, s₁, e' :: es₁, es₂, e, h, hr => by
    obtain ⟨s₂, h₁, h₂⟩ := run_cons hr
    exact (h.2 s₂ h₁).at_split h₂

end Run
