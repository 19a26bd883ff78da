import GraphcastSdk.Lib.Calls

/-!
# What code asks of a service

The calls that code makes with the answers it gets are its trace. `Traces service x Q` says that
`x` only adds calls to those made, that the answers are the service's in view of the calls before,
and that `Q` holds of the trace and the outcome, wherever `x` starts.

* `Traces.pure`, `Traces.lift`, `Traces.call`, `Traces.bind`: the rules for composed code, and
  `Traces.forEach` for a loop.
* `Makes P x`: every call of the code is one of `P`.
* `Decides fine fatal x`: the code returns a value iff every answer it got is fine, and which calls
  make it panic. Both have a rule for each way to compose code.
-/

namespace Calls

variable {κ κ' ρ ρ' ε ε' α β : Type}

/-! ## More ways to compose code -/

/-- `map_err`. -/
def mapErr (f : ε → ε') (x : Calling κ ρ ε α) : Calling κ ρ ε' α := fun service made =>
  ((x service made).1.mapErr f, (x service made).2)

/-- `expect`: a returned error is a panic. -/
def orPanic (text : ε → String) (x : Calling κ ρ ε α) : Calling κ ρ ε' α := fun service made =>
  ((x service made).1.orElse fun e => .panic (text e), (x service made).2)

/-- An error as a value. -/
def attempt (x : Calling κ ρ ε α) : Calling κ ρ ε' (Except ε α) := fun service made =>
  (match (x service made).1 with
    | .ok a => .ok (.ok a)
    | .err e => .ok (.error e)
    | .panic p => .panic p, (x service made).2)

/-- Code over one service as code over another, whose calls include its own. -/
def embed (f : κ → κ') (g : ρ' → ρ) (x : Calling κ ρ ε α) : Calling κ' ρ' ε α :=
  fun service made =>
    let inner := x (fun inner k => g (service (made ++ inner.map f) (f k))) []
    (inner.1, made ++ inner.2.map f)

/-- Code followed by a computation on its value alone. -/
theorem bind_pure_apply (x : Calling κ ρ ε α) (f : α → β) (service : Service κ ρ)
    (made : List κ) : (x >>= fun a => pure (f a)) service made =
      ((x service made).1 >>= fun a => pure (f a), (x service made).2) := by
  cases hx : x service made with
  | mk o made' =>
    cases o with
    | ok a => rw [bind_of_ok hx]; rfl
    | err e => rw [bind_of_err hx]; rfl
    | panic p => rw [bind_of_panic hx]; rfl

/-! ## Traces -/

/-- The answers of a trace are the service's. -/
def Answered (service : Service κ ρ) : List κ → List (κ × ρ) → Prop
  | _, [] => True
  | made, (k, r) :: rest => r = service made k ∧ Answered service (made ++ [k]) rest

/-- A property of what is called and answered, and of what comes of it. -/
abbrev Post (κ ρ ε α : Type) := List (κ × ρ) → Outcome ε α → Prop

/-- The code's trace and outcome meet `Q`. -/
def Traces (service : Service κ ρ) (x : Calling κ ρ ε α) (Q : Post κ ρ ε α) : Prop :=
  ∀ made, ∃ trace, (x service made).2 = made ++ trace.map Prod.fst ∧
    Answered service made trace ∧ Q trace (x service made).1

variable {service : Service κ ρ}

theorem Answered.append : ∀ {trace trace' : List (κ × ρ)} {made : List κ},
    Answered service made trace → Answered service (made ++ trace.map Prod.fst) trace' →
      Answered service made (trace ++ trace')
  | [], _, made, _, h => by rwa [List.map_nil, List.append_nil] at h
  | (k, r) :: trace, trace', made, hk, h => by
    refine ⟨hk.1, Answered.append hk.2 ?_⟩
    rwa [List.map_cons, List.append_cons] at h

namespace Traces

theorem mono {x : Calling κ ρ ε α} {Q Q' : Post κ ρ ε α} (h : Traces service x Q)
    (hQ : ∀ trace o, Q trace o → Q' trace o) : Traces service x Q' := by
  intro made
  obtain ⟨trace, hmade, hans, hq⟩ := h made
  exact ⟨trace, hmade, hans, hQ _ _ hq⟩

/-- Code that makes no calls. -/
theorem lift (x : Outcome ε α) {Q : Post κ ρ ε α} (h : Q [] x) :
    Traces service (Calls.lift x) Q := fun made =>
  ⟨[], (List.append_nil made).symm, trivial, h⟩

theorem pure (a : α) {Q : Post κ ρ ε α} (h : Q [] (.ok a)) :
    Traces service (Pure.pure a) Q := fun made =>
  ⟨[], (List.append_nil made).symm, trivial, h⟩

/-- One call. -/
theorem call (k : κ) {Q : Post κ ρ ε ρ} (h : ∀ r, Q [(k, r)] (.ok r)) :
    Traces service (Calls.call k) Q := fun made =>
  ⟨[(k, service made k)], rfl, ⟨rfl, trivial⟩, h _⟩

/-- What is left to show of `Q` when the first part has come to an outcome: after a value, the
rest. -/
def After (service : Service κ ρ) (f : α → Calling κ ρ ε β) (Q : Post κ ρ ε β)
    (trace : List (κ × ρ)) : Outcome ε α → Prop
  | .ok a => Traces service (f a) fun trace' o => Q (trace ++ trace') o
  | .err e => Q trace (.err e)
  | .panic p => Q trace (.panic p)

/-- **The rule for composed code.** -/
theorem bind {x : Calling κ ρ ε α} {f : α → Calling κ ρ ε β} {Q : Post κ ρ ε β}
    (h : Traces service x (After service f Q)) : Traces service (x >>= f) Q := by
  intro made
  obtain ⟨trace, hmade, hans, hq⟩ := h made
  cases hx : x service made with
  | mk o made' =>
    rw [hx] at hmade hq
    obtain rfl := hmade
    cases o with
    | ok a =>
      obtain ⟨trace', hmade', hans', hq'⟩ := hq (made ++ trace.map Prod.fst)
      rw [bind_of_ok hx]
      refine ⟨trace ++ trace', ?_, hans.append hans', hq'⟩
      rw [hmade', List.map_append, List.append_assoc]
    | err e =>
      rw [bind_of_err hx]
      exact ⟨trace, rfl, hans, hq⟩
    | panic p =>
      rw [bind_of_panic hx]
      exact ⟨trace, rfl, hans, hq⟩

/-- The rule for code that starts with a call. -/
theorem call_bind {k : κ} {f : ρ → Calling κ ρ ε β} {Q : Post κ ρ ε β}
    (h : ∀ r, Traces service (f r) fun trace o => Q ((k, r) :: trace) o) :
    Traces service (Calls.call k >>= f) Q :=
  bind (call k h)

/-- The rule for a property of the calls alone that two traces in a row keep. -/
theorem bind_of_append {R : List (κ × ρ) → Prop}
    (happend : ∀ trace trace', R trace → R trace' → R (trace ++ trace'))
    {x : Calling κ ρ ε α} {f : α → Calling κ ρ ε β} (hx : Traces service x fun trace _ => R trace)
    (hf : ∀ a, Traces service (f a) fun trace _ => R trace) :
    Traces service (x >>= f) fun trace _ => R trace := by
  refine Traces.bind (hx.mono fun trace o h => ?_)
  cases o with
  | ok a => exact (hf a).mono fun trace' _ h' => happend trace trace' h h'
  | err e => exact h
  | panic p => exact h

/-- **The rule for loops**: a relation between the elements gone through and the trace so far. -/
theorem forEach {body : α → Calling κ ρ ε Unit} {R : List α → List (κ × ρ) → Prop}
    (hnil : R [] [])
    (hcons : ∀ a as, Traces service (body a) fun trace o => o = .ok () ∧
      ∀ trace', R as trace' → R (a :: as) (trace ++ trace')) :
    ∀ as : List α, Traces service (Calls.forEach body as) fun trace o => o = .ok () ∧ R as trace
  | [] => Traces.pure () ⟨rfl, hnil⟩
  | a :: as => by
    refine Traces.bind ((hcons a as).mono fun trace o h => ?_)
    obtain ⟨rfl, hstep⟩ := h
    refine (Traces.forEach hnil hcons as).mono fun trace' o' h' => ?_
    exact ⟨h'.1, hstep trace' h'.2⟩

theorem mapErr {f : ε → ε'} {x : Calling κ ρ ε α} {Q : Post κ ρ ε' α}
    (h : Traces service x fun trace o => Q trace (o.mapErr f)) :
    Traces service (Calls.mapErr f x) Q := h

/-- An error caught calls what was called before it. -/
theorem attempt {x : Calling κ ρ ε α} {R : List (κ × ρ) → Prop}
    (h : Traces service x fun trace _ => R trace) :
    Traces service (Calls.attempt x : Calling κ ρ ε' _) fun trace _ => R trace := h

theorem orPanic {text : ε → String} {x : Calling κ ρ ε α} {Q : Post κ ρ ε' α}
    (h : Traces service x fun trace o => Q trace (o.orElse fun e => .panic (text e))) :
    Traces service (Calls.orPanic text x) Q := h

/-- A trace for calls that are known otherwise. -/
theorem of_calls {x : Calling κ ρ ε α} {Q : List κ → Outcome ε α → Prop}
    (h : ∀ made, ∃ ks, (x service made).2 = made ++ ks ∧ Q ks (x service made).1) :
    Traces service x fun trace o => Q (trace.map Prod.fst) o := by
  have htrace : ∀ (ks made : List κ), ∃ trace, trace.map Prod.fst = ks ∧
      Answered service made trace := by
    intro ks
    induction ks with
    | nil => exact fun _ => ⟨[], rfl, trivial⟩
    | cons k ks ih =>
      intro made
      obtain ⟨trace, hks, hans⟩ := ih (made ++ [k])
      exact ⟨(k, service made k) :: trace, by rw [List.map_cons, hks], rfl, hans⟩
  intro made
  obtain ⟨ks, hmade, hq⟩ := h made
  obtain ⟨trace, rfl, hans⟩ := htrace ks made
  exact ⟨trace, hmade, hans, hq⟩

/-- **The rule for embedded code**: its calls are the images of calls of its own. -/
theorem embed {service : Service κ' ρ'} {f : κ → κ'} {g : ρ' → ρ} {x : Calling κ ρ ε α}
    {Q : List κ → Outcome ε α → Prop}
    (h : ∀ inner, Traces inner x fun trace o => Q (trace.map Prod.fst) o) :
    Traces service (Calls.embed f g x) fun trace o =>
      ∃ ks, trace.map Prod.fst = ks.map f ∧ Q ks o := by
  refine of_calls (Q := fun ks' o => ∃ ks, ks' = ks.map f ∧ Q ks o) fun made => ?_
  obtain ⟨trace, hmade, -, hq⟩ := h (fun inner k => g (service (made ++ inner.map f) (f k))) []
  refine ⟨(trace.map Prod.fst).map f, ?_, trace.map Prod.fst, rfl, hq⟩
  show made ++ List.map f (x _ []).2 = _
  rw [hmade, List.nil_append]

/-- A trace is determined by its calls. -/
theorem answered_unique : ∀ {trace trace' : List (κ × ρ)} {made : List κ},
    Answered service made trace → Answered service made trace' →
      trace.map Prod.fst = trace'.map Prod.fst → trace = trace'
  | [], [], _, _, _, _ => rfl
  | [], _ :: _, _, _, _, h => absurd h (by simp)
  | _ :: _, [], _, _, _, h => absurd h (by simp)
  | (k, r) :: trace, (k', r') :: trace', made, ha, ha', h => by
    obtain ⟨hk, hrest⟩ := List.cons.inj h
    obtain rfl : k = k' := hk
    rw [ha.1, ha'.1, answered_unique ha.2 ha'.2 hrest]

/-- Two properties of one trace. -/
theorem and {x : Calling κ ρ ε α} {Q Q' : Post κ ρ ε α} (h : Traces service x Q)
    (h' : Traces service x Q') : Traces service x fun trace o => Q trace o ∧ Q' trace o := by
  intro made
  obtain ⟨trace, hmade, hans, hq⟩ := h made
  obtain ⟨trace', hmade', hans', hq'⟩ := h' made
  obtain rfl := answered_unique hans hans' (List.append_cancel_left (hmade.symm.trans hmade'))
  exact ⟨trace, hmade, hans, hq, hq'⟩

end Traces

/-! ## Which calls are made -/

/-- Every call is one of `P`. -/
def Makes (service : Service κ ρ) (P : κ → Prop) (x : Calling κ ρ ε α) : Prop :=
  Traces service x fun trace _ => ∀ p ∈ trace, P p.1

namespace Makes

variable {P : κ → Prop}

theorem lift (x : Outcome ε α) : Makes service P (Calls.lift x) :=
  Traces.lift x (by simp)

theorem pure (a : α) : Makes service P (Pure.pure a : Calling κ ρ ε α) :=
  Traces.pure a (by simp)

theorem call {k : κ} (h : P k) : Makes service P (Calls.call k : Calling κ ρ ε ρ) :=
  Traces.call k fun r => by simpa using h

theorem bind {x : Calling κ ρ ε α} {f : α → Calling κ ρ ε β} (hx : Makes service P x)
    (hf : ∀ a, Makes service P (f a)) : Makes service P (x >>= f) :=
  Traces.bind_of_append (R := fun trace => ∀ p ∈ trace, P p.1)
    (fun _ _ h h' => List.forall_mem_append.mpr ⟨h, h'⟩) hx hf

theorem forEach {body : α → Calling κ ρ ε Unit} {as : List α}
    (h : ∀ a ∈ as, Makes service P (body a)) : Makes service P (Calls.forEach body as) := by
  induction as with
  | nil => exact pure ()
  | cons a as ih =>
    exact bind (h a List.mem_cons_self) fun _ => ih fun b hb => h b (List.mem_cons_of_mem a hb)

theorem mapErr {f : ε → ε'} {x : Calling κ ρ ε α} (h : Makes service P x) :
    Makes service P (Calls.mapErr f x) := Traces.mapErr h

theorem orPanic {text : ε → String} {x : Calling κ ρ ε α} (h : Makes service P x) :
    Makes service P (Calls.orPanic text x : Calling κ ρ ε' α) := Traces.orPanic h

/-- What an `expect` unwraps returns no error. -/
theorem expect {text : ε → String} {x : Calling κ ρ ε α} (h : Makes service P x) :
    Traces service (Calls.orPanic text x : Calling κ ρ ε' α) fun trace o =>
      (∀ p ∈ trace, P p.1) ∧ ∀ e, o ≠ .err e := by
  refine Traces.orPanic (Traces.mono h fun trace o hall => ⟨hall, fun e => ?_⟩)
  cases o with
  | ok a => simp [Outcome.orElse]
  | err e' => simp [Outcome.orElse]
  | panic p => simp [Outcome.orElse]

end Makes

/-! ## What the outcome rests on -/

/-- The code returns a value iff every answer it got is fine, and panics iff the one that is not
answers a fatal call. -/
def Decides (service : Service κ ρ) (fine : κ × ρ → Prop) (fatal : κ → Prop)
    (x : Calling κ ρ ε α) : Prop :=
  Traces service x fun trace o => ((∃ a, o = .ok a) ↔ ∀ p ∈ trace, fine p) ∧
    (o.isPanic = true ↔ ∃ p ∈ trace, ¬ fine p ∧ fatal p.1)

namespace Decides

variable {fine : κ × ρ → Prop} {fatal : κ → Prop}

theorem pure (a : α) : Decides service fine fatal (Pure.pure a : Calling κ ρ ε α) :=
  Traces.pure a (by simp)

/-- A call whose answer does not matter. -/
theorem call {k : κ} (h : ∀ r, fine (k, r)) :
    Decides service fine fatal (Calls.call k : Calling κ ρ ε ρ) :=
  Traces.call k fun r => by simp [h r]

/-- A call that is not fatal, and code that makes no calls and returns a value iff the answer is
fine. -/
theorem call_lift {k : κ} {f : ρ → Outcome ε α} (h : ∀ r, (∃ a, f r = .ok a) ↔ fine (k, r))
    (hpanic : ∀ r, (f r).isPanic = false) (hk : ¬ fatal k) : Decides service fine fatal (do
      let r ← Calls.call k
      Calls.lift (f r)) := by
  refine Traces.call_bind fun r => Traces.lift _ ⟨?_, ?_⟩
  · simpa using h r
  · simp [hpanic r, hk]

theorem bind {x : Calling κ ρ ε α} {f : α → Calling κ ρ ε β} (hx : Decides service fine fatal x)
    (hf : ∀ a, Decides service fine fatal (f a)) : Decides service fine fatal (x >>= f) := by
  refine Traces.bind (hx.mono fun trace o h => ?_)
  cases o with
  | ok a =>
    have hfine := h.1.mp ⟨a, rfl⟩
    refine (hf a).mono fun trace' o' h' => ⟨h'.1.trans ?_, h'.2.trans ?_⟩
    · refine ⟨fun hall p hp => ?_, fun hall p hp => hall p (List.mem_append_right _ hp)⟩
      exact (List.mem_append.mp hp).elim (hfine p) (hall p)
    · refine ⟨fun ⟨p, hp, hbad⟩ => ⟨p, List.mem_append_right _ hp, hbad⟩, ?_⟩
      rintro ⟨p, hp, hbad, hfatal⟩
      rcases List.mem_append.mp hp with hp | hp
      · exact absurd (hfine p hp) hbad
      · exact ⟨p, hp, hbad, hfatal⟩
  | err e =>
    exact ⟨⟨fun hok => absurd hok (by simp), fun hall => absurd (h.1.mpr hall) (by simp)⟩, h.2⟩
  | panic p =>
    exact ⟨⟨fun hok => absurd hok (by simp), fun hall => absurd (h.1.mpr hall) (by simp)⟩, h.2⟩

theorem forEach {body : α → Calling κ ρ ε Unit} {as : List α}
    (h : ∀ a ∈ as, Decides service fine fatal (body a)) :
    Decides service fine fatal (Calls.forEach body as) := by
  induction as with
  | nil => exact pure ()
  | cons a as ih =>
    exact bind (h a List.mem_cons_self) fun _ => ih fun b hb => h b (List.mem_cons_of_mem a hb)

theorem mapErr {f : ε → ε'} {x : Calling κ ρ ε α} (h : Decides service fine fatal x) :
    Decides service fine fatal (Calls.mapErr f x) := by
  refine Traces.mapErr (h.mono fun trace o hd => ?_)
  simpa only [Outcome.mapErr_eq_ok, Outcome.isPanic_mapErr] using hd

/-- **The rule for `expect`**: every call that can stop the code is fatal. -/
theorem orPanic {text : ε → String} {x : Calling κ ρ ε α}
    (h : Traces service x fun trace o => ((∃ a, o = .ok a) ↔ ∀ p ∈ trace, fine p) ∧
      ∀ p ∈ trace, fine p ∨ fatal p.1) :
    Decides service fine fatal (Calls.orPanic text x : Calling κ ρ ε' α) := by
  refine Traces.orPanic (h.mono fun trace o hd => ?_)
  have hbad : (∃ p ∈ trace, ¬ fine p ∧ fatal p.1) ↔ ¬ ∃ a, o = .ok a := by
    rw [hd.1]
    constructor
    · rintro ⟨p, hp, hbad, -⟩ hall
      exact hbad (hall p hp)
    · intro hall
      obtain ⟨p, hp, hbad⟩ : ∃ p ∈ trace, ¬ fine p := by simpa using hall
      exact ⟨p, hp, hbad, (hd.2 p hp).resolve_left hbad⟩
  rw [hbad, ← hd.1]
  cases o with
  | ok a => simp [Outcome.orElse]
  | err e => simp [Outcome.orElse]
  | panic p => simp [Outcome.orElse]

end Decides

end Calls
