import GraphcastSdk.Lib.Run
import GraphcastSdk.Nonces
import GraphcastSdk.SenderCheck

/-!
# Concurrent message checks

A receiver runs any number of `check_message_validity` calls at once over one nonces map. A call
is at one of three checks, and other calls and the clock may move between any two of them:
`valid_sender` waits for remote services, `valid_time` reads the clock, and `valid_nonce` takes
the lock. The outcome of a sender check is part of its event, so a run ranges over all of them.

* `run_checkMessageValidity`: with nothing in between, the steps of one call are
  `check_message_validity`.
* `history_run`: the map is that of its nonce checks in the order of their locks, so the laws of
  `nonces_history` hold of it.
* `inv_run`: a nonce that is saved, or about to be, is at most the clock. The time check comes
  before the nonce check, and the clock does not go back.
* `no_lockout`: so a message that carries the current time is accepted from any reachable state.
* `nonces_follow_clock`: these together, with the frame of rejected calls and the monotony of saved
  nonces, for every run.
-/

namespace GraphcastSdk

open GraphcastMessage

/-- The checks of `check_message_validity`. -/
inductive Check where
  | sender
  | time
  | nonce
  deriving Repr, DecidableEq

/-- Where a call is: before a check, or returned from one. -/
inductive Stage (T : Type) where
  | awaits (check : Check)
  | returned (check : Check) (result : Outcome MessageError (GraphcastMessage T))
  deriving Repr, DecidableEq

/-- Where a check's result leaves the call: at the next check, or returned. -/
def Stage.after {T : Type} : Check → Outcome MessageError (GraphcastMessage T) → Stage T
  | .sender, .ok _ => .awaits .time
  | .time, .ok _ => .awaits .nonce
  | check, result => .returned check result

/-- One call and its message. -/
structure Call (T : Type) where
  msg : GraphcastMessage T
  stage : Stage T
  deriving Repr, DecidableEq

/-- The receiver: its clock, the shared map, and its calls in the order they were made. -/
structure Receiver (T : Type) where
  clock : Int64
  nonces : NoncesMap
  calls : List (Call T)

namespace Receiver

variable {T : Type}

/-- No calls yet, an empty map. -/
def init (clock : Int64) : Receiver T := ⟨clock, ∅, []⟩

inductive Event (T : Type) where
  /-- The clock moves to `t`. -/
  | tick (t : Int64)
  /-- A call on `m` is made. -/
  | call (m : GraphcastMessage T)
  /-- The sender check of call `i` comes to `result`. -/
  | sender (i : Nat) (result : Outcome MessageError (GraphcastMessage T))
  /-- The time check of call `i` reads the clock. -/
  | time (i : Nat)
  /-- The nonce check of call `i` takes the lock. -/
  | nonce (i : Nat)

/-- Call `i` passes through `check`, which comes to a result and leaves a map. -/
def resume (s : Receiver T) (i : Nat) (check : Check)
    (f : GraphcastMessage T → Outcome MessageError (GraphcastMessage T) × NoncesMap) :
    Option (Receiver T) :=
  match s.calls[i]? with
  | some ⟨m, .awaits c⟩ =>
    if c = check then
      some { s with nonces := (f m).2, calls := s.calls.set i ⟨m, .after check (f m).1⟩ }
    else none
  | some ⟨_, .returned _ _⟩ => none
  | none => none

variable (ethers : Ethers T)

def step (s : Receiver T) : Event T → Option (Receiver T)
  | .tick t => if s.clock ≤ t then some { s with clock := t } else none
  | .call m => some { s with calls := s.calls ++ [⟨m, .awaits .sender⟩] }
  | .sender i result => s.resume i .sender fun _ => (result, s.nonces)
  | .time i => s.resume i .time fun m => (m.validTime s.clock, s.nonces)
  | .nonce i => s.resume i .nonce fun m => m.validNonce ethers s.nonces

/-! ## What a step does -/

variable {ethers} {s s' : Receiver T}

theorem resume_eq_some {i : Nat} {check : Check}
    {f : GraphcastMessage T → Outcome MessageError (GraphcastMessage T) × NoncesMap} :
    s.resume i check f = some s' ↔ ∃ m, s.calls[i]? = some ⟨m, .awaits check⟩ ∧
      s' = { s with nonces := (f m).2, calls := s.calls.set i ⟨m, .after check (f m).1⟩ } := by
  unfold resume
  constructor
  · intro h
    split at h
    · rename_i m c hi
      split at h
      · rename_i hc
        exact ⟨m, hc ▸ hi, (Option.some.inj h).symm⟩
      · exact absurd h (by simp)
    · exact absurd h (by simp)
    · exact absurd h (by simp)
  · rintro ⟨m, hi, rfl⟩
    rw [hi]
    exact if_pos rfl

/-- The steps, each with what makes it possible. -/
inductive Step (ethers : Ethers T) (s : Receiver T) : Event T → Receiver T → Prop
  | tick {t : Int64} (ht : s.clock ≤ t) : Step ethers s (.tick t) { s with clock := t }
  | call {m : GraphcastMessage T} :
    Step ethers s (.call m) { s with calls := s.calls ++ [⟨m, .awaits .sender⟩] }
  | sender {i : Nat} {m : GraphcastMessage T} {result : Outcome MessageError (GraphcastMessage T)}
    (hi : s.calls[i]? = some ⟨m, .awaits .sender⟩) :
    Step ethers s (.sender i result)
      { s with calls := s.calls.set i ⟨m, .after .sender result⟩ }
  | time {i : Nat} {m : GraphcastMessage T} (hi : s.calls[i]? = some ⟨m, .awaits .time⟩) :
    Step ethers s (.time i)
      { s with calls := s.calls.set i ⟨m, .after .time (m.validTime s.clock)⟩ }
  | nonce {i : Nat} {m : GraphcastMessage T} (hi : s.calls[i]? = some ⟨m, .awaits .nonce⟩) :
    Step ethers s (.nonce i)
      { s with
        nonces := (m.validNonce ethers s.nonces).2
        calls := s.calls.set i ⟨m, .after .nonce (m.validNonce ethers s.nonces).1⟩ }

theorem step_eq_some {e : Event T} : step ethers s e = some s' ↔ Step ethers s e s' := by
  constructor
  · intro h
    cases e with
    | tick t =>
      simp only [step] at h
      split at h
      · rename_i ht
        exact Option.some.inj h ▸ .tick ht
      · exact absurd h (by simp)
    | call m => exact Option.some.inj h ▸ .call
    | sender i result =>
      obtain ⟨m, hi, rfl⟩ := resume_eq_some.mp h
      exact .sender hi
    | time i =>
      obtain ⟨m, hi, rfl⟩ := resume_eq_some.mp h
      exact .time hi
    | nonce i =>
      obtain ⟨m, hi, rfl⟩ := resume_eq_some.mp h
      exact .nonce hi
  · intro h
    cases h with
    | tick ht => exact if_pos ht
    | call => rfl
    | sender hi => exact resume_eq_some.mpr ⟨_, hi, rfl⟩
    | time hi => exact resume_eq_some.mpr ⟨_, hi, rfl⟩
    | nonce hi => exact resume_eq_some.mpr ⟨_, hi, rfl⟩

/-- A check's result leaves the call before a later check, only when it is a value. -/
theorem after_eq_awaits {check c : Check} {r : Outcome MessageError (GraphcastMessage T)}
    (h : Stage.after check r = .awaits c) :
    (∃ m, r = .ok m) ∧ (check = .sender ∧ c = .time ∨ check = .time ∧ c = .nonce) := by
  cases check <;> cases r <;> simp_all [Stage.after]

/-- The nonce check always returns. -/
@[simp] theorem after_nonce (r : Outcome MessageError (GraphcastMessage T)) :
    Stage.after .nonce r = .returned .nonce r := by
  cases r <;> rfl

/-- What a step from `s` to `s'` made of call `i`. -/
inductive CallStep (ethers : Ethers T) (s s' : Receiver T) (e : Event T) (i : Nat)
    (call : Call T) : Prop
  | kept (hi : s.calls[i]? = some call)
  | made (he : e = .call call.msg) (hst : call.stage = .awaits .sender)
  | sender (r : Outcome MessageError (GraphcastMessage T)) (he : e = .sender i r)
    (hi : s.calls[i]? = some ⟨call.msg, .awaits .sender⟩) (hst : call.stage = .after .sender r)
  | time (he : e = .time i) (hi : s.calls[i]? = some ⟨call.msg, .awaits .time⟩)
    (hst : call.stage = .after .time (call.msg.validTime s.clock))
  | nonce (he : e = .nonce i) (hi : s.calls[i]? = some ⟨call.msg, .awaits .nonce⟩)
    (hst : call.stage = .returned .nonce (call.msg.validNonce ethers s.nonces).1)
    (hn : s'.nonces = (call.msg.validNonce ethers s.nonces).2)

/-- **A call is as it was, or it was just made, or it passed through one check.** -/
theorem call_step {e : Event T} (h : step ethers s e = some s') {i : Nat} {call : Call T}
    (hi : s'.calls[i]? = some call) : CallStep ethers s s' e i call := by
  -- a step of call `j` shows at `i` when `j` is `i`
  have at_set : ∀ {j : Nat} {m : GraphcastMessage T} {c : Check} {stage : Stage T},
      s.calls[j]? = some ⟨m, .awaits c⟩ → (s.calls.set j ⟨m, stage⟩)[i]? = some call →
        s.calls[i]? = some call ∨ j = i ∧ call = ⟨m, stage⟩ := by
    intro j m c stage hj hset
    by_cases hij : j = i
    · subst hij
      obtain ⟨hlt, -⟩ := List.getElem?_eq_some_iff.mp hj
      rw [List.getElem?_set_self hlt] at hset
      exact Or.inr ⟨rfl, (Option.some.inj hset).symm⟩
    · rw [List.getElem?_set_ne hij] at hset
      exact Or.inl hset
  cases step_eq_some.mp h with
  | tick ht => exact .kept hi
  | @call m =>
    have hi : (s.calls ++ [⟨m, .awaits .sender⟩])[i]? = some call := hi
    rw [List.getElem?_append] at hi
    split at hi
    · exact .kept hi
    · obtain rfl := List.mem_singleton.mp (List.mem_of_getElem? hi)
      exact .made rfl rfl
  | @sender j m r hj =>
    rcases at_set hj hi with hi | ⟨rfl, rfl⟩
    · exact .kept hi
    · exact .sender r rfl hj rfl
  | @time j m hj =>
    rcases at_set hj hi with hi | ⟨rfl, rfl⟩
    · exact .kept hi
    · exact .time rfl hj rfl
  | @nonce j m hj =>
    rcases at_set hj hi with hi | ⟨rfl, rfl⟩
    · exact .kept hi
    · exact .nonce rfl hj (after_nonce _) rfl

/-- A call that returned has returned for good. -/
theorem returned_step {e : Event T} (h : step ethers s e = some s') {i : Nat}
    {m : GraphcastMessage T} {c : Check} {r : Outcome MessageError (GraphcastMessage T)}
    (hi : s.calls[i]? = some ⟨m, .returned c r⟩) : s'.calls[i]? = some ⟨m, .returned c r⟩ := by
  have kept : ∀ {j : Nat} {m' : GraphcastMessage T} {c' : Check} (x : Call T),
      s.calls[j]? = some ⟨m', .awaits c'⟩ → (s.calls.set j x)[i]? = some ⟨m, .returned c r⟩ := by
    intro j m' c' x hj
    have hne : j ≠ i := by
      rintro rfl
      rw [hi] at hj
      exact absurd hj (by simp)
    rw [List.getElem?_set_ne hne, hi]
  cases step_eq_some.mp h with
  | tick ht => exact hi
  | call =>
    obtain ⟨hlt, -⟩ := List.getElem?_eq_some_iff.mp hi
    exact (List.getElem?_append_left hlt).trans hi
  | sender hj => exact kept _ hj
  | time hj => exact kept _ hj
  | nonce hj => exact kept _ hj

theorem returned_run {es : List (Event T)} (h : Run.run (step ethers) s es = some s') {i : Nat}
    {m : GraphcastMessage T} {c : Check} {r : Outcome MessageError (GraphcastMessage T)}
    (hi : s.calls[i]? = some ⟨m, .returned c r⟩) : s'.calls[i]? = some ⟨m, .returned c r⟩ :=
  Run.run_invariant (fun _ _ _ hi h => returned_step h hi) hi h

/-- No step lowers or drops a saved nonce. -/
theorem le_saved_step {e : Event T} (h : step ethers s e = some s') {p : String × String}
    {w : UInt64} (hw : saved s.nonces p = some w) : ∃ w', saved s'.nonces p = some w' ∧ w ≤ w' := by
  cases step_eq_some.mp h with
  | tick ht => exact ⟨w, hw, le_refl w⟩
  | call => exact ⟨w, hw, le_refl w⟩
  | sender hi => exact ⟨w, hw, le_refl w⟩
  | time hi => exact ⟨w, hw, le_refl w⟩
  | nonce hi => exact le_saved_validNonce _ _ hw

theorem le_saved_run {es : List (Event T)} (h : Run.run (step ethers) s es = some s')
    {p : String × String} {w : UInt64} (hw : saved s.nonces p = some w) :
    ∃ w', saved s'.nonces p = some w' ∧ w ≤ w' := by
  refine Run.run_relation (P := fun _ => True)
    (R := fun t t' => ∀ w, saved t.nonces p = some w → ∃ w', saved t'.nonces p = some w' ∧ w ≤ w')
    (fun _ w hw => ⟨w, hw, le_refl w⟩) ?_ (fun _ _ _ _ ht => ⟨trivial, fun _ => le_saved_step ht⟩)
    trivial h w hw
  intro a b c hab hbc w hw
  obtain ⟨w₁, hw₁, hle₁⟩ := hab w hw
  obtain ⟨w₂, hw₂, hle₂⟩ := hbc w₁ hw₁
  exact ⟨w₂, hw₂, hle₁.trans hle₂⟩

/-- The map is that of `valid_nonce` calls on `locked`, whose calls have returned from the nonce
check. -/
structure History (ethers : Ethers T) (s : Receiver T) (locked : List (GraphcastMessage T)) :
    Prop where
  nonces : s.nonces = validNonces ethers ∅ locked
  returned : ∀ m ∈ locked, ∃ (i : Nat) (r : Outcome MessageError (GraphcastMessage T)),
    s.calls[i]? = some ⟨m, .returned .nonce r⟩

theorem history_step {e : Event T} {locked : List (GraphcastMessage T)}
    (hl : History ethers s locked) (h : step ethers s e = some s') :
    ∃ locked', History ethers s' locked' := by
  have hkept : ∀ m ∈ locked, ∃ (i : Nat) (r : Outcome MessageError (GraphcastMessage T)),
      s'.calls[i]? = some ⟨m, .returned .nonce r⟩ := by
    intro m hm
    obtain ⟨i, r, hi⟩ := hl.returned m hm
    exact ⟨i, r, returned_step h hi⟩
  cases step_eq_some.mp h with
  | tick ht => exact ⟨locked, hl.nonces, hkept⟩
  | call => exact ⟨locked, hl.nonces, hkept⟩
  | sender hi => exact ⟨locked, hl.nonces, hkept⟩
  | time hi => exact ⟨locked, hl.nonces, hkept⟩
  | @nonce i m hi =>
    refine ⟨locked ++ [m], by rw [validNonces_snoc, ← hl.nonces], fun m' hm' => ?_⟩
    rcases List.mem_append.mp hm' with hm' | hm'
    · exact hkept m' hm'
    · obtain rfl := List.mem_singleton.mp hm'
      obtain ⟨hlt, -⟩ := List.getElem?_eq_some_iff.mp hi
      refine ⟨i, (m'.validNonce ethers s.nonces).1, ?_⟩
      rw [List.getElem?_set_self hlt, after_nonce]

/-- **The map of a concurrent run is that of its nonce checks, in the order of their locks.** -/
theorem history_run {clock : Int64} {es : List (Event T)}
    (h : Run.run (step ethers) (init clock) es = some s) : ∃ locked, History ethers s locked := by
  refine Run.run_invariant (P := fun t => ∃ locked, History ethers t locked) ?_ ?_ h
  · rintro t e t' ⟨locked, hl⟩ ht
    exact history_step hl ht
  · exact ⟨[], rfl, fun m hm => absurd hm (by simp)⟩

/-! ## A call without interleaving -/

/-- The last call passes through a check. -/
theorem resume_last {clock : Int64} {nonces : NoncesMap} {calls : List (Call T)}
    {m : GraphcastMessage T} {check : Check}
    {f : GraphcastMessage T → Outcome MessageError (GraphcastMessage T) × NoncesMap} :
    resume ⟨clock, nonces, calls ++ [⟨m, .awaits check⟩]⟩ calls.length check f =
      some ⟨clock, (f m).2, calls ++ [⟨m, .after check (f m).1⟩]⟩ := by
  refine resume_eq_some.mpr ⟨m, by simp, ?_⟩
  rw [List.set_append_right _ _ (Nat.le_refl _), Nat.sub_self]
  rfl

/-- **The steps of one call, with nothing in between, are `check_message_validity`.** -/
theorem run_checkMessageValidity (web : Subgraphs) (F : Type) [F32 F] (callbook : CallBook)
    (localSenderId : String) (idValidation : IdentityValidation) (m : GraphcastMessage T)
    (s : Receiver T) :
    let sender := m.validSender ethers web F callbook.graphcastRegistry callbook.graphNetwork
      localSenderId idValidation
    let checked := checkMessageValidity ethers web F m s.nonces s.clock callbook localSenderId
      idValidation
    ∃ es check, Run.run (step ethers) s (.call m :: .sender s.calls.length sender :: es) =
      some ⟨s.clock, checked.2, s.calls ++ [⟨m, .returned check checked.1⟩]⟩ := by
  intro sender checked
  have hchecked : checked = _ := checkMessageValidity_eq
  have hsender : ∀ es, Run.run (step ethers) s (.call m :: .sender s.calls.length sender :: es) =
      Run.run (step ethers) ⟨s.clock, s.nonces, s.calls ++ [⟨m, .after .sender sender⟩]⟩ es := by
    intro es
    simp only [Run.run, step, Option.bind_some, resume_last]
  simp only [hsender, hchecked, show m.validSender ethers web F _ _ _ _ = sender from rfl]
  cases hs : sender with
  | err e => exact ⟨[], .sender, rfl⟩
  | panic p => exact ⟨[], .sender, rfl⟩
  | ok m' =>
    have htime : ∀ es, Run.run (step ethers)
        ⟨s.clock, s.nonces, s.calls ++ [⟨m, .awaits .time⟩]⟩ (.time s.calls.length :: es) =
        Run.run (step ethers)
          ⟨s.clock, s.nonces, s.calls ++ [⟨m, .after .time (m.validTime s.clock)⟩]⟩ es := by
      intro es
      simp only [Run.run, step, Option.bind_some, resume_last]
    cases ht : m.validTime s.clock with
    | err e =>
      refine ⟨[.time s.calls.length], .time, ?_⟩
      rw [Stage.after, htime, ht]
      rfl
    | panic p =>
      refine ⟨[.time s.calls.length], .time, ?_⟩
      rw [Stage.after, htime, ht]
      rfl
    | ok m'' =>
      refine ⟨[.time s.calls.length, .nonce s.calls.length], .nonce, ?_⟩
      rw [Stage.after, htime, ht]
      simp only [Run.run, step, Stage.after, Option.bind_some, resume_last]

/-! ## Nonces follow the clock -/

/-- The nonces saved, and those past the time check, are at most the clock. -/
structure Inv (s : Receiver T) : Prop where
  nonneg : 0 ≤ s.clock
  saved : ∀ p w, saved s.nonces p = some w → w ≤ s.clock.toUInt64
  pending : ∀ (i : Nat) (m : GraphcastMessage T), s.calls[i]? = some ⟨m, .awaits .nonce⟩ →
    m.nonce ≤ s.clock.toUInt64

theorem inv_init {clock : Int64} (h : 0 ≤ clock) : Inv (init clock : Receiver T) where
  nonneg := h
  saved p w hw := by
    simp only [init, saved_empty] at hw
    exact absurd hw (by simp)
  pending i m hi := absurd hi (by simp [init])

/-- A call reaches the nonce check through the time check. -/
theorem pending_step {e : Event T} (hi : Inv s) (h : step ethers s e = some s') {i : Nat}
    {m : GraphcastMessage T} (hp : s'.calls[i]? = some ⟨m, .awaits .nonce⟩) :
    m.nonce ≤ s.clock.toUInt64 := by
  cases call_step h hp with
  | kept hp => exact hi.pending i m hp
  | made he hst => exact absurd hst (by simp)
  | sender r he hp hst =>
    rcases (after_eq_awaits hst.symm).2 with ⟨-, hc⟩ | ⟨hc, -⟩ <;> exact absurd hc (by simp)
  | time he hp hst =>
    obtain ⟨r, hr⟩ := (after_eq_awaits hst.symm).1
    exact (validTime_eq_ok.mp hr).2.1
  | nonce he hp hst hn => exact absurd hst (by simp)

theorem inv_step {e : Event T} (hi : Inv s) (h : step ethers s e = some s') : Inv s' := by
  have hpending := fun i m => @pending_step T ethers s s' e hi h i m
  cases step_eq_some.mp h with
  | tick ht =>
    have hle := Int64.toUInt64_le hi.nonneg ht
    exact ⟨Int64.le_trans hi.nonneg ht, fun p w hw => (hi.saved p w hw).trans hle,
      fun i m hp => (hpending i m hp).trans hle⟩
  | call => exact ⟨hi.nonneg, hi.saved, hpending⟩
  | sender hj => exact ⟨hi.nonneg, hi.saved, hpending⟩
  | time hj => exact ⟨hi.nonneg, hi.saved, hpending⟩
  | @nonce j m hj =>
    exact ⟨hi.nonneg, fun p w hw => saved_validNonce_le hi.saved (hi.pending j m hj) hw, hpending⟩

theorem inv_run {clock : Int64} {es : List (Event T)} (h0 : 0 ≤ clock)
    (hr : Run.run (step ethers) (init clock) es = some s) : Inv s :=
  Run.run_invariant (fun _ _ _ hi h => inv_step hi h) (inv_init h0) hr

/-- The call that a step belongs to, once it is made. -/
def Event.ofCall : Event T → Option Nat
  | .tick _ | .call _ => none
  | .sender i _ | .time i | .nonce i => some i

/-- Only a step that ends in the nonce check touches the map. -/
theorem nonces_step {e : Event T} (h : step ethers s e = some s') {i : Nat}
    (he : e.ofCall = some i) : s'.nonces = s.nonces ∨
      ∃ m r, s'.calls[i]? = some ⟨m, .returned .nonce r⟩ := by
  cases step_eq_some.mp h with
  | tick ht => exact Or.inl rfl
  | call => exact Or.inl rfl
  | sender hj => exact Or.inl rfl
  | time hj => exact Or.inl rfl
  | @nonce j m hj =>
    obtain rfl := Option.some.inj he
    obtain ⟨hlt, -⟩ := List.getElem?_eq_some_iff.mp hj
    refine Or.inr ⟨m, (m.validNonce ethers s.nonces).1, ?_⟩
    rw [List.getElem?_set_self hlt, after_nonce]

/-- A call that the sender or the time check turned away has left the map alone. -/
theorem nonces_rejected {es₂ : List (Event T)} {e : Event T} {s₁ s₂ : Receiver T}
    (he : step ethers s₁ e = some s₂) (h₂ : Run.run (step ethers) s₂ es₂ = some s) {i : Nat}
    {m : GraphcastMessage T} {c : Check} {r : Outcome MessageError (GraphcastMessage T)}
    (hi : e.ofCall = some i) (hs : s.calls[i]? = some ⟨m, .returned c r⟩) (hc : c ≠ .nonce) :
    s₂.nonces = s₁.nonces := by
  rcases nonces_step he hi with h | ⟨m', r', h⟩
  · exact h
  · have := returned_run h₂ h
    rw [hs] at this
    simp only [Option.some.injEq, Call.mk.injEq, Stage.returned.injEq] at this
    exact absurd this.2.1 hc

/-- A message that carries the current time is accepted when its sender check passes and its pair
was seen before. -/
theorem no_lockout (hi : Inv s) {web : Subgraphs} {F : Type} [F32 F] {callbook : CallBook}
    {localSenderId : String} {idValidation : IdentityValidation} {m : GraphcastMessage T}
    {address : String} {w : UInt64}
    (hsender : m.validSender ethers web F callbook.graphcastRegistry callbook.graphNetwork
      localSenderId idValidation = .ok m)
    (hrec : m.recoverSenderAddress ethers = .ok address)
    (hw : saved s.nonces (m.identifier, address) = some w) (hm : m.nonce = s.clock.toUInt64) :
    (checkMessageValidity ethers web F m s.nonces s.clock callbook localSenderId
      idValidation).1 = .ok m := by
  refine checkMessageValidity_eq_ok.mpr ⟨rfl, hsender, ?_, ?_⟩
  · refine validTime_eq_ok.mpr ⟨rfl, le_of_eq hm, ?_⟩
    rw [hm, UInt64.sub_self]
    decide
  · exact validNonce_eq_ok.mpr ⟨rfl, address, hrec, w, hw, hm ▸ hi.saved _ _ hw⟩

/-- **Saved nonces follow the clock.** In every state that concurrent calls reach, under a clock
that starts at or after zero and does not go back: no saved nonce is ahead of the clock; a call
that the sender or the time check turned away changed nothing in any of its steps; no saved nonce
decreases from there on; and a call made now, without interleaving, on a message that carries the
current time is accepted. -/
theorem nonces_follow_clock (ethers : Ethers T) {clock : Int64} {es : List (Event T)}
    {s : Receiver T} (h0 : 0 ≤ clock) (hr : Run.run (step ethers) (init clock) es = some s) :
    (∀ p w, saved s.nonces p = some w → (w.toNat : Int) ≤ s.clock.toInt) ∧
    (∀ es₁ e es₂ s₁ s₂ i m c r, es = es₁ ++ e :: es₂ →
      Run.run (step ethers) (init clock) es₁ = some s₁ → step ethers s₁ e = some s₂ →
      e.ofCall = some i → s.calls[i]? = some ⟨m, .returned c r⟩ → c ≠ .nonce →
        s₂.nonces = s₁.nonces) ∧
    (∀ es' s', Run.run (step ethers) s es' = some s' → ∀ p w,
      saved s.nonces p = some w →
        ∃ w', saved s'.nonces p = some w' ∧ w ≤ w') ∧
    ∀ (web : Subgraphs) (F : Type) [F32 F] callbook localSenderId idValidation m address w,
      m.validSender ethers web F callbook.graphcastRegistry callbook.graphNetwork localSenderId
        idValidation = .ok m →
      m.recoverSenderAddress ethers = .ok address →
      saved s.nonces (m.identifier, address) = some w →
      (m.nonce.toNat : Int) = s.clock.toInt →
        (checkMessageValidity ethers web F m s.nonces s.clock callbook localSenderId
          idValidation).1 = .ok m := by
  have hi := inv_run h0 hr
  have hclock := Int64.toNat_toUInt64_eq_toInt hi.nonneg
  refine ⟨fun p w hw => ?_, ?_, fun es' s' h p w hw => le_saved_run h hw, ?_⟩
  · rw [← hclock]
    exact Int.ofNat_le.mpr (UInt64.le_iff_toNat_le.mp (hi.saved p w hw))
  · rintro es₁ e es₂ s₁ s₂ i m c r rfl h₁ he hcall hs hc
    obtain ⟨t₁, t₂, ht₁, ht₂, ht⟩ := Run.run_split hr
    obtain rfl := Option.some.inj (h₁.symm.trans ht₁)
    obtain rfl := Option.some.inj (he.symm.trans ht₂)
    exact nonces_rejected he ht hcall hs hc
  · intro web F _ callbook localSenderId idValidation m address w hsender hrec hw hm
    refine no_lockout hi hsender hrec hw (UInt64.toNat_inj.mp ?_)
    rw [← hclock] at hm
    exact Int.ofNat_inj.mp hm

/-- The recorded message is presented, as call `i`, and passes the sender check. -/
def presented (i : Nat) : List (Event SimpleMessage) :=
  [.call graphAccountMessage, .sender i (graphAccountMessage.validSender goerliEthers
    goerliSubgraphs Unit "registry" "network" "" .indexer), .time i, .nonce i]

/-- The recorded message is turned away on first contact, and accepted when it comes again. -/
theorem nonces_follow_clock_goerli :
    ∃ s, Run.run (step goerliEthers) (init 1688744240) (presented 0) = some s ∧
      (checkMessageValidity goerliEthers goerliSubgraphs Unit graphAccountMessage s.nonces s.clock
        ⟨"registry", "network"⟩ "" .indexer).1 = .ok graphAccountMessage := by
  have hclock : (0 : Int64) ≤ 1688744240 := by decide
  have hrun : (Run.run (step goerliEthers) (init 1688744240) (presented 0)).map (fun s =>
      (s.clock, saved s.nonces ("ping-pong-content-topic",
        "0xe9a1cabd57700b17945fd81feefba82340d9568f"))) =
      some (1688744240, some 1688744240) := by decide +kernel
  obtain ⟨s, hs, heq⟩ := Option.map_eq_some_iff.mp hrun
  obtain ⟨hc, hw⟩ := Prod.mk.inj heq
  refine ⟨s, hs, ?_⟩
  exact (nonces_follow_clock goerliEthers hclock hs).2.2.2 goerliSubgraphs Unit
    ⟨"registry", "network"⟩ "" .indexer graphAccountMessage
    "0xe9a1cabd57700b17945fd81feefba82340d9568f" 1688744240 (by decide +kernel)
    (by decide +kernel) hw (by rw [hc]; decide)

end Receiver

end GraphcastSdk
