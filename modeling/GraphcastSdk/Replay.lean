import GraphcastSdk.Receiver

/-!
# Replays

A nonce is turned away when it is below the one saved, so the message that set the mark is itself
accepted again, for as long as it is young enough (`accepted_twice`). It stops being accepted once
a newer message of the same sender raised the mark.

* `accepted_once_iff`: in any run of concurrent calls, no message is accepted twice iff no call on
  an accepted message takes the lock while that message's nonce is still the one saved (`Stale`).
-/

namespace GraphcastSdk

open GraphcastMessage

namespace Receiver

variable {T : Type}

/-- Call `i` is a call on `m` and returned it. -/
def Accepted (s : Receiver T) (i : Nat) (m : GraphcastMessage T) : Prop :=
  s.calls[i]? = some ⟨m, .returned .nonce (.ok m)⟩

/-- A nonce check on a message that was already accepted finds another nonce saved for its
sender. -/
def Stale (ethers : Ethers T) (s : Receiver T) (e : Event T) : Prop :=
  ∀ i m, e = .nonce i → s.calls[i]? = some ⟨m, .awaits .nonce⟩ → (∃ j, s.Accepted j m) →
    ∀ address, m.recoverSenderAddress ethers = .ok address →
      saved s.nonces (m.identifier, address) ≠ some m.nonce

variable {ethers : Ethers T} {s s' : Receiver T}

/-! ## Accepted messages stay below their mark -/

/-- An accepted message is at most the nonce saved for its sender. -/
def Marked (ethers : Ethers T) (s : Receiver T) : Prop :=
  ∀ i m, s.Accepted i m → ∃ address w, m.recoverSenderAddress ethers = .ok address ∧
    saved s.nonces (m.identifier, address) = some w ∧ m.nonce ≤ w

theorem saved_of_accepted {m : GraphcastMessage T} {nonces : NoncesMap}
    (h : (m.validNonce ethers nonces).1 = .ok m) :
    ∃ address w, m.recoverSenderAddress ethers = .ok address ∧
      saved (m.validNonce ethers nonces).2 (m.identifier, address) = some w ∧ m.nonce ≤ w := by
  obtain ⟨-, address, ha, -⟩ := validNonce_eq_ok.mp h
  obtain ⟨w, hw, hle⟩ := HighWater.offer_self (saved nonces) (m.identifier, address) m.nonce
  refine ⟨address, w, ha, ?_, hle⟩
  rw [validNonce_recovered ha, saved_lockedNonce]
  exact hw

/-- Where an accepted call comes from: it was accepted before, or this step accepts it. -/
theorem accepted_step {e : Event T} (h : step ethers s e = some s') {i : Nat}
    {m : GraphcastMessage T} (ha : s'.Accepted i m) :
    s.Accepted i m ∨ e = .nonce i ∧ s.calls[i]? = some ⟨m, .awaits .nonce⟩ ∧
      (m.validNonce ethers s.nonces).1 = .ok m ∧ s'.nonces = (m.validNonce ethers s.nonces).2 := by
  cases call_step h ha with
  | kept ha => exact Or.inl ha
  | made he hst => exact absurd hst (by simp)
  | sender r he hi hst => cases r <;> exact absurd hst (by simp [Stage.after])
  | time he hi hst =>
    cases hr : m.validTime s.clock <;> exact absurd hst (by simp [hr, Stage.after])
  | nonce he hi hst hn => exact Or.inr ⟨he, hi, (Stage.returned.inj hst).2.symm, hn⟩

theorem marked_step {e : Event T} (hm : Marked ethers s) (h : step ethers s e = some s') :
    Marked ethers s' := by
  intro i m ha
  rcases accepted_step h ha with hold | ⟨-, -, hok, hn⟩
  · obtain ⟨address, w, hrec, hw, hle⟩ := hm i m hold
    obtain ⟨w', hw', hle'⟩ := le_saved_step h hw
    exact ⟨address, w', hrec, hw', hle.trans hle'⟩
  · rw [hn]
    exact saved_of_accepted hok

theorem marked_init {clock : Int64} : Marked ethers (init clock) := by
  intro i m ha
  exact absurd ha (by simp [Accepted, init])

/-! ## No message twice -/

/-- No message was accepted by two calls. -/
def AcceptedOnce (s : Receiver T) : Prop :=
  ∀ m i j, s.Accepted i m → s.Accepted j m → i = j

/-- A stale nonce is turned away: it is below the mark. -/
theorem not_accepted_of_stale {i : Nat} {m : GraphcastMessage T} (hm : Marked ethers s)
    (hs : Stale ethers s (.nonce i)) (hi : s.calls[i]? = some ⟨m, .awaits .nonce⟩)
    (hok : (m.validNonce ethers s.nonces).1 = .ok m) (j : Nat) : ¬ s.Accepted j m := by
  intro hj
  obtain ⟨-, address, hrec, w, hw, hle⟩ := validNonce_eq_ok.mp hok
  obtain ⟨address', w', hrec', hw', hle'⟩ := hm j m hj
  obtain rfl := Outcome.ok.inj (hrec.symm.trans hrec')
  obtain rfl := Option.some.inj (hw.symm.trans hw')
  obtain rfl := le_antisymm hle hle'
  exact hs i m rfl hi ⟨j, hj⟩ address hrec hw

theorem acceptedOnce_step {e : Event T} (h1 : Marked ethers s ∧ s.AcceptedOnce)
    (hc : Stale ethers s e) (h : step ethers s e = some s') :
    Marked ethers s' ∧ s'.AcceptedOnce := by
  obtain ⟨hm, hone⟩ := h1
  refine ⟨marked_step hm h, fun m i j hi hj => ?_⟩
  rcases accepted_step h hi with hi | ⟨rfl, hi, hok, -⟩
  · rcases accepted_step h hj with hj | ⟨rfl, hj, hok, -⟩
    · exact hone m i j hi hj
    · exact absurd hi (not_accepted_of_stale hm hc hj hok i)
  · rcases accepted_step h hj with hj | ⟨he, -, -, -⟩
    · exact absurd hj (not_accepted_of_stale hm hc hi hok j)
    · exact Event.nonce.inj he

/-- A message that is still the one saved is accepted again, and both calls stay accepted. -/
theorem accepted_again {i j : Nat} {m : GraphcastMessage T} {address : String}
    {es : List (Event T)} {s₁ : Receiver T} (hi : s.calls[i]? = some ⟨m, .awaits .nonce⟩)
    (hj : s.Accepted j m) (hrec : m.recoverSenderAddress ethers = .ok address)
    (hw : saved s.nonces (m.identifier, address) = some m.nonce)
    (h₁ : step ethers s (.nonce i) = some s₁) (h₂ : Run.run (step ethers) s₁ es = some s') :
    i ≠ j ∧ s'.Accepted i m ∧ s'.Accepted j m := by
  have hne : i ≠ j := by
    rintro rfl
    rw [Accepted, hi] at hj
    exact absurd hj (by simp)
  have hok : (m.validNonce ethers s.nonces).1 = .ok m :=
    validNonce_eq_ok.mpr ⟨rfl, address, hrec, m.nonce, hw, le_refl _⟩
  have hi₁ : s₁.Accepted i m := by
    cases step_eq_some.mp h₁ with
    | @nonce _ m' hi' =>
      obtain ⟨hlt, -⟩ := List.getElem?_eq_some_iff.mp hi
      obtain rfl := (Call.mk.inj (Option.some.inj (hi.symm.trans hi'))).1
      unfold Accepted
      rw [List.getElem?_set_self hlt, after_nonce, hok]
  exact ⟨hne, returned_run h₂ hi₁, returned_run h₂ (returned_step h₁ hj)⟩

/-- **No message is accepted twice, exactly as long as no accepted message meets its own nonce.** -/
theorem accepted_once_iff (ethers : Ethers T) {clock : Int64} {es : List (Event T)}
    {s : Receiver T} (hr : Run.run (step ethers) (init clock) es = some s) :
    s.AcceptedOnce ↔ Run.AlongRun (step ethers) (Stale ethers) (init clock) es := by
  constructor
  · intro hone
    refine Run.alongRun_of_split hr fun es₁ e es₂ s₁ s₂ _ _ h₁ h₂ => ?_
    rintro i m rfl hi ⟨j, hj⟩ address hrec hw
    obtain ⟨hne, hai, haj⟩ := accepted_again hi hj hrec hw h₁ h₂
    exact hne (hone m i j hai haj)
  · intro hc
    have hinit : Marked ethers (init clock) ∧ (init clock : Receiver T).AcceptedOnce :=
      ⟨marked_init, fun m i j hi => absurd hi (by simp [Accepted, init])⟩
    exact (Run.run_invariant_of (fun _ _ _ hi hc h => acceptedOnce_step hi hc h) hinit hc hr).2

/-- The recorded message, presented three times in one second, is accepted twice. -/
theorem accepted_twice :
    ∃ s, Run.run (step goerliEthers) (init 1688744240)
        (presented 0 ++ presented 1 ++ presented 2) = some s ∧
      s.Accepted 1 graphAccountMessage ∧ s.Accepted 2 graphAccountMessage ∧ ¬ s.AcceptedOnce := by
  have hrun : (Run.run (step goerliEthers) (init 1688744240)
      (presented 0 ++ presented 1 ++ presented 2)).map (fun s => (s.calls[1]?, s.calls[2]?)) =
      some (some ⟨graphAccountMessage, .returned .nonce (.ok graphAccountMessage)⟩,
        some ⟨graphAccountMessage, .returned .nonce (.ok graphAccountMessage)⟩) := by
    decide +kernel
  obtain ⟨s, hs, heq⟩ := Option.map_eq_some_iff.mp hrun
  obtain ⟨h₁, h₂⟩ := Prod.mk.inj heq
  exact ⟨s, hs, h₁, h₂, fun h => absurd (h graphAccountMessage 1 2 h₁ h₂) (by decide)⟩

/-- Presented twice it is accepted once, and no nonce check has met its own nonce. -/
theorem accepted_once_iff_goerli :
    ∃ s, Run.run (step goerliEthers) (init 1688744240) (presented 0 ++ presented 1) = some s ∧
      s.Accepted 1 graphAccountMessage ∧
      Run.AlongRun (step goerliEthers) (Stale goerliEthers) (init 1688744240)
        (presented 0 ++ presented 1) := by
  have hrun : (Run.run (step goerliEthers) (init 1688744240) (presented 0 ++ presented 1)).map
      (fun s => s.calls) =
      some [⟨graphAccountMessage,
          .returned .nonce (graphAccountMessage.validNonce goerliEthers ∅).1⟩,
        ⟨graphAccountMessage, .returned .nonce (.ok graphAccountMessage)⟩] := by
    decide +kernel
  have hfirst : (graphAccountMessage.validNonce goerliEthers ∅).1 ≠ .ok graphAccountMessage := by
    decide +kernel
  obtain ⟨s, hs, hcalls⟩ := Option.map_eq_some_iff.mp hrun
  have honly : ∀ i m, s.Accepted i m → i = 1 := by
    intro i m hi
    rw [Accepted, hcalls] at hi
    obtain _ | _ | i := i
    · obtain ⟨rfl, hst⟩ := Call.mk.inj (Option.some.inj hi)
      exact absurd (Stage.returned.inj hst).2 hfirst
    · rfl
    · exact absurd hi (by simp)
  refine ⟨s, hs, ?_, (accepted_once_iff goerliEthers hs).mp fun m i j hi hj => ?_⟩
  · rw [Accepted, hcalls]
    rfl
  · exact (honly i m hi).trans (honly j m hj).symm

end Receiver

end GraphcastSdk
