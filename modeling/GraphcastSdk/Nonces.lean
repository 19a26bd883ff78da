import GraphcastSdk.Message

/-!
# The nonces map over a history of calls

`valid_nonce` calls on one shared map, in the order in which they take the lock. A call recovers
its sender before it locks, from the message alone, so the order of the locks is all that a
concurrent execution can vary. A call whose signature does not recover never locks.

The map is a register of high-water marks: `saved_validNonces` shows that the calls offer each
message's nonce under its identifier and recovered address, and the laws of such registers give
`saved_history` (what is saved after the calls), `validNonce_history` (each verdict) and
`validNonces_filter` (the calls of one pair decide its entry).
-/

namespace GraphcastSdk

open GraphcastMessage

variable {T : Type} (ethers : Ethers T)

/-- The map after `valid_nonce` calls, in the order of their locks. -/
def validNonces (nonces : NoncesMap) (calls : List (GraphcastMessage T)) : NoncesMap :=
  calls.foldl (fun nonces m => (m.validNonce ethers nonces).2) nonces

theorem validNonces_snoc (nonces : NoncesMap) (calls : List (GraphcastMessage T))
    (m : GraphcastMessage T) : validNonces ethers nonces (calls ++ [m]) =
      (m.validNonce ethers (validNonces ethers nonces calls)).2 :=
  List.foldl_append

/-- The message has the pair's identifier and recovers to the pair's address. -/
def IsFrom (p : String × String) (m : GraphcastMessage T) : Prop :=
  m.identifier = p.1 ∧ m.recoverSenderAddress ethers = .ok p.2

instance (p : String × String) (m : GraphcastMessage T) : Decidable (IsFrom ethers p m) :=
  inferInstanceAs (Decidable (_ ∧ _))

/-- What a call offers to the map: its nonce under its pair, when its signature recovers. -/
def offerOf (m : GraphcastMessage T) : Option ((String × String) × UInt64) :=
  match m.recoverSenderAddress ethers with
  | .ok address => some ((m.identifier, address), m.nonce)
  | .err _ => none
  | .panic _ => none

/-- The offers of a history of calls. -/
def offers (calls : List (GraphcastMessage T)) : List ((String × String) × UInt64) :=
  calls.filterMap (offerOf ethers)

variable {ethers}

/-! ## Calls are offers -/

theorem offerOf_eq_some {m : GraphcastMessage T} {p : String × String} {n : UInt64} :
    offerOf ethers m = some (p, n) ↔ IsFrom ethers p m ∧ m.nonce = n := by
  obtain ⟨i, a⟩ := p
  unfold offerOf IsFrom
  cases m.recoverSenderAddress ethers with
  | ok address => simp [and_assoc]
  | err e => simp
  | panic p => simp

theorem mem_offers {calls : List (GraphcastMessage T)} {p : String × String} {n : UInt64} :
    (p, n) ∈ offers ethers calls ↔ ∃ m ∈ calls, IsFrom ethers p m ∧ m.nonce = n := by
  unfold offers
  rw [List.mem_filterMap]
  simp only [offerOf_eq_some]

/-- One call on the register view of the map. -/
theorem saved_validNonce (m : GraphcastMessage T) (nonces : NoncesMap) :
    saved (m.validNonce ethers nonces).2 = (offerOf ethers m).elim (saved nonces) fun o =>
      HighWater.offer (saved nonces) o.1 o.2 := by
  unfold offerOf
  cases h : m.recoverSenderAddress ethers with
  | ok address =>
    rw [validNonce_recovered h]
    exact saved_lockedNonce address
  | err e => rw [validNonce_unrecovered (by simp [h])]; rfl
  | panic p => rw [validNonce_unrecovered (by simp [h])]; rfl

/-- No call lowers or drops a saved nonce. -/
theorem le_saved_validNonce (m : GraphcastMessage T) (nonces : NoncesMap) {p : String × String}
    {w : UInt64} (hw : saved nonces p = some w) :
    ∃ w', saved (m.validNonce ethers nonces).2 p = some w' ∧ w ≤ w' := by
  rw [saved_validNonce]
  cases offerOf ethers m with
  | none => exact ⟨w, hw, le_refl w⟩
  | some o => exact HighWater.le_offer (saved nonces) o.1 o.2 hw

/-- A bound on the map and on the message's nonce bounds the map after the call. -/
theorem saved_validNonce_le {m : GraphcastMessage T} {nonces : NoncesMap} {b : UInt64}
    (hb : ∀ p w, saved nonces p = some w → w ≤ b) (hm : m.nonce ≤ b) {p : String × String}
    {w : UInt64} (hw : saved (m.validNonce ethers nonces).2 p = some w) : w ≤ b := by
  rw [saved_validNonce] at hw
  cases ho : offerOf ethers m with
  | none =>
    rw [ho] at hw
    exact hb p w hw
  | some o =>
    rw [ho] at hw
    obtain ⟨-, hn⟩ := offerOf_eq_some.mp (show offerOf ethers m = some (o.1, o.2) from ho)
    exact HighWater.bounded_offer hb o.1 (hn ▸ hm) hw

/-- **The calls offer to the map, in their order, the nonces that recover.** -/
theorem saved_validNonces (calls : List (GraphcastMessage T)) (nonces : NoncesMap) :
    saved (validNonces ethers nonces calls) =
      (offers ethers calls).foldl (fun r o => HighWater.offer r o.1 o.2) (saved nonces) := by
  induction calls generalizing nonces with
  | nil => rfl
  | cons m calls ih =>
    have hstep := @saved_validNonce T ethers m nonces
    have hrest := ih (m.validNonce ethers nonces).2
    simp only [validNonces, offers, List.foldl_cons, List.filterMap_cons] at hrest ⊢
    rw [hrest, hstep]
    cases offerOf ethers m <;> rfl

/-- After any calls the map holds the high-water mark of every pair. -/
theorem tracks_validNonces (calls : List (GraphcastMessage T)) :
    HighWater.Tracks (offers ethers calls) (saved (validNonces ethers ∅ calls)) := by
  rw [saved_validNonces, saved_empty]
  exact HighWater.tracks_offers (offers ethers calls) HighWater.tracks_nil

/-! ## What is saved, and what is accepted -/

/-- The nonces processed for a pair. -/
theorem offered_offers (calls : List (GraphcastMessage T)) (p : String × String) :
    HighWater.offered (offers ethers calls) p =
      {n | ∃ m ∈ calls, IsFrom ethers p m ∧ m.nonce = n} := by
  ext n
  exact mem_offers

theorem saved_history (calls : List (GraphcastMessage T)) (p : String × String) :
    (saved (validNonces ethers ∅ calls) p = none ↔ ¬ ∃ m ∈ calls, IsFrom ethers p m) ∧
      ∀ w, saved (validNonces ethers ∅ calls) p = some w ↔
        IsGreatest {n | ∃ m ∈ calls, IsFrom ethers p m ∧ m.nonce = n} w := by
  have hm := @tracks_validNonces T ethers calls p
  unfold HighWater.IsMark at hm
  rw [offered_offers] at hm
  split at hm
  · rename_i hnone
    have hno : ∀ n, ¬ ∃ m ∈ calls, IsFrom ethers p m ∧ m.nonce = n := by
      intro n hn
      exact (hm ▸ Set.notMem_empty n) hn
    rw [hnone]
    refine ⟨⟨fun _ => ?_, fun _ => rfl⟩, fun w => ⟨fun h => absurd h (by simp), fun h => ?_⟩⟩
    · rintro ⟨m, hm, hp⟩
      exact hno m.nonce ⟨m, hm, hp, rfl⟩
    · exact absurd h.1 (hno w)
  · rename_i v hsome
    rw [hsome]
    refine ⟨⟨fun h => absurd h (by simp), fun h => ?_⟩, fun w => ⟨?_, fun h => ?_⟩⟩
    · obtain ⟨m, hmem, hp, -⟩ := hm.1
      exact absurd ⟨m, hmem, hp⟩ h
    · rintro h
      exact Option.some.inj h ▸ hm
    · rw [hm.unique h]

theorem validNonce_history (pre : List (GraphcastMessage T)) (m : GraphcastMessage T) :
    (m.validNonce ethers (validNonces ethers ∅ pre)).1.isOk = true ↔
      ∃ address, m.recoverSenderAddress ethers = .ok address ∧
        (∃ m' ∈ pre, IsFrom ethers (m.identifier, address) m') ∧
        ∀ m' ∈ pre, IsFrom ethers (m.identifier, address) m' → m'.nonce ≤ m.nonce := by
  rw [Outcome.isOk_iff]
  simp only [validNonce_eq_ok, exists_eq_left]
  refine exists_congr fun address => and_congr_right fun _ => ?_
  rw [← HighWater.accepts_iff (tracks_validNonces pre _), HighWater.Accepts, offered_offers]
  constructor
  · rintro ⟨⟨-, m', hm', hp, -⟩, hub⟩
    exact ⟨⟨m', hm', hp⟩, fun m'' hm'' hp'' => hub ⟨m'', hm'', hp'', rfl⟩⟩
  · rintro ⟨⟨m', hm', hp⟩, hle⟩
    refine ⟨⟨m'.nonce, m', hm', hp, rfl⟩, ?_⟩
    rintro - ⟨m'', hm'', hp'', rfl⟩
    exact hle m'' hm'' hp''

/-! ## The calls of one pair -/

theorem offers_filter (calls : List (GraphcastMessage T)) (p : String × String) :
    offers ethers (calls.filter fun m => IsFrom ethers p m) =
      (offers ethers calls).filter fun o => o.1 = p := by
  induction calls with
  | nil => rfl
  | cons m calls ih =>
    unfold offers at ih ⊢
    cases ho : offerOf ethers m with
    | none =>
      have hp : ¬ IsFrom ethers p m := by
        intro hp
        rw [offerOf_eq_some.mpr ⟨hp, rfl⟩] at ho
        exact absurd ho (by simp)
      rw [List.filter_cons_of_neg (by simpa using hp), List.filterMap_cons_none ho, ih]
    | some o =>
      obtain ⟨hq, -⟩ := offerOf_eq_some.mp (show offerOf ethers m = some (o.1, o.2) from ho)
      rw [List.filterMap_cons_some ho]
      by_cases hp : o.1 = p
      · subst hp
        rw [List.filter_cons_of_pos (by simpa using hq), List.filterMap_cons_some ho,
          List.filter_cons_of_pos (by simp), ih]
      · have hnp : ¬ IsFrom ethers p m := by
          intro hp'
          exact hp (Prod.ext (hq.1.symm.trans hp'.1)
            (Outcome.ok.inj (hq.2.symm.trans hp'.2)))
        rw [List.filter_cons_of_neg (by simpa using hnp),
          List.filter_cons_of_neg (by simpa using hp), ih]

/-- Without the calls of other pairs and those that do not recover, a pair's entry is the same. -/
theorem validNonces_filter (calls : List (GraphcastMessage T)) (p : String × String) :
    saved (validNonces ethers ∅ (calls.filter fun m => IsFrom ethers p m)) p =
      saved (validNonces ethers ∅ calls) p := by
  refine HighWater.tracks_filter (tracks_validNonces calls) ?_
  rw [← offers_filter]
  exact tracks_validNonces _

/-- The verdict on a call reads its own pair's entry alone. -/
theorem validNonce_congr {m : GraphcastMessage T} {nonces nonces' : NoncesMap}
    (h : ∀ address, m.recoverSenderAddress ethers = .ok address →
      saved nonces (m.identifier, address) = saved nonces' (m.identifier, address)) :
    (m.validNonce ethers nonces).1.isOk = (m.validNonce ethers nonces').1.isOk := by
  rw [Bool.eq_iff_iff, Outcome.isOk_iff, Outcome.isOk_iff]
  simp only [validNonce_eq_ok, exists_eq_left]
  refine exists_congr fun address => and_congr_right fun ha => ?_
  rw [h address ha]

/-- **The nonces map is its history**: each entry is the greatest nonce processed for its pair, a
call is accepted iff its pair was seen before and never above its nonce, and the calls of other
pairs and those that do not recover change neither. -/
theorem nonces_history (ethers : Ethers T) (calls : List (GraphcastMessage T)) :
    (∀ p, ((∃ w, saved (validNonces ethers ∅ calls) p = some w) ↔
        ∃ m ∈ calls, IsFrom ethers p m) ∧
      ∀ w, saved (validNonces ethers ∅ calls) p = some w ↔
        IsGreatest {n | ∃ m ∈ calls, IsFrom ethers p m ∧ m.nonce = n} w) ∧
    (∀ pre m post, calls = pre ++ m :: post →
      ((m.validNonce ethers (validNonces ethers ∅ pre)).1.isOk = true ↔
        ∃ address, m.recoverSenderAddress ethers = .ok address ∧
          (∃ m' ∈ pre, IsFrom ethers (m.identifier, address) m') ∧
          ∀ m' ∈ pre, IsFrom ethers (m.identifier, address) m' → m'.nonce ≤ m.nonce)) ∧
    ∀ p pre m post, calls = pre ++ m :: post →
      (¬ IsFrom ethers p m → saved (validNonces ethers ∅ (pre ++ [m])) p =
        saved (validNonces ethers ∅ pre) p) ∧
      (IsFrom ethers p m → (m.validNonce ethers (validNonces ethers ∅ pre)).1.isOk =
        (m.validNonce ethers
          (validNonces ethers ∅ (pre.filter fun m' => IsFrom ethers p m'))).1.isOk) := by
  refine ⟨fun p => ?_, fun pre m _ _ => validNonce_history pre m, fun p pre m _ _ => ⟨?_, ?_⟩⟩
  · obtain ⟨hnone, hsome⟩ := @saved_history T ethers calls p
    refine ⟨?_, hsome⟩
    rw [← Option.isSome_iff_exists, ← Option.ne_none_iff_isSome, ne_eq, hnone, not_not]
  · intro hp
    rw [← validNonces_filter (pre ++ [m]), List.filter_append, List.filter_singleton,
      decide_eq_false hp, ← validNonces_filter pre]
    simp
  · intro hp
    refine validNonce_congr fun address ha => ?_
    obtain rfl : p = (m.identifier, address) :=
      Prod.ext hp.1.symm (Outcome.ok.inj (hp.2.symm.trans ha))
    exact (validNonces_filter pre _).symm

end GraphcastSdk
