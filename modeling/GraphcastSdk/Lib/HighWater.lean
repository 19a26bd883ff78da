import Mathlib.Data.Set.Insert
import Mathlib.Logic.Function.Basic
import Mathlib.Order.Bounds.Basic

/-!
# High-water marks

A register keeps, for each key, the greatest value it was ever offered. `offer` raises the mark
of a key, and `Accepts` is the rule of an in-order receiver over the history of offers: the key
was offered before, and the new value is at least every value offered under it.

* `tracks_offers`: after any history the register holds exactly the greatest value of each key.
* `accepts_iff`: so comparing with the mark decides `Accepts`.
* `le_offer`, `bounded_offer`, `offer_self`: marks never decrease, stay under a bound on what is
  offered, and reach what was offered.
* `tracks_filter`: a key's mark depends on the offers under that key alone.
-/

namespace HighWater

variable {κ ν : Type}

/-- What the history `h` offered under `k`. -/
def offered (h : List (κ × ν)) (k : κ) : Set ν := {v | (k, v) ∈ h}

theorem offered_snoc_self (h : List (κ × ν)) (k : κ) (v : ν) :
    offered (h ++ [(k, v)]) k = insert v (offered h k) := by
  ext w
  simp [offered, or_comm]

theorem offered_snoc_of_ne (h : List (κ × ν)) {k k' : κ} (hk : k' ≠ k) (v : ν) :
    offered (h ++ [(k, v)]) k' = offered h k' := by
  ext w
  simp [offered, hk]

theorem offered_filter [DecidableEq κ] (h : List (κ × ν)) (k : κ) :
    offered (h.filter fun p => p.1 = k) k = offered h k := by
  ext v
  simp [offered]

section Marks

variable [LinearOrder ν]

/-- `o` is the mark of `k` after `h`: absent before the first offer, else the greatest one. -/
def IsMark (h : List (κ × ν)) (k : κ) : Option ν → Prop
  | none => offered h k = ∅
  | some v => IsGreatest (offered h k) v

/-- The receiver's rule: `k` was offered before, and never above `v`. -/
def Accepts (h : List (κ × ν)) (k : κ) (v : ν) : Prop :=
  (offered h k).Nonempty ∧ v ∈ upperBounds (offered h k)

/-- The register `r` holds the mark of every key after `h`. -/
def Tracks (h : List (κ × ν)) (r : κ → Option ν) : Prop := ∀ k, IsMark h k (r k)

/-- A mark after one more offer. -/
def raise (o : Option ν) (v : ν) : ν :=
  match o with
  | none => v
  | some w => max w v

/-- Offer `v` under `k`. -/
def offer [DecidableEq κ] (r : κ → Option ν) (k : κ) (v : ν) : κ → Option ν :=
  Function.update r k (some (raise (r k) v))

/-! ## The register tracks its history -/

theorem isMark_snoc_self {h : List (κ × ν)} {k : κ} {o : Option ν} (hm : IsMark h k o) (v : ν) :
    IsMark (h ++ [(k, v)]) k (some (raise o v)) := by
  show IsGreatest (offered (h ++ [(k, v)]) k) (raise o v)
  rw [offered_snoc_self]
  cases o with
  | none =>
    have hm : offered h k = ∅ := hm
    rw [hm, insert_empty_eq]
    exact isGreatest_singleton
  | some w =>
    show IsGreatest (insert v (offered h k)) (max w v)
    rw [max_comm]
    exact IsGreatest.insert v hm

theorem tracks_nil : Tracks ([] : List (κ × ν)) fun _ => none := by
  intro k
  show offered [] k = ∅
  simp [offered]

theorem tracks_offer [DecidableEq κ] {h : List (κ × ν)} {r : κ → Option ν} (ht : Tracks h r)
    (k : κ) (v : ν) : Tracks (h ++ [(k, v)]) (offer r k v) := by
  intro k'
  unfold offer
  by_cases hk : k' = k
  · subst hk
    rw [Function.update_self]
    exact isMark_snoc_self (ht k') v
  · rw [Function.update_of_ne hk]
    have := ht k'
    unfold IsMark at this ⊢
    rw [offered_snoc_of_ne h hk]
    exact this

/-- **After any history the register holds the greatest value offered under each key.** -/
theorem tracks_offers [DecidableEq κ] (h' : List (κ × ν)) :
    ∀ {h : List (κ × ν)} {r : κ → Option ν}, Tracks h r →
      Tracks (h ++ h') (h'.foldl (fun r p => offer r p.1 p.2) r) := by
  induction h' with
  | nil =>
    intro h r ht
    rw [List.append_nil]
    exact ht
  | cons p h' ih =>
    intro h r ht
    have := ih (tracks_offer ht p.1 p.2)
    rw [List.append_assoc] at this
    exact this

/-- **Comparing with the mark decides the receiver's rule.** -/
theorem accepts_iff {h : List (κ × ν)} {k : κ} {o : Option ν} (hm : IsMark h k o) (v : ν) :
    Accepts h k v ↔ ∃ w, o = some w ∧ w ≤ v := by
  cases o with
  | none =>
    have hm : offered h k = ∅ := hm
    simp [Accepts, hm]
  | some w =>
    have hm : IsGreatest (offered h k) w := hm
    constructor
    · rintro ⟨-, hv⟩
      exact ⟨w, rfl, hv hm.1⟩
    · rintro ⟨w', hw', hw⟩
      obtain rfl := Option.some.inj hw'
      exact ⟨⟨w, hm.1⟩, fun u hu => (hm.2 hu).trans hw⟩

/-! ## A key depends on its own offers alone -/

theorem isMark_unique {h : List (κ × ν)} {k : κ} {o o' : Option ν} (hm : IsMark h k o)
    (hm' : IsMark h k o') : o = o' := by
  cases o with
  | none =>
    cases o' with
    | none => rfl
    | some w' =>
      have hm : offered h k = ∅ := hm
      have hm' : IsGreatest (offered h k) w' := hm'
      rw [hm] at hm'
      exact absurd hm'.1 (Set.notMem_empty w')
  | some w =>
    have hm : IsGreatest (offered h k) w := hm
    cases o' with
    | none =>
      have hm' : offered h k = ∅ := hm'
      rw [hm'] at hm
      exact absurd hm.1 (Set.notMem_empty w)
    | some w' =>
      have hm' : IsGreatest (offered h k) w' := hm'
      rw [hm.unique hm']

/-- Dropping the offers under other keys leaves a key's mark as it was. -/
theorem tracks_filter [DecidableEq κ] {h : List (κ × ν)} {k : κ} {r r' : κ → Option ν}
    (ht : Tracks h r) (ht' : Tracks (h.filter fun p => p.1 = k) r') : r' k = r k := by
  have h' := ht' k
  refine isMark_unique (h := h) ?_ (ht k)
  unfold IsMark at h' ⊢
  rw [offered_filter] at h'
  exact h'

/-! ## What one offer does to the marks -/

theorem le_raise (o : Option ν) (v : ν) : v ≤ raise o v := by
  cases o with
  | none => exact le_refl v
  | some w => exact le_max_right w v

/-- Marks never decrease, and a key once marked stays marked. -/
theorem le_offer [DecidableEq κ] (r : κ → Option ν) (k : κ) (v : ν) {k' : κ} {w : ν}
    (hw : r k' = some w) : ∃ w', offer r k v k' = some w' ∧ w ≤ w' := by
  unfold offer
  by_cases hk : k' = k
  · subst hk
    rw [Function.update_self, hw]
    exact ⟨_, rfl, le_max_left w v⟩
  · rw [Function.update_of_ne hk]
    exact ⟨w, hw, le_refl w⟩

/-- What was offered is reached. -/
theorem offer_self [DecidableEq κ] (r : κ → Option ν) (k : κ) (v : ν) :
    ∃ w, offer r k v k = some w ∧ v ≤ w := by
  unfold offer
  rw [Function.update_self]
  exact ⟨_, rfl, le_raise (r k) v⟩

/-- Marks stay under a bound on what is offered. -/
theorem bounded_offer [DecidableEq κ] {r : κ → Option ν} {b : ν}
    (hr : ∀ k w, r k = some w → w ≤ b) (k : κ) {v : ν} (hv : v ≤ b) {k' : κ} {w : ν}
    (hw : offer r k v k' = some w) : w ≤ b := by
  unfold offer at hw
  by_cases hk : k' = k
  · subst hk
    rw [Function.update_self] at hw
    obtain rfl := Option.some.inj hw
    cases ho : r k' with
    | none => exact hv
    | some u => exact max_le (hr k' u ho) hv
  · rw [Function.update_of_ne hk] at hw
    exact hr k' w hw

end Marks

end HighWater
