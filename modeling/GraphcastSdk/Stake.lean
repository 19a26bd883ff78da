import GraphcastSdk.Account
import GraphcastSdk.Lib.Decimal
import Mathlib.Algebra.Order.Field.Basic
import Mathlib.Tactic.NormNum
import Mathlib.Tactic.Positivity

/-!
# Token amounts and the stake requirement

`add_decimal` puts a decimal point into an amount as text, and the stake requirement compares two
such amounts. The float is the exact rational value of a numeral, or any rounding of it
(`Rounded`).

* `addDecimal_scaled_iff`: an amount of at least 18 digits, or zero, comes out divided by
  `10 ^ 18`. A shorter one is not padded with zeros: `"5"` becomes `0.5`, as much as half a GRT.
* `validIndexer_integers_iff`: with a minimum of at least 1 GRT the missing padding does no harm
  to the verdict.
* `sameStake_iff`: the allocations of an indexer matter to its stake only by being `null`.
-/

namespace GraphcastSdk

open Decimal

/-! ## What `add_decimal` computes -/

/-- The digits of the amount are divided by ten to their number, but at most `10 ^ 18`. -/
theorem addDecimal_of_isNatural (ε : Type) {s : String} (hs : IsNatural s) :
    ∃ d, (addDecimal s : Outcome ε String) = .ok d ∧
      value d = some ((natValue s : ℚ) / 10 ^ min s.toList.length 18) := by
  rw [addDecimal_of_isAscii (isAscii_of_isNatural hs)]
  refine ⟨_, rfl, ?_⟩
  split
  · rename_i hlen
    have hleft : ∀ c ∈ ['0'], c.isDigit = true := fun c hc => by
      rw [List.mem_singleton.mp hc]
      rfl
    have hpoint := value_point hleft hs.2 (by simp)
    have hzero : Nat.ofDigitChars 10 (['0'] ++ s.toList) 0 = natValue s := by
      rw [List.singleton_append, Nat.ofDigitChars_cons]
      rfl
    rw [hzero, String.ofList_toList] at hpoint
    rw [min_eq_left hlen]
    exact hpoint
  · rename_i hlen
    have hle : 18 ≤ s.toList.length := Nat.le_of_lt (Nat.not_le.mp hlen)
    have hleft : ∀ c ∈ s.toList.take (s.toList.length - 18), c.isDigit = true :=
      fun c hc => hs.2 c (List.mem_of_mem_take hc)
    have hright : ∀ c ∈ s.toList.drop (s.toList.length - 18), c.isDigit = true :=
      fun c hc => hs.2 c (List.mem_of_mem_drop hc)
    have hpoint := value_point hleft hright (by rw [List.take_append_drop]; exact hs.1)
    rw [List.take_append_drop, List.length_drop, Nat.sub_sub_self hle] at hpoint
    rw [min_eq_right hle]
    exact hpoint

/-- `add_decimal` gives a numeral of the amount divided by `10 ^ 18`. -/
def Scaled (s : String) : Prop :=
  ∃ d, (addDecimal s : Outcome QueryError String) = .ok d ∧
    value d = some ((natValue s : ℚ) / 10 ^ 18)

/-- A smaller amount does not get the larger numeral. -/
def KeepsOrder (s t : String) : Prop :=
  ∀ d e v w, (addDecimal s : Outcome QueryError String) = .ok d →
    (addDecimal t : Outcome QueryError String) = .ok e → value d = some v → value e = some w →
      natValue s ≤ natValue t → v ≤ w

theorem scaled_iff {s : String} (hs : IsNatural s) :
    Scaled s ↔ 18 ≤ s.toList.length ∨ natValue s = 0 := by
  obtain ⟨d, hd, hv⟩ := addDecimal_of_isNatural QueryError hs
  have hscaled : Scaled s ↔ (natValue s : ℚ) / 10 ^ min s.toList.length 18 =
      (natValue s : ℚ) / 10 ^ 18 := by
    constructor
    · rintro ⟨d', hd', hv'⟩
      obtain rfl := Outcome.ok.inj (hd.symm.trans hd')
      exact Option.some.inj (hv.symm.trans hv')
    · intro h
      exact ⟨d, hd, by rw [hv, h]⟩
  rw [hscaled]
  by_cases h18 : 18 ≤ s.toList.length
  · rw [min_eq_right h18]
    simp [h18]
  · have hlt : s.toList.length < 18 := Nat.not_le.mp h18
    rw [min_eq_left hlt.le]
    constructor
    · intro h
      refine Or.inr ?_
      by_contra hne
      have hpos : (0 : ℚ) < natValue s := by exact_mod_cast Nat.pos_of_ne_zero hne
      have hpow : (10 : ℚ) ^ s.toList.length < 10 ^ 18 :=
        pow_lt_pow_right₀ (by norm_num) hlt
      have := div_lt_div_of_pos_left hpos (by positivity) hpow
      exact absurd h (ne_of_gt this)
    · rintro (h | h)
      · exact absurd h h18
      · simp [h]

theorem keepsOrder_iff {s t : String} (hs : IsNatural s) (ht : IsNatural t) :
    KeepsOrder s t ↔ (natValue s ≤ natValue t →
      natValue s * 10 ^ min t.toList.length 18 ≤ natValue t * 10 ^ min s.toList.length 18) := by
  obtain ⟨d, hd, hv⟩ := addDecimal_of_isNatural QueryError hs
  obtain ⟨e, he, hw⟩ := addDecimal_of_isNatural QueryError ht
  have hcross : (natValue s : ℚ) / 10 ^ min s.toList.length 18 ≤
      (natValue t : ℚ) / 10 ^ min t.toList.length 18 ↔
        natValue s * 10 ^ min t.toList.length 18 ≤ natValue t * 10 ^ min s.toList.length 18 := by
    rw [div_le_div_iff₀ (by positivity) (by positivity)]
    exact_mod_cast Iff.rfl
  constructor
  · intro h hle
    exact hcross.mp (h d e _ _ hd he hv hw hle)
  · intro h d' e' v w hd' he' hv' hw' hle
    obtain rfl := Outcome.ok.inj (hd.symm.trans hd')
    obtain rfl := Outcome.ok.inj (he.symm.trans he')
    obtain rfl := Option.some.inj (hv.symm.trans hv')
    obtain rfl := Option.some.inj (hw.symm.trans hw')
    exact hcross.mpr (h hle)

theorem keepsOrder_of_scaled {s t : String} (hs : Scaled s) (ht : Scaled t) : KeepsOrder s t := by
  intro d e v w hd he hv hw hle
  obtain ⟨d', hd', hv'⟩ := hs
  obtain ⟨e', he', hw'⟩ := ht
  obtain rfl := Outcome.ok.inj (hd.symm.trans hd')
  obtain rfl := Outcome.ok.inj (he.symm.trans he')
  obtain rfl := Option.some.inj (hv.symm.trans hv')
  obtain rfl := Option.some.inj (hw.symm.trans hw')
  have hcast : (natValue s : ℚ) ≤ natValue t := by exact_mod_cast hle
  exact div_le_div_of_nonneg_right hcast (by positivity)

/-- **The conversion divides by `10 ^ 18` from 18 digits on, and otherwise only zero.** Two amounts
it divides keep their order; any two keep it when the numerals of their digits do. -/
theorem addDecimal_scaled_iff {s t : String} (hs : IsNatural s) (ht : IsNatural t) :
    (Scaled s ↔ 18 ≤ s.toList.length ∨ natValue s = 0) ∧
    (Scaled s ∧ Scaled t → KeepsOrder s t) ∧
    (KeepsOrder s t ↔ (natValue s ≤ natValue t →
      natValue s * 10 ^ min t.toList.length 18 ≤ natValue t * 10 ^ min s.toList.length 18)) :=
  ⟨scaled_iff hs, fun h => keepsOrder_of_scaled h.1 h.2, keepsOrder_iff hs ht⟩

/-- `"5"` becomes `0.5`, and `"9"` becomes more than `"10"`. -/
theorem addDecimal_unpadded : ¬ Scaled "5" ∧ ¬ KeepsOrder "9" "10" := by
  have hfive : value "0.5" ≠ some ((natValue "5" : ℚ) / 10 ^ 18) := by decide +kernel
  have hnine : value "0.9" = some (9 / 10) := by decide +kernel
  have hten : value "0.10" = some (1 / 10) := by decide +kernel
  constructor
  · rintro ⟨d, hd, hv⟩
    obtain rfl : "0.5" = d := Outcome.ok.inj hd
    exact hfive hv
  · intro h
    have hle := h "0.9" "0.10" _ _ rfl rfl hnine hten (by decide)
    norm_num at hle

/-- Ten GRT less the smallest unit, of 19 digits, and the 100000 GRT of the test. -/
theorem addDecimal_scaled_iff_tested :
    Scaled "9999999999999999999" ∧ Scaled "100000000000000000000000" ∧
      KeepsOrder "9999999999999999999" "100000000000000000000000" := by
  have hs : IsNatural "9999999999999999999" := by decide
  have ht : IsNatural "100000000000000000000000" := by decide
  have hten := (addDecimal_scaled_iff hs ht).1.mpr (Or.inl (by decide))
  have htested := (addDecimal_scaled_iff ht hs).1.mpr (Or.inl (by decide))
  exact ⟨hten, htested, (addDecimal_scaled_iff hs ht).2.1 ⟨hten, htested⟩⟩

/-! ## The stake requirement -/

/-- Floats that are rounded rationals. -/
def Rounded {F : Type} (_round : ℚ → F) : Type := F

/-- A numeral parses to the rounding of its exact value, zero is that of zero, and `>=` is an
order. -/
instance Rounded.f32 {F : Type} [LinearOrder F] (round : ℚ → F) : F32 (Rounded round) where
  parse text :=
    match value text with
    | some v => .ok (round v)
    | none => .error "invalid float literal"
  zero := round 0
  ge := fun (a b : F) => decide (b ≤ a)

section Integers

variable {F : Type} [LinearOrder F] {round : ℚ → F}

theorem grtGweiStringToF32_of_isNatural {s : String} (hs : IsNatural s) :
    grtGweiStringToF32 (Rounded round) s =
      .ok (round ((natValue s : ℚ) / 10 ^ min s.toList.length 18)) := by
  obtain ⟨d, hd, hv⟩ := addDecimal_of_isNatural QueryError hs
  have hparse : (F32.parse d : Except String (Rounded round)) =
      .ok (round ((natValue s : ℚ) / 10 ^ min s.toList.length 18)) := by
    show (match value d with
      | some v => Except.ok (round v)
      | none => .error "invalid float literal") = _
    rw [hv]
    rfl
  unfold grtGweiStringToF32
  rw [hd, Outcome.ok_bind, hparse]
  rfl

variable (round)

/-- The verdict on a response with two integer amounts and an allocations list. -/
theorem validIndexer_of_isNatural {web : Subgraphs} {self : Account} {url : String}
    {response : Response IndexerStatus.ResponseData} {data : IndexerStatus.ResponseData}
    {x : IndexerStatus.Indexer} (hr : web.indexerStatus url ⟨self.account⟩ = .ok response)
    (he : response.errors = none) (hd : response.data = some data) (hx : data.indexer = some x)
    (ha : x.allocations ≠ none) (hs : IsNatural x.stakedTokens)
    (hm : IsNatural data.graphNetwork.minimumIndexerStake) :
    self.validIndexer web (Rounded round) url = .ok true ↔
      round ((natValue data.graphNetwork.minimumIndexerStake : ℚ) /
          10 ^ min data.graphNetwork.minimumIndexerStake.toList.length 18) ≤
        round ((natValue x.stakedTokens : ℚ) / 10 ^ min x.stakedTokens.toList.length 18) := by
  obtain ⟨allocations, ha⟩ := Option.ne_none_iff_exists'.mp ha
  have hverdict : self.validIndexer web (Rounded round) url = .ok (decide
      (round ((natValue data.graphNetwork.minimumIndexerStake : ℚ) /
          10 ^ min data.graphNetwork.minimumIndexerStake.toList.length 18) ≤
        round ((natValue x.stakedTokens : ℚ) / 10 ^ min x.stakedTokens.toList.length 18))) := by
    unfold Account.validIndexer queryNetworkSubgraph indexerOf usableIndexer
    simp only [hr, Outcome.ofExcept, Outcome.ok_bind, he, checkErrors, hd, Outcome.okOr, hx,
      grtGweiStringToF32_of_isNatural hs, grtGweiStringToF32_of_isNatural hm, ha, Option.map_some,
      Outcome.pure_def, Outcome.mapErr]
    rfl
  rw [hverdict, Outcome.ok.injEq, decide_eq_true_iff]

end Integers

/-- A minimum of at least `10 ^ 18` has more than 18 digits, and is divided. -/
theorem length_of_le_natValue {s : String} (hs : IsNatural s) (h : 10 ^ 18 ≤ natValue s) :
    18 ≤ s.toList.length :=
  Nat.le_of_lt ((Nat.pow_lt_pow_iff_right (by norm_num)).mp (h.trans_lt (natValue_lt hs)))

/-- Against a minimum that is divided, amounts compare as the integers do. -/
theorem scaled_le_iff {s minimum : String} (hs : IsNatural s) (h18 : 10 ^ 18 ≤ natValue minimum) :
    (natValue minimum : ℚ) / 10 ^ 18 ≤ (natValue s : ℚ) / 10 ^ min s.toList.length 18 ↔
      natValue minimum ≤ natValue s := by
  by_cases hlen : 18 ≤ s.toList.length
  · rw [min_eq_right hlen, div_le_div_iff_of_pos_right (by positivity)]
    exact_mod_cast Iff.rfl
  · -- fewer than 18 digits: less than 1 GRT either way
    have hle := (Nat.not_le.mp hlen).le
    rw [min_eq_left hle]
    constructor
    · intro h
      have hone : (1 : ℚ) ≤ (natValue minimum : ℚ) / 10 ^ 18 := by
        rw [one_le_div (by positivity)]
        exact_mod_cast h18
      have hbelow : (natValue s : ℚ) / 10 ^ s.toList.length < 1 := by
        rw [div_lt_one (by positivity)]
        exact_mod_cast natValue_lt hs
      exact absurd (hone.trans h) (not_le.mpr hbelow)
    · intro h
      have hlt : natValue s < 10 ^ 18 :=
        (natValue_lt hs).trans_le (Nat.pow_le_pow_right (by norm_num) hle)
      exact absurd (h18.trans h) (not_le.mpr hlt)

/-- **The stake requirement compares the integers**, with the exact value of a numeral and a
minimum of at least 1 GRT; and any monotone rounding leaves an indexer in that has enough. -/
theorem validIndexer_integers_iff {web : Subgraphs} {self : Account} {url : String}
    {response : Response IndexerStatus.ResponseData} {data : IndexerStatus.ResponseData}
    {x : IndexerStatus.Indexer} (hr : web.indexerStatus url ⟨self.account⟩ = .ok response)
    (he : response.errors = none) (hd : response.data = some data) (hx : data.indexer = some x)
    (ha : x.allocations ≠ none) (hs : IsNatural x.stakedTokens)
    (hm : IsNatural data.graphNetwork.minimumIndexerStake)
    (h18 : 10 ^ 18 ≤ natValue data.graphNetwork.minimumIndexerStake) :
    (self.validIndexer web (Rounded (id : ℚ → ℚ)) url = .ok true ↔
      natValue data.graphNetwork.minimumIndexerStake ≤ natValue x.stakedTokens) ∧
    ∀ (F : Type) [LinearOrder F] (round : ℚ → F), Monotone round →
      natValue data.graphNetwork.minimumIndexerStake ≤ natValue x.stakedTokens →
        self.validIndexer web (Rounded round) url = .ok true := by
  generalize hmin : data.graphNetwork.minimumIndexerStake = minimum at hm h18
  have hlen : min minimum.toList.length 18 = 18 := min_eq_right (length_of_le_natValue hm h18)
  have hexact := scaled_le_iff hs h18
  constructor
  · have h := validIndexer_of_isNatural (id : ℚ → ℚ) hr he hd hx ha hs (hmin ▸ hm)
    rw [hmin, hlen] at h
    exact h.trans hexact
  · intro F _ round hround hle
    have h := validIndexer_of_isNatural round hr he hd hx ha hs (hmin ▸ hm)
    rw [hmin, hlen] at h
    exact h.mpr (hround (hexact.mpr hle))

/-- A network with 100000 GRT staked of 100000 required. -/
def stakedResponse : Response IndexerStatus.ResponseData where
  data := some ⟨some ⟨"100000000000000000000000", some []⟩, ⟨"100000000000000000000000"⟩⟩
  errors := none

def stakedSubgraphs : Subgraphs where
  setGraphcastIds _ _ := .ok ⟨some ⟨[]⟩, none⟩
  graphAccount _ _ := .ok ⟨some ⟨[]⟩, none⟩
  indexerStatus _ _ := .ok stakedResponse

theorem validIndexer_integers_iff_staked :
    (⟨"0xindexer", "0xindexer"⟩ : Account).validIndexer stakedSubgraphs (Rounded (id : ℚ → ℚ))
      "network" = .ok true := by
  have hr : stakedSubgraphs.indexerStatus "network"
      ⟨(⟨"0xindexer", "0xindexer"⟩ : Account).account⟩ = .ok stakedResponse := rfl
  exact (validIndexer_integers_iff hr rfl rfl rfl (by decide) (by decide +kernel)
    (by decide +kernel) (by decide +kernel)).1.mpr le_rfl

/-! ## The allocations -/

/-- `get_indexer_stake`. -/
def getIndexerStake (web : Subgraphs) (F : Type) [F32 F] (indexerAddress networkSubgraph : String) :
    Outcome QueryError F := do
  let network ← queryNetworkSubgraph web F networkSubgraph indexerAddress
  pure network.indexerStake

/-- The response with another `allocations` field on its indexer, if it has one. -/
def withAllocations (response : Response IndexerStatus.ResponseData)
    (allocations : Option (List IndexerStatus.Allocation)) :
    Response IndexerStatus.ResponseData :=
  { response with
    data := response.data.map fun data =>
      { data with indexer := data.indexer.map fun x => { x with allocations } } }

section Allocations

variable (F : Type) [F32 F]

/-- Two networks give an account the same stake and the same verdicts on it. -/
structure SameStake (web web' : Subgraphs) (url : String) (a : Account) : Prop where
  stake : getIndexerStake web F a.account url = getIndexerStake web' F a.account url
  requirement : (do
      let network ← queryNetworkSubgraph web F url a.account
      pure network.stakeSatisfyRequirement) = (do
      let network ← queryNetworkSubgraph web' F url a.account
      pure network.stakeSatisfyRequirement)
  verdict : a.validIndexer web F url = a.validIndexer web' F url

/-- The response is answered with a non-zero stake, and just one of its own allocations and the
given ones is `null`. -/
def DropsStake (response : Response IndexerStatus.ResponseData)
    (allocations : Option (List IndexerStatus.Allocation)) : Prop :=
  response.errors = none ∧ ∃ data x token minimum, response.data = some data ∧
    data.indexer = some x ∧ x.allocations.isSome ≠ allocations.isSome ∧
    grtGweiStringToF32 F x.stakedTokens = .ok token ∧ token ≠ F32.zero ∧
    grtGweiStringToF32 F data.graphNetwork.minimumIndexerStake = .ok minimum

/-- The stake and the minimum an account gets from a network. -/
def stakes (web : Subgraphs) (url account : String) : Outcome QueryError (F × F) := do
  let network ← queryNetworkSubgraph web F url account
  pure (network.indexerStake, network.graphNetwork.minimumIndexerStake)

/-- The stake read off a response's data. -/
def stakeIn (data : IndexerStatus.ResponseData) : Outcome QueryError F :=
  match data.indexer with
  | none => .ok F32.zero
  | some x =>
    match grtGweiStringToF32 F x.stakedTokens with
    | .ok token => .ok (if x.allocations.isSome then token else F32.zero)
    | .err _ => .ok F32.zero
    | .panic p => .panic p

variable {F}

theorem indexerOf_stake (data : IndexerStatus.ResponseData) (minimum : F) :
    (do let indexer ← indexerOf F data
        pure (Network.indexerStake ⟨indexer, ⟨minimum⟩⟩)) = stakeIn F data := by
  unfold indexerOf stakeIn usableIndexer Network.indexerStake
  cases data.indexer with
  | none => rfl
  | some x =>
    dsimp only
    cases grtGweiStringToF32 F x.stakedTokens with
    | ok token => cases x.allocations <;> rfl
    | err e => rfl
    | panic p => rfl

variable {web web' : Subgraphs} {url : String} {self : Account}
  {response : Response IndexerStatus.ResponseData}
  {allocations : Option (List IndexerStatus.Allocation)}

/-- The stake and the minimum read off a response. -/
theorem stakes_eq {account : String} (hr : web.indexerStatus url ⟨account⟩ = .ok response) :
    stakes F web url account = (do
      checkErrors response.errors
      let data ← Outcome.okOr response.data
        (.parseResponseError s!"Missing response data from network subgraph for {account}")
      let stake ← stakeIn F data
      let minimum ← grtGweiStringToF32 F data.graphNetwork.minimumIndexerStake
      pure (stake, minimum)) := by
  unfold stakes queryNetworkSubgraph
  rw [hr]
  simp only [Outcome.ofExcept, Outcome.ok_bind]
  cases checkErrors response.errors with
  | err e => rfl
  | panic p => rfl
  | ok u =>
    cases response.data with
    | none => rfl
    | some data =>
      simp only [Outcome.okOr, Outcome.ok_bind]
      have hstake := fun minimum => indexerOf_stake (F := F) data minimum
      cases hi : indexerOf F data with
      | err e =>
        rw [← hstake F32.zero, hi]
        rfl
      | panic p =>
        rw [← hstake F32.zero, hi]
        rfl
      | ok indexer =>
        rw [← hstake F32.zero, hi]
        cases grtGweiStringToF32 F data.graphNetwork.minimumIndexerStake <;> rfl

theorem getIndexerStake_eq (account : String) :
    getIndexerStake web F account url = (do let p ← stakes F web url account; pure p.1) := by
  unfold getIndexerStake stakes
  cases queryNetworkSubgraph web F url account <;> rfl

/-- The stake, the requirement and the indexer check depend on `stakes` alone. -/
theorem sameStake_of_stakes (h : stakes F web url self.account = stakes F web' url self.account) :
    SameStake F web web' url self := by
  have hrequirement : ∀ web : Subgraphs, (do
      let network ← queryNetworkSubgraph web F url self.account
      pure network.stakeSatisfyRequirement) =
        (do let p ← stakes F web url self.account; pure (F32.ge p.1 p.2)) := by
    intro web
    unfold stakes
    cases queryNetworkSubgraph web F url self.account <;> rfl
  have hverdict : ∀ web : Subgraphs, self.validIndexer web F url =
      (do let p ← stakes F web url self.account
          pure (F32.ge p.1 p.2) : Outcome QueryError Bool).mapErr .fieldDerivations := by
    intro web
    unfold stakes Account.validIndexer
    cases queryNetworkSubgraph web F url self.account <;> rfl
  refine ⟨?_, ?_, ?_⟩
  · rw [getIndexerStake_eq, getIndexerStake_eq, h]
  · rw [hrequirement, hrequirement, h]
  · rw [hverdict, hverdict, h]

/-- The data with other allocations gives the same stake, unless `null` drops a non-zero one. -/
theorem stakeIn_allocations {data : IndexerStatus.ResponseData} {x : IndexerStatus.Indexer}
    (hx : data.indexer = some x) (h : ∀ token, grtGweiStringToF32 F x.stakedTokens = .ok token →
      token ≠ F32.zero → x.allocations.isSome = allocations.isSome) :
    stakeIn F { data with indexer := some { x with allocations } } = stakeIn F data := by
  unfold stakeIn
  simp only [hx]
  cases ht : grtGweiStringToF32 F x.stakedTokens with
  | err e => rfl
  | panic p => rfl
  | ok token =>
    dsimp only
    by_cases hz : token = F32.zero
    · subst hz
      simp only [ite_self]
    · rw [h token ht hz]

/-- Without a minimum to compare with, the stake does not matter. -/
theorem stakeIn_allocations_of_failed {β : Type} {data : IndexerStatus.ResponseData}
    {x : IndexerStatus.Indexer} (hx : data.indexer = some x) (failed : Outcome QueryError β) :
    (do let _ ← stakeIn F { data with indexer := some { x with allocations } }
        failed) = (do let _ ← stakeIn F data; failed) := by
  unfold stakeIn
  simp only [hx]
  cases grtGweiStringToF32 F x.stakedTokens <;> rfl

theorem getIndexerStake_of_parsed {account : String} {data : IndexerStatus.ResponseData}
    {x : IndexerStatus.Indexer} {token minimum : F}
    (hr : web.indexerStatus url ⟨account⟩ = .ok response) (he : response.errors = none)
    (hd : response.data = some data) (hx : data.indexer = some x)
    (ht : grtGweiStringToF32 F x.stakedTokens = .ok token)
    (hm : grtGweiStringToF32 F data.graphNetwork.minimumIndexerStake = .ok minimum) :
    getIndexerStake web F account url =
      .ok (if x.allocations.isSome then token else F32.zero) := by
  rw [getIndexerStake_eq, stakes_eq hr]
  simp only [he, checkErrors, hd, Outcome.okOr, stakeIn, hx, ht, hm, Outcome.ok_bind,
    Outcome.pure_def]

theorem withAllocations_data {data : IndexerStatus.ResponseData} {x : IndexerStatus.Indexer}
    (hd : response.data = some data) (hx : data.indexer = some x) :
    (withAllocations response allocations).data =
      some { data with indexer := some { x with allocations } } := by
  simp only [withAllocations, hd, Option.map_some, hx]

/-- Where no stake is dropped, both responses give the same one. -/
theorem stakes_of_not_dropsStake (hr : web.indexerStatus url ⟨self.account⟩ = .ok response)
    (hr' : web'.indexerStatus url ⟨self.account⟩ = .ok (withAllocations response allocations))
    (hdrop : ¬ DropsStake F response allocations) :
    stakes F web url self.account = stakes F web' url self.account := by
  have herrors : (withAllocations response allocations).errors = response.errors := rfl
  rw [stakes_eq hr, stakes_eq hr', herrors]
  cases hc : checkErrors response.errors with
  | err e => rfl
  | panic p => rfl
  | ok u =>
    have he := checkErrors_eq_ok.mp hc
    cases hd : response.data with
    | none => simp only [withAllocations, hd, Option.map_none]
    | some data =>
      cases hx : data.indexer with
      | none =>
        simp only [withAllocations, hd, Option.map_some, hx, Option.map_none, Outcome.ok_bind,
          Outcome.okOr, stakeIn]
      | some x =>
        rw [withAllocations_data hd hx]
        simp only [Outcome.ok_bind, Outcome.okOr]
        cases hm : grtGweiStringToF32 F data.graphNetwork.minimumIndexerStake with
        | ok minimum =>
          rw [stakeIn_allocations hx fun token ht hz => ?_]
          by_contra hne
          exact hdrop ⟨he, data, x, token, minimum, hd, hx, hne, ht, hz, hm⟩
        | err e => exact (stakeIn_allocations_of_failed hx (.err e)).symm
        | panic p => exact (stakeIn_allocations_of_failed hx (.panic p)).symm

/-- **The allocations matter by being `null`.** Two responses that differ in the indexer's
allocations alone give the same stake and verdicts, unless a non-zero stake is dropped with the
`null` allocations of one of them. -/
theorem sameStake_iff (hr : web.indexerStatus url ⟨self.account⟩ = .ok response)
    (hr' : web'.indexerStatus url ⟨self.account⟩ = .ok (withAllocations response allocations)) :
    SameStake F web web' url self ↔ ¬ DropsStake F response allocations := by
  constructor
  · rintro h ⟨he, data, x, token, minimum, hd, hx, hne, ht, hnz, hm⟩
    have hstake := getIndexerStake_of_parsed hr he hd hx ht hm
    have hstake' := getIndexerStake_of_parsed hr' he (withAllocations_data hd hx) rfl ht hm
    have heq := Outcome.ok.inj (hstake.symm.trans (h.stake.trans hstake'))
    cases hs : x.allocations.isSome <;> cases hs' : allocations.isSome <;>
      simp [hs, hs'] at hne heq
    · exact hnz heq.symm
    · exact hnz heq
  · intro hdrop
    exact sameStake_of_stakes (stakes_of_not_dropsStake hr hr' hdrop)

end Allocations

/-- The same network with `null` allocations. -/
def nullAllocations : Subgraphs where
  setGraphcastIds _ _ := .ok ⟨some ⟨[]⟩, none⟩
  graphAccount _ _ := .ok ⟨some ⟨[]⟩, none⟩
  indexerStatus _ _ := .ok (withAllocations stakedResponse none)

/-- With `null` allocations the staked indexer fails the requirement. -/
theorem nullAllocations_drop :
    ¬ SameStake (Rounded (id : ℚ → ℚ)) stakedSubgraphs nullAllocations "network"
      ⟨"0xindexer", "0xindexer"⟩ := by
  intro h
  have hok : (⟨"0xindexer", "0xindexer"⟩ : Account).validIndexer stakedSubgraphs
      (Rounded (id : ℚ → ℚ)) "network" = .ok true := by decide +kernel
  have hnull : (⟨"0xindexer", "0xindexer"⟩ : Account).validIndexer nullAllocations
      (Rounded (id : ℚ → ℚ)) "network" = .ok false := by decide +kernel
  exact absurd (hok.symm.trans (h.verdict.trans hnull)) (by simp)

/-- The same network with an allocation. -/
def oneAllocation : Subgraphs where
  setGraphcastIds _ _ := .ok ⟨some ⟨[]⟩, none⟩
  graphAccount _ _ := .ok ⟨some ⟨[]⟩, none⟩
  indexerStatus _ _ := .ok (withAllocations stakedResponse
    (some [⟨⟨"Qmdsp5yyFzMVUdSv5N9KndTisjXHrGDEXNaBxjyCTvDfPs"⟩⟩]))

theorem sameStake_iff_oneAllocation :
    SameStake (Rounded (id : ℚ → ℚ)) stakedSubgraphs oneAllocation "network"
      ⟨"0xindexer", "0xindexer"⟩ := by
  have hr : stakedSubgraphs.indexerStatus "network"
      ⟨(⟨"0xindexer", "0xindexer"⟩ : Account).account⟩ = .ok stakedResponse := rfl
  have hr' : oneAllocation.indexerStatus "network"
      ⟨(⟨"0xindexer", "0xindexer"⟩ : Account).account⟩ = .ok (withAllocations stakedResponse
        (some [⟨⟨"Qmdsp5yyFzMVUdSv5N9KndTisjXHrGDEXNaBxjyCTvDfPs"⟩⟩])) := rfl
  refine (sameStake_iff hr hr').mpr ?_
  rintro ⟨-, data, x, _, _, hd, hx, hne, -⟩
  obtain rfl := Option.some.inj hd
  obtain rfl := Option.some.inj hx
  exact hne rfl

end GraphcastSdk
